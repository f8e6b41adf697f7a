/-
Bodies of blocks. The bodies that a run writes are well-formed: keys and keywords are identifiers,
references are identifiers joined with dots, and no list is empty. A body that holds no references is
plain; its keys come from a fixed list.
-/
import CloudCanvas.Proofs.Hcl.Reference

namespace CloudCanvas.Hcl

/-! ## Well-formed bodies -/

/-- Expressions whose text tells them apart: references are references, and no list is empty. -/
def Expr.WellFormed : Expr → Prop
  | string _ | number _ | boolean _ => True
  | strings items => items ≠ []
  | reference address => IsReference address
  | references addresses => addresses ≠ [] ∧ ∀ address ∈ addresses, IsReference address

mutual

/-- Items whose keys and keywords are identifiers and whose expressions are well-formed. -/
def Item.WellFormed : Item → Prop
  | .attribute key value => isIdentifier key.toList = true ∧ value.WellFormed
  | .block keyword _ body => isIdentifier keyword.toList = true ∧ BodyWellFormed body
  | .entries key _ => isIdentifier key.toList = true
  | .blank => True

/-- Bodies of well-formed items. -/
def BodyWellFormed : List Item → Prop
  | [] => True
  | item :: rest => item.WellFormed ∧ BodyWellFormed rest

end

/-- Blocks with an identifier as keyword and a well-formed body. -/
def Block.WellFormed (block : Block) : Prop :=
  isIdentifier block.keyword.toList = true ∧ BodyWellFormed block.body

theorem bodyWellFormed_iff {body : List Item} : BodyWellFormed body ↔ ∀ item ∈ body, item.WellFormed := by
  induction body with
  | nil => simp [BodyWellFormed]
  | cons item rest ih => simp [BodyWellFormed, ih]

theorem bodyWellFormed_append {body rest : List Item} :
    BodyWellFormed (body ++ rest) ↔ BodyWellFormed body ∧ BodyWellFormed rest := by
  simp only [bodyWellFormed_iff, List.mem_append]
  constructor
  · intro h
    exact ⟨fun item hi => h item (.inl hi), fun item hi => h item (.inr hi)⟩
  · rintro ⟨hb, hr⟩ item (hi | hi)
    · exact hb item hi
    · exact hr item hi

/-! ## The values of a key -/

mutual

/-- The values of a key among the attributes of an item, those in nested blocks included. -/
def Item.values (key : String) : Item → List Expr
  | .attribute k value => if k = key then [value] else []
  | .block _ _ body => bodyValues key body
  | .entries .. | .blank => []

/-- The values of a key among the attributes of a body, at any depth and in order. -/
def bodyValues (key : String) : List Item → List Expr
  | [] => []
  | item :: rest => item.values key ++ bodyValues key rest

end

/-- The values of a key among the attributes of a block, at any depth and in order. -/
def Block.values (key : String) (block : Block) : List Expr :=
  bodyValues key block.body

theorem bodyValues_append (key : String) (body rest : List Item) :
    bodyValues key (body ++ rest) = bodyValues key body ++ bodyValues key rest := by
  induction body with
  | nil => rfl
  | cons item body ih => simp only [List.cons_append, bodyValues, ih, List.append_assoc]

/-! ## The maps of a key -/

/-- The map at a key, if the item is one. -/
def Item.map? (key : String) : Item → Option (List (String × String))
  | .entries k pairs => if k = key then some pairs else none
  | .attribute .. | .block .. | .blank => none

/-- The maps at a key in the body of a block, in order; those of nested blocks do not count. -/
def Block.maps (key : String) (block : Block) : List (List (String × String)) :=
  block.body.filterMap (Item.map? key)

mutual

/-- The maps of an item, each under its key, those in nested blocks included. -/
def Item.allMaps : Item → List (String × List (String × String))
  | .entries key pairs => [(key, pairs)]
  | .block _ _ body => bodyMaps body
  | .attribute .. | .blank => []

/-- The maps of a body, each under its key, at any depth and in order. -/
def bodyMaps : List Item → List (String × List (String × String))
  | [] => []
  | item :: rest => item.allMaps ++ bodyMaps rest

end

/-- The maps of a block, each under its key, at any depth and in order. -/
def Block.allMaps (block : Block) : List (String × List (String × String)) :=
  bodyMaps block.body

theorem bodyMaps_append (body rest : List Item) : bodyMaps (body ++ rest) = bodyMaps body ++ bodyMaps rest := by
  induction body with
  | nil => rfl
  | cons item body ih => simp only [List.cons_append, bodyMaps, ih, List.append_assoc]

/-! ## The attributes and blocks of a body itself -/

/-- The value at a key, if the item is an attribute of that key. -/
def Item.value? (key : String) : Item → Option Expr
  | .attribute k value => if k = key then some value else none
  | .block .. | .entries .. | .blank => none

/-- The values of a key among the attributes in the body of a block, in order; those in nested blocks do not
count. -/
def Block.attributes (key : String) (block : Block) : List Expr :=
  block.body.filterMap (Item.value? key)

/-- The block, if the item is one with the keyword. -/
def Item.block? (keyword : String) : Item → Option Block
  | .block k labels body => if k = keyword then some ⟨k, labels, body⟩ else none
  | .attribute .. | .entries .. | .blank => none

/-- The blocks of a keyword in the body of a block, in order; those in nested blocks do not count. -/
def Block.blocks (keyword : String) (block : Block) : List Block :=
  block.body.filterMap (Item.block? keyword)

/-- Items that are attributes. -/
def Item.IsAttribute : Item → Prop
  | .attribute .. => True
  | .block .. | .entries .. | .blank => False

/-- Among attributes alone there is nothing nested. -/
theorem bodyValues_of_isAttribute {body : List Item} (h : ∀ item ∈ body, item.IsAttribute) (key : String) :
    bodyValues key body = body.filterMap (Item.value? key) := by
  induction body with
  | nil => rfl
  | cons item rest ih =>
    have hrest := ih fun item hi => h item (List.mem_cons_of_mem _ hi)
    cases item with
    | «attribute» k value =>
      rw [bodyValues, Item.values, hrest, List.filterMap_cons, Item.value?]
      split <;> rfl
    | block keyword labels body => cases h _ (List.mem_cons_self ..)
    | entries k pairs => cases h _ (List.mem_cons_self ..)
    | blank => cases h _ (List.mem_cons_self ..)

theorem filterMap_block?_of_isAttribute {body : List Item} (h : ∀ item ∈ body, item.IsAttribute)
    (keyword : String) : body.filterMap (Item.block? keyword) = [] := by
  rw [List.filterMap_eq_nil_iff]
  intro item hi
  cases item with
  | «attribute» k value => rfl
  | _ => cases h _ hi

/-! ## Plain bodies -/

/-- Expressions that hold no reference and no empty list. -/
def Expr.IsLiteral : Expr → Prop
  | string _ | number _ | boolean _ => True
  | strings items => items ≠ []
  | reference _ | references _ => False

theorem Expr.IsLiteral.wellFormed {value : Expr} (h : value.IsLiteral) : value.WellFormed := by
  cases value with
  | strings items => exact h
  | string s | number n | boolean b => trivial
  | reference a | references as => cases h

mutual

/-- Attributes with a key from a list and a literal value, and blocks of such attributes. -/
def Item.Plain (keys : List String) : Item → Prop
  | .attribute key value => key ∈ keys ∧ value.IsLiteral
  | .block keyword _ body => isIdentifier keyword.toList = true ∧ BodyPlain keys body
  | .entries .. | .blank => False

/-- Bodies of such items. -/
def BodyPlain (keys : List String) : List Item → Prop
  | [] => True
  | item :: rest => item.Plain keys ∧ BodyPlain keys rest

end

theorem bodyPlain_iff {keys : List String} {body : List Item} :
    BodyPlain keys body ↔ ∀ item ∈ body, item.Plain keys := by
  induction body with
  | nil => simp [BodyPlain]
  | cons item rest ih => simp [BodyPlain, ih]

theorem bodyPlain_append {keys : List String} {body rest : List Item} :
    BodyPlain keys (body ++ rest) ↔ BodyPlain keys body ∧ BodyPlain keys rest := by
  simp only [bodyPlain_iff, List.mem_append]
  constructor
  · intro h
    exact ⟨fun item hi => h item (.inl hi), fun item hi => h item (.inr hi)⟩
  · rintro ⟨hb, hr⟩ item (hi | hi)
    · exact hb item hi
    · exact hr item hi

theorem BodyPlain.filterMap_map? {keys : List String} {body : List Item} (h : BodyPlain keys body)
    (key : String) : body.filterMap (Item.map? key) = [] := by
  rw [List.filterMap_eq_nil_iff]
  intro item hi
  have hplain := bodyPlain_iff.1 h item hi
  cases item with
  | entries k pairs => cases hplain
  | _ => rfl

mutual

theorem Item.Plain.wellFormed {keys : List String} (hk : ∀ key ∈ keys, isIdentifier key.toList = true) :
    ∀ {item : Item}, item.Plain keys → item.WellFormed
  | .attribute key _, h => ⟨hk key h.1, h.2.wellFormed⟩
  | .block _ _ _, h => ⟨h.1, BodyPlain.wellFormed hk h.2⟩
  | .entries .., h => by cases h
  | .blank, h => by cases h

theorem BodyPlain.wellFormed {keys : List String} (hk : ∀ key ∈ keys, isIdentifier key.toList = true) :
    ∀ {body : List Item}, BodyPlain keys body → BodyWellFormed body
  | [], _ => trivial
  | _ :: _, h => ⟨h.1.wellFormed hk, BodyPlain.wellFormed hk h.2⟩

end

mutual

/-- The values of plain items are literals, and no other key has a value. -/
theorem Item.Plain.values {keys : List String} (key : String) :
    ∀ {item : Item}, item.Plain keys → ∀ value ∈ item.values key, key ∈ keys ∧ value.IsLiteral
  | .attribute k v, h, value, hv => by
    simp only [Item.values] at hv
    split at hv
    · rename_i he
      rw [List.mem_singleton] at hv
      rw [hv, ← he]; exact h
    · cases hv
  | .block _ _ body, h, value, hv => BodyPlain.values key h.2 value hv
  | .entries .., h, _, _ => by cases h
  | .blank, h, _, _ => by cases h

theorem BodyPlain.values {keys : List String} (key : String) :
    ∀ {body : List Item}, BodyPlain keys body →
      ∀ value ∈ bodyValues key body, key ∈ keys ∧ value.IsLiteral
  | [], _, _, hv => by cases hv
  | item :: rest, h, value, hv => by
    simp only [bodyValues, List.mem_append] at hv
    rcases hv with hv | hv
    · exact h.1.values key value hv
    · exact BodyPlain.values key h.2 value hv

end

mutual

/-- A plain body holds no maps. -/
theorem Item.Plain.allMaps {keys : List String} : ∀ {item : Item}, item.Plain keys → item.allMaps = []
  | .attribute .., _ => rfl
  | .block _ _ _, h => BodyPlain.bodyMaps h.2
  | .entries .., h => by cases h
  | .blank, _ => rfl

theorem BodyPlain.bodyMaps {keys : List String} : ∀ {body : List Item}, BodyPlain keys body → bodyMaps body = []
  | [], _ => rfl
  | item :: rest, h => by
    rw [Hcl.bodyMaps, h.1.allMaps, BodyPlain.bodyMaps h.2, List.append_nil]

end

end CloudCanvas.Hcl
