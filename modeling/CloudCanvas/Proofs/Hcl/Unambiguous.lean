/-
Texts are unambiguous: the text of well-formed blocks determines the blocks, as far as numbers are taken
by their text.

The induction is over the items of a body, on the list of their lines with more lines behind it. The first
line of an item tells which sort of item begins and what it is called; a body ends at the first line that
is a closing brace one step further out, with which no item begins.
-/
import CloudCanvas.Proofs.Hcl.Layout
import CloudCanvas.Proofs.Hcl.Token
import Mathlib.Data.List.Forall2

namespace CloudCanvas.Hcl

open CloudCanvas.Text

/-! ## Agreement -/

mutual

/-- Items that are the same but for the representation of numbers. -/
inductive Item.Agree : Item → Item → Prop
  | attribute (key : String) {value other : Expr} (h : value.Agree other) :
    Item.Agree (.attribute key value) (.attribute key other)
  | block (keyword : String) (labels : List String) {body other : List Item} (h : BodyAgree body other) :
    Item.Agree (.block keyword labels body) (.block keyword labels other)
  | entries (key : String) (pairs : List (String × String)) :
    Item.Agree (.entries key pairs) (.entries key pairs)
  | blank : Item.Agree .blank .blank

/-- Bodies whose items agree one by one. -/
inductive BodyAgree : List Item → List Item → Prop
  | nil : BodyAgree [] []
  | cons {item other : Item} {body others : List Item} (h : item.Agree other) (hb : BodyAgree body others) :
    BodyAgree (item :: body) (other :: others)

end

/-- Blocks that are the same but for the representation of numbers. -/
structure Block.Agree (block other : Block) : Prop where
  keyword : block.keyword = other.keyword
  labels : block.labels = other.labels
  body : BodyAgree block.body other.body

mutual

theorem Item.Agree.lines_eq : ∀ {item other : Item}, item.Agree other →
    ∀ depth, item.lines depth = other.lines depth
  | _, _, .attribute key h, depth => by simp only [Item.lines, h.text_eq]
  | _, _, .block keyword labels h, depth => by simp only [Item.lines, BodyAgree.lines_eq h]
  | _, _, .entries key pairs, depth => rfl
  | _, _, .blank, depth => rfl

theorem BodyAgree.lines_eq : ∀ {body others : List Item}, BodyAgree body others →
    ∀ depth, bodyLines depth body = bodyLines depth others
  | _, _, .nil, depth => rfl
  | _, _, .cons h hb, depth => by simp only [bodyLines, h.lines_eq depth, BodyAgree.lines_eq hb depth]

end

theorem Block.Agree.text_eq {block other : Block} (h : block.Agree other) : block.text = other.text := by
  have hitem : block.toItem.Agree other.toItem := by
    unfold Block.toItem
    rw [h.keyword, h.labels]
    exact .block _ _ h.body
  unfold Block.text Block.lines
  rw [hitem.lines_eq]

/-! ## First lines -/

/-- The first line of an item. -/
def Item.first (depth : Nat) : Item → String
  | .attribute key value => indent depth ++ key ++ " = " ++ value.text
  | .block keyword labels _ => indent depth ++ header keyword labels
  | .entries key _ => indent depth ++ key ++ " = \x7b"
  | .blank => ""

/-- The line that ends a body. -/
def closingLine (depth : Nat) : String :=
  indent depth ++ "\x7d"

/-- The lines of an item after the first. -/
def Item.inner (depth : Nat) : Item → List String
  | .attribute .. | .blank => []
  | .block _ _ body => bodyLines (depth + 1) body ++ [closingLine depth]
  | .entries _ pairs => pairs.map (fun pair => indent (depth + 1) ++ entryLine pair) ++ [closingLine depth]

theorem Item.lines_eq_cons (depth : Nat) : ∀ item : Item,
    item.lines depth = item.first depth :: item.inner depth
  | .attribute .. | .entries .. | .blank => rfl
  | .block .. => by simp only [Item.lines, Item.first, Item.inner, closingLine, List.cons_append]

/-- The key or keyword of an item and what follows it on the first line. -/
def Item.head : Item → Option (String × List Char)
  | .attribute key value => some (key, " = ".toList ++ value.text.toList)
  | .block keyword labels _ =>
    some (keyword, ' ' :: (labels.flatMap (fun label => (quote label).toList ++ [' ']) ++ ['\x7b']))
  | .entries key _ => some (key, " = \x7b".toList)
  | .blank => none

theorem Item.toList_first (depth : Nat) : ∀ {item : Item} {word : String} {tail : List Char},
    item.head = some (word, tail) →
      (item.first depth).toList = (indent depth).toList ++ (word.toList ++ tail)
  | .attribute .., _, _, rfl => by simp only [first, String.toList_append, List.append_assoc]
  | .block .., _, _, rfl => by simp only [first, String.toList_append, toList_header]
  | .entries .., _, _, rfl => by simp only [first, String.toList_append, List.append_assoc]

theorem Item.first_of_head (depth : Nat) {item : Item} (h : item.head = none) : item.first depth = "" := by
  cases item
  case blank => rfl
  all_goals cases h

/-- The word is an identifier, and what follows it begins with a space. -/
theorem Item.WellFormed.of_head : ∀ {item : Item}, item.WellFormed → ∀ {word : String} {tail : List Char},
    item.head = some (word, tail) → isIdentifier word.toList = true ∧ Stops isIdentifierRest tail
  | .attribute .., h, _, _, rfl => ⟨h.1, stops_cons.2 (by decide)⟩
  | .block .., h, _, _, rfl => ⟨h.1, stops_cons.2 (by decide)⟩
  | .entries .., h, _, _, rfl => ⟨h, stops_cons.2 (by decide)⟩

/-- A line with a word is not empty. -/
theorem Item.first_ne_empty {item : Item} (h : item.WellFormed) {word : String} {tail : List Char}
    (hh : item.head = some (word, tail)) (depth : Nat) : item.first depth ≠ "" := by
  intro he
  obtain ⟨c, t, hw, -⟩ := exists_cons_of_isIdentifier (h.of_head hh).1
  have hchars := congrArg String.toList he
  rw [Item.toList_first depth hh, hw] at hchars
  simp at hchars

theorem Item.head_eq_of_first {item other : Item} (h : item.WellFormed) (ho : other.WellFormed) {depth : Nat}
    (he : item.first depth = other.first depth) : item.head = other.head := by
  cases hi : item.head with
  | none =>
    cases hj : other.head with
    | none => rfl
    | some head => exact absurd (he ▸ Item.first_of_head depth hi) (other.first_ne_empty ho hj depth)
  | some head =>
    cases hj : other.head with
    | none => exact absurd (he ▸ Item.first_of_head depth hj) (item.first_ne_empty h hi depth)
    | some head' =>
      obtain ⟨word, tail⟩ := head
      obtain ⟨word', tail'⟩ := head'
      have hchars := congrArg String.toList he
      rw [Item.toList_first depth hi, Item.toList_first depth hj] at hchars
      obtain ⟨rfl, rfl⟩ := identifier_append_inj (h.of_head hi).1 (ho.of_head hj).1 (h.of_head hi).2
        (ho.of_head hj).2 (List.append_cancel_left hchars)
      rfl

theorem toList_indent_succ (depth : Nat) :
    (indent (depth + 1)).toList = (indent depth).toList ++ [' ', ' '] := by
  unfold indent
  rw [String.toList_ofList, String.toList_ofList, Nat.mul_succ, ← List.replicate_append_replicate]
  rfl

/-- A line one step further in is not the closing brace of the body around it. -/
theorem indent_append_ne_closingLine (depth : Nat) (text : String) :
    indent (depth + 1) ++ text ≠ closingLine depth := by
  intro he
  have hchars := congrArg String.toList he
  rw [closingLine, String.toList_append, String.toList_append, toList_indent_succ, List.append_assoc] at hchars
  cases List.append_cancel_left hchars

/-- No item begins like the closing brace of the body around it. -/
theorem Item.first_ne_closingLine (depth : Nat) : ∀ item : Item, item.first (depth + 1) ≠ closingLine depth
  | .attribute key value => by
    simp only [first, String.append_assoc]
    exact indent_append_ne_closingLine depth _
  | .block keyword labels _ => indent_append_ne_closingLine depth _
  | .entries key _ => by
    simp only [first, String.append_assoc]
    exact indent_append_ne_closingLine depth _
  | .blank => by
    intro he
    have hchars := congrArg String.toList he
    simp [first, closingLine] at hchars

/-! ## What begins with a line -/

/-- The sorts of items that begin with a word. -/
inductive Opening
  | attributed
  | block
  | entries
  deriving DecidableEq

/-- The sort of an item, if it begins with a word. -/
def Item.opening : Item → Option Opening
  | .attribute .. => some .attributed
  | .block .. => some .block
  | .entries .. => some .entries
  | .blank => none

/-- The sort of an item as what follows its word tells it. -/
def Opening.ofTail (tail : List Char) : Opening :=
  if tail = " = \x7b".toList then .entries
  else if tail.take 2 = " =".toList then .attributed
  else .block

theorem Expr.WellFormed.text_ne_brace {value : Expr} (h : value.WellFormed) : value.text ≠ "\x7b" := by
  intro he
  have hform := h.ofText_text
  have hbrace : Form.ofText "\x7b".toList = .reference := by decide
  rw [he, hbrace] at hform
  cases value with
  | reference address =>
    obtain ⟨c, t, ha, hc⟩ := IsReference.exists_cons h
    rw [show address = "\x7b" from he] at ha
    obtain ⟨rfl, -⟩ := List.cons.inj ha
    exact absurd hc (by decide)
  | _ => cases hform

/-- What follows the word tells the sort of an item: an equals sign stands in attributes and maps only, and
no expression is an opening brace. -/
theorem Item.WellFormed.opening_eq : ∀ {item : Item}, item.WellFormed →
    item.opening = item.head.map fun head => Opening.ofTail head.2
  | .attribute key value, h => by
    have hne : " = ".toList ++ value.text.toList ≠ " = \x7b".toList := by
      intro he
      refine h.2.text_ne_brace (String.toList_inj.1 ?_)
      exact (List.append_right_inj " = ".toList).1 he
    have htake : (" = ".toList ++ value.text.toList).take 2 = " =".toList := rfl
    simp only [opening, head, Option.map_some, Opening.ofTail]
    rw [if_neg hne, if_pos htake]
  | .block keyword labels _, _ => by
    obtain ⟨c, t, htail, hc⟩ : ∃ c t,
        labels.flatMap (fun label => (quote label).toList ++ [' ']) ++ ['\x7b'] = c :: t ∧ c ≠ '=' := by
      cases labels with
      | nil => exact ⟨'\x7b', [], rfl, by decide⟩
      | cons label labels =>
        rw [List.flatMap_cons, toList_quote]
        exact ⟨'"', _, rfl, by decide⟩
    have hmap : ' ' :: c :: t ≠ " = \x7b".toList := fun he => hc (List.cons.inj (List.cons.inj he).2).1
    have hattribute : (' ' :: c :: t).take 2 ≠ " =".toList := fun he =>
      hc (List.cons.inj (List.cons.inj he).2).1
    simp only [opening, head, Option.map_some, Opening.ofTail, htail]
    rw [if_neg hmap, if_neg hattribute]
  | .entries .., _ => rfl
  | .blank, _ => rfl

/-! ## Items one after another -/

/-- Items with the same first line are of the same sort, and the lines after it are the same. -/
theorem Item.inner_of_lines {item other : Item} {depth : Nat} {rest rest' : List String}
    (h : item.WellFormed) (ho : other.WellFormed)
    (he : item.lines depth ++ rest = other.lines depth ++ rest') :
    item.head = other.head ∧ item.opening = other.opening ∧
      item.inner depth ++ rest = other.inner depth ++ rest' := by
  rw [item.lines_eq_cons, other.lines_eq_cons] at he
  obtain ⟨hfirst, hinner⟩ := List.cons.inj he
  have hhead := head_eq_of_first h ho hfirst
  exact ⟨hhead, by rw [h.opening_eq, ho.opening_eq, hhead], hinner⟩

/-- The lines of map entries end at the closing brace of the map. -/
theorem entries_of_lines {pairs others : List (String × String)} {depth : Nat} {rest rest' : List String}
    (h : pairs.map (fun pair => indent (depth + 1) ++ entryLine pair) ++ closingLine depth :: rest =
      others.map (fun pair => indent (depth + 1) ++ entryLine pair) ++ closingLine depth :: rest') :
    pairs = others ∧ rest = rest' := by
  rw [List.map_eq_flatMap, List.map_eq_flatMap] at h
  refine flatMap_append_inj (p := fun _ => false) (C := fun _ => True) (fun pair _ => ?_)
    (fun pair other rest rest' _ _ _ _ he => ?_) rfl (fun _ _ => trivial) (fun _ _ => trivial) h
  · exact ⟨_, [], rfl, indent_append_ne_closingLine depth _, rfl⟩
  · obtain ⟨hline, hrest⟩ := List.cons.inj he
    have hchars := congrArg String.toList hline
    rw [String.toList_append, String.toList_append] at hchars
    exact ⟨entryLine_inj (String.toList_inj.1 (List.append_cancel_left hchars)), hrest⟩

mutual

/-- The lines of an item end with the item, whatever comes behind them. -/
theorem Item.agree_of_lines : ∀ {item other : Item} {depth : Nat} {rest rest' : List String},
    item.WellFormed → other.WellFormed → item.lines depth ++ rest = other.lines depth ++ rest' →
      item.Agree other ∧ rest = rest'
  | .attribute key value, other, depth, rest, rest', h, ho, he => by
    obtain ⟨hhead, hopening, hrest⟩ := Item.inner_of_lines h ho he
    rcases other with ⟨key', value'⟩ | ⟨keyword', labels', body'⟩ | ⟨key', pairs'⟩ | _
    · obtain ⟨rfl, htail⟩ := Prod.mk.inj (Option.some.inj hhead)
      have htext := String.toList_inj.1 ((List.append_right_inj " = ".toList).1 htail)
      exact ⟨.attribute key (Expr.agree_of_text_eq h.2 ho.2 htext), hrest⟩
    all_goals cases hopening
  | .block keyword labels body, other, depth, rest, rest', h, ho, he => by
    obtain ⟨hhead, hopening, hinner⟩ := Item.inner_of_lines h ho he
    rcases other with ⟨key', value'⟩ | ⟨keyword', labels', body'⟩ | ⟨key', pairs'⟩ | _
    · cases hopening
    · have hheader : header keyword labels = header keyword' labels' := by
        rw [← String.toList_inj, toList_header, toList_header]
        obtain ⟨rfl, htail⟩ := Prod.mk.inj (Option.some.inj hhead)
        rw [htail]
      obtain ⟨rfl, rfl⟩ := header_inj h.1 ho.1 hheader
      simp only [Item.inner, List.append_assoc, List.singleton_append] at hinner
      obtain ⟨hbody, hrest⟩ := bodyAgree_of_lines h.2 ho.2 hinner
      exact ⟨.block keyword labels hbody, hrest⟩
    all_goals cases hopening
  | .entries key pairs, other, depth, rest, rest', h, ho, he => by
    obtain ⟨hhead, hopening, hinner⟩ := Item.inner_of_lines h ho he
    rcases other with ⟨key', value'⟩ | ⟨keyword', labels', body'⟩ | ⟨key', pairs'⟩ | _
    · cases hopening
    · cases hopening
    · obtain ⟨rfl, -⟩ := Prod.mk.inj (Option.some.inj hhead)
      simp only [Item.inner, List.append_assoc, List.singleton_append] at hinner
      obtain ⟨rfl, hrest⟩ := entries_of_lines hinner
      exact ⟨.entries key pairs, hrest⟩
    · cases hopening
  | .blank, other, depth, rest, rest', h, ho, he => by
    obtain ⟨-, hopening, hrest⟩ := Item.inner_of_lines h ho he
    rcases other with ⟨key', value'⟩ | ⟨keyword', labels', body'⟩ | ⟨key', pairs'⟩ | _
    · cases hopening
    · cases hopening
    · cases hopening
    · exact ⟨.blank, hrest⟩

/-- The lines of a body end at the closing brace of the body. -/
theorem bodyAgree_of_lines : ∀ {body others : List Item} {depth : Nat} {rest rest' : List String},
    BodyWellFormed body → BodyWellFormed others →
      bodyLines (depth + 1) body ++ closingLine depth :: rest =
        bodyLines (depth + 1) others ++ closingLine depth :: rest' →
      BodyAgree body others ∧ rest = rest'
  | [], [], depth, rest, rest', _, _, he => ⟨.nil, (List.cons.inj he).2⟩
  | [], other :: others, depth, rest, rest', _, _, he => by
    simp only [bodyLines, Item.lines_eq_cons, List.nil_append, List.cons_append] at he
    exact absurd (List.cons.inj he).1.symm (other.first_ne_closingLine depth)
  | item :: body, [], depth, rest, rest', _, _, he => by
    simp only [bodyLines, Item.lines_eq_cons, List.nil_append, List.cons_append] at he
    exact absurd (List.cons.inj he).1 (item.first_ne_closingLine depth)
  | item :: body, other :: others, depth, rest, rest', h, ho, he => by
    rw [bodyLines, bodyLines, List.append_assoc, List.append_assoc] at he
    obtain ⟨hitem, hmore⟩ := Item.agree_of_lines h.1 ho.1 he
    obtain ⟨hbody, hrest⟩ := bodyAgree_of_lines h.2 ho.2 hmore
    exact ⟨.cons hitem hbody, hrest⟩

end

/-! ## Blocks one after another -/

theorem Block.WellFormed.toItem {block : Block} (h : block.WellFormed) : block.toItem.WellFormed :=
  h

/-- The lines of blocks with an empty line in front of each. -/
def spacedLines (blocks : List Block) : List String :=
  blocks.flatMap fun block => "" :: block.lines

theorem cons_intercalate_lines {blocks : List Block} (h : blocks ≠ []) :
    "" :: [""].intercalate (blocks.map Block.lines) = spacedLines blocks := by
  induction blocks with
  | nil => exact absurd rfl h
  | cons block rest ih =>
    unfold spacedLines at ih ⊢
    by_cases hr : rest = []
    · subst hr; simp
    · rw [List.map_cons, List.intercalate_cons_of_ne_nil (by simpa using hr), List.append_assoc,
        List.singleton_append, ih hr, List.flatMap_cons, List.cons_append]

theorem cons_lines_text {blocks : List Block} (hne : blocks ≠ []) (h : ∀ block ∈ blocks, block.WellFormed) :
    "" :: lines ("\n\n".intercalate (blocks.map Block.text)) = spacedLines blocks := by
  rw [lines_intercalate_text hne h, cons_intercalate_lines hne]

theorem agree_of_spacedLines {blocks others : List Block} (h : ∀ block ∈ blocks, block.WellFormed)
    (ho : ∀ block ∈ others, block.WellFormed) (he : spacedLines blocks = spacedLines others) :
    List.Forall₂ Block.Agree blocks others := by
  induction blocks generalizing others with
  | nil =>
    cases others with
    | nil => exact .nil
    | cons other others => cases he
  | cons block blocks ih =>
    cases others with
    | nil => cases he
    | cons other others =>
      have hlines : block.toItem.lines 0 ++ spacedLines blocks =
          other.toItem.lines 0 ++ spacedLines others := (List.cons.inj he).2
      obtain ⟨hagree, hrest⟩ := Item.agree_of_lines (h block (List.mem_cons_self ..)).toItem
        (ho other (List.mem_cons_self ..)).toItem hlines
      have hmore := ih (fun block hb => h block (List.mem_cons_of_mem _ hb))
        (fun block hb => ho block (List.mem_cons_of_mem _ hb)) hrest
      refine .cons ?_ hmore
      obtain ⟨keyword, labels, body⟩ := block
      obtain ⟨keyword', labels', body'⟩ := other
      cases hagree with
      | block _ _ hbody => exact ⟨rfl, rfl, hbody⟩

/-- A text of well-formed blocks is not empty. -/
theorem text_ne_empty {blocks : List Block} (hne : blocks ≠ []) (h : ∀ block ∈ blocks, block.WellFormed) :
    "\n\n".intercalate (blocks.map Block.text) ≠ "" := by
  intro he
  have hlines := cons_lines_text hne h
  rw [he, show lines "" = [""] from rfl] at hlines
  cases blocks with
  | nil => exact hne rfl
  | cons block rest =>
    have hfirst := (List.cons.inj hlines).2
    rw [List.append_eq, Block.lines, Item.lines_eq_cons] at hfirst
    exact Item.first_ne_empty (h block (List.mem_cons_self ..)).toItem rfl 0 (List.cons.inj hfirst).1.symm

/-- Well-formed blocks have the same text exactly when they agree. -/
theorem intercalate_text_eq_iff {blocks others : List Block} (h : ∀ block ∈ blocks, block.WellFormed)
    (ho : ∀ block ∈ others, block.WellFormed) :
    "\n\n".intercalate (blocks.map Block.text) = "\n\n".intercalate (others.map Block.text) ↔
      List.Forall₂ Block.Agree blocks others := by
  constructor
  · intro he
    by_cases hb : blocks = []
    · by_cases hc : others = []
      · rw [hb, hc]
        exact .nil
      · exact absurd (he.symm.trans (by rw [hb]; rfl)) (text_ne_empty hc ho)
    · by_cases hc : others = []
      · exact absurd (he.trans (by rw [hc]; rfl)) (text_ne_empty hb h)
      · refine agree_of_spacedLines h ho ?_
        rw [← cons_lines_text hb h, ← cons_lines_text hc ho, he]
  · intro hagree
    have htexts : blocks.map Block.text = others.map Block.text := by
      induction hagree with
      | nil => rfl
      | cons hblock _ ih =>
        rw [List.map_cons, List.map_cons, hblock.text_eq,
          ih (fun block hb => h block (List.mem_cons_of_mem _ hb))
            (fun block hb => ho block (List.mem_cons_of_mem _ hb))]
    rw [htexts]

end CloudCanvas.Hcl
