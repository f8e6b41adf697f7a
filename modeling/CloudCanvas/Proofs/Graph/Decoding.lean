/-
The two decoders of snapshots. The lenient one refuses a document for its outer shape only, whatever
stands inside its arrays. The strict one takes the fields of the document into slots, each of which can be
filled once; where it accepts a document, every element of the two arrays decodes, and so the lenient one
keeps every element and has nothing to warn about. The converse fails only for arrays that are null.
-/
import CloudCanvas.Proofs.Fallible
import CloudCanvas.Proofs.Graph.Loading

namespace CloudCanvas

/-- A list of steps succeeds when each of its steps does. -/
theorem mapM_eq_ok_iff {ε α β : Type} {f : α → Except ε β} {as : List α} {bs : List β} :
    as.mapM f = .ok bs ↔ List.Forall₂ (fun a b => f a = .ok b) as bs := by
  induction as generalizing bs with
  | nil =>
    rw [List.mapM_nil, List.forall₂_nil_left_iff]
    constructor
    · intro h
      cases h
      rfl
    · rintro rfl
      rfl
  | cons a rest ih =>
    rw [List.mapM_cons, bind_eq_ok_iff, List.forall₂_cons_left_iff]
    constructor
    · rintro ⟨b, hb, h⟩
      obtain ⟨others, ho, h⟩ := bind_eq_ok h
      cases h
      exact ⟨b, others, hb, ih.1 ho, rfl⟩
    · rintro ⟨b, others, hb, ho, rfl⟩
      exact ⟨b, hb, bind_eq_ok_iff.2 ⟨others, ih.2 ho, rfl⟩⟩

/-! ## Slots -/

namespace Json

/-- All values at a key, in order. -/
def Fields.valuesAt (fields : Fields) (key : String) : List Json :=
  (fields.filter fun field => field.1 == key).map (·.2)

theorem Fields.valuesAt_cons (field : String × Json) (fields : Fields) (key : String) :
    Fields.valuesAt (field :: fields) key =
      if field.1 = key then field.2 :: fields.valuesAt key else fields.valuesAt key := by
  unfold valuesAt
  rw [List.filter_cons]
  by_cases hk : field.1 = key
  · simp [hk]
  · simp [hk]

theorem Fields.get?_eq_head? (fields : Fields) (key : String) :
    fields.get? key = (fields.valuesAt key).head? := by
  induction fields with
  | nil => rfl
  | cons field rest ih =>
    rw [valuesAt_cons]
    unfold Keyed.get? at ih ⊢
    rw [List.lookup_cons]
    by_cases hk : field.1 = key
    · simp [hk]
    · have hne : (key == field.1) = false := beq_eq_false_iff_ne.2 (Ne.symm hk)
      rw [hne, if_neg hk]
      exact ih

/-- Where no key occurs twice there is at most one value at a key. -/
theorem Fields.valuesAt_of_nodup {fields : Fields} (h : (fields.map (·.1)).Nodup) (key : String) :
    fields.valuesAt key = (fields.get? key).toList := by
  rw [get?_eq_head?]
  induction fields with
  | nil => rfl
  | cons field rest ih =>
    rw [List.map_cons, List.nodup_cons] at h
    rw [valuesAt_cons]
    split
    · rename_i hk
      -- the key is not among those of the rest
      have hrest : Fields.valuesAt rest key = [] := by
        unfold valuesAt
        rw [List.map_eq_nil_iff, List.filter_eq_nil_iff]
        intro other ho he
        exact h.1 (List.mem_map.2 ⟨other, ho, (beq_iff_eq.1 he).trans hk.symm⟩)
      rw [hrest]
      rfl
    · exact ih h.2

/-- How values are taken into a slot: each of them needs an empty slot and fills it. -/
inductive Takes {α : Type} (decode : Decoder α) : Option α → List Json → Option α → Prop
  | nil (slot : Option α) : Takes decode slot [] slot
  | cons {v : Json} {values : List Json} {a : α} {filled : Option α} (decoded : decode v = .ok a)
      (rest : Takes decode (some a) values filled) : Takes decode none (v :: values) filled

variable {α : Type} {decode : Decoder α}

theorem fill_eq_ok_iff {name : String} {slot filled : Option α} {v : Json} :
    fill name slot decode v = .ok filled ↔ slot = none ∧ ∃ a, decode v = .ok a ∧ some a = filled := by
  cases slot with
  | some a =>
    constructor
    · intro h
      cases h
    · rintro ⟨h, -⟩
      cases h
  | none =>
    unfold fill
    rw [map_eq_ok_iff]
    exact (and_iff_right rfl).symm

theorem takes_cons_iff {slot filled : Option α} {v : Json} {values : List Json} :
    Takes decode slot (v :: values) filled ↔
      slot = none ∧ ∃ a, decode v = .ok a ∧ Takes decode (some a) values filled := by
  constructor
  · intro h
    cases h with
    | cons decoded rest => exact ⟨rfl, _, decoded, rest⟩
  · rintro ⟨rfl, a, decoded, rest⟩
    exact .cons decoded rest

theorem toList_eq_ok_iff {v : Json} {as : List α} :
    toList decode v = .ok as ↔
      ∃ items, v = .array items ∧ List.Forall₂ (fun item a => decode item = .ok a) items as := by
  constructor
  · intro h
    cases v with
    | array items => exact ⟨items, rfl, mapM_eq_ok_iff.1 h⟩
    | null | boolean b | number n | string s | object fields => cases h
  · rintro ⟨items, rfl, h⟩
    exact mapM_eq_ok_iff.2 h

end Json

namespace Graph.Snapshot

open Json (Takes)

/-! ## Shapes -/

theorem exists_error_elements_iff {fields : Json.Fields} {key : String} :
    (∃ defect, elements fields key = .error defect) ↔
      ∃ v, fields.get? key = some v ∧ v.shape ≠ .null ∧ v.shape ≠ .array := by
  unfold elements
  cases fields.get? key with
  | none => simp
  | some v => cases v <;> simp [Json.shape]

/-- A document is refused for its own shape or for that of its two arrays. -/
theorem exists_error_load_iff (document : Json) :
    (∃ defect, load document = .error defect) ↔
      document.shape ≠ .object ∨ ∃ fields : Json.Fields, document = .object fields ∧
        ∃ key ∈ ["nodes", "edges"], ∃ v, fields.get? key = some v ∧ v.shape ≠ .null ∧ v.shape ≠ .array := by
  cases document with
  | object fields =>
    simp only [← exists_error_elements_iff]
    constructor
    · rintro ⟨defect, h⟩
      refine .inr ⟨fields, rfl, ?_⟩
      cases hn : elements fields "nodes" with
      | error e => exact ⟨"nodes", by simp, e, hn⟩
      | ok nodes =>
        cases he : elements fields "edges" with
        | error e => exact ⟨"edges", by simp, e, he⟩
        | ok edges =>
          rw [load_object (arrayAt_of_elements hn) (arrayAt_of_elements he)] at h
          cases h
    · rintro (h | ⟨found, hfound, key, hkey, e, he⟩)
      · exact absurd rfl h
      · cases hfound
        cases hload : load (.object fields) with
        | error defect => exact ⟨defect, rfl⟩
        | ok snapshot =>
          -- both arrays are there, so neither of them is refused
          obtain ⟨_, nodes, edges, hd, hnodes, hedges, -⟩ := load_spec hload
          cases hd
          rcases List.mem_pair.1 hkey with rfl | rfl
          · rw [hnodes.elements] at he
            cases he
          · rw [hedges.elements] at he
            cases he
  | null | boolean b | number n | string s | array items =>
    exact iff_of_true ⟨.notObject, rfl⟩ (.inl (by simp [Json.shape]))

/-! ## Loading without a loss -/

theorem mapIdx_settle_eq_map_ok_iff {α : Type} {decode : Decoder α} {warning : Dropped → Warning}
    {items : List Json} {as : List α} :
    (rejected (items.mapIdx (settle decode warning)) = [] ∧ accepted (items.mapIdx (settle decode warning)) = as) ↔
      List.Forall₂ (fun v a => decode v = .ok a) items as := by
  rw [← eq_map_ok_iff]
  exact mapIdx_eq_map_ok_iff fun i v a => settle_eq_ok_iff

/-- A document is loaded without a warning when all elements of its two arrays decode. -/
theorem load_object_eq_ok_iff {fields : Json.Fields} {nodes : List Record} {edges : List Edge} :
    load (.object fields) = .ok ⟨nodes, edges, []⟩ ↔
      (∃ items, ArrayAt fields "nodes" items ∧ List.Forall₂ (fun v a => Record.decode v = .ok a) items nodes) ∧
        ∃ items, ArrayAt fields "edges" items ∧ List.Forall₂ (fun v a => Edge.decode v = .ok a) items edges := by
  constructor
  · intro h
    obtain ⟨_, nodeItems, edgeItems, hd, hn, he, hnodes, hedges, hwarnings⟩ := load_spec h
    cases hd
    obtain ⟨hnone, hnone'⟩ := List.append_eq_nil_iff.1 hwarnings.symm
    exact ⟨⟨nodeItems, hn, mapIdx_settle_eq_map_ok_iff.1 ⟨hnone, hnodes.symm⟩⟩,
      edgeItems, he, mapIdx_settle_eq_map_ok_iff.1 ⟨hnone', hedges.symm⟩⟩
  · rintro ⟨⟨nodeItems, hn, hnodes⟩, edgeItems, he, hedges⟩
    obtain ⟨hnone, hnodes⟩ := mapIdx_settle_eq_map_ok_iff.2 hnodes
    obtain ⟨hnone', hedges⟩ := mapIdx_settle_eq_map_ok_iff.2 hedges
    rw [load_object hn he]
    unfold settleNode settleEdge
    rw [hnone, hnone', hnodes, hedges]
    rfl

/-! ## Strict decoding -/

section Draft

variable {draft filled : Draft} {key : String} {v : Json}

theorem field_nodes_eq_ok_iff : draft.field "nodes" v = .ok filled ↔
    draft.nodes = none ∧ ∃ nodes, Json.toList Record.decode v = .ok nodes ∧ ⟨some nodes, draft.edges⟩ = filled := by
  show ((Json.fill "nodes" draft.nodes (Json.toList Record.decode) v).map _) = _ ↔ _
  rw [map_eq_ok_iff]
  simp only [Json.fill_eq_ok_iff]
  constructor
  · rintro ⟨_, ⟨hnone, nodes, hdecode, rfl⟩, h⟩
    exact ⟨hnone, nodes, hdecode, h⟩
  · rintro ⟨hnone, nodes, hdecode, h⟩
    exact ⟨_, ⟨hnone, nodes, hdecode, rfl⟩, h⟩

theorem field_edges_eq_ok_iff : draft.field "edges" v = .ok filled ↔
    draft.edges = none ∧ ∃ edges, Json.toList Edge.decode v = .ok edges ∧ ⟨draft.nodes, some edges⟩ = filled := by
  show ((Json.fill "edges" draft.edges (Json.toList Edge.decode) v).map _) = _ ↔ _
  rw [map_eq_ok_iff]
  simp only [Json.fill_eq_ok_iff]
  constructor
  · rintro ⟨_, ⟨hnone, edges, hdecode, rfl⟩, h⟩
    exact ⟨hnone, edges, hdecode, h⟩
  · rintro ⟨hnone, edges, hdecode, h⟩
    exact ⟨_, ⟨hnone, edges, hdecode, rfl⟩, h⟩

theorem field_of_ne (hn : key ≠ "nodes") (he : key ≠ "edges") : draft.field key v = .ok draft := by
  unfold Draft.field
  split
  · exact absurd rfl hn
  · exact absurd rfl he
  · rfl

/-- Taking fields in one after another fills the two slots with the values at their keys. -/
theorem foldlM_field_eq_ok_iff {fields : Json.Fields} :
    fields.foldlM (fun draft (key, v) => Draft.field draft key v) draft = .ok filled ↔
      Takes (Json.toList Record.decode) draft.nodes (fields.valuesAt "nodes") filled.nodes ∧
        Takes (Json.toList Edge.decode) draft.edges (fields.valuesAt "edges") filled.edges := by
  induction fields generalizing draft with
  | nil =>
    constructor
    · intro h
      cases h
      exact ⟨.nil _, .nil _⟩
    · rintro ⟨hn, he⟩
      obtain ⟨nodes, edges⟩ := draft
      obtain ⟨nodes', edges'⟩ := filled
      cases hn
      cases he
      rfl
  | cons field rest ih =>
    obtain ⟨key, v⟩ := field
    rw [List.foldlM_cons, bind_eq_ok_iff, Json.Fields.valuesAt_cons, Json.Fields.valuesAt_cons]
    simp only [ih]
    by_cases hn : key = "nodes"
    · subst hn
      rw [if_pos rfl, if_neg (by decide), Json.takes_cons_iff]
      simp only [field_nodes_eq_ok_iff]
      constructor
      · rintro ⟨_, ⟨hnone, nodes, hdecode, rfl⟩, htakes, hedges⟩
        exact ⟨⟨hnone, nodes, hdecode, htakes⟩, hedges⟩
      · rintro ⟨⟨hnone, nodes, hdecode, htakes⟩, hedges⟩
        exact ⟨_, ⟨hnone, nodes, hdecode, rfl⟩, htakes, hedges⟩
    · by_cases he : key = "edges"
      · subst he
        rw [if_neg (by decide), if_pos rfl, Json.takes_cons_iff]
        simp only [field_edges_eq_ok_iff]
        constructor
        · rintro ⟨_, ⟨hnone, edges, hdecode, rfl⟩, hnodes, htakes⟩
          exact ⟨hnodes, hnone, edges, hdecode, htakes⟩
        · rintro ⟨hnodes, hnone, edges, hdecode, htakes⟩
          exact ⟨_, ⟨hnone, edges, hdecode, rfl⟩, hnodes, htakes⟩
      · rw [if_neg hn, if_neg he, field_of_ne hn he]
        simp

end Draft

/-- A document is accepted when each of the two keys has at most one value, and it decodes. -/
theorem decode_object_eq_ok_iff {fields : Json.Fields} {snapshot : Snapshot} :
    decode (.object fields) = .ok snapshot ↔ ∃ nodes edges,
      Takes (Json.toList Record.decode) none (fields.valuesAt "nodes") nodes ∧
        Takes (Json.toList Edge.decode) none (fields.valuesAt "edges") edges ∧
        snapshot = ⟨nodes.getD [], edges.getD [], []⟩ := by
  show (ofFields fields = _) ↔ _
  unfold ofFields
  rw [map_eq_ok_iff]
  simp only [foldlM_field_eq_ok_iff]
  constructor
  · rintro ⟨⟨nodes, edges⟩, ⟨hn, he⟩, rfl⟩
    exact ⟨nodes, edges, hn, he, rfl⟩
  · rintro ⟨nodes, edges, hn, he, rfl⟩
    exact ⟨⟨nodes, edges⟩, ⟨hn, he⟩, rfl⟩

section Slots

variable {α : Type} {decode : Decoder α} {fields : Json.Fields} {key : String}

/-- What is in the slot of an array has come from the array at its key; an empty slot stands for an
array that is missing. -/
theorem exists_arrayAt_of_takes {filled : Option (List α)}
    (h : Takes (Json.toList decode) none (fields.valuesAt key) filled) :
    ∃ items, ArrayAt fields key items ∧ List.Forall₂ (fun v a => decode v = .ok a) items (filled.getD []) := by
  have hget := fields.get?_eq_head? key
  generalize fields.valuesAt key = values at h hget
  cases h with
  | nil => exact ⟨[], .inr ⟨.inl hget, rfl⟩, .nil⟩
  | cons decoded rest =>
    obtain ⟨items, rfl, hitems⟩ := Json.toList_eq_ok_iff.1 decoded
    -- the slot is full, so there is no second value
    cases rest
    exact ⟨items, .inl hget, hitems⟩

/-- An array that is not null and whose elements decode fills its slot, if there is one value only. -/
theorem ArrayAt.exists_takes {items : List Json} {as : List α} (h : ArrayAt fields key items)
    (hkeys : (fields.map (·.1)).Nodup) (hnull : fields.get? key ≠ some .null)
    (hitems : List.Forall₂ (fun v a => decode v = .ok a) items as) :
    ∃ filled, Takes (Json.toList decode) none (fields.valuesAt key) filled ∧ filled.getD [] = as := by
  rw [Json.Fields.valuesAt_of_nodup hkeys]
  rcases h with h | ⟨h | h, rfl⟩
  · rw [h]
    exact ⟨some as, .cons (Json.toList_eq_ok_iff.2 ⟨items, rfl, hitems⟩) (.nil _), rfl⟩
  · rw [h]
    cases hitems
    exact ⟨none, .nil _, rfl⟩
  · exact absurd h hnull

end Slots

/-- The lenient and the strict decoder agree. A document is refused by the lenient one exactly when it is
no object, or what stands at the key of one of its two arrays is neither null nor an array; nothing inside
an element matters. A snapshot that the strict decoder gives is loaded by the lenient one just so, without
a warning. What the lenient decoder loads without a warning is accepted by the strict one and gives the
same snapshot, unless one of the arrays is null; here no key may occur twice, as none does in a document
that has been read. -/
theorem decoders_agree (document : Json) :
    ((∃ defect, load document = .error defect) ↔
      document.shape ≠ .object ∨ ∃ fields : Json.Fields, document = .object fields ∧
        ∃ key ∈ ["nodes", "edges"], ∃ v, fields.get? key = some v ∧ v.shape ≠ .null ∧ v.shape ≠ .array) ∧
    ∀ fields : Json.Fields, document = .object fields →
      (∀ snapshot, decode document = .ok snapshot →
        load document = .ok snapshot ∧ snapshot.loadWarnings = []) ∧
      ((fields.map (·.1)).Nodup → fields.get? "nodes" ≠ some .null → fields.get? "edges" ≠ some .null →
        ∀ snapshot, load document = .ok snapshot → snapshot.loadWarnings = [] →
          decode document = .ok snapshot) := by
  refine ⟨exists_error_load_iff document, ?_⟩
  rintro fields rfl
  refine ⟨fun snapshot h => ?_, fun hkeys hnodes hedges snapshot h hwarnings => ?_⟩
  · obtain ⟨nodes, edges, hn, he, rfl⟩ := decode_object_eq_ok_iff.1 h
    have hload := load_object_eq_ok_iff.2 ⟨exists_arrayAt_of_takes hn, exists_arrayAt_of_takes he⟩
    exact ⟨hload, rfl⟩
  · obtain ⟨records, links, warnings⟩ := snapshot
    obtain rfl : warnings = [] := hwarnings
    obtain ⟨⟨nodeItems, hn, hrecords⟩, edgeItems, he, hlinks⟩ := load_object_eq_ok_iff.1 h
    obtain ⟨nodes, hnodes, rfl⟩ := hn.exists_takes hkeys hnodes hrecords
    obtain ⟨edges, hedges, rfl⟩ := he.exists_takes hkeys hedges hlinks
    exact decode_object_eq_ok_iff.2 ⟨nodes, edges, hnodes, hedges, rfl⟩

/-- A document whose elements use other names and other forms: the kind is called `type`, an edge is a
list of its parts, and a key that means nothing stands in between. -/
def aliasedCanvas : Json :=
  .object
    [("edges", .array
        [.array [.string "1", .string "a", .string "b"],
          .object [("sourceNodeId", .string "b"), ("targetNodeId", .string "a")]]),
      ("grid", .boolean true),
      ("nodes", .array [.object [("id", .string "a"), ("properties", .null), ("type", .string "vpc")]])]

/-- Both decoders read that document alike; with an array that is null they would not. -/
theorem aliasedCanvas_is_read_alike :
    (∃ snapshot, decode aliasedCanvas = .ok snapshot ∧ load aliasedCanvas = .ok snapshot ∧
      snapshot.edges = [⟨"1", "a", "b"⟩, ⟨"", "b", "a"⟩] ∧ snapshot.loadWarnings = []) ∧
    load (.object [("nodes", .null)]) = .ok empty ∧
      decode (.object [("nodes", .null)]) = .error (.invalidType .null "a sequence") := by
  obtain ⟨snapshot, hload, hedges, hwarnings⟩ : ∃ snapshot, load aliasedCanvas = .ok snapshot ∧
      snapshot.edges = [⟨"1", "a", "b"⟩, ⟨"", "b", "a"⟩] ∧ snapshot.loadWarnings = [] :=
    ⟨_, rfl, rfl, rfl⟩
  have hdecode := ((decoders_agree aliasedCanvas).2 _ rfl).2 (by decide) (fun h => by cases h)
    (fun h => by cases h) snapshot hload hwarnings
  have hagain := ((decoders_agree aliasedCanvas).2 _ rfl).1 snapshot hdecode
  exact ⟨⟨snapshot, hdecode, hagain.1, hedges, hagain.2⟩, rfl, rfl⟩

end Graph.Snapshot

end CloudCanvas
