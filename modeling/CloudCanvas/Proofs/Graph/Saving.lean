/-
Saved snapshots. A snapshot is written in one form, whatever forms its document used, and this form is read
back without a loss: by the lenient decoder, by the strict one, and for each record by itself. The one thing
that is not told apart is null in place of the properties, which counts as absent; nothing that is decoded has
it, and it makes no difference to the node of a record.
-/
import CloudCanvas.Proofs.Graph.Decoding
import CloudCanvas.Proofs.Json.Ordered

namespace CloudCanvas

/-! ## Encoded values -/

namespace Json

theorem toOption_ofText? (s : Option String) : toOption toText (ofText? s) = .ok s := by
  cases s <;> rfl

theorem toPresent_getD (v : Option Json) :
    toPresent (v.getD .null) = .ok (v.filter fun v => v.shape != .null) := by
  cases v with
  | none => rfl
  | some v => cases v <;> rfl

/-- Null is decoded to an absent value, every other value to itself. -/
theorem eq_of_toPresent {v found : Json} (h : toPresent v = .ok (some found)) : found ≠ .null ∧ v = found := by
  cases v with
  | null => cases h
  | boolean b | number n | string s | array items | object fields =>
    cases h
    exact ⟨Json.noConfusion, rfl⟩

theorem subset_of_takeOr {α : Type} {absent a : α} {decode : Decoder α} {items rest : List Json}
    (h : takeOr absent decode items = .ok (a, rest)) : rest ⊆ items := by
  cases items with
  | nil =>
    cases h
    exact List.Subset.refl _
  | cons v others =>
    obtain ⟨found, -, hpair⟩ := map_eq_ok h
    cases hpair
    exact List.subset_cons_self _ _

theorem eq_of_exhausted {α : Type} {items rest : List Json} {a b : α}
    (h : exhausted items rest a = .ok b) : b = a := by
  unfold exhausted at h
  split at h
  · exact (Except.ok.inj h).symm
  · cases h

end Json

namespace Graph

/-! ## Records -/

namespace Record

/-- The record with null in place of its properties taken for their absence. -/
def withoutNull (record : Record) : Record :=
  { record with properties := record.properties.filter fun v => v.shape != .null }

theorem withoutNull_eq_self {record : Record} (h : record.properties ≠ some .null) :
    record.withoutNull = record := by
  obtain ⟨id, kind, label, properties⟩ := record
  unfold withoutNull
  dsimp only at h ⊢
  congr 1
  cases properties with
  | none => rfl
  | some v =>
    cases v with
    | null => exact absurd rfl h
    | boolean b | number n | string s | array items | object fields => rfl

theorem toNode_withoutNull (record : Record) : record.withoutNull.toNode = record.toNode := by
  have hproperties : record.withoutNull.properties? = record.properties? := by
    obtain ⟨id, kind, label, properties⟩ := record
    cases properties with
    | none => rfl
    | some v => cases v <;> rfl
  unfold toNode
  rw [hproperties]
  rfl

theorem decode_toJson (record : Record) : decode record.toJson = .ok record.withoutNull := by
  obtain ⟨id, kind, label, properties⟩ := record
  show (List.foldlM (fun draft field => Draft.field draft field.1 field.2) ⟨none, none, none, none⟩
    [("id", _), ("kind", _), ("label", _), ("properties", _)]).map Draft.finish = _
  simp only [List.foldlM_cons, List.foldlM_nil, Draft.field, Json.fill, Json.toOption_ofText?,
    Json.toPresent_getD]
  rfl

/-! ## Decoded records -/

/-- The properties that a draft has seen are one of the values, and not null. -/
def Draft.From (values : List Json) (draft : Draft) : Prop :=
  ∀ found, draft.properties = some (some found) → found ≠ .null ∧ found ∈ values

theorem Draft.From.field {values : List Json} {draft filled : Draft} {key : String} {v : Json}
    (h : draft.From values) (hv : v ∈ values) (hf : draft.field key v = .ok filled) : filled.From values := by
  unfold Draft.field at hf
  split at hf
  case h_5 =>
    obtain ⟨properties, hfill, rfl⟩ := map_eq_ok hf
    obtain ⟨-, present, hpresent, rfl⟩ := Json.fill_eq_ok_iff.1 hfill
    intro found hfound
    obtain rfl : present = some found := Option.some.inj hfound
    obtain ⟨hne, rfl⟩ := Json.eq_of_toPresent hpresent
    exact ⟨hne, hv⟩
  case h_6 =>
    cases hf
    exact h
  -- the other slots are filled apart from the properties
  all_goals
    obtain ⟨_, -, rfl⟩ := map_eq_ok hf
    exact h

theorem properties_of_ofItems {items : List Json} {record : Record} (h : ofItems items = .ok record)
    {found : Json} (hfound : record.properties = some found) : found ≠ .null ∧ found ∈ items := by
  unfold ofItems at h
  obtain ⟨⟨id, rest⟩, hid, h⟩ := bind_eq_ok h
  obtain ⟨⟨kind, rest'⟩, hkind, h⟩ := bind_eq_ok h
  obtain ⟨⟨label, rest''⟩, hlabel, h⟩ := bind_eq_ok h
  obtain ⟨⟨properties, last⟩, htake, h⟩ := bind_eq_ok h
  rw [Json.eq_of_exhausted h] at hfound
  have hrest : rest'' ⊆ items := fun v hv =>
    Json.subset_of_takeOr hid (Json.subset_of_takeOr hkind (Json.subset_of_takeOr hlabel hv))
  cases rest'' with
  | nil =>
    cases htake
    cases hfound
  | cons v rest =>
    obtain ⟨present, hpresent, hpair⟩ := map_eq_ok htake
    cases hpair
    have hsome : properties = some found := hfound
    rw [hsome] at hpresent
    obtain ⟨hne, rfl⟩ := Json.eq_of_toPresent hpresent
    exact ⟨hne, hrest (List.mem_cons_self ..)⟩

/-- The properties of a record that is decoded are one of the values in it, and not null. -/
theorem properties_of_decode {v : Json} {record : Record} (h : decode v = .ok record) {found : Json}
    (hfound : record.properties = some found) : found ≠ .null ∧ found ∈ v.inside := by
  cases v with
  | object fields =>
    obtain ⟨draft, hdraft, rfl⟩ := map_eq_ok h
    have hstart : Draft.From (fields.map (·.2)) ⟨none, none, none, none⟩ := fun found hnone => by cases hnone
    have hfrom : draft.From (fields.map (·.2)) :=
      foldlM_induction hstart
        (fun field hf _ _ hbefore hafter => hbefore.field (List.mem_map_of_mem hf) hafter) hdraft
    obtain ⟨id, kind, label, properties⟩ := draft
    cases properties with
    | none => cases hfound
    | some present => exact hfrom found (congrArg some hfound)
  | array items => exact properties_of_ofItems h hfound
  | null | boolean b | number n | string s => cases h

/-- No record that is decoded has null in place of its properties. -/
theorem withoutNull_of_decode {v : Json} {record : Record} (h : decode v = .ok record) :
    record.withoutNull = record :=
  withoutNull_eq_self fun hnull => (properties_of_decode h hnull).1 rfl

end Record

theorem Edge.decode_toJson (edge : Edge) : Edge.decode edge.toJson = .ok edge :=
  rfl

/-! ## Snapshots -/

namespace Snapshot

/-- What stands in the arrays of a saved snapshot is decoded one by one. -/
theorem forall₂_decode_map {α : Type} {decode : Decoder α} {toJson : α → Json} {as : List α}
    (h : ∀ a ∈ as, decode (toJson a) = .ok a) :
    List.Forall₂ (fun v a => decode v = .ok a) (as.map toJson) as := by
  rw [List.forall₂_map_left_iff]
  exact List.forall₂_same.2 h

/-- Every record of a snapshot has been decoded from an item of the array of nodes. -/
theorem exists_item_of_mem_load {document : Json} {snapshot : Snapshot} (h : load document = .ok snapshot)
    {record : Record} (hr : record ∈ snapshot.nodes) :
    ∃ fields items item, document = .object fields ∧ ArrayAt fields "nodes" items ∧ item ∈ items ∧
      Record.decode item = .ok record := by
  obtain ⟨fields, items, _, hdocument, harray, -, hnodes, -⟩ := load_spec h
  rw [hnodes, mem_accepted, List.mem_mapIdx] at hr
  obtain ⟨i, hi, hv⟩ := hr
  exact ⟨fields, items, items[i], hdocument, harray, List.getElem_mem hi, settle_eq_ok_iff.1 hv⟩

theorem withoutNull_of_mem_load {document : Json} {snapshot : Snapshot} (h : load document = .ok snapshot)
    {record : Record} (hr : record ∈ snapshot.nodes) : record.withoutNull = record := by
  obtain ⟨fields, items, item, -, -, -, hdecode⟩ := exists_item_of_mem_load h hr
  exact Record.withoutNull_of_decode hdecode

/-- Saving is lossless and leaves one form. Whatever names, forms, missing or additional fields a document
uses, the snapshot that is loaded from it is saved in a form that both decoders read back as that snapshot,
without its load warnings. A record that is saved by itself is read back but for null in place of its
properties, and has the same node or the same defect either way. -/
theorem saved_snapshot_is_read_back :
    (∀ document snapshot, load document = .ok snapshot →
      load snapshot.toJson = .ok { snapshot with loadWarnings := [] } ∧
        decode snapshot.toJson = .ok { snapshot with loadWarnings := [] }) ∧
    ∀ record : Record, Record.decode record.toJson = .ok record.withoutNull ∧
      record.withoutNull.toNode = record.toNode := by
  refine ⟨fun document snapshot h => ?_, fun record => ⟨record.decode_toJson, record.toNode_withoutNull⟩⟩
  have hnodes : List.Forall₂ (fun v a => Record.decode v = .ok a) (snapshot.nodes.map Record.toJson)
      snapshot.nodes := by
    refine forall₂_decode_map fun record hr => ?_
    rw [record.decode_toJson, withoutNull_of_mem_load h hr]
  have hedges : List.Forall₂ (fun v a => Edge.decode v = .ok a) (snapshot.edges.map Edge.toJson)
      snapshot.edges :=
    forall₂_decode_map fun edge _ => edge.decode_toJson
  constructor
  · exact load_object_eq_ok_iff.2 ⟨⟨_, .inl rfl, hnodes⟩, _, .inl rfl, hedges⟩
  · refine decode_object_eq_ok_iff.2 ⟨some snapshot.nodes, some snapshot.edges, ?_, ?_, rfl⟩
    · exact .cons (Json.toList_eq_ok_iff.2 ⟨_, rfl, hnodes⟩) (.nil _)
    · exact .cons (Json.toList_eq_ok_iff.2 ⟨_, rfl, hedges⟩) (.nil _)

/-- A document with an element that is dropped, a node given as the list of its fields, one whose kind is
called `type` and whose properties are null, and an edge whose ends have other names. -/
def wornCanvas : Json :=
  .object
    [("edges", .array [.object [("sourceNodeId", .string "a"), ("targetNodeId", .string "b")]]),
      ("nodes", .array
        [.boolean true, .array [.string "a", .string "vpc"],
          .object [("colour", .string "red"), ("id", .string "b"), ("properties", .null),
            ("type", .string "subnet")]])]

/-- It is saved in the one form, in which nothing is dropped any more. -/
theorem wornCanvas_is_read_back :
    ∃ snapshot, load wornCanvas = .ok snapshot ∧ snapshot.loadWarnings.length = 1 ∧
      snapshot.nodes = [⟨some "a", some "vpc", none, none⟩, ⟨some "b", some "subnet", none, none⟩] ∧
      load snapshot.toJson = .ok { snapshot with loadWarnings := [] } := by
  obtain ⟨snapshot, hload, hwarnings, hnodes⟩ : ∃ snapshot, load wornCanvas = .ok snapshot ∧
      snapshot.loadWarnings.length = 1 ∧
      snapshot.nodes = [⟨some "a", some "vpc", none, none⟩, ⟨some "b", some "subnet", none, none⟩] :=
    ⟨_, rfl, rfl, rfl⟩
  exact ⟨snapshot, hload, hwarnings, hnodes, (saved_snapshot_is_read_back.1 _ snapshot hload).1⟩

end Snapshot

end Graph

end CloudCanvas
