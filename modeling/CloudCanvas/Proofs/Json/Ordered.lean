/-
The order of fields. Every object that is read from a text has its fields in increasing order of their keys,
so none of its keys occurs twice; this holds of the objects inside it too.
-/
import CloudCanvas.Proofs.Json.Weight
import CloudCanvas.Proofs.Keyed

namespace CloudCanvas.Json

/-- The fields of every object in the value are in increasing order of their keys. -/
inductive Ordered : Json → Prop
  | null : Ordered .null
  | boolean (b : Bool) : Ordered (.boolean b)
  | number (n : Number) : Ordered (.number n)
  | string (s : String) : Ordered (.string s)
  | array {items : List Json} (h : ∀ v ∈ items, Ordered v) : Ordered (.array items)
  | object {fields : List (String × Json)} (hkeys : Keyed.Increasing fields)
    (h : ∀ field ∈ fields, Ordered field.2) : Ordered (.object fields)

/-- The values that stand directly in a value. -/
def inside : Json → List Json
  | .array items => items
  | .object fields => fields.map (·.2)
  | .null | .boolean _ | .number _ | .string _ => []

theorem Ordered.inside {v : Json} (h : v.Ordered) : ∀ w ∈ v.inside, w.Ordered := by
  cases h with
  | array h => exact h
  | object hkeys h =>
    intro w hw
    obtain ⟨field, hf, rfl⟩ := List.mem_map.1 hw
    exact h field hf
  | null | boolean b | number n | string s => exact List.forall_mem_nil _

/-! ## What the reader has taken in -/

/-- Fields of an object all whose objects are in order. -/
structure Fields.Ordered (fields : Fields) : Prop where
  keys : fields.Increasing
  values : ∀ field ∈ fields, field.2.Ordered

theorem Fields.Ordered.nil : Fields.Ordered [] :=
  ⟨List.Pairwise.nil, List.forall_mem_nil _⟩

theorem Fields.Ordered.insert {fields : Fields} (h : fields.Ordered) (key : String) {v : Json}
    (hv : v.Ordered) : Fields.Ordered (Keyed.insert key v fields) := by
  refine ⟨h.keys.insert key v, fun field hf => ?_⟩
  rcases Keyed.mem_insert hf with rfl | hf
  · exact hv
  · exact h.values field hf

/-- What has been read of an open array or object is in order. -/
def Frame.Ordered : Frame → Prop
  | .items done => ∀ v ∈ done, v.Ordered
  | .member done _ => done.Ordered

/-- What has been read and stands in no open array or object is in order. -/
def Expected.Ordered : Expected → Prop
  | .value | .firstItem | .firstKey => True
  | .key done | .colon done _ => done.Ordered
  | .next v => v.Ordered

/-- All that has been read is in order. -/
structure Reader.Ordered (reader : Reader) : Prop where
  expected : reader.expected.Ordered
  stack : ∀ frame ∈ reader.stack, frame.Ordered

theorem ordered_of_readScalar {c : Char} {s : List Char} {v : Json} {t : Text.Left s}
    (h : readScalar c s = .ok (v, t)) : v.Ordered := by
  unfold readScalar at h
  repeat' split at h
  all_goals first
    | obtain ⟨_, -, hv⟩ := map_eq_ok h
      cases hv
      constructor
    | cases h

section

variable {reader after : Reader} {stack : List Frame} {c : Char} {r : List Char} {t : Text.Left r}

theorem ordered_of_start (hstack : ∀ frame ∈ stack, frame.Ordered)
    (h : Reader.start stack c r = .ok (after, t)) : after.Ordered := by
  unfold Reader.start at h
  split at h
  · split at h
    · cases h
    split at h
    · cases h
      exact ⟨trivial, List.forall_mem_cons.2 ⟨List.forall_mem_nil _, hstack⟩⟩
    · cases h
      exact ⟨trivial, hstack⟩
  · obtain ⟨⟨v, t⟩, hread, hafter⟩ := map_eq_ok h
    cases hafter
    exact ⟨ordered_of_readScalar hread, hstack⟩

theorem ordered_of_startField {done : Fields} (hdone : done.Ordered) (hstack : ∀ frame ∈ stack, frame.Ordered)
    (h : Reader.startField done stack c r = .ok (after, t)) : after.Ordered := by
  unfold Reader.startField at h
  split at h
  · obtain ⟨⟨xs, t⟩, -, hafter⟩ := map_eq_ok h
    cases hafter
    exact ⟨hdone, hstack⟩
  · cases h

/-- Every part that is read keeps the order. -/
theorem Reader.Ordered.step (hreader : reader.Ordered) (h : reader.step c r = .ok (after, t)) :
    after.Ordered := by
  obtain ⟨hexpected, hstack⟩ := hreader
  unfold Reader.step at h
  split at h
  · exact ordered_of_start hstack h
  · split at h
    · cases h
      exact ⟨.array (List.forall_mem_nil _), fun frame hf => hstack frame (List.mem_of_mem_tail hf)⟩
    · exact ordered_of_start hstack h
  · split at h
    · cases h
      exact ⟨.object List.Pairwise.nil (List.forall_mem_nil _), hstack⟩
    · exact ordered_of_startField Fields.Ordered.nil hstack h
  · exact ordered_of_startField hexpected hstack h
  · split at h
    · cases h
      exact ⟨trivial, List.forall_mem_cons.2 ⟨hexpected, hstack⟩⟩
    · cases h
  · cases h
  · rename_i v done up
    obtain ⟨hdone, hup⟩ := List.forall_mem_cons.1 hstack
    have hitems : ∀ w ∈ v :: done, w.Ordered := List.forall_mem_cons.2 ⟨hexpected, hdone⟩
    split at h
    · cases h
      exact ⟨trivial, List.forall_mem_cons.2 ⟨hitems, hup⟩⟩
    split at h
    · cases h
      exact ⟨.array fun w hw => hitems w (List.mem_reverse.1 hw), hup⟩
    · cases h
  · rename_i v done key up
    obtain ⟨hdone, hup⟩ := List.forall_mem_cons.1 hstack
    have hfields : Fields.Ordered (Keyed.insert key v done) := hdone.insert key hexpected
    split at h
    · cases h
      exact ⟨hfields, hup⟩
    split at h
    · cases h
      exact ⟨.object hfields.keys hfields.values, hup⟩
    · cases h

end

theorem Reader.Ordered.run {reader : Reader} {s : List Char} {v : Json} (hreader : reader.Ordered)
    (h : reader.run s = .ok v) : v.Ordered := by
  fun_induction Reader.run reader s with
  | case1 found =>
    cases h
    exact hreader.expected
  | case2 => cases h
  | case3 reader c r hspace ih => exact ih hreader h
  | case4 => cases h
  | case5 reader c r hspace after t hstep ih => exact ih (hreader.step hstep) h

/-- The objects of a document that is read have their fields in order. -/
theorem ordered_of_parse {text : String} {document : Json} (h : parse text = .ok document) :
    document.Ordered := by
  have hstart : Reader.Ordered ⟨.value, []⟩ := ⟨trivial, List.forall_mem_nil _⟩
  exact hstart.run h

end CloudCanvas.Json
