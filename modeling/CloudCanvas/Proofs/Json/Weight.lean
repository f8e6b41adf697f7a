/-
A document is no larger than the text from which it was read: each of its values, and each item and field,
has cost the reader at least one character. What the reader has taken in at any point, the arrays and
objects that are still open included, is no larger than the text up to there.
-/
import CloudCanvas.Json.Parser
import CloudCanvas.Proofs.Fallible

namespace CloudCanvas.Json

/-! ## The weight of a document -/

mutual

/-- A value weighs one, and one more for each item and each field in it. -/
def weight : Json → Nat
  | .array items => 1 + weightItems items
  | .object fields => 1 + weightFields fields
  | .null => 1
  | .boolean _ => 1
  | .number _ => 1
  | .string _ => 1

/-- The weight of items. -/
def weightItems : List Json → Nat
  | [] => 0
  | v :: rest => weight v + 1 + weightItems rest

/-- The weight of fields. -/
def weightFields : List (String × Json) → Nat
  | [] => 0
  | (_, v) :: rest => weight v + 1 + weightFields rest

end

theorem weight_pos (v : Json) : 0 < weight v := by
  cases v <;> simp only [weight] <;> omega

theorem weightItems_append (items others : List Json) :
    weightItems (items ++ others) = weightItems items + weightItems others := by
  induction items with
  | nil => exact (Nat.zero_add _).symm
  | cons v items ih =>
    show weight v + 1 + weightItems (items ++ others) = weight v + 1 + weightItems items + _
    omega

theorem weightItems_reverse (items : List Json) : weightItems items.reverse = weightItems items := by
  induction items with
  | nil => rfl
  | cons v items ih =>
    rw [List.reverse_cons, weightItems_append, ih]
    show weightItems items + (weight v + 1 + 0) = weight v + 1 + weightItems items
    omega

theorem two_mul_length_le_weightItems (items : List Json) : 2 * items.length ≤ weightItems items := by
  induction items with
  | nil => exact Nat.le_refl 0
  | cons v items ih =>
    have hv := weight_pos v
    rw [List.length_cons, weightItems]
    omega

theorem weightFields_insert_le (key : String) (v : Json) (fields : Fields) :
    weightFields (Keyed.insert key v fields) ≤ weight v + 1 + weightFields fields := by
  induction fields with
  | nil => exact Nat.le_refl _
  | cons field fields ih =>
    obtain ⟨k, w⟩ := field
    unfold Keyed.insert
    split
    · exact Nat.le_refl _
    · split
      · -- the field that was there is gone
        show weight v + 1 + weightFields fields ≤ weight v + 1 + (weight w + 1 + weightFields fields)
        omega
      · show weight w + 1 + weightFields _ ≤ weight v + 1 + (weight w + 1 + weightFields fields)
        omega

theorem weight_lt_of_get? {fields : Fields} {key : String} {v : Json} (h : fields.get? key = some v) :
    weight v < weight (.object fields) := by
  show weight v < 1 + weightFields fields
  induction fields with
  | nil => cases h
  | cons field fields ih =>
    obtain ⟨k, w⟩ := field
    unfold Keyed.get? at h ih
    rw [List.lookup_cons] at h
    rw [weightFields]
    cases hk : key == k with
    | true =>
      rw [hk] at h
      cases h
      omega
    | false =>
      rw [hk] at h
      have := ih h
      omega

/-! ## What the reader has taken in -/

/-- The weight of what has been read of an open array or object. -/
def Frame.weight : Frame → Nat
  | .items done => 1 + weightItems done
  | .member done _ => 1 + weightFields done

/-- The weight of what has been read of all open arrays and objects. -/
def weightFrames : List Frame → Nat
  | [] => 0
  | frame :: up => frame.weight + weightFrames up

/-- The weight of what has been read and stands in no open array or object. -/
def Expected.weight : Expected → Nat
  | .value => 0
  | .firstItem => 0
  | .firstKey => 1
  | .key done => 1 + weightFields done
  | .colon done _ => 1 + weightFields done
  | .next v => Json.weight v

/-- The weight of all that has been read. -/
def Reader.weight (reader : Reader) : Nat :=
  reader.expected.weight + weightFrames reader.stack

theorem weight_of_readScalar {c : Char} {s : List Char} {v : Json} {t : Text.Left s}
    (h : readScalar c s = .ok (v, t)) : weight v = 1 := by
  unfold readScalar at h
  repeat' split at h
  all_goals first
    | obtain ⟨_, -, hv⟩ := map_eq_ok h
      cases hv
      rfl
    | cases h

section

variable {reader after : Reader} {stack : List Frame} {c : Char} {r : List Char} {t : Text.Left r}

theorem weight_of_start (h : Reader.start stack c r = .ok (after, t)) :
    after.weight ≤ weightFrames stack + 1 := by
  unfold Reader.start at h
  split at h
  · split at h
    · cases h
    split at h
    · cases h
      simp only [Reader.weight, Expected.weight, weightFrames, Frame.weight, weightItems]
      omega
    · cases h
      simp only [Reader.weight, Expected.weight]
      omega
  · obtain ⟨⟨v, t⟩, hread, hafter⟩ := map_eq_ok h
    cases hafter
    have hv := weight_of_readScalar hread
    simp only [Reader.weight, Expected.weight]
    omega

theorem weight_of_startField {done : Fields} (h : Reader.startField done stack c r = .ok (after, t)) :
    after.weight = 1 + weightFields done + weightFrames stack := by
  unfold Reader.startField at h
  split at h
  · obtain ⟨⟨xs, t⟩, -, hafter⟩ := map_eq_ok h
    cases hafter
    rfl
  · cases h

/-- One part of a document adds no more than the character with which it starts. -/
theorem weight_of_step (h : reader.step c r = .ok (after, t)) : after.weight ≤ reader.weight + 1 := by
  unfold Reader.step at h
  split at h
  · have := weight_of_start h
    simp only [Reader.weight, Expected.weight] at this ⊢
    omega
  · rename_i stack
    split at h
    · cases h
      have htail : weightFrames stack.tail ≤ weightFrames stack := by
        cases stack with
        | nil => exact Nat.le_refl _
        | cons frame up => exact Nat.le_add_left _ _
      simp only [Reader.weight, Expected.weight, Json.weight, weightItems]
      omega
    · have := weight_of_start h
      simp only [Reader.weight, Expected.weight] at this ⊢
      omega
  · split at h
    · cases h
      simp only [Reader.weight, Expected.weight, Json.weight, weightFields]
      omega
    · rw [weight_of_startField h]
      simp only [Reader.weight, Expected.weight, weightFields]
      omega
  · rw [weight_of_startField h]
    simp only [Reader.weight, Expected.weight]
    omega
  · split at h
    · cases h
      simp only [Reader.weight, Expected.weight, weightFrames, Frame.weight]
      omega
    · cases h
  · cases h
  · split at h
    · cases h
      simp only [Reader.weight, Expected.weight, weightFrames, Frame.weight, weightItems]
      omega
    split at h
    · cases h
      simp only [Reader.weight, Expected.weight, Json.weight, weightFrames, Frame.weight,
        weightItems_reverse, weightItems]
      omega
    · cases h
  · rename_i v done key up
    have hinsert := weightFields_insert_le key v done
    split at h
    · cases h
      simp only [Reader.weight, Expected.weight, weightFrames, Frame.weight]
      omega
    split at h
    · cases h
      simp only [Reader.weight, Expected.weight, Json.weight, weightFrames, Frame.weight]
      omega
    · cases h

end

/-- What is read in the end weighs no more than what had been read and the text that was left. -/
theorem weight_of_run {reader : Reader} {s : List Char} {v : Json} (h : reader.run s = .ok v) :
    weight v ≤ reader.weight + s.length := by
  fun_induction Reader.run reader s with
  | case1 v =>
    cases h
    simp [Reader.weight, Expected.weight]
  | case2 => cases h
  | case3 reader c r hspace ih =>
    have := ih h
    rw [List.length_cons]
    omega
  | case4 => cases h
  | case5 reader c r hspace after t hstep ih =>
    have hadded := weight_of_step hstep
    have hleft := t.2
    have := ih h
    rw [List.length_cons]
    omega

theorem weight_of_parse {text : String} {document : Json} (h : parse text = .ok document) :
    weight document ≤ text.length := by
  have hrun := weight_of_run h
  simpa [Reader.weight, Expected.weight, weightFrames, ← String.length_toList] using hrun

end CloudCanvas.Json
