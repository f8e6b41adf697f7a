/-
A document whose numbers are integers of 64 bits and which is not nested too deeply is read back from its
text over several lines. What is read is the document with the fields of its objects in increasing order of
their keys.
-/
import CloudCanvas.Proofs.Json.Scalar

namespace CloudCanvas.Json

/-! ## What is read back -/

mutual

/-- The value with the fields of every object in increasing order of their keys; of the fields with one key
the last stays. -/
def sorted : Json → Json
  | .array items => .array (sortedItems items)
  | .object fields => .object (sortedFields [] fields)
  | .null => .null
  | .boolean b => .boolean b
  | .number n => .number n
  | .string s => .string s

/-- Items with sorted fields. -/
def sortedItems : List Json → List Json
  | [] => []
  | v :: rest => sorted v :: sortedItems rest

/-- Fields that have been sorted so far, and the others put in their places. -/
def sortedFields (done : Fields) : List (String × Json) → Fields
  | [] => done
  | (key, v) :: rest => sortedFields (Keyed.insert key (sorted v) done) rest

end

theorem sortedItems_eq_map (items : List Json) : sortedItems items = items.map sorted := by
  induction items with
  | nil => rfl
  | cons v items ih => rw [sortedItems, ih, List.map_cons]

/-- All numbers of the value are integers of 64 bits, and its arrays and objects stand at most `room` deep
inside one another. -/
inductive Readable : Nat → Json → Prop
  | null {room : Nat} : Readable room .null
  | boolean {room : Nat} (b : Bool) : Readable room (.boolean b)
  | integer {room : Nat} {n : Int} (h : fitsWord n = true) : Readable room (.number (.integer n))
  | string {room : Nat} (s : String) : Readable room (.string s)
  | array {room : Nat} {items : List Json} (h : ∀ v ∈ items, Readable room v) :
    Readable (room + 1) (.array items)
  | object {room : Nat} {fields : List (String × Json)} (h : ∀ field ∈ fields, Readable room field.2) :
    Readable (room + 1) (.object fields)

/-! ## Steps of the reader -/

section

variable {reader after : Reader} {stack : List Frame} {e : Expected}

theorem run_space {c : Char} (h : isSpace c = true) (s : List Char) :
    reader.run (c :: s) = reader.run s := by
  rw [Reader.run, if_pos h]

theorem run_newLine (depth : Nat) (s : List Char) :
    reader.run ((newLine depth).toList ++ s) = reader.run s := by
  have hspaces : ∀ n, reader.run (List.replicate n ' ' ++ s) = reader.run s := by
    intro n
    induction n with
    | zero => rfl
    | succ n ih => exact (run_space rfl _).trans ih
  have hline : (newLine depth).toList = '\n' :: List.replicate (2 * depth) ' ' := by simp [newLine]
  rw [hline]
  exact (run_space rfl _).trans (hspaces _)

theorem run_of_step {c : Char} {r rest : List Char} (hc : isSpace c = false)
    (h : ∃ t, reader.step c r = .ok (after, t) ∧ t.1 = rest) : reader.run (c :: r) = after.run rest := by
  obtain ⟨t, hstep, rfl⟩ := h
  rw [Reader.run, hc, if_neg Bool.false_ne_true, hstep]

/-- One character that is a part of its own has been read. -/
theorem run_of_step_all {c : Char} {r : List Char} (hc : isSpace c = false)
    (h : reader.step c r = .ok (after, .all)) : reader.run (c :: r) = after.run r :=
  run_of_step hc ⟨.all, h, rfl⟩

/-- A value may come next: anywhere, or as the first item of an array. -/
def StartsValue (e : Expected) : Prop :=
  e = .value ∨ e = .firstItem

/-- The reader takes the text `s` for the value `v`, wherever a value may come next. -/
def ReadAs (stack : List Frame) (s : List Char) (v : Json) : Prop :=
  ∀ e, StartsValue e → ∀ rest, EndsValue rest →
    Reader.run ⟨e, stack⟩ (s ++ rest) = Reader.run ⟨.next v, stack⟩ rest

theorem run_of_start (he : StartsValue e) {c : Char} {r rest : List Char} (hc : isSpace c = false)
    (hclose : c ≠ ']') (h : ∃ t, Reader.start stack c r = .ok (after, t) ∧ t.1 = rest) :
    Reader.run ⟨e, stack⟩ (c :: r) = after.run rest := by
  refine run_of_step hc ?_
  rcases he with rfl | rfl
  · exact h
  · unfold Reader.step
    dsimp only
    rw [if_neg hclose]
    exact h

/-! ## Scalars -/

theorem readAs_of_readScalar {s : List Char} {v : Json} {c : Char} {r : List Char} (hs : s = c :: r)
    (hc : isSpace c = false) (hopen : ¬ (c = '[' ∨ c = '\x7b')) (hclose : c ≠ ']')
    (h : ∀ rest, EndsValue rest → ∃ t, readScalar c (r ++ rest) = .ok (v, t) ∧ t.1 = rest) :
    ReadAs stack s v := by
  intro e he rest hrest
  obtain ⟨t, hread, ht⟩ := h rest hrest
  rw [hs, List.cons_append]
  refine run_of_start he hc hclose ⟨t, ?_, ht⟩
  unfold Reader.start
  rw [if_neg hopen, hread]
  rfl

theorem readAs_null : ReadAs stack "null".toList .null :=
  readAs_of_readScalar (c := 'n') rfl rfl (by decide) (by decide) fun _ _ => ⟨_, rfl, rfl⟩

theorem readAs_boolean (b : Bool) : ReadAs stack (toString b).toList (.boolean b) := by
  cases b with
  | true =>
    exact readAs_of_readScalar (c := 't') rfl rfl (by decide) (by decide) fun _ _ => ⟨_, rfl, rfl⟩
  | false =>
    exact readAs_of_readScalar (c := 'f') rfl rfl (by decide) (by decide) fun _ _ => ⟨_, rfl, rfl⟩

theorem readAs_string (s : String) : ReadAs stack (quoted s).toList (.string s) := by
  refine readAs_of_readScalar (toList_quoted s) rfl (by decide) (by decide) fun rest _ => ?_
  obtain ⟨t, hread, ht⟩ := readString_escaped s.toList rest
  rw [List.append_assoc]
  refine ⟨t.toLeft, ?_, ht⟩
  unfold readScalar
  rw [if_pos rfl]
  show (readString (escaped s.toList ++ '"' :: rest)).map _ = _
  rw [hread]
  simp [Except.map, String.ofList_toList]

theorem readAs_natural {m : Nat} (h : Number.fitsUnsigned m = true) :
    ReadAs stack (Nat.toDigits 10 m) (.number (.integer m)) := by
  cases hd : Nat.toDigits 10 m with
  | nil => exact absurd hd Nat.toDigits_ne_nil
  | cons c ds =>
    have hc : c.isDigit = true := isDigit_of_mem_toDigits (by rw [hd]; exact List.mem_cons_self ..)
    have hne : ∀ {d : Char}, d.isDigit = false → c ≠ d := Hcl.ne_of_class hc
    refine readAs_of_readScalar rfl ?_ ?_ (hne rfl) fun rest hrest => ?_
    · simp [isSpace, hne (d := ' ') rfl, hne (d := '\t') rfl, hne (d := '\n') rfl, hne (d := '\r') rfl]
    · rintro (h | h)
      · exact hne rfl h
      · exact hne rfl h
    · have hread := readUnsigned_toDigits false hrest h
      rw [hd] at hread
      obtain ⟨t, hread, ht⟩ := hread
      refine ⟨.ofTail t, ?_, ht⟩
      unfold readScalar
      rw [if_neg (hne rfl), if_neg (hne rfl), if_pos hc]
      show (readUnsigned false (c :: ds ++ rest)).map _ = _
      rw [hread]
      rfl

theorem readAs_negative {m : Nat} (hm : m ≠ 0) (h : Number.fitsSigned (-m) = true) :
    ReadAs stack ('-' :: Nat.toDigits 10 m) (.number (.integer (-m))) := by
  refine readAs_of_readScalar rfl rfl (by decide) (by decide) fun rest hrest => ?_
  obtain ⟨t, hread, ht⟩ := readUnsigned_toDigits true hrest ⟨hm, h⟩
  refine ⟨t.toLeft, ?_, ht⟩
  unfold readScalar
  rw [if_neg (by decide), if_pos rfl, hread]
  rfl

theorem readAs_integer {n : Int} (h : fitsWord n = true) :
    ReadAs stack (toString n).toList (.number (.integer n)) := by
  cases n with
  | ofNat m =>
    have htext : (toString (Int.ofNat m)).toList = Nat.toDigits 10 m := String.toList_ofList
    rw [htext]
    exact readAs_natural (fitsUnsigned_of_fitsWord h)
  | negSucc m =>
    have htext : (toString (Int.negSucc m)).toList = '-' :: Nat.toDigits 10 (m + 1) := by
      show ("-" ++ String.ofList (Nat.toDigits 10 (m + 1))).toList = _
      simp
    rw [htext]
    exact readAs_negative (Nat.succ_ne_zero m) (fitsSigned_of_fitsWord (Nat.succ_ne_zero m) h)

/-! ## Parts between brackets -/

theorem toList_intercalate_cons_cons (depth : Nat) (s t : String) (parts : List String) :
    (("," ++ newLine depth).intercalate (s :: t :: parts)).toList =
      s.toList ++ ',' :: ((newLine depth).toList ++ (("," ++ newLine depth).intercalate (t :: parts)).toList) := by
  rw [String.intercalate_cons_cons]
  simp

theorem toList_enclosed {opening closing : String} {depth : Nat} {parts : List String} (h : parts ≠ []) :
    (enclosed opening closing depth parts).toList = opening.toList ++ ((newLine (depth + 1)).toList ++
      ((("," ++ newLine (depth + 1)).intercalate parts).toList ++
        ((newLine depth).toList ++ closing.toList))) := by
  unfold enclosed
  rw [if_neg (by simpa using h)]
  simp only [String.toList_append, List.append_assoc]

/-! ## Arrays -/

/-- Items that are each read back are read back together, up to the bracket that closes the array. -/
theorem run_items {depth outer : Nat} {items : List Json} (hne : items ≠ [])
    (h : ∀ v ∈ items, ∀ done, ReadAs (.items done :: stack) (indented depth v).toList (sorted v))
    (he : StartsValue e) (done : List Json) (rest : List Char) :
    Reader.run ⟨e, .items done :: stack⟩ ((("," ++ newLine depth).intercalate
      (indentedItems depth items)).toList ++ ((newLine outer).toList ++ ']' :: rest)) =
      Reader.run ⟨.next (.array (done.reverse ++ sortedItems items)), stack⟩ rest := by
  induction items generalizing e done with
  | nil => exact absurd rfl hne
  | cons v items ih =>
    rw [List.forall_mem_cons] at h
    cases items with
    | nil =>
      have hparts : ("," ++ newLine depth).intercalate (indentedItems depth [v]) = indented depth v :=
        String.intercalate_singleton
      rw [hparts, h.1 done e he _ (by simp [EndsValue, newLine]), run_newLine,
        run_of_step_all rfl rfl, List.reverse_cons]
      rfl
    | cons w items =>
      rw [indentedItems, indentedItems, toList_intercalate_cons_cons, List.append_assoc,
        h.1 done e he _ (by simp [EndsValue]), List.cons_append, run_of_step_all rfl rfl, List.append_assoc,
        run_newLine]
      refine (ih (List.cons_ne_nil _ _) h.2 (.inl rfl) (sorted v :: done)).trans ?_
      rw [List.reverse_cons, List.append_assoc]
      rfl

theorem readAs_array {depth : Nat} {items : List Json} (hroom : stack.length < depthLimit)
    (h : ∀ v ∈ items, ∀ done, ReadAs (.items done :: stack) (indented (depth + 1) v).toList (sorted v)) :
    ReadAs stack (indented depth (.array items)).toList (.array (sortedItems items)) := by
  intro e he rest hrest
  have hopen : ∀ r, ∃ t, Reader.start stack '[' r = .ok (⟨.firstItem, .items [] :: stack⟩, t) ∧ t.1 = r := by
    intro r
    refine ⟨.all, ?_, rfl⟩
    unfold Reader.start
    rw [if_pos (.inl rfl), if_neg (Nat.not_le.2 hroom), if_pos rfl]
  cases items with
  | nil =>
    have htext : (indented depth (.array [])).toList ++ rest = '[' :: ']' :: rest := by
      simp [indented, indentedItems, enclosed]
    rw [htext, run_of_start he rfl (by decide) (hopen _)]
    exact run_of_step_all rfl rfl
  | cons v items =>
    have hne : indentedItems (depth + 1) (v :: items) ≠ [] := List.cons_ne_nil _ _
    have htext : (indented depth (.array (v :: items))).toList ++ rest =
        '[' :: ((newLine (depth + 1)).toList ++ ((("," ++ newLine (depth + 1)).intercalate
          (indentedItems (depth + 1) (v :: items))).toList ++ ((newLine depth).toList ++ ']' :: rest))) := by
      rw [indented, toList_enclosed hne]
      simp
    rw [htext, run_of_start he rfl (by decide) (hopen _), run_newLine]
    exact run_items (List.cons_ne_nil _ _) h (.inr rfl) [] rest

/-! ## Objects -/

/-- A key may come next, behind the fields that have been read so far. -/
def StartsField (e : Expected) (done : Fields) : Prop :=
  e = .key done ∨ e = .firstKey ∧ done = []

theorem run_field {s key : String} {v : Json} {done : Fields} (he : StartsField e done)
    (h : ReadAs (.member done key :: stack) s.toList v) {rest : List Char} (hrest : EndsValue rest) :
    Reader.run ⟨e, stack⟩ ((quoted key ++ ": " ++ s).toList ++ rest) =
      Reader.run ⟨.next v, .member done key :: stack⟩ rest := by
  have htext : (quoted key ++ ": " ++ s).toList ++ rest =
      '"' :: (escaped key.toList ++ '"' :: ':' :: ' ' :: (s.toList ++ rest)) := by
    simp [toList_quoted]
  obtain ⟨t, hread, ht⟩ := readString_escaped key.toList (':' :: ' ' :: (s.toList ++ rest))
  have hstart : Reader.startField done stack '"' (escaped key.toList ++ '"' :: ':' :: ' ' :: (s.toList ++ rest)) =
      .ok (⟨.colon done key, stack⟩, t.toLeft) := by
    unfold Reader.startField
    rw [if_pos rfl, hread]
    simp [Except.map, String.ofList_toList]
  have hkey : Reader.run ⟨e, stack⟩ ('"' :: (escaped key.toList ++ '"' :: ':' :: ' ' :: (s.toList ++ rest))) =
      Reader.run ⟨.colon done key, stack⟩ (':' :: ' ' :: (s.toList ++ rest)) := by
    refine run_of_step rfl ⟨t.toLeft, ?_, ht⟩
    rcases he with rfl | ⟨rfl, rfl⟩
    · exact hstart
    · exact hstart
  rw [htext, hkey, run_of_step_all rfl rfl]
  exact (run_space rfl _).trans (h _ (.inl rfl) rest hrest)

/-- Fields that are each read back are read back together, up to the bracket that closes the object. -/
theorem run_fields {depth outer : Nat} {fields : List (String × Json)} (hne : fields ≠ [])
    (h : ∀ field ∈ fields, ∀ done key,
      ReadAs (.member done key :: stack) (indented depth field.2).toList (sorted field.2))
    {done : Fields} (he : StartsField e done) (rest : List Char) :
    Reader.run ⟨e, stack⟩ ((("," ++ newLine depth).intercalate
      (indentedFields depth fields)).toList ++ ((newLine outer).toList ++ '\x7d' :: rest)) =
      Reader.run ⟨.next (.object (sortedFields done fields)), stack⟩ rest := by
  induction fields generalizing e done with
  | nil => exact absurd rfl hne
  | cons field fields ih =>
    obtain ⟨key, v⟩ := field
    rw [List.forall_mem_cons] at h
    cases fields with
    | nil =>
      have hparts : ("," ++ newLine depth).intercalate (indentedFields depth [(key, v)]) =
          quoted key ++ ": " ++ indented depth v :=
        String.intercalate_singleton
      rw [hparts, run_field he (h.1 done key) (by simp [EndsValue, newLine]), run_newLine]
      exact run_of_step_all rfl rfl
    | cons next fields =>
      obtain ⟨key', w⟩ := next
      rw [indentedFields, indentedFields, toList_intercalate_cons_cons, List.append_assoc,
        run_field he (h.1 done key) (by simp [EndsValue]), List.cons_append, run_of_step_all rfl rfl,
        List.append_assoc, run_newLine]
      exact ih (List.cons_ne_nil _ _) h.2 (.inl rfl)

theorem readAs_object {depth : Nat} {fields : List (String × Json)} (hroom : stack.length < depthLimit)
    (h : ∀ field ∈ fields, ∀ done key,
      ReadAs (.member done key :: stack) (indented (depth + 1) field.2).toList (sorted field.2)) :
    ReadAs stack (indented depth (.object fields)).toList (.object (sortedFields [] fields)) := by
  intro e he rest hrest
  have hopen : ∀ r, ∃ t, Reader.start stack '\x7b' r = .ok (⟨.firstKey, stack⟩, t) ∧ t.1 = r := by
    intro r
    refine ⟨.all, ?_, rfl⟩
    unfold Reader.start
    rw [if_pos (.inr rfl), if_neg (Nat.not_le.2 hroom), if_neg (by decide)]
  cases fields with
  | nil =>
    have htext : (indented depth (.object [])).toList ++ rest = '\x7b' :: '\x7d' :: rest := by
      simp [indented, indentedFields, enclosed]
    rw [htext, run_of_start he rfl (by decide) (hopen _)]
    exact run_of_step_all rfl rfl
  | cons field fields =>
    have hne : indentedFields (depth + 1) (field :: fields) ≠ [] := List.cons_ne_nil _ _
    have htext : (indented depth (.object (field :: fields))).toList ++ rest =
        '\x7b' :: ((newLine (depth + 1)).toList ++ ((("," ++ newLine (depth + 1)).intercalate
          (indentedFields (depth + 1) (field :: fields))).toList ++ ((newLine depth).toList ++ '\x7d' :: rest))) := by
      rw [indented, toList_enclosed hne]
      simp
    rw [htext, run_of_start he rfl (by decide) (hopen _), run_newLine]
    exact run_fields (List.cons_ne_nil _ _) h (.inr ⟨rfl, rfl⟩) rest

/-! ## Documents -/

/-- A value is read back wherever there is room for the arrays and objects in it. -/
theorem readAs_indented {room : Nat} {v : Json} (h : Readable room v) (depth : Nat) {stack : List Frame}
    (hroom : stack.length + room ≤ depthLimit) : ReadAs stack (indented depth v).toList (sorted v) := by
  induction h generalizing depth stack with
  | null => exact readAs_null
  | boolean b => exact readAs_boolean b
  | integer h => exact readAs_integer h
  | string s => exact readAs_string s
  | array h ih =>
    exact readAs_array (by omega) fun v hv done =>
      ih v hv (depth + 1) (by rw [List.length_cons]; omega)
  | object h ih =>
    exact readAs_object (by omega) fun field hfield done key =>
      ih field hfield (depth + 1) (by rw [List.length_cons]; omega)

/-- A document that is printed, with the line break behind it, is read back. -/
theorem parse_pretty {v : Json} (h : Readable depthLimit v) : parse (v.pretty ++ "\n") = .ok (sorted v) := by
  unfold parse
  rw [String.toList_append]
  refine (readAs_indented h 0 (by simp) _ (.inl rfl) _ (by simp [EndsValue])).trans ?_
  refine (run_space rfl []).trans ?_
  rw [Reader.run]

end

end CloudCanvas.Json
