/-
Strings and integers are read back from their written form: a string because each of its characters is
escaped on its own, and an integer of 64 bits because its digits have no zero in front and what follows
them is no part of a number.
-/
import CloudCanvas.Json.Parser
import CloudCanvas.Json.Printer
import CloudCanvas.Proofs.Hcl.Token

namespace CloudCanvas.Json

/-! ## Strings -/

theorem hexDigitsValue?_of_lt_0x10 : ∀ n < 0x10, (Nat.toDigits 16 n).length = 1 ∧
    Text.hexDigitsValue? ('0' :: '0' :: '0' :: Nat.toDigits 16 n) = some n := by
  decide

theorem hexDigitsValue?_of_lt_0x20 : ∀ n < 0x20, ¬ n < 0x10 → (Nat.toDigits 16 n).length = 2 ∧
    Text.hexDigitsValue? ('0' :: '0' :: Nat.toDigits 16 n) = some n := by
  decide

/-- A character is written as a backslash with its letter, as four hexadecimal digits, or as itself. -/
theorem escapeChar_cases (c : Char) :
    (∃ x, (escapeChar c).toList = ['\\', x] ∧ x ≠ 'u' ∧ shortEscape? x = some c) ∨
    (∃ ds, (escapeChar c).toList = '\\' :: 'u' :: ds ∧ ds.length = 4 ∧
      Text.hexDigitsValue? ds = some c.toNat ∧ c.toNat < 0x20) ∨
    ((escapeChar c).toList = [c] ∧ c ≠ '"' ∧ c ≠ '\\' ∧ 0x20 ≤ c.toNat) := by
  -- the written form gets a name, so that its cases are split once
  generalize hs : escapeChar c = s
  unfold escapeChar at hs
  split at hs
  · rename_i h
    subst hs
    exact .inl ⟨'"', rfl, by decide, congrArg some h.symm⟩
  split at hs
  · rename_i h
    subst hs
    exact .inl ⟨'\\', rfl, by decide, congrArg some h.symm⟩
  split at hs
  · rename_i h
    subst hs
    exact .inl ⟨'n', rfl, by decide, congrArg some h.symm⟩
  split at hs
  · rename_i h
    subst hs
    exact .inl ⟨'r', rfl, by decide, congrArg some h.symm⟩
  split at hs
  · rename_i h
    subst hs
    exact .inl ⟨'t', rfl, by decide, congrArg some h.symm⟩
  split at hs
  · rename_i h
    subst hs
    exact .inl ⟨'b', rfl, by decide, congrArg some h.symm⟩
  split at hs
  · rename_i h
    subst hs
    exact .inl ⟨'f', rfl, by decide, congrArg some h.symm⟩
  split at hs
  · rename_i h
    obtain ⟨hlen, hvalue⟩ := hexDigitsValue?_of_lt_0x10 _ h
    exact .inr (.inl ⟨'0' :: '0' :: '0' :: Nat.toDigits 16 c.toNat, by simp [← hs, Text.hexText],
      congrArg (· + 3) hlen, hvalue, by omega⟩)
  split at hs
  · rename_i h h'
    obtain ⟨hlen, hvalue⟩ := hexDigitsValue?_of_lt_0x20 _ h' h
    exact .inr (.inl ⟨'0' :: '0' :: Nat.toDigits 16 c.toNat, by simp [← hs, Text.hexText],
      congrArg (· + 2) hlen, hvalue, h'⟩)
  · rename_i hquote hslash _ _ _ _ _ _ hcontrol
    exact .inr (.inr ⟨by simp [← hs, Char.toString], hquote, hslash, Nat.le_of_not_lt hcontrol⟩)

theorem readHex_append {ds : List Char} {n : Nat} (hlen : ds.length = 4)
    (hn : Text.hexDigitsValue? ds = some n) (rest : List Char) :
    ∃ t, readHex (ds ++ rest) = .ok (n, t) ∧ t.1 = rest := by
  match ds, hlen with
  | [a, b, c, d], _ =>
    refine ⟨⟨rest, by simp +arith⟩, ?_, rfl⟩
    show readHex (a :: b :: c :: d :: rest) = _
    unfold readHex
    dsimp only
    rw [hn]

theorem readEscape_short {x c : Char} (hx : x ≠ 'u') (h : shortEscape? x = some c) (rest : List Char) :
    readEscape (x :: rest) = .ok (c, .single) := by
  unfold readEscape
  dsimp only
  rw [if_neg hx, h]

/-- The code of a control character stands for itself: it is no half of a pair. -/
theorem readEscape_hex {ds : List Char} {c : Char} (hlen : ds.length = 4)
    (hn : Text.hexDigitsValue? ds = some c.toNat) (hc : c.toNat < 0x20) (rest : List Char) :
    ∃ t, readEscape ('u' :: (ds ++ rest)) = .ok (c, t) ∧ t.1 = rest := by
  obtain ⟨t, hread, ht⟩ := readHex_append hlen hn rest
  have hlow : isLowSurrogate c.toNat = false := by
    unfold isLowSurrogate
    rw [decide_eq_false (by omega), Bool.false_and]
  have hhigh : isHighSurrogate c.toNat = false := by
    unfold isHighSurrogate
    rw [decide_eq_false (by omega), Bool.false_and]
  refine ⟨t.cons 'u', ?_, ht⟩
  unfold readEscape readCodePoint
  dsimp only
  rw [if_pos rfl, hread]
  dsimp only
  rw [hlow, hhigh, Char.ofNat_toNat]
  rfl

/-- A string without its quotes, as it is written. -/
def escaped (s : List Char) : List Char :=
  s.flatMap fun c => (escapeChar c).toList

theorem toList_quoted (s : String) : (quoted s).toList = '"' :: (escaped s.toList ++ ['"']) := by
  simp [quoted, escaped, String.toList_join, List.flatMap_map]

theorem readString_escaped (s rest : List Char) :
    ∃ t, readString (escaped s ++ '"' :: rest) = .ok (s, t) ∧ t.1 = rest := by
  induction s with
  | nil =>
    refine ⟨.single, ?_, rfl⟩
    show readString ('"' :: rest) = _
    rw [readString, if_pos rfl]
    rfl
  | cons c s ih =>
    obtain ⟨t, hread, ht⟩ := ih
    have hescaped : escaped (c :: s) ++ '"' :: rest =
        (escapeChar c).toList ++ (escaped s ++ '"' :: rest) := by
      simp [escaped]
    rw [hescaped]
    -- once the first character has been read, what is left is read as before
    have hrest : ∀ {r u} (e : Text.Rest r), readEscape r = .ok (c, e) → e.1 = escaped s ++ '"' :: rest →
        u = '\\' :: r → ∃ t, readString u = .ok (c :: s, t) ∧ t.1 = rest := by
      rintro r u ⟨e, he⟩ hr rfl rfl
      refine ⟨(Text.Rest.trans ⟨_, he⟩ t).cons '\\', ?_, ht⟩
      rw [readString, if_neg (by decide), if_pos rfl, hr]
      dsimp only
      rw [hread]
      rfl
    obtain ⟨x, hx, hne, hshort⟩ | ⟨ds, hds, hlen, hvalue, hcontrol⟩ | ⟨hself, hquote, hslash, hplain⟩ :=
      escapeChar_cases c
    · rw [hx]
      exact hrest _ (readEscape_short hne hshort _) rfl rfl
    · rw [hds]
      obtain ⟨e, he, hleft⟩ := readEscape_hex hlen hvalue hcontrol (escaped s ++ '"' :: rest)
      exact hrest e he hleft rfl
    · rw [hself]
      refine ⟨t.cons c, ?_, ht⟩
      show readString (c :: (escaped s ++ '"' :: rest)) = _
      rw [readString, if_neg hquote, if_neg hslash, if_neg (Nat.not_lt.2 hplain), hread]
      rfl

/-! ## Integers -/

/-- Whether an integer fits a word of 64 bits, signed or unsigned. -/
def fitsWord (n : Int) : Bool :=
  Number.fitsSigned n || Number.fitsUnsigned n

theorem fitsUnsigned_of_fitsWord {m : Nat} (h : fitsWord m = true) : Number.fitsUnsigned m = true := by
  have h63 : powerOfTwo 63 = 2 ^ 63 := rfl
  have h64 : powerOfTwo 64 = 2 ^ 64 := rfl
  simp only [fitsWord, Number.fitsSigned, Number.fitsUnsigned, Bool.or_eq_true, Bool.and_eq_true,
    decide_eq_true_eq, h63, h64] at h ⊢
  omega

theorem fitsSigned_of_fitsWord {m : Nat} (hm : m ≠ 0) (h : fitsWord (-m) = true) :
    Number.fitsSigned (-m) = true := by
  rw [fitsWord, Bool.or_eq_true] at h
  refine h.resolve_right fun hu => ?_
  rw [Number.fitsUnsigned, Bool.and_eq_true, decide_eq_true_eq] at hu
  omega

/-- What follows a value in a written document: a comma or a line break, or nothing. -/
def EndsValue (rest : List Char) : Prop :=
  ∀ c ∈ rest.head?, c = ',' ∨ c = '\n'

theorem EndsValue.stops {rest : List Char} (h : EndsValue rest) {p : Char → Bool} (hcomma : p ',' = false)
    (hbreak : p '\n' = false) : Hcl.Stops p rest := by
  intro c hc
  rcases h c hc with rfl | rfl
  · exact hcomma
  · exact hbreak

theorem head_toDigits_ne_zero {n : Nat} (h : n ≠ 0) : (Nat.toDigits 10 n).head? ≠ some '0' := by
  induction n using Nat.strongRecOn with
  | _ n ih =>
    rw [Nat.toDigits_eq_if (by decide)]
    split
    · simpa using h
    · have hhead := ih (n / 10) (by omega) (by omega)
      cases hd : Nat.toDigits 10 (n / 10) with
      | nil => exact absurd hd Nat.toDigits_ne_nil
      | cons c ds => rw [hd] at hhead; exact hhead

/-- No zero stands in front of another digit. -/
theorem toDigits_ne_zero_cons (n : Nat) (c : Char) (ds : List Char) : Nat.toDigits 10 n ≠ '0' :: c :: ds := by
  intro h
  by_cases hn : n = 0
  · rw [hn] at h
    cases h
  · exact head_toDigits_ne_zero hn (by rw [h]; rfl)

theorem digitsValue_toDigits (n : Nat) : digitsValue 0 (Nat.toDigits 10 n) = n :=
  Nat.ofDigitChars_toDigits (by decide) (by decide)

theorem readWhole_toDigits (n : Nat) {rest : List Char} (h : Hcl.Stops Char.isDigit rest) :
    ∃ t, readWhole (Nat.toDigits 10 n ++ rest) = .ok (Nat.toDigits 10 n, t) ∧ t.1 = rest := by
  have hdigits : ∀ c ∈ Nat.toDigits 10 n, c.isDigit = true := fun _ => isDigit_of_mem_toDigits
  have hzero := toDigits_ne_zero_cons n
  cases hd : Nat.toDigits 10 n with
  | nil => exact absurd hd Nat.toDigits_ne_nil
  | cons c ds =>
    rw [hd] at hdigits hzero
    rw [List.forall_mem_cons] at hdigits
    have hread : readDigits (c :: ds ++ rest) =
        .ok (c :: ds, (Text.dropping Char.isDigit (ds ++ rest)).cons c) := by
      show readDigits (c :: (ds ++ rest)) = _
      unfold readDigits
      dsimp only
      rw [if_pos hdigits.1, Hcl.takeWhile_append_of_stops hdigits.2 h]
    refine ⟨(Text.dropping Char.isDigit (ds ++ rest)).cons c, ?_, ?_⟩
    · unfold readWhole
      rw [hread]
      split
      · rename_i heq
        cases heq
        exact absurd rfl (hzero _ _)
      · rfl
    · show (ds ++ rest).dropWhile Char.isDigit = rest
      have happend := List.takeWhile_append_dropWhile (p := Char.isDigit) (l := ds ++ rest)
      rw [Hcl.takeWhile_append_of_stops hdigits.2 h] at happend
      exact List.append_cancel_left happend

theorem numberOfParts_integer {negative : Bool} {m : Nat}
    (h : if negative then m ≠ 0 ∧ Number.fitsSigned (-m) = true else Number.fitsUnsigned m = true) :
    numberOfParts negative (Nat.toDigits 10 m) [] none =
      .ok (.integer (if negative then -(m : Int) else m)) := by
  unfold numberOfParts
  dsimp only
  rw [digitsValue_toDigits]
  cases negative with
  | true =>
    obtain ⟨hm, hfits⟩ := h
    simp [hm, hfits]
  | false =>
    have hfits : Number.fitsUnsigned m = true := h
    simp [hfits]

theorem EndsValue.readFraction {s : List Char} (h : EndsValue s) : readFraction s = .ok ([], .all) := by
  unfold Json.readFraction
  split
  · exact absurd (h '.' rfl) (by decide)
  · rfl

theorem EndsValue.readExponent {s : List Char} (h : EndsValue s) : readExponent s = .ok (none, .all) := by
  unfold Json.readExponent
  split
  · rfl
  · rename_i c r
    rcases h c rfl with rfl | rfl <;> rfl

theorem readUnsigned_toDigits (negative : Bool) {m : Nat} {rest : List Char} (hrest : EndsValue rest)
    (h : if negative then m ≠ 0 ∧ Number.fitsSigned (-m) = true else Number.fitsUnsigned m = true) :
    ∃ t, readUnsigned negative (Nat.toDigits 10 m ++ rest) =
      .ok (.integer (if negative then -(m : Int) else m), t) ∧ t.1 = rest := by
  obtain ⟨t, hwhole, ht⟩ := readWhole_toDigits m (hrest.stops (p := Char.isDigit) rfl rfl)
  rw [← ht] at hrest
  refine ⟨t.transLeft (.trans .all .all), ?_, ht⟩
  unfold readUnsigned
  rw [hwhole]
  dsimp only
  rw [hrest.readFraction]
  dsimp only [Text.Left.all]
  rw [hrest.readExponent]
  dsimp only
  rw [numberOfParts_integer h]
  rfl

end CloudCanvas.Json
