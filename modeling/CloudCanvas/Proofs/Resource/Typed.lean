/-
Values typed into a text box. The text of a truth value, or of an integer that fits a signed word, reads as
that value, with white space allowed at both ends. The text of an integer that fits an unsigned word only
reads as the nearest binary64 number, and so not as the integer that a document would hold.
-/
import CloudCanvas.Proofs.Json.Scalar
import CloudCanvas.Proofs.Number.Rounding
import CloudCanvas.Proofs.Text.Blank
import CloudCanvas.Resource.Coercion

namespace CloudCanvas

open Text (IsPadded IsSolid)

/-! ## Texts of integers -/

theorem isWhite_of_isNumeralChar {c : Char} (h : isNumeralChar c = true) : Text.isWhite c = false := by
  refine Bool.eq_false_iff.2 fun hc => ?_
  unfold isNumeralChar at h
  rw [Text.not_isDigit_of_isWhite hc] at h
  simp only [Bool.false_or, Bool.or_eq_true, beq_iff_eq] at h
  rcases h with ((rfl | rfl) | rfl) | rfl
  all_goals exact absurd hc (by decide)

theorem isSolid_toString (n : Int) : IsSolid (toString n) := by
  have hchars : ∀ c ∈ (toString n).toList, ¬ Text.isWhite c = true := fun c hc =>
    Bool.eq_false_iff.1 (isWhite_of_isNumeralChar (Number.isNumeralChar_text (.integer n) c hc))
  refine ⟨?_, List.any_eq_false.2 hchars⟩
  obtain ⟨c, rest, hc, -⟩ := Number.exists_leading (.integer n)
  intro he
  have hnil : (Number.integer n).text.toList = [] := String.toList_eq_nil_iff.2 he
  rw [hc] at hnil
  cases hnil

theorem toList_toString_natCast (n : Nat) : (toString (n : Int)).toList = Nat.toDigits 10 n := by
  rw [Int.toString_eq_repr, Int.repr_eq_if, if_pos (Int.natCast_nonneg n), Nat.toList_repr, Int.toNat_natCast]

theorem toList_toString_neg {n : Nat} (h : n ≠ 0) :
    (toString (-(n : Int))).toList = '-' :: Nat.toDigits 10 n := by
  have hneg : ¬ 0 ≤ -(n : Int) := by omega
  rw [Int.toString_eq_repr, Int.repr_eq_if, if_neg hneg, Int.neg_neg, Int.toNat_natCast, String.toList_append,
    Nat.toList_repr]
  rfl

namespace Decimal

theorem splitSign_toDigits (n : Nat) : splitSign (Nat.toDigits 10 n) = (false, Nat.toDigits 10 n) := by
  have hdigits : ∀ c ∈ Nat.toDigits 10 n, c.isDigit = true := fun _ => isDigit_of_mem_toDigits
  unfold splitSign
  split
  · rename_i heq
    exact absurd (hdigits '-' (by rw [heq]; exact List.mem_cons_self ..)) (by decide)
  · rename_i heq
    exact absurd (hdigits '+' (by rw [heq]; exact List.mem_cons_self ..)) (by decide)
  · rfl

theorem readInteger?_of_splitSign {s : List Char} {negative : Bool} {n : Nat}
    (h : splitSign s = (negative, Nat.toDigits 10 n)) :
    readInteger? s = some (if negative then -(n : Int) else n) := by
  have hall : (Nat.toDigits 10 n).all Char.isDigit = true :=
    List.all_eq_true.2 fun _ => isDigit_of_mem_toDigits
  have hdigits : ((Nat.toDigits 10 n).isEmpty || !(Nat.toDigits 10 n).all Char.isDigit) = false := by
    rw [hall, Bool.or_eq_false_iff]
    exact ⟨List.isEmpty_eq_false_iff.2 Nat.toDigits_ne_nil, rfl⟩
  unfold readInteger?
  rw [h]
  dsimp only
  rw [hdigits, if_neg Bool.false_ne_true, Json.digitsValue_toDigits]
  cases negative <;> rfl

theorem readInteger?_toString (n : Int) : readInteger? (toString n).toList = some n := by
  obtain ⟨m, rfl | rfl⟩ := Int.eq_nat_or_neg n
  · rw [toList_toString_natCast]
    exact readInteger?_of_splitSign (splitSign_toDigits m)
  · by_cases hm : m = 0
    · subst hm
      rfl
    · rw [toList_toString_neg hm]
      exact readInteger?_of_splitSign (show splitSign ('-' :: _) = (true, _) from rfl)

theorem read?_toDigits (n : Nat) : read? (Nat.toDigits 10 n) = some ⟨false, n, 0⟩ := by
  have hall : ∀ c ∈ Nat.toDigits 10 n, c.isDigit = true := fun _ => isDigit_of_mem_toDigits
  have htake : (Nat.toDigits 10 n).takeWhile Char.isDigit = Nat.toDigits 10 n :=
    List.takeWhile_eq_self_iff.2 hall
  have hdrop : (Nat.toDigits 10 n).dropWhile Char.isDigit = [] := List.dropWhile_eq_nil_iff.2 hall
  unfold read?
  rw [splitSign_toDigits]
  dsimp only
  rw [htake, hdrop]
  show (if ((Nat.toDigits 10 n).isEmpty && true) = true then none else some _) = _
  rw [Bool.and_true, List.isEmpty_eq_false_iff.2 Nat.toDigits_ne_nil, if_neg Bool.false_ne_true]
  show some (Decimal.mk false (digitsValue 0 (Nat.toDigits 10 n ++ [])) 0) = _
  rw [List.append_nil, Json.digitsValue_toDigits]

/-- A whole number within the range of binary64 is rounded as it is. -/
theorem toBinary64?_of_digitCount {n : Nat} (hn : n ≠ 0) (h : digitCount n ≤ 309) :
    toBinary64? ⟨false, n, 0⟩ = Binary64.ofRatio? false n 1 := by
  unfold toBinary64?
  dsimp only
  rw [if_neg hn, if_neg (by omega), if_neg (by omega)]
  show Binary64.ofRatio? false (n * powerOfTen 0) 1 = _
  rw [show n * powerOfTen 0 = n from Nat.mul_one n]

end Decimal

/-! ## Texts as numbers -/

namespace Number

theorem ofNumeral?_of_fitsSigned {n : Int} (h : fitsSigned n = true) :
    ofNumeral? (toString n).toList = some (.integer n) := by
  unfold ofNumeral?
  rw [Decimal.readInteger?_toString]
  exact if_pos h

/-- What the text of an integer beyond the signed words stands for: the nearest binary64 number. -/
theorem ofNumeral?_of_fitsUnsigned {n : Nat} (hsigned : fitsSigned n = false) (h : fitsUnsigned n = true) :
    ∃ x, ofNumeral? (toString (n : Int)).toList = some (.real x) ∧ x.negative = false ∧ 0 ≤ x.exponent ∧
      Binary64.IsNearestMultiple (powerOfTwo 11) n (x.mantissa * powerOfTwo x.exponent.toNat) := by
  have h63 : powerOfTwo 63 = 2 ^ 63 := rfl
  have h64 : powerOfTwo 64 = 2 ^ 64 := rfl
  have hlow : 2 ^ 63 ≤ n := by
    simp only [fitsSigned, Bool.and_eq_false_iff, decide_eq_false_iff_not, h63] at hsigned
    omega
  have hhigh : n < 2 ^ 64 := by
    simp only [fitsUnsigned, Bool.and_eq_true, decide_eq_true_eq, h64] at h
    omega
  have hn : n ≠ 0 := by omega
  have hlog : n.log2 = 11 + 52 := (Nat.log2_eq_iff hn).2 ⟨hlow, hhigh⟩
  have hcount : Decimal.digitCount n ≤ 20 :=
    (Nat.length_toDigits_le_iff (by decide) (by decide)).2 (Nat.lt_trans hhigh (by decide))
  obtain ⟨x, hx, hsign, hexponent, hvalue⟩ := Binary64.ofRatio?_of_log2 hlog (by decide) (by decide)
  refine ⟨x, ?_, hsign, hexponent, ?_⟩
  · unfold ofNumeral?
    rw [Decimal.readInteger?_toString]
    dsimp only
    rw [hsigned, if_neg Bool.false_ne_true, ofNumeral?.asReal, toList_toString_natCast,
      Decimal.read?_toDigits]
    show (Decimal.toBinary64? ⟨false, n, 0⟩).bind _ = _
    rw [Decimal.toBinary64?_of_digitCount hn (by omega), hx]
    rfl
  · rw [hvalue]
    exact Binary64.isNearestMultiple_roundHalfEven n (powerOfTwo_pos 11)

end Number

/-! ## Typed values -/

namespace Json

variable {text s : String}

theorem asNumber?_of_isPadded (h : IsPadded text s) (hs : IsSolid s) {n : Number}
    (hn : Number.ofNumeral? s.toList = some n) : (string text).asNumber? = .ok (some n) := by
  show (if Text.isBlank text = true then _ else _) = _
  rw [h.isBlank_eq_false hs, if_neg Bool.false_ne_true, h.trimChars_eq hs, hn]

theorem isSolid_toString_bool (b : Bool) : IsSolid (toString b) := by
  cases b <;> exact ⟨by decide, by decide⟩

theorem asBool?_of_isPadded {b : Bool} (h : IsPadded text (toString b)) :
    (string text).asBool? = .ok (some b) := by
  unfold asBool?
  dsimp only
  rw [h.trim_eq (isSolid_toString_bool b)]
  cases b <;> rfl

/-- The text of an integer beyond the signed words reads as the nearest binary64 number. -/
theorem exists_real_of_isPadded {n : Int} (hn : fitsWord n = true) (hsigned : Number.fitsSigned n = false)
    (h : IsPadded text (toString n)) :
    ∃ x, (string text).asNumber? = .ok (some (.real x)) ∧ x.negative = false ∧ 0 ≤ x.exponent ∧
      Binary64.IsNearestMultiple (powerOfTwo 11) n.toNat (x.mantissa * powerOfTwo x.exponent.toNat) := by
  have hunsigned : Number.fitsUnsigned n = true :=
    (Bool.or_eq_true_iff.1 hn).resolve_left (Bool.eq_false_iff.1 hsigned)
  obtain ⟨m, rfl⟩ := Int.eq_ofNat_of_zero_le (a := n) (of_decide_eq_true (Bool.and_eq_true_iff.1 hunsigned).1)
  obtain ⟨x, hx, hvalue⟩ := Number.ofNumeral?_of_fitsUnsigned hsigned hunsigned
  exact ⟨x, asNumber?_of_isPadded h (isSolid_toString m) hx, hvalue⟩

/-- The text of an integer reads as the integer exactly when that fits a signed word. -/
theorem asNumber?_eq_iff {n : Int} (hn : fitsWord n = true) (h : IsPadded text (toString n)) :
    (string text).asNumber? = (number (.integer n)).asNumber? ↔ Number.fitsSigned n = true := by
  constructor
  · intro heq
    by_contra hsigned
    obtain ⟨x, hx, -⟩ := exists_real_of_isPadded hn (Bool.eq_false_iff.2 hsigned) h
    rw [hx] at heq
    cases heq
  · intro hsigned
    exact asNumber?_of_isPadded h (isSolid_toString n) (Number.ofNumeral?_of_fitsSigned hsigned)

/-- A text in the place of a value: that of an integer of 64 bits in a number field, or that of a truth
value in a checkbox. -/
inductive Typed : FieldType → Json → Json → Prop
  | integer {n : Int} {text : String} : fitsWord n = true → IsPadded text (toString n) →
    Typed .number (number (.integer n)) (string text)
  | boolean {b : Bool} {text : String} : IsPadded text (toString b) →
    Typed .boolean (boolean b) (string text)

/-- A text reads as the value in whose place it stands, or as a binary64 number where that is an integer
beyond the signed words. -/
theorem Typed.read_cases {type : FieldType} {v v' : Json} (h : Typed type v v') :
    (type.read v' = type.read v ∧ ∀ n, v = number (.integer n) → Number.fitsSigned n = true) ∨
      type = .number ∧ ∃ n x, v = number (.integer n) ∧ Number.fitsSigned n = false ∧
        type.read v = .ok (some (.number (.integer n))) ∧ type.read v' = .ok (some (.number (.real x))) := by
  cases h with
  | @integer n text hn ht =>
    unfold FieldType.read
    dsimp only
    cases hsigned : Number.fitsSigned n with
    | true =>
      rw [(asNumber?_eq_iff hn ht).2 hsigned]
      refine .inl ⟨rfl, fun m hm => ?_⟩
      cases hm
      exact hsigned
    | false =>
      obtain ⟨x, hx, -⟩ := exists_real_of_isPadded hn hsigned ht
      rw [hx]
      exact .inr ⟨rfl, n, x, rfl, hsigned, rfl, rfl⟩
  | boolean ht =>
    unfold FieldType.read
    dsimp only
    rw [asBool?_of_isPadded ht]
    refine .inl ⟨rfl, fun n hn => ?_⟩
    cases hn

end Json

end CloudCanvas
