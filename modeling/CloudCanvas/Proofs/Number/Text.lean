/-
The characters of written numbers: every number, integer or binary64, is written with digits, signs, a
point and an `e`, so that the text of a number never needs quoting.
-/
import CloudCanvas.Number.Basic

namespace CloudCanvas

/-- The characters with which numbers are written. -/
def isNumeralChar (c : Char) : Bool :=
  c.isDigit || c == '-' || c == '+' || c == '.' || c == 'e'

theorem isNumeralChar_of_isDigit {c : Char} (h : c.isDigit = true) : isNumeralChar c = true := by
  simp [isNumeralChar, h]

theorem isDigit_of_mem_toDigits {n : Nat} {c : Char} (h : c ∈ Nat.toDigits 10 n) : c.isDigit = true :=
  Nat.isDigit_of_mem_toDigits (by decide) (by decide) h

namespace Binary64

theorem isDigit_of_mem_shortest (x : Binary64) : ∀ c ∈ x.shortest.1, c.isDigit = true := by
  intro c hc
  unfold shortest at hc
  split at hc
  · rw [List.mem_singleton] at hc
    rw [hc]; decide
  · -- what is left of the digits when the zeros at the end are gone
    have hs := (List.dropWhile_sublist _).subset (List.mem_reverse.1 hc)
    exact isDigit_of_mem_toDigits (List.mem_reverse.1 hs)

theorem isNumeralChar_positional {ds : List Char} (top : Int) (h : ∀ c ∈ ds, c.isDigit = true) :
    ∀ c ∈ positional ds top, isNumeralChar c = true := by
  have hzeros : ∀ n, ∀ c ∈ ds ++ List.replicate n '0', isNumeralChar c = true := by
    intro n c hc
    rcases List.mem_append.1 hc with hc | hc
    · exact isNumeralChar_of_isDigit (h c hc)
    · rw [List.eq_of_mem_replicate hc]; decide
  intro c hc
  unfold positional at hc
  split at hc
  · rcases List.mem_cons.1 hc with rfl | hc
    · decide
    rcases List.mem_cons.1 hc with rfl | hc
    · decide
    rcases List.mem_append.1 hc with hc | hc
    · rw [List.eq_of_mem_replicate hc]; decide
    · exact isNumeralChar_of_isDigit (h c hc)
  · rcases List.mem_append.1 hc with hc | hc
    · exact hzeros _ c (List.mem_of_mem_take hc)
    rcases List.mem_cons.1 hc with rfl | hc
    · decide
    split at hc
    · rw [List.mem_singleton] at hc
      rw [hc]; decide
    · exact hzeros _ c (List.mem_of_mem_drop hc)

theorem isNumeralChar_scientific {ds : List Char} (top : Int) (h : ∀ c ∈ ds, c.isDigit = true) :
    ∀ c ∈ scientific ds top, isNumeralChar c = true := by
  intro c hc
  unfold scientific at hc
  rcases List.mem_append.1 hc with hc | hc
  · rcases List.mem_append.1 hc with hc | hc
    · exact isNumeralChar_of_isDigit (h c (List.mem_of_mem_take hc))
    · split at hc
      · cases hc
      · rcases List.mem_cons.1 hc with rfl | hc
        · decide
        · exact isNumeralChar_of_isDigit (h c (List.mem_of_mem_drop hc))
  · rcases List.mem_cons.1 hc with rfl | hc
    · decide
    rcases List.mem_cons.1 hc with rfl | hc
    · split <;> decide
    · exact isNumeralChar_of_isDigit (isDigit_of_mem_toDigits hc)

theorem isNumeralChar_text (x : Binary64) : ∀ c ∈ x.text.toList, isNumeralChar c = true := by
  intro c hc
  unfold text at hc
  rw [String.toList_ofList] at hc
  rcases List.mem_append.1 hc with hc | hc
  · unfold signText at hc
    split at hc
    · rw [List.mem_singleton] at hc
      rw [hc]; decide
    · cases hc
  · split at hc
    · exact isNumeralChar_positional _ x.isDigit_of_mem_shortest c hc
    · exact isNumeralChar_scientific _ x.isDigit_of_mem_shortest c hc

end Binary64

/-- Every number is written with the characters of numerals. -/
theorem Number.isNumeralChar_text (n : Number) : ∀ c ∈ n.text.toList, isNumeralChar c = true := by
  cases n with
  | real x => exact x.isNumeralChar_text
  | integer n =>
    intro c hc
    rw [Number.text, Int.toString_eq_repr, Int.repr_eq_if] at hc
    split at hc
    · rw [Nat.toList_repr] at hc
      exact isNumeralChar_of_isDigit (isDigit_of_mem_toDigits hc)
    · rw [String.toList_append, Nat.toList_repr] at hc
      rcases List.mem_append.1 hc with hc | hc
      · rw [show "-".toList = ['-'] from rfl, List.mem_singleton] at hc
        rw [hc]; decide
      · exact isNumeralChar_of_isDigit (isDigit_of_mem_toDigits hc)

end CloudCanvas
