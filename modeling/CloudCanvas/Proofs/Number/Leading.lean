/-
Every number is written with a digit or a minus sign in front. For an integer, and for a binary64 number
in positional layout, that is how it is laid out; in scientific layout it takes that a number has at least
one significant digit. The digits are those of a multiple of a power of ten, so that multiple must not be
zero: zero reads back as no other number, and the grid of seventeen digits is finer than the number.
-/
import CloudCanvas.Proofs.Number.Text
import Mathlib.Data.List.TakeWhile

namespace CloudCanvas

/-! ## Digits -/

theorem exists_ne_zero_of_toDigits {n : Nat} (h : n ≠ 0) : ∃ c ∈ Nat.toDigits 10 n, c ≠ '0' := by
  induction n using Nat.strongRecOn with
  | _ n ih =>
    rw [Nat.toDigits_eq_if (by decide)]
    split
    · exact ⟨_, List.mem_singleton.2 rfl, by simpa using h⟩
    · obtain ⟨c, hc, hne⟩ := ih (n / 10) (by omega) (by omega)
      exact ⟨c, List.mem_append_left _ hc, hne⟩

theorem lt_powerOfTen_digitCount (n : Nat) : n < powerOfTen (Decimal.digitCount n) :=
  (Nat.length_toDigits_le_iff (by decide) Nat.length_toDigits_pos).1 (Nat.le_refl _)

theorem powerOfTen_le_of_lt_digitCount {n k : Nat} (hn : 0 < n) (h : k < Decimal.digitCount n) :
    powerOfTen k ≤ n := by
  refine Nat.le_of_not_lt fun hlt => ?_
  cases k with
  | zero => exact absurd hlt (Nat.not_lt.2 hn)
  | succ k =>
    have hle := (Nat.length_toDigits_le_iff (by decide) (Nat.succ_pos k)).2 hlt
    unfold Decimal.digitCount at h
    omega

theorem powerOfTwo_pos (k : Nat) : 0 < powerOfTwo k :=
  Nat.pow_pos (by decide)

theorem powerOfTen_pos (k : Nat) : 0 < powerOfTen k :=
  Nat.pow_pos (by decide)

namespace Binary64

variable {x : Binary64}

/-! ## Multiples of powers of ten -/

/-- Zero does not read back as a number other than zero. -/
theorem readsBack_zero (h : x.mantissa ≠ 0) (p : Int) : x.readsBack 0 p = false := by
  have hlow : 0 < x.quarters.1 := by
    unfold quarters
    dsimp only
    split <;> omega
  have hcompare : compareGrids 0 p x.quarters.1 (x.exponent - 2) = .lt := by
    unfold compareGrids
    rw [Nat.zero_mul, Nat.zero_mul, Nat.compare_eq_lt]
    exact Nat.mul_pos (Nat.mul_pos hlow (powerOfTwo_pos _)) (powerOfTen_pos _)
  unfold readsBack
  dsimp only
  rw [hcompare]
  simp

/-- The multiple that is chosen on a grid is not zero. -/
theorem ne_zero_of_nearestAt (h : x.mantissa ≠ 0) {p q : Int} {c : Nat}
    (hc : x.nearestAt p = some (c, q)) : c ≠ 0 := by
  have hfloor : x.readsBack (x.floorAt p) p = true → x.floorAt p ≠ 0 := by
    intro hr hz
    rw [hz, readsBack_zero h] at hr
    cases hr
  unfold nearestAt at hc
  dsimp only at hc
  split at hc
  · rename_i hr _
    cases hc
    exact hfloor hr
  · cases hc
    omega
  · cases hc
  · rename_i hr _
    have := hfloor hr
    split at hc
    all_goals
      cases hc
      omega

/-- A number is at least one unit on each grid that is finer than its leading exponent by enough. -/
theorem floorAt_pos (h : x.mantissa ≠ 0) {p : Int} (hp : p + 16 ≤ x.leadingExponent) : 0 < x.floorAt p := by
  have hnum : 0 < x.mantissa * powerOfTwo x.exponent.toNat :=
    Nat.mul_pos (Nat.pos_of_ne_zero h) (powerOfTwo_pos _)
  unfold leadingExponent at hp
  dsimp only at hp
  unfold floorAt
  generalize x.mantissa * powerOfTwo x.exponent.toNat = num at *
  have hden : 0 < powerOfTwo (-x.exponent).toNat := powerOfTwo_pos _
  generalize powerOfTwo (-x.exponent).toNat = den at *
  have hguess : p + 15 ≤ (Decimal.digitCount num : Int) - Decimal.digitCount den := by
    split at hp <;> omega
  have hcount : 0 < Decimal.digitCount num := Nat.length_toDigits_pos
  have hlow : powerOfTen (Decimal.digitCount num - 1) ≤ num :=
    powerOfTen_le_of_lt_digitCount hnum (by omega)
  refine Nat.div_pos ?_ (Nat.mul_pos (powerOfTen_pos _) hden)
  calc powerOfTen p.toNat * den
      ≤ powerOfTen p.toNat * powerOfTen (Decimal.digitCount den) :=
        Nat.mul_le_mul_left _ (Nat.le_of_lt (lt_powerOfTen_digitCount den))
    _ = powerOfTen (p.toNat + Decimal.digitCount den) := (Nat.pow_add ..).symm
    _ ≤ powerOfTen (Decimal.digitCount num - 1 + (-p).toNat) :=
        Nat.pow_le_pow_right (by decide) (by omega)
    _ = powerOfTen (Decimal.digitCount num - 1) * powerOfTen (-p).toNat := Nat.pow_add ..
    _ ≤ num * powerOfTen (-p).toNat := Nat.mul_le_mul_right _ hlow

/-! ## Significant digits -/

theorem shortest_ne_nil (x : Binary64) : x.shortest.1 ≠ [] := by
  unfold shortest
  split
  · exact List.cons_ne_nil _ _
  · rename_i hz
    have hm : x.mantissa ≠ 0 := fun hm => hz (by unfold isZero; rw [hm]; rfl)
    dsimp only
    generalize hfound : ((List.range 17).findSome? fun n => x.nearestAt (x.leadingExponent - (n : Nat))) = found
    have hc : (found.getD (x.floorAt (x.leadingExponent - 16), x.leadingExponent - 16)).1 ≠ 0 := by
      cases found with
      | none => exact Nat.ne_of_gt (floorAt_pos hm (by omega))
      | some multiple =>
        obtain ⟨n, -, hn⟩ := List.exists_of_findSome?_eq_some hfound
        exact ne_zero_of_nearestAt hm hn
    obtain ⟨c, hmem, hne⟩ := exists_ne_zero_of_toDigits hc
    -- a digit other than zero is left when the zeros at the end are gone
    rw [Ne, List.reverse_eq_nil_iff, List.dropWhile_eq_nil_iff]
    intro hzeros
    exact hne (eq_of_beq (hzeros c (List.mem_reverse.2 hmem)))

/-! ## Leading characters -/

theorem exists_digit_of_shortest (x : Binary64) :
    ∃ c ds, x.shortest.1 = c :: ds ∧ c.isDigit = true := by
  cases hs : x.shortest.1 with
  | nil => exact absurd hs x.shortest_ne_nil
  | cons c ds => exact ⟨c, ds, rfl, x.isDigit_of_mem_shortest c (by rw [hs]; exact List.mem_cons_self ..)⟩

theorem exists_digit_of_positional {c : Char} {ds : List Char} (hc : c.isDigit = true) (top : Int) :
    ∃ d rest, positional (c :: ds) top = d :: rest ∧ d.isDigit = true := by
  unfold positional
  split
  · exact ⟨'0', _, rfl, by decide⟩
  · exact ⟨c, _, rfl, hc⟩

theorem exists_digit_of_text (x : Binary64) :
    ∃ c rest, x.text.toList = x.signText ++ c :: rest ∧ c.isDigit = true := by
  obtain ⟨c, ds, hs, hc⟩ := x.exists_digit_of_shortest
  unfold text
  dsimp only
  rw [String.toList_ofList, hs]
  split
  · obtain ⟨d, rest, hp, hd⟩ := exists_digit_of_positional hc x.shortest.2
    exact ⟨d, rest, by rw [hp], hd⟩
  · exact ⟨c, _, rfl, hc⟩

end Binary64

/-- Every number is written with a digit or a minus sign in front. -/
theorem Number.exists_leading (n : Number) :
    ∃ c rest, n.text.toList = c :: rest ∧ (c.isDigit = true ∨ c = '-') := by
  cases n with
  | real x =>
    obtain ⟨c, rest, ht, hc⟩ := x.exists_digit_of_text
    show ∃ c rest, x.text.toList = c :: rest ∧ _
    rw [ht]
    unfold Binary64.signText
    split
    · exact ⟨_, _, rfl, .inr rfl⟩
    · exact ⟨_, _, rfl, .inl hc⟩
  | integer n =>
    rw [Number.text, Int.toString_eq_repr, Int.repr_eq_if]
    split
    · rw [Nat.toList_repr]
      cases hd : Nat.toDigits 10 n.toNat with
      | nil => exact absurd hd Nat.toDigits_ne_nil
      | cons c rest =>
        exact ⟨c, rest, rfl, .inl (isDigit_of_mem_toDigits (by rw [hd]; exact List.mem_cons_self ..))⟩
    · rw [String.toList_append]
      exact ⟨_, _, rfl, .inr rfl⟩

end CloudCanvas
