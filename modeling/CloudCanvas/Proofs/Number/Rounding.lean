/-
Rounding of integers to binary64. An integer of more than 53 binary digits is rounded to the nearest
multiple of the power of two that leaves 53 of them, and of two multiples equally near to the one whose
last digit of these is zero.
-/
import CloudCanvas.Proofs.Number.Leading

namespace CloudCanvas

theorem powerOfTwo_add (j k : Nat) : powerOfTwo (j + k) = powerOfTwo j * powerOfTwo k :=
  Nat.pow_add 2 j k

namespace Binary64

/-! ## Nearest multiples -/

/-- Of the multiples of `step` the one nearest to `n`; of two it is a multiple of twice the step. -/
structure IsNearestMultiple (step n v : Nat) : Prop where
  multiple : step ∣ v
  below : 2 * n ≤ 2 * v + step
  above : 2 * v ≤ 2 * n + step
  even : 2 * n = 2 * v + step ∨ 2 * v = 2 * n + step → 2 * step ∣ v

theorem isNearestMultiple_roundHalfEven (n : Nat) {step : Nat} (hstep : 0 < step) :
    IsNearestMultiple step n (roundHalfEven n step * step) := by
  have hn := Nat.div_add_mod' n step
  have hlt := Nat.mod_lt n hstep
  unfold roundHalfEven
  dsimp only
  split
  · rename_i hdown
    exact ⟨Nat.dvd_mul_left _ _, by omega, by omega, fun htie => absurd htie (by omega)⟩
  · split
    · rename_i hup
      rw [Nat.succ_mul]
      exact ⟨⟨n / step + 1, by rw [Nat.mul_succ, Nat.mul_comm]⟩, by omega, by omega,
        fun htie => absurd htie (by omega)⟩
    · -- halfway between two multiples
      have hhalf : 2 * (n % step) = step := by omega
      rcases Nat.mod_two_eq_zero_or_one (n / step) with heven | hodd
      · rw [heven, Nat.add_zero]
        exact ⟨Nat.dvd_mul_left _ _, by omega, by omega,
          fun _ => Nat.mul_dvd_mul_right (Nat.dvd_of_mod_eq_zero heven) step⟩
      · have hnext : 2 ∣ n / step + 1 := by omega
        have hadd : (n / step + 1) * step = n / step * step + step := Nat.succ_mul _ _
        rw [hodd]
        exact ⟨Nat.dvd_mul_left _ _, by omega, by omega, fun _ => Nat.mul_dvd_mul_right hnext step⟩

theorem le_roundHalfEven {n step q : Nat} (hstep : 0 < step) (h : q * step ≤ n) :
    q ≤ roundHalfEven n step := by
  have hq := (Nat.le_div_iff_mul_le hstep).2 h
  unfold roundHalfEven
  dsimp only
  split
  · exact hq
  · split <;> omega

theorem roundHalfEven_le {n step q : Nat} (hstep : 0 < step) (h : n < q * step) :
    roundHalfEven n step ≤ q := by
  have hq := (Nat.div_lt_iff_lt_mul hstep).2 h
  unfold roundHalfEven
  dsimp only
  split
  · exact Nat.le_of_lt hq
  · split <;> omega

/-! ## Integers as binary64 numbers -/

section

variable {n k : Nat}

/-- The bounds of an integer with `k + 53` binary digits. -/
theorem bounds_of_log2 (h : n.log2 = k + 52) :
    powerOfTwo 52 * powerOfTwo k ≤ n ∧ n < powerOfTwo 53 * powerOfTwo k := by
  have hn : n ≠ 0 := by
    rintro rfl
    rw [Nat.log2_zero] at h
    omega
  have hlow : powerOfTwo n.log2 ≤ n := Nat.log2_self_le hn
  have hhigh : n < powerOfTwo (n.log2 + 1) := Nat.lt_log2_self
  rw [h, Nat.add_comm, powerOfTwo_add] at hlow
  rw [h, show k + 52 + 1 = 53 + k by omega, powerOfTwo_add] at hhigh
  exact ⟨hlow, hhigh⟩

theorem inUnits_one (n k : Nat) : inUnits n 1 k = (n, powerOfTwo k) := by
  show (n, 1 * powerOfTwo k) = _
  rw [Nat.one_mul]

theorem exponentFor_of_log2 (h : n.log2 = k + 52) (hk : 0 < k) : exponentFor n 1 = k := by
  obtain ⟨j, rfl⟩ := Nat.exists_eq_add_one_of_ne_zero (Nat.ne_of_gt hk)
  have hguess : max ((n.log2 : Int) - (Nat.log2 1 : Int) - 53) (-1074) = (j : Int) := by
    rw [h, show Nat.log2 1 = 0 from rfl]
    omega
  have hquotient : ¬ n / powerOfTwo j < powerOfTwo 53 := by
    rw [Nat.not_lt, Nat.le_div_iff_mul_le (powerOfTwo_pos j), ← powerOfTwo_add,
      show 53 + j = 52 + (j + 1) by omega, powerOfTwo_add]
    exact (bounds_of_log2 h).1
  unfold exponentFor
  rw [hguess]
  dsimp only
  rw [inUnits_one]
  exact if_neg hquotient

/-- An integer with `k + 53` binary digits is rounded at the power `2 ^ k`. -/
theorem ofRatio?_of_log2 (h : n.log2 = k + 52) (hk : 0 < k) (hk' : k < 971) :
    ∃ x, ofRatio? false n 1 = some x ∧ x.negative = false ∧ 0 ≤ x.exponent ∧
      x.mantissa * powerOfTwo x.exponent.toNat = roundHalfEven n (powerOfTwo k) * powerOfTwo k := by
  obtain ⟨hlow, hhigh⟩ := bounds_of_log2 h
  have hle := le_roundHalfEven (powerOfTwo_pos k) hlow
  have hge := roundHalfEven_le (powerOfTwo_pos k) hhigh
  have hn : n ≠ 0 := Nat.ne_of_gt (Nat.lt_of_lt_of_le (Nat.mul_pos (powerOfTwo_pos _) (powerOfTwo_pos _)) hlow)
  unfold ofRatio?
  rw [if_neg hn, exponentFor_of_log2 h hk]
  dsimp only
  rw [inUnits_one]
  dsimp only
  generalize roundHalfEven n (powerOfTwo k) = rounded at hle hge
  by_cases hr : rounded = powerOfTwo 53
  · -- the mantissa runs over, and the exponent is one more
    have hcanonical : powerOfTwo 52 < powerOfTwo 53 ∧ -1074 ≤ (k : Int) + 1 ∧ (k : Int) + 1 ≤ 971 ∧
        (powerOfTwo 52 ≤ powerOfTwo 52 ∨ (k : Int) + 1 = -1074) :=
      ⟨by decide, by omega, by omega, .inl (Nat.le_refl _)⟩
    refine ⟨⟨false, powerOfTwo 52, (k : Int) + 1, hcanonical⟩, ?_, rfl, by dsimp only; omega, ?_⟩
    · rw [if_pos hr]
      exact dif_pos hcanonical
    · rw [hr]
      show powerOfTwo 52 * powerOfTwo (k + 1) = _
      rw [← powerOfTwo_add, ← powerOfTwo_add, show 52 + (k + 1) = 53 + k by omega]
  · have hcanonical : rounded < powerOfTwo 53 ∧ -1074 ≤ (k : Int) ∧ (k : Int) ≤ 971 ∧
        (powerOfTwo 52 ≤ rounded ∨ (k : Int) = -1074) :=
      ⟨Nat.lt_of_le_of_ne hge hr, by omega, by omega, .inl hle⟩
    refine ⟨⟨false, rounded, k, hcanonical⟩, ?_, rfl, Int.natCast_nonneg k, rfl⟩
    rw [if_neg hr]
    exact dif_pos hcanonical

end

end Binary64

end CloudCanvas
