/-
The names of declarations: whatever the label, `sanitize` gives an identifier, which begins with a
lowercase letter or an underscore and goes on with lowercase letters, digits and underscores.
-/
import CloudCanvas.Naming.Identifier

namespace CloudCanvas.Naming

/-- Whether a character may begin the name of a declaration. -/
def isLeading (c : Char) : Bool :=
  c.isLower || c == '_'

/-- Names of declarations: `[a-z_][a-z0-9_]*`. -/
def IsIdentifier (s : List Char) : Prop :=
  ∃ c t, s = c :: t ∧ isLeading c = true ∧ ∀ d ∈ t, isKept d = true

/-! ## Classes of characters -/

theorem isLower_iff {c : Char} : c.isLower = true ↔ 97 ≤ c.toNat ∧ c.toNat ≤ 122 := by
  show (decide (97 ≤ c.val) && decide (c.val ≤ 122)) = true ↔ _
  rw [Bool.and_eq_true, decide_eq_true_eq, decide_eq_true_eq]
  exact Iff.rfl

theorem isUpper_iff {c : Char} : c.isUpper = true ↔ 65 ≤ c.toNat ∧ c.toNat ≤ 90 :=
  decide_eq_true_iff

theorem isDigit_iff {c : Char} : c.isDigit = true ↔ 48 ≤ c.toNat ∧ c.toNat ≤ 57 := by
  show (decide (48 ≤ c.val) && decide (c.val ≤ 57)) = true ↔ _
  rw [Bool.and_eq_true, decide_eq_true_eq, decide_eq_true_eq]
  exact Iff.rfl

/-! ## Identifiers -/

theorem isKept_of_isLeading {c : Char} (h : isLeading c = true) : isKept c = true := by
  unfold isLeading at h; unfold isKept
  simp only [Bool.or_eq_true] at h ⊢
  rcases h with h | h
  · exact .inl (.inl h)
  · exact .inr h

theorem IsIdentifier.kept {s : List Char} (h : IsIdentifier s) : ∀ c ∈ s, isKept c = true := by
  obtain ⟨c, t, rfl, hc, ht⟩ := h
  intro d hd
  rcases List.mem_cons.1 hd with rfl | hd
  · exact isKept_of_isLeading hc
  · exact ht d hd

theorem IsIdentifier.append {s t : List Char} (h : IsIdentifier s) (ht : ∀ c ∈ t, isKept c = true) :
    IsIdentifier (s ++ t) := by
  obtain ⟨c, rest, rfl, hc, hrest⟩ := h
  refine ⟨c, rest ++ t, rfl, hc, fun d hd => ?_⟩
  rcases List.mem_append.1 hd with hd | hd
  · exact hrest d hd
  · exact ht d hd

/-! ## The passes of `sanitize` -/

theorem lowerChar_ne_nil (c : Char) : Text.lowerChar c ≠ [] := by
  unfold Text.lowerChar
  split
  · simp
  · split
    · simp
    · split <;> simp

theorem lowercase_ne_nil {s : List Char} (h : s ≠ []) : Text.lowercase s ≠ [] := by
  cases s with
  | nil => exact absurd rfl h
  | cons c s => simp [Text.lowercase, lowerChar_ne_nil]

theorem isKept_mask (c : Char) : isKept (mask c) = true := by
  unfold mask
  split
  · assumption
  · decide

theorem isLeading_of_isKept {c : Char} (h : isKept c = true) (hd : c.isDigit = false) :
    isLeading c = true := by
  unfold isKept at h; unfold isLeading
  simpa [hd] using h

/-- Behind the guard a text of kept characters is an identifier. -/
theorem isIdentifier_guardDigit {s : List Char} (hne : s ≠ []) (h : ∀ c ∈ s, isKept c = true) :
    IsIdentifier (guardDigit s) := by
  cases s with
  | nil => exact absurd rfl hne
  | cons c s =>
    by_cases hd : c.isDigit = true
    · rw [guardDigit, if_pos hd]
      exact ⟨'_', c :: s, rfl, by decide, h⟩
    · rw [guardDigit, if_neg hd]
      exact ⟨c, s, rfl, isLeading_of_isKept (h c (List.mem_cons_self ..)) (by simpa using hd),
        fun d hd => h d (List.mem_cons_of_mem _ hd)⟩

theorem head?_collapse (s : List Char) : (collapse s).head? = s.head? := by
  fun_induction collapse s with
  | case1 => rfl
  | case2 c => rfl
  | case3 c d s h ih => rw [ih, h.1, h.2]; rfl
  | case4 c d s h ih => rfl

theorem collapse_subset (s : List Char) : collapse s ⊆ s := by
  fun_induction collapse s with
  | case1 => exact List.Subset.refl _
  | case2 c => exact List.Subset.refl _
  | case3 c d s h ih => exact List.subset_cons_of_subset _ ih
  | case4 c d s h ih => exact List.cons_subset_cons _ ih

/-- Leaving out underscores keeps an identifier one: the first character stays. -/
theorem IsIdentifier.collapse {s : List Char} (h : IsIdentifier s) : IsIdentifier (collapse s) := by
  have hk : ∀ c ∈ Naming.collapse s, isKept c = true := fun c hc => h.kept c (collapse_subset s hc)
  have hh := head?_collapse s
  obtain ⟨c, t, rfl, hc, -⟩ := h
  cases hs : Naming.collapse (c :: t) with
  | nil => rw [hs] at hh; cases hh
  | cons d rest =>
    rw [hs] at hh hk
    cases hh
    exact ⟨c, rest, rfl, hc, fun e he => hk e (List.mem_cons_of_mem _ he)⟩

theorem isIdentifier_identifierChars {raw : List Char} (h : raw ≠ []) :
    IsIdentifier (identifierChars raw) := by
  refine (isIdentifier_guardDigit ?_ ?_).collapse
  · simpa using lowercase_ne_nil h
  · intro c hc
    obtain ⟨d, -, rfl⟩ := List.mem_map.1 hc
    exact isKept_mask d

/-- Every label has an identifier. -/
theorem isIdentifier_sanitize (raw : String) : IsIdentifier (sanitize raw).toList := by
  unfold sanitize
  by_cases h : raw.toList = []
  · rw [h]; exact ⟨'r', "esource".toList, by decide, by decide, List.all_eq_true.1 (by decide)⟩
  · obtain ⟨c, t, hs, hi⟩ := isIdentifier_identifierChars h
    rw [hs]
    exact ⟨c, t, by simp, hi⟩

end CloudCanvas.Naming
