/-
Identifiers in normal form: without two underscores in a row. `sanitize` brings every label into this form
and leaves what already has it as it is, so the names in normal form are just its results. A label that
misses the form by its capitals only is put into lowercase and not changed otherwise.
-/
import CloudCanvas.Proofs.Naming.Identifier
import Mathlib.Data.List.Infix

namespace CloudCanvas.Naming

/-- Identifiers in normal form: `[a-z_][a-z0-9_]*` without two underscores in a row. -/
structure IsNormal (s : List Char) : Prop where
  identifier : IsIdentifier s
  single : ¬ ['_', '_'] <:+: s

/-! ## Leaving one underscore of each run -/

theorem not_infix_collapse (s : List Char) : ¬ ['_', '_'] <:+: collapse s := by
  fun_induction collapse s with
  | case1 => decide
  | case2 c => exact fun h => Nat.not_succ_le_self 1 h.length_le
  | case3 c d s _ ih => exact ih
  | case4 c d s hne ih =>
    rw [List.infix_cons_iff, List.cons_prefix_cons]
    rintro (⟨hc, rest, hrest⟩ | h)
    · -- what comes next begins with the character behind the underscore
      have hd := head?_collapse (d :: s)
      rw [← hrest] at hd
      exact hne ⟨hc.symm, (Option.some.inj hd).symm⟩
    · exact ih h

theorem collapse_eq_self {s : List Char} (h : ¬ ['_', '_'] <:+: s) : collapse s = s := by
  fun_induction collapse s with
  | case1 => rfl
  | case2 c => rfl
  | case3 c d s hc ih =>
    obtain ⟨rfl, rfl⟩ := hc
    exact absurd (List.prefix_append ['_', '_'] s).isInfix h
  | case4 c d s hne ih => rw [ih fun hi => h (List.infix_cons hi)]

/-! ## The passes on identifiers -/

theorem mask_of_isKept {c : Char} (h : isKept c = true) : mask c = c :=
  if_pos h

theorem guardDigit_of_isIdentifier {s : List Char} (h : IsIdentifier s) : guardDigit s = s := by
  obtain ⟨c, t, rfl, hc, -⟩ := h
  refine if_neg fun hd => ?_
  -- a digit is neither a lowercase letter nor an underscore
  have hdigit := isDigit_iff.1 hd
  unfold isLeading at hc
  rw [Bool.or_eq_true, isLower_iff, beq_iff_eq] at hc
  rcases hc with hlow | rfl
  · omega
  · exact absurd hdigit (by decide)

/-- When lowercasing gives an identifier in normal form, the other passes leave it as it is. -/
theorem sanitize_of_lowercase {raw : String} {s : List Char} (hl : Text.lowercase raw.toList = s)
    (h : IsNormal s) : sanitize raw = String.ofList s := by
  have hmask : s.map mask = s :=
    (List.map_congr_left fun c hc => mask_of_isKept (h.identifier.kept c hc)).trans (List.map_id' s)
  have hchars : identifierChars raw.toList = s := by
    unfold identifierChars
    rw [hl, hmask, guardDigit_of_isIdentifier h.identifier, collapse_eq_self h.single]
  obtain ⟨c, t, rfl, -⟩ := h.identifier
  unfold sanitize
  rw [hchars]
  rfl

theorem isNormal_sanitize (raw : String) : IsNormal (sanitize raw).toList := by
  refine ⟨isIdentifier_sanitize raw, ?_⟩
  unfold sanitize
  dsimp only
  split
  · decide
  · rw [String.toList_ofList]
    exact not_infix_collapse _

/-! ## Lowercase -/

/-- Labels that are identifiers but for their capitals: `[A-Za-z_][A-Za-z0-9_]*`. -/
def IsWord (s : List Char) : Prop :=
  ∃ c t, s = c :: t ∧ (c.isAlpha = true ∨ c = '_') ∧ ∀ d ∈ t, d.isAlphanum = true ∨ d = '_'

theorem toNat_lt_of_isAlphanum {c : Char} (h : c.isAlphanum = true ∨ c = '_') : c.toNat < 0x80 := by
  rcases h with h | rfl
  · change (c.isUpper || c.isLower || c.isDigit) = true at h
    rw [Bool.or_eq_true, Bool.or_eq_true, isUpper_iff, isLower_iff, isDigit_iff] at h
    omega
  · decide

theorem toLower_of_not_isUpper {c : Char} (h : ¬ c.isUpper = true) : c.toLower = c :=
  dif_neg fun hu => h (decide_eq_true hu)

/-- Lowercase letters follow capitals at a distance of 32. -/
theorem isLower_toLower {c : Char} (h : c.isUpper = true) : c.toLower.isLower = true := by
  have hu : 65 ≤ c.val.toNat ∧ c.val.toNat ≤ 90 := isUpper_iff.1 h
  have hval : c.toLower.val = c.val + ('a'.val - 'A'.val) :=
    congrArg Char.val (dif_pos (of_decide_eq_true h))
  have hnat : c.toLower.toNat = (c.val.toNat + 32) % 2 ^ 32 := by
    rw [Char.toNat, hval, UInt32.toNat_add]
    rfl
  rw [isLower_iff, hnat]
  omega

theorem isLeading_toLower {c : Char} (h : c.isAlpha = true ∨ c = '_') : isLeading c.toLower = true := by
  unfold isLeading
  rcases h with h | rfl
  · by_cases hu : c.isUpper = true
    · rw [isLower_toLower hu, Bool.true_or]
    · rw [toLower_of_not_isUpper hu, (Bool.or_eq_true_iff.1 h).resolve_left hu, Bool.true_or]
  · decide

theorem not_isUpper_of_isKept {c : Char} (h : isKept c = true) : ¬ c.isUpper = true := by
  intro hu
  have hu := isUpper_iff.1 hu
  unfold isKept at h
  rw [Bool.or_eq_true, Bool.or_eq_true, isLower_iff, isDigit_iff, beq_iff_eq] at h
  rcases h with (h | h) | rfl
  · omega
  · omega
  · exact absurd hu (by decide)

theorem isKept_of_isDigit {c : Char} (h : c.isDigit = true) : isKept c = true := by
  unfold isKept
  rw [h, Bool.or_true, Bool.true_or]

theorem isKept_toLower {c : Char} (h : c.isAlphanum = true ∨ c = '_') : isKept c.toLower = true := by
  rcases h with h | rfl
  · rcases Bool.or_eq_true_iff.1 h with h | h
    · exact isKept_of_isLeading (isLeading_toLower (.inl h))
    · have hk := isKept_of_isDigit h
      rwa [toLower_of_not_isUpper (not_isUpper_of_isKept hk)]
  · decide

theorem eq_underscore_of_toLower {c : Char} (h : c.toLower = '_') : c = '_' := by
  by_cases hu : c.isUpper = true
  · have hlow := isLower_toLower hu
    rw [h] at hlow
    exact absurd hlow (by decide)
  · rwa [toLower_of_not_isUpper hu] at h

/-- In the range of these labels a character is put into lowercase by itself. -/
theorem lowercase_eq_map {s : List Char} (h : ∀ c ∈ s, c.isAlphanum = true ∨ c = '_') :
    Text.lowercase s = s.map Char.toLower := by
  unfold Text.lowercase
  rw [List.map_eq_flatMap]
  exact List.flatMap_congr fun c hc => if_pos (toNat_lt_of_isAlphanum (h c hc))

theorem IsWord.isAlphanum {s : List Char} (h : IsWord s) : ∀ c ∈ s, c.isAlphanum = true ∨ c = '_' := by
  obtain ⟨c, t, rfl, hc, ht⟩ := h
  intro d hd
  rcases List.mem_cons.1 hd with rfl | hd
  · exact hc.imp_left fun ha => Bool.or_eq_true_iff.2 (.inl ha)
  · exact ht d hd

theorem IsWord.isNormal_toLower {s : List Char} (h : IsWord s) (hs : ¬ ['_', '_'] <:+: s) :
    IsNormal (s.map Char.toLower) := by
  constructor
  · obtain ⟨c, t, rfl, hc, ht⟩ := h
    refine ⟨c.toLower, t.map Char.toLower, rfl, isLeading_toLower hc, fun d hd => ?_⟩
    obtain ⟨e, he, rfl⟩ := List.mem_map.1 hd
    exact isKept_toLower (ht e he)
  · rw [List.infix_map_iff]
    rintro ⟨run, hrun, hmap⟩
    -- only an underscore is an underscore in lowercase
    obtain ⟨c, rest, rfl, hc, hrest⟩ := List.map_eq_cons_iff.1 hmap.symm
    obtain ⟨d, rest, rfl, hd, hrest⟩ := List.map_eq_cons_iff.1 hrest
    rw [List.map_eq_nil_iff.1 hrest, eq_underscore_of_toLower hc, eq_underscore_of_toLower hd] at hrun
    exact hs hrun

theorem IsIdentifier.isWord {s : List Char} (h : IsIdentifier s) : IsWord s := by
  obtain ⟨c, t, rfl, hc, ht⟩ := h
  refine ⟨c, t, rfl, ?_, fun d hd => ?_⟩
  · rcases Bool.or_eq_true_iff.1 hc with hc | hc
    · exact .inl (Bool.or_eq_true_iff.2 (.inr hc))
    · exact .inr (beq_iff_eq.1 hc)
  · rcases Bool.or_eq_true_iff.1 (ht d hd) with hd | hd
    · refine .inl (Bool.or_eq_true_iff.2 ?_)
      exact (Bool.or_eq_true_iff.1 hd).imp_left fun hd => Bool.or_eq_true_iff.2 (.inr hd)
    · exact .inr (beq_iff_eq.1 hd)

theorem sanitize_of_isWord {label : String} (h : IsWord label.toList) (hs : ¬ ['_', '_'] <:+: label.toList) :
    sanitize label = label.toLower := by
  rw [sanitize_of_lowercase (lowercase_eq_map h.isAlphanum) (h.isNormal_toLower hs), ← String.toList_map,
    String.ofList_toList]
  rfl

theorem toLower_of_isIdentifier {name : String} (h : IsIdentifier name.toList) : name.toLower = name := by
  refine String.toList_inj.1 ?_
  show (name.map Char.toLower).toList = name.toList
  rw [String.toList_map]
  refine (List.map_congr_left fun c hc => ?_).trans (List.map_id' _)
  exact toLower_of_not_isUpper (not_isUpper_of_isKept (h.kept c hc))

/-- Sanitizing is normalising: every label becomes an identifier without two underscores in a row; just
those stay as they are, so that sanitizing twice is sanitizing once, and each of them is the name of some
label. A label of letters, digits and underscores that does not begin with a digit and has no two
underscores in a row is put into lowercase. -/
theorem sanitize_normalises :
    (∀ raw, IsNormal (sanitize raw).toList) ∧
    (∀ name, sanitize name = name ↔ IsNormal name.toList) ∧
    (∀ raw, sanitize (sanitize raw) = sanitize raw) ∧
    (∀ name, (∃ raw, sanitize raw = name) ↔ IsNormal name.toList) ∧
    ∀ label : String, IsWord label.toList → ¬ ['_', '_'] <:+: label.toList → sanitize label = label.toLower := by
  have hfixed : ∀ name, sanitize name = name ↔ IsNormal name.toList := by
    refine fun name => ⟨fun h => h ▸ isNormal_sanitize name, fun h => ?_⟩
    rw [sanitize_of_isWord h.identifier.isWord h.single, toLower_of_isIdentifier h.identifier]
  refine ⟨isNormal_sanitize, hfixed, fun raw => (hfixed _).2 (isNormal_sanitize raw), fun name => ?_,
    fun label => sanitize_of_isWord⟩
  refine ⟨?_, fun h => ⟨name, (hfixed name).2 h⟩⟩
  rintro ⟨raw, rfl⟩
  exact isNormal_sanitize raw

/-- The capitals of a label go, and its digit and its underscores stay. A digit in front gets an
underscore, which is then one of a run; the sign of the kelvin and the capital I with a dot stand for letters
of the alphabet. -/
theorem capitals_go :
    IsWord "Web_1".toList ∧ ¬ ['_', '_'] <:+: "Web_1".toList ∧ sanitize "Web_1" = "web_1" ∧
      sanitize "1__\u212A\u0130" = "_1_ki_" := by
  have hword : IsWord "Web_1".toList := ⟨'W', ['e', 'b', '_', '1'], by decide, by decide, by simp⟩
  have hsingle : ¬ ['_', '_'] <:+: "Web_1".toList := by decide
  refine ⟨hword, hsingle, ?_, by decide +kernel⟩
  exact (sanitize_normalises.2.2.2.2 "Web_1" hword hsingle).trans (by decide +kernel)

end CloudCanvas.Naming
