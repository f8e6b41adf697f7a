/-
What `sanitize` keeps of a label. The letters and digits of its lowercase all stay, in their order. What
stands between two of them, in front of the first letter or behind the last one is marked by a single
underscore, and nothing else is added.
-/
import CloudCanvas.Proofs.Naming.Normal

namespace CloudCanvas

/-! ## Lowercase forms of a text -/

namespace Text

/-- The texts that are `s` in lowercase, as its letters allow: each character by itself, but for a capital
sigma, whose lowercase has another shape at the end of a word. -/
inductive IsLowercase : List Char → List Char → Prop
  | nil : IsLowercase [] []
  | char (c : Char) {s l : List Char} : IsLowercase s l → IsLowercase (c :: s) (lowerChar c ++ l)
  | finalSigma {s l : List Char} : IsLowercase s l → IsLowercase ('Σ' :: s) ('ς' :: l)

theorem isLowercase_lowercase (s : List Char) : IsLowercase s (lowercase s) := by
  induction s with
  | nil => exact .nil
  | cons c s ih => exact .char c ih

end Text

namespace Naming

open Text (IsLowercase)

/-- The letters and digits of an identifier: `[a-z0-9]`. -/
def isLetterOrDigit (c : Char) : Bool :=
  c.isLower || c.isDigit

/-- How the letters and digits of a label stand in its identifier, with `label` in lowercase. -/
structure MarksGaps (label name : List Char) : Prop where
  /-- Nothing but letters, digits and single underscores stands in the identifier. -/
  normal : IsNormal name
  /-- All of them stay, in their order. -/
  kept : name.filter isLetterOrDigit = label.filter isLetterOrDigit
  /-- A gap between two of them is one underscore; without a gap they stay together. The same letters and
  digits stand in front of the two and behind them. -/
  apart : ∀ before a gap b after, label = before ++ a :: (gap ++ b :: after) →
    isLetterOrDigit a = true → isLetterOrDigit b = true → (∀ c ∈ gap, isLetterOrDigit c = false) →
    ∃ before' after', name = before' ++ a :: ((if gap = [] then [] else ['_']) ++ b :: after') ∧
      before'.filter isLetterOrDigit = before.filter isLetterOrDigit ∧
      after'.filter isLetterOrDigit = after.filter isLetterOrDigit
  /-- An underscore stands in front unless the label begins with a letter. -/
  leading : name.head? = some '_' ↔ label.head?.any Char.isLower = false
  /-- An underscore stands at the end unless the label ends with a letter or a digit. -/
  trailing : name.getLast? = some '_' ↔ label.getLast?.any isLetterOrDigit = false

/-! ## Letters and digits in the passes -/

theorem ne_underscore {c : Char} (h : isLetterOrDigit c = true) : c ≠ '_' := by
  rintro rfl
  exact absurd h (by decide)

theorem mask_of_isLetterOrDigit {c : Char} (h : isLetterOrDigit c = true) : mask c = c :=
  mask_of_isKept (Bool.or_eq_true_iff.2 (.inl h))

theorem mask_of_not_isLetterOrDigit {c : Char} (h : isLetterOrDigit c = false) : mask c = '_' := by
  unfold mask isKept
  split
  · rename_i hk
    exact beq_iff_eq.1 ((Bool.or_eq_true_iff.1 hk).resolve_left (Bool.eq_false_iff.1 h))
  · rfl

theorem mask_eq_underscore {c : Char} : mask c = '_' ↔ isLetterOrDigit c = false := by
  refine ⟨fun h => Bool.eq_false_iff.2 fun hc => ?_, mask_of_not_isLetterOrDigit⟩
  exact ne_underscore hc (mask_of_isLetterOrDigit hc ▸ h)

theorem filter_map_mask (s : List Char) :
    (s.map mask).filter isLetterOrDigit = s.filter isLetterOrDigit := by
  induction s with
  | nil => rfl
  | cons c s ih =>
    rw [List.map_cons]
    by_cases hc : isLetterOrDigit c = true
    · rw [mask_of_isLetterOrDigit hc, List.filter_cons_of_pos hc, List.filter_cons_of_pos hc, ih]
    · rw [mask_of_not_isLetterOrDigit (Bool.eq_false_iff.2 hc), List.filter_cons_of_neg (by decide),
        List.filter_cons_of_neg hc, ih]

theorem guardDigit_cons (c : Char) (s : List Char) :
    guardDigit (c :: s) = (if c.isDigit = true then ['_'] else []) ++ c :: s := by
  by_cases h : c.isDigit = true
  · exact (if_pos h).trans (by rw [if_pos h]; rfl)
  · exact (if_neg h).trans (by rw [if_neg h]; rfl)

theorem filter_guardDigit (s : List Char) :
    (guardDigit s).filter isLetterOrDigit = s.filter isLetterOrDigit := by
  cases s with
  | nil => rfl
  | cons c s =>
    rw [guardDigit_cons, List.filter_append]
    split <;> rfl

theorem filter_collapse (s : List Char) :
    (collapse s).filter isLetterOrDigit = s.filter isLetterOrDigit := by
  fun_induction collapse s with
  | case1 => rfl
  | case2 c => rfl
  | case3 c d s h ih => rw [ih, h.1, List.filter_cons_of_neg (a := '_') (by decide)]
  | case4 c d s h ih => rw [List.filter_cons, List.filter_cons, ih]

/-! ## Gaps in the passes -/

/-- The guard changes only what stands in front of the first character. -/
theorem guardDigit_append_cons (s : List Char) (a : Char) (t : List Char) :
    ∃ s', guardDigit (s ++ a :: t) = s' ++ a :: t ∧
      s'.filter isLetterOrDigit = s.filter isLetterOrDigit := by
  cases s with
  | nil =>
    refine ⟨_, guardDigit_cons a t, ?_⟩
    split <;> rfl
  | cons c s =>
    refine ⟨guardDigit (c :: s), ?_, filter_guardDigit _⟩
    rw [List.cons_append, guardDigit_cons, guardDigit_cons, List.append_assoc, List.cons_append]

theorem collapse_cons_of_ne {a : Char} (h : a ≠ '_') (t : List Char) :
    collapse (a :: t) = a :: collapse t := by
  cases t with
  | nil => rfl
  | cons b t => exact if_neg fun hab => h hab.1

/-- Runs of underscores end at any other character. -/
theorem collapse_append_cons (s : List Char) {a : Char} (h : a ≠ '_') (t : List Char) :
    collapse (s ++ a :: t) = collapse s ++ a :: collapse t := by
  fun_induction collapse s with
  | case1 => exact collapse_cons_of_ne h t
  | case2 c => exact (if_neg fun hc => h hc.2).trans (congrArg (c :: ·) (collapse_cons_of_ne h t))
  | case3 c d s hcd ih => exact (if_pos hcd).trans ih
  | case4 c d s hcd ih => exact (if_neg hcd).trans (congrArg (c :: ·) ih)

theorem collapse_replicate (n : Nat) : collapse (List.replicate (n + 1) '_') = ['_'] := by
  induction n with
  | zero => rfl
  | succ n ih => exact (if_pos ⟨rfl, rfl⟩).trans ih

theorem collapse_gap {gap : List Char} (h : ∀ c ∈ gap, isLetterOrDigit c = false) :
    collapse (gap.map mask) = if gap = [] then [] else ['_'] := by
  have hmask : gap.map mask = List.replicate gap.length '_' :=
    List.map_eq_replicate_iff.2 fun c hc => mask_of_not_isLetterOrDigit (h c hc)
  cases gap with
  | nil => rfl
  | cons c gap =>
    rw [hmask, if_neg (List.cons_ne_nil c gap)]
    exact collapse_replicate gap.length

/-! ## Both ends -/

theorem head?_guardDigit_map_mask {s : List Char} (hs : s ≠ []) :
    (guardDigit (s.map mask)).head? = some '_' ↔ s.head?.any Char.isLower = false := by
  obtain ⟨c, t, rfl⟩ := List.exists_cons_of_ne_nil hs
  rw [List.map_cons, guardDigit_cons]
  show _ ↔ c.isLower = false
  by_cases hc : isLetterOrDigit c = true
  · rw [mask_of_isLetterOrDigit hc]
    by_cases hd : c.isDigit = true
    · rw [if_pos hd]
      -- no digit is a letter
      refine iff_of_true rfl (Bool.eq_false_iff.2 fun hl => ?_)
      have hl := isLower_iff.1 hl
      have hd := isDigit_iff.1 hd
      omega
    · have hl : c.isLower = true := (Bool.or_eq_true_iff.1 hc).resolve_right hd
      rw [if_neg hd, hl]
      exact iff_of_false (fun h => ne_underscore hc (Option.some.inj h)) Bool.noConfusion
  · have hl : c.isLower = false := (Bool.or_eq_false_iff.1 (Bool.eq_false_iff.2 hc)).1
    rw [mask_of_not_isLetterOrDigit (Bool.eq_false_iff.2 hc)]
    exact iff_of_true rfl hl

theorem getLast?_guardDigit (s : List Char) : (guardDigit s).getLast? = s.getLast? := by
  cases s with
  | nil => rfl
  | cons c s => rw [guardDigit_cons, List.getLast?_append_cons]

theorem getLast?_collapse (s : List Char) : (collapse s).getLast? = s.getLast? := by
  fun_induction collapse s with
  | case1 => rfl
  | case2 c => rfl
  | case3 c d s h ih => rw [ih, List.getLast?_cons_cons]
  | case4 c d s h ih =>
    rw [List.getLast?_cons, ih, List.getLast?_cons, List.getLast?_cons, List.getLast?_cons]

/-! ## Without an underscore -/

theorem underscore_mem_collapse {s : List Char} : '_' ∈ collapse s ↔ '_' ∈ s := by
  fun_induction collapse s with
  | case1 => rfl
  | case2 c => rfl
  | case3 c d s h ih => rw [ih, h.1, h.2, List.mem_cons, List.mem_cons, List.mem_cons, or_self_left]
  | case4 c d s h ih => rw [List.mem_cons, ih, List.mem_cons (a := '_') (b := c)]

theorem map_mask_eq_self {s : List Char} (h : '_' ∉ s.map mask) : s.map mask = s := by
  refine (List.map_congr_left fun c hc => ?_).trans (List.map_id' _)
  by_cases hk : isLetterOrDigit c = true
  · exact mask_of_isLetterOrDigit hk
  · exact absurd (List.mem_map.2 ⟨c, hc, mask_of_not_isLetterOrDigit (Bool.eq_false_iff.2 hk)⟩) h

theorem guardDigit_eq_self {s : List Char} (h : '_' ∉ guardDigit s) : guardDigit s = s := by
  cases s with
  | nil => rfl
  | cons c s =>
    refine if_neg fun hc => h ?_
    rw [guardDigit_cons, if_pos hc]
    exact List.mem_cons_self ..

/-- Without an underscore in the result every pass has left the text as it was. -/
theorem eq_self_of_underscore_not_mem {s : List Char} (h : '_' ∉ collapse (guardDigit (s.map mask))) :
    collapse (guardDigit (s.map mask)) = s := by
  rw [underscore_mem_collapse] at h
  have hguard := guardDigit_eq_self h
  rw [hguard] at h ⊢
  have hmask := map_mask_eq_self h
  rw [hmask] at h ⊢
  exact collapse_eq_self fun hrun => h (hrun.subset (List.mem_cons_self ..))

/-! ## Identifiers -/

theorem lowerChar_capitalSigma : Text.lowerChar 'Σ' = ['σ'] := by
  decide +kernel

/-- Both forms of sigma are masked. -/
theorem map_mask_of_isLowercase {s l : List Char} (h : IsLowercase s l) :
    l.map mask = (Text.lowercase s).map mask := by
  induction h with
  | nil => rfl
  | char c h ih =>
    rw [Text.lowercase, List.flatMap_cons, List.map_append, List.map_append, ih]
    rfl
  | finalSigma h ih =>
    rw [Text.lowercase, List.flatMap_cons, lowerChar_capitalSigma, List.map_append, List.map_cons, ih]
    exact congrArg (· :: _) (by decide)

theorem ne_nil_of_isLowercase {s l : List Char} (h : IsLowercase s l) (hs : s ≠ []) : l ≠ [] := by
  intro hl
  have hmask := map_mask_of_isLowercase h
  rw [hl, eq_comm, List.map_nil, List.map_eq_nil_iff] at hmask
  exact lowercase_ne_nil hs hmask

theorem toList_sanitize {raw : String} {l : List Char} (hraw : raw ≠ "") (hl : IsLowercase raw.toList l) :
    (sanitize raw).toList = collapse (guardDigit (l.map mask)) := by
  have hchars : identifierChars raw.toList = collapse (guardDigit (l.map mask)) := by
    rw [map_mask_of_isLowercase hl]
    rfl
  obtain ⟨c, t, hs, -⟩ := isIdentifier_identifierChars (mt String.toList_eq_nil_iff.1 hraw)
  rw [← hchars, sanitize, hs]
  exact String.toList_ofList

theorem marksGaps_passes {l : List Char} (hl : l ≠ [])
    (hnormal : IsNormal (collapse (guardDigit (l.map mask)))) :
    MarksGaps l (collapse (guardDigit (l.map mask))) where
  normal := hnormal
  kept := by rw [filter_collapse, filter_guardDigit, filter_map_mask]
  apart := by
    intro before a gap b after heq ha hb hgap
    obtain ⟨before', hguard, hbefore⟩ := guardDigit_append_cons (before.map mask) a
      (gap.map mask ++ b :: after.map mask)
    refine ⟨collapse before', collapse (after.map mask), ?_, ?_, ?_⟩
    · rw [heq, List.map_append, List.map_cons, List.map_append, List.map_cons, mask_of_isLetterOrDigit ha,
        mask_of_isLetterOrDigit hb, hguard, collapse_append_cons _ (ne_underscore ha),
        collapse_append_cons _ (ne_underscore hb), collapse_gap hgap]
    · rw [filter_collapse, hbefore, filter_map_mask]
    · rw [filter_collapse, filter_map_mask]
  leading := by rw [head?_collapse, head?_guardDigit_map_mask hl]
  trailing := by
    rw [getLast?_collapse, getLast?_guardDigit, List.getLast?_map, List.getLast?_eq_some_getLast hl]
    exact Option.some_inj.trans mask_eq_underscore

/-- Sanitizing loses no letter and no digit of a label's lowercase, and marks every gap: between two of them,
in front of the first, unless the label begins with a letter, and behind the last. Only the empty label gets
the fallback name, which is otherwise the name of the labels that read the same in lowercase. -/
theorem sanitize_marks_gaps :
    (∀ (raw : String) (l : List Char), raw ≠ "" → IsLowercase raw.toList l →
      MarksGaps l (sanitize raw).toList) ∧
    ∀ (raw : String) (l : List Char), IsLowercase raw.toList l →
      (sanitize raw = "resource" ↔ raw = "" ∨ l = "resource".toList) := by
  refine ⟨fun raw l hraw hl => ?_, fun raw l hl => ?_⟩
  · have hnormal := isNormal_sanitize raw
    rw [toList_sanitize hraw hl] at hnormal ⊢
    exact marksGaps_passes (ne_nil_of_isLowercase hl (mt String.toList_eq_nil_iff.1 hraw)) hnormal
  · by_cases hraw : raw = ""
    · exact iff_of_true (hraw ▸ rfl) (.inl hraw)
    · rw [← String.toList_inj, toList_sanitize hraw hl, or_iff_right hraw]
      constructor
      · intro h
        rw [← h, eq_self_of_underscore_not_mem (h ▸ by decide)]
      · rintro rfl
        decide

/-- A digit in front, a gap in the middle and a capital sigma at the end, whose lowercase is the final one,
are each marked. A label may read like the fallback name. -/
theorem gaps_of_label :
    "4-aΣ" ≠ "" ∧ IsLowercase "4-aΣ".toList "4-aς".toList ∧
      MarksGaps "4-aς".toList (sanitize "4-aΣ").toList ∧ sanitize "4-aΣ" = "_4_a_" ∧
      IsLowercase "Resource".toList "resource".toList ∧ sanitize "Resource" = "resource" := by
  have hne : "4-aΣ" ≠ "" := by decide
  have hsigma : IsLowercase "4-aΣ".toList "4-aς".toList :=
    .char '4' (.char '-' (.char 'a' (.finalSigma .nil)))
  have hresource : IsLowercase "Resource".toList "resource".toList :=
    Text.isLowercase_lowercase "Resource".toList
  refine ⟨hne, hsigma, sanitize_marks_gaps.1 _ _ hne hsigma, by decide +kernel, hresource, ?_⟩
  exact (sanitize_marks_gaps.2 _ _ hresource).2 (.inr rfl)

end Naming

end CloudCanvas
