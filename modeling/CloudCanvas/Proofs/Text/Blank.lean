/-
Trimming. A text with white space at both ends is trimmed to what stands between, as far as that has none
of its own, and what is no white space is never trimmed away.
-/
import CloudCanvas.Text.Blank

namespace CloudCanvas

theorem mem_dropWhile {α : Type} {p : α → Bool} {s : List α} {a : α} (h : a ∈ s) (ha : p a = false) :
    a ∈ s.dropWhile p := by
  rw [← List.takeWhile_append_dropWhile (p := p) (l := s), List.mem_append] at h
  rcases h with h | h
  · have hp := List.all_eq_true.1 List.all_takeWhile a h
    rw [ha] at hp
    cases hp
  · exact h

theorem dropWhile_append_of_ne_nil {α : Type} {p : α → Bool} {s : List α} (hs : s ≠ [])
    (h : ∀ a ∈ s.head?, p a = false) (rest : List α) : (s ++ rest).dropWhile p = s ++ rest := by
  cases s with
  | nil => exact absurd rfl hs
  | cons a s => exact List.dropWhile_cons_of_neg (by simp [h a rfl])

namespace Text

/-! ## White space -/

theorem ne_of_isWhite {c : Char} (h : isWhite c = true) {d : Char} (hd : isWhite d = false) : c ≠ d := by
  rintro rfl
  rw [h] at hd
  cases hd

theorem not_isDigit_of_isWhite {c : Char} (h : isWhite c = true) : c.isDigit = false := by
  cases hc : c.isDigit with
  | false => rfl
  | true =>
    have hdigit : 48 ≤ c.toNat ∧ c.toNat ≤ 57 := by
      simpa [Char.isDigit, Char.le_def, UInt32.le_iff_toNat_le] using hc
    simp only [isWhite, CodePoints.contains, whiteSpace, List.any_cons, List.any_nil, Bool.or_eq_true,
      Bool.and_eq_true, decide_eq_true_eq, Bool.false_eq_true, or_false] at h
    omega

/-! ## Trimming -/

/-- What is no white space is not trimmed away. -/
theorem mem_trimChars {s : List Char} {c : Char} (h : c ∈ s) (hc : isWhite c = false) :
    c ∈ trimChars s := by
  unfold trimChars
  rw [List.mem_reverse]
  exact mem_dropWhile (List.mem_reverse.2 (mem_dropWhile h hc)) hc

/-- Trimming stops at what neither begins nor ends with white space. -/
theorem trimChars_append {before s after : List Char} (hbefore : ∀ c ∈ before, isWhite c = true)
    (hafter : ∀ c ∈ after, isWhite c = true) (hs : s ≠ []) (hhead : ∀ c ∈ s.head?, isWhite c = false)
    (hlast : ∀ c ∈ s.getLast?, isWhite c = false) : trimChars (before ++ s ++ after) = s := by
  have hfront : (before ++ s ++ after).dropWhile isWhite = s ++ after := by
    rw [List.append_assoc, List.dropWhile_append_of_pos hbefore, dropWhile_append_of_ne_nil hs hhead]
  have hback := dropWhile_append_of_ne_nil (p := isWhite) (List.reverse_ne_nil_iff.2 hs)
    (fun c hc => hlast c (by rwa [List.head?_reverse] at hc)) []
  rw [List.append_nil] at hback
  rw [trimChars, hfront, List.reverse_append,
    List.dropWhile_append_of_pos fun c hc => hafter c (List.mem_reverse.1 hc), hback, List.reverse_reverse]

/-- The text is `s`, with white space allowed at both ends. -/
def IsPadded (text s : String) : Prop :=
  ∃ before after, isBlank before = true ∧ isBlank after = true ∧ text = before ++ s ++ after

theorem isBlank_append {s t : String} : isBlank (s ++ t) = true ↔ isBlank s = true ∧ isBlank t = true := by
  unfold isBlank
  rw [String.toList_append, List.all_append, Bool.and_eq_true]

/-- A text is what trimming leaves of it, with white space at both ends. -/
theorem isPadded_trim (s : String) : IsPadded s (trim s) := by
  let rest := s.toList.dropWhile isWhite
  have hfront : s.toList = s.toList.takeWhile isWhite ++ rest :=
    List.takeWhile_append_dropWhile.symm
  have hback : rest = trimChars s.toList ++ (rest.reverse.takeWhile isWhite).reverse := by
    have hreverse : rest.reverse = rest.reverse.takeWhile isWhite ++ rest.reverse.dropWhile isWhite :=
      List.takeWhile_append_dropWhile.symm
    have := congrArg List.reverse hreverse
    rwa [List.reverse_reverse, List.reverse_append] at this
  refine ⟨String.ofList (s.toList.takeWhile isWhite), String.ofList (rest.reverse.takeWhile isWhite).reverse,
    ?_, ?_, ?_⟩
  · rw [isBlank, String.toList_ofList]
    exact List.all_takeWhile
  · rw [isBlank, String.toList_ofList, List.all_reverse]
    exact List.all_takeWhile
  · rw [← String.toList_inj, String.toList_append, String.toList_append, String.toList_ofList,
      String.toList_ofList, trim, String.toList_ofList, List.append_assoc, ← hback, ← hfront]

/-- A text without any white space, which is not empty. -/
def IsSolid (s : String) : Prop :=
  s ≠ "" ∧ s.toList.any isWhite = false

theorem IsSolid.isWhite_eq_false {s : String} (h : IsSolid s) : ∀ c ∈ s.toList, isWhite c = false :=
  fun c hc => Bool.eq_false_iff.2 (List.any_eq_false.1 h.2 c hc)

/-- Trimming stops at texts without white space at both ends. -/
theorem trimChars_solid {before after : List Char} (hbefore : ∀ c ∈ before, isWhite c = true)
    (hafter : ∀ c ∈ after, isWhite c = true) {s t : String} (hs : IsSolid s) (middle : List Char)
    (ht : IsSolid t) :
    trimChars (before ++ (s.toList ++ middle ++ t.toList) ++ after) = s.toList ++ middle ++ t.toList := by
  have hfirst : s.toList.head?.isSome = true := by simpa using hs.1
  have hlast : t.toList.getLast?.isSome = true := by simpa using ht.1
  refine trimChars_append hbefore hafter (by simp [hs.1]) (fun c hc => ?_) fun c hc => ?_
  · rw [List.append_assoc, List.head?_append, Option.or_of_isSome hfirst] at hc
    exact hs.isWhite_eq_false c (List.mem_of_head? hc)
  · rw [List.getLast?_append, Option.or_of_isSome hlast] at hc
    exact ht.isWhite_eq_false c (List.mem_of_getLast? hc)

namespace IsPadded

variable {text s : String}

theorem trans {t : String} (h : IsPadded text t) (ht : IsPadded t s) : IsPadded text s := by
  obtain ⟨before, after, hbefore, hafter, rfl⟩ := h
  obtain ⟨before', after', hbefore', hafter', rfl⟩ := ht
  refine ⟨before ++ before', after' ++ after, isBlank_append.2 ⟨hbefore, hbefore'⟩,
    isBlank_append.2 ⟨hafter', hafter⟩, ?_⟩
  simp only [String.append_assoc]

theorem trimChars_eq (h : IsPadded text s) (hs : IsSolid s) : trimChars text.toList = s.toList := by
  obtain ⟨before, after, hbefore, hafter, rfl⟩ := h
  rw [String.toList_append, String.toList_append]
  exact trimChars_append (List.all_eq_true.1 hbefore) (List.all_eq_true.1 hafter)
    (mt String.toList_eq_nil_iff.1 hs.1)
    (fun c hc => hs.isWhite_eq_false c (List.mem_of_head? hc))
    (fun c hc => hs.isWhite_eq_false c (List.mem_of_getLast? hc))

theorem trim_eq (h : IsPadded text s) (hs : IsSolid s) : trim text = s := by
  rw [trim, h.trimChars_eq hs, String.ofList_toList]

theorem isBlank_eq_false (h : IsPadded text s) (hs : IsSolid s) : isBlank text = false := by
  obtain ⟨before, after, -, -, rfl⟩ := h
  obtain ⟨c, rest, hc⟩ := List.exists_cons_of_ne_nil (mt String.toList_eq_nil_iff.1 hs.1)
  have hmem : c ∈ s.toList := hc ▸ List.mem_cons_self ..
  refine List.all_eq_false.2 ⟨c, ?_, by simp [hs.isWhite_eq_false c hmem]⟩
  simp [hmem]

end IsPadded

end Text

end CloudCanvas
