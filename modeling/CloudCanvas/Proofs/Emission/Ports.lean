/-
Which entries of a port list are accepted: a port, or two ports in order with a dash between them, with
white space wherever a port begins or ends. What an entry spells is first told by trimming, as it is read,
and then by a grammar that knows of white space only that it may stand around a port.
-/
import CloudCanvas.Emission.PortRange
import CloudCanvas.Proofs.Text.Blank

namespace CloudCanvas

namespace PortRange

/-- The characters spell a port: digits for a value of at most 65535, with a plus sign allowed in front
and white space at both ends. -/
def IsPort (s : List Char) (port : Nat) : Prop :=
  ∃ ds, (Text.trimChars s = ds ∨ Text.trimChars s = '+' :: ds) ∧ ds ≠ [] ∧
    (∀ c ∈ ds, c.isDigit = true) ∧ digitsValue 0 ds = port ∧ port ≤ 65535

/-- The entry spells a port or a range of ports. -/
def Spells (entry : String) (low high : Nat) : Prop :=
  (IsPort (Text.trimChars entry.toList) low ∧ low = high) ∨
    ∃ before after, Text.trimChars entry.toList = before ++ '-' :: after ∧
      IsPort before low ∧ IsPort after high ∧ low ≤ high

theorem readPort?_eq_some_iff {s : List Char} {port : Nat} : readPort? s = some port ↔ IsPort s port := by
  have hread : ∀ ds, dropPlus (Text.trimChars s) = ds →
      (readPort? s = some port ↔ ds ≠ [] ∧ (∀ c ∈ ds, c.isDigit = true) ∧ digitsValue 0 ds = port ∧
        port ≤ 65535) := by
    rintro ds rfl
    unfold readPort?
    dsimp only
    split
    · rename_i h
      simp only [Bool.and_eq_true, Bool.not_eq_true', List.isEmpty_eq_false_iff, List.all_eq_true,
        decide_eq_true_eq] at h
      rw [Option.some_inj]
      constructor
      · rintro rfl
        exact ⟨h.1.1, h.1.2, rfl, h.2⟩
      · rintro ⟨-, -, hvalue, -⟩
        exact hvalue
    · rename_i h
      constructor
      · intro hnone
        cases hnone
      · rintro ⟨hne, hdigits, rfl, hle⟩
        refine absurd ?_ h
        simp only [Bool.and_eq_true, Bool.not_eq_true', List.isEmpty_eq_false_iff, List.all_eq_true,
          decide_eq_true_eq]
        exact ⟨⟨hne, hdigits⟩, hle⟩
  constructor
  · intro h
    refine ⟨dropPlus (Text.trimChars s), ?_, (hread _ rfl).1 h⟩
    unfold dropPlus
    split
    · exact .inr ‹_›
    · exact .inl rfl
  · rintro ⟨ds, hs | hs, hds⟩
    · refine (hread ds ?_).2 hds
      rw [hs]
      unfold dropPlus
      split
      · -- a plus sign is no digit
        exact absurd (hds.2.1 '+' (List.mem_cons_self ..)) (by decide)
      · rfl
    · refine (hread ds ?_).2 hds
      rw [hs]
      rfl

theorem IsPort.dash_not_mem {s : List Char} {port : Nat} (h : IsPort s port) : '-' ∉ s := by
  obtain ⟨ds, hs, -, hdigits, -⟩ := h
  intro hmem
  have hdash : '-' ∈ ds := by
    have htrimmed := Text.mem_trimChars hmem (by decide)
    rcases hs with hs | hs
    · rwa [hs] at htrimmed
    · rw [hs] at htrimmed
      simpa using htrimmed
  exact absurd (hdigits _ hdash) (by decide)

theorem between_eq_ok_iff {low high : Nat} {range : PortRange} :
    between low high = .ok range ↔ range.low = low ∧ range.high = high := by
  unfold between
  split
  · rename_i h
    rw [Except.ok.injEq]
    constructor
    · rintro rfl
      exact ⟨rfl, rfl⟩
    · rintro ⟨rfl, rfl⟩
      rfl
  · rename_i h
    constructor
    · intro hok
      cases hok
    · rintro ⟨rfl, rfl⟩
      exact absurd ⟨range.low_le_high, range.high_le⟩ h

theorem no_dash_of_dropWhile {s : List Char} (h : s.dropWhile (· != '-') = []) : '-' ∉ s := by
  intro hmem
  have hdash := mem_dropWhile (p := (· != '-')) hmem (by decide)
  rw [h] at hdash
  cases hdash

/-- An entry is read as the range that it spells. -/
theorem read_eq_ok_iff {entry : String} {range : PortRange} :
    read entry = .ok range ↔ Spells entry range.low range.high := by
  unfold read Spells
  generalize Text.trimChars entry.toList = s
  dsimp only
  split
  · rename_i hnone
    have hdash := no_dash_of_dropWhile hnone
    constructor
    · intro h
      split at h
      · rename_i port hport
        obtain ⟨hlow, hhigh⟩ := between_eq_ok_iff.1 h
        rw [hlow, hhigh]
        exact .inl ⟨readPort?_eq_some_iff.1 hport, rfl⟩
      · cases h
    · rintro (⟨hport, hsame⟩ | ⟨before, after, rfl, -⟩)
      · rw [readPort?_eq_some_iff.2 hport]
        exact between_eq_ok_iff.2 ⟨rfl, hsame.symm⟩
      · exact absurd (List.mem_append_right _ (List.mem_cons_self ..)) hdash
  · rename_i c after hsplit
    have hs : s = s.takeWhile (· != '-') ++ c :: after := by
      rw [← hsplit, List.takeWhile_append_dropWhile]
    obtain rfl : c = '-' := by
      have hc := List.head?_dropWhile_not (· != '-') s
      rw [hsplit] at hc
      simpa using hc
    constructor
    · intro h
      split at h
      · rename_i low high hlow hhigh
        obtain ⟨rfl, rfl⟩ := between_eq_ok_iff.1 h
        exact .inr ⟨_, after, hs, readPort?_eq_some_iff.1 hlow, readPort?_eq_some_iff.1 hhigh,
          range.low_le_high⟩
      · cases h
    · rintro (⟨hport, -⟩ | ⟨before, rest, rfl, hlow, hhigh, -⟩)
      · rw [hs] at hport
        exact absurd (List.mem_append_right _ (List.mem_cons_self ..)) hport.dash_not_mem
      · -- the part in front has no dash, so this is the first one
        have hbefore : ∀ d ∈ before, (d != '-') = true := by
          intro d hd
          rw [bne_iff_ne]
          rintro rfl
          exact hlow.dash_not_mem hd
        have htake : (before ++ '-' :: rest).takeWhile (· != '-') = before := by
          rw [List.takeWhile_append_of_pos hbefore]
          simp
        rw [List.dropWhile_append_of_pos hbefore] at hsplit
        obtain rfl : rest = after := by simpa using hsplit
        rw [htake, readPort?_eq_some_iff.2 hlow, readPort?_eq_some_iff.2 hhigh]
        exact between_eq_ok_iff.2 ⟨rfl, rfl⟩

theorem Spells.bounds {entry : String} {low high : Nat} (h : Spells entry low high) :
    low ≤ high ∧ high ≤ 65535 := by
  rcases h with ⟨⟨ds, -, -, -, -, hle⟩, rfl⟩ | ⟨before, after, -, -, ⟨ds, -, -, -, -, hle⟩, hlh⟩
  · exact ⟨Nat.le_refl _, hle⟩
  · exact ⟨hlh, hle⟩

/-- Whatever an entry spells, it is read so. -/
theorem exists_read_iff {entry : String} {low high : Nat} :
    (∃ range, read entry = .ok range ∧ range.low = low ∧ range.high = high) ↔ Spells entry low high := by
  constructor
  · rintro ⟨range, hread, rfl, rfl⟩
    exact read_eq_ok_iff.1 hread
  · intro h
    exact ⟨⟨low, high, h.bounds.1, h.bounds.2⟩, read_eq_ok_iff.2 h, rfl, rfl⟩

/-- An entry is refused when it spells no range. -/
theorem exists_error_iff {entry : String} :
    (∃ cause, read entry = .error cause) ↔ ¬ ∃ low high, Spells entry low high := by
  simp only [← exists_read_iff]
  cases hr : read entry with
  | ok range =>
    refine iff_of_false ?_ fun h => h ⟨_, _, range, rfl, rfl, rfl⟩
    rintro ⟨cause, hc⟩
    cases hc
  | error cause =>
    refine iff_of_true ⟨cause, rfl⟩ ?_
    rintro ⟨low, high, range, hok, -⟩
    cases hok

/-! ## The grammar of an entry -/

/-- A port as it is written: digits for a value of at most 65535, with a plus sign allowed in front. -/
def IsPortText (s : String) (port : Nat) : Prop :=
  ∃ ds : List Char, (s.toList = ds ∨ s.toList = '+' :: ds) ∧ ds ≠ [] ∧ (∀ c ∈ ds, c.isDigit = true) ∧
    digitsValue 0 ds = port ∧ port ≤ 65535

/-- What an entry stands for: one port, or the ports from one to another, not lower one. -/
inductive Denotes : String → Nat → Nat → Prop
  | single {entry text : String} {port : Nat} :
    Text.IsPadded entry text → IsPortText text port → Denotes entry port port
  | range {before after text text' : String} {low high : Nat} :
    Text.IsPadded before text → IsPortText text low → Text.IsPadded after text' → IsPortText text' high →
      low ≤ high → Denotes (before ++ "-" ++ after) low high

theorem IsPortText.isSolid {s : String} {port : Nat} (h : IsPortText s port) : Text.IsSolid s := by
  obtain ⟨ds, hs, hne, hdigits, -, -⟩ := h
  have hsolid : ∀ c ∈ ds, Text.isWhite c = false := by
    intro c hc
    refine Bool.eq_false_iff.2 fun hw => ?_
    have hdigit := hdigits c hc
    rw [Text.not_isDigit_of_isWhite hw] at hdigit
    cases hdigit
  refine ⟨?_, List.any_eq_false.2 fun c hc => ?_⟩
  · rintro rfl
    rcases hs with hs | hs
    · exact hne hs.symm
    · cases hs
  · have hwhite : Text.isWhite c = false := by
      rcases hs with hs | hs
      · exact hsolid c (hs ▸ hc)
      · rw [hs, List.mem_cons] at hc
        rcases hc with rfl | hc
        · decide
        · exact hsolid c hc
    rw [hwhite]
    exact Bool.false_ne_true

theorem isPort_iff {s : String} {port : Nat} :
    IsPort s.toList port ↔ ∃ text, Text.IsPadded s text ∧ IsPortText text port := by
  constructor
  · intro h
    refine ⟨Text.trim s, Text.isPadded_trim s, ?_⟩
    unfold IsPortText Text.trim
    rw [String.toList_ofList]
    exact h
  · rintro ⟨text, hpadded, htext⟩
    unfold IsPort
    rw [hpadded.trimChars_eq htext.isSolid]
    exact htext

/-- Trimming an entry and its parts finds the ports of the grammar. -/
theorem spells_iff_denotes {entry : String} {low high : Nat} :
    Spells entry low high ↔ Denotes entry low high := by
  constructor
  · rintro (⟨hport, rfl⟩ | ⟨before, after, hentry, hlow, hhigh, hle⟩)
    · rw [← String.toList_ofList (l := Text.trimChars entry.toList)] at hport
      obtain ⟨text, hpadded, htext⟩ := isPort_iff.1 hport
      exact .single ((Text.isPadded_trim entry).trans hpadded) htext
    · rw [← String.toList_ofList (l := before)] at hlow
      rw [← String.toList_ofList (l := after)] at hhigh
      obtain ⟨text, hbefore, htext⟩ := isPort_iff.1 hlow
      obtain ⟨text', hafter, htext'⟩ := isPort_iff.1 hhigh
      -- the white space around the entry goes to the two ports
      obtain ⟨front, back, hfront, hback, hsplit⟩ := Text.isPadded_trim entry
      have hdash : entry = (front ++ String.ofList before) ++ "-" ++ (String.ofList after ++ back) := by
        rw [hsplit, Text.trim, hentry, ← String.toList_inj]
        simp
      rw [hdash]
      exact .range (.trans ⟨front, "", hfront, rfl, by simp⟩ hbefore) htext
        (.trans ⟨"", back, rfl, hback, by simp⟩ hafter) htext' hle
  · intro h
    cases h with
    | single hpadded htext =>
      refine .inl ⟨?_, rfl⟩
      rw [hpadded.trimChars_eq htext.isSolid]
      exact isPort_iff.2 ⟨_, ⟨"", "", rfl, rfl, by simp⟩, htext⟩
    | @range before after text text' low high hbefore htext hafter htext' hle =>
      obtain ⟨front, gap, hfront, hgap, rfl⟩ := hbefore
      obtain ⟨gap', back, hgap', hback, rfl⟩ := hafter
      refine .inr ⟨(text ++ gap).toList, (gap' ++ text').toList, ?_, ?_, ?_, hle⟩
      · have hmiddle : (text ++ gap).toList ++ '-' :: (gap' ++ text').toList =
            text.toList ++ (gap ++ "-" ++ gap').toList ++ text'.toList := by
          simp
        have htrim := Text.trimChars_solid (List.all_eq_true.1 hfront) (List.all_eq_true.1 hback) htext.isSolid
          (gap ++ "-" ++ gap').toList htext'.isSolid
        rw [hmiddle, ← htrim]
        simp
      · exact isPort_iff.2 ⟨text, ⟨"", gap, rfl, hgap, by simp⟩, htext⟩
      · exact isPort_iff.2 ⟨text', ⟨gap', "", hgap', rfl, by simp⟩, htext'⟩

end PortRange

end CloudCanvas
