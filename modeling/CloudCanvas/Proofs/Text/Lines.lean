/-
The lines of a text. A text that is put together from unbroken lines has exactly those lines, and
paragraphs with an empty line between them are lines again.
-/
import CloudCanvas.Text.Blank

namespace CloudCanvas.Text

/-- The lines of a text: what stands before, between and after its line breaks. -/
def lines (s : String) : List String :=
  (s.toList.splitOn '\n').map String.ofList

/-- The characters that break a line up: line breaks, carriage returns and tabs. -/
def isBreak (c : Char) : Bool :=
  c == '\n' || c == '\r' || c == '\t'

/-- A text without line breaks, carriage returns and tabs. -/
def Unbroken (s : String) : Prop :=
  ∀ c ∈ s.toList, isBreak c = false

theorem all_isBreak_eq_false {s : String} :
    (s.toList.all fun c => !isBreak c) = true ↔ Unbroken s := by
  simp only [List.all_eq_true, Bool.not_eq_true', Unbroken]

instance (s : String) : Decidable (Unbroken s) :=
  decidable_of_iff _ all_isBreak_eq_false

/-! ## Parts with a separator between them -/

theorem mem_intercalate {α : Type} {separator : List α} {parts : List (List α)} {a : α}
    (h : a ∈ separator.intercalate parts) : a ∈ separator ∨ ∃ part ∈ parts, a ∈ part := by
  induction parts with
  | nil => cases h
  | cons part rest ih =>
    by_cases hr : rest = []
    · subst hr
      rw [List.intercalate_singleton] at h
      exact .inr ⟨part, List.mem_cons_self .., h⟩
    · rw [List.intercalate_cons_of_ne_nil hr, List.mem_append, List.mem_append] at h
      rcases h with (h | h) | h
      · exact .inr ⟨part, List.mem_cons_self .., h⟩
      · exact .inl h
      · rcases ih h with h | ⟨part', hp, h⟩
        · exact .inl h
        · exact .inr ⟨part', List.mem_cons_of_mem _ hp, h⟩

/-- A filter that leaves the separator out sees the parts one after another. -/
theorem filter_intercalate {α : Type} {p : α → Bool} {a : α} (ha : p a = false) (parts : List (List α)) :
    ([a].intercalate parts).filter p = parts.flatMap fun part => part.filter p := by
  induction parts with
  | nil => rfl
  | cons part rest ih =>
    by_cases hr : rest = []
    · subst hr; simp
    · rw [List.intercalate_cons_of_ne_nil hr, List.filter_append, List.filter_append, ih,
        List.flatMap_cons]
      simp [ha]

/-! ## Unbroken texts -/

/-- A class of characters that holds none of the three leaves a line unbroken. -/
theorem isBreak_eq_false_of {p : Char → Bool} {c : Char} (h : p c = true) (hn : p '\n' = false)
    (hr : p '\r' = false) (ht : p '\t' = false) : isBreak c = false := by
  cases hb : isBreak c with
  | false => rfl
  | true =>
    unfold isBreak at hb
    simp only [Bool.or_eq_true, beq_iff_eq] at hb
    rcases hb with (rfl | rfl) | rfl
    · rw [hn] at h; cases h
    · rw [hr] at h; cases h
    · rw [ht] at h; cases h

theorem unbroken_append {s t : String} : Unbroken (s ++ t) ↔ Unbroken s ∧ Unbroken t := by
  simp only [Unbroken, String.toList_append, List.mem_append]
  constructor
  · intro h
    exact ⟨fun c hc => h c (.inl hc), fun c hc => h c (.inr hc)⟩
  · rintro ⟨hs, ht⟩ c (hc | hc)
    · exact hs c hc
    · exact ht c hc

theorem unbroken_join {parts : List String} (h : ∀ part ∈ parts, Unbroken part) :
    Unbroken (String.join parts) := by
  intro c hc
  rw [String.toList_join, List.mem_flatMap] at hc
  obtain ⟨part, hpart, hc⟩ := hc
  exact h part hpart c hc

theorem unbroken_intercalate {separator : String} {parts : List String} (hs : Unbroken separator)
    (h : ∀ part ∈ parts, Unbroken part) : Unbroken (separator.intercalate parts) := by
  intro c hc
  rw [String.toList_intercalate] at hc
  rcases mem_intercalate hc with hc | ⟨part, hp, hc⟩
  · exact hs c hc
  · obtain ⟨text, ht, rfl⟩ := List.mem_map.1 hp
    exact h text ht c hc

/-! ## Lines -/

/-- A text put together from unbroken lines has these lines. -/
theorem lines_intercalate {ls : List String} (hne : ls ≠ []) (h : ∀ l ∈ ls, Unbroken l) :
    lines ("\n".intercalate ls) = ls := by
  have hbreak : ∀ l ∈ ls.map String.toList, '\n' ∉ l := by
    intro l hl hc
    obtain ⟨line, hline, rfl⟩ := List.mem_map.1 hl
    have := h line hline '\n' hc
    revert this; decide
  unfold lines
  rw [String.toList_intercalate, show "\n".toList = ['\n'] from rfl,
    List.splitOn_intercalate '\n' hbreak (by simpa using hne), List.map_map]
  simp [Function.comp_def]

/-- Paragraphs, put together with an empty line between them, are the lines of all of them with an
empty line between. -/
theorem intercalate_paragraphs {paragraphs : List (List String)} (h : ∀ p ∈ paragraphs, p ≠ []) :
    "\n\n".intercalate (paragraphs.map fun p => "\n".intercalate p) =
      "\n".intercalate ([""].intercalate paragraphs) := by
  induction paragraphs with
  | nil => rfl
  | cons p rest ih =>
    by_cases hr : rest = []
    · subst hr; simp
    · have hrest : [""].intercalate rest ≠ [] := by
        cases rest with
        | nil => exact absurd rfl hr
        | cons q rest =>
          have hq := h q (by simp)
          cases rest <;> simp [hq]
      rw [List.map_cons, String.intercalate_cons_of_ne_nil (by simpa using hr),
        ih fun q hq => h q (List.mem_cons_of_mem _ hq), List.intercalate_cons_of_ne_nil hr,
        String.intercalate_append_of_ne_nil (by simp) hrest,
        String.intercalate_append_of_ne_nil (h p (List.mem_cons_self ..)) (by simp),
        String.intercalate_singleton, String.append_empty]
      simp only [String.append_assoc]
      rfl

end CloudCanvas.Text
