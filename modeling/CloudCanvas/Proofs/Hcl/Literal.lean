/-
String literals hold no character that breaks a line up: whatever the text, its literal stays on the
line on which it begins. A text without reserved characters is written as it is.
-/
import CloudCanvas.Hcl.Literal
import CloudCanvas.Proofs.Text.Lines

namespace CloudCanvas.Hcl

open CloudCanvas.Text

/-- Every character that breaks a line up is reserved. -/
theorem isBreak_of_escapeLetter?_eq_none {c : Char} (h : escapeLetter? c = none) : isBreak c = false :=
  isBreak_eq_false_of (p := fun c => (escapeLetter? c).isNone) (by simp [h]) rfl rfl rfl

theorem isBreak_of_escapeLetter?_eq_some {c e : Char} (h : escapeLetter? c = some e) :
    isBreak e = false := by
  unfold escapeLetter? at h
  split at h <;> cases h <;> decide

theorem isBreak_of_mem_escapeChar {c d : Char} (h : d ∈ escapeChar c) : isBreak d = false := by
  unfold escapeChar at h
  split at h
  · rename_i e he
    simp only [List.mem_cons, List.not_mem_nil, or_false] at h
    rcases h with rfl | rfl
    · decide
    · exact isBreak_of_escapeLetter?_eq_some he
  · rename_i hn
    rw [List.mem_singleton] at h
    rw [h]; exact isBreak_of_escapeLetter?_eq_none hn

theorem unbroken_escape (s : String) : Unbroken (escape s) := by
  intro c hc
  unfold escape escapeChars at hc
  rw [String.toList_ofList, List.mem_flatMap] at hc
  obtain ⟨d, -, hc⟩ := hc
  exact isBreak_of_mem_escapeChar hc

/-- A literal is unbroken, whatever its text. -/
theorem unbroken_quote (s : String) : Unbroken (quote s) := by
  have hq : Unbroken "\"" := by decide
  exact unbroken_append.2 ⟨unbroken_append.2 ⟨hq, unbroken_escape s⟩, hq⟩

theorem escape_eq_self {s : String} (h : ∀ c ∈ s.toList, escapeLetter? c = none) : escape s = s := by
  have hs : ∀ l : List Char, (∀ c ∈ l, escapeLetter? c = none) → escapeChars l = l := by
    intro l hl
    induction l with
    | nil => rfl
    | cons c l ih =>
      have hc : escapeChar c = [c] := by unfold escapeChar; rw [hl c (List.mem_cons_self ..)]
      have hr := ih fun d hd => hl d (List.mem_cons_of_mem _ hd)
      unfold escapeChars at hr ⊢
      rw [List.flatMap_cons, hc, hr]; rfl
  unfold escape
  rw [hs s.toList h, String.ofList_toList]

end CloudCanvas.Hcl
