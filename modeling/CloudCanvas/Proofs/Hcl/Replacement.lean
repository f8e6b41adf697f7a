/-
Escaping as replacing. Escaping writes each character by itself, in one walk over the text; it comes to the
same as replacing the reserved characters throughout, one after another, the backslash first. What a pass
puts in is a backslash and a letter, so the passes agree with the walk as long as no later pass is about the
backslash, or about a character or a letter of an earlier one.
-/
import CloudCanvas.Hcl.Literal
import Mathlib.Data.List.Basic
import Mathlib.Data.List.Induction

namespace CloudCanvas

/-! ## Replacing a character throughout a text -/

namespace Text

open String String.Slice.Pattern String.Slice.Pattern.Model

/-- The characters of a text, with others put for each `c`. -/
def replaced (c : Char) (others s : List Char) : List Char :=
  s.flatMap fun d => if d = c then others else [d]

theorem replaced_append (c : Char) (others s t : List Char) :
    replaced c others (s ++ t) = replaced c others s ++ replaced c others t :=
  List.flatMap_append

theorem replaced_eq_self {c : Char} {others s : List Char} (h : ∀ d ∈ s, d ≠ c) :
    replaced c others s = s := by
  unfold replaced
  rw [List.flatMap_congr fun d hd => if_neg (h d hd), List.flatMap_singleton']

section Steps

variable {s : Slice} {c : Char}

theorem copy_sliceFrom_next (p : s.Pos) (h : p ≠ s.endPos) :
    (s.sliceFrom p).copy = String.singleton (p.get h) ++ (s.sliceFrom (p.next h)).copy :=
  p.splits.eq_right (p.splits_next_right h)

theorem copy_sliceFrom_of_le {p q : s.Pos} (h : p ≤ q) :
    (s.sliceFrom p).copy = (s.slice p q h).copy ++ (s.sliceFrom q).copy := by
  obtain ⟨before, after, hp, hq⟩ := Slice.copy_slice_eq_iff_splits.1 ⟨h, rfl⟩
  rw [p.splits.eq_right hp, q.splits.eq_right hq]

/-- A stretch in which a search finds nothing does not hold the character. -/
theorem ne_of_mem_slice {p q : s.Pos} (h : p ≤ q) (hno : ∀ r, p ≤ r → r < q → ¬ MatchesAt c r) :
    ∀ d ∈ (s.slice p q h).copy.toList, d ≠ c := by
  have hchain : IsLongestMatchAtChain (· != c) p q := by
    refine CharPred.isLongestMatchAtChain_iff.2 ⟨h, fun r hr hlt => ?_⟩
    have hmatch := hno r hr hlt
    rw [Char.matchesAt_iff, not_exists] at hmatch
    exact bne_iff_ne.2 (hmatch _)
  obtain ⟨_, hmem⟩ := CharPred.isLongestMatchAtChain_iff_toList.1 hchain
  exact fun d hd => bne_iff_ne.1 (hmem d hd)

/-- From any place on, replacing goes over what a search for the character finds there. -/
theorem toList_foldl_steps {p : s.Pos} {steps : List (SearchStep s)} (h : IsValidSearchFrom c p steps)
    (others done : String) :
    (steps.foldl (fun done step => match done, step with
      | done, .matched .. => done ++ ToSlice.toSlice others
      | done, .rejected start stop => done ++ s.slice! start stop) done).toList =
      done.toList ++ replaced c others.toList (s.sliceFrom p).copy.toList := by
  induction h generalizing done with
  | endPos => simp [replaced]
  | matched hmatch _ ih =>
    obtain ⟨hne, rfl, hc⟩ := Char.isLongestMatchAt_iff.1 hmatch
    have hothers : (ToSlice.toSlice others).copy = others := copy_toSlice
    rw [List.foldl_cons, ih, copy_sliceFrom_next _ hne]
    simp [hc, replaced, hothers]
  | mismatched hlt hno _ ih =>
    have hle := Std.le_of_lt hlt
    rw [List.foldl_cons, ih, copy_sliceFrom_of_le hle, toList_append, replaced_append,
      replaced_eq_self (ne_of_mem_slice hle hno)]
    simp [← Slice.slice_eq_slice! (h := hle)]

end Steps

theorem toList_replace (s : String) (c : Char) (others : String) :
    (s.replace c others).toList = replaced c others.toList s.toList := by
  have hsteps : IsValidSearchFrom c s.toSlice.startPos (ToForwardSearcher.toSearcher c s.toSlice).toList :=
    LawfulToForwardSearcherModel.isValidSearchFrom_toList s.toSlice
  unfold String.replace Slice.replace
  rw [← Std.Iter.foldl_toList]
  refine (toList_foldl_steps hsteps others "").trans ?_
  simp

end Text

/-! ## Passes -/

namespace Hcl

/-- The reserved characters, each with the letter that stands for it, in the order of their passes. -/
def letters : List (Char × Char) :=
  [('\\', '\\'), ('"', '"'), ('\n', 'n'), ('\r', 'r'), ('\t', 't')]

theorem lookup_letters (c : Char) : letters.lookup c = escapeLetter? c := by
  unfold escapeLetter?
  split
  case h_6 hslash hquote hline hreturn htab =>
    rw [List.lookup_eq_none_iff]
    simpa [letters] using ⟨hslash, hquote, hline, hreturn, htab⟩
  all_goals rfl

/-- How a character is written when just the listed ones are escaped. -/
def escapeBy (rows : List (Char × Char)) (c : Char) : List Char :=
  match rows.lookup c with
  | some e => ['\\', e]
  | none => [c]

theorem escapeChar_eq_escapeBy (c : Char) : escapeChar c = escapeBy letters c := by
  have hrow := lookup_letters c
  cases he : escapeLetter? c with
  | none => simp only [escapeChar, escapeBy, hrow, he]
  | some e => simp only [escapeChar, escapeBy, hrow, he]

/-- One pass over a text: escapes the character of a row wherever it stands. -/
def pass (s : List Char) (row : Char × Char) : List Char :=
  Text.replaced row.1 ['\\', row.2] s

/-- The later pass leaves alone what the earlier one puts in and takes out. -/
def Skips (earlier later : Char × Char) : Prop :=
  later.1 ≠ '\\' ∧ later.1 ≠ earlier.1 ∧ later.1 ≠ earlier.2

instance (earlier later : Char × Char) : Decidable (Skips earlier later) :=
  inferInstanceAs (Decidable (_ ∧ _))

/-- A pass over the written form of a character, once the passes before it have been made. -/
theorem pass_escapeBy {rows : List (Char × Char)} {row : Char × Char} (h : ∀ earlier ∈ rows, Skips earlier row)
    (c : Char) : pass (escapeBy rows c) row = escapeBy (rows ++ [row]) c := by
  unfold escapeBy
  rw [List.lookup_append]
  cases hl : rows.lookup c with
  | some e =>
    obtain ⟨before, after, rfl, -⟩ := List.lookup_eq_some_iff.1 hl
    obtain ⟨hslash, -, hletter⟩ := h (c, e) (by simp)
    refine Text.replaced_eq_self fun d hd => ?_
    rcases List.mem_cons.1 hd with rfl | hd
    · exact hslash.symm
    · rw [List.mem_singleton.1 hd]
      exact hletter.symm
  | none =>
    by_cases hc : c = row.1
    · subst hc
      rw [List.lookup_cons_self]
      simp [pass, Text.replaced]
    · have hlookup : [row].lookup c = none := by simp [hc]
      rw [hlookup]
      exact Text.replaced_eq_self fun d hd => by rwa [List.mem_singleton.1 hd]

/-- Passes that do not disturb one another escape each character by itself. -/
theorem foldl_pass {rows : List (Char × Char)} (h : rows.Pairwise Skips) (s : List Char) :
    rows.foldl pass s = s.flatMap (escapeBy rows) := by
  induction rows using List.reverseRecOn with
  | nil => exact (List.flatMap_singleton' s).symm
  | append_singleton rows row ih =>
    obtain ⟨hrows, -, hrow⟩ := List.pairwise_append.1 h
    have hskips : ∀ earlier ∈ rows, Skips earlier row := fun earlier he =>
      hrow earlier he row (List.mem_singleton.2 rfl)
    rw [List.foldl_append, ih hrows, List.foldl_cons, List.foldl_nil]
    unfold pass Text.replaced
    rw [List.flatMap_assoc]
    exact List.flatMap_congr fun c _ => pass_escapeBy hskips c

/-- Escaping a text comes to the same as replacing throughout, one pass after another, the backslash, the
double quote, the line break, the carriage return and the tab. -/
theorem escape_replaces_in_turn (s : String) :
    escape s = ((((s.replace '\\' "\\\\").replace '"' "\\\"").replace '\n' "\\n").replace '\r' "\\r").replace
      '\t' "\\t" := by
  have hpasses : letters.foldl pass s.toList = escapeChars s.toList := by
    rw [foldl_pass (by decide)]
    exact List.flatMap_congr fun c _ => (escapeChar_eq_escapeBy c).symm
  rw [← String.toList_inj, Text.toList_replace, Text.toList_replace, Text.toList_replace, Text.toList_replace,
    Text.toList_replace]
  unfold escape
  rw [String.toList_ofList, ← hpasses]
  simp only [letters, pass, List.foldl_cons, List.foldl_nil, String.reduceToList]

/-- A pass for the backslash at the end would escape what the one for the quote has put in. -/
example : [('"', '"'), ('\\', '\\')].foldl pass ['"'] ≠ escapeChars ['"'] := by decide

end Hcl

end CloudCanvas
