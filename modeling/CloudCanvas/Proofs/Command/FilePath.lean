/-
Paths taken apart at their slashes. The path of the folder above is how the path begins, and it goes through
the same names but the last.
-/
import CloudCanvas.Command.FilePath

namespace CloudCanvas.Command.FilePath

variable {path folder piece : String}

/-! ## Pieces -/

theorem pieces_ne_nil (path : String) : pieces path ≠ [] := by
  simp [pieces]

theorem slash_notMem_of_mem_pieces (h : piece ∈ pieces path) : '/' ∉ piece.toList := by
  have hsplit : ∀ cs : List Char, ∀ part ∈ cs.splitOn '/', '/' ∉ part := by
    intro cs
    induction cs with
    | nil => simp
    | cons c cs ih =>
      rw [List.splitOn_cons_eq_if_modifyHead]
      split
      · simpa using ih
      · rename_i hc
        cases hs : cs.splitOn '/' with
        | nil => simp
        | cons head rest =>
          rw [hs] at ih
          have hne : '/' ≠ c := fun h => hc (beq_iff_eq.2 h.symm)
          simpa [hne] using ih
  obtain ⟨part, hpart, rfl⟩ := List.mem_map.1 h
  simpa using hsplit _ part hpart

theorem pieces_intercalate {parts : List String} (hne : parts ≠ [])
    (h : ∀ part ∈ parts, '/' ∉ part.toList) : pieces ("/".intercalate parts) = parts := by
  have hslash : ∀ part ∈ parts.map String.toList, '/' ∉ part := by
    simpa using h
  unfold pieces
  rw [String.toList_intercalate, show "/".toList = ['/'] from rfl,
    List.splitOn_intercalate '/' hslash (by simpa using hne), List.map_map]
  simp [Function.comp_def]

theorem intercalate_pieces (path : String) : "/".intercalate (pieces path) = path := by
  rw [← String.toList_inj, String.toList_intercalate, show "/".toList = ['/'] from rfl]
  simp [pieces, Function.comp_def]

/-- The names along a path, without the root. -/
def steps (path : String) : List String :=
  (pieces path).filter fun piece => !isIdle piece

theorem names_eq (path : String) :
    names path = if path.startsWith "/" then "/" :: steps path else steps path :=
  rfl

theorem ne_slash_of_mem_steps (h : piece ∈ steps path) : piece ≠ "/" := by
  rintro rfl
  exact slash_notMem_of_mem_pieces (List.mem_filter.1 h).1 (by decide)

theorem endsIdle_of_endsWithSlash (h : endsWithSlash path = true) : endsIdle path = true := by
  obtain ⟨cs, hcs⟩ : "/".toList <:+ path.toList := by
    simpa using String.Slice.endsWith_string_iff.1 h
  -- behind the last slash there is an empty piece
  have hpieces : pieces path = (cs.splitOn '/').map String.ofList ++ [""] := by
    unfold pieces
    rw [← hcs, show "/".toList = ['/'] from rfl, List.splitOn_append_cons_self, List.map_append]
    rfl
  unfold endsIdle
  rw [hpieces, List.getLast?_append]
  rfl

/-! ## The folder above -/

theorem intercalate_ne_empty (h : piece ≠ "") (front : List String) :
    "/".intercalate (front ++ [piece]) ≠ "" := by
  cases front with
  | nil => simpa using h
  | cons first rest =>
    rw [String.intercalate_append_of_ne_nil (by simp) (by simp)]
    simp

/-- The longest path of a chain leaves out idle pieces at the end. -/
theorem chain_eq_cons {reversed rest : List String} (h : chain reversed = folder :: rest) :
    ∃ idle up, reversed = idle ++ up ∧ (∀ piece ∈ idle, isIdle piece = true) ∧ up ≠ [] ∧
      folder = ofReversed up ∧ folder ≠ "" := by
  induction reversed using chain.induct with
  | case1 => cases h
  | case2 piece =>
    cases h
    refine ⟨[], [piece], rfl, by simp, by simp, rfl, ?_⟩
    by_cases hp : piece = ""
    · simp [ofReversed, hp]
    · simp [ofReversed, hp]
  | case3 piece up hne hidle ih =>
    rw [chain.eq_3 _ _ hne, if_pos hidle] at h
    obtain ⟨idle, top, rfl, hall, htop, hfolder, hempty⟩ := ih h
    exact ⟨piece :: idle, top, rfl, by simpa [hidle] using hall, htop, hfolder, hempty⟩
  | case4 piece up hne hidle ih =>
    rw [chain.eq_3 _ _ hne, if_neg hidle] at h
    cases h
    have hpiece : piece ≠ "" := by
      rintro rfl
      exact hidle rfl
    refine ⟨[], piece :: up, rfl, by simp, by simp, rfl, ?_⟩
    rw [ofReversed, if_neg (by simp [hpiece]), List.reverse_cons]
    exact intercalate_ne_empty hpiece up.reverse

/-- The pieces of a path that ends with a name: those of the folder above, idle ones, and the name. -/
theorem pieces_of_above {rest : List String} (hidle : endsIdle path = false) (h : above path = folder :: rest) :
    ∃ front between name, pieces path = front ++ (between ++ [name]) ∧
      (∀ piece ∈ between, isIdle piece = true) ∧ isIdle name = false ∧ front ≠ [] ∧
      folder = ofReversed front.reverse ∧ folder ≠ "" := by
  obtain ⟨up, name, hpieces⟩ : ∃ up name, pieces path = up ++ [name] :=
    ⟨_, _, (List.dropLast_concat_getLast (pieces_ne_nil path)).symm⟩
  have hname : isIdle name = false := by
    unfold endsIdle at hidle
    rw [hpieces, List.getLast?_append] at hidle
    exact hidle
  have hchain : chain up.reverse = folder :: rest := by
    unfold above at h
    rw [hpieces, List.reverse_append, List.reverse_singleton, List.singleton_append] at h
    cases hup : up.reverse with
    | nil =>
      rw [hup] at h
      cases h
    | cons piece top =>
      rw [hup, chain.eq_3 _ _ (by simp), if_neg (by simp [hname])] at h
      exact h
  obtain ⟨idle, top, hup, hall, htop, hfolder, hempty⟩ := chain_eq_cons hchain
  refine ⟨top.reverse, idle.reverse, name, ?_, by simpa using hall, hname, by simpa using htop, ?_, hempty⟩
  · rw [hpieces, ← List.reverse_reverse up, hup, List.reverse_append, List.append_assoc]
  · rw [List.reverse_reverse, hfolder]

/-- A path that ends with a name goes on from that of the folder above, by this name. -/
theorem above_eq_cons {rest : List String} (hidle : endsIdle path = false) (h : above path = folder :: rest) :
    folder ≠ "" ∧ folder.toList <+: path.toList ∧ ∃ name, steps path = steps folder ++ [name] := by
  obtain ⟨front, between, name, hpieces, hbetween, hname, hfront, hfolder, hempty⟩ := pieces_of_above hidle h
  have hpath : path = "/".intercalate front ++ "/" ++ "/".intercalate (between ++ [name]) := by
    rw [← String.intercalate_append_of_ne_nil hfront (by simp), ← hpieces, intercalate_pieces]
  have hsteps : steps path = (front.filter fun piece => !isIdle piece) ++ [name] := by
    have hnone : (between.filter fun piece => !isIdle piece) = [] := by
      simpa using hbetween
    rw [steps, hpieces, List.filter_append, List.filter_append, hnone, List.nil_append]
    simp [hname]
  -- the root is written as a slash, which is no piece
  by_cases hroot : front = [""]
  · subst hroot
    have hslash : folder = "/" := hfolder
    refine ⟨hempty, ?_, name, ?_⟩
    · rw [hpath, hslash]
      simp [String.toList_append]
    · rw [hsteps, hslash, show steps "/" = [] by decide]
      rfl
  · have hwritten : folder = "/".intercalate front := by
      rw [hfolder, ofReversed, if_neg (by simpa [List.reverse_eq_iff] using hroot), List.reverse_reverse]
    have hslash : ∀ piece ∈ front, '/' ∉ piece.toList := fun piece hp =>
      slash_notMem_of_mem_pieces (hpieces ▸ List.mem_append_left _ hp)
    refine ⟨hempty, ?_, name, ?_⟩
    · rw [hpath, hwritten, String.toList_append, String.toList_append, List.append_assoc]
      exact List.prefix_append _ _
    · rw [hsteps, steps, hwritten, pieces_intercalate hfront hslash]

end CloudCanvas.Command.FilePath
