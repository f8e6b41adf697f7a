/-
What writing does to a tree of files. Folders are made only where there is no file, and the folders above a
path that leads somewhere are there already; a file is replaced as a whole. So whatever could be read before
reads the same afterwards, but for the paths that lead to the file that was written.
-/
import CloudCanvas.Command.Files
import CloudCanvas.Proofs.Command.FilePath
import CloudCanvas.Proofs.Fallible

namespace CloudCanvas.Command.FileTree

variable {tree after : FileTree} {location : Location}

/-! ## Folders -/

theorem isFolder_iff :
    tree.isFolder location = true ↔ (∀ name ∈ location, name = "..") ∨ location = ["/"] ∨
      (∃ folder ∈ tree.folders, location <+: folder) ∨
      ∃ file ∈ tree.files, location <+: file.1 ∧ location ≠ file.1 := by
  simp [isFolder, or_assoc]

theorem isFolder_of_isPrefix {above : Location} (h : tree.isFolder location = true) (hp : above <+: location) :
    tree.isFolder above = true := by
  rw [isFolder_iff] at h ⊢
  rcases h with h | rfl | ⟨folder, hm, hf⟩ | ⟨file, hm, hf, hne⟩
  · exact .inl fun name hn => h name (hp.subset hn)
  · rcases List.prefix_cons_iff.1 hp with rfl | ⟨rest, rfl, hr⟩
    · exact .inl fun name hn => by cases hn
    · exact .inr (.inl (by rw [List.prefix_nil.1 hr]))
  · exact .inr (.inr (.inl ⟨folder, hm, hp.trans hf⟩))
  · refine .inr (.inr (.inr ⟨file, hm, hp.trans hf, ?_⟩))
    rintro rfl
    exact hne (hf.eq_of_length_le hp.length_le)

theorem isFolder_nil (tree : FileTree) : tree.isFolder [] = true :=
  isFolder_iff.2 (.inl fun name hn => by cases hn)

/-- The locations above this one are folders. -/
def Grounded (tree : FileTree) (location : Location) : Prop :=
  ∀ above, above <+: location → above ≠ location → tree.isFolder above = true

theorem grounded_nil (tree : FileTree) : tree.Grounded [] :=
  fun _ hp hne => absurd (List.prefix_nil.1 hp) hne

theorem grounded_singleton (tree : FileTree) (name : String) : tree.Grounded [name] := by
  intro above hp hne
  rcases List.prefix_cons_iff.1 hp with rfl | ⟨rest, rfl, hr⟩
  · exact isFolder_nil tree
  · exact absurd (by rw [List.prefix_nil.1 hr]) hne

/-- A step from a folder leads below it or back to a location above it. -/
theorem Grounded.stepTo {folder : Location} (h : tree.isFolder folder = true) (name : String) :
    tree.Grounded (stepTo folder name) := by
  have hbelow : ∀ next, tree.Grounded (folder ++ [next]) := by
    intro next above hp hne
    rcases List.prefix_concat_iff.1 hp with rfl | hp
    · exact absurd rfl hne
    · exact isFolder_of_isPrefix h hp
  unfold FileTree.stepTo
  split
  · split
    · exact grounded_singleton tree ".."
    · rename_i last up hreverse
      have hfolder : folder = up.reverse ++ [last] := by
        rw [← List.reverse_reverse folder, hreverse, List.reverse_cons]
      split
      · exact hbelow ".."
      · split
        · exact fun above hp _ => isFolder_of_isPrefix h hp
        · intro above hp _
          refine isFolder_of_isPrefix h (hp.trans ?_)
          rw [hfolder]
          exact List.prefix_append _ _
  · exact hbelow name

/-! ## Paths -/

theorem enter_eq_ok_iff : tree.enter location = .ok () ↔ tree.isFolder location = true := by
  unfold enter
  split
  · rename_i hf
    exact iff_of_true rfl hf
  · rename_i hf
    split
    · exact iff_of_false (by simp) hf
    · exact iff_of_false (by simp) hf

theorem walk_cons_eq_ok_iff {start : Location} {name : String} {rest : List String} :
    tree.walk start (name :: rest) = .ok location ↔ tree.isFolder start = true ∧
      name.utf8ByteSize ≤ nameLimit ∧ tree.walk (stepTo start name) rest = .ok location := by
  constructor
  · intro h
    obtain ⟨_, he, h⟩ := bind_eq_ok h
    split at h
    · cases h
    · exact ⟨enter_eq_ok_iff.1 he, by omega, h⟩
  · rintro ⟨hf, hname, h⟩
    exact bind_eq_ok_iff.2 ⟨(), enter_eq_ok_iff.2 hf, by rw [if_neg (by omega), h]⟩

theorem Grounded.walk {names : List String} {start : Location} (h : tree.Grounded start)
    (hw : tree.walk start names = .ok location) : tree.Grounded location := by
  induction names generalizing start with
  | nil =>
    cases hw
    exact h
  | cons name rest ih =>
    obtain ⟨hf, -, hrest⟩ := walk_cons_eq_ok_iff.1 hw
    exact ih (.stepTo hf name) hrest

/-- Where the walk along a path begins, and the names along it. -/
def route (path : String) : Location × List String :=
  (if path.startsWith "/" then ["/"] else [], FilePath.steps path)

theorem locate_eq_ok_iff {path : String} :
    tree.locate path = .ok location ↔ checkPath path = .ok () ∧
      tree.walk (route path).1 (route path).2 = .ok location ∧
      (FilePath.endsIdle path = true → tree.isFolder location = true) := by
  have hlocate : tree.locate path = (do
      checkPath path
      let location ← tree.walk (route path).1 (route path).2
      if FilePath.endsIdle path then tree.enter location
      return location) := by
    unfold locate route
    rw [FilePath.names_eq]
    cases FilePath.endsIdle path
    all_goals
      by_cases hroot : path.startsWith "/" = true
      · rw [if_pos hroot, if_pos hroot]
        rfl
      · rw [if_neg hroot, if_neg hroot]
        dsimp only
        split
        · rename_i rest hsteps
          exact absurd rfl (FilePath.ne_slash_of_mem_steps (hsteps ▸ List.mem_cons_self))
        · rfl
  rw [hlocate]
  constructor
  · intro h
    obtain ⟨_, hc, h⟩ := bind_eq_ok h
    obtain ⟨found, hw, h⟩ := bind_eq_ok h
    cases hidle : FilePath.endsIdle path with
    | false =>
      rw [hidle] at h
      cases h
      exact ⟨hc, hw, fun h => by cases h⟩
    | true =>
      rw [hidle] at h
      obtain ⟨_, he, h⟩ := bind_eq_ok h
      cases h
      exact ⟨hc, hw, fun _ => enter_eq_ok_iff.1 he⟩
  · rintro ⟨hc, hw, hf⟩
    refine bind_eq_ok_iff.2 ⟨(), hc, bind_eq_ok_iff.2 ⟨location, hw, ?_⟩⟩
    cases hidle : FilePath.endsIdle path with
    | false => rfl
    | true => exact bind_eq_ok_iff.2 ⟨(), enter_eq_ok_iff.2 (hf hidle), rfl⟩

theorem grounded_of_locate {path : String} (h : tree.locate path = .ok location) : tree.Grounded location := by
  have hstart : tree.Grounded (route path).1 := by
    unfold route
    dsimp only
    split
    · exact grounded_singleton tree "/"
    · exact grounded_nil tree
  exact hstart.walk (locate_eq_ok_iff.1 h).2.1

section

variable (hfolders : ∀ {place}, tree.isFolder place = true → after.isFolder place = true)

include hfolders

theorem walk_of_folders {names : List String} {start : Location} (h : tree.walk start names = .ok location) :
    after.walk start names = .ok location := by
  induction names generalizing start with
  | nil => exact h
  | cons name rest ih =>
    obtain ⟨hf, hname, hrest⟩ := walk_cons_eq_ok_iff.1 h
    exact walk_cons_eq_ok_iff.2 ⟨hfolders hf, hname, ih hrest⟩

/-- A path that leads somewhere leads there still when there are more folders. -/
theorem locate_of_folders {path : String} (h : tree.locate path = .ok location) :
    after.locate path = .ok location := by
  obtain ⟨hcheck, hwalk, hidle⟩ := locate_eq_ok_iff.1 h
  exact locate_eq_ok_iff.2 ⟨hcheck, walk_of_folders hfolders hwalk, fun h => hfolders (hidle h)⟩

end

/-! ## The folder above a file -/

theorem checkPath_eq_ok_iff {path : String} : checkPath path = .ok () ↔
    Char.ofNat 0 ∉ path.toList ∧ path ≠ "" ∧ path.utf8ByteSize ≤ pathLimit := by
  unfold checkPath
  split
  · rename_i hnull
    exact iff_of_false (by simp) fun h => h.1 (by simpa using hnull)
  · rename_i hnull
    split
    · rename_i hempty
      exact iff_of_false (by simp) fun h => h.2.1 (by simpa using hempty)
    · rename_i hempty
      split
      · exact iff_of_false (by simp) (by omega)
      · exact iff_of_true rfl ⟨by simpa using hnull, by simpa using hempty, by omega⟩

theorem checkPath_of_isPrefix {path folder : String} (h : checkPath path = .ok ()) (hne : folder ≠ "")
    (hp : folder.toList <+: path.toList) : checkPath folder = .ok () := by
  obtain ⟨hnull, -, hsize⟩ := checkPath_eq_ok_iff.1 h
  obtain ⟨rest, hrest⟩ := hp
  obtain rfl : path = folder ++ String.ofList rest := by
    rw [← String.toList_inj, String.toList_append, String.toList_ofList, hrest]
  rw [String.utf8ByteSize_append] at hsize
  refine checkPath_eq_ok_iff.2 ⟨fun hm => hnull ?_, hne, by omega⟩
  rw [String.toList_append]
  exact List.mem_append_left _ hm

theorem route_of_above {path folder : String} {rest : List String} (hidle : FilePath.endsIdle path = false)
    (h : FilePath.above path = folder :: rest) :
    ∃ name, route path = ((route folder).1, (route folder).2 ++ [name]) := by
  obtain ⟨hne, hp, name, hsteps⟩ := FilePath.above_eq_cons hidle h
  have hroot : path.startsWith "/" = folder.startsWith "/" := by
    rw [Bool.eq_iff_iff, String.startsWith_string_iff, String.startsWith_string_iff]
    refine ⟨fun hr => ?_, fun hr => hr.trans hp⟩
    refine List.prefix_of_prefix_length_le hr hp ?_
    exact List.length_pos_iff.2 (by simpa using hne)
  exact ⟨name, by rw [route, route, hroot, hsteps]⟩

theorem walk_concat {names : List String} {name : String} {start : Location}
    (h : tree.walk start (names ++ [name]) = .ok location) :
    ∃ folder, tree.walk start names = .ok folder ∧ tree.isFolder folder = true := by
  -- the last step can only be taken from a folder, and the walk without it ends there
  induction names generalizing start with
  | nil => exact ⟨start, rfl, (walk_cons_eq_ok_iff.1 h).1⟩
  | cons first rest ih =>
    obtain ⟨hf, hname, hrest⟩ := walk_cons_eq_ok_iff.1 h
    obtain ⟨folder, hw, hfolder⟩ := ih hrest
    exact ⟨folder, walk_cons_eq_ok_iff.2 ⟨hf, hname, hw⟩, hfolder⟩

theorem leadsToFolder_iff {path : String} : tree.leadsToFolder path = true ↔
    ∃ location, tree.locate path = .ok location ∧ tree.isFolder location = true := by
  unfold leadsToFolder
  cases tree.locate path <;> simp

/-- A path that leads to a file or to a free place in a folder ends with a name. -/
theorem endsIdle_of_locate {path : String} (hl : tree.locate path = .ok location)
    (hf : tree.isFolder location = false) : FilePath.endsIdle path = false := by
  rw [Bool.eq_false_iff]
  intro hidle
  rw [(locate_eq_ok_iff.1 hl).2.2 hidle] at hf
  cases hf

theorem leadsToFolder_of_above {path folder : String} {rest : List String}
    (hl : tree.locate path = .ok location) (hf : tree.isFolder location = false)
    (h : FilePath.above path = folder :: rest) : tree.leadsToFolder folder = true := by
  obtain ⟨hcheck, hwalk, -⟩ := locate_eq_ok_iff.1 hl
  have hidle := endsIdle_of_locate hl hf
  obtain ⟨hne, hp, -⟩ := FilePath.above_eq_cons hidle h
  obtain ⟨name, hroute⟩ := route_of_above hidle h
  rw [hroute] at hwalk
  obtain ⟨place, hplace, hfolder⟩ := walk_concat hwalk
  exact leadsToFolder_iff.2
    ⟨place, locate_eq_ok_iff.2 ⟨checkPath_of_isPrefix hcheck hne hp, hplace, fun _ => hfolder⟩, hfolder⟩

/-! ## Reading -/

theorem read_eq_ok_iff {path text : String} :
    tree.read path = .ok text ↔ ∃ location, tree.locate path = .ok location ∧
      tree.isFolder location = false ∧ tree.file? location = some text := by
  constructor
  · intro h
    obtain ⟨location, hl, h⟩ := bind_eq_ok h
    split at h
    · cases h
    · rename_i hf
      split at h
      · rename_i hfile
        cases h
        exact ⟨location, hl, Bool.eq_false_iff.2 hf, hfile⟩
      · cases h
  · rintro ⟨location, hl, hf, hfile⟩
    refine bind_eq_ok_iff.2 ⟨location, hl, ?_⟩
    rw [if_neg (Bool.eq_false_iff.1 hf), hfile]

/-! ## Making folders -/

/-- Folders have been made where there was no file, and nothing else has happened. -/
structure Grows (tree after : FileTree) : Prop where
  files : after.files = tree.files
  folders : ∀ {location}, tree.isFolder location = true → after.isFolder location = true
  apart : ∀ {location}, after.isFolder location = true →
    tree.isFolder location = true ∨ tree.file? location = none

namespace Grows

theorem refl (tree : FileTree) : Grows tree tree :=
  ⟨rfl, id, .inl⟩

theorem file? (h : Grows tree after) (location : Location) : after.file? location = tree.file? location := by
  unfold FileTree.file?
  rw [h.files]

theorem trans {last : FileTree} (h : Grows tree after) (h' : Grows after last) : Grows tree last where
  files := h'.files.trans h.files
  folders hf := h'.folders (h.folders hf)
  apart {location} hf := by
    rcases h'.apart hf with hf | hnone
    · exact h.apart hf
    · rw [h.file?] at hnone
      exact .inr hnone

theorem locate (h : Grows tree after) {path : String} (hl : tree.locate path = .ok location) :
    after.locate path = .ok location :=
  locate_of_folders h.folders hl

theorem read (h : Grows tree after) {path text : String} (hr : tree.read path = .ok text) :
    after.read path = .ok text := by
  obtain ⟨location, hl, hf, hfile⟩ := read_eq_ok_iff.1 hr
  refine read_eq_ok_iff.2
    ⟨location, h.locate hl, Bool.eq_false_iff.2 fun hfolder => ?_, by rw [h.file?, hfile]⟩
  -- no folder has been made in the place of the file
  rcases h.apart hfolder with hf' | hnone
  · rw [hf] at hf'
    cases hf'
  · rw [hfile] at hnone
    cases hnone

end Grows

theorem grows_of_makeFolder {path : String} (h : tree.makeFolder path = .ok after) : Grows tree after := by
  obtain ⟨location, hl, h⟩ := bind_eq_ok h
  split at h
  · cases h
  · rename_i hfree
    cases h
    rw [Bool.not_eq_true, Bool.or_eq_false_iff, Option.isSome_eq_false_iff, Option.isNone_iff_eq_none] at hfree
    refine ⟨rfl, fun hf => ?_, fun {place} hf => ?_⟩
    · rw [isFolder_iff] at hf ⊢
      exact hf.imp_right (.imp_right (.imp_left fun ⟨folder, hm, hp⟩ => ⟨folder, .tail _ hm, hp⟩))
    · by_cases hplace : place = location
      · exact .inr (hplace ▸ hfree.2)
      -- the other new folders would lie above the one that has been made
      · left
        rw [isFolder_iff] at hf
        rcases hf with hf | hf | ⟨folder, hm, hp⟩ | hf
        · exact isFolder_iff.2 (.inl hf)
        · exact isFolder_iff.2 (.inr (.inl hf))
        · rcases List.mem_cons.1 hm with rfl | hm
          · exact grounded_of_locate hl place hp hplace
          · exact isFolder_iff.2 (.inr (.inr (.inl ⟨folder, hm, hp⟩)))
        · exact isFolder_iff.2 (.inr (.inr (.inr hf)))

theorem grows_of_ensureFolder {path : String} (h : tree.ensureFolder path = .ok after) : Grows tree after := by
  unfold ensureFolder at h
  split at h
  · rename_i made hmade
    cases h
    exact grows_of_makeFolder hmade
  · split at h
    · cases h
      exact .refl tree
    · cases h

/-- Also a chain that cannot be made to its end leaves only folders behind. -/
theorem grows_makeChain (tree : FileTree) (paths : List String) : Grows tree (tree.makeChain paths).2 := by
  -- the folders above are made in the tree at hand, and the folder itself in the tree that they leave
  induction paths generalizing tree with
  | nil => exact .refl tree
  | cons path above ih =>
    unfold makeChain
    split
    · rename_i made hmade
      exact grows_of_ensureFolder hmade
    · split
      · rename_i made hmade
        exact hmade ▸ ih tree
      · rename_i made hmade
        have hmade' : Grows tree made := by simpa [hmade] using ih tree
        split
        · rename_i last hlast
          exact hmade'.trans (grows_of_ensureFolder hlast)
        · exact hmade'
    · exact .refl tree

theorem grows_makeFolders (tree : FileTree) (path : String) : Grows tree (tree.makeFolders path).2 :=
  grows_makeChain tree _

theorem makeFolders_of_leadsToFolder {path : String} (h : tree.leadsToFolder path = true) :
    tree.makeFolders path = (.ok (), tree) := by
  obtain ⟨location, hl, hf⟩ := leadsToFolder_iff.1 h
  have hmake : tree.makeFolder path = .error .alreadyThere := by
    unfold makeFolder
    rw [hl]
    show (if (tree.isFolder location || (tree.file? location).isSome) = true then _ else _) = _
    rw [hf]
    rfl
  have hensure : tree.ensureFolder path = .ok tree := by
    unfold ensureFolder
    rw [hmake, h]
    rfl
  unfold makeFolders makeChain
  rw [hensure]

/-! ## Writing a file -/

theorem file?_put_self (tree : FileTree) (location : Location) (text : String) :
    (tree.put location text).file? location = some text := by
  simp [file?, put]

theorem file?_put_of_ne {other : Location} (h : other ≠ location) (text : String) :
    (tree.put location text).file? other = tree.file? other := by
  have hfilter : ∀ files : List (Location × String),
      (files.filter fun file => file.1 != location).lookup other = files.lookup other := by
    intro files
    induction files with
    | nil => rfl
    | cons file files ih =>
      by_cases hfile : file.1 = location
      · have hne : (other == file.1) = false := beq_false_of_ne (hfile ▸ h)
        rw [List.filter_cons_of_neg (by simpa using hfile), ih, List.lookup_cons, hne]
      · rw [List.filter_cons_of_pos (by simpa using hfile), List.lookup_cons, List.lookup_cons, ih]
  unfold file? put
  rw [List.lookup_cons, beq_false_of_ne h]
  exact hfilter tree.files

theorem isFolder_put (h : tree.Grounded location) (text : String) (place : Location) :
    (tree.put location text).isFolder place = tree.isFolder place := by
  rw [Bool.eq_iff_iff]
  constructor
  · intro hf
    rw [isFolder_iff] at hf
    rcases hf with hf | hf | hf | ⟨file, hm, hp, hne⟩
    · exact isFolder_iff.2 (.inl hf)
    · exact isFolder_iff.2 (.inr (.inl hf))
    · exact isFolder_iff.2 (.inr (.inr (.inl hf)))
    · rcases List.mem_cons.1 hm with rfl | hm
      -- the folders above the new file were there before
      · exact h place hp hne
      · exact isFolder_iff.2 (.inr (.inr (.inr ⟨file, (List.mem_filter.1 hm).1, hp, hne⟩)))
  · intro hf
    rw [isFolder_iff] at hf ⊢
    refine hf.imp_right (.imp_right (.imp_right ?_))
    rintro ⟨file, hm, hp, hne⟩
    by_cases hfile : file.1 = location
    · exact ⟨(location, text), .head _, hfile ▸ hp, hfile ▸ hne⟩
    · exact ⟨file, .tail _ (List.mem_filter.2 ⟨hm, by simpa using hfile⟩), hp, hne⟩

theorem write_eq_ok_iff {path text : String} :
    tree.write path text = .ok after ↔ ∃ location, tree.locate path = .ok location ∧
      tree.isFolder location = false ∧ tree.put location text = after := by
  constructor
  · intro h
    obtain ⟨_, -, h⟩ := bind_eq_ok h
    split at h
    · cases h
    · obtain ⟨location, hl, h⟩ := bind_eq_ok h
      split at h
      · cases h
      · rename_i hf
        cases h
        exact ⟨location, hl, Bool.eq_false_iff.2 hf, rfl⟩
  · rintro ⟨location, hl, hf, rfl⟩
    have hname : ¬ FilePath.endsWithSlash path = true := by
      intro hslash
      have hidle := FilePath.endsIdle_of_endsWithSlash hslash
      rw [endsIdle_of_locate hl hf] at hidle
      cases hidle
    refine bind_eq_ok_iff.2 ⟨(), (locate_eq_ok_iff.1 hl).1, ?_⟩
    rw [if_neg hname]
    exact bind_eq_ok_iff.2 ⟨location, hl, if_neg (Bool.eq_false_iff.1 hf)⟩

/-- A text has been written to a file, whose folders may have been made before. -/
structure Wrote (tree after : FileTree) (path text : String) : Prop where
  /-- The path leads to a file with just this text, and no other file has changed. -/
  place : ∃ location, after.locate path = .ok location ∧ after.file? location = some text ∧
    ∀ other, other ≠ location → after.file? other = tree.file? other
  reads : after.read path = .ok text
  /-- What could be read by a path that leads elsewhere reads the same. -/
  keeps : ∀ other content, tree.read other = .ok content →
    after.read other = .ok content ∨ after.locate other = after.locate path

theorem wrote_of_write {grown : FileTree} {path text : String} (hg : Grows tree grown)
    (h : grown.write path text = .ok after) : Wrote tree after path text := by
  obtain ⟨location, hl, hf, rfl⟩ := write_eq_ok_iff.1 h
  -- writing makes no folder, and so every path leads where it led
  have hfolder := isFolder_put (grounded_of_locate hl) text
  have hlocate : ∀ {other place}, grown.locate other = .ok place →
      (grown.put location text).locate other = .ok place :=
    locate_of_folders fun hp => (hfolder _).trans hp
  refine ⟨⟨location, hlocate hl, file?_put_self grown location text, fun other hne => ?_⟩, ?_, ?_⟩
  · rw [file?_put_of_ne hne, hg.file?]
  · exact read_eq_ok_iff.2
      ⟨location, hlocate hl, (hfolder location).trans hf, file?_put_self grown location text⟩
  · intro other content hread
    obtain ⟨place, hplace, hfile, hcontent⟩ := read_eq_ok_iff.1 (hg.read hread)
    by_cases hne : place = location
    · right
      rw [hlocate hplace, hlocate hl, hne]
    · left
      exact read_eq_ok_iff.2
        ⟨place, hlocate hplace, (hfolder place).trans hfile, by rw [file?_put_of_ne hne, hcontent]⟩

end CloudCanvas.Command.FileTree
