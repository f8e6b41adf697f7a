/-
What a generation comes to over a tree of files, when its configuration and its input can be read: the
text and the exit code are those of the run, and files change by what writing the text does.
-/
import CloudCanvas.Command.Execution
import CloudCanvas.Proofs.Text.Blank

namespace CloudCanvas

/-! ## Blank texts -/

/-- No value begins with white space. -/
theorem Json.start_of_isWhite {c : Char} (h : Text.isWhite c = true) (stack : List Frame) (r : List Char) :
    Reader.start stack c r = .error .malformed := by
  have hne : ∀ d, Text.isWhite d = false → c ≠ d := fun d hd => Text.ne_of_isWhite h hd
  have hscalar : readScalar c r = .error .malformed := by
    unfold readScalar
    rw [if_neg (hne '"' (by decide)), if_neg (hne '-' (by decide)), Text.not_isDigit_of_isWhite h,
      if_neg Bool.false_ne_true, if_neg (hne 'n' (by decide)), if_neg (hne 't' (by decide)),
      if_neg (hne 'f' (by decide))]
  unfold Reader.start
  rw [if_neg (by simp [hne '[' (by decide), hne '\x7b' (by decide)]), hscalar]
  rfl

theorem Json.run_of_blank {s : List Char} (h : s.all Text.isWhite = true) :
    ∃ defect, Reader.run ⟨.value, []⟩ s = .error defect := by
  induction s with
  | nil => exact ⟨.unfinished, by unfold Reader.run; rfl⟩
  | cons c r ih =>
    rw [List.all_cons, Bool.and_eq_true] at h
    unfold Reader.run
    by_cases hspace : isSpace c = true
    · rw [if_pos hspace]
      exact ih h.2
    · -- white space that may not stand between parts
      have hstep : Reader.step ⟨.value, []⟩ c r = .error .malformed := start_of_isWhite h.1 [] r
      rw [if_neg hspace, hstep]
      exact ⟨.malformed, rfl⟩

/-- A text that holds a document is not blank. -/
theorem Json.isBlank_of_parse {text : String} {document : Json} (h : Json.parse text = .ok document) :
    Text.isBlank text = false := by
  rw [Bool.eq_false_iff]
  intro hblank
  obtain ⟨defect, hdefect⟩ := run_of_blank hblank
  unfold parse at h
  rw [hdefect] at h
  cases h

theorem Graph.Snapshot.parse_of_load {text : String} {document : Json} {snapshot : Snapshot}
    (hparse : Json.parse text = .ok document) (hload : load document = .ok snapshot) :
    parse text = .ok snapshot := by
  unfold parse
  rw [hparse]
  dsimp only
  rw [hload]
  rfl

theorem Graph.Snapshot.exists_load_of_parse {text : String} {snapshot : Snapshot}
    (h : parse text = .ok snapshot) :
    ∃ document, Json.parse text = .ok document ∧ load document = .ok snapshot := by
  unfold parse at h
  split at h
  · cases h
  · rename_i document hdocument
    refine ⟨document, hdocument, ?_⟩
    cases hl : load document with
    | error defect =>
      rw [hl] at h
      cases h
    | ok loaded =>
      rw [hl] at h
      cases h
      rfl

namespace Command

/-! ## Steps over a tree of files -/

section

variable {α β : Type} {tree after : FileTree}

/-- Carries an action out over a tree of files. -/
def runOn (tree : FileTree) (x : ExceptT Failure (StateM FileTree) α) : Except Failure α × FileTree :=
  x.run.run tree

theorem runOn_bind_of_ok {x : ExceptT Failure (StateM FileTree) α} {a : α}
    (h : runOn tree x = (.ok a, after)) (f : α → ExceptT Failure (StateM FileTree) β) :
    runOn tree (x >>= f) = runOn after (f a) := by
  unfold runOn at h ⊢
  rw [ExceptT.run_bind, StateT.run_bind, h]
  rfl

theorem runOn_bind_of_error {x : ExceptT Failure (StateM FileTree) α} {failure : Failure}
    (h : runOn tree x = (.error failure, after)) (f : α → ExceptT Failure (StateM FileTree) β) :
    runOn tree (x >>= f) = (.error failure, after) := by
  unfold runOn at h ⊢
  rw [ExceptT.run_bind, StateT.run_bind, h]
  rfl

/-- A step that only makes something of what another one gives. -/
theorem runOn_bind_pure (x : ExceptT Failure (StateM FileTree) α) (f : α → β) :
    runOn tree (x >>= fun a => pure (f a)) = ((runOn tree x).1.map f, (runOn tree x).2) := by
  unfold runOn
  rw [ExceptT.run_bind, StateT.run_bind]
  generalize x.run.run tree = result
  obtain ⟨found, after⟩ := result
  cases found <;> rfl

/-- An action on the tree that cannot fail. -/
theorem runOn_lift (act : StateM FileTree α) :
    runOn tree (liftM act : ExceptT Failure (StateM FileTree) α) = (.ok (act.run tree).1, (act.run tree).2) :=
  rfl

end

variable {stdin : ByteArray} {tree : FileTree}

/-! ## Reading -/

/-- The text of an input: that of standard input or that of a file. -/
def inputText (stdin : ByteArray) (tree : FileTree) (input : String) : Except FileFailure String :=
  if input = standardInput then textOf stdin else tree.read input

/-- The configuration that a path stands for, or the default one when there is no path. -/
def Configures (tree : FileTree) (path? : Option String) (config : Config) : Prop :=
  match path? with
  | none => config = Config.default
  | some path => ∃ text, tree.read path = .ok text ∧ Config.parse text = .ok config

theorem runOn_named_of_ok {α : Type} {operation path : String} {act : StateM FileTree (Except FileFailure α)}
    {a : α} (h : act.run tree = (.ok a, tree)) : runOn tree (named operation path act) = (.ok a, tree) := by
  unfold named
  have hlift : runOn tree (liftM act : ExceptT Failure (StateM FileTree) _) = (.ok (.ok a), tree) := by
    rw [runOn_lift, h]
  rw [runOn_bind_of_ok hlift]
  rfl

/-- An input that can be read and is not blank is taken as it is. -/
theorem runOn_readInput {input text : String} (h : inputText stdin tree input = .ok text)
    (hb : Text.isBlank text = false) :
    runOn tree (readInput (FileTree.access stdin) input) = (.ok text, tree) := by
  unfold readInput
  have hread : (if input == standardInput then (FileTree.access stdin).readInput
      else (FileTree.access stdin).read input).run tree = (.ok text, tree) := by
    unfold inputText at h
    by_cases hi : input = standardInput
    · rw [if_pos hi] at h
      rw [if_pos (beq_iff_eq.2 hi), ← h]
      rfl
    · rw [if_neg hi] at h
      rw [if_neg (mt beq_iff_eq.1 hi), ← h]
      rfl
  dsimp only
  rw [runOn_bind_of_ok (runOn_named_of_ok hread), hb]
  rfl

/-- What can be read is there. -/
theorem isThere_of_read {path text : String} (h : tree.read path = .ok text) : tree.isThere path = true := by
  unfold FileTree.read at h
  unfold FileTree.isThere
  cases hl : tree.locate path with
  | error cause =>
    rw [hl] at h
    cases h
  | ok location =>
    rw [hl] at h
    change (if tree.isFolder location = true then _ else _) = _ at h
    dsimp only
    split at h
    · cases h
    · split at h
      · rename_i hfile
        rw [hfile, Option.isSome_some, Bool.or_true]
      · cases h

theorem runOn_loadConfig {path text : String} {config : Config} (h : tree.read path = .ok text)
    (hc : Config.parse text = .ok config) :
    runOn tree (loadConfig (FileTree.access stdin) path) = (.ok config, tree) := by
  have hthere : runOn tree (liftM ((FileTree.access stdin).isThere path) : ExceptT Failure (StateM FileTree) _) =
      (.ok true, tree) := by
    rw [runOn_lift, ← isThere_of_read h]
    rfl
  have hread : runOn tree (liftM ((FileTree.access stdin).read path) : ExceptT Failure (StateM FileTree) _) =
      (.ok (.ok text), tree) := by
    rw [runOn_lift, ← h]
    rfl
  unfold loadConfig
  rw [runOn_bind_of_ok hthere, if_pos rfl, runOn_bind_of_ok hread]
  dsimp only
  rw [hc]
  rfl

/-- A configuration that is loaded is that of the text of a file. -/
theorem exists_text_of_loadConfig {path : String} {config : Config}
    (h : (runOn tree (loadConfig (FileTree.access stdin) path)).1 = .ok config) :
    ∃ text, tree.read path = .ok text ∧ Config.parse text = .ok config := by
  have hthere : runOn tree (liftM ((FileTree.access stdin).isThere path) : ExceptT Failure (StateM FileTree) _) =
      (.ok (tree.isThere path), tree) :=
    runOn_lift _
  have hread : runOn tree (liftM ((FileTree.access stdin).read path) : ExceptT Failure (StateM FileTree) _) =
      (.ok (tree.read path), tree) :=
    runOn_lift _
  unfold loadConfig at h
  rw [runOn_bind_of_ok hthere] at h
  split at h
  · rw [runOn_bind_of_ok hread] at h
    split at h
    · cases h
    · rename_i text htext
      refine ⟨text, htext, ?_⟩
      split at h
      · rename_i found hfound
        rw [hfound]
        cases h
        rfl
      · cases h
  · cases h

/-- The ordering on the command line comes before that of the configuration. -/
theorem runOn_effectiveConfig {options : GenerateOptions} {loaded : Config}
    (h : Configures tree options.config loaded) :
    runOn tree (effectiveConfig (FileTree.access stdin) options) =
      (.ok (loaded.withOrdering (options.ordering.getD loaded.ordering)), tree) := by
  unfold Configures at h
  unfold effectiveConfig
  cases hp : options.config with
  | none =>
    rw [hp] at h
    rw [h]
    cases options.ordering <;> rfl
  | some path =>
    rw [hp] at h
    obtain ⟨text, hread, hparse⟩ := h
    refine (runOn_bind_of_ok (runOn_loadConfig hread hparse) _).trans ?_
    cases options.ordering <;> rfl

/-! ## Generating -/

/-- A generation whose configuration and input can be read ends with the text and the exit code of its
run; with an output file it does so when the file can be written, and the text goes there. -/
theorem runOn_generate (options : GenerateOptions) {text : String} {snapshot : Graph.Snapshot}
    {loaded : Config} (hinput : inputText stdin tree options.input = .ok text)
    (hblank : Text.isBlank text = false) (hparse : Graph.Snapshot.parse text = .ok snapshot)
    (hconfig : Configures tree options.config loaded) :
    runOn tree (execute (FileTree.access stdin) (.generate options)) =
      (let output := (loaded.withOrdering (options.ordering.getD loaded.ordering)).generate snapshot
      let content := rendered options.format output
      let exitCode := generateExit options.strict output
      match options.output with
      | none => (.ok ⟨some content, exitCode⟩, tree)
      | some path =>
        let written := runOn tree (writeOutput (FileTree.access stdin) path content)
        (written.1.map fun _ => ⟨none, exitCode⟩, written.2)) := by
  have hsnapshot : runOn tree (ExceptT.mk (pure (Graph.Snapshot.parse text)) :
      ExceptT Failure (StateM FileTree) _) = (.ok snapshot, tree) := by
    rw [hparse]
    rfl
  show runOn tree (generate (FileTree.access stdin) options) = _
  unfold generate
  rw [runOn_bind_of_ok (runOn_effectiveConfig hconfig), runOn_bind_of_ok (runOn_readInput hinput hblank),
    runOn_bind_of_ok hsnapshot]
  dsimp only
  cases options.output with
  | none => rfl
  | some path => exact runOn_bind_pure _ _

end Command

end CloudCanvas
