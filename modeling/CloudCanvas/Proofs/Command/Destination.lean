/-
Where the text of a generation goes. Up to the text a generation only reads, and it does not know where the
text will go; so with an output file it fails as it does without one, or it writes the very text that would
have been printed.
-/
import CloudCanvas.Proofs.Command.Execution
import CloudCanvas.Proofs.Command.FileTree

namespace CloudCanvas.Command

/-! ## The text and where it goes -/

section

variable {m : Type → Type} [Monad m] (files : Files m)

/-- The text of a generation and its exit code. -/
def draft (options : GenerateOptions) : ExceptT Failure m (String × Nat) := do
  let config ← effectiveConfig files options
  let text ← readInput files options.input
  let snapshot ← ExceptT.mk (pure (Graph.Snapshot.parse text))
  let output := config.generate snapshot
  return (rendered options.format output, generateExit options.strict output)

/-- Brings a text to a file, or to standard output. -/
def deliver (output : Option String) (text : String) (exitCode : Nat) : ExceptT Failure m Result := do
  match output with
  | some path =>
    writeOutput files path text
    return ⟨none, exitCode⟩
  | none => return ⟨some text, exitCode⟩

theorem generate_eq_draft [LawfulMonad m] (options : GenerateOptions) (output : Option String) :
    generate files { options with output } =
      draft files options >>= fun found => deliver files output found.1 found.2 := by
  simp only [draft, bind_assoc, pure_bind]
  rfl

end

variable {α β : Type} {stdin : ByteArray} {tree after : FileTree}

/-! ## Reading -/

/-- An action that leaves the files as they are, whether it fails or not. -/
def ReadsOnly (x : ExceptT Failure (StateM FileTree) α) : Prop :=
  ∀ tree, (runOn tree x).2 = tree

namespace ReadsOnly

theorem pure (a : α) : ReadsOnly (pure a) :=
  fun _ => rfl

theorem throw (failure : Failure) : ReadsOnly (throw failure : ExceptT Failure (StateM FileTree) α) :=
  fun _ => rfl

theorem mk (result : Except Failure α) : ReadsOnly (ExceptT.mk (Pure.pure result)) :=
  fun _ => rfl

theorem lift {act : StateM FileTree α} (h : ∀ tree, (act.run tree).2 = tree) :
    ReadsOnly (liftM act : ExceptT Failure (StateM FileTree) α) := by
  intro tree
  rw [runOn_lift, h tree]

theorem bind {x : ExceptT Failure (StateM FileTree) α} {f : α → ExceptT Failure (StateM FileTree) β}
    (hx : ReadsOnly x) (hf : ∀ a, ReadsOnly (f a)) : ReadsOnly (x >>= f) := by
  intro tree
  have hread := hx tree
  cases hrun : runOn tree x with
  | mk found after =>
    rw [hrun] at hread
    obtain rfl : tree = after := hread.symm
    cases found with
    | error failure => rw [runOn_bind_of_error hrun]
    | ok a =>
      rw [runOn_bind_of_ok hrun]
      exact hf a tree

theorem named {operation path : String} {act : StateM FileTree (Except FileFailure α)}
    (h : ∀ tree, (act.run tree).2 = tree) : ReadsOnly (named operation path act) := by
  refine .bind (.lift h) fun result => ?_
  cases result with
  | error cause => exact .throw _
  | ok a => exact .pure a

end ReadsOnly

theorem readsOnly_loadConfig (stdin : ByteArray) (path : String) :
    ReadsOnly (loadConfig (FileTree.access stdin) path) := by
  refine .bind (.lift fun _ => rfl) fun found => ?_
  split
  · refine .bind (.lift fun _ => rfl) fun content => ?_
    cases content with
    | error cause => exact .throw _
    | ok text =>
      dsimp only
      split
      · exact .pure _
      · exact .throw _
  · exact .throw _

theorem readsOnly_effectiveConfig (stdin : ByteArray) (options : GenerateOptions) :
    ReadsOnly (effectiveConfig (FileTree.access stdin) options) := by
  unfold effectiveConfig
  cases options.config with
  | none => exact .bind (.pure _) fun _ => by cases options.ordering <;> exact .pure _
  | some path =>
    exact .bind (readsOnly_loadConfig stdin path) fun _ => by cases options.ordering <;> exact .pure _

theorem readsOnly_readInput (stdin : ByteArray) (input : String) :
    ReadsOnly (readInput (FileTree.access stdin) input) := by
  unfold readInput
  refine .bind (.named fun tree => ?_) fun text => ?_
  · split <;> rfl
  · split
    · exact .bind (.throw _) fun _ => .pure _
    · exact .pure _

theorem readsOnly_draft (stdin : ByteArray) (options : GenerateOptions) :
    ReadsOnly (draft (FileTree.access stdin) options) :=
  .bind (readsOnly_effectiveConfig stdin options) fun _ =>
    .bind (readsOnly_readInput stdin _) fun _ => .bind (.mk _) fun _ => .pure _

/-! ## Writing -/

theorem runOn_named (operation path : String) (act : StateM FileTree (Except FileFailure α)) :
    runOn tree (named operation path act) =
      ((act.run tree).1.mapError (Failure.file operation path), (act.run tree).2) := by
  unfold named
  rw [runOn_bind_of_ok (runOn_lift act)]
  cases (act.run tree).1 <;> rfl

theorem runOn_write (stdin : ByteArray) {grown : FileTree} (hg : tree.Grows grown) (path text : String) :
    (∃ after, runOn grown (named "write" path ((FileTree.access stdin).write path text)) = (.ok (), after) ∧
      tree.Wrote after path text) ∨
    ∃ cause, runOn grown (named "write" path ((FileTree.access stdin).write path text)) =
        (.error (.file "write" path cause), grown) ∧ ∀ content, tree.read path ≠ .ok content := by
  rw [runOn_named]
  cases hw : grown.write path text with
  | ok after =>
    have hrun : ((FileTree.access stdin).write path text).run grown = (.ok (), after) := by
      unfold FileTree.access StateT.run
      dsimp only
      rw [hw]
    rw [hrun]
    exact .inl ⟨after, rfl, FileTree.wrote_of_write hg hw⟩
  | error cause =>
    have hrun : ((FileTree.access stdin).write path text).run grown = (.error cause, grown) := by
      unfold FileTree.access StateT.run
      dsimp only
      rw [hw]
    rw [hrun]
    -- a file that can be read is still there when folders have been made, and can be written
    refine .inr ⟨cause, rfl, fun content hread => ?_⟩
    obtain ⟨location, hl, hf, -⟩ := FileTree.read_eq_ok_iff.1 (hg.read hread)
    rw [FileTree.write_eq_ok_iff.2 ⟨location, hl, hf, rfl⟩] at hw
    cases hw

/-- An output file is written with just the text, or the failure names what could not be made or written; a
file that could be read before is always written. -/
theorem runOn_writeOutput (stdin : ByteArray) (tree : FileTree) (path text : String) :
    (∃ after, runOn tree (writeOutput (FileTree.access stdin) path text) = (.ok (), after) ∧
      tree.Wrote after path text) ∨
    ∃ operation place cause after,
      runOn tree (writeOutput (FileTree.access stdin) path text) =
        (.error (.file operation place cause), after) ∧
      operation ∈ ["create", "write"] ∧ tree.Grows after ∧ ∀ content, tree.read path ≠ .ok content := by
  unfold writeOutput
  cases habove : FilePath.above path with
  | nil =>
    rcases runOn_write stdin (.refl tree) path text with h | ⟨cause, hrun, hread⟩
    · exact .inl h
    · exact .inr ⟨"write", path, cause, tree, hrun, by simp, .refl tree, hread⟩
  | cons folder rest =>
    have hgrows : tree.Grows (tree.makeFolders folder).2 := FileTree.grows_makeFolders tree folder
    have hmake : runOn tree (named "create" folder ((FileTree.access stdin).makeFolders folder)) =
        ((tree.makeFolders folder).1.mapError (.file "create" folder), (tree.makeFolders folder).2) :=
      runOn_named _ _ _
    dsimp only
    cases hmade : (tree.makeFolders folder).1 with
    | error cause =>
      rw [hmade] at hmake
      refine .inr ⟨"create", folder, cause, _, runOn_bind_of_error hmake _, by simp, hgrows, ?_⟩
      -- the folder above a file that can be read need not be made
      intro content hread
      obtain ⟨location, hl, hf, -⟩ := FileTree.read_eq_ok_iff.1 hread
      rw [FileTree.makeFolders_of_leadsToFolder (FileTree.leadsToFolder_of_above hl hf habove)] at hmade
      cases hmade
    | ok _ =>
      rw [hmade] at hmake
      rw [runOn_bind_of_ok hmake]
      rcases runOn_write stdin hgrows path text with h | ⟨cause, hrun, hread⟩
      · exact .inl h
      · exact .inr ⟨"write", path, cause, _, hrun, by simp, hgrows, hread⟩

/-! ## Generating -/

theorem runOn_generate_of_error {options : GenerateOptions} {failure : Failure}
    (h : runOn tree (draft (FileTree.access stdin) options) = (.error failure, after)) (output : Option String) :
    runOn tree (execute (FileTree.access stdin) (.generate { options with output })) =
      (.error failure, after) := by
  show runOn tree (generate _ _) = _
  rw [generate_eq_draft, runOn_bind_of_error h]

theorem runOn_generate_of_ok {options : GenerateOptions} {text : String} {exitCode : Nat}
    (h : runOn tree (draft (FileTree.access stdin) options) = (.ok (text, exitCode), after))
    (output : Option String) :
    runOn tree (execute (FileTree.access stdin) (.generate { options with output })) =
      runOn after (deliver (FileTree.access stdin) output text exitCode) := by
  show runOn tree (generate _ _) = _
  rw [generate_eq_draft, runOn_bind_of_ok h]

/-- The output file changes nothing but where the text goes. Without one, a generation leaves every file as it
is. If it fails so, then with an output file it fails in the same way and still leaves every file as it is.
If it prints a text, then with an output file it prints nothing, ends with the same exit code, and the file
holds just the text, while every other file is as it was; or the file or its folder cannot be made, which the
failure says. That cannot happen to a file that could be read before, be it the input or the configuration,
and it leaves the content of every file as it was. -/
theorem destination_changes_where_text_goes (stdin : ByteArray) (tree : FileTree) (options : GenerateOptions)
    (path : String) :
    let print := runOn tree (execute (FileTree.access stdin) (.generate { options with output := none }))
    let save := runOn tree (execute (FileTree.access stdin) (.generate { options with output := some path }))
    print.2 = tree ∧
    (∀ failure, print.1 = .error failure → save = (.error failure, tree)) ∧
    ∀ result, print.1 = .ok result → ∃ text, result.output = some text ∧
      ((∃ after, save = (.ok ⟨none, result.exitCode⟩, after) ∧ tree.Wrote after path text) ∨
        ∃ operation place cause after, save = (.error (.file operation place cause), after) ∧
          operation ∈ ["create", "write"] ∧ (Failure.file operation place cause).exitCode = 3 ∧
          tree.Grows after ∧ ∀ content, tree.read path ≠ .ok content) := by
  dsimp only
  have hread := readsOnly_draft stdin options tree
  cases hdraft : runOn tree (draft (FileTree.access stdin) options) with
  | mk found after =>
    rw [hdraft] at hread
    obtain rfl : tree = after := hread.symm
    cases found with
    | error failure =>
      rw [runOn_generate_of_error hdraft, runOn_generate_of_error hdraft]
      refine ⟨rfl, fun _ h => ?_, fun _ h => (by cases h)⟩
      cases h
      rfl
    | ok found =>
      obtain ⟨text, exitCode⟩ := found
      rw [runOn_generate_of_ok hdraft, runOn_generate_of_ok hdraft]
      refine ⟨rfl, fun _ h => (by cases h), fun result h => ?_⟩
      cases h
      refine ⟨text, rfl, ?_⟩
      have hsave : runOn tree (deliver (FileTree.access stdin) (some path) text exitCode) = _ :=
        runOn_bind_pure _ _
      rw [hsave]
      rcases runOn_writeOutput stdin tree path text with
        ⟨last, hrun, hwrote⟩ | ⟨operation, place, cause, last, hrun, hnamed, hgrows⟩
      · rw [hrun]
        exact .inl ⟨last, rfl, hwrote⟩
      · rw [hrun]
        exact .inr ⟨operation, place, cause, last, rfl, hnamed, rfl, hgrows⟩

/-- A network; the node is given as the list of its fields. -/
def planText : String := "\x7b\"nodes\": [[\"a\", \"vpc\", \"A\"]]\x7d"

/-- The network as a document. -/
def planDocument : Json :=
  .object [("nodes", .array [.array [.string "a", .string "vpc", .string "A"]])]

theorem parse_planText : Json.parse planText = .ok planDocument := by
  cbv

/-- A tree with one file, which holds the network. -/
def planTree : FileTree := ⟨[(["plan"], planText)], []⟩

/-- The strict generation of that file as text, printed. -/
def planOptions : GenerateOptions := ⟨"plan", none, none, none, .hcl, true⟩

/-- The generation writes over its own input. -/
theorem planText_is_overwritten :
    ∃ after,
      runOn planTree (execute (FileTree.access .empty) (.generate { planOptions with output := some "plan" })) =
        (.ok ⟨none, 0⟩, after) ∧
      after.read "plan" =
        .ok "resource \"aws_vpc\" \"a\" \x7b\n\n  tags = \x7b\n    Name = \"A\"\n  \x7d\n\x7d\n" := by
  have hlocate : planTree.locate "plan" = .ok ["plan"] := by
    refine FileTree.locate_eq_ok_iff.2 ⟨FileTree.checkPath_eq_ok_iff.2 (by decide), ?_, by decide⟩
    rw [show FileTree.route "plan" = ([], ["plan"]) by decide +kernel]
    rfl
  have hinput : inputText .empty planTree "plan" = .ok planText :=
    (if_neg (by decide)).trans (FileTree.read_eq_ok_iff.2 ⟨_, hlocate, by decide, rfl⟩)
  obtain ⟨snapshot, hload, hcontent, hcode⟩ : ∃ snapshot, Graph.Snapshot.load planDocument = .ok snapshot ∧
      rendered planOptions.format ((Config.default.withOrdering
          (planOptions.ordering.getD Config.default.ordering)).generate snapshot) =
        "resource \"aws_vpc\" \"a\" \x7b\n\n  tags = \x7b\n    Name = \"A\"\n  \x7d\n\x7d\n" ∧
      generateExit planOptions.strict ((Config.default.withOrdering
          (planOptions.ordering.getD Config.default.ordering)).generate snapshot) = 0 :=
    ⟨_, rfl, by decide +kernel, by decide +kernel⟩
  have hprint := runOn_generate { planOptions with output := none } hinput
    (Json.isBlank_of_parse parse_planText) (Graph.Snapshot.parse_of_load parse_planText hload) rfl
  dsimp only at hprint
  rw [hcontent, hcode] at hprint
  obtain ⟨-, -, hsave⟩ := destination_changes_where_text_goes .empty planTree planOptions "plan"
  obtain ⟨text, htext, ⟨after, hrun, hwrote⟩ | ⟨_, _, _, _, -, -, -, -, hnone⟩⟩ :=
    hsave _ (congrArg Prod.fst hprint)
  · rw [← Option.some.inj htext] at hwrote
    exact ⟨after, hrun, hwrote.reads⟩
  · exact absurd hinput (hnone planText)

end CloudCanvas.Command
