/-
The formats of an output and the sources of an input. A generation produces its output before it knows in
which format it is to be printed, so the formats fail alike and end with the same exit code, and the document
that the one prints is read back as the output whose text the other prints. And it takes the same text from a
file as from standard input.
-/
import CloudCanvas.Proofs.Command.Destination
import CloudCanvas.Proofs.Generation.Printed

namespace CloudCanvas

/-- The output for the text of a snapshot. -/
def Config.generateText (config : Config) (text : String) : Except Failure Output :=
  (Graph.Snapshot.parse text).map config.generate

theorem Config.blocks_lt_of_generateText {config : Config} {text : String} {output : Output}
    (h : config.generateText text = .ok output) (hlength : text.length < 2 ^ 63) : output.blocks < 2 ^ 64 := by
  obtain ⟨snapshot, hparse, rfl⟩ := map_eq_ok h
  have hblocks := config.blocks_le snapshot
  obtain ⟨document, hdocument, hload⟩ := Graph.Snapshot.exists_load_of_parse hparse
  have hnodes := Graph.Snapshot.nodes_le_of_load hload
  have hweight := Json.weight_of_parse hdocument
  omega

namespace Command

/-! ## The output and how it is printed -/

section

variable {m : Type → Type} [Monad m] (files : Files m)

/-- The output of a generation. -/
def produce (options : GenerateOptions) : ExceptT Failure m Output := do
  let config ← effectiveConfig files options
  let text ← readInput files options.input
  let snapshot ← ExceptT.mk (pure (Graph.Snapshot.parse text))
  return config.generate snapshot

/-- The result of a generation that prints its output. -/
def present (format : OutputFormat) (strict : Bool) (output : Output) : Result :=
  ⟨some (rendered format output), generateExit strict output⟩

theorem generate_eq_produce [LawfulMonad m] (options : GenerateOptions) (format : OutputFormat) :
    generate files { options with format, output := none } =
      produce files options >>= fun output => pure (present format options.strict output) := by
  simp only [produce, bind_assoc, pure_bind]
  rfl

end

variable {stdin : ByteArray} {tree : FileTree}

theorem readsOnly_produce (stdin : ByteArray) (options : GenerateOptions) :
    ReadsOnly (produce (FileTree.access stdin) options) :=
  .bind (readsOnly_effectiveConfig stdin options) fun _ =>
    .bind (readsOnly_readInput stdin _) fun _ => .bind (.mk _) fun _ => .pure _

/-- Whether a generation succeeds does not depend on the format, nor does what it makes its text of. -/
theorem runOn_generate_printed (stdin : ByteArray) (tree : FileTree) (options : GenerateOptions)
    (format : OutputFormat) :
    runOn tree (execute (FileTree.access stdin) (.generate { options with format, output := none })) =
      ((runOn tree (produce (FileTree.access stdin) options)).1.map (present format options.strict), tree) := by
  show runOn tree (generate _ _) = _
  rw [generate_eq_produce, runOn_bind_pure, readsOnly_produce]

theorem runOn_produce {options : GenerateOptions} {text : String} {loaded : Config}
    (hinput : inputText stdin tree options.input = .ok text) (hblank : Text.isBlank text = false)
    (hconfig : Configures tree options.config loaded) :
    (runOn tree (produce (FileTree.access stdin) options)).1 =
      (loaded.withOrdering (options.ordering.getD loaded.ordering)).generateText text := by
  unfold produce
  rw [runOn_bind_of_ok (runOn_effectiveConfig hconfig), runOn_bind_of_ok (runOn_readInput hinput hblank),
    runOn_bind_pure]
  rfl

/-! ## Where the input comes from -/

theorem textOf_toUTF8 (text : String) : textOf text.toUTF8 = .ok text := by
  have hvalid : text.toUTF8.IsValidUTF8 := text.isValidUTF8
  unfold textOf String.fromUTF8?
  rw [dif_pos hvalid]
  rfl

/-- Two inputs that hold the same text are generated from alike. -/
theorem runOn_generate_input {options : GenerateOptions} {input other text : String}
    (h : inputText stdin tree input = .ok text) (ho : inputText stdin tree other = .ok text)
    (hblank : Text.isBlank text = false) :
    runOn tree (execute (FileTree.access stdin) (.generate { options with input })) =
      runOn tree (execute (FileTree.access stdin) (.generate { options with input := other })) := by
  show runOn tree (generate _ _) = runOn tree (generate _ _)
  unfold generate
  have hconfig : ∀ name, effectiveConfig (FileTree.access stdin) { options with input := name } =
      effectiveConfig (FileTree.access stdin) options := fun _ => rfl
  have hread := readsOnly_effectiveConfig stdin options tree
  rw [hconfig input, hconfig other]
  cases hrun : runOn tree (effectiveConfig (FileTree.access stdin) options) with
  | mk found after =>
    rw [hrun] at hread
    obtain rfl : tree = after := hread.symm
    cases found with
    | error failure => rw [runOn_bind_of_error hrun, runOn_bind_of_error hrun]
    | ok config =>
      rw [runOn_bind_of_ok hrun, runOn_bind_of_ok hrun, runOn_bind_of_ok (runOn_readInput h hblank),
        runOn_bind_of_ok (runOn_readInput ho hblank)]

/-! ## The formats and the sources -/

/-- The formats print one output, and the sources give one input. Printing leaves every file as it is, and in
both formats a generation fails in the same way, whatever goes wrong, or ends with the same exit code. When the
configuration can be read and the input is a text that is not blank, then either no output can be generated
from the text, and a generation fails with that failure in both formats; or there is an output, the one format
prints its text and a line break, and the other one a document that is read back as just this output. (The
bound is that of every text in memory; it keeps the number of blocks within 64 bits.) Finally a file and
standard input that hold the same text, not a blank one, are generated from alike, also when the output goes
to a file. -/
theorem formats_and_sources_agree (stdin : ByteArray) (tree : FileTree) (options : GenerateOptions) :
    let answer (format : OutputFormat) :=
      runOn tree (execute (FileTree.access stdin) (.generate { options with format, output := none }))
    ((∀ format, (answer format).2 = tree) ∧
      (answer .json).1.map (·.exitCode) = (answer .hcl).1.map (·.exitCode)) ∧
    (∀ text loaded, inputText stdin tree options.input = .ok text → Text.isBlank text = false →
      Configures tree options.config loaded →
      let generated := (loaded.withOrdering (options.ordering.getD loaded.ordering)).generateText text
      (∀ failure, generated = .error failure → ∀ format, answer format = (.error failure, tree)) ∧
      ∀ output, generated = .ok output →
        answer .hcl = (.ok ⟨some (output.text ++ "\n"), generateExit options.strict output⟩, tree) ∧
        ∃ shown, answer .json = (.ok ⟨some shown, generateExit options.strict output⟩, tree) ∧
          (text.length < 2 ^ 63 →
            ∃ document, Json.parse shown = .ok document ∧ Output.decode document = .ok output)) ∧
    ∀ path text, path ≠ standardInput → tree.read path = .ok text → textOf stdin = .ok text →
      Text.isBlank text = false →
      runOn tree (execute (FileTree.access stdin) (.generate { options with input := path })) =
        runOn tree (execute (FileTree.access stdin) (.generate { options with input := standardInput })) := by
  dsimp only
  refine ⟨⟨fun format => ?_, ?_⟩, fun text loaded hinput hblank hconfig => ?_,
    fun path text hpath hread htext hblank => ?_⟩
  · rw [runOn_generate_printed]
  · rw [runOn_generate_printed, runOn_generate_printed]
    cases (runOn tree (produce (FileTree.access stdin) options)).1 <;> rfl
  · have hproduce := runOn_produce hinput hblank hconfig
    refine ⟨fun failure hfailure format => ?_, fun output houtput => ?_⟩
    · rw [runOn_generate_printed, hproduce, hfailure]
      rfl
    · rw [runOn_generate_printed, runOn_generate_printed, hproduce, houtput]
      exact ⟨rfl, _, rfl, fun hlength =>
        Output.decode_printed (Config.blocks_lt_of_generateText houtput hlength)⟩
  · exact runOn_generate_input ((if_neg hpath).trans hread) ((if_pos rfl).trans htext) hblank

/-- A network and a node of a kind that is not known. -/
def strayText : String := "\x7b\"nodes\": [[\"a\", \"vpc\", \"A\"], [\"b\", \"box\", \"B\"]]\x7d"

/-- The two nodes as a document. -/
def strayDocument : Json :=
  .object [("nodes", .array [.array [.string "a", .string "vpc", .string "A"],
    .array [.string "b", .string "box", .string "B"]])]

theorem parse_strayText : Json.parse strayText = .ok strayDocument := by
  cbv

/-- A tree with one file, which holds the two nodes. -/
def strayTree : FileTree := ⟨[(["stray"], strayText)], []⟩

/-- The strict generation of that file as text, printed. -/
def strayOptions : GenerateOptions := ⟨"stray", none, none, none, .hcl, true⟩

/-- The warning about the stray node is in the document only, and makes either run end with 1. -/
theorem strayText_is_generated :
    ∃ output shown document,
      runOn strayTree (execute (FileTree.access strayText.toUTF8) (.generate { strayOptions with format := .hcl })) =
        (.ok ⟨some (output.text ++ "\n"), 1⟩, strayTree) ∧
      runOn strayTree (execute (FileTree.access strayText.toUTF8) (.generate { strayOptions with format := .json })) =
        (.ok ⟨some shown, 1⟩, strayTree) ∧
      Json.parse shown = .ok document ∧ Output.decode document = .ok output ∧
      output.warnings.map (·.nodeId) = [some "b"] ∧ output.blocks = 1 ∧
      runOn strayTree (execute (FileTree.access strayText.toUTF8)
          (.generate { strayOptions with input := standardInput })) =
        (.ok ⟨some (output.text ++ "\n"), 1⟩, strayTree) := by
  have hread : strayTree.read "stray" = .ok strayText := by decide +kernel
  have hblank := Json.isBlank_of_parse parse_strayText
  obtain ⟨output, houtput, hwarnings, hblocks, hcode⟩ : ∃ output,
      (Config.default.withOrdering (strayOptions.ordering.getD Config.default.ordering)).generateText strayText =
        .ok output ∧ output.warnings.map (·.nodeId) = [some "b"] ∧ output.blocks = 1 ∧
      generateExit strayOptions.strict output = 1 := by
    unfold Config.generateText Graph.Snapshot.parse
    rw [parse_strayText]
    exact ⟨_, rfl, by decide +kernel, by decide +kernel, by decide +kernel⟩
  obtain ⟨-, hformats, hsources⟩ := formats_and_sources_agree strayText.toUTF8 strayTree strayOptions
  obtain ⟨-, hgenerated⟩ := hformats strayText Config.default ((if_neg (by decide)).trans hread) hblank rfl
  obtain ⟨hhcl, shown, hjson, hback⟩ := hgenerated output houtput
  rw [hcode] at hhcl hjson
  obtain ⟨document, hparse, hdecode⟩ := hback (by decide)
  refine ⟨output, shown, document, hhcl, hjson, hparse, hdecode, hwarnings, hblocks, ?_⟩
  rw [← hsources "stray" strayText (by decide) hread (textOf_toUTF8 _) hblank]
  exact hhcl

end Command

end CloudCanvas
