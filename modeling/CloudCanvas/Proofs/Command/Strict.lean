/-
The exit code of a strict generation. It sums up every warning that a run can give, and so it tells
whether the document is intact; nothing else depends on it.
-/
import CloudCanvas.Proofs.Command.Execution
import CloudCanvas.Proofs.Generation.Intact

namespace CloudCanvas

open CloudCanvas.Graph

/-- The exit code is one of two, and only a strict generation with warnings has the second. -/
theorem Command.generateExit_spec (strict : Bool) (output : Output) :
    (generateExit strict output = 0 ∨ generateExit strict output = 1) ∧
      (generateExit strict output = 0 ↔ strict = false ∨ output.warnings = []) := by
  unfold generateExit exitFindings exitFine
  cases strict with
  | false => simp
  | true =>
    cases output.warnings with
    | nil => simp
    | cons w rest => simp

open Command

/-- A strict generation tells an intact document by its exit code. Let the input be readable as a
document whose arrays are in place, and let the configuration be readable if there is one; the ordering
on the command line comes before the configured one, which is the default one without a configuration.
Then a generation ends with 0 if it is not strict or if the document is intact in that ordering, and with
1 otherwise; the text, and with an output file what writing does, is the same either way. -/
theorem strict_exit_code_tells_intact (stdin : ByteArray) (tree : FileTree) (options : GenerateOptions)
    {text : String} {document : Json} {snapshot : Snapshot} {loaded : Config}
    (hinput : inputText stdin tree options.input = .ok text) (hparse : Json.parse text = .ok document)
    (hload : Snapshot.load document = .ok snapshot) (hconfig : Configures tree options.config loaded) :
    ∃ fields nodes edges content, document = .object fields ∧ Snapshot.ArrayAt fields "nodes" nodes ∧
      Snapshot.ArrayAt fields "edges" edges ∧
      content = rendered options.format
        ((loaded.withOrdering (options.ordering.getD loaded.ordering)).generate snapshot) ∧
      ∀ strict, ∃ exitCode,
        (exitCode = 0 ∨ exitCode = 1) ∧
        (exitCode = 0 ↔ strict = false ∨
          ∃ emitted links, Intact (options.ordering.getD loaded.ordering) nodes edges emitted links) ∧
        runOn tree (execute (FileTree.access stdin) (.generate { options with strict })) =
          match options.output with
          | none => (.ok ⟨some content, exitCode⟩, tree)
          | some path =>
            ((runOn tree (writeOutput (FileTree.access stdin) path content)).1.map fun _ =>
                ⟨none, exitCode⟩,
              (runOn tree (writeOutput (FileTree.access stdin) path content)).2) := by
  obtain ⟨fields, nodes, edges, hd, hnodes, hedges, -⟩ := Snapshot.load_spec hload
  refine ⟨fields, nodes, edges, _, hd, hnodes, hedges, rfl, fun strict => ?_⟩
  obtain ⟨hcodes, hzero⟩ := generateExit_spec strict
    ((loaded.withOrdering (options.ordering.getD loaded.ordering)).generate snapshot)
  refine ⟨_, hcodes, ?_, ?_⟩
  · rw [hzero, Config.warnings_eq_nil_iff _ hload hd hnodes hedges]
    rfl
  · exact runOn_generate { options with strict } hinput (Json.isBlank_of_parse hparse)
      (Snapshot.parse_of_load hparse hload) hconfig

/-- Two networks that depend on each other; nodes and edges are given as the lists of their fields. -/
def ringText : String :=
  "\x7b\"nodes\": [[\"a\", \"vpc\", \"A\"], [\"b\", \"vpc\", \"B\"]], " ++
    "\"edges\": [[\"\", \"a\", \"b\"], [\"\", \"b\", \"a\"]]\x7d"

/-- The document that the text holds. -/
def ringDocument : Json :=
  .object
    [("edges", .array
        [.array [.string "", .string "a", .string "b"], .array [.string "", .string "b", .string "a"]]),
      ("nodes", .array
        [.array [.string "a", .string "vpc", .string "A"], .array [.string "b", .string "vpc", .string "B"]])]

theorem parse_ringText : Json.parse ringText = .ok ringDocument := by
  cbv

/-- A file with that text. -/
def ringTree : FileTree := ⟨[(["ring.json"], ringText)], []⟩

/-- What is asked of a generation from that file in the order of the dependencies. -/
def ringOptions : GenerateOptions := ⟨"ring.json", none, none, some .dependency, .hcl, false⟩

/-- The document is intact in the order of the canvas, but not in that of the dependencies; the strict
generation tells so, and gives the same text. -/
theorem ringText_is_not_intact :
    inputText .empty ringTree "ring.json" = .ok ringText ∧
    ∃ fields nodes edges content, ringDocument = .object fields ∧ Snapshot.ArrayAt fields "nodes" nodes ∧
      Snapshot.ArrayAt fields "edges" edges ∧
      (∃ emitted links, Intact .input nodes edges emitted links) ∧
      (¬ ∃ emitted links, Intact .dependency nodes edges emitted links) ∧
      runOn ringTree (execute (FileTree.access .empty) (.generate { ringOptions with strict := true })) =
        (.ok ⟨some content, 1⟩, ringTree) ∧
      runOn ringTree (execute (FileTree.access .empty) (.generate { ringOptions with strict := false })) =
        (.ok ⟨some content, 0⟩, ringTree) := by
  have hinput : inputText .empty ringTree "ring.json" = .ok ringText := by decide +kernel
  obtain ⟨snapshot, hload, hnone, hcycle⟩ : ∃ snapshot, Snapshot.load ringDocument = .ok snapshot ∧
      ((Config.default.withOrdering .input).generate snapshot).warnings = [] ∧
      ((Config.default.withOrdering .dependency).generate snapshot).warnings ≠ [] :=
    ⟨_, rfl, by decide +kernel, by decide +kernel⟩
  obtain ⟨fields, nodes, edges, content, hd, hnodes, hedges, -, hends⟩ :=
    strict_exit_code_tells_intact .empty ringTree ringOptions hinput parse_ringText hload rfl
  have hintact := (Config.warnings_eq_nil_iff _ hload hd hnodes hedges).1 hnone
  have hbroken := mt (Config.warnings_eq_nil_iff _ hload hd hnodes hedges).2 hcycle
  obtain ⟨code, hcodes, hzero, hstrict⟩ := hends true
  obtain ⟨code', -, hzero', hlenient⟩ := hends false
  obtain rfl : code = 1 := by
    rcases hcodes with rfl | rfl
    · rcases hzero.1 rfl with h | h
      · cases h
      · exact absurd h hbroken
    · rfl
  obtain rfl : code' = 0 := hzero'.2 (.inl rfl)
  exact ⟨hinput, fields, nodes, edges, content, hd, hnodes, hedges, hintact, hbroken, hstrict, hlenient⟩

end CloudCanvas
