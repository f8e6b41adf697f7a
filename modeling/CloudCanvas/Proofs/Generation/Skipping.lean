/-
Records that are skipped leave no trace. A record that is no candidate never gets as far as the order of
the candidates; one whose declaration fails takes a place in the order of the canvas, but nothing depends
on that place. So in both cases the run over the other records has the same declarations, and its
warnings lack the one about the record.
-/
import CloudCanvas.Proofs.Generation.Accounting

namespace CloudCanvas

open CloudCanvas.Graph

/-- The snapshot without the record at an index; the edges stay, those of the record included. -/
def Graph.Snapshot.without (snapshot : Snapshot) (index : Nat) : Snapshot :=
  { snapshot with nodes := snapshot.nodes.eraseIdx index }

/-! ## Results around a point -/

section

variable {ε α : Type} (before after : List (Except ε α))

theorem accepted_around_error (e : ε) : accepted (before ++ .error e :: after) = accepted (before ++ after) := by
  rw [accepted_append, accepted_append]
  rfl

theorem accepted_around_ok (a : α) :
    accepted (before ++ .ok a :: after) = accepted before ++ a :: accepted after := by
  rw [accepted_append]
  rfl

theorem rejected_around_error (e : ε) :
    rejected (before ++ .error e :: after) = rejected before ++ e :: rejected after := by
  rw [rejected_append]
  rfl

theorem rejected_around_ok (a : α) : rejected (before ++ .ok a :: after) = rejected (before ++ after) := by
  rw [rejected_append, rejected_append]
  rfl

end

/-! ## Runs without a record -/

theorem Graph.Record.declare_eq_error {record : Record} {w : Warning} (h : record.declare = .error w) :
    record.screen = .error w ∨
      ∃ candidate, record.screen = .ok candidate ∧ candidate.declare = .error w ∧ w.kind = .emissionFailed := by
  unfold declare at h
  cases hs : record.screen with
  | error found =>
    rw [hs] at h
    obtain rfl : found = w := Except.error.inj h
    exact .inl rfl
  | ok candidate =>
    rw [hs] at h
    have hd : candidate.declare = .error w := h
    have hmem : w ∈ rejected ([candidate].map Candidate.declare) := mem_rejected.2 (by simp [hd])
    exact .inr ⟨candidate, rfl, hd, List.mem_singleton.1 (ofKinds_failed _ w hmem)⟩

theorem Graph.Snapshot.exists_split {snapshot : Snapshot} {index : Nat} {record : Record}
    (h : snapshot.nodes[index]? = some record) :
    ∃ before after, snapshot.nodes = before ++ record :: after ∧
      (snapshot.without index).nodes = before ++ after := by
  obtain ⟨hlt, hrecord⟩ := List.getElem?_eq_some_iff.1 h
  refine ⟨snapshot.nodes.take index, snapshot.nodes.drop (index + 1), ?_, ?_⟩
  · rw [← hrecord, List.getElem_cons_drop, List.take_append_drop]
  · exact List.eraseIdx_eq_take_drop_succ _ _

/-- Without the record at an index the same is emitted, and of the warnings that are added only `w` is
missing. -/
structure Config.LacksOnly (config : Config) (snapshot : Snapshot) (index : Nat) (w : Warning) : Prop where
  emitted : config.emitted (snapshot.without index) = config.emitted snapshot
  added : ∃ before after, config.added snapshot = before ++ w :: after ∧
    config.added (snapshot.without index) = before ++ after

namespace Config

variable {config : Config} {snapshot : Snapshot} {index : Nat} {record : Record} {w : Warning}

/-- A record that is no candidate. -/
theorem lacksOnly_of_screen (config : Config) (h : snapshot.nodes[index]? = some record)
    (hs : record.screen = .error w) : config.LacksOnly snapshot index w := by
  obtain ⟨front, back, hnodes, hrest⟩ := snapshot.exists_split h
  have haccepted : accepted ((snapshot.without index).nodes.map Record.screen) =
      accepted (snapshot.nodes.map Record.screen) := by
    rw [hnodes, hrest, List.map_append, List.map_append, List.map_cons, hs, accepted_around_error]
  have hcandidates : config.candidates (snapshot.without index) = config.candidates snapshot := by
    unfold candidates
    rw [haccepted]
    rfl
  have hemitted : config.emitted (snapshot.without index) = config.emitted snapshot := by
    unfold emitted
    rw [hcandidates]
  refine ⟨hemitted, rejected (front.map Record.screen), rejected (back.map Record.screen) ++
    (arrange config.ordering snapshot.edges (accepted (snapshot.nodes.map Record.screen))).2 ++
    rejected ((config.candidates snapshot).map Candidate.declare) ++
    duplicates [] (config.emitted snapshot), ?_, ?_⟩
  · have hrejected : rejected (snapshot.nodes.map Record.screen) =
        rejected (front.map Record.screen) ++ w :: rejected (back.map Record.screen) := by
      rw [hnodes, List.map_append, List.map_cons, hs, rejected_around_error]
    unfold added
    rw [hrejected]
    simp only [List.append_assoc, List.cons_append]
  · have hrejected : rejected ((snapshot.without index).nodes.map Record.screen) =
        rejected (front.map Record.screen) ++ rejected (back.map Record.screen) := by
      rw [hrest, List.map_append, rejected_append]
    unfold added
    rw [hrejected, hcandidates, hemitted, haccepted]
    simp only [List.append_assoc]
    rfl

/-- A candidate whose declaration fails, when the order of the canvas is kept. -/
theorem lacksOnly_of_declare {candidate : Candidate} (h : snapshot.nodes[index]? = some record)
    (hs : record.screen = .ok candidate) (hd : candidate.declare = .error w)
    (hinput : config.ordering = .input) : config.LacksOnly snapshot index w := by
  obtain ⟨front, back, hnodes, hrest⟩ := snapshot.exists_split h
  have harrange : ∀ edges candidates, arrange config.ordering edges candidates = (candidates, []) := by
    intro edges candidates
    rw [hinput]
    rfl
  have hfull : config.candidates snapshot =
      accepted (front.map Record.screen) ++ candidate :: accepted (back.map Record.screen) := by
    unfold candidates
    rw [harrange, hnodes, List.map_append, List.map_cons, hs, accepted_around_ok]
  have hless : config.candidates (snapshot.without index) =
      accepted (front.map Record.screen) ++ accepted (back.map Record.screen) := by
    unfold candidates
    rw [harrange, hrest, List.map_append, accepted_append]
  have hemitted : config.emitted (snapshot.without index) = config.emitted snapshot := by
    unfold emitted
    rw [hfull, hless, List.map_append, List.map_append, List.map_cons, hd, accepted_around_error]
  have hscreened : rejected ((snapshot.without index).nodes.map Record.screen) =
      rejected (snapshot.nodes.map Record.screen) := by
    rw [hnodes, hrest, List.map_append, List.map_append, List.map_cons, hs, rejected_around_ok]
  refine ⟨hemitted, rejected (snapshot.nodes.map Record.screen) ++
      rejected ((accepted (front.map Record.screen)).map Candidate.declare),
    rejected ((accepted (back.map Record.screen)).map Candidate.declare) ++
      duplicates [] (config.emitted snapshot), ?_, ?_⟩
  · unfold added
    rw [hfull, harrange, List.map_append, List.map_cons, hd, rejected_around_error]
    simp only [List.append_nil, List.append_assoc, List.cons_append]
  · unfold added
    rw [hless, harrange, hscreened, hemitted, List.map_append, rejected_append]
    simp only [List.append_nil, List.append_assoc]

/-- A skipped record leaves no trace in what is emitted, and one warning in what is added. -/
theorem lacksOnly_of_skipped (h : snapshot.nodes[index]? = some record) (hd : record.declare = .error w)
    (hkind : w.kind ≠ .emissionFailed ∨ config.ordering = .input) :
    config.LacksOnly snapshot index w := by
  rcases record.declare_eq_error hd with hs | ⟨candidate, hs, hc, hfailed⟩
  · exact lacksOnly_of_screen config h hs
  · rcases hkind with hne | hinput
    · exact absurd hfailed hne
    · exact lacksOnly_of_declare h hs hc hinput

/-- The declarations of a run, tags and references included, are determined by what is emitted. -/
theorem finished_run_congr {other : Snapshot} (hedges : other.edges = snapshot.edges)
    (h : config.emitted other = config.emitted snapshot) :
    (config.run other).finished = (config.run snapshot).finished := by
  rw [(run_spec config other).1, (run_spec config snapshot).1, targets, targets, h, hedges]

theorem blocks_run_congr {other : Snapshot} (hedges : other.edges = snapshot.edges)
    (h : config.emitted other = config.emitted snapshot) :
    (config.run other).blocks = (config.run snapshot).blocks := by
  unfold Run.blocks
  rw [finished_run_congr hedges h]

end Config

/-- A broken node never disturbs the others. When a record is skipped, being malformed or of a kind that
is not supported, or, in the order of the canvas, because its declaration fails, the output without that
record has the same blocks and, when there are any, the same text; its warnings are the same but for the
one about the record. -/
theorem skipped_record_leaves_no_trace (config : Config) {snapshot : Snapshot} {index : Nat}
    {record : Record} {w : Warning} (h : snapshot.nodes[index]? = some record)
    (hskipped : record.declare = .error w) (hkind : w.kind ≠ .emissionFailed ∨ config.ordering = .input) :
    ((config.generate snapshot).hasBlocks = true →
      (config.generate (snapshot.without index)).text = (config.generate snapshot).text) ∧
    (config.run (snapshot.without index)).blocks = (config.run snapshot).blocks ∧
    (config.generate (snapshot.without index)).blocks = (config.generate snapshot).blocks ∧
    ∃ before after, (config.generate snapshot).warnings = before ++ w :: after ∧
      (config.generate (snapshot.without index)).warnings = before ++ after := by
  obtain ⟨hemitted, before, after, hadded, hless⟩ := Config.lacksOnly_of_skipped h hskipped hkind
  have hsame : (config.run (snapshot.without index)).blocks = (config.run snapshot).blocks :=
    Config.blocks_run_congr rfl hemitted
  refine ⟨fun hblocks => ?_, hsame, congrArg List.length hsame, snapshot.loadWarnings ++ before, after,
    ?_, ?_⟩
  · have hne : (config.run snapshot).blocks ≠ [] := by
      rintro hnil
      have hnone : (config.generate snapshot).blocks = 0 := congrArg List.length hnil
      unfold Output.hasBlocks at hblocks
      rw [hnone] at hblocks
      cases hblocks
    show (config.run (snapshot.without index)).text = (config.run snapshot).text
    rw [Run.text_of_blocks_ne_nil hne, Run.text_of_blocks_ne_nil (by rw [hsame]; exact hne), hsame]
  · rw [Config.warnings_generate, hadded, List.append_assoc]
  · rw [Config.warnings_generate, hless, List.append_assoc]
    rfl

/-- A network between a function whose declaration fails and an airship; all have one id and one label,
and both edges are between them. -/
def crowdedCanvas : Snapshot :=
  .ofNodes
    [⟨"n", "lambda", "Main", [("timeout", .string "soon")]⟩, ⟨"n", "vpc", "Main", []⟩,
      ⟨"n", "airship", "Main", []⟩, ⟨"m", "vpc", "Main", []⟩]
    [⟨"1", "n", "m"⟩, ⟨"2", "m", "n"⟩]

/-- The function can be taken out of the canvas and leaves no trace but its warning. -/
theorem crowdedCanvas_without_function :
    (∃ record, crowdedCanvas.nodes[0]? = some record ∧ record.declare =
      .error ⟨some "n", .emissionFailed, "property `timeout`: expected a number, got \"soon\""⟩) ∧
    Config.default.ordering = .input ∧
    (Config.default.generate crowdedCanvas).hasBlocks = true ∧
    (Config.default.generate (crowdedCanvas.without 0)).text =
      (Config.default.generate crowdedCanvas).text ∧
    (Config.default.generate (crowdedCanvas.without 0)).blocks =
      (Config.default.generate crowdedCanvas).blocks ∧
    (Config.default.generate (crowdedCanvas.without 0)).warnings.length + 1 =
      (Config.default.generate crowdedCanvas).warnings.length := by
  have hskipped : Record.declare (Node.toRecord ⟨"n", "lambda", "Main", [("timeout", .string "soon")]⟩) =
      .error ⟨some "n", .emissionFailed, "property `timeout`: expected a number, got \"soon\""⟩ := by
    rfl
  have hblocks : (Config.default.generate crowdedCanvas).hasBlocks = true := by decide +kernel
  have hrecord : crowdedCanvas.nodes[0]? =
      some (Node.toRecord ⟨"n", "lambda", "Main", [("timeout", .string "soon")]⟩) := rfl
  obtain ⟨htext, -, hcount, before, after, hfull, hless⟩ :=
    skipped_record_leaves_no_trace Config.default hrecord hskipped (.inr rfl)
  refine ⟨⟨_, hrecord, hskipped⟩, rfl, hblocks, htext hblocks, hcount, ?_⟩
  rw [hfull, hless, List.length_append, List.length_append, List.length_cons]
  omega

end CloudCanvas
