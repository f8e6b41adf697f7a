/-
Nothing is lost silently. An element of the document is decoded, screened and declared, and it comes
out as a primary block or as a warning about it, whichever order the configuration asks for and
however the run ends.
-/
import CloudCanvas.Proofs.Generation.Layout

namespace CloudCanvas

open CloudCanvas.Graph CloudCanvas.Hcl

/-! ## Kinds of warnings -/

/-- Whether warnings of the kind tell that a node was left out. -/
def WarningKind.skipsNode : WarningKind → Bool
  | malformedNode | unsupportedKind | emissionFailed => true
  | malformedEdge | duplicateName | dependencyCycle => false

/-- Whether warnings of the kind tell that an edge was left out. -/
def WarningKind.skipsEdge : WarningKind → Bool
  | malformedEdge => true
  | malformedNode | unsupportedKind | emissionFailed | duplicateName | dependencyCycle => false

/-- All of the warnings are of one of the kinds. -/
def OfKinds (kinds : List WarningKind) (warnings : List Warning) : Prop :=
  ∀ w ∈ warnings, w.kind ∈ kinds

theorem OfKinds.filter_eq_self {kinds : List WarningKind} {warnings : List Warning}
    (h : OfKinds kinds warnings) {p : WarningKind → Bool} (hp : ∀ kind ∈ kinds, p kind = true) :
    (warnings.filter fun w => p w.kind) = warnings :=
  List.filter_eq_self.2 fun w hw => hp _ (h w hw)

theorem OfKinds.filter_eq_nil {kinds : List WarningKind} {warnings : List Warning}
    (h : OfKinds kinds warnings) {p : WarningKind → Bool} (hp : ∀ kind ∈ kinds, p kind = false) :
    (warnings.filter fun w => p w.kind) = [] := by
  rw [List.filter_eq_nil_iff]
  intro w hw
  rw [hp _ (h w hw)]
  decide

theorem OfKinds.filter_eq_ite {kind : WarningKind} {warnings : List Warning} (h : OfKinds [kind] warnings)
    (p : WarningKind → Bool) :
    (warnings.filter fun w => p w.kind) = if p kind then warnings else [] := by
  split
  · rename_i hp
    exact h.filter_eq_self (by simpa using hp)
  · rename_i hp
    exact h.filter_eq_nil (by simpa using hp)

/-! ## The warnings of each step -/

theorem ofKinds_settled {α : Type} (decode : Decoder α) (key : String) (kind : WarningKind)
    (items : List Json) :
    OfKinds [kind] (rejected (items.mapIdx (Snapshot.settle decode (Snapshot.Dropped.warning key kind)))) := by
  intro w hw
  obtain ⟨i, hi, he⟩ := List.mem_mapIdx.1 (mem_rejected.1 hw)
  unfold Snapshot.settle at he
  cases hd : decode items[i] with
  | ok a => rw [hd] at he; cases he
  | error e => rw [hd] at he; cases he; exact List.mem_singleton.2 rfl

theorem ofKinds_screened (records : List Record) :
    OfKinds [.malformedNode, .unsupportedKind] (rejected (records.map Record.screen)) := by
  intro w hw
  obtain ⟨record, -, hs⟩ := List.mem_map.1 (mem_rejected.1 hw)
  unfold Record.screen at hs
  split at hs
  · cases hs
    exact List.mem_cons_self ..
  · split at hs
    · cases hs
    · cases hs
      exact List.mem_cons_of_mem _ (List.mem_cons_self ..)

theorem ofKinds_arranged (ordering : BlockOrdering) (edges : List Edge) (candidates : List Candidate) :
    OfKinds [.dependencyCycle] (arrange ordering edges candidates).2 := by
  intro w hw
  rw [mem_arrange_snd hw]
  decide

theorem ofKinds_failed (candidates : List Candidate) :
    OfKinds [.emissionFailed] (rejected (candidates.map Candidate.declare)) := by
  intro w hw
  obtain ⟨candidate, -, hd⟩ := List.mem_map.1 (mem_rejected.1 hw)
  unfold Candidate.declare at hd
  split at hd
  · cases hd
  · cases hd; exact List.mem_singleton.2 rfl

theorem ofKinds_duplicates (earlier rest : List Emitted) : OfKinds [.duplicateName] (duplicates earlier rest) := by
  induction rest generalizing earlier with
  | nil => intro w hw; cases hw
  | cons e rest ih =>
    intro w hw
    unfold duplicates at hw
    dsimp only at hw
    split at hw
    · rcases List.mem_cons.1 hw with rfl | hw
      · exact List.mem_singleton.2 rfl
      · exact ih _ w hw
    · exact ih _ w hw

/-! ## From elements to blocks -/

/-- What becomes of a record: its declaration, or the warning about the step that left it out. -/
def Graph.Record.declare (record : Record) : Except Warning Emitted :=
  record.screen >>= Candidate.declare

/-- What becomes of an element of the array of nodes. -/
def settleDeclaration (index : Nat) (v : Json) : Except Warning Emitted :=
  Snapshot.settleNode index v >>= Record.declare

namespace Config

variable {config : Config} {snapshot : Snapshot}

/-- Up to order, what is emitted is the same in every order of the candidates. -/
theorem emitted_perm (config : Config) (snapshot : Snapshot) :
    (config.emitted snapshot).Perm (accepted (snapshot.nodes.map Record.declare)) := by
  have hsteps := accepted_map_bind Candidate.declare (snapshot.nodes.map Record.screen)
  rw [List.map_map] at hsteps
  exact (((candidates_perm config snapshot).map Candidate.declare).filterMap _).trans
    (List.Perm.of_eq hsteps.symm)

theorem rejected_perm (config : Config) (snapshot : Snapshot) :
    (rejected (snapshot.nodes.map Record.screen) ++
        rejected ((config.candidates snapshot).map Candidate.declare)).Perm
      (rejected (snapshot.nodes.map Record.declare)) := by
  have hsteps := rejected_map_bind Candidate.declare (snapshot.nodes.map Record.screen)
  rw [List.map_map] at hsteps
  exact ((((candidates_perm config snapshot).map Candidate.declare).filterMap _).append_left _).trans
    hsteps.symm

/-- What a run adds to the load warnings: the warnings of its steps, one step after the other. -/
def added (config : Config) (snapshot : Snapshot) : List Warning :=
  rejected (snapshot.nodes.map Record.screen) ++
    (arrange config.ordering snapshot.edges (accepted (snapshot.nodes.map Record.screen))).2 ++
    rejected ((config.candidates snapshot).map Candidate.declare) ++
    duplicates [] (config.emitted snapshot)

theorem warnings_run (config : Config) (snapshot : Snapshot) :
    (config.run snapshot).warnings = snapshot.loadWarnings ++ config.added snapshot := by
  rw [(run_spec config snapshot).2]
  simp only [added, List.append_assoc]

theorem warnings_generate (config : Config) (snapshot : Snapshot) :
    (config.generate snapshot).warnings = snapshot.loadWarnings ++ config.added snapshot := by
  rw [← warnings_run]
  rfl

/-- The added warnings of the kinds that `p` picks: after those about records, each further step adds
warnings of one kind. -/
theorem filter_added_steps (config : Config) (snapshot : Snapshot) (p : WarningKind → Bool) :
    ((config.added snapshot).filter fun w => p w.kind) =
      ((rejected (snapshot.nodes.map Record.screen)).filter fun w => p w.kind) ++
      (if p .dependencyCycle then
        (arrange config.ordering snapshot.edges (accepted (snapshot.nodes.map Record.screen))).2 else []) ++
      (if p .emissionFailed then rejected ((config.candidates snapshot).map Candidate.declare) else []) ++
      (if p .duplicateName then duplicates [] (config.emitted snapshot) else []) := by
  have harranged := ofKinds_arranged config.ordering snapshot.edges
    (accepted (snapshot.nodes.map Record.screen))
  have hfailed := ofKinds_failed (config.candidates snapshot)
  have hduplicates := ofKinds_duplicates [] (config.emitted snapshot)
  unfold added
  rw [List.filter_append, List.filter_append, List.filter_append, harranged.filter_eq_ite,
    hfailed.filter_eq_ite, hduplicates.filter_eq_ite]

/-- The added warnings of the kinds that `p` picks, when `p` picks none of those about records. -/
theorem filter_added (config : Config) (snapshot : Snapshot) {p : WarningKind → Bool}
    (hm : p .malformedNode = false) (hu : p .unsupportedKind = false) :
    ((config.added snapshot).filter fun w => p w.kind) =
      (if p .dependencyCycle then
        (arrange config.ordering snapshot.edges (accepted (snapshot.nodes.map Record.screen))).2 else []) ++
      (if p .emissionFailed then rejected ((config.candidates snapshot).map Candidate.declare) else []) ++
      (if p .duplicateName then duplicates [] (config.emitted snapshot) else []) := by
  have hscreened := ofKinds_screened snapshot.nodes
  rw [filter_added_steps, hscreened.filter_eq_nil (by simp [hm, hu]), List.nil_append]

/-- The warnings of a run over a loaded snapshot that tell of left-out nodes are those about elements
that cannot be decoded, records that are no candidates, and candidates that cannot be declared; those
that tell of left-out edges are about elements that cannot be decoded. -/
theorem filter_warnings_run {nodes edges : List Json} (config : Config) (h : snapshot.loadWarnings =
      rejected (nodes.mapIdx Snapshot.settleNode) ++ rejected (edges.mapIdx Snapshot.settleEdge)) :
    ((config.run snapshot).warnings.filter fun w => w.kind.skipsNode) =
        rejected (nodes.mapIdx Snapshot.settleNode) ++ rejected (snapshot.nodes.map Record.screen) ++
          rejected ((config.candidates snapshot).map Candidate.declare) ∧
      ((config.run snapshot).warnings.filter fun w => w.kind.skipsEdge) =
        rejected (edges.mapIdx Snapshot.settleEdge) := by
  have hnodes : OfKinds [.malformedNode] (rejected (nodes.mapIdx Snapshot.settleNode)) :=
    ofKinds_settled _ _ _ _
  have hedges : OfKinds [.malformedEdge] (rejected (edges.mapIdx Snapshot.settleEdge)) :=
    ofKinds_settled _ _ _ _
  have hscreened := ofKinds_screened snapshot.nodes
  have harranged := ofKinds_arranged config.ordering snapshot.edges
    (accepted (snapshot.nodes.map Record.screen))
  have hfailed := ofKinds_failed (config.candidates snapshot)
  have hduplicates := ofKinds_duplicates [] (config.emitted snapshot)
  rw [(run_spec config snapshot).2, h]
  simp only [List.filter_append]
  constructor
  · rw [hnodes.filter_eq_self (by decide), hedges.filter_eq_nil (by decide),
      hscreened.filter_eq_self (by decide), harranged.filter_eq_nil (by decide),
      hfailed.filter_eq_self (by decide), hduplicates.filter_eq_nil (by decide)]
    simp only [List.append_nil]
  · rw [hnodes.filter_eq_nil (by decide), hedges.filter_eq_self (by decide),
      hscreened.filter_eq_nil (by decide), harranged.filter_eq_nil (by decide),
      hfailed.filter_eq_nil (by decide), hduplicates.filter_eq_nil (by decide)]
    simp only [List.append_nil, List.nil_append]

theorem mapIdx_settleDeclaration (nodes : List Json) :
    nodes.mapIdx settleDeclaration = (nodes.mapIdx Snapshot.settleNode).map (· >>= Record.declare) := by
  rw [List.mapIdx_eq_zipIdx_map, List.mapIdx_eq_zipIdx_map, List.map_map]
  rfl

/-- The declarations of the elements are what is emitted. -/
theorem accepted_settleDeclaration {nodes : List Json}
    (hn : snapshot.nodes = accepted (nodes.mapIdx Snapshot.settleNode)) :
    accepted (nodes.mapIdx settleDeclaration) = accepted (snapshot.nodes.map Record.declare) := by
  rw [mapIdx_settleDeclaration, accepted_map_bind, ← hn]

/-- The warnings about the elements are those of the three steps that leave nodes out. -/
theorem rejected_settleDeclaration_perm {nodes : List Json} (config : Config)
    (hn : snapshot.nodes = accepted (nodes.mapIdx Snapshot.settleNode)) :
    (rejected (nodes.mapIdx settleDeclaration)).Perm
      (rejected (nodes.mapIdx Snapshot.settleNode) ++ rejected (snapshot.nodes.map Record.screen) ++
        rejected ((config.candidates snapshot).map Candidate.declare)) := by
  rw [mapIdx_settleDeclaration, List.append_assoc]
  refine (rejected_map_bind _ _).trans ?_
  rw [← hn]
  exact (rejected_perm config snapshot).symm.append_left _

/-- Every element of the array of nodes ends as a primary block or as a warning, and nothing else does. -/
theorem settleDeclaration_perm {nodes edges : List Json} (config : Config)
    (hn : snapshot.nodes = accepted (nodes.mapIdx Snapshot.settleNode))
    (h : snapshot.loadWarnings =
      rejected (nodes.mapIdx Snapshot.settleNode) ++ rejected (edges.mapIdx Snapshot.settleEdge)) :
    (nodes.mapIdx settleDeclaration).Perm
      (((config.run snapshot).finished.map fun f => .ok f.emitted) ++
        ((config.run snapshot).warnings.filter fun w => w.kind.skipsNode).map .error) := by
  have hok : (accepted (nodes.mapIdx settleDeclaration)).Perm (config.emitted snapshot) := by
    rw [accepted_settleDeclaration hn]
    exact (emitted_perm config snapshot).symm
  have herror : (rejected (nodes.mapIdx settleDeclaration)).Perm
      ((config.run snapshot).warnings.filter fun w => w.kind.skipsNode) := by
    rw [(filter_warnings_run config h).1]
    exact rejected_settleDeclaration_perm config hn
  have hfinished : ((config.run snapshot).finished.map fun f => (.ok f.emitted : Except Warning Emitted)) =
      (config.emitted snapshot).map .ok := by
    rw [← map_emitted_finished, List.map_map]
    rfl
  rw [hfinished]
  -- results apart, then each side by itself
  exact (perm_results _).trans ((hok.map _).append (herror.map _))

/-- The headers of a run: for each node that of its primary block, and those of the blocks beside it. -/
theorem map_headerLine_blocks (config : Config) (snapshot : Snapshot) :
    (config.run snapshot).blocks.map Block.headerLine =
      (config.run snapshot).finished.flatMap fun f =>
        declarationHeader f.emitted.candidate.kind.declarationType
          (Naming.sanitize f.emitted.candidate.node.namingSource) ::
            f.declaration.companions.map Block.headerLine := by
  unfold Run.blocks
  rw [List.map_flatMap]
  refine List.flatMap_congr fun f hf => ?_
  have hs := sound_of_mem_finished hf
  rw [Declaration.blocks, List.map_cons, hs.primary.headerLine, hs.named, Candidate.name]

end Config

/-- Nothing is lost silently when a document is loaded and generated. Each element of its array of
nodes, which is empty when it is missing or null, ends as exactly one primary block, under the type and
the name of its node, or as one warning of the kinds that tell of left-out nodes, and so the numbers add
up; the elements of its array of edges are kept or told of by a warning. What is kept stays in order.
The number of blocks is the number of headers in the text, and the load warnings come first. -/
theorem every_element_is_accounted_for (config : Config) {document : Json} {snapshot : Snapshot}
    (h : Snapshot.load document = .ok snapshot) :
    ∃ fields nodes edges, document = .object fields ∧ Snapshot.ArrayAt fields "nodes" nodes ∧
      Snapshot.ArrayAt fields "edges" edges ∧
      (nodes.mapIdx settleDeclaration).Perm
        (((config.run snapshot).finished.map fun f => .ok f.emitted) ++
          ((config.generate snapshot).warnings.filter fun w => w.kind.skipsNode).map .error) ∧
      nodes.length = (config.run snapshot).finished.length +
        ((config.generate snapshot).warnings.filter fun w => w.kind.skipsNode).length ∧
      (Text.lines (config.generate snapshot).text).filter isHeader =
        ((config.run snapshot).finished.flatMap fun f =>
          declarationHeader f.emitted.candidate.kind.declarationType
            (Naming.sanitize f.emitted.candidate.node.namingSource) ::
              f.declaration.companions.map Block.headerLine) ∧
      (config.generate snapshot).blocks =
        ((Text.lines (config.generate snapshot).text).filter isHeader).length ∧
      snapshot.nodes = accepted (nodes.mapIdx Snapshot.settleNode) ∧
      snapshot.edges = accepted (edges.mapIdx Snapshot.settleEdge) ∧
      edges.length = snapshot.edges.length +
        ((config.generate snapshot).warnings.filter fun w => w.kind.skipsEdge).length ∧
      snapshot.loadWarnings <+: (config.generate snapshot).warnings := by
  obtain ⟨fields, nodes, edges, hd, hnodes, hedges, hn, he, hw⟩ := Snapshot.load_spec h
  have hperm := Config.settleDeclaration_perm config hn hw
  have hcount : edges.length = snapshot.edges.length +
      ((config.run snapshot).warnings.filter fun w => w.kind.skipsEdge).length := by
    have hsplit := (perm_results (edges.mapIdx Snapshot.settleEdge)).length_eq
    rw [(Config.filter_warnings_run config hw).2, he]
    simpa only [List.length_mapIdx, List.length_append, List.length_map] using hsplit
  have hnumber : nodes.length = (config.run snapshot).finished.length +
      ((config.run snapshot).warnings.filter fun w => w.kind.skipsNode).length := by
    simpa only [List.length_mapIdx, List.length_append, List.length_map] using hperm.length_eq
  have hheaders := Config.filter_isHeader_lines_text config snapshot
  refine ⟨fields, nodes, edges, hd, hnodes, hedges, hperm, hnumber, ?_, ?_, hn, he, hcount, ?_⟩
  · refine hheaders.trans (Config.map_headerLine_blocks config snapshot)
  · have hlength := congrArg List.length hheaders
    rw [List.length_map] at hlength
    exact hlength.symm
  · show snapshot.loadWarnings <+: (config.run snapshot).warnings
    rw [(Config.run_spec config snapshot).2]
    simp only [List.append_assoc]
    exact List.prefix_append _ _

/-- A document in which a node is left out at every step, and an edge too. -/
def leakyCanvas : Json :=
  .object
    [("edges", .array [.object [("source", .string "a"), ("target", .string "a")], .null]),
      ("nodes", .array
        [.object [("id", .string "a"), ("kind", .string "vpc"), ("label", .string "A")],
          .boolean true,
          .object [("id", .string "b"), ("kind", .string "airship"), ("label", .string "B")],
          .object [("id", .string "c"), ("kind", .string "lambda"), ("label", .string "C"),
            ("properties", .object [("timeout", .string "soon")])]])]

/-- Of the four nodes of that document one is declared, and there is a warning about each of the others. -/
theorem leakyCanvas_is_accounted_for :
    ∃ snapshot fields nodes, Snapshot.load leakyCanvas = .ok snapshot ∧ leakyCanvas = .object fields ∧
      Snapshot.ArrayAt fields "nodes" nodes ∧
      nodes.length = (Config.default.run snapshot).finished.length +
        ((Config.default.generate snapshot).warnings.filter fun w => w.kind.skipsNode).length ∧
      (Config.default.run snapshot).finished.length = 1 ∧
      ((Config.default.generate snapshot).warnings.filter fun w => w.kind.skipsNode).length = 3 := by
  obtain ⟨snapshot, hload, hone, hthree⟩ : ∃ snapshot, Snapshot.load leakyCanvas = .ok snapshot ∧
      (Config.default.run snapshot).finished.length = 1 ∧
      ((Config.default.generate snapshot).warnings.filter fun w => w.kind.skipsNode).length = 3 :=
    ⟨_, rfl, by decide +kernel, by decide +kernel⟩
  obtain ⟨fields, nodes, -, hd, hnodes, -, -, hnumber, -⟩ :=
    every_element_is_accounted_for Config.default hload
  exact ⟨snapshot, fields, nodes, hload, hd, hnodes, hnumber, hone, hthree⟩

end CloudCanvas
