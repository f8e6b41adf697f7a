/-
How a run ends. A graph without nodes and a graph whose nodes all had to be left out each have a marker for
a text; every other text has a header, and no marker does. So an output tells which of the three has
happened, and this depends on the array of nodes alone.
-/
import CloudCanvas.Proofs.Generation.Intact

namespace CloudCanvas

open CloudCanvas.Graph CloudCanvas.Hcl

/-! ## Endings -/

namespace Config

variable {config : Config} {snapshot : Snapshot}

theorem emitted_eq_nil_of_isEmptyGraph (h : snapshot.isEmptyGraph = true) : config.emitted snapshot = [] := by
  unfold emitted
  rw [candidates_eq_nil_of_isEmptyGraph h]
  rfl

/-- A run without nodes ends at once, and one in which nothing is emitted ends before any block is
finished. -/
theorem outcome_run (config : Config) (snapshot : Snapshot) :
    (config.run snapshot).outcome =
      if snapshot.isEmptyGraph then .emptyGraph
      else if (config.emitted snapshot).isEmpty then .noValidResources
      else .declared (config.run snapshot).finished := by
  have hemit := (emitEach_spec (config.candidates snapshot) Naming.Cache.faithful_empty).1
  unfold candidates at hemit
  by_cases hempty : snapshot.isEmptyGraph = true
  · unfold run
    rw [if_pos hempty, if_pos hempty]
  · unfold run
    rw [if_neg hempty, if_neg hempty, filterMap_candidate?, filterMap_warning?]
    simp only [hemit]
    unfold emitted candidates
    split
    · rfl
    · rfl

theorem text_run (config : Config) (snapshot : Snapshot) :
    (config.run snapshot).text =
      if snapshot.isEmptyGraph then Output.emptyGraphMarker
      else if (config.emitted snapshot).isEmpty then Output.noValidResourcesMarker
      else "\n\n".intercalate ((config.run snapshot).blocks.map Block.text) := by
  unfold Run.text
  rw [outcome_run]
  cases snapshot.isEmptyGraph with
  | true => rfl
  | false => cases (config.emitted snapshot).isEmpty <;> rfl

/-- Every declaration has its primary block. -/
theorem blocks_run_eq_nil_iff : (config.run snapshot).blocks = [] ↔ config.emitted snapshot = [] := by
  rw [← map_emitted_finished, List.map_eq_nil_iff]
  unfold Run.blocks
  constructor
  · intro h
    refine List.eq_nil_iff_forall_not_mem.2 fun f hf => ?_
    have hprimary : f.declaration.primary ∈ ((config.run snapshot).finished.flatMap fun f => f.declaration.blocks) :=
      List.mem_flatMap.2 ⟨f, hf, List.mem_cons_self ..⟩
    rw [h] at hprimary
    cases hprimary
  · intro h
    rw [h]
    rfl

/-- A text with blocks has a header, and so it differs from every text that has none. -/
theorem text_run_ne {marker : String} (hmarker : (Text.lines marker).filter isHeader = [])
    (h : config.emitted snapshot ≠ []) : (config.run snapshot).text ≠ marker := by
  rintro rfl
  rw [filter_isHeader_lines_text, List.map_eq_nil_iff] at hmarker
  exact h (blocks_run_eq_nil_iff.1 hmarker)

/-! ## What an output tells -/

theorem hasBlocks_iff : (config.generate snapshot).hasBlocks = true ↔ (config.run snapshot).blocks ≠ [] := by
  show decide (0 < (config.run snapshot).blocks.length) = true ↔ _
  rw [decide_eq_true_iff, List.length_pos_iff]

theorem hasBlocks_generate (config : Config) (snapshot : Snapshot) :
    (config.generate snapshot).hasBlocks = !(config.emitted snapshot).isEmpty := by
  rw [Bool.eq_iff_iff, hasBlocks_iff, Bool.not_eq_true', ← Bool.not_eq_true, List.isEmpty_iff]
  exact not_congr blocks_run_eq_nil_iff

theorem isEmptyGraph_generate (config : Config) (snapshot : Snapshot) :
    (config.generate snapshot).isEmptyGraph = snapshot.isEmptyGraph := by
  show ((config.run snapshot).text == Output.emptyGraphMarker) = snapshot.isEmptyGraph
  by_cases he : config.emitted snapshot = []
  · rw [text_run, he]
    cases snapshot.isEmptyGraph <;> rfl
  · have hempty : snapshot.isEmptyGraph = false :=
      Bool.eq_false_iff.2 fun h => he (emitted_eq_nil_of_isEmptyGraph h)
    rw [hempty, beq_eq_false_iff_ne]
    exact text_run_ne (by decide) he

theorem hasNoValidResources_generate (config : Config) (snapshot : Snapshot) :
    (config.generate snapshot).hasNoValidResources =
      (!snapshot.isEmptyGraph && (config.emitted snapshot).isEmpty) := by
  show ((config.run snapshot).text == Output.noValidResourcesMarker) = _
  by_cases he : config.emitted snapshot = []
  · rw [text_run, he]
    cases snapshot.isEmptyGraph <;> rfl
  · have hempty : (config.emitted snapshot).isEmpty = false := by simpa using he
    rw [hempty, Bool.and_false, beq_eq_false_iff_ne]
    exact text_run_ne (by decide) he

end Config

/-! ## Documents -/

namespace Graph.Snapshot

variable {snapshot : Snapshot} {nodes edges : List Json}

/-- A loaded graph is empty when its array of nodes is: an element that is dropped leaves a warning. -/
theorem isEmptyGraph_iff (hn : snapshot.nodes = accepted (nodes.mapIdx settleNode))
    (hw : snapshot.loadWarnings = rejected (nodes.mapIdx settleNode) ++ rejected (edges.mapIdx settleEdge)) :
    snapshot.isEmptyGraph = true ↔ nodes = [] := by
  have hedges : OfKinds [.malformedEdge] (rejected (edges.mapIdx settleEdge)) := ofKinds_settled _ _ _ _
  have hnodes : OfKinds [.malformedNode] (rejected (nodes.mapIdx settleNode)) := ofKinds_settled _ _ _ _
  unfold isEmptyGraph
  rw [Bool.and_eq_true, List.isEmpty_iff, Bool.not_eq_true', List.any_eq_false]
  constructor
  · rintro ⟨hnone, hwarnings⟩
    have hdropped : rejected (nodes.mapIdx settleNode) = [] := by
      refine List.eq_nil_iff_forall_not_mem.2 fun w hm => ?_
      have hkind : w.kind = .malformedNode := List.mem_singleton.1 (hnodes w hm)
      refine hwarnings w ?_ (by rw [hkind]; rfl)
      rw [hw]
      exact List.mem_append_left _ hm
    have hperm := (perm_results (nodes.mapIdx settleNode)).length_eq
    rw [← hn, hnone, hdropped] at hperm
    simpa using hperm
  · rintro rfl
    refine ⟨hn, fun w hm => ?_⟩
    rw [hw] at hm
    have hkind : w.kind = .malformedEdge := List.mem_singleton.1 (hedges w hm)
    rw [hkind]
    decide

theorem ArrayAt.eq_nil_iff {fields : Json.Fields} {key : String} {items : List Json}
    (h : ArrayAt fields key items) :
    items = [] ↔ fields.get? key = none ∨ fields.get? key = some .null ∨ fields.get? key = some (.array []) := by
  constructor
  · rintro rfl
    rcases h with h | ⟨h | h, -⟩
    · exact .inr (.inr h)
    · exact .inl h
    · exact .inr (.inl h)
  · rintro (hk | hk | hk)
    · exact h.unique (.inr ⟨.inl hk, rfl⟩)
    · exact h.unique (.inr ⟨.inr hk, rfl⟩)
    · exact h.unique (.inl hk)

theorem ArrayAt.get?_of_ne_nil {fields : Json.Fields} {key : String} {items : List Json}
    (h : ArrayAt fields key items) (hne : items ≠ []) : fields.get? key = some (.array items) := by
  rcases h with h | ⟨-, rfl⟩
  · exact h
  · exact absurd rfl hne

end Graph.Snapshot

/-- Something is emitted when some element of the array of nodes is declared. -/
theorem Config.emitted_eq_nil_iff {snapshot : Snapshot} {nodes : List Json} (config : Config)
    (hn : snapshot.nodes = accepted (nodes.mapIdx Snapshot.settleNode)) :
    config.emitted snapshot = [] ↔ ∀ v ∈ nodes, ∀ e : Emitted, ¬ e.ComesFrom v := by
  have hperm := config.emitted_perm snapshot
  rw [← accepted_settleDeclaration hn] at hperm
  rw [← List.length_eq_zero_iff, hperm.length_eq, List.length_eq_zero_iff, List.eq_nil_iff_forall_not_mem]
  constructor
  · intro hnone v hv e he
    obtain ⟨i, hi, rfl⟩ := List.getElem_of_mem hv
    refine hnone e (mem_accepted.2 (List.mem_mapIdx.2 ⟨i, hi, ?_⟩))
    exact (settleDeclaration_eq_ok_iff i _ e).2 he
  · intro hnone e he
    obtain ⟨i, hi, hs⟩ := List.mem_mapIdx.1 (mem_accepted.1 he)
    exact hnone _ (List.getElem_mem hi) e ((settleDeclaration_eq_ok_iff i _ e).1 hs)

/-- The three endings are told apart. Exactly one of the three marks holds of an output. The graph counts
as empty when the array of nodes of the document is missing, null or empty; it counts as having no valid
resources when the array has elements of which none can be declared, be it that all were dropped while
loading; otherwise the output has blocks. -/
theorem endings_are_told_apart (config : Config) {document : Json} {snapshot : Snapshot}
    (h : Snapshot.load document = .ok snapshot) :
    ∃ fields : Json.Fields, document = .object fields ∧
      [(config.generate snapshot).isEmptyGraph, (config.generate snapshot).hasNoValidResources,
        (config.generate snapshot).hasBlocks].count true = 1 ∧
      ((config.generate snapshot).isEmptyGraph = true ↔ fields.get? "nodes" = none ∨
        fields.get? "nodes" = some .null ∨ fields.get? "nodes" = some (.array [])) ∧
      ((config.generate snapshot).hasNoValidResources = true ↔
        ∃ nodes, fields.get? "nodes" = some (.array nodes) ∧ nodes ≠ [] ∧
          ∀ v ∈ nodes, ∀ e : Emitted, ¬ e.ComesFrom v) ∧
      ((config.generate snapshot).hasBlocks = true ↔
        ∃ nodes, fields.get? "nodes" = some (.array nodes) ∧ ∃ v ∈ nodes, ∃ e : Emitted, e.ComesFrom v) := by
  obtain ⟨fields, nodes, edges, hd, hnodes, -, hn, -, hw⟩ := Snapshot.load_spec h
  have hempty := Snapshot.isEmptyGraph_iff hn hw
  have hemitted := config.emitted_eq_nil_iff hn
  refine ⟨fields, hd, ?_, ?_, ?_, ?_⟩
  · rw [config.isEmptyGraph_generate, config.hasNoValidResources_generate, config.hasBlocks_generate]
    cases he : snapshot.isEmptyGraph with
    | true =>
      rw [Config.emitted_eq_nil_of_isEmptyGraph he]
      rfl
    | false => cases (config.emitted snapshot).isEmpty <;> rfl
  · rw [config.isEmptyGraph_generate, hempty, hnodes.eq_nil_iff]
  · rw [config.hasNoValidResources_generate, Bool.and_eq_true, Bool.not_eq_true', ← Bool.not_eq_true, hempty,
      List.isEmpty_iff, hemitted]
    constructor
    · rintro ⟨hne, hnone⟩
      exact ⟨nodes, hnodes.get?_of_ne_nil hne, hne, hnone⟩
    · rintro ⟨others, hk, hne, hnone⟩
      obtain rfl : nodes = others := hnodes.unique (.inl hk)
      exact ⟨hne, hnone⟩
  · rw [config.hasBlocks_generate, Bool.not_eq_true', ← Bool.not_eq_true, List.isEmpty_iff, hemitted]
    constructor
    · intro hsome
      push Not at hsome
      obtain ⟨v, hv, e, he⟩ := hsome
      exact ⟨nodes, hnodes.get?_of_ne_nil (List.ne_nil_of_mem hv), v, hv, e, he⟩
    · rintro ⟨others, hk, v, hv, e, he⟩ hnone
      obtain rfl : nodes = others := hnodes.unique (.inl hk)
      exact hnone v hv e he

/-- A document with an edge that can be kept and two elements in its array of nodes that cannot. -/
def wreckedCanvas : Json :=
  .object
    [("edges", .array [.object [("source", .string "a"), ("target", .string "b")]]),
      ("nodes", .array [.string "a", .boolean true])]

/-- Nothing is left of the nodes of that document, and yet its graph does not count as empty. -/
theorem wreckedCanvas_has_no_valid_resources :
    ∃ snapshot, Snapshot.load wreckedCanvas = .ok snapshot ∧ snapshot.nodes = [] ∧
      (Config.default.generate snapshot).hasNoValidResources = true ∧
      (Config.default.generate snapshot).isEmptyGraph = false := by
  obtain ⟨snapshot, hload, hnone⟩ : ∃ snapshot, Snapshot.load wreckedCanvas = .ok snapshot ∧
      snapshot.nodes = [] := ⟨_, rfl, rfl⟩
  obtain ⟨fields, hd, -, hempty, hinvalid, -⟩ := endings_are_told_apart Config.default hload
  cases hd
  refine ⟨snapshot, hload, hnone, hinvalid.2 ⟨_, rfl, by simp, ?_⟩, ?_⟩
  · intro v hv e he
    obtain ⟨record, hdecode, -⟩ := he.decoded
    rcases List.mem_pair.1 hv with rfl | rfl
    · cases hdecode
    · cases hdecode
  · rw [Bool.eq_false_iff, Ne, hempty]
    rintro (h | h | h)
    · cases h
    · cases h
    · cases h

end CloudCanvas
