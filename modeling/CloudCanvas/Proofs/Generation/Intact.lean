/-
Intact documents. A run has no warnings exactly when there is nothing to warn about: every element of
the document is declared or kept, no two declarations have one type and one name, and the edges have an
order if one is asked for.
-/
import CloudCanvas.Proofs.Generation.Address

namespace CloudCanvas

open CloudCanvas.Graph

/-- The element is decoded, screened and declared as `e`. -/
structure Emitted.ComesFrom (e : Emitted) (v : Json) : Prop where
  decoded : ∃ record, Record.decode v = .ok record ∧ record.toNode = .ok e.candidate.node
  supported : e.candidate.node.kind? = some e.candidate.kind
  named : e.name = Naming.sanitize e.candidate.node.namingSource
  declared : Declaration.emit e.candidate.kind e.candidate.node.properties e.name = .ok e.declaration

/-- Every element of the array of nodes is declared and every one of the array of edges is kept, the
declarations differ in their type or their name, and no node depends on itself through others if the
order is that of the dependencies. -/
structure Intact (ordering : BlockOrdering) (nodes edges : List Json) (emitted : List Emitted)
    (links : List Edge) : Prop where
  nodes : List.Forall₂ (fun v e => e.ComesFrom v) nodes emitted
  edges : List.Forall₂ (fun v link => Edge.decode v = .ok link) edges links
  distinct : (emitted.map fun e => (e.candidate.kind.declarationType, e.name)).Nodup
  acyclic : ordering = .dependency → ¬ Cyclic (emitted.map fun e => e.candidate.node.id) links

/-! ## One element -/

/-- An element is declared as what comes from it, whatever its index is. -/
theorem settleDeclaration_eq_ok_iff (index : Nat) (v : Json) (e : Emitted) :
    settleDeclaration index v = .ok e ↔ e.ComesFrom v := by
  unfold settleDeclaration Record.declare Snapshot.settleNode
  simp only [bind_eq_ok_iff, Snapshot.settle_eq_ok_iff, Record.screen_eq_ok_iff, declare_eq_ok_iff]
  constructor
  · rintro ⟨record, hdecode, _, ⟨hnode, hkind⟩, rfl, hname, hemit⟩
    rw [← hname] at hemit
    exact ⟨⟨record, hdecode, hnode⟩, hkind, hname, hemit⟩
  · rintro ⟨⟨record, hdecode, hnode⟩, hkind, hname, hemit⟩
    rw [hname] at hemit
    exact ⟨record, hdecode, e.candidate, ⟨hnode, hkind⟩, rfl, hname, hemit⟩

/-! ## Whole documents -/

theorem map_candidate_of_map_declare {candidates : List Candidate} {emitted : List Emitted}
    (h : candidates.map Candidate.declare = emitted.map .ok) : emitted.map (·.candidate) = candidates := by
  induction candidates generalizing emitted with
  | nil =>
    rw [List.map_nil] at h
    rw [List.map_eq_nil_iff.1 h.symm, List.map_nil]
  | cons candidate rest ih =>
    cases emitted with
    | nil => cases h
    | cons e others =>
      rw [List.map_cons, List.map_cons, List.cons.injEq] at h
      rw [List.map_cons, ih h.2, (eq_of_declare h.1).1]

/-- There is a warning about the order only when the order is that of the dependencies and there is a
cycle. -/
theorem arrange_snd_eq_nil_iff {ordering : BlockOrdering} {edges : List Edge} {candidates : List Candidate} :
    (arrange ordering edges candidates).2 = [] ↔
      (ordering = .dependency → ¬ Cyclic (candidates.map (·.node.id)) edges) := by
  cases ordering with
  | input => exact iff_of_true rfl fun h => by cases h
  | dependency =>
    rw [← order?_eq_none_iff]
    unfold arrange
    cases order? (candidates.map (·.node.id)) edges with
    | none => simp
    | some positions => simp

namespace Config

variable {snapshot : Snapshot}

/-- When every element is declared, the candidates are those of the declarations. -/
theorem candidates_of_rejected_eq_nil {nodes : List Json}
    (hn : snapshot.nodes = accepted (nodes.mapIdx Snapshot.settleNode))
    (h : rejected (nodes.mapIdx settleDeclaration) = []) :
    accepted (snapshot.nodes.map Record.screen) =
      (accepted (nodes.mapIdx settleDeclaration)).map (·.candidate) := by
  have hsteps : snapshot.nodes.map Record.declare =
      (snapshot.nodes.map Record.screen).map (· >>= Candidate.declare) := by
    rw [List.map_map]
    rfl
  have hperm := rejected_map_bind Record.declare (nodes.mapIdx Snapshot.settleNode)
  rw [← mapIdx_settleDeclaration, h, ← hn] at hperm
  have hrecords := (List.append_eq_nil_iff.1 hperm.symm.eq_nil).2
  have hperm := rejected_map_bind Candidate.declare (snapshot.nodes.map Record.screen)
  rw [← hsteps, hrecords] at hperm
  have hcandidates := (List.append_eq_nil_iff.1 hperm.symm.eq_nil).2
  refine (map_candidate_of_map_declare ?_).symm
  rw [eq_map_ok_iff, accepted_settleDeclaration hn, hsteps, accepted_map_bind]
  exact ⟨hcandidates, rfl⟩

/-- A run has no warnings when none of its steps has something to warn about. -/
theorem warnings_generate_eq_nil_iff {nodes edges : List Json} (config : Config)
    (hn : snapshot.nodes = accepted (nodes.mapIdx Snapshot.settleNode))
    (h : snapshot.loadWarnings =
      rejected (nodes.mapIdx Snapshot.settleNode) ++ rejected (edges.mapIdx Snapshot.settleEdge)) :
    (config.generate snapshot).warnings = [] ↔
      rejected (nodes.mapIdx settleDeclaration) = [] ∧
      rejected (edges.mapIdx Snapshot.settleEdge) = [] ∧
      (arrange config.ordering snapshot.edges (accepted (snapshot.nodes.map Record.screen))).2 = [] ∧
      duplicates [] (config.emitted snapshot) = [] := by
  have hperm := rejected_settleDeclaration_perm config hn
  have hnodes : rejected (nodes.mapIdx settleDeclaration) = [] ↔
      rejected (nodes.mapIdx Snapshot.settleNode) ++ rejected (snapshot.nodes.map Record.screen) ++
        rejected ((config.candidates snapshot).map Candidate.declare) = [] := by
    rw [← List.length_eq_zero_iff, ← List.length_eq_zero_iff, hperm.length_eq]
  rw [hnodes, warnings_generate, h]
  unfold added
  simp only [List.append_eq_nil_iff]
  constructor
  · rintro ⟨⟨hn, he⟩, ⟨⟨hs, ha⟩, hd⟩, hdup⟩
    exact ⟨⟨⟨hn, hs⟩, hd⟩, he, ha, hdup⟩
  · rintro ⟨⟨⟨hn, hs⟩, hd⟩, he, ha, hdup⟩
    exact ⟨⟨hn, he⟩, ⟨⟨hs, ha⟩, hd⟩, hdup⟩

/-- The addresses of what is emitted are different when those of the elements are. -/
theorem duplicates_emitted_eq_nil_iff {nodes : List Json} (config : Config)
    (hn : snapshot.nodes = accepted (nodes.mapIdx Snapshot.settleNode)) :
    duplicates [] (config.emitted snapshot) = [] ↔
      ((accepted (nodes.mapIdx settleDeclaration)).map Emitted.address).Nodup := by
  have hperm := (emitted_perm config snapshot).map Emitted.address
  rw [duplicates_eq_nil_iff, accepted_settleDeclaration hn, hperm.nodup_iff]

end Config

/-- A run over a loaded document has no warnings exactly when the document is intact. -/
theorem Config.warnings_eq_nil_iff (config : Config) {document : Json} {snapshot : Snapshot}
    {fields : Json.Fields} {nodes edges : List Json} (h : Snapshot.load document = .ok snapshot)
    (hd : document = .object fields) (hnodes : Snapshot.ArrayAt fields "nodes" nodes)
    (hedges : Snapshot.ArrayAt fields "edges" edges) :
    (config.generate snapshot).warnings = [] ↔
      ∃ emitted links, Intact config.ordering nodes edges emitted links := by
  obtain ⟨fields, _, _, rfl, hnodes', hedges', hn, he, hw⟩ := Snapshot.load_spec h
  cases hd
  obtain rfl := hnodes.unique hnodes'
  obtain rfl := hedges.unique hedges'
  have hdeclared : ∀ emitted, (rejected (nodes.mapIdx settleDeclaration) = [] ∧
        accepted (nodes.mapIdx settleDeclaration) = emitted) ↔
      List.Forall₂ (fun v e => Emitted.ComesFrom e v) nodes emitted := by
    intro emitted
    rw [← eq_map_ok_iff]
    exact mapIdx_eq_map_ok_iff settleDeclaration_eq_ok_iff
  have hkept : ∀ links, (rejected (edges.mapIdx Snapshot.settleEdge) = [] ∧ snapshot.edges = links) ↔
      List.Forall₂ (fun v link => Edge.decode v = .ok link) edges links := by
    intro links
    rw [he, ← eq_map_ok_iff]
    exact mapIdx_eq_map_ok_iff fun _ _ _ => Snapshot.settle_eq_ok_iff
  rw [warnings_generate_eq_nil_iff config hn hw, arrange_snd_eq_nil_iff, duplicates_emitted_eq_nil_iff config hn]
  constructor
  · rintro ⟨hr, hre, hacyclic, hdistinct⟩
    rw [candidates_of_rejected_eq_nil hn hr, List.map_map] at hacyclic
    exact ⟨_, _, (hdeclared _).1 ⟨hr, rfl⟩, (hkept _).1 ⟨hre, rfl⟩, hdistinct, hacyclic⟩
  · rintro ⟨emitted, links, hintact⟩
    obtain ⟨hr, rfl⟩ := (hdeclared emitted).2 hintact.nodes
    obtain ⟨hre, rfl⟩ := (hkept links).2 hintact.edges
    rw [candidates_of_rejected_eq_nil hn hr, List.map_map]
    exact ⟨hr, hre, hintact.acyclic, hintact.distinct⟩

end CloudCanvas
