/-
Runs as pure functions of the snapshot. The caches that a run hands on make no difference, and neither
do its early ends: its declarations and its warnings are given by the same equations, however it ends.
-/
import CloudCanvas.Generation.Run
import CloudCanvas.Proofs.Emission.Declaration
import CloudCanvas.Proofs.Graph.Loading
import CloudCanvas.Proofs.Graph.Precedence
import CloudCanvas.Proofs.Graph.Reference

namespace CloudCanvas

open CloudCanvas.Graph

/-! ## Screening -/

theorem filterMap_candidate? (records : List Record) :
    records.filterMap Record.candidate? = accepted (records.map Record.screen) := by
  unfold accepted
  rw [List.filterMap_map]
  refine List.filterMap_congr fun record _ => ?_
  rw [Function.comp_apply, Record.candidate?]
  cases record.screen <;> rfl

theorem filterMap_warning? (records : List Record) :
    records.filterMap Record.warning? = rejected (records.map Record.screen) := by
  unfold rejected
  rw [List.filterMap_map]
  refine List.filterMap_congr fun record _ => ?_
  rw [Function.comp_apply, Record.warning?]
  cases record.screen <;> rfl

theorem Graph.Record.screen_eq_ok_iff {record : Record} {candidate : Candidate} :
    record.screen = .ok candidate ↔
      record.toNode = .ok candidate.node ∧ candidate.node.kind? = some candidate.kind := by
  obtain ⟨kind, node⟩ := candidate
  unfold screen
  cases record.toNode with
  | error defect => simp
  | ok found =>
    dsimp only
    rw [Except.ok.injEq]
    cases hk : found.kind? with
    | none =>
      constructor
      · intro h
        cases h
      · rintro ⟨rfl, h⟩
        rw [hk] at h
        cases h
    | some supported =>
      rw [Except.ok.injEq, Candidate.mk.injEq]
      constructor
      · rintro ⟨rfl, rfl⟩
        exact ⟨rfl, hk⟩
      · rintro ⟨rfl, h⟩
        rw [hk] at h
        exact ⟨Option.some.inj h, rfl⟩

/-! ## Order -/

theorem filterMap_getElem?_range {α : Type} (as : List α) :
    ((List.range as.length).filterMap fun i => as[i]?) = as := by
  induction as with
  | nil => rfl
  | cons a as ih =>
    rw [List.length_cons, List.range_succ_eq_map, List.filterMap_cons, List.filterMap_map]
    simpa [Function.comp_def] using ih

/-- No candidate is lost or doubled when candidates are put into order. -/
theorem arrange_perm (ordering : BlockOrdering) (edges : List Edge) (candidates : List Candidate) :
    (arrange ordering edges candidates).1.Perm candidates := by
  cases ordering with
  | input => exact List.Perm.refl _
  | dependency =>
    unfold arrange
    cases ho : order? (candidates.map (·.node.id)) edges with
    -- a cycle: the candidates stay as they are
    | none => exact List.Perm.refl _
    | some positions =>
      have hp := (perm_of_order? ho).filterMap fun i => candidates[i]?
      rw [List.length_map, filterMap_getElem?_range] at hp
      exact hp

/-- The only warning about the order is the one about a cycle. -/
theorem mem_arrange_snd {ordering : BlockOrdering} {edges : List Edge} {candidates : List Candidate}
    {w : Warning} (h : w ∈ (arrange ordering edges candidates).2) : w = cycleWarning := by
  unfold arrange at h
  split at h
  · cases h
  · split at h
    · cases h
    · exact List.mem_singleton.1 h

theorem arrange_nil (ordering : BlockOrdering) (edges : List Edge) :
    arrange ordering edges [] = ([], []) := by
  cases ordering with
  | input => rfl
  | dependency =>
    have ho : order? [] edges = some [] := by
      simp [order?, hasCycle, search, Sweep.start, Sweep.run, Sweep.step?]
    simp [arrange, ho]

/-! ## Emission -/

/-- What a candidate becomes: its declaration under its name, or the warning that it failed. -/
def Graph.Candidate.declare (candidate : Candidate) : Except Warning Emitted :=
  match Declaration.emit candidate.kind candidate.node.properties candidate.name with
  | .ok declaration => .ok ⟨candidate, candidate.name, declaration⟩
  | .error e => .error (candidate.node.failed e)

/-- Emission treats every candidate by itself: the cache makes no difference, and stays faithful. -/
theorem emitEach_spec (candidates : List Candidate) {names : Naming.Cache} (h : names.Faithful) :
    (emitEach candidates names).1 =
        (accepted (candidates.map Candidate.declare), rejected (candidates.map Candidate.declare)) ∧
      (emitEach candidates names).2.Faithful := by
  induction candidates generalizing names with
  | nil => exact ⟨rfl, h⟩
  | cons candidate rest ih =>
    obtain ⟨hrest, hn⟩ := ih (h.nameFor candidate.node.namingSource)
    have hname := Naming.Cache.nameFor_fst h candidate.node.namingSource
    unfold emitEach
    simp only [hname, hrest, List.map_cons]
    unfold Candidate.declare Candidate.name
    cases Declaration.emit candidate.kind candidate.node.properties
        (Naming.sanitize candidate.node.namingSource) with
    | ok declaration => exact ⟨rfl, hn⟩
    | error e => exact ⟨rfl, hn⟩

/-- A candidate is declared as it is, under its name. -/
theorem eq_of_declare {candidate : Candidate} {e : Emitted} (h : candidate.declare = .ok e) :
    e.candidate = candidate ∧ e.name = candidate.name ∧
      Declaration.emit candidate.kind candidate.node.properties candidate.name = .ok e.declaration := by
  unfold Candidate.declare at h
  split at h
  · rename_i declaration hd
    cases h
    exact ⟨rfl, by dsimp only, hd⟩
  · cases h

theorem declare_eq_ok_iff {candidate : Candidate} {e : Emitted} :
    candidate.declare = .ok e ↔ e.candidate = candidate ∧ e.name = candidate.name ∧
      Declaration.emit candidate.kind candidate.node.properties candidate.name = .ok e.declaration := by
  refine ⟨eq_of_declare, ?_⟩
  rintro ⟨rfl, hname, hemit⟩
  unfold Candidate.declare
  rw [hemit, ← hname]

theorem exists_declare_iff {candidate : Candidate} :
    (∃ e, candidate.declare = .ok e) ↔ ∃ declaration,
      Declaration.emit candidate.kind candidate.node.properties candidate.name = .ok declaration := by
  constructor
  · rintro ⟨e, h⟩
    exact ⟨_, (eq_of_declare h).2.2⟩
  · rintro ⟨declaration, h⟩
    unfold Candidate.declare
    rw [h]
    exact ⟨_, rfl⟩

/-! ## Tags and references -/

/-- A declaration with its tags and the references into its node from among targets. -/
def Config.finish (config : Config) (edges : List Edge) (targets : List Candidate) (e : Emitted) :
    Finished :=
  ⟨e, e.declaration.finish (config.tags e) (referencesInto targets e.candidate.node.id edges),
    (dependencyIds e.candidate.node.id edges).filter fun id =>
      ((⟨targets⟩ : Resolver).target? id).isNone⟩

/-- A declaration is finished by the ids on which its node depends and the addresses that they stand for. -/
theorem Config.finish_eq_finish {edges links : List Edge} {targets others : List Candidate} {e : Emitted}
    (hids : dependencyIds e.candidate.node.id edges = dependencyIds e.candidate.node.id links)
    (ht : ∀ source ∈ dependencyIds e.candidate.node.id links,
      ((⟨targets⟩ : Resolver).target? source).map Candidate.address =
        ((⟨others⟩ : Resolver).target? source).map Candidate.address) (config : Config) :
    config.finish edges targets e = config.finish links others e := by
  have hnone : ∀ source ∈ dependencyIds e.candidate.node.id links,
      ((⟨targets⟩ : Resolver).target? source).isNone = ((⟨others⟩ : Resolver).target? source).isNone := by
    intro source hs
    rw [← Option.isNone_map (f := Candidate.address), ht source hs, Option.isNone_map]
  unfold finish
  rw [referencesInto_eq_filterMap, referencesInto_eq_filterMap, hids, List.filterMap_congr ht,
    List.filter_congr hnone]

theorem finishEach_spec (config : Config) (edges : List Edge) (targets : List Candidate)
    (emitted : List Emitted) {names : Naming.Cache} (h : names.Faithful) :
    (finishEach config edges ⟨targets⟩ emitted names).1 = emitted.map (config.finish edges targets) := by
  induction emitted generalizing names with
  | nil => rfl
  | cons e rest ih =>
    have hspec := (⟨targets⟩ : Resolver).resolve_spec (dependencyIds e.candidate.node.id edges) h
    have href := (⟨targets⟩ : Resolver).references_resolve_dependencyIds e.candidate.node.id edges h
    unfold finishEach
    simp only [List.map_cons, ih hspec.2.2, href, hspec.2.1]
    rfl

/-- What holds of a declaration that is finished with the references into its node from among targets,
along edges. -/
structure Finished.Sound (targets : List Candidate) (edges : List Edge) (f : Finished) : Prop where
  declared : f.emitted.candidate.declare = .ok f.emitted
  named : f.emitted.name = f.emitted.candidate.name
  primary : f.declaration.primary.Declares f.emitted.candidate.kind.declarationType f.emitted.name
  dependsOn : f.declaration.primary.values "depends_on" =
    if referencesInto targets f.emitted.candidate.node.id edges = [] then []
    else [.references (referencesInto targets f.emitted.candidate.node.id edges)]
  literals : ∀ key ≠ "depends_on", ∀ value ∈ f.declaration.primary.values key, value.IsLiteral
  companions : ∀ block ∈ f.declaration.companions,
    f.emitted.candidate.kind = .s3 ∧ Bucket.Companion f.emitted.name block

theorem Graph.Candidate.isIdentifier_name (candidate : Candidate) :
    Naming.IsIdentifier candidate.name.toList := by
  have h := Naming.isIdentifier_sanitize candidate.node.namingSource
  rw [Candidate.name]
  exact h

theorem Graph.Candidate.isReference_address (candidate : Candidate) :
    Hcl.IsReference candidate.address := by
  have hn := Hcl.isIdentifier_of_naming candidate.isIdentifier_name
  exact Hcl.isReference_pair (Declaration.isIdentifier_declarationType candidate.kind) hn

theorem shape_of_declare {e : Emitted} (h : e.candidate.declare = .ok e) :
    e.declaration.Shape e.candidate.kind e.name := by
  obtain ⟨-, hname, hemit⟩ := eq_of_declare h
  rw [hname]
  exact Declaration.shape_of_emit hemit

theorem sound_finish (config : Config) (edges : List Edge) (targets : List Candidate) {e : Emitted}
    (h : e.candidate.declare = .ok e) : (config.finish edges targets e).Sound targets edges := by
  obtain ⟨-, hname, -⟩ := eq_of_declare h
  have hshape := shape_of_declare h
  have hid : Naming.IsIdentifier e.name.toList := by
    rw [hname]; exact e.candidate.isIdentifier_name
  refine ⟨h, hname, hshape.declares hid fun r hr => ?_, hshape.values_dependsOn _ _,
    fun key hk => hshape.values_finish hk _ _, hshape.companions⟩
  obtain ⟨candidate, -, rfl⟩ := exists_target_of_mem_referencesInto hr
  exact candidate.isReference_address

/-- The tags of a declaration are those of the configuration. -/
theorem maps_finish (config : Config) (edges : List Edge) (targets : List Candidate) {e : Emitted}
    (h : e.candidate.declare = .ok e) :
    (config.finish edges targets e).declaration.primary.maps "tags" = [config.tags e] :=
  (shape_of_declare h).maps_finish _ _

/-- Every block of a finished declaration declares a resource. -/
theorem Finished.Sound.declares {targets : List Candidate} {edges : List Edge} {f : Finished}
    (h : f.Sound targets edges) : ∀ block ∈ f.declaration.blocks, ∃ type name, block.Declares type name := by
  intro block hb
  rcases List.mem_cons.1 hb with rfl | hb
  · exact ⟨_, _, h.primary⟩
  · obtain ⟨type, suffix, hd⟩ := (h.companions block hb).2.declares h.primary.named
    exact ⟨type, _, hd⟩

/-! ## Runs -/

theorem Run.text_of_blocks_ne_nil {run : Run} (h : run.blocks ≠ []) :
    run.text = "\n\n".intercalate (run.blocks.map Hcl.Block.text) := by
  unfold Run.text
  split
  · rename_i ho
    exact absurd (by simp [Run.blocks, Run.finished, ho]) h
  · rename_i ho
    exact absurd (by simp [Run.blocks, Run.finished, ho]) h
  · rfl

/-- The nodes that a run has emitted, in order. -/
def Run.nodes (run : Run) : List Candidate :=
  run.finished.map fun f => f.emitted.candidate

namespace Config

variable (config : Config) (snapshot : Snapshot)

/-- The candidates of a snapshot in the order of a configuration. -/
def candidates : List Candidate :=
  (arrange config.ordering snapshot.edges (accepted (snapshot.nodes.map Record.screen))).1

/-- What is emitted for a snapshot, in order. -/
def emitted : List Emitted :=
  accepted ((config.candidates snapshot).map Candidate.declare)

/-- The nodes that are emitted for a snapshot, in order. -/
def targets : List Candidate :=
  (config.emitted snapshot).map (·.candidate)

variable {config snapshot}

theorem nodes_eq_nil_of_isEmptyGraph (h : snapshot.isEmptyGraph = true) : snapshot.nodes = [] := by
  unfold Snapshot.isEmptyGraph at h
  simp only [Bool.and_eq_true, List.isEmpty_iff] at h
  exact h.1

theorem candidates_perm (config : Config) (snapshot : Snapshot) :
    (config.candidates snapshot).Perm (accepted (snapshot.nodes.map Record.screen)) :=
  arrange_perm _ _ _

theorem candidates_eq_nil_of_isEmptyGraph (h : snapshot.isEmptyGraph = true) :
    config.candidates snapshot = [] := by
  unfold candidates
  rw [nodes_eq_nil_of_isEmptyGraph h]
  exact congrArg Prod.fst (arrange_nil _ _)

/-- How a run ends, and with which declarations and warnings. -/
theorem run_spec (config : Config) (snapshot : Snapshot) :
    (config.run snapshot).finished =
        (config.emitted snapshot).map (config.finish snapshot.edges (config.targets snapshot)) ∧
      (config.run snapshot).warnings =
        snapshot.loadWarnings ++ rejected (snapshot.nodes.map Record.screen) ++
          (arrange config.ordering snapshot.edges (accepted (snapshot.nodes.map Record.screen))).2 ++
          rejected ((config.candidates snapshot).map Candidate.declare) ++
          duplicates [] (config.emitted snapshot) := by
  by_cases hempty : snapshot.isEmptyGraph = true
  · -- without nodes all that is left are the load warnings
    have hnodes := nodes_eq_nil_of_isEmptyGraph hempty
    have hcandidates : config.candidates snapshot = [] := candidates_eq_nil_of_isEmptyGraph hempty
    unfold run
    rw [if_pos hempty]
    simp [Run.finished, emitted, hcandidates, hnodes, arrange_nil, accepted, rejected, duplicates]
  · obtain ⟨hemit, hnames⟩ := emitEach_spec (config.candidates snapshot) Naming.Cache.faithful_empty
    have hfinish := finishEach_spec config snapshot.edges (config.targets snapshot)
      (config.emitted snapshot) hnames
    unfold candidates at hemit hfinish
    unfold run
    rw [if_neg hempty, filterMap_candidate?, filterMap_warning?]
    simp only [hemit]
    split
    -- nothing emitted: the run stops short of tags and duplicates, which would add nothing
    · rename_i hnone
      have hnil : config.emitted snapshot = [] := by simpa [emitted, candidates] using hnone
      simp [Run.finished, hnil, duplicates, candidates]
    · exact ⟨hfinish, rfl⟩

theorem declare_of_mem_emitted {e : Emitted} (h : e ∈ config.emitted snapshot) :
    e.candidate.declare = .ok e := by
  obtain ⟨candidate, -, hd⟩ := List.mem_map.1 (mem_accepted.1 h)
  rw [(eq_of_declare hd).1]
  exact hd

/-- The declarations of a run are those of what is emitted, in the same order. -/
theorem map_emitted_finished : (config.run snapshot).finished.map (·.emitted) = config.emitted snapshot := by
  rw [(run_spec config snapshot).1, List.map_map]
  exact List.map_id _

theorem nodes_run (config : Config) (snapshot : Snapshot) :
    (config.run snapshot).nodes = config.targets snapshot := by
  rw [targets, ← map_emitted_finished, List.map_map]
  rfl

/-- Every declaration of a run is finished with the references into its node from among all nodes that
are emitted. -/
theorem sound_of_mem_finished {f : Finished} (h : f ∈ (config.run snapshot).finished) :
    f.Sound (config.targets snapshot) snapshot.edges := by
  rw [(run_spec config snapshot).1] at h
  obtain ⟨e, he, rfl⟩ := List.mem_map.1 h
  exact sound_finish _ _ _ (declare_of_mem_emitted he)

/-- A node is emitted exactly when some record screens to it and it can be declared. -/
theorem mem_targets_iff {candidate : Candidate} :
    candidate ∈ config.targets snapshot ↔
      (∃ record ∈ snapshot.nodes, record.screen = .ok candidate) ∧ ∃ e, candidate.declare = .ok e := by
  have hscreen : candidate ∈ config.candidates snapshot ↔
      ∃ record ∈ snapshot.nodes, record.screen = .ok candidate := by
    rw [(candidates_perm config snapshot).mem_iff, mem_accepted, List.mem_map]
  rw [← hscreen]
  constructor
  · intro h
    obtain ⟨e, he, rfl⟩ := List.mem_map.1 h
    obtain ⟨candidate, hc, hd⟩ := List.mem_map.1 (mem_accepted.1 he)
    rw [(eq_of_declare hd).1]
    exact ⟨hc, e, hd⟩
  · rintro ⟨hc, e, hd⟩
    exact List.mem_map.2 ⟨e, mem_accepted.2 (List.mem_map.2 ⟨candidate, hc, hd⟩), (eq_of_declare hd).1⟩

theorem declares_of_mem_blocks {block : Hcl.Block} (h : block ∈ (config.run snapshot).blocks) :
    ∃ type name, block.Declares type name := by
  obtain ⟨f, hf, hb⟩ := List.mem_flatMap.1 h
  exact (sound_of_mem_finished hf).declares block hb

end Config

end CloudCanvas
