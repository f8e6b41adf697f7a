/-
Editing the properties of one node. The names, the order and the references of a run come from ids, kinds
and labels, none of which is read from properties. So two runs over snapshots that differ in the properties
of one record have the same candidates at the same places, but for the edited one, and every other node is
finished in both with the same tags and references.
-/
import CloudCanvas.Proofs.Generation.Outcome
import CloudCanvas.Proofs.Generation.Skipping

namespace CloudCanvas

open CloudCanvas.Graph CloudCanvas.Hcl

/-- The snapshot with other properties of the record at an index. -/
def Graph.Snapshot.withProperties (snapshot : Snapshot) (index : Nat) (properties : Option Json) : Snapshot :=
  { snapshot with nodes := snapshot.nodes.modify index fun record => { record with properties } }

/-! ## The edited candidate -/

/-- Candidates that may differ in their properties and in nothing that a name or a reference is made of. -/
structure Graph.Candidate.Alike (one other : Candidate) : Prop where
  kind : one.kind = other.kind
  id : one.node.id = other.node.id
  label : one.node.label = other.node.label

namespace Graph.Candidate.Alike

variable {one other : Candidate}

theorem name (h : one.Alike other) : one.name = other.name := by
  unfold Candidate.name Node.namingSource
  rw [h.id, h.label]

theorem address (h : one.Alike other) : one.address = other.address := by
  unfold Candidate.address
  rw [h.kind, h.name]

/-- An id stands for the same address, whichever of the two candidates is among the targets. -/
theorem target? (h : one.Alike other) (front back : List Candidate) (id : String) :
    ((⟨front ++ one :: back⟩ : Resolver).target? id).map Candidate.address =
      ((⟨front ++ other :: back⟩ : Resolver).target? id).map Candidate.address := by
  unfold Resolver.target?
  rw [List.find?_append, List.find?_append]
  cases front.find? fun candidate => candidate.node.id == id with
  | some candidate => rfl
  | none =>
    rw [Option.none_or, Option.none_or, List.find?_cons, List.find?_cons, h.id]
    split
    · exact congrArg some h.address
    · rfl

end Graph.Candidate.Alike

theorem Graph.Record.exists_properties? {record : Record}
    (h : ∀ v ∈ record.properties, v.shape = .null ∨ v.shape = .object) :
    ∃ fields, record.properties? = some fields := by
  unfold properties?
  cases hp : record.properties with
  | none => exact ⟨[], rfl⟩
  | some v =>
    rcases h v hp with hs | hs
    · cases v with
      | null => exact ⟨[], rfl⟩
      | boolean b | number n | string s | array items | object fields => cases hs
    · cases v with
      | object fields => exact ⟨fields, rfl⟩
      | null | boolean b | number n | string s | array items => cases hs

/-- With other properties a record is screened as before: it has the same defect, or it becomes a candidate
that is alike. -/
theorem Graph.Record.screen_edited {record : Record} {properties : Option Json}
    (hold : ∀ v ∈ record.properties, v.shape = .null ∨ v.shape = .object)
    (hnew : ∀ v ∈ properties, v.shape = .null ∨ v.shape = .object) :
    (∃ w, record.screen = .error w ∧ screen { record with properties } = .error w) ∨
      ∃ one other, record.screen = .ok one ∧ screen { record with properties } = .ok other ∧
        one.Alike other := by
  obtain ⟨fields, hfields⟩ := exists_properties? hold
  obtain ⟨fields', hfields'⟩ : ∃ fields, Record.properties? { record with properties } = some fields :=
    exists_properties? hnew
  unfold screen toNode
  rw [hfields, hfields']
  cases present? record.id with
  | none => exact .inl ⟨_, rfl, rfl⟩
  | some id =>
    cases present? record.kind with
    | none => exact .inl ⟨_, rfl, rfl⟩
    | some tag =>
      cases record.label with
      | none => exact .inl ⟨_, rfl, rfl⟩
      | some label =>
        unfold Node.kind?
        dsimp only
        cases Kind.ofTag? tag with
        | none => exact .inl ⟨_, rfl, rfl⟩
        | some kind => exact .inr ⟨_, _, rfl, rfl, rfl, rfl, rfl⟩

/-! ## Runs around the edited candidate -/

namespace Config

variable {config : Config} {snapshot other : Snapshot}

/-- Candidates that are alike take the same place in the order. -/
theorem candidates_around (hedges : other.edges = snapshot.edges) {front back : List Candidate}
    {one two : Candidate} (hone : snapshot.candidates = front ++ one :: back)
    (htwo : other.candidates = front ++ two :: back) (h : one.Alike two) (config : Config) :
    ∃ before after, config.candidates snapshot = before ++ one :: after ∧
      config.candidates other = before ++ two :: after := by
  have hlength : other.candidates.length = snapshot.candidates.length := by
    simp [hone, htwo]
  have hids : other.ids = snapshot.ids := by
    simp [Snapshot.ids, hone, htwo, h.id]
  have hpositions : config.positions other = config.positions snapshot := by
    unfold positions
    rw [hlength, hids, hedges]
  have hperm := config.positions_perm snapshot
  have hmem : front.length ∈ config.positions snapshot := by
    rw [hperm.mem_iff, List.mem_range, hone]
    simp
  obtain ⟨before, after, hsplit⟩ := List.append_of_mem hmem
  have hnodup := hperm.nodup_iff.2 List.nodup_range
  rw [hsplit, List.nodup_middle, List.nodup_cons, List.mem_append, not_or] at hnodup
  -- away from the place of the edited candidate the two lists agree
  have haway : ∀ p, p ≠ front.length → other.candidates[p]? = snapshot.candidates[p]? := by
    intro p hp
    rw [hone, htwo, List.getElem?_append, List.getElem?_append]
    split
    · rfl
    · rw [List.getElem?_cons, List.getElem?_cons, if_neg (by omega), if_neg (by omega)]
  have hfront : snapshot.candidates[front.length]? = some one := by
    rw [hone, List.getElem?_append_right (Nat.le_refl _), Nat.sub_self, List.getElem?_cons_zero]
  have hfront' : other.candidates[front.length]? = some two := by
    rw [htwo, List.getElem?_append_right (Nat.le_refl _), Nat.sub_self, List.getElem?_cons_zero]
  refine ⟨before.filterMap fun p => snapshot.candidates[p]?, after.filterMap fun p => snapshot.candidates[p]?,
    ?_, ?_⟩
  · rw [candidates_eq_filterMap, hsplit, List.filterMap_append, List.filterMap_cons, hfront]
  · rw [candidates_eq_filterMap, hpositions, hsplit, List.filterMap_append, List.filterMap_cons, hfront']
    rw [List.filterMap_congr fun p hp => haway p (ne_of_mem_of_not_mem hp hnodup.1.1),
      List.filterMap_congr fun p hp => haway p (ne_of_mem_of_not_mem hp hnodup.1.2)]

theorem emitted_of_candidates {before after : List Candidate} {candidate : Candidate}
    (h : config.candidates snapshot = before ++ candidate :: after) :
    config.emitted snapshot =
      accepted (before.map Candidate.declare ++ candidate.declare :: after.map Candidate.declare) := by
  unfold emitted
  rw [h, List.map_append, List.map_cons]

theorem tags_eq {e e' : Emitted} (h : e.candidate.Alike e'.candidate) (hname : e.name = e'.name)
    (config : Config) : config.tags e = config.tags e' := by
  unfold tags
  rw [h.label, hname]

/-- Every declaration is finished as before, those beside the edited candidate and its own. -/
theorem finished_around (hedges : other.edges = snapshot.edges) {before after : List Emitted}
    {e e' : Emitted} (he : config.emitted snapshot = before ++ e :: after)
    (he' : config.emitted other = before ++ e' :: after) (h : e.candidate.Alike e'.candidate) :
    (config.run snapshot).finished =
        (before ++ e :: after).map (config.finish snapshot.edges (config.targets snapshot)) ∧
      (config.run other).finished =
        (before ++ e' :: after).map (config.finish snapshot.edges (config.targets snapshot)) := by
  have hfinish : config.finish other.edges (config.targets other) =
      config.finish snapshot.edges (config.targets snapshot) := by
    funext g
    rw [hedges]
    refine finish_eq_finish rfl (fun source _ => ?_) config
    unfold targets
    rw [he, he', List.map_append, List.map_append, List.map_cons, List.map_cons]
    exact (h.target? _ _ source).symm
  constructor
  · rw [(run_spec config snapshot).1, he]
  · rw [(run_spec config other).1, he', hfinish]

/-- Candidates that are alike are finished with one header, the same tags and the same dependencies. -/
theorem finish_alike {e e' : Emitted} (h : e.candidate.Alike e'.candidate) (hd : e.candidate.declare = .ok e)
    (hd' : e'.candidate.declare = .ok e') (config : Config) (edges : List Edge) (targets : List Candidate) :
    (config.finish edges targets e).declaration.primary.headerLine =
        (config.finish edges targets e').declaration.primary.headerLine ∧
      (∃ tags, (config.finish edges targets e).declaration.primary.maps "tags" = [tags] ∧
        (config.finish edges targets e').declaration.primary.maps "tags" = [tags]) ∧
      (config.finish edges targets e).declaration.primary.values "depends_on" =
        (config.finish edges targets e').declaration.primary.values "depends_on" := by
  have hs := sound_finish config edges targets hd
  have hs' := sound_finish config edges targets hd'
  have hname : e.name = e'.name := by
    rw [(eq_of_declare hd).2.1, (eq_of_declare hd').2.1]
    exact h.name
  refine ⟨?_, ⟨config.tags e, maps_finish config edges targets hd, ?_⟩, ?_⟩
  · rw [hs.primary.headerLine, hs'.primary.headerLine]
    show declarationHeader e.candidate.kind.declarationType e.name =
      declarationHeader e'.candidate.kind.declarationType e'.name
    rw [h.kind, hname]
  · rw [tags_eq h hname]
    exact maps_finish config edges targets hd'
  · have hid : (config.finish edges targets e).emitted.candidate.node.id =
        (config.finish edges targets e').emitted.candidate.node.id := h.id
    rw [hs.dependsOn, hs'.dependsOn, hid]

end Config

/-! ## Edited snapshots -/

theorem Graph.Snapshot.exists_split_withProperties {snapshot : Snapshot} {index : Nat} {record : Record}
    (h : snapshot.nodes[index]? = some record) (properties : Option Json) :
    ∃ front back, snapshot.nodes = front ++ record :: back ∧
      (snapshot.withProperties index properties).nodes = front ++ { record with properties } :: back := by
  obtain ⟨hlt, rfl⟩ := List.getElem?_eq_some_iff.1 h
  refine ⟨snapshot.nodes.take index, snapshot.nodes.drop (index + 1), ?_, ?_⟩
  · rw [List.getElem_cons_drop, List.take_append_drop]
  · exact List.modify_eq_take_cons_drop hlt

theorem Graph.Snapshot.isEmptyGraph_withProperties (snapshot : Snapshot) (index : Nat)
    (properties : Option Json) :
    (snapshot.withProperties index properties).isEmptyGraph = snapshot.isEmptyGraph := by
  unfold isEmptyGraph withProperties
  dsimp only
  congr 1
  rw [Bool.eq_iff_iff, List.isEmpty_iff, List.isEmpty_iff, ← List.length_eq_zero_iff, List.length_modify,
    List.length_eq_zero_iff]

namespace Config

variable {config : Config} {snapshot : Snapshot} {index : Nat} {record : Record} {properties : Option Json}

/-- A record that stays out of the output leaves it as it is; one that stays in it keeps its place. -/
theorem emitted_withProperties (config : Config) (h : snapshot.nodes[index]? = some record)
    (hold : ∀ v ∈ record.properties, v.shape = .null ∨ v.shape = .object)
    (hnew : ∀ v ∈ properties, v.shape = .null ∨ v.shape = .object)
    (hboth : (∃ e, record.declare = .ok e) ↔ ∃ e, Record.declare { record with properties } = .ok e) :
    ((¬ ∃ e, record.declare = .ok e) ∧
      config.emitted (snapshot.withProperties index properties) = config.emitted snapshot) ∨
    ∃ e e' before after, record.declare = .ok e ∧ Record.declare { record with properties } = .ok e' ∧
      e.candidate.Alike e'.candidate ∧ config.emitted snapshot = before ++ e :: after ∧
      config.emitted (snapshot.withProperties index properties) = before ++ e' :: after := by
  obtain ⟨front, back, hnodes, hedited⟩ := snapshot.exists_split_withProperties h properties
  unfold Record.declare at hboth ⊢
  rcases Record.screen_edited hold hnew with ⟨w, hw, hw'⟩ | ⟨one, two, hone, htwo, halike⟩
  · -- no candidate before, and none after
    have hcandidates : accepted ((snapshot.withProperties index properties).nodes.map Record.screen) =
        accepted (snapshot.nodes.map Record.screen) := by
      rw [hnodes, hedited, List.map_append, List.map_append, List.map_cons, List.map_cons, hw, hw']
    refine .inl ⟨?_, ?_⟩
    · rw [hw]
      rintro ⟨e, he⟩
      cases he
    · unfold emitted candidates
      rw [hcandidates]
      rfl
  · have hbefore : snapshot.candidates =
        accepted (front.map Record.screen) ++ one :: accepted (back.map Record.screen) := by
      unfold Snapshot.candidates
      rw [hnodes, List.map_append, List.map_cons, hone, accepted_around_ok]
    have hafter : (snapshot.withProperties index properties).candidates =
        accepted (front.map Record.screen) ++ two :: accepted (back.map Record.screen) := by
      unfold Snapshot.candidates
      rw [hedited, List.map_append, List.map_cons, htwo, accepted_around_ok]
    have hedges : (snapshot.withProperties index properties).edges = snapshot.edges := rfl
    obtain ⟨before, after, hcandidates, hcandidates'⟩ :=
      candidates_around hedges hbefore hafter halike config
    have hemitted := emitted_of_candidates hcandidates
    have hemitted' := emitted_of_candidates hcandidates'
    rw [hone, htwo] at hboth ⊢
    change (∃ e, one.declare = .ok e) ↔ ∃ e, two.declare = .ok e at hboth
    cases hd : one.declare with
    | ok e =>
      obtain ⟨e', hd'⟩ := hboth.1 ⟨e, hd⟩
      rw [hd, accepted_around_ok] at hemitted
      rw [hd', accepted_around_ok] at hemitted'
      refine .inr ⟨e, e', _, _, hd, hd', ?_, hemitted, hemitted'⟩
      rw [(eq_of_declare hd).1, (eq_of_declare hd').1]
      exact halike
    | error w =>
      have hnone : ¬ ∃ e, one.declare = .ok e := by
        rw [hd]
        rintro ⟨e, he⟩
        cases he
      cases hd' : two.declare with
      | ok e' => exact absurd (hboth.2 ⟨e', hd'⟩) hnone
      | error w' =>
        rw [hd, accepted_around_error] at hemitted
        rw [hd', accepted_around_error] at hemitted'
        exact .inl ⟨hnone, hemitted'.trans hemitted.symm⟩

end Config

theorem Run.text_of_finished_ne_nil {run : Run} (h : run.finished ≠ []) :
    run.text = "\n\n".intercalate (run.finished.flatMap fun f => f.declaration.blocks.map Block.text) := by
  have hblocks : run.blocks ≠ [] := by
    obtain ⟨f, rest, hf⟩ := List.exists_cons_of_ne_nil h
    unfold Run.blocks
    rw [hf, List.flatMap_cons]
    exact List.append_ne_nil_of_left_ne_nil (List.cons_ne_nil _ _) _
  rw [Run.text_of_blocks_ne_nil hblocks, Run.blocks, List.map_flatMap]

/-- Editing the properties of one node is local. Let two snapshots differ in the properties of one record,
absent, null or an object in both, and let this record be emitted in both or in neither. If in neither, all
declarations and the text stay as they are. If in both, the declarations of all other nodes, with all that
is rendered for them, are the same in the same order; the edited node stands at the same place among them,
and its primary block has the header, the tags and the dependencies that it had. -/
theorem edited_properties_stay_local (config : Config) {snapshot : Snapshot} {index : Nat} {record : Record}
    {properties : Option Json} (h : snapshot.nodes[index]? = some record)
    (hold : ∀ v ∈ record.properties, v.shape = .null ∨ v.shape = .object)
    (hnew : ∀ v ∈ properties, v.shape = .null ∨ v.shape = .object)
    (hboth : (∃ e, record.declare = .ok e) ↔ ∃ e, Record.declare { record with properties } = .ok e) :
    ((¬ ∃ e, record.declare = .ok e) →
      (config.run (snapshot.withProperties index properties)).finished = (config.run snapshot).finished ∧
      (config.generate (snapshot.withProperties index properties)).text = (config.generate snapshot).text) ∧
    ((∃ e, record.declare = .ok e) → ∃ before f f' after,
      (config.run snapshot).finished = before ++ f :: after ∧
      (config.run (snapshot.withProperties index properties)).finished = before ++ f' :: after ∧
      (config.generate snapshot).text = "\n\n".intercalate
        ((before ++ f :: after).flatMap fun g => g.declaration.blocks.map Block.text) ∧
      (config.generate (snapshot.withProperties index properties)).text = "\n\n".intercalate
        ((before ++ f' :: after).flatMap fun g => g.declaration.blocks.map Block.text) ∧
      record.declare = .ok f.emitted ∧ Record.declare { record with properties } = .ok f'.emitted ∧
      f.declaration.primary.headerLine = f'.declaration.primary.headerLine ∧
      (∃ tags, f.declaration.primary.maps "tags" = [tags] ∧ f'.declaration.primary.maps "tags" = [tags]) ∧
      f.declaration.primary.values "depends_on" = f'.declaration.primary.values "depends_on") := by
  have hedges : (snapshot.withProperties index properties).edges = snapshot.edges := rfl
  rcases config.emitted_withProperties h hold hnew hboth with
    ⟨hnone, hemitted⟩ | ⟨e, e', before, after, hd, hd', halike, he, he'⟩
  · have hfinished := Config.finished_run_congr hedges hemitted
    refine ⟨fun _ => ⟨hfinished, ?_⟩, fun hsome => absurd hsome hnone⟩
    show (config.run (snapshot.withProperties index properties)).text = (config.run snapshot).text
    rw [Config.text_run, Config.text_run, Config.blocks_run_congr hedges hemitted, hemitted,
      snapshot.isEmptyGraph_withProperties]
  · refine ⟨fun hnone => absurd ⟨e, hd⟩ hnone, fun _ => ?_⟩
    obtain ⟨hrun, hrun'⟩ := Config.finished_around hedges he he' halike
    rw [List.map_append, List.map_cons] at hrun hrun'
    have hmem : e ∈ config.emitted snapshot := by simp [he]
    have hmem' : e' ∈ config.emitted (snapshot.withProperties index properties) := by simp [he']
    have hheld := Config.declare_of_mem_emitted hmem
    have hheld' := Config.declare_of_mem_emitted hmem'
    refine ⟨_, _, _, _, hrun, hrun', ?_, ?_, hd, hd', Config.finish_alike halike hheld hheld' config _ _⟩
    · rw [← hrun]
      exact Run.text_of_finished_ne_nil (by rw [hrun]; simp)
    · rw [← hrun']
      exact Run.text_of_finished_ne_nil (by rw [hrun']; simp)

/-- Turning versioning off takes a block away from the bucket of that canvas and leaves the network, which
comes after it, as it is. -/
theorem invertedCanvas_without_versioning :
    ∃ record before f f' after, invertedCanvas.nodes[1]? = some record ∧
      (∀ v ∈ record.properties, v.shape = .null ∨ v.shape = .object) ∧ (∃ e, record.declare = .ok e) ∧
      (∃ e, Record.declare { record with properties := none } = .ok e) ∧
      ((Config.default.withOrdering .dependency).run invertedCanvas).finished = before ++ f :: after ∧
      ((Config.default.withOrdering .dependency).run (invertedCanvas.withProperties 1 none)).finished =
        before ++ f' :: after ∧
      f.declaration.primary.headerLine = f'.declaration.primary.headerLine ∧
      ((Config.default.withOrdering .dependency).generate invertedCanvas).blocks = 3 ∧
      ((Config.default.withOrdering .dependency).generate (invertedCanvas.withProperties 1 none)).blocks = 2 := by
  have hrecord : invertedCanvas.nodes[1]? =
      some (Node.toRecord ⟨"b", "s3", "Assets", [("versioning", .boolean true)]⟩) := rfl
  have hold : ∀ v ∈ (Node.toRecord ⟨"b", "s3", "Assets", [("versioning", .boolean true)]⟩).properties,
      v.shape = .null ∨ v.shape = .object := by
    intro v hv
    cases hv
    exact .inr rfl
  have hnew : ∀ v ∈ (none : Option Json), v.shape = .null ∨ v.shape = .object := by
    intro v hv
    cases hv
  have hsome : ∃ e, (Node.toRecord ⟨"b", "s3", "Assets", [("versioning", .boolean true)]⟩).declare = .ok e :=
    ⟨_, rfl⟩
  have hsome' : ∃ e, Record.declare { Node.toRecord ⟨"b", "s3", "Assets", [("versioning", .boolean true)]⟩ with
      properties := none } = .ok e := ⟨_, rfl⟩
  obtain ⟨before, f, f', after, hrun, hrun', -, -, -, -, hheader, -⟩ :=
    (edited_properties_stay_local (Config.default.withOrdering .dependency) hrecord hold hnew
      (iff_of_true hsome hsome')).2 hsome
  exact ⟨_, before, f, f', after, hrecord, hold, hsome, hsome', hrun, hrun', hheader, by decide +kernel,
    by decide +kernel⟩

end CloudCanvas
