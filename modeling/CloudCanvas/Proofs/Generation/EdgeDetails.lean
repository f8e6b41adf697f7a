/-
What a run does not read from the list of edges: the ids of edges, edges that end at no candidate, and the
order of edges into different nodes. Of the list, references read the sources of the edges into each node,
and the order reads the arcs between candidates, however they are listed. So lists that agree in these two
are generated alike, and agreeing in them is kept by any combination of such changes.
-/
import CloudCanvas.Proofs.Generation.Ordering
import CloudCanvas.Proofs.Generation.Outcome
import CloudCanvas.Proofs.Graph.Canonical
import Mathlib.Logic.Relation

namespace CloudCanvas

open CloudCanvas.Graph

namespace Graph

/-! ## Changes of a list of edges -/

/-- The edges into a node, in edge order. -/
def edgesInto (target : String) (edges : List Edge) : List Edge :=
  edges.filter fun edge => edge.target == target

/-- One change in a detail that does not concern the nodes with the given ids. -/
inductive DetailChange (ids : List String) : List Edge → List Edge → Prop
  /-- Edges are given other ids. -/
  | rename {edges others : List Edge}
      (hends : List.Forall₂ (fun edge other => edge.source = other.source ∧ edge.target = other.target)
        edges others) : DetailChange ids edges others
  /-- An edge is added whose source or target is none of the ids. -/
  | add {before after : List Edge} {edge : Edge} (hend : edge.source ∉ ids ∨ edge.target ∉ ids) :
      DetailChange ids (before ++ after) (before ++ edge :: after)
  /-- Edges are permuted, and those into each one node keep their order. -/
  | reorder {edges others : List Edge} (hperm : edges.Perm others)
      (hinto : ∀ target, edgesInto target edges = edgesInto target others) :
      DetailChange ids edges others

/-- Any combination of changes in details, made or taken back: an edge is removed by taking back that it
was added. -/
def SameButDetails (ids : List String) : List Edge → List Edge → Prop :=
  Relation.EqvGen (DetailChange ids)

/-! ## What is left of the edges -/

/-- Lists of edges that agree in the arcs between the nodes with the given ids and, for each of these, in
the sources among them of the edges into it. -/
structure Agree (ids : List String) (edges others : List Edge) : Prop where
  arcs : (arcs ids edges).Perm (arcs ids others)
  sources : ∀ id ∈ ids, (dependencyIds id edges).filter (ids.contains ·) =
    (dependencyIds id others).filter (ids.contains ·)

variable {ids : List String} {edges others : List Edge}

theorem arcs_eq_of_ends
    (h : List.Forall₂ (fun edge other => edge.source = other.source ∧ edge.target = other.target)
      edges others) : arcs ids edges = arcs ids others := by
  unfold arcs
  induction h with
  | nil => rfl
  | @cons edge other _ _ hends _ ih =>
    have harc : edge.arc? ids = other.arc? ids := by
      unfold Edge.arc?
      rw [hends.1, hends.2]
    rw [List.filterMap_cons, List.filterMap_cons, harc, ih]

theorem dependencyIds_eq_of_ends {id : String}
    (h : List.Forall₂ (fun edge other => edge.source = other.source ∧ edge.target = other.target)
      edges others) : dependencyIds id edges = dependencyIds id others := by
  unfold dependencyIds
  induction h with
  | nil => rfl
  | cons hends _ ih =>
    rw [List.filter_cons, List.filter_cons, hends.2]
    split
    · rw [List.map_cons, List.map_cons, hends.1, ih]
    · exact ih

theorem arc?_eq_none {edge : Edge} (h : edge.source ∉ ids ∨ edge.target ∉ ids) : edge.arc? ids = none := by
  cases ha : edge.arc? ids with
  | none => rfl
  | some arc =>
    obtain ⟨-, hs, ht⟩ := arc?_eq_some_iff.1 ha
    rcases h with h | h
    · exact absurd (List.mem_of_getElem? (getElem?_of_idxOf?_eq_some hs)) h
    · exact absurd (List.mem_of_getElem? (getElem?_of_idxOf?_eq_some ht)) h

/-- A change in a detail leaves the arcs and the sources as they are. -/
theorem DetailChange.agree (h : DetailChange ids edges others) : Agree ids edges others := by
  cases h with
  | rename hends =>
    constructor
    · rw [arcs_eq_of_ends hends]
    · intro id _
      rw [dependencyIds_eq_of_ends hends]
  | @add before after edge hend =>
    constructor
    · unfold Graph.arcs
      rw [List.filterMap_append, List.filterMap_append, List.filterMap_cons, arc?_eq_none hend]
    · intro id hid
      unfold dependencyIds
      rw [List.filter_append, List.filter_append, List.filter_cons]
      split
      · rename_i ht
        -- the edge ends at the node, so it is its source that is unknown
        have hsource : edge.source ∉ ids := by
          refine hend.resolve_right fun htarget => htarget ?_
          rw [beq_iff_eq.1 ht]
          exact hid
        simp [hsource]
      · rfl
  | reorder hperm hinto =>
    constructor
    · exact hperm.filterMap _
    · intro id _
      have hsame : dependencyIds id edges = dependencyIds id others :=
        congrArg (List.map Edge.source) (hinto id)
      rw [hsame]

/-- Any combination of changes leaves them as they are, by induction on the combination. -/
theorem SameButDetails.agree (h : SameButDetails ids edges others) : Agree ids edges others := by
  induction h with
  | rel _ _ hchange => exact hchange.agree
  | refl _ => exact ⟨List.Perm.refl _, fun _ _ => rfl⟩
  | symm _ _ _ ih => exact ⟨ih.arcs.symm, fun id hid => (ih.sources id hid).symm⟩
  | trans _ _ _ _ _ ih ih' =>
    exact ⟨ih.arcs.trans ih'.arcs, fun id hid => (ih.sources id hid).trans (ih'.sources id hid)⟩

/-- References read the sources that are targets, and no others. -/
theorem Agree.referencesInto (h : Agree ids edges others) {targets : List Candidate}
    (htargets : ∀ candidate ∈ targets, candidate.node.id ∈ ids) {id : String} (hid : id ∈ ids) :
    referencesInto targets id edges = referencesInto targets id others := by
  have hknown : ∀ edges, Graph.referencesInto targets id edges =
      ((dependencyIds id edges).filter (ids.contains ·)).filterMap fun source =>
        ((⟨targets⟩ : Resolver).target? source).map Candidate.address := by
    intro edges
    rw [referencesInto_eq_filterMap, List.filterMap_filter]
    refine List.filterMap_congr fun source _ => ?_
    split
    · rfl
    · rename_i hsource
      rw [List.contains_iff_mem] at hsource
      rw [Option.map_eq_none_iff, Resolver.target?_eq_none_iff]
      rintro candidate hc rfl
      exact hsource (htargets candidate hc)
  rw [hknown, hknown, h.sources id hid]

end Graph

/-! ## Runs -/

theorem arrange_eq_of_perm {edges others : List Edge} {candidates : List Candidate}
    (h : (arcs (candidates.map (·.node.id)) edges).Perm (arcs (candidates.map (·.node.id)) others))
    (ordering : BlockOrdering) : arrange ordering edges candidates = arrange ordering others candidates := by
  unfold arrange
  rw [order?_eq_of_perm h]

namespace Config

variable {config : Config} {snapshot : Snapshot} {others : List Edge}

theorem id_mem_ids {candidate : Candidate} (h : candidate ∈ config.targets snapshot) :
    candidate.node.id ∈ snapshot.ids := by
  obtain ⟨⟨record, hr, hs⟩, -⟩ := mem_targets_iff.1 h
  exact List.mem_map_of_mem (mem_accepted.2 (List.mem_map.2 ⟨record, hr, hs⟩))

theorem arrange_withEdges (h : Agree snapshot.ids snapshot.edges others) (config : Config) :
    arrange config.ordering others snapshot.candidates =
      arrange config.ordering snapshot.edges snapshot.candidates :=
  (arrange_eq_of_perm h.arcs _).symm

theorem emitted_withEdges (h : Agree snapshot.ids snapshot.edges others) (config : Config) :
    config.emitted { snapshot with edges := others } = config.emitted snapshot := by
  unfold emitted candidates
  exact congrArg (fun arranged => accepted (arranged.1.map Candidate.declare)) (arrange_withEdges h config)

theorem blocks_withEdges (h : Agree snapshot.ids snapshot.edges others) (config : Config) :
    (config.run { snapshot with edges := others }).blocks = (config.run snapshot).blocks := by
  have hemitted := emitted_withEdges h config
  have htargets : config.targets { snapshot with edges := others } = config.targets snapshot :=
    congrArg (List.map Emitted.candidate) hemitted
  unfold Run.blocks
  rw [(run_spec config _).1, (run_spec config snapshot).1, hemitted, htargets, List.flatMap_map,
    List.flatMap_map]
  refine List.flatMap_congr fun e he => ?_
  have hc : e.candidate ∈ config.targets snapshot := List.mem_map_of_mem he
  have hreferences : referencesInto (config.targets snapshot) e.candidate.node.id others =
      referencesInto (config.targets snapshot) e.candidate.node.id snapshot.edges :=
    (h.referencesInto (fun _ => id_mem_ids) (id_mem_ids hc)).symm
  exact congrArg (fun references => (e.declaration.finish (config.tags e) references).blocks) hreferences

theorem warnings_withEdges (h : Agree snapshot.ids snapshot.edges others) (config : Config) :
    (config.run { snapshot with edges := others }).warnings = (config.run snapshot).warnings := by
  have harrange := arrange_withEdges h config
  unfold Snapshot.candidates at harrange
  rw [(run_spec config _).2, (run_spec config snapshot).2, emitted_withEdges h]
  unfold candidates
  dsimp only
  rw [harrange]

theorem text_withEdges (h : Agree snapshot.ids snapshot.edges others) (config : Config) :
    (config.run { snapshot with edges := others }).text = (config.run snapshot).text := by
  rw [text_run, text_run, emitted_withEdges h, blocks_withEdges h]
  rfl

end Config

/-- Details of edges make no difference. Let the edges of a snapshot be changed by any combination of
giving them other ids, adding or removing edges that do not join two candidates, and permuting them so that
the edges into each one node keep their order. Then the snapshot is generated as before, text, warnings and
blocks, in every configuration. -/
theorem edge_details_make_no_difference (config : Config) (snapshot : Snapshot) {others : List Edge}
    (h : SameButDetails snapshot.ids snapshot.edges others) :
    config.generate { snapshot with edges := others } = config.generate snapshot := by
  have hagree := h.agree
  unfold Config.generate Run.output
  rw [Config.text_withEdges hagree, Config.warnings_withEdges hagree, Config.blocks_withEdges hagree]

/-- A network that depends on a bucket and on a function, on which the bucket depends as well. -/
def stackedCanvas : Snapshot :=
  .ofNodes [⟨"n", "vpc", "Net", []⟩, ⟨"b", "s3", "Assets", []⟩, ⟨"f", "lambda", "Resize", []⟩]
    [⟨"1", "b", "n"⟩, ⟨"2", "f", "b"⟩, ⟨"3", "f", "n"⟩]

/-- The same edges in another order and under other ids, and one that ends nowhere. -/
def retoldEdges : List Edge :=
  [⟨"x", "f", "b"⟩, ⟨"", "b", "n"⟩, ⟨"y", "b", "ghost"⟩, ⟨"x", "f", "n"⟩]

/-- The canvas is generated alike from both lists of edges, dependencies first. -/
theorem stackedCanvas_retold :
    SameButDetails stackedCanvas.ids stackedCanvas.edges retoldEdges ∧
      (Config.default.withOrdering .dependency).generate { stackedCanvas with edges := retoldEdges } =
        (Config.default.withOrdering .dependency).generate stackedCanvas := by
  have hreorder : DetailChange stackedCanvas.ids stackedCanvas.edges
      [⟨"2", "f", "b"⟩, ⟨"1", "b", "n"⟩, ⟨"3", "f", "n"⟩] := by
    refine .reorder (List.Perm.swap _ _ _) fun target => ?_
    by_cases hb : "b" = target
    · subst hb
      rfl
    · simp [edgesInto, stackedCanvas, Snapshot.ofNodes, List.filter_cons, hb]
  have hrename : DetailChange stackedCanvas.ids [⟨"2", "f", "b"⟩, ⟨"1", "b", "n"⟩, ⟨"3", "f", "n"⟩]
      [⟨"x", "f", "b"⟩, ⟨"", "b", "n"⟩, ⟨"x", "f", "n"⟩] := by
    refine .rename (.cons ⟨rfl, rfl⟩ (.cons ⟨rfl, rfl⟩ (.cons ⟨rfl, rfl⟩ .nil)))
  have hadd : DetailChange stackedCanvas.ids ([⟨"x", "f", "b"⟩, ⟨"", "b", "n"⟩] ++ [⟨"x", "f", "n"⟩])
      retoldEdges :=
    .add (.inr (by decide +kernel))
  have hsame : SameButDetails stackedCanvas.ids stackedCanvas.edges retoldEdges :=
    .trans _ _ _ (.rel _ _ hreorder) (.trans _ _ _ (.rel _ _ hrename) (.rel _ _ hadd))
  exact ⟨hsame, edge_details_make_no_difference _ stackedCanvas hsame⟩

end CloudCanvas
