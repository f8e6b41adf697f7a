/-
Two snapshots side by side. When no edge of one ends at a node of the other, and the nodes keep their order,
each of the two is declared as it is alone: a name depends on its node only, and a reference on edges and
nodes of one side only. So the text of both together is the one text after the other.
-/
import CloudCanvas.Proofs.Generation.Outcome

namespace CloudCanvas

open CloudCanvas.Graph

namespace Graph.Snapshot

/-- The nodes and the edges of two snapshots, those of the first one in front. -/
def union (one other : Snapshot) : Snapshot :=
  ⟨one.nodes ++ other.nodes, one.edges ++ other.edges, one.loadWarnings ++ other.loadWarnings⟩

/-- The well-formed nodes of a snapshot, those of unsupported kinds included. -/
def wellFormed (snapshot : Snapshot) : List Node :=
  accepted (snapshot.nodes.map Record.toNode)

/-- No edge of the other snapshot ends at a node of this one. -/
def Avoids (one other : Snapshot) : Prop :=
  ∀ node ∈ one.wellFormed, ∀ edge ∈ other.edges, node.id ≠ edge.source ∧ node.id ≠ edge.target

instance (one other : Snapshot) : Decidable (one.Avoids other) :=
  inferInstanceAs (Decidable (∀ node ∈ one.wellFormed, ∀ edge ∈ other.edges, _))

end Graph.Snapshot

/-! ## Ends of edges -/

theorem Graph.dependencyIds_append (id : String) (edges others : List Edge) :
    dependencyIds id (edges ++ others) = dependencyIds id edges ++ dependencyIds id others := by
  unfold dependencyIds
  rw [List.filter_append, List.map_append]

theorem Graph.Resolver.target?_append (targets others : List Candidate) (id : String) :
    (⟨targets ++ others⟩ : Resolver).target? id =
      ((⟨targets⟩ : Resolver).target? id).or ((⟨others⟩ : Resolver).target? id) :=
  List.find?_append

namespace Graph.Snapshot.Avoids

variable {one other : Snapshot} {config : Config}

theorem ne_ends (h : one.Avoids other) {candidate : Candidate} (hc : candidate ∈ config.targets one)
    {edge : Edge} (he : edge ∈ other.edges) :
    candidate.node.id ≠ edge.source ∧ candidate.node.id ≠ edge.target := by
  obtain ⟨⟨record, hr, hs⟩, -⟩ := Config.mem_targets_iff.1 hc
  exact h _ (mem_accepted.2 (List.mem_map.2 ⟨record, hr, (Record.screen_eq_ok_iff.1 hs).1⟩)) edge he

/-- The nodes of the one depend on nothing along the edges of the other. -/
theorem dependencyIds_eq_nil (h : one.Avoids other) {candidate : Candidate}
    (hc : candidate ∈ config.targets one) : dependencyIds candidate.node.id other.edges = [] := by
  unfold dependencyIds
  rw [List.map_eq_nil_iff, List.filter_eq_nil_iff]
  intro edge he
  rw [beq_iff_eq]
  exact (h.ne_ends hc he).2.symm

/-- No source of an edge of the other is among the nodes of the one. -/
theorem target?_eq_none (h : one.Avoids other) (config : Config) {id source : String}
    (hs : source ∈ dependencyIds id other.edges) :
    (⟨config.targets one⟩ : Resolver).target? source = none := by
  obtain ⟨edge, he, rfl⟩ := List.mem_map.1 hs
  rw [Resolver.target?_eq_none_iff]
  exact fun candidate hc => (h.ne_ends hc (List.mem_filter.1 he).1).1

end Graph.Snapshot.Avoids

/-! ## Runs -/

namespace Config

variable {config : Config} {one other : Snapshot}

theorem emitted_union (hinput : config.ordering = .input) (one other : Snapshot) :
    config.emitted (one.union other) = config.emitted one ++ config.emitted other := by
  have hcandidates : ∀ snapshot, config.candidates snapshot = accepted (snapshot.nodes.map Record.screen) := by
    intro snapshot
    unfold candidates
    rw [hinput]
    rfl
  unfold emitted
  rw [hcandidates, hcandidates, hcandidates, Snapshot.union, List.map_append, accepted_append,
    List.map_append, accepted_append]

/-- Every declaration of two snapshots side by side is finished as it is in its own. -/
theorem finished_union (hinput : config.ordering = .input) (hone : one.Avoids other)
    (hother : other.Avoids one) :
    (config.run (one.union other)).finished = (config.run one).finished ++ (config.run other).finished := by
  have htargets : config.targets (one.union other) = config.targets one ++ config.targets other := by
    unfold targets
    rw [emitted_union hinput, List.map_append]
  rw [(run_spec config _).1, (run_spec config one).1, (run_spec config other).1, emitted_union hinput,
    htargets, List.map_append]
  congr 1
  · refine List.map_congr_left fun e he => finish_eq_finish ?_ (fun source hs => ?_) config
    · have hc : e.candidate ∈ config.targets one := List.mem_map_of_mem he
      rw [Snapshot.union, dependencyIds_append, hone.dependencyIds_eq_nil hc, List.append_nil]
    · rw [Resolver.target?_append, hother.target?_eq_none config hs, Option.or_none]
  · refine List.map_congr_left fun e he => finish_eq_finish ?_ (fun source hs => ?_) config
    · have hc : e.candidate ∈ config.targets other := List.mem_map_of_mem he
      rw [Snapshot.union, dependencyIds_append, hother.dependencyIds_eq_nil hc, List.nil_append]
    · rw [Resolver.target?_append, hone.target?_eq_none config hs, Option.none_or]

theorem blocks_union (hinput : config.ordering = .input) (hone : one.Avoids other)
    (hother : other.Avoids one) :
    (config.run (one.union other)).blocks = (config.run one).blocks ++ (config.run other).blocks := by
  unfold Run.blocks
  rw [finished_union hinput hone hother, List.flatMap_append]

/-- Two snapshots side by side are empty when both are. -/
theorem isEmptyGraph_union (one other : Snapshot) :
    (one.union other).isEmptyGraph = (one.isEmptyGraph && other.isEmptyGraph) := by
  have hnodes : (one.nodes ++ other.nodes).isEmpty = (one.nodes.isEmpty && other.nodes.isEmpty) := by
    cases one.nodes <;> rfl
  unfold Snapshot.isEmptyGraph Snapshot.union
  rw [hnodes, List.any_append, Bool.not_or]
  ac_rfl

end Config

/-- Snapshots that keep apart are generated apart. In the order of the canvas, let no edge of one snapshot
end at a node of the other; labels, names and even ids may be shared. Then the blocks of both side by side
are those of the one and then those of the other, and so is the text, with an empty line between, or with
nothing added when only one of the two has blocks. When neither has, the marker is that of an empty graph
if both are empty. -/
theorem separate_snapshots_compose {config : Config} (hinput : config.ordering = .input)
    {one other : Snapshot} (hone : one.Avoids other) (hother : other.Avoids one) :
    (config.run (one.union other)).blocks = (config.run one).blocks ++ (config.run other).blocks ∧
    (config.generate (one.union other)).blocks =
      (config.generate one).blocks + (config.generate other).blocks ∧
    ((config.generate one).hasBlocks = true → (config.generate other).hasBlocks = true →
      (config.generate (one.union other)).text =
        (config.generate one).text ++ "\n\n" ++ (config.generate other).text) ∧
    ((config.generate one).hasBlocks = true → (config.generate other).hasBlocks = false →
      (config.generate (one.union other)).text = (config.generate one).text) ∧
    ((config.generate one).hasBlocks = false → (config.generate other).hasBlocks = true →
      (config.generate (one.union other)).text = (config.generate other).text) ∧
    (config.generate (one.union other)).isEmptyGraph =
      ((config.generate one).isEmptyGraph && (config.generate other).isEmptyGraph) := by
  have hblocks := Config.blocks_union hinput hone hother
  have hcount := congrArg List.length hblocks
  rw [List.length_append] at hcount
  refine ⟨hblocks, hcount, fun h ho => ?_, fun h ho => ?_, fun h ho => ?_, ?_⟩
  · rw [Config.hasBlocks_iff] at h ho
    have hboth : (config.run (one.union other)).blocks ≠ [] := by
      rw [hblocks]
      exact List.append_ne_nil_of_left_ne_nil h _
    show (config.run (one.union other)).text = (config.run one).text ++ "\n\n" ++ (config.run other).text
    rw [Run.text_of_blocks_ne_nil hboth, Run.text_of_blocks_ne_nil h, Run.text_of_blocks_ne_nil ho, hblocks,
      List.map_append, String.intercalate_append_of_ne_nil (by simpa using h) (by simpa using ho)]
  · rw [← Bool.not_eq_true, Config.hasBlocks_iff, not_not] at ho
    rw [Config.hasBlocks_iff] at h
    rw [ho, List.append_nil] at hblocks
    show (config.run (one.union other)).text = (config.run one).text
    rw [Run.text_of_blocks_ne_nil (by rw [hblocks]; exact h), Run.text_of_blocks_ne_nil h, hblocks]
  · rw [← Bool.not_eq_true, Config.hasBlocks_iff, not_not] at h
    rw [Config.hasBlocks_iff] at ho
    rw [h, List.nil_append] at hblocks
    show (config.run (one.union other)).text = (config.run other).text
    rw [Run.text_of_blocks_ne_nil (by rw [hblocks]; exact ho), Run.text_of_blocks_ne_nil ho, hblocks]
  · rw [config.isEmptyGraph_generate, config.isEmptyGraph_generate, config.isEmptyGraph_generate,
      Config.isEmptyGraph_union]

/-- A network that depends on a bucket; both are called the same. -/
def bucketSide : Snapshot :=
  .ofNodes [⟨"n", "vpc", "Main", []⟩, ⟨"b", "s3", "Main", [("versioning", .boolean true)]⟩]
    [⟨"1", "b", "n"⟩, ⟨"2", "ghost", "n"⟩]

/-- A network that depends on itself and on an airship, and a function whose declaration fails. They are
called like those of the other side. -/
def networkSide : Snapshot :=
  .ofNodes
    [⟨"m", "vpc", "Main", []⟩, ⟨"air", "airship", "Main", []⟩,
      ⟨"f", "lambda", "Main", [("timeout", .string "soon")]⟩]
    [⟨"1", "m", "m"⟩, ⟨"2", "air", "m"⟩]

/-- The two sides are generated one after the other. -/
theorem sides_compose :
    bucketSide.Avoids networkSide ∧ networkSide.Avoids bucketSide ∧
      (Config.default.generate (bucketSide.union networkSide)).blocks = 4 ∧
      (Config.default.generate (bucketSide.union networkSide)).text =
        (Config.default.generate bucketSide).text ++ "\n\n" ++ (Config.default.generate networkSide).text := by
  have hone : bucketSide.Avoids networkSide := by decide +kernel
  have hother : networkSide.Avoids bucketSide := by decide +kernel
  have hb : (Config.default.generate bucketSide).hasBlocks = true := by decide +kernel
  have hn : (Config.default.generate networkSide).hasBlocks = true := by decide +kernel
  have hinput : Config.default.ordering = .input := rfl
  obtain ⟨-, hcount, htext, -⟩ := separate_snapshots_compose hinput hone hother
  refine ⟨hone, hother, ?_, htext hb hn⟩
  rw [hcount]
  decide +kernel

end CloudCanvas
