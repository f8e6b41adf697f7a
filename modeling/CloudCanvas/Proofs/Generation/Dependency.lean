/-
Dependencies in the output of a run. References and blocks get their names at different times, from
one cache; still every reference is the address of a block of the same output, and a primary block
depends on exactly the sources of the edges into its node, edge by edge.
-/
import CloudCanvas.Proofs.Generation.Run

namespace CloudCanvas

open CloudCanvas.Graph CloudCanvas.Hcl

/-! ## Declared addresses -/

/-- Some primary block of the run is `resource "type" "name"`. -/
def Run.Declares (run : Run) (type name : String) : Prop :=
  ∃ f ∈ run.finished, f.declaration.primary.keyword = "resource" ∧
    f.declaration.primary.labels = [type, name]

/-- The primary block `aws_s3_bucket` of some node, under the name, stands before the block, with
nothing but blocks of that node in between; `before` is all that stands before the block. -/
def Run.FollowsBucket (run : Run) (before : List Block) (block : Block) (name : String) : Prop :=
  ∃ f ∈ run.finished, ∃ earlier own, f.declaration.primary.keyword = "resource" ∧
    f.declaration.primary.labels = ["aws_s3_bucket", name] ∧
    before = earlier ++ f.declaration.primary :: own ∧ own ++ [block] <+: f.declaration.companions

/-- A list that is put together from parts splits inside one of them. -/
theorem flatMap_eq_append_cons {α β : Type} {f : α → List β} {as : List α} {before after : List β} {b : β}
    (h : as.flatMap f = before ++ b :: after) :
    ∃ earlier a own rest, a ∈ as ∧ f a = own ++ b :: rest ∧ before = earlier ++ own := by
  induction as generalizing before with
  | nil => simp at h
  | cons a as ih =>
    rw [List.flatMap_cons, List.append_eq_append_iff] at h
    -- the split lies behind the blocks of `a`, or among them
    rcases h with ⟨more, rfl, h⟩ | ⟨rest, ha, h⟩
    · obtain ⟨earlier, a', own, rest, hm, hf, rfl⟩ := ih h
      exact ⟨f a ++ earlier, a', own, rest, List.mem_cons_of_mem _ hm, hf, (List.append_assoc ..).symm⟩
    · cases rest with
      | nil =>
        have hrest : as.flatMap f = [] ++ b :: after := h.symm
        obtain ⟨earlier, a', own, rest, hm, hf, hb⟩ := ih hrest
        refine ⟨before ++ earlier, a', own, rest, List.mem_cons_of_mem _ hm, hf, ?_⟩
        rw [List.append_assoc, ← hb, List.append_nil]
      | cons b' rest =>
        cases h
        exact ⟨[], a, before, rest, List.mem_cons_self .., ha, rfl⟩

namespace Finished.Sound

variable {targets : List Candidate} {edges : List Edge} {f : Finished}

/-- Only the primary block depends on anything, and it depends on targets. -/
theorem dependsOn_of_mem_blocks (h : f.Sound targets edges) {block : Block}
    (hb : block ∈ f.declaration.blocks) {value : Expr} (hv : value ∈ block.values "depends_on") :
    ∃ addresses, value = .references addresses ∧
      ∀ address ∈ addresses, ∃ candidate ∈ targets, address = candidate.address := by
  rcases List.mem_cons.1 hb with rfl | hb
  · rw [h.dependsOn] at hv
    split at hv
    · cases hv
    · exact ⟨_, List.mem_singleton.1 hv, fun address ha => exists_target_of_mem_referencesInto ha⟩
  · rw [(h.companions block hb).2.values_dependsOn] at hv
    cases hv

/-- A block that points at a bucket by a reference stands beside the bucket of its node. -/
theorem bucket_of_blocks_eq (h : f.Sound targets edges) {own rest : List Block} {block : Block}
    (hb : f.declaration.blocks = own ++ block :: rest) {address : String}
    (hv : .reference address ∈ block.values "bucket") :
    ∃ between, own = f.declaration.primary :: between ∧ between ++ [block] <+: f.declaration.companions ∧
      f.emitted.candidate.kind = .s3 ∧
      address = "aws_s3_bucket" ++ "." ++ f.emitted.name ++ ".id" := by
  cases own with
  | nil =>
    -- the primary block holds literals only
    have hp : f.declaration.primary = block := (List.cons.inj hb).1
    rw [← hp] at hv
    cases h.literals "bucket" (by decide) _ hv
  | cons primary between =>
    obtain ⟨hp, hc⟩ := List.cons.inj hb
    obtain ⟨hkind, hcompanion⟩ := h.companions block (by rw [hc]; simp)
    refine ⟨between, by rw [hp], ⟨rest, by rw [hc]; simp⟩, hkind, ?_⟩
    rw [hcompanion.values_bucket, List.mem_singleton] at hv
    injection hv

end Finished.Sound

variable {config : Config} {snapshot : Snapshot}

/-- Every node that is emitted is declared at its address. -/
theorem Config.declares_of_mem_targets {candidate : Candidate} (h : candidate ∈ config.targets snapshot) :
    (config.run snapshot).Declares candidate.kind.declarationType candidate.name := by
  rw [← Config.nodes_run] at h
  obtain ⟨f, hf, rfl⟩ := List.mem_map.1 h
  have hs := Config.sound_of_mem_finished hf
  refine ⟨f, hf, hs.primary.keyword, ?_⟩
  rw [hs.primary.labels, hs.named]

/-- A block with a reference to a bucket follows that bucket. -/
theorem Config.followsBucket {before after : List Block} {block : Block}
    (h : (config.run snapshot).blocks = before ++ block :: after) {address : String}
    (hv : .reference address ∈ block.values "bucket") :
    ∃ name, address = "aws_s3_bucket" ++ "." ++ name ++ ".id" ∧
      (config.run snapshot).FollowsBucket before block name := by
  obtain ⟨earlier, f, own, rest, hf, hb, rfl⟩ := flatMap_eq_append_cons h
  have hs := Config.sound_of_mem_finished hf
  obtain ⟨between, rfl, hprefix, hkind, hid⟩ := hs.bucket_of_blocks_eq hb hv
  refine ⟨f.emitted.name, hid, f, hf, earlier, between, hs.primary.keyword, ?_, rfl, hprefix⟩
  rw [hs.primary.labels, hkind]
  rfl

/-- No reference dangles. The text of an output is that of its blocks. What a block depends on is
declared by a primary block of the output, whose type and name the reference spells out, and a block
that points at a bucket follows that bucket with only blocks of the same node in between; every block
beside a primary one does point at a bucket. -/
theorem every_reference_is_declared (config : Config) (snapshot : Snapshot) :
    ((config.run snapshot).blocks = [] ∨ (config.generate snapshot).text =
      "\n\n".intercalate ((config.run snapshot).blocks.map Block.text)) ∧
    (∀ block ∈ (config.run snapshot).blocks, ∀ value ∈ block.values "depends_on",
      ∃ addresses, value = .references addresses ∧ ∀ address ∈ addresses,
        ∃ type name, address = type ++ "." ++ name ∧ '.' ∉ type.toList ∧ '.' ∉ name.toList ∧
          (config.run snapshot).Declares type name) ∧
    (∀ before block after, (config.run snapshot).blocks = before ++ block :: after →
      ∀ address, .reference address ∈ block.values "bucket" →
        ∃ name, address = "aws_s3_bucket" ++ "." ++ name ++ ".id" ∧
          (config.run snapshot).FollowsBucket before block name) ∧
    ∀ f ∈ (config.run snapshot).finished, ∀ block ∈ f.declaration.companions,
      ∃ address, block.values "bucket" = [.reference address] := by
  refine ⟨?_, fun block hb value hv => ?_, fun before block after h address hv => ?_,
    fun f hf block hb => ?_⟩
  · by_cases h : (config.run snapshot).blocks = []
    · exact .inl h
    · exact .inr (Run.text_of_blocks_ne_nil h)
  · obtain ⟨f, hf, hb⟩ := List.mem_flatMap.1 hb
    obtain ⟨addresses, rfl, ha⟩ := (Config.sound_of_mem_finished hf).dependsOn_of_mem_blocks hb hv
    refine ⟨addresses, rfl, fun address hm => ?_⟩
    obtain ⟨candidate, hc, rfl⟩ := ha address hm
    have ht := Declaration.isIdentifier_declarationType candidate.kind
    have hn := isIdentifier_of_naming candidate.isIdentifier_name
    exact ⟨_, _, rfl, dot_not_mem_of_isIdentifier ht, dot_not_mem_of_isIdentifier hn,
      Config.declares_of_mem_targets hc⟩
  · exact Config.followsBucket h hv
  · exact ⟨_, ((Config.sound_of_mem_finished hf).companions block hb).2.values_bucket⟩

/-- A bucket with a block beside it, and a network with two edges from the bucket, one from itself and
one from nowhere. -/
def wiredCanvas : Snapshot :=
  .ofNodes [⟨"b", "s3", "Assets", [("versioning", .boolean true)]⟩, ⟨"n", "vpc", "Net", []⟩]
    [⟨"1", "b", "n"⟩, ⟨"2", "ghost", "n"⟩, ⟨"3", "n", "n"⟩, ⟨"4", "b", "n"⟩]

/-- The block beside the bucket of that canvas follows it. -/
theorem wiredCanvas_follows_bucket :
    ∃ before block after, (Config.default.run wiredCanvas).blocks = before ++ block :: after ∧
      .reference "aws_s3_bucket.assets.id" ∈ block.values "bucket" ∧
      ∃ name, "aws_s3_bucket.assets.id" = "aws_s3_bucket" ++ "." ++ name ++ ".id" ∧
        (Config.default.run wiredCanvas).FollowsBucket before block name := by
  have hb : (Config.default.run wiredCanvas).blocks =
      (Config.default.run wiredCanvas).blocks.take 1 ++
        Bucket.versioningBlock "assets" :: (Config.default.run wiredCanvas).blocks.drop 2 := rfl
  have hv : .reference "aws_s3_bucket.assets.id" ∈
      (Bucket.versioningBlock "assets").values "bucket" := by decide +kernel
  exact ⟨_, _, _, hb, hv,
    (every_reference_is_declared Config.default wiredCanvas).2.2.1 _ _ _ hb _ hv⟩

/-! ## Dependencies and edges -/

/-- Dependencies are edges. The nodes that are emitted are the records that screen to a node which can be
declared. The primary block of a node holds one reference for each edge into the node whose source is
the id of an emitted node, in edge order, and it points at the first emitted node with that id, by type
and name. Without such an edge it holds none, and the blocks beside it never do. -/
theorem dependencies_are_edges (config : Config) (snapshot : Snapshot) :
    (∀ candidate, candidate ∈ (config.run snapshot).nodes ↔
      (∃ record ∈ snapshot.nodes, record.screen = .ok candidate) ∧
        ∃ declaration, Declaration.emit candidate.kind candidate.node.properties
          (Naming.sanitize candidate.node.namingSource) = .ok declaration) ∧
    ∀ f ∈ (config.run snapshot).finished,
      (∃ references,
        f.declaration.primary.values "depends_on" =
            (if references = [] then [] else [.references references]) ∧
          List.Forall₂ (fun edge r => ∃ source,
              ((config.run snapshot).nodes.find? fun node => node.node.id == edge.source) = some source ∧
                r = source.kind.declarationType ++ "." ++ Naming.sanitize
                  (if Text.isBlank source.node.label then source.node.id else source.node.label))
            (snapshot.edges.filter fun edge => edge.target == f.emitted.candidate.node.id &&
              (config.run snapshot).nodes.any fun node => node.node.id == edge.source)
            references) ∧
      (f.declaration.primary.values "depends_on" = [] ↔
        ∀ edge ∈ snapshot.edges, edge.target = f.emitted.candidate.node.id →
          ∀ node ∈ (config.run snapshot).nodes, node.node.id ≠ edge.source) ∧
      ∀ block ∈ f.declaration.companions, block.values "depends_on" = [] := by
  rw [Config.nodes_run]
  refine ⟨fun candidate => ?_, fun f hf => ?_⟩
  · rw [Config.mem_targets_iff, exists_declare_iff, Candidate.name]
  · have hs := Config.sound_of_mem_finished hf
    refine ⟨⟨_, hs.dependsOn, ?_⟩, ?_, fun block hb => (hs.companions block hb).2.values_dependsOn⟩
    · exact (forall₂_referencesInto _ _ _).imp fun edge r hr => by
        simpa only [Candidate.address, Graph.address, Candidate.name, Node.namingSource] using hr
    · rw [hs.dependsOn, ← referencesInto_eq_nil_iff]
      split
      · simp [*]
      · simp [*]

/-- The network of the canvas depends on the bucket, on itself and on the bucket again. -/
theorem wiredCanvas_dependencies :
    ∃ f ∈ (Config.default.run wiredCanvas).finished,
      f.declaration.primary.values "depends_on" =
          [.references ["aws_s3_bucket.assets", "aws_vpc.net", "aws_s3_bucket.assets"]] ∧
        ¬ ∀ edge ∈ wiredCanvas.edges, edge.target = f.emitted.candidate.node.id →
          ∀ node ∈ (Config.default.run wiredCanvas).nodes, node.node.id ≠ edge.source := by
  obtain ⟨f, hf, hv⟩ : ∃ f ∈ (Config.default.run wiredCanvas).finished,
      f.declaration.primary.values "depends_on" =
        [.references ["aws_s3_bucket.assets", "aws_vpc.net", "aws_s3_bucket.assets"]] :=
    ⟨_, List.mem_cons_of_mem _ (List.mem_cons_self ..), by decide +kernel⟩
  refine ⟨f, hf, hv, fun hnone => ?_⟩
  have hempty := ((dependencies_are_edges Config.default wiredCanvas).2 f hf).2.1.2 hnone
  rw [hv] at hempty
  cases hempty

end CloudCanvas
