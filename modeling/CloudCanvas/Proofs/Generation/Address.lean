/-
Addresses of blocks: a type and a name. The check for duplicates looks at primary blocks only, and that
is enough. Every block beside a bucket has a type of its own and the name of its bucket with a suffix, so
its address gives the address of the bucket away: two blocks clash exactly when two nodes are emitted
under one type and one name, and each such node but the first is the subject of one warning.
-/
import CloudCanvas.Proofs.Generation.Ordering
import Mathlib.Data.List.ReduceOption
import Mathlib.Data.Finset.Card

namespace CloudCanvas

open CloudCanvas.Graph CloudCanvas.Hcl

/-- The type and the name of a block, which are its labels. -/
def Hcl.Block.address (block : Block) : Option String × Option String :=
  (block.type?, block.name?)

/-- The type and the name under which a candidate is declared. -/
def Graph.Candidate.labels (candidate : Candidate) : String × String :=
  (candidate.kind.declarationType, candidate.name)

/-- The warning about a candidate under whose type and name `first` has been declared. -/
def Graph.Candidate.clash (first node : Candidate) : Warning :=
  ⟨some node.node.id, .duplicateName,
    "`" ++ node.address ++ "` is already declared by node `" ++ first.node.id ++ "`"⟩

/-! ## Finding duplicates -/

theorem duplicates_eq_reduceOption (earlier rest : List Emitted) :
    duplicates earlier rest =
      (rest.mapIdx fun i e => ((earlier ++ rest.take i).find? fun first => first.address == e.address).map
        fun first => first.duplicate e).reduceOption := by
  induction rest generalizing earlier with
  | nil => rfl
  | cons e rest ih =>
    -- what stands behind `e` has `e` among the earlier ones
    have hrest := ih (earlier ++ [e])
    simp only [List.append_assoc, List.singleton_append] at hrest
    unfold duplicates
    rw [List.mapIdx_cons, List.take_zero, List.append_nil, hrest]
    cases earlier.find? fun first => first.address == e.address with
    | none => rfl
    | some first => rfl

/-- With one warning for each address that has been declared before, the number of warnings is that of
all declarations less that of the addresses that are new. -/
theorem length_duplicates (earlier rest : List Emitted) :
    (duplicates earlier rest).length + ((earlier ++ rest).map Emitted.address).toFinset.card =
      rest.length + (earlier.map Emitted.address).toFinset.card := by
  induction rest generalizing earlier with
  | nil => simp [duplicates]
  | cons e rest ih =>
    have hrest := ih (earlier ++ [e])
    rw [List.append_assoc, List.singleton_append] at hrest
    have hnew : ((earlier ++ [e]).map Emitted.address).toFinset =
        insert e.address (earlier.map Emitted.address).toFinset := by
      simp
    rw [hnew] at hrest
    unfold duplicates
    cases hf : earlier.find? fun first => first.address == e.address with
    | none =>
      have hnot : e.address ∉ (earlier.map Emitted.address).toFinset := by
        rw [List.find?_eq_none] at hf
        rw [List.mem_toFinset, List.mem_map]
        rintro ⟨first, hm, ha⟩
        exact hf first hm (by rw [ha]; exact beq_self_eq_true _)
      rw [Finset.card_insert_of_notMem hnot] at hrest
      dsimp only
      rw [List.length_cons]
      omega
    | some first =>
      have hmem : e.address ∈ (earlier.map Emitted.address).toFinset := by
        rw [List.mem_toFinset, List.mem_map]
        exact ⟨first, List.mem_of_find?_eq_some hf, by simpa using List.find?_some hf⟩
      rw [Finset.insert_eq_of_mem hmem] at hrest
      dsimp only
      rw [List.length_cons, List.length_cons]
      omega

/-- There is no duplicate exactly when the addresses are pairwise different. -/
theorem duplicates_eq_nil_iff {emitted : List Emitted} :
    duplicates [] emitted = [] ↔ (emitted.map Emitted.address).Nodup := by
  have hlength := length_duplicates [] emitted
  simp only [List.nil_append, List.map_nil, List.toFinset_nil, Finset.card_empty, Nat.add_zero] at hlength
  rw [← List.length_eq_zero_iff, ← Multiset.coe_nodup, ← Multiset.toFinset_card_eq_card_iff_nodup]
  rw [Multiset.coe_card, List.length_map]
  show _ ↔ (emitted.map Emitted.address).toFinset.card = _
  omega

/-! ## Addresses of blocks -/

/-- The addresses that the blocks of a candidate can have. -/
def Graph.Candidate.addresses (candidate : Candidate) : List (Option String × Option String) :=
  (some candidate.kind.declarationType, some candidate.name) ::
    match candidate.kind with
    | .s3 =>
      [(some "aws_s3_bucket_versioning", some (candidate.name ++ Bucket.versioningSuffix)),
        (some "aws_s3_bucket_server_side_encryption_configuration",
          some (candidate.name ++ Bucket.encryptionSuffix))]
    | _ => []

namespace Graph.Candidate

variable {candidate other : Candidate}

theorem mem_addresses {address : Option String × Option String} :
    address ∈ candidate.addresses ↔
      address = (some candidate.kind.declarationType, some candidate.name) ∨
      candidate.kind = .s3 ∧
        (address = (some "aws_s3_bucket_versioning", some (candidate.name ++ Bucket.versioningSuffix)) ∨
          address = (some "aws_s3_bucket_server_side_encryption_configuration",
            some (candidate.name ++ Bucket.encryptionSuffix))) := by
  unfold addresses
  cases candidate.kind <;> simp

theorem declarationType_ne (kind : Kind) :
    kind.declarationType ≠ "aws_s3_bucket_versioning" ∧
      kind.declarationType ≠ "aws_s3_bucket_server_side_encryption_configuration" := by
  cases kind <;> decide

theorem nodup_addresses (candidate : Candidate) : candidate.addresses.Nodup := by
  obtain ⟨hversioning, hencryption⟩ := declarationType_ne candidate.kind
  unfold addresses
  split
  · simp [hversioning, hencryption]
  · simp

/-- An address tells under which type and name its candidate is declared. -/
theorem labels_eq_of_mem_addresses {address : Option String × Option String}
    (h : address ∈ candidate.addresses) (ho : address ∈ other.addresses) :
    candidate.labels = other.labels := by
  obtain ⟨hversioning, hencryption⟩ := declarationType_ne candidate.kind
  obtain ⟨hversioning', hencryption'⟩ := declarationType_ne other.kind
  rw [mem_addresses] at h ho
  unfold labels
  rcases h with rfl | ⟨hk, rfl | rfl⟩
  · rcases ho with h | ⟨-, h | h⟩
    · simpa using h
    · simp [hversioning] at h
    · simp [hencryption] at h
  · rcases ho with h | ⟨hk', h | h⟩
    · simp [hversioning'.symm] at h
    · simpa [hk, hk'] using h
    · simp at h
  · rcases ho with h | ⟨hk', h | h⟩
    · simp [hencryption'.symm] at h
    · simp at h
    · simpa [hk, hk'] using h

end Graph.Candidate

theorem Finished.Sound.address_primary {targets : List Candidate} {edges : List Edge} {f : Finished}
    (h : f.Sound targets edges) :
    f.declaration.primary.address =
      (some f.emitted.candidate.kind.declarationType, some f.emitted.candidate.name) := by
  unfold Block.address Block.type? Block.name?
  rw [h.primary.labels, h.named]
  rfl

/-- The blocks of a declaration have addresses of its candidate, each at most once. -/
theorem addresses_finish_sublist (config : Config) (edges : List Edge) (targets : List Candidate)
    {e : Emitted} (h : e.candidate.declare = .ok e) :
    ((config.finish edges targets e).declaration.blocks.map Block.address).Sublist
      e.candidate.addresses := by
  obtain ⟨-, hname, hemit⟩ := eq_of_declare h
  unfold Declaration.blocks
  rw [List.map_cons, (sound_finish config edges targets h).address_primary]
  refine List.Sublist.cons_cons _ ?_
  show (e.declaration.companions.map Block.address).Sublist _
  rcases Declaration.companions_sublist_of_emit hemit with hnone | ⟨hk, algorithm, hsub⟩
  · rw [hnone]
    exact List.nil_sublist _
  · rw [hk]
    exact hsub.map Block.address

theorem map_sublist_flatMap_cons {α β : Type} (f : α → β) (g : α → List β) (as : List α) :
    (as.map f).Sublist (as.flatMap fun a => f a :: g a) := by
  induction as with
  | nil => exact List.Sublist.refl _
  | cons a rest ih => exact (ih.trans (List.sublist_append_right _ _)).cons_cons _

namespace Config

variable {config : Config} {snapshot : Snapshot}

theorem addresses_sublist_of_mem_finished {f : Finished} (h : f ∈ (config.run snapshot).finished) :
    (f.declaration.blocks.map Block.address).Sublist f.emitted.candidate.addresses := by
  rw [(run_spec config snapshot).1] at h
  obtain ⟨e, he, rfl⟩ := List.mem_map.1 h
  exact addresses_finish_sublist _ _ _ (declare_of_mem_emitted he)

theorem labels_of_mem_emitted {e : Emitted} (h : e ∈ config.emitted snapshot) :
    e.address = e.candidate.labels := by
  obtain ⟨-, hname, -⟩ := eq_of_declare (declare_of_mem_emitted h)
  rw [Candidate.labels, Emitted.address, hname]

theorem map_labels_nodes (config : Config) (snapshot : Snapshot) :
    (config.run snapshot).nodes.map Candidate.labels = (config.emitted snapshot).map Emitted.address := by
  rw [nodes_run, targets, List.map_map]
  exact List.map_congr_left fun e he => (labels_of_mem_emitted he).symm

/-- The duplicates among what is emitted, as warnings about the nodes. -/
theorem duplicates_emitted (config : Config) (snapshot : Snapshot) :
    duplicates [] (config.emitted snapshot) =
      ((config.run snapshot).nodes.mapIdx fun i node =>
        (((config.run snapshot).nodes.take i).find? fun first => first.labels == node.labels).map
          fun first => first.clash node).reduceOption := by
  rw [duplicates_eq_reduceOption, nodes_run, targets]
  congr 1
  rw [List.mapIdx_eq_iff]
  intro i
  rw [List.getElem?_mapIdx, List.getElem?_map, Option.map_map]
  cases he : (config.emitted snapshot)[i]? with
  | none => rfl
  | some e =>
    have hmem := List.mem_of_getElem? he
    obtain ⟨-, hname, -⟩ := eq_of_declare (declare_of_mem_emitted hmem)
    have hclash : ∀ first ∈ (config.emitted snapshot).take i,
        (first.address == e.address) = (first.candidate.labels == e.candidate.labels) := by
      intro first hf
      rw [labels_of_mem_emitted hmem, labels_of_mem_emitted (List.mem_of_mem_take hf)]
    rw [Option.map_some, Option.map_some, Function.comp_apply, List.nil_append, ← List.map_take,
      List.find?_map, Option.map_map, List.find?_congr hclash]
    unfold Emitted.duplicate Candidate.clash
    rw [hname]
    rfl

/-- All blocks of a run have different addresses when its primary blocks do. -/
theorem nodup_blocks_iff (config : Config) (snapshot : Snapshot) :
    ((config.run snapshot).blocks.map Block.address).Nodup ↔
      ((config.run snapshot).nodes.map Candidate.labels).Nodup := by
  unfold Run.blocks Run.nodes
  rw [List.map_flatMap, List.map_map]
  constructor
  · intro h
    have hsub : ((config.run snapshot).finished.map fun f => f.declaration.primary.address).Sublist
        ((config.run snapshot).finished.flatMap fun f => f.declaration.blocks.map Block.address) :=
      map_sublist_flatMap_cons (fun f : Finished => f.declaration.primary.address)
        (fun f => f.declaration.companions.map Block.address) _
    have hlabels : ((config.run snapshot).finished.map fun f => f.declaration.primary.address) =
        ((config.run snapshot).finished.map (Candidate.labels ∘ fun f => f.emitted.candidate)).map
          fun labels => (some labels.1, some labels.2) := by
      rw [List.map_map, List.map_inj_left]
      intro f hf
      rw [(sound_of_mem_finished hf).address_primary]
      simp only [Function.comp_apply, Candidate.labels]
    rw [hlabels] at hsub
    exact (h.sublist hsub).of_map _
  · intro h
    rw [List.nodup_flatMap]
    refine ⟨fun f hf => ?_, ?_⟩
    · exact f.emitted.candidate.nodup_addresses.sublist (addresses_sublist_of_mem_finished hf)
    · rw [List.Nodup, List.pairwise_map] at h
      refine h.imp_of_mem fun {f g} hf hg hne => ?_
      -- a common address would be one of both candidates
      intro address haf hag
      exact hne (Candidate.labels_eq_of_mem_addresses
        ((addresses_sublist_of_mem_finished hf).subset haf)
        ((addresses_sublist_of_mem_finished hg).subset hag))

end Config

/-- Duplicate warnings tell of exactly the addresses that clash. Of the emitted nodes each whose type and
name an earlier one has is the subject of one warning, which names the first such node, in the order of
the nodes; so there are as many of these warnings as there are nodes less the different pairs of a type
and a name. Every block has a type and a name, and these pairs differ for any two blocks of the output,
primary or not, exactly when no such warning is added. -/
theorem duplicates_are_clashes (config : Config) (snapshot : Snapshot) :
    ∃ added, (config.generate snapshot).warnings = snapshot.loadWarnings ++ added ∧
      (added.filter fun w => w.kind == .duplicateName) =
        ((config.run snapshot).nodes.mapIdx fun i node =>
          (((config.run snapshot).nodes.take i).find? fun first => first.labels == node.labels).map
            fun first => ⟨some node.node.id, .duplicateName,
              "`" ++ (node.kind.declarationType ++ "." ++ Naming.sanitize node.node.namingSource) ++
                "` is already declared by node `" ++ first.node.id ++ "`"⟩).reduceOption ∧
      (added.filter fun w => w.kind == .duplicateName).length +
          ((config.run snapshot).nodes.map Candidate.labels).toFinset.card =
        (config.run snapshot).nodes.length ∧
      (∀ block ∈ (config.run snapshot).blocks, ∃ type name, block.labels = [type, name]) ∧
      (((config.run snapshot).blocks.map fun block => (block.type?, block.name?)).Nodup ↔
        ∀ w ∈ added, w.kind ≠ .duplicateName) := by
  have hfilter : ((config.added snapshot).filter fun w => w.kind == .duplicateName) =
      duplicates [] (config.emitted snapshot) := by
    have h := config.filter_added snapshot (p := (· == .duplicateName)) (by decide) (by decide)
    simpa using h
  refine ⟨config.added snapshot, config.warnings_generate snapshot, ?_, ?_, fun block hb => ?_, ?_⟩
  · rw [hfilter]
    exact Config.duplicates_emitted config snapshot
  · have hlength := length_duplicates [] (config.emitted snapshot)
    rw [hfilter, Config.map_labels_nodes, Config.nodes_run, Config.targets, List.length_map]
    simpa using hlength
  · obtain ⟨type, name, hd⟩ := Config.declares_of_mem_blocks hb
    exact ⟨type, name, hd.labels⟩
  · have hnone : (∀ w ∈ config.added snapshot, w.kind ≠ .duplicateName) ↔
        duplicates [] (config.emitted snapshot) = [] := by
      rw [← hfilter, List.filter_eq_nil_iff]
      simp
    have haddress : (fun block : Block => (block.type?, block.name?)) = Block.address := rfl
    rw [hnone, duplicates_eq_nil_iff, ← Config.map_labels_nodes, haddress]
    exact Config.nodup_blocks_iff config snapshot

/-- Two buckets whose labels have one identifier, and a network with the same label. -/
def clashingCanvas : Snapshot :=
  .ofNodes [⟨"a", "s3", "Assets", [("versioning", .boolean true)]⟩, ⟨"b", "s3", "assets", []⟩,
      ⟨"c", "vpc", "Assets", []⟩] []

/-- The second bucket clashes with the first; the network does not, nor does the block beside the first
bucket. -/
theorem clashingCanvas_clashes :
    ((Config.default.generate clashingCanvas).warnings.filter fun w => w.kind == .duplicateName) =
        [⟨some "b", .duplicateName, "`aws_s3_bucket.assets` is already declared by node `a`"⟩] ∧
      ¬ ((Config.default.run clashingCanvas).blocks.map fun block => (block.type?, block.name?)).Nodup ∧
      ∃ block ∈ (Config.default.run clashingCanvas).blocks, ∃ type name, block.labels = [type, name] := by
  obtain ⟨added, hadded, -, -, hlabels, hnodup⟩ := duplicates_are_clashes Config.default clashingCanvas
  have hwarnings : ((Config.default.generate clashingCanvas).warnings.filter fun w =>
      w.kind == .duplicateName) =
        [⟨some "b", .duplicateName, "`aws_s3_bucket.assets` is already declared by node `a`"⟩] := by
    decide +kernel
  have hmem : ∃ w ∈ (Config.default.generate clashingCanvas).warnings, w.kind = .duplicateName := by
    decide +kernel
  have hblocks : 0 < (Config.default.run clashingCanvas).blocks.length := by decide +kernel
  obtain ⟨block, hb⟩ := List.exists_mem_of_length_pos hblocks
  refine ⟨hwarnings, fun h => ?_, block, hb, hlabels block hb⟩
  obtain ⟨w, hw, hkind⟩ := hmem
  rw [hadded] at hw
  rcases List.mem_append.1 hw with hload | hw
  · cases hload
  · exact hnodup.1 h w hw hkind

end CloudCanvas
