/-
The names of a run. Declarations and references get their names from one cache, at different times and in
any order, and still each of them is the identifier of its node. The cache is filled while nodes are
declared. Every node to which a reference may point has been declared by then, so resolving references
finds all names and adds none, and the cache ends with one row for each text that names a node.
-/
import CloudCanvas.Proofs.Generation.Run

namespace CloudCanvas

open CloudCanvas.Graph

/-! ## Lookups in any order -/

/-- What a cache is asked for: the name of a label, or the references to the nodes that ids stand for. -/
inductive Graph.Lookup
  | name (label : String)
  | references (ids : List String)

namespace Graph.Resolver

variable (resolver : Resolver)

/-- The texts that answer a lookup, and the cache after it. -/
def answer (names : Naming.Cache) : Lookup → List String × Naming.Cache
  | .name label =>
    let (name, names) := names.nameFor label
    ([name], names)
  | .references ids =>
    let (resolution, names) := resolver.resolve ids names
    (resolution.references, names)

/-- Answers lookups one after another, all from one cache. -/
def answerEach : List Lookup → Naming.Cache → List (List String) × Naming.Cache
  | [], names => ([], names)
  | lookup :: rest, names =>
    let (texts, names) := resolver.answer names lookup
    let (others, names) := answerEach rest names
    (texts :: others, names)

/-- The texts that answer a lookup, sanitized without a cache. -/
def sanitized : Lookup → List String
  | .name label => [Naming.sanitize label]
  | .references ids => ids.filterMap fun id =>
    (resolver.targets.find? fun target => target.node.id == id).map fun target =>
      target.kind.declarationType ++ "." ++ Naming.sanitize target.node.namingSource

/-- A lookup is answered as without a cache, and leaves the cache faithful. -/
theorem answer_spec {names : Naming.Cache} (h : names.Faithful) (lookup : Lookup) :
    (resolver.answer names lookup).1 = resolver.sanitized lookup ∧
      (resolver.answer names lookup).2.Faithful := by
  cases lookup with
  | name label => exact ⟨congrArg (fun name => [name]) (Naming.Cache.nameFor_fst h label), h.nameFor label⟩
  | references ids =>
    obtain ⟨href, -, hn⟩ := resolver.resolve_spec ids h
    exact ⟨href, hn⟩

theorem answerEach_fst {names : Naming.Cache} (h : names.Faithful) (lookups : List Lookup) :
    (resolver.answerEach lookups names).1 = lookups.map resolver.sanitized := by
  induction lookups generalizing names with
  | nil => rfl
  | cons lookup rest ih =>
    obtain ⟨htexts, hn⟩ := resolver.answer_spec h lookup
    unfold answerEach
    rw [List.map_cons, ← htexts, ← ih hn]

/-- Resolving adds no name when those of all targets are known. -/
theorem resolve_snd_of_known {names : Naming.Cache}
    (h : ∀ target ∈ resolver.targets, target.node.namingSource ∈ names.labels) (ids : List String) :
    (resolver.resolve ids names).2 = names := by
  induction ids with
  | nil => rfl
  | cons id rest ih =>
    unfold resolve
    cases ht : resolver.target? id with
    | none => exact ih
    | some target =>
      have hknown := Naming.Cache.nameFor_snd_of_mem (h target (List.mem_of_find?_eq_some ht))
      dsimp only
      rw [hknown]
      exact ih

end Graph.Resolver

/-! ## The cache of a run -/

/-- Declaring candidates looks up what names their nodes, one after another: a candidate is named before
it can fail. -/
theorem emitEach_snd (candidates : List Candidate) (names : Naming.Cache) :
    (emitEach candidates names).2 =
      (names.nameEach (candidates.map fun candidate => candidate.node.namingSource)).2 := by
  induction candidates generalizing names with
  | nil => rfl
  | cons candidate rest ih =>
    unfold emitEach
    dsimp only
    split
    · exact ih _
    · exact ih _

/-- Finishing declarations adds no name when those of all targets are known. -/
theorem finishEach_snd_of_known (config : Config) (edges : List Edge) {resolver : Resolver}
    {names : Naming.Cache} (h : ∀ target ∈ resolver.targets, target.node.namingSource ∈ names.labels)
    (emitted : List Emitted) : (finishEach config edges resolver emitted names).2 = names := by
  induction emitted with
  | nil => rfl
  | cons e rest ih =>
    unfold finishEach
    dsimp only
    rw [resolver.resolve_snd_of_known h]
    exact ih

/-- What names the well-formed nodes of supported kinds, node by node. -/
def Graph.Snapshot.namingSources (snapshot : Snapshot) : List String :=
  snapshot.nodes.filterMap fun record =>
    match record.toNode with
    | .ok node => if node.kind?.isSome then some node.namingSource else none
    | .error _ => none

theorem Graph.Snapshot.namingSources_eq (snapshot : Snapshot) :
    snapshot.namingSources =
      (accepted (snapshot.nodes.map Record.screen)).map fun candidate => candidate.node.namingSource := by
  rw [← filterMap_candidate?, List.map_filterMap]
  refine List.filterMap_congr fun record _ => ?_
  unfold Record.candidate? Record.screen
  cases record.toNode with
  | error defect => rfl
  | ok node =>
    dsimp only
    cases node.kind? <;> rfl

namespace Config

/-- The names of a run when all its candidates have been gone through, before any references. -/
def named (config : Config) (snapshot : Snapshot) : Naming.Cache :=
  (emitEach (config.candidates snapshot) .empty).2

theorem holds_named (config : Config) (snapshot : Snapshot) :
    (config.named snapshot).Holds snapshot.namingSources := by
  have h := Naming.Cache.holds_empty.nameEach
    ((config.candidates snapshot).map fun candidate => candidate.node.namingSource)
  rw [← emitEach_snd, List.nil_append] at h
  rw [Snapshot.namingSources_eq]
  exact h.of_perm ((candidates_perm config snapshot).map _)

/-- Every node that is emitted has been named. -/
theorem known_of_mem_targets {config : Config} {snapshot : Snapshot} :
    ∀ target ∈ config.targets snapshot, target.node.namingSource ∈ (config.named snapshot).labels := by
  intro target ht
  obtain ⟨record, hr, hs⟩ := (mem_targets_iff.1 ht).1
  rw [(config.holds_named snapshot).mem_iff, Snapshot.namingSources_eq]
  exact List.mem_map.2 ⟨target, mem_accepted.2 (List.mem_map.2 ⟨record, hr, hs⟩), rfl⟩

/-- A run ends with the names of its declarations, whichever way it ends. -/
theorem names_run (config : Config) (snapshot : Snapshot) :
    (config.run snapshot).names = config.named snapshot := by
  by_cases hempty : snapshot.isEmptyGraph = true
  · unfold run named
    rw [if_pos hempty, candidates_eq_nil_of_isEmptyGraph hempty]
    rfl
  · have hemit := (emitEach_spec (config.candidates snapshot) Naming.Cache.faithful_empty).1
    have hfinish : (finishEach config snapshot.edges ⟨config.targets snapshot⟩ (config.emitted snapshot)
        (config.named snapshot)).2 = config.named snapshot :=
      finishEach_snd_of_known config snapshot.edges known_of_mem_targets _
    unfold candidates at hemit
    unfold run
    rw [if_neg hempty, filterMap_candidate?, filterMap_warning?]
    simp only [hemit]
    split
    -- nothing emitted: the run stops short of references, which would add no name
    · rfl
    · exact hfinish

end Config

/-- The cache of names is transparent, and a run fills it with the names of its nodes and nothing else.
Labels that are looked up one after another get their identifiers, and the cache then knows as many labels
as there were different ones. Lookups of names and of references to any nodes, in any order on one cache,
are answered as without it. Once the candidates of a run have been named, resolving any ids adds no name,
nor does finishing any number of its declarations; so these are the names with which the run ends, one row
for each different text that names a well-formed node of a supported kind, with the identifier of the text. -/
theorem name_cache_is_transparent :
    (∀ labels : List String,
      (Naming.Cache.empty.nameEach labels).1 = labels.map Naming.sanitize ∧
        (Naming.Cache.empty.nameEach labels).2.size = labels.toFinset.card) ∧
    (∀ (resolver : Resolver) (lookups : List Lookup),
      (resolver.answerEach lookups .empty).1 = lookups.map resolver.sanitized) ∧
    ∀ (config : Config) (snapshot : Snapshot),
      (∀ ids, ((⟨(config.run snapshot).nodes⟩ : Resolver).resolve ids (config.named snapshot)).2 =
        config.named snapshot) ∧
      (∀ count, (finishEach config snapshot.edges ⟨(config.run snapshot).nodes⟩
        ((config.emitted snapshot).take count) (config.named snapshot)).2 = config.named snapshot) ∧
      (config.run snapshot).names = config.named snapshot ∧
      (config.run snapshot).names.size = snapshot.namingSources.toFinset.card ∧
      ∀ label name, (label, name) ∈ (config.run snapshot).names.rows ↔
        label ∈ snapshot.namingSources ∧ name = Naming.sanitize label := by
  refine ⟨fun labels => ⟨?_, ?_⟩, fun resolver lookups => ?_, fun config snapshot => ?_⟩
  · exact Naming.Cache.nameEach_fst Naming.Cache.faithful_empty labels
  · exact (Naming.Cache.holds_empty.nameEach labels).size_eq
  · exact resolver.answerEach_fst Naming.Cache.faithful_empty lookups
  · have hholds := config.holds_named snapshot
    rw [Config.names_run, Config.nodes_run]
    refine ⟨fun ids => ?_, fun count => ?_, rfl, hholds.size_eq, fun label name => hholds.mem_rows_iff⟩
    · exact Resolver.resolve_snd_of_known _ Config.known_of_mem_targets ids
    · exact finishEach_snd_of_known config snapshot.edges Config.known_of_mem_targets _

/-- A label that names two networks is known once, that of a function which fails is known as well, and the
one of a kind that is not supported is not. -/
example :
    (Config.default.run <| .ofNodes [⟨"f", "lambda", "Resize", [("timeout", .string "soon")]⟩,
        ⟨"a", "vpc", "Net", []⟩, ⟨"b", "vpc", "Net", []⟩, ⟨"c", "airship", "Ship", []⟩]
      [⟨"1", "a", "b"⟩, ⟨"2", "f", "b"⟩]).names.rows = [("Resize", "resize"), ("Net", "net")] := by
  decide +kernel

end CloudCanvas
