/-
References between declarations: on every cache that a run can reach, an id resolves to the address
under which its candidate is declared, and the references of a node are those of the edges into it, in
edge order.
-/
import CloudCanvas.Graph.Reference
import CloudCanvas.Proofs.Naming.Cache
import Mathlib.Data.List.Forall2

namespace CloudCanvas.Graph

/-- The name under which a candidate is declared. -/
def Candidate.name (candidate : Candidate) : String :=
  Naming.sanitize candidate.node.namingSource

/-- The address under which a candidate is declared. -/
def Candidate.address (candidate : Candidate) : String :=
  Graph.address candidate.kind candidate.name

/-- The references to the sources of the edges into a node, in edge order: an edge whose source is no
target gives none. -/
def referencesInto (targets : List Candidate) (id : String) (edges : List Edge) : List String :=
  edges.filterMap fun edge =>
    if edge.target = id then
      (targets.find? fun candidate => candidate.node.id == edge.source).map Candidate.address
    else none

/-- The references into a node are those of its dependencies. -/
theorem referencesInto_eq_filterMap (targets : List Candidate) (id : String) (edges : List Edge) :
    referencesInto targets id edges = (dependencyIds id edges).filterMap fun source =>
      ((⟨targets⟩ : Resolver).target? source).map Candidate.address := by
  unfold dependencyIds referencesInto Resolver.target?
  rw [List.filterMap_map, ← List.filterMap_eq_filter, List.filterMap_filterMap]
  refine congrArg (List.filterMap · edges) (funext fun edge => ?_)
  by_cases he : edge.target = id
  · simp [he, Option.guard]
  · simp [he, Option.guard]

/-! ## Resolving -/

namespace Resolver

variable (resolver : Resolver)

theorem target?_eq_none_iff {id : String} :
    resolver.target? id = none ↔ ∀ candidate ∈ resolver.targets, candidate.node.id ≠ id := by
  rw [target?, List.find?_eq_none]
  simp

/-- Resolving is a `filterMap`: the cache makes no difference to the references, and stays faithful. -/
theorem resolve_spec (ids : List String) {names : Naming.Cache} (h : names.Faithful) :
    (resolver.resolve ids names).1.references =
        (ids.filterMap fun id => (resolver.target? id).map Candidate.address) ∧
      (resolver.resolve ids names).1.unresolved =
        (ids.filter fun id => (resolver.target? id).isNone) ∧
      (resolver.resolve ids names).2.Faithful := by
  induction ids generalizing names with
  | nil => exact ⟨rfl, rfl, h⟩
  | cons id rest ih =>
    unfold resolve
    -- the name of a target goes through the cache before the rest is resolved
    cases ht : resolver.target? id with
    | some candidate =>
      obtain ⟨kind, node⟩ := candidate
      obtain ⟨href, hun, hn⟩ := ih (h.nameFor node.namingSource)
      have hname := Naming.Cache.nameFor_fst h node.namingSource
      refine ⟨?_, ?_, hn⟩
      · rw [List.filterMap_cons, ht, Option.map_some]
        dsimp only
        rw [Candidate.address, Candidate.name, ← hname, ← href]
      · rw [List.filter_cons, ht]
        exact hun
    | none =>
      obtain ⟨href, hun, hn⟩ := ih h
      refine ⟨?_, ?_, hn⟩
      · rw [List.filterMap_cons, ht]
        exact href
      · rw [List.filter_cons, ht]
        simp [hun]

/-- The references of a node are those of the edges into it. -/
theorem references_resolve_dependencyIds (id : String) (edges : List Edge) {names : Naming.Cache}
    (h : names.Faithful) :
    (resolver.resolve (dependencyIds id edges) names).1.references =
      referencesInto resolver.targets id edges := by
  rw [(resolver.resolve_spec _ h).1, referencesInto_eq_filterMap]

end Resolver

/-! ## References into a node -/

variable {targets : List Candidate} {id : String} {edges : List Edge}

/-- Every reference is the address of one of the targets. -/
theorem exists_target_of_mem_referencesInto {r : String} (h : r ∈ referencesInto targets id edges) :
    ∃ candidate ∈ targets, r = candidate.address := by
  obtain ⟨edge, -, he⟩ := List.mem_filterMap.1 h
  split at he
  · obtain ⟨candidate, hf, rfl⟩ := Option.map_eq_some_iff.1 he
    exact ⟨candidate, List.mem_of_find?_eq_some hf, rfl⟩
  · cases he

/-- There is one reference for each edge into the node whose source is the id of a target, in edge
order, and it points at the first target with that id. -/
theorem forall₂_referencesInto (targets : List Candidate) (id : String) (edges : List Edge) :
    List.Forall₂ (fun edge r => ∃ source,
        (targets.find? fun candidate => candidate.node.id == edge.source) = some source ∧
          r = source.address)
      (edges.filter fun edge =>
        edge.target == id && targets.any fun candidate => candidate.node.id == edge.source)
      (referencesInto targets id edges) := by
  unfold referencesInto
  induction edges with
  | nil => exact .nil
  | cons edge rest ih =>
    rw [List.filter_cons, List.filterMap_cons]
    by_cases he : edge.target = id
    · cases hf : targets.find? fun candidate => candidate.node.id == edge.source with
      | none =>
        have hnone : (targets.any fun candidate => candidate.node.id == edge.source) = false := by
          rw [← List.isSome_find?, hf]; rfl
        simpa [he, hnone] using ih
      | some source =>
        have hsome : (targets.any fun candidate => candidate.node.id == edge.source) = true := by
          rw [← List.isSome_find?, hf]; rfl
        simpa [he, hsome, hf] using ih
    · simpa [he] using ih

/-- There are no references exactly when no edge into the node comes from a target. -/
theorem referencesInto_eq_nil_iff :
    referencesInto targets id edges = [] ↔
      ∀ edge ∈ edges, edge.target = id → ∀ candidate ∈ targets, candidate.node.id ≠ edge.source := by
  unfold referencesInto
  rw [List.filterMap_eq_nil_iff]
  refine forall₂_congr fun edge _ => ?_
  by_cases he : edge.target = id
  · simp [he]
  · simp [he]

end CloudCanvas.Graph
