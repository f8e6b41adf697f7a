/-
References between declarations. A node depends on the sources of the edges into it; a source becomes a
reference when it has been declared.
-/
import CloudCanvas.Graph.Candidate
import CloudCanvas.Graph.Edge
import CloudCanvas.Naming.Cache

namespace CloudCanvas.Graph

/-- The ids of the nodes on which a node depends, in edge order; an id stands once for every edge. -/
def dependencyIds (id : String) (edges : List Edge) : List String :=
  (edges.filter fun edge => edge.target == id).map (·.source)

/-- The address of a declaration. -/
def address (kind : Kind) (name : String) : String :=
  kind.declarationType ++ "." ++ name

/-- The candidates to which a reference may point. -/
structure Resolver where
  targets : List Candidate

/-- Ids turned into references, and those that could not be. -/
structure Resolution where
  references : List String
  unresolved : List String

namespace Resolver

/-- The candidate that an id stands for: of several with that id the first. -/
def target? (resolver : Resolver) (id : String) : Option Candidate :=
  resolver.targets.find? fun candidate => candidate.node.id == id

/-- Turns ids into references, in order. The names come from the cache that has named the
declarations, and the cache is handed on. -/
def resolve (resolver : Resolver) : List String → Naming.Cache → Resolution × Naming.Cache
  | [], names => (⟨[], []⟩, names)
  | id :: rest, names =>
    match resolver.target? id with
    | some ⟨kind, node⟩ =>
      let (name, names) := names.nameFor node.namingSource
      let (resolution, names) := resolver.resolve rest names
      ({ resolution with references := address kind name :: resolution.references }, names)
    | none =>
      let (resolution, names) := resolver.resolve rest names
      ({ resolution with unresolved := id :: resolution.unresolved }, names)

end Resolver

end CloudCanvas.Graph
