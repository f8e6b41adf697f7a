/-
Generation runs. The records of a snapshot are screened, the candidates are put into order, each of them
is emitted under its name, and the declarations that came out are given their tags and references. What
goes wrong with one node becomes a warning and leaves the others alone. `Config.perform` goes through the
same steps and reports events on the way.
-/
import CloudCanvas.Emission.Declaration
import CloudCanvas.Generation.Config
import CloudCanvas.Generation.Event
import CloudCanvas.Generation.Output
import CloudCanvas.Graph.Order
import CloudCanvas.Graph.Reference
import CloudCanvas.Graph.Snapshot

namespace CloudCanvas

open CloudCanvas.Graph

/-! ## Order -/

/-- The warning about edges that form a cycle. -/
def cycleWarning : Warning :=
  ⟨none, .dependencyCycle, "dependency graph has a cycle; keeping input order"⟩

/-- Puts candidates into the order of a configuration. When the edges form a cycle, the candidates keep
their order and there is a warning. -/
def arrange (ordering : BlockOrdering) (edges : List Edge) (candidates : List Candidate) :
    List Candidate × List Warning :=
  match ordering with
  | .input => (candidates, [])
  | .dependency =>
    match order? (candidates.map (·.node.id)) edges with
    | some positions => (positions.filterMap fun position => candidates[position]?, [])
    | none => (candidates, [cycleWarning])

/-! ## Emission -/

/-- A candidate that has been declared under a name. -/
structure Emitted where
  candidate : Candidate
  name : String
  declaration : Declaration

/-- The warning about a node whose declaration failed. -/
def Graph.Node.failed (node : Node) (e : EmissionError) : Warning :=
  ⟨some node.id, .emissionFailed, e.message⟩

/-- Names and declares candidates one after another, those that fail apart; the names go through the
cache, which is handed on. -/
def emitEach : List Candidate → Naming.Cache → (List Emitted × List Warning) × Naming.Cache
  | [], names => (([], []), names)
  | candidate :: rest, names =>
    let (name, names) := names.nameFor candidate.node.namingSource
    let ((emitted, warnings), names) := emitEach rest names
    match Declaration.emit candidate.kind candidate.node.properties name with
    | .ok declaration => ((⟨candidate, name, declaration⟩ :: emitted, warnings), names)
    | .error e => ((emitted, candidate.node.failed e :: warnings), names)

/-- The address of the primary block: its type and its name. -/
def Emitted.address (e : Emitted) : String × String :=
  (e.candidate.kind.declarationType, e.name)

/-- The warning about a node whose address `first` has declared before. -/
def Emitted.duplicate (first e : Emitted) : Warning :=
  ⟨some e.candidate.node.id, .duplicateName,
    "`" ++ Graph.address e.candidate.kind e.name ++ "` is already declared by node `" ++
      first.candidate.node.id ++ "`"⟩

/-- The warnings about addresses that have been declared before; `earlier` has been gone through
already. -/
def duplicates (earlier : List Emitted) : List Emitted → List Warning
  | [] => []
  | e :: rest =>
    let others := duplicates (earlier ++ [e]) rest
    match earlier.find? fun first => first.address == e.address with
    | some first => first.duplicate e :: others
    | none => others

/-! ## Tags and references -/

/-- The tags of a declaration: the name tag with the label, or with the name when the label is blank,
and the default tags. -/
def Config.tags (config : Config) (e : Emitted) : List (String × String) :=
  let label := e.candidate.node.label
  (config.nameTagKey, if Text.isBlank label then e.name else label) :: config.defaultTags

/-- A declaration with its tags and references, and the ids of its dependencies that were not declared. -/
structure Finished where
  emitted : Emitted
  declaration : Declaration
  unresolved : List String

/-- Gives each declaration its tags and references; the names of references go through the cache. -/
def finishEach (config : Config) (edges : List Edge) (resolver : Resolver) :
    List Emitted → Naming.Cache → List Finished × Naming.Cache
  | [], names => ([], names)
  | e :: rest, names =>
    let (resolution, names) := resolver.resolve (dependencyIds e.candidate.node.id edges) names
    let (others, names) := finishEach config edges resolver rest names
    (⟨e, e.declaration.finish (config.tags e) resolution.references, resolution.unresolved⟩ :: others,
      names)

/-! ## Runs -/

/-- How a run ends. -/
inductive Outcome
  /-- The graph has no nodes. -/
  | emptyGraph
  /-- Every node had to be left out. -/
  | noValidResources
  | declared (finished : List Finished)

/-- A run: how it ended, all its warnings, and the names that it has used. -/
structure Run where
  outcome : Outcome
  warnings : List Warning
  names : Naming.Cache

/-- Whether the graph has no nodes, those included that were dropped while it was loaded. -/
def Graph.Snapshot.isEmptyGraph (snapshot : Snapshot) : Bool :=
  snapshot.nodes.isEmpty && !snapshot.loadWarnings.any fun w => w.kind == .malformedNode

/-- Generates the declarations of a snapshot. -/
def Config.run (config : Config) (snapshot : Snapshot) : Run :=
  if snapshot.isEmptyGraph then ⟨.emptyGraph, snapshot.loadWarnings, .empty⟩
  else
    let screened := snapshot.nodes.filterMap Record.warning?
    let (candidates, cycle) :=
      arrange config.ordering snapshot.edges (snapshot.nodes.filterMap Record.candidate?)
    let ((emitted, failures), names) := emitEach candidates .empty
    let warnings := snapshot.loadWarnings ++ screened ++ cycle ++ failures
    if emitted.isEmpty then ⟨.noValidResources, warnings, names⟩
    else
      let (finished, names) :=
        finishEach config snapshot.edges ⟨emitted.map (·.candidate)⟩ emitted names
      ⟨.declared finished, warnings ++ duplicates [] emitted, names⟩

namespace Run

/-- The declarations of a run. -/
def finished (run : Run) : List Finished :=
  match run.outcome with
  | .declared finished => finished
  | _ => []

/-- All blocks of a run, in order. -/
def blocks (run : Run) : List Hcl.Block :=
  run.finished.flatMap fun f => f.declaration.blocks

/-- The text of a run: its blocks with an empty line between them, or a marker. -/
def text (run : Run) : String :=
  match run.outcome with
  | .emptyGraph => Output.emptyGraphMarker
  | .noValidResources => Output.noValidResourcesMarker
  | .declared _ => "\n\n".intercalate (run.blocks.map Hcl.Block.text)

/-- The output of a run. -/
def output (run : Run) : Output :=
  ⟨run.text, run.warnings, run.blocks.length⟩

/-- The event about a block. -/
def blockEvent (block : Hcl.Block) : Event :=
  .block (block.type?.getD "") (block.name?.getD "")

end Run

/-- The output for a snapshot. -/
def Config.generate (config : Config) (snapshot : Snapshot) : Output :=
  (config.run snapshot).output

/-- The output for well-formed nodes and edges, with the default configuration. -/
def generateNodes (nodes : List Node) (edges : List Edge) : Output :=
  Config.default.generate (.ofNodes nodes edges)

/-! ## Reports -/

/-- Work that reports events on its way. -/
abbrev Reporting := StateM (List Event)

/-- Reports an event after those that have been reported. -/
def report (event : Event) : Reporting Unit :=
  modify (· ++ [event])

/-- Turns ids into references, as `Resolver.resolve` does, and reports each id that stands for nothing. -/
def Graph.Resolver.follow (resolver : Resolver) :
    List String → Naming.Cache → Reporting (List String × Naming.Cache)
  | [], names => return ([], names)
  | id :: rest, names =>
    match resolver.target? id with
    | some ⟨kind, node⟩ => do
      let (name, names) := names.nameFor node.namingSource
      let (references, names) ← resolver.follow rest names
      return (address kind name :: references, names)
    | none => do
      report (.unresolved id)
      resolver.follow rest names

/-- Renders blocks one after another and reports each of them. -/
def renderBlocks : List Hcl.Block → Reporting (List String)
  | [] => return []
  | block :: rest => do
    report (Run.blockEvent block)
    let texts ← renderBlocks rest
    return block.text :: texts

/-- Gives each declaration its tags and references and renders its blocks. -/
def renderEach (config : Config) (edges : List Edge) (resolver : Resolver) :
    List Emitted → Naming.Cache → Reporting (List String)
  | [], _ => return []
  | e :: rest, names => do
    let (references, names) ← resolver.follow (dependencyIds e.candidate.node.id edges) names
    let texts ← renderBlocks (e.declaration.finish (config.tags e) references).blocks
    let others ← renderEach config edges resolver rest names
    return texts ++ others

/-- Ends a run: reports its warnings and that it is completed, and gives its output. -/
def conclude (text : String) (warnings : List Warning) (blocks : Nat) : Reporting Output := do
  warnings.forM fun w => report (.warning w)
  report (.completed blocks warnings.length)
  return ⟨text, warnings, blocks⟩

/-- Generates the output for a snapshot, as `Config.generate` does, and reports on the way. -/
def Config.perform (config : Config) (snapshot : Snapshot) : Reporting Output := do
  report (.started snapshot.nodes.length snapshot.edges.length)
  if snapshot.isEmptyGraph then conclude Output.emptyGraphMarker snapshot.loadWarnings 0
  else
    let screened := snapshot.nodes.filterMap Record.warning?
    let (candidates, cycle) :=
      arrange config.ordering snapshot.edges (snapshot.nodes.filterMap Record.candidate?)
    let ((emitted, failures), names) := emitEach candidates .empty
    let warnings := snapshot.loadWarnings ++ screened ++ cycle ++ failures
    if emitted.isEmpty then conclude Output.noValidResourcesMarker warnings 0
    else
      let texts ←
        renderEach config snapshot.edges ⟨emitted.map (·.candidate)⟩ emitted names
      conclude ("\n\n".intercalate texts) (warnings ++ duplicates [] emitted) texts.length

/-- The events of a run over a snapshot, in order. -/
def Config.trace (config : Config) (snapshot : Snapshot) : List Event :=
  ((config.perform snapshot).run []).2

end CloudCanvas
