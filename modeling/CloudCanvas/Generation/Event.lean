/-
The events that a run reports on its way.
-/
import CloudCanvas.Graph.Warning

namespace CloudCanvas

/-- How important an event is. -/
inductive Level
  | trace
  | debug
  | info
  | warn
  | error
  deriving DecidableEq

namespace Level

/-- Every level. -/
def all : List Level := [trace, debug, info, warn, error]

/-- The name of a level on the command line. -/
def tag : Level → String
  | trace => "trace"
  | debug => "debug"
  | info => "info"
  | warn => "warn"
  | error => "error"

/-- The name of a level in capitals. -/
def capitals (level : Level) : String :=
  level.tag.map Char.toUpper

end Level

/-- An event of a run. -/
inductive Event
  | started (nodes edges : Nat)
  /-- A reference to a node that has not been declared was left out. -/
  | unresolved (source : String)
  | block (type name : String)
  | warning (w : Warning)
  | completed (blocks warnings : Nat)
  /-- A compliance check has ended. -/
  | checked (flagged errors : Nat)
  deriving DecidableEq

namespace Event

/-- The level of an event. -/
def level : Event → Level
  | started .. | completed .. => .info
  | unresolved _ | block .. | checked .. => .debug
  | warning _ => .warn

/-- Where an event comes from. -/
def target : Event → String
  | unresolved _ => "infragraph_codegen::dependency"
  | checked .. => "infragraph_codegen::compliance"
  | _ => "infragraph::codegen"

/-- The node of a warning, as events write it. -/
def nodeText : Option String → String
  | some id => "Some(" ++ Text.visible id ++ ")"
  | none => "None"

/-- The fields of an event. -/
def fields : Event → Json.Fields
  | started nodes edges =>
    [("event_type", .string "generation.started"), ("nodes", .ofNat nodes), ("edges", .ofNat edges),
      ("message", .string "Generating Terraform configuration")]
  | unresolved source =>
    [("upstream", .string source), ("message", .string "Dropping unresolved dependency reference")]
  | block type name =>
    [("event_type", .string "generation.block"), ("declaration_type", .string type),
      ("name", .string name)]
  | warning w =>
    [("event_type", .string w.kind.eventType), ("node_id", .string (nodeText w.nodeId)),
      ("kind", .string w.kind.tag), ("message", .string w.message)]
  | completed blocks warnings =>
    [("event_type", .string "generation.completed"), ("blocks", .ofNat blocks),
      ("warnings", .ofNat warnings), ("message", .string "Generation complete")]
  | checked flagged errors =>
    [("flagged", .ofNat flagged), ("errors", .ofNat errors),
      ("message", .string "Compliance check finished")]

end Event

end CloudCanvas
