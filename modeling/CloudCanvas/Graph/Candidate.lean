/-
Candidates: well-formed nodes of a supported kind. A record is a candidate or the subject of a warning.
-/
import CloudCanvas.Graph.Node
import CloudCanvas.Graph.Warning

namespace CloudCanvas.Graph

/-- A well-formed node whose kind is supported. -/
structure Candidate where
  kind : Kind
  node : Node

/-- The warning about a record that is no well-formed node. -/
def Record.malformed (record : Record) (defect : RecordDefect) : Warning :=
  ⟨record.id, .malformedNode, defect.message⟩

/-- What is said about a kind tag that names no supported kind. -/
def unsupportedKind (tag : String) : String :=
  "unsupported resource kind `" ++ tag ++ "`"

/-- The warning about a node whose kind is not supported. -/
def Node.unsupported (node : Node) : Warning :=
  ⟨some node.id, .unsupportedKind, unsupportedKind node.kind⟩

/-- The candidate of a record, or the warning about it. -/
def Record.screen (record : Record) : Except Warning Candidate :=
  match record.toNode with
  | .error defect => .error (record.malformed defect)
  | .ok node =>
    match node.kind? with
    | some kind => .ok ⟨kind, node⟩
    | none => .error node.unsupported

/-- The candidate of a record, if it is one. -/
def Record.candidate? (record : Record) : Option Candidate :=
  match record.screen with
  | .ok candidate => some candidate
  | .error _ => none

/-- The warning about a record, if it is no candidate. -/
def Record.warning? (record : Record) : Option Warning :=
  match record.screen with
  | .ok _ => none
  | .error w => some w

end CloudCanvas.Graph
