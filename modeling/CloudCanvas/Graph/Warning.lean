/-
Warnings about parts of a graph that were left out or need attention.
-/
import CloudCanvas.Json.Decoding

namespace CloudCanvas

/-- What a warning is about. -/
inductive WarningKind
  | malformedNode
  | malformedEdge
  | unsupportedKind
  | emissionFailed
  | duplicateName
  | dependencyCycle
  deriving DecidableEq

namespace WarningKind

/-- Every kind of warning. -/
def all : List WarningKind :=
  [malformedNode, malformedEdge, unsupportedKind, emissionFailed, duplicateName, dependencyCycle]

/-- The name of the kind. -/
def tag : WarningKind → String
  | malformedNode => "malformed_node"
  | malformedEdge => "malformed_edge"
  | unsupportedKind => "unsupported_kind"
  | emissionFailed => "emission_failed"
  | duplicateName => "duplicate_name"
  | dependencyCycle => "dependency_cycle"

/-- The type of the event that reports a warning of the kind. -/
def eventType : WarningKind → String
  | malformedNode | unsupportedKind | emissionFailed => "generation.node_skipped"
  | malformedEdge => "generation.edge_skipped"
  | duplicateName => "generation.duplicate_name"
  | dependencyCycle => "generation.dependency_cycle"

/-- Decodes a kind of warning from its name. -/
def decode : Decoder WarningKind :=
  Json.toVariant (all.map fun kind => (kind.tag, kind))

end WarningKind

/-- A warning, about one node or about none in particular. -/
structure Warning where
  nodeId : Option String
  kind : WarningKind
  message : String
  deriving DecidableEq

namespace Warning

/-- The warning on one line. -/
def text (w : Warning) : String :=
  match w.nodeId with
  | some id => "[" ++ w.kind.tag ++ "] " ++ id ++ ": " ++ w.message
  | none => "[" ++ w.kind.tag ++ "] " ++ w.message

/-- The warning as a document value. -/
def toJson (w : Warning) : Json :=
  .object
    [("node_id", .ofText? w.nodeId), ("kind", .string w.kind.tag), ("message", .string w.message)]

/-! ## Decoding -/

/-- What a decoder expects a warning to be. -/
def expected : String := "struct GenerationWarning"

/-- A warning on the way: the fields that have been seen so far. -/
structure Draft where
  nodeId : Option (Option String)
  kind : Option WarningKind
  message : Option String

/-- Takes one field in; fields of other names are passed over. -/
def Draft.field (draft : Draft) (key : String) (v : Json) : Except DecodeError Draft :=
  match key with
  | "node_id" =>
    (Json.fill "node_id" draft.nodeId (Json.toOption Json.toText) v).map ({ draft with nodeId := · })
  | "kind" => (Json.fill "kind" draft.kind WarningKind.decode v).map ({ draft with kind := · })
  | "message" => (Json.fill "message" draft.message Json.toText v).map ({ draft with message := · })
  | _ => .ok draft

/-- The warning of a draft. The node may be missing, the rest may not. -/
def Draft.finish (draft : Draft) : Except DecodeError Warning := do
  let kind ← Json.required "kind" draft.kind
  let message ← Json.required "message" draft.message
  return ⟨draft.nodeId.getD none, kind, message⟩

/-- Decodes a warning from its fields. -/
def ofFields (fields : Json.Fields) : Except DecodeError Warning := do
  let draft ← fields.foldlM (fun draft (key, v) => Draft.field draft key v) ⟨none, none, none⟩
  draft.finish

/-- Decodes a warning from its items: the node, the kind and the message. -/
def ofItems (items : List Json) : Except DecodeError Warning := do
  let size := expected ++ " with 3 elements"
  let (nodeId, rest) ← Json.take 0 size (Json.toOption Json.toText) items
  let (kind, rest) ← Json.take 1 size WarningKind.decode rest
  let (message, rest) ← Json.take 2 size Json.toText rest
  Json.exhausted items rest ⟨nodeId, kind, message⟩

/-- Decodes a warning. -/
def decode : Decoder Warning
  | .object fields => ofFields fields
  | .array items => ofItems items
  | v => Json.refuse expected v

end Warning

end CloudCanvas
