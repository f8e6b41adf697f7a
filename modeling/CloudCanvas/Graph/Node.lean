/-
Nodes of a graph. A record is a node as the editor sent it, with every field possibly missing; a node
has an identity, a kind tag, a label and properties.
-/
import CloudCanvas.Resource.Kind
import CloudCanvas.Text.Blank

namespace CloudCanvas.Graph

/-- A node as the editor sent it. -/
structure Record where
  id : Option String
  kind : Option String
  label : Option String
  properties : Option Json

namespace Record

/-! ## Decoding -/

/-- A record on the way: the fields that have been seen so far. -/
structure Draft where
  id : Option (Option String)
  kind : Option (Option String)
  label : Option (Option String)
  properties : Option (Option Json)

/-- Takes one field in. The kind may also be called `type`; fields of other names are passed over. -/
def Draft.field (draft : Draft) (key : String) (v : Json) : Except DecodeError Draft :=
  match key with
  | "id" => (Json.fill "id" draft.id (Json.toOption Json.toText) v).map ({ draft with id := · })
  | "kind" | "type" =>
    (Json.fill "kind" draft.kind (Json.toOption Json.toText) v).map ({ draft with kind := · })
  | "label" =>
    (Json.fill "label" draft.label (Json.toOption Json.toText) v).map ({ draft with label := · })
  | "properties" =>
    (Json.fill "properties" draft.properties Json.toPresent v).map ({ draft with properties := · })
  | _ => .ok draft

/-- The record of a draft; what has not been seen is missing. -/
def Draft.finish (draft : Draft) : Record :=
  ⟨draft.id.getD none, draft.kind.getD none, draft.label.getD none, draft.properties.getD none⟩

/-- Decodes a record from its fields. -/
def ofFields (fields : Json.Fields) : Except DecodeError Record :=
  (fields.foldlM (fun draft (key, v) => Draft.field draft key v) ⟨none, none, none, none⟩).map
    Draft.finish

/-- Decodes a record from its items: the id, the kind, the label and the properties. -/
def ofItems (items : List Json) : Except DecodeError Record := do
  let (id, rest) ← Json.takeOr none (Json.toOption Json.toText) items
  let (kind, rest) ← Json.takeOr none (Json.toOption Json.toText) rest
  let (label, rest) ← Json.takeOr none (Json.toOption Json.toText) rest
  let (properties, rest) ← Json.takeOr none Json.toPresent rest
  Json.exhausted items rest ⟨id, kind, label, properties⟩

/-- Decodes a record. -/
def decode : Decoder Record
  | .object fields => ofFields fields
  | .array items => ofItems items
  | v => Json.refuse "struct NodeRecord" v

/-- The record as a document value. -/
def toJson (record : Record) : Json :=
  .object
    [("id", .ofText? record.id), ("kind", .ofText? record.kind), ("label", .ofText? record.label),
      ("properties", record.properties.getD .null)]

end Record

/-- A well-formed node. Its kind tag may name a kind that is not supported, and its label may be
blank. -/
structure Node where
  id : String
  kind : String
  label : String
  properties : Json.Fields

namespace Node

/-- The kind that the tag names, if it is supported. -/
def kind? (node : Node) : Option Kind :=
  Kind.ofTag? node.kind

/-- The text that names the node: its label, or its id when the label is blank. -/
def namingSource (node : Node) : String :=
  if Text.isBlank node.label then node.id else node.label

/-- The record of a node. -/
def toRecord (node : Node) : Record :=
  ⟨some node.id, some node.kind, some node.label, some (.object node.properties)⟩

end Node

/-- Why a record is no well-formed node. -/
inductive RecordDefect
  | noId
  | noKind (id : String)
  | noLabel (id : String)
  | propertiesNotObject (id : String)
  deriving DecidableEq

/-- The message of a defect. -/
def RecordDefect.message : RecordDefect → String
  | noId => "node has no id"
  | noKind id => "node `" ++ id ++ "` has no kind"
  | noLabel id => "node `" ++ id ++ "` has no label"
  | propertiesNotObject id => "node `" ++ id ++ "` has non-object properties"

namespace Record

/-- A text that is there and not blank. -/
def present? (s : Option String) : Option String :=
  s.filter fun s => !Text.isBlank s

/-- The properties of a record; absent ones and null are no properties. -/
def properties? (record : Record) : Option Json.Fields :=
  match record.properties with
  | none | some .null => some []
  | some (.object fields) => some fields
  | some _ => none

/-- The node of a record, or its first defect. -/
def toNode (record : Record) : Except RecordDefect Node :=
  match present? record.id with
  | none => .error .noId
  | some id =>
    match present? record.kind with
    | none => .error (.noKind id)
    | some kind =>
      match record.label with
      | none => .error (.noLabel id)
      | some label =>
        match record.properties? with
        | none => .error (.propertiesNotObject id)
        | some properties => .ok ⟨id, kind, label, properties⟩

end Record

end CloudCanvas.Graph
