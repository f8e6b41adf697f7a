/-
Edges of a graph: the target of an edge depends on its source.
-/
import CloudCanvas.Json.Decoding

namespace CloudCanvas.Graph

/-- A directed edge: `target` depends on `source`. -/
structure Edge where
  id : String
  source : String
  target : String
  deriving DecidableEq

namespace Edge

/-- What a decoder expects an edge to be. -/
def expected : String := "struct DependencyEdge"

/-- An edge on the way: the fields that have been seen so far. -/
structure Draft where
  id : Option String
  source : Option String
  target : Option String

/-- Takes one field in. The ends may also be called `sourceNodeId` and `targetNodeId`; fields of other
names are passed over. -/
def Draft.field (draft : Draft) (key : String) (v : Json) : Except DecodeError Draft :=
  match key with
  | "id" => (Json.fill "id" draft.id Json.toText v).map ({ draft with id := · })
  | "source" | "sourceNodeId" =>
    (Json.fill "source" draft.source Json.toText v).map ({ draft with source := · })
  | "target" | "targetNodeId" =>
    (Json.fill "target" draft.target Json.toText v).map ({ draft with target := · })
  | _ => .ok draft

/-- The edge of a draft. The id may be missing, the ends may not. -/
def Draft.finish (draft : Draft) : Except DecodeError Edge := do
  let source ← Json.required "source" draft.source
  let target ← Json.required "target" draft.target
  return ⟨draft.id.getD "", source, target⟩

/-- Decodes an edge from its fields. -/
def ofFields (fields : Json.Fields) : Except DecodeError Edge := do
  let draft ← fields.foldlM (fun draft (key, v) => Draft.field draft key v) ⟨none, none, none⟩
  draft.finish

/-- Decodes an edge from its items: the id, the source and the target. -/
def ofItems (items : List Json) : Except DecodeError Edge := do
  let (id, rest) ← Json.takeOr "" Json.toText items
  let (source, rest) ← Json.take 1 (expected ++ " with 3 elements") Json.toText rest
  let (target, rest) ← Json.take 2 (expected ++ " with 3 elements") Json.toText rest
  Json.exhausted items rest ⟨id, source, target⟩

/-- Decodes an edge. -/
def decode : Decoder Edge
  | .object fields => ofFields fields
  | .array items => ofItems items
  | v => Json.refuse expected v

/-- The edge as a document value. -/
def toJson (edge : Edge) : Json :=
  .object [("id", .string edge.id), ("source", .string edge.source), ("target", .string edge.target)]

end Edge

end CloudCanvas.Graph
