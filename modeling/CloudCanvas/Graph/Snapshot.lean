/-
Snapshots of a graph. `Snapshot.load` is lenient: only the outer shape of a document can be refused, and
an element that cannot be decoded is dropped with a warning. `Snapshot.decode` is strict: it refuses the
document at the first element that cannot be decoded.
-/
import CloudCanvas.Graph.Edge
import CloudCanvas.Graph.Node
import CloudCanvas.Graph.Warning

namespace CloudCanvas.Graph

/-- Everything on the canvas when generation was requested. -/
structure Snapshot where
  nodes : List Record
  edges : List Edge
  /-- What was dropped while the snapshot was loaded. -/
  loadWarnings : List Warning

/-- Why a document is no snapshot at all. -/
inductive ShapeDefect
  | notObject
  | notArray (key : String) (found : Json.Shape)
  deriving DecidableEq

/-- The message of a defect. -/
def ShapeDefect.message : ShapeDefect → String
  | notObject => "snapshot is not a JSON object"
  | notArray key found => "`" ++ key ++ "` must be an array, got " ++ found.name

namespace Snapshot

/-- The snapshot with nothing on the canvas. -/
def empty : Snapshot := ⟨[], [], []⟩

/-- The snapshot of well-formed nodes. -/
def ofNodes (nodes : List Node) (edges : List Edge) : Snapshot :=
  ⟨nodes.map Node.toRecord, edges, []⟩

/-! ## Lenient loading -/

/-- The array at `key`; a missing one and null are empty. -/
def elements (fields : Json.Fields) (key : String) : Except ShapeDefect (List Json) :=
  match fields.get? key with
  | none | some .null => .ok []
  | some (.array items) => .ok items
  | some v => .error (.notArray key v.shape)

/-- An array element that could not be decoded. -/
structure Dropped where
  index : Nat
  cause : DecodeError

/-- Decodes the elements one by one, those that cannot be decoded apart; `start` is the index of the
first. -/
def decodeEach {α : Type} (decode : Decoder α) (start : Nat) : List Json → List α × List Dropped
  | [] => ([], [])
  | v :: rest =>
    let (kept, dropped) := decodeEach decode (start + 1) rest
    match decode v with
    | .ok a => (a :: kept, dropped)
    | .error e => (kept, ⟨start, e⟩ :: dropped)

/-- The warning about a dropped element of the array at `key`. -/
def Dropped.warning (key : String) (kind : WarningKind) (d : Dropped) : Warning :=
  ⟨none, kind, s!"{key}[{d.index}] could not be decoded: " ++ d.cause.message⟩

/-- Loads a snapshot from a document. -/
def load : Json → Except ShapeDefect Snapshot
  | .object fields => do
    let nodeElements ← elements fields "nodes"
    let edgeElements ← elements fields "edges"
    let (nodes, droppedNodes) := decodeEach Record.decode 0 nodeElements
    let (edges, droppedEdges) := decodeEach Edge.decode 0 edgeElements
    return ⟨nodes, edges,
      droppedNodes.map (Dropped.warning "nodes" .malformedNode) ++
        droppedEdges.map (Dropped.warning "edges" .malformedEdge)⟩
  | _ => .error .notObject

/-! ## Strict decoding -/

/-- A snapshot on the way: the fields that have been seen so far. -/
structure Draft where
  nodes : Option (List Record)
  edges : Option (List Edge)

/-- Takes one field in; fields of other names are passed over. -/
def Draft.field (draft : Draft) (key : String) (v : Json) : Except DecodeError Draft :=
  match key with
  | "nodes" =>
    (Json.fill "nodes" draft.nodes (Json.toList Record.decode) v).map ({ draft with nodes := · })
  | "edges" =>
    (Json.fill "edges" draft.edges (Json.toList Edge.decode) v).map ({ draft with edges := · })
  | _ => .ok draft

/-- The snapshot of a draft; missing arrays are empty. -/
def Draft.finish (draft : Draft) : Snapshot :=
  ⟨draft.nodes.getD [], draft.edges.getD [], []⟩

/-- Decodes a snapshot from its fields. -/
def ofFields (fields : Json.Fields) : Except DecodeError Snapshot :=
  (fields.foldlM (fun draft (key, v) => Draft.field draft key v) ⟨none, none⟩).map Draft.finish

/-- Decodes a snapshot from its items: the nodes and the edges. -/
def ofItems (items : List Json) : Except DecodeError Snapshot := do
  let (nodes, rest) ← Json.takeOr [] (Json.toList Record.decode) items
  let (edges, rest) ← Json.takeOr [] (Json.toList Edge.decode) rest
  Json.exhausted items rest ⟨nodes, edges, []⟩

/-- Decodes a snapshot, refusing any defect. -/
def decode : Decoder Snapshot
  | .object fields => ofFields fields
  | .array items => ofItems items
  | v => Json.refuse "struct GraphSnapshot" v

/-- The snapshot as a document value. Load warnings are not written. -/
def toJson (snapshot : Snapshot) : Json :=
  .object
    [("nodes", .array (snapshot.nodes.map Record.toJson)),
      ("edges", .array (snapshot.edges.map Edge.toJson))]

end Snapshot

end CloudCanvas.Graph
