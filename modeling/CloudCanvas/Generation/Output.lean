/-
What a generation run gives: the text of the configuration or a marker in its place, the warnings, and
the number of blocks in the text.
-/
import CloudCanvas.Graph.Warning

namespace CloudCanvas

/-- The result of a generation run. -/
structure Output where
  text : String
  warnings : List Warning
  blocks : Nat
  deriving DecidableEq

namespace Output

/-- The text for a graph without nodes. -/
def emptyGraphMarker : String := "# No resources to generate"

/-- The text for a graph whose nodes all had to be left out. -/
def noValidResourcesMarker : String := "# No valid resources to generate"

/-- Whether the graph had no nodes at all. -/
def isEmptyGraph (output : Output) : Bool :=
  output.text == emptyGraphMarker

/-- Whether the graph had nodes, but none of them could be declared. -/
def hasNoValidResources (output : Output) : Bool :=
  output.text == noValidResourcesMarker

/-- Whether the text declares anything. -/
def hasBlocks (output : Output) : Bool :=
  0 < output.blocks

/-- The output as a document value. -/
def toJson (output : Output) : Json :=
  .object
    [("text", .string output.text), ("warnings", .array (output.warnings.map Warning.toJson)),
      ("blocks", .ofNat output.blocks)]

/-! ## Decoding -/

/-- What a decoder expects an output to be. -/
def expected : String := "struct GeneratedOutput"

/-- An output on the way: the fields that have been seen so far. -/
structure Draft where
  text : Option String
  warnings : Option (List Warning)
  blocks : Option Nat

/-- Takes one field in; fields of other names are passed over. -/
def Draft.field (draft : Draft) (key : String) (v : Json) : Except DecodeError Draft :=
  match key with
  | "text" => (Json.fill key draft.text Json.toText v).map ({ draft with text := · })
  | "warnings" =>
    (Json.fill key draft.warnings (Json.toList Warning.decode) v).map ({ draft with warnings := · })
  | "blocks" => (Json.fill key draft.blocks Json.toCount v).map ({ draft with blocks := · })
  | _ => .ok draft

/-- The output of a draft; every field has to be there. -/
def Draft.finish (draft : Draft) : Except DecodeError Output := do
  let text ← Json.required "text" draft.text
  let warnings ← Json.required "warnings" draft.warnings
  let blocks ← Json.required "blocks" draft.blocks
  return ⟨text, warnings, blocks⟩

/-- Decodes an output from its fields. -/
def ofFields (fields : Json.Fields) : Except DecodeError Output := do
  let draft ← fields.foldlM (fun draft (key, v) => Draft.field draft key v) ⟨none, none, none⟩
  draft.finish

/-- Decodes an output from its items: the text, the warnings and the number of blocks. -/
def ofItems (items : List Json) : Except DecodeError Output := do
  let size := expected ++ " with 3 elements"
  let (text, rest) ← Json.take 0 size Json.toText items
  let (warnings, rest) ← Json.take 1 size (Json.toList Warning.decode) rest
  let (blocks, rest) ← Json.take 2 size Json.toCount rest
  Json.exhausted items rest ⟨text, warnings, blocks⟩

/-- Decodes an output. -/
def decode : Decoder Output
  | .object fields => ofFields fields
  | .array items => ofItems items
  | v => Json.refuse expected v

end Output

end CloudCanvas
