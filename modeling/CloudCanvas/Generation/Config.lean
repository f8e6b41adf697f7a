/-
The configuration of a generation run.
-/
import CloudCanvas.Json.Decoding

namespace CloudCanvas

/-- The order in which declarations are written. -/
inductive BlockOrdering
  /-- The order of the canvas. -/
  | input
  /-- Declarations before those that depend on them. -/
  | dependency
  deriving DecidableEq

namespace BlockOrdering

/-- Every ordering. -/
def all : List BlockOrdering := [input, dependency]

/-- The name of an ordering. -/
def tag : BlockOrdering → String
  | input => "input"
  | dependency => "dependency"

/-- The orderings by name. -/
def variants : List (String × BlockOrdering) :=
  all.map fun ordering => (ordering.tag, ordering)

/-- Decodes an ordering from its name. -/
def decode : Decoder BlockOrdering :=
  Json.toVariant variants

end BlockOrdering

/-- The configuration of a generation run. -/
structure Config where
  ordering : BlockOrdering
  /-- The key of the tag that carries a node's label. -/
  nameTagKey : String
  /-- The tags of every primary block after the name tag, in increasing order of their keys. -/
  defaultTags : Keyed String
  deriving DecidableEq

namespace Config

/-- The configuration when nothing is configured. -/
def default : Config := ⟨.input, "Name", []⟩

/-- The configuration with another ordering. -/
def withOrdering (config : Config) (ordering : BlockOrdering) : Config :=
  { config with ordering }

/-- The configuration with one more default tag, or another value of it. -/
def withTag (config : Config) (key value : String) : Config :=
  { config with defaultTags := Keyed.insert key value config.defaultTags }

/-- The configuration as a document value. -/
def toJson (config : Config) : Json :=
  .object
    [("ordering", .string config.ordering.tag), ("name_tag_key", .string config.nameTagKey),
      ("default_tags", .object (config.defaultTags.map fun (key, v) => (key, .string v)))]

/-! ## Decoding -/

/-- The names of the fields, in order. -/
def fieldNames : List String := ["ordering", "name_tag_key", "default_tags"]

/-- A configuration on the way: the fields that have been seen so far. -/
structure Draft where
  ordering : Option BlockOrdering
  nameTagKey : Option String
  defaultTags : Option (Keyed String)

/-- The draft in which no field has been seen. -/
def Draft.empty : Draft := ⟨none, none, none⟩

/-- Takes one field in; fields of other names are refused. -/
def Draft.field (draft : Draft) (key : String) (v : Json) : Except DecodeError Draft :=
  match key with
  | "ordering" =>
    (Json.fill key draft.ordering BlockOrdering.decode v).map ({ draft with ordering := · })
  | "name_tag_key" =>
    (Json.fill key draft.nameTagKey Json.toText v).map ({ draft with nameTagKey := · })
  | "default_tags" =>
    (Json.fill key draft.defaultTags Json.toTextMap v).map ({ draft with defaultTags := · })
  | _ => .error (.unknownField key fieldNames)

/-- The configuration of a draft; what has not been seen has its default. -/
def Draft.finish (draft : Draft) : Config :=
  ⟨draft.ordering.getD default.ordering, draft.nameTagKey.getD default.nameTagKey,
    draft.defaultTags.getD default.defaultTags⟩

/-- Decodes a configuration from its fields. -/
def ofFields (fields : Json.Fields) : Except DecodeError Config :=
  (fields.foldlM (fun draft (key, v) => Draft.field draft key v) Draft.empty).map Draft.finish

/-- Decodes a configuration from its items: the ordering, the name tag key and the default tags. -/
def ofItems (items : List Json) : Except DecodeError Config := do
  let (ordering, rest) ← Json.takeOr default.ordering BlockOrdering.decode items
  let (nameTagKey, rest) ← Json.takeOr default.nameTagKey Json.toText rest
  let (defaultTags, rest) ← Json.takeOr default.defaultTags Json.toTextMap rest
  Json.exhausted items rest ⟨ordering, nameTagKey, defaultTags⟩

/-- Decodes a configuration. -/
def decode : Decoder Config
  | .object fields => ofFields fields
  | .array items => ofItems items
  | v => Json.refuse "struct GeneratorConfig" v

end Config

end CloudCanvas
