/-
Schemas: which properties a kind of resource has, how each is entered, and which have to be set.
-/
import CloudCanvas.Resource.Kind

namespace CloudCanvas

/-- How a property is entered. -/
inductive FieldType
  | text
  | number
  | boolean
  /-- One of a fixed set of options. -/
  | select
  /-- A list of texts. -/
  | array
  deriving DecidableEq

/-- The name of a field type. -/
def FieldType.tag : FieldType → String
  | text => "text"
  | number => "number"
  | boolean => "boolean"
  | select => "select"
  | array => "array"

/-- One property of a kind. -/
structure Field where
  name : String
  label : String
  type : FieldType
  /-- The value in a freshly placed node. -/
  default : Json
  /-- The allowed values of a select field. -/
  options : List String
  required : Bool

namespace Field

/-- A text field. -/
def text (name label default : String) : Field :=
  ⟨name, label, .text, .string default, [], false⟩

/-- A number field. -/
def number (name label : String) (default : Nat) : Field :=
  ⟨name, label, .number, .ofNat default, [], false⟩

/-- A checkbox. -/
def boolean (name label : String) (default : Bool) : Field :=
  ⟨name, label, .boolean, .boolean default, [], false⟩

/-- A select field. -/
def select (name label default : String) (options : List String) : Field :=
  ⟨name, label, .select, .string default, options, false⟩

/-- A field for a list of texts. -/
def array (name label : String) (default : List String) : Field :=
  ⟨name, label, .array, .array (default.map .string), [], false⟩

/-- The field, which now has to be set. -/
def mandatory (field : Field) : Field :=
  { field with required := true }

/-- The field as a document value; options are left out when there are none. -/
def toJson (field : Field) : Json :=
  .object <|
    [("name", .string field.name), ("label", .string field.label), ("type", .string field.type.tag),
      ("defaultValue", field.default)] ++
    (if field.options.isEmpty then [] else [("options", .array (field.options.map .string))]) ++
    [("required", .boolean field.required)]

end Field

/-- The properties of a kind. -/
structure Schema where
  kind : Kind
  label : String
  /-- The fields in the order of the panel. -/
  fields : List Field

namespace Schema

/-- The field of a name. -/
def field? (schema : Schema) (name : String) : Option Field :=
  schema.fields.find? fun field => field.name == name

/-- The fields that have to be set. -/
def requiredFields (schema : Schema) : List Field :=
  schema.fields.filter (·.required)

/-- The properties of a freshly placed node. -/
def defaultProperties (schema : Schema) : Json.Fields :=
  Keyed.ofList (schema.fields.map fun field => (field.name, field.default))

/-- The schema as a document value. -/
def toJson (schema : Schema) : Json :=
  .object
    [("kind", .string schema.kind.tag), ("label", .string schema.label),
      ("category", .string schema.kind.category.tag),
      ("declarationType", .string schema.kind.declarationType),
      ("fields", .array (schema.fields.map Field.toJson)),
      ("defaultProperties", .object schema.defaultProperties)]

end Schema

end CloudCanvas
