/-
Issues: what a node's properties and the schema of its kind disagree on.
-/
import CloudCanvas.Graph.Candidate
import CloudCanvas.Resource.Coercion
import CloudCanvas.Resource.Registry

namespace CloudCanvas

/-- How serious an issue is. -/
inductive Severity
  | warning
  | error
  deriving DecidableEq

/-- The name of a severity. -/
def Severity.tag : Severity → String
  | warning => "warning"
  | error => "error"

/-- One finding about one node. -/
inductive Issue
  | missingRequired (field : String)
  /-- A select field holds a value outside its options. -/
  | invalidOption (field value : String) (allowed : List String)
  | typeMismatch (field : String) (expected : FieldType) (cause : Mismatch)
  /-- The schema does not declare the property. -/
  | unknownProperty (field : String)
  | unsupportedKind (kind : String)
  deriving DecidableEq

namespace Issue

/-- The severity of an issue: all but undeclared properties are errors. -/
def severity : Issue → Severity
  | unknownProperty _ => .warning
  | _ => .error

/-- Whether an issue is an error. -/
def isError (issue : Issue) : Bool :=
  issue.severity == .error

/-- An issue on one line. -/
def text : Issue → String
  | missingRequired field => "required field `" ++ field ++ "` is not set"
  | invalidOption field value allowed =>
    "`" ++ field ++ "` is \"" ++ value ++ "\", expected one of: " ++ ", ".intercalate allowed
  | typeMismatch field _ cause => "`" ++ field ++ "`: " ++ cause.message
  | unknownProperty field => "unknown property `" ++ field ++ "`"
  | unsupportedKind kind => Graph.unsupportedKind kind

/-- An issue as the fields of a document value. -/
def toFields : Issue → Json.Fields
  | missingRequired field => [("issue", .string "missing_required"), ("field", .string field)]
  | invalidOption field value allowed =>
    [("issue", .string "invalid_option"), ("field", .string field), ("value", .string value),
      ("allowed", .array (allowed.map .string))]
  | typeMismatch field expected cause =>
    [("issue", .string "type_mismatch"), ("field", .string field), ("expected", .string expected.tag),
      ("message", .string cause.message)]
  | unknownProperty field => [("issue", .string "unknown_property"), ("field", .string field)]
  | unsupportedKind kind => [("issue", .string "unsupported_kind"), ("kind", .string kind)]

/-- An issue as a document value. -/
def toJson (issue : Issue) : Json :=
  .object issue.toFields

end Issue

/-! ## Finding issues -/

/-- The issue about a select field whose text is not one of the options. -/
def Field.optionIssue? (field : Field) (v : Json) : Option Issue :=
  match v.asText? with
  | .ok (some text) =>
    if field.options.contains text then none else some (.invalidOption field.name text field.options)
  | _ => none

/-- The issue about a declared property of the value `v`. -/
def Field.issue? (field : Field) (v : Json) : Option Issue :=
  match field.type.read v with
  | .error cause => some (.typeMismatch field.name field.type cause)
  | .ok none => if field.required then some (.missingRequired field.name) else none
  | .ok (some _) => if field.type = .select then field.optionIssue? v else none

/-- The issues about the declared properties, in schema order. -/
def Schema.fieldIssues (schema : Schema) (values : Json.Fields) : List Issue :=
  schema.fields.filterMap fun field => field.issue? (values.getOrNull field.name)

/-- The issues about properties that the schema does not declare, in the order of the properties. -/
def Schema.unknownIssues (schema : Schema) (values : Json.Fields) : List Issue :=
  values.filterMap fun (key, _) =>
    if (schema.field? key).isNone then some (.unknownProperty key) else none

/-- The issues of a node. -/
def Graph.Node.issues (node : Graph.Node) : List Issue :=
  match node.kind? with
  | none => [.unsupportedKind node.kind]
  | some kind => kind.schema.fieldIssues node.properties ++ kind.schema.unknownIssues node.properties

end CloudCanvas
