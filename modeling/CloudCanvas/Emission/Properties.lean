/-
The properties of a node, seen through the schema of its kind: a property can be read when the schema
declares it and its value fits.
-/
import CloudCanvas.Emission.PortRange
import CloudCanvas.Resource.Coercion
import CloudCanvas.Resource.Registry

namespace CloudCanvas

/-- What is wrong with a property of a node. -/
inductive PropertyDefect
  /-- The schema of the kind does not declare the property. -/
  | undeclared (kind : Kind)
  | mismatch (cause : Mismatch)
  /-- An entry of a list of ports is no port range. -/
  | ports (entry : String) (cause : PortRange.Defect)
  deriving DecidableEq

/-- The message of a defect. -/
def PropertyDefect.message : PropertyDefect → String
  | undeclared kind => "not declared in the " ++ kind.tag ++ " schema"
  | mismatch cause => cause.message
  | ports entry cause => cause.message entry

/-- Why the blocks of a node could not be written: a property is defective. -/
structure EmissionError where
  field : String
  defect : PropertyDefect
  deriving DecidableEq

/-- The message of an emission error. -/
def EmissionError.message (e : EmissionError) : String :=
  "property `" ++ e.field ++ "`: " ++ e.defect.message

/-- The properties of a node of a kind. -/
structure Properties where
  kind : Kind
  values : Json.Fields

namespace Properties

/-- The declaration of a property. -/
def declared (props : Properties) (name : String) : Except EmissionError Field :=
  match props.kind.schema.field? name with
  | some field => .ok field
  | none => .error ⟨name, .undeclared props.kind⟩

/-- The value of a property, null when it is absent. -/
def raw (props : Properties) (name : String) : Json :=
  props.values.getOrNull name

/-- Reads a declared property with `read`. -/
def readWith {α : Type} (props : Properties) (name : String)
    (read : Field → Json → Except Mismatch α) : Except EmissionError α :=
  match props.declared name with
  | .error e => .error e
  | .ok field =>
    match read field (props.raw name) with
    | .ok a => .ok a
    | .error cause => .error ⟨name, .mismatch cause⟩

/-- The property as an expression of its declared type. -/
def expr (props : Properties) (name : String) : Except EmissionError (Option Hcl.Expr) :=
  props.readWith name fun field v => field.type.read v

/-- The property as text. -/
def text (props : Properties) (name : String) : Except EmissionError (Option String) :=
  props.readWith name fun _ v => v.asText?

/-- The property as a truth value. -/
def flag (props : Properties) (name : String) : Except EmissionError (Option Bool) :=
  props.readWith name fun _ v => v.asBool?

/-- The property as a list of texts. -/
def texts (props : Properties) (name : String) : Except EmissionError (List String) :=
  props.readWith name fun _ v => v.asTexts

end Properties

end CloudCanvas
