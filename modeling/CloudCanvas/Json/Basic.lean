/-
Document values. An object is a list of fields; fields that were read from a text are in increasing
order of their keys and no key occurs twice.
-/
import CloudCanvas.Keyed
import CloudCanvas.Number.Basic

namespace CloudCanvas

/-- A document value. -/
inductive Json
  | null
  | boolean (b : Bool)
  | number (n : Number)
  | string (s : String)
  | array (items : List Json)
  | object (fields : List (String × Json))

namespace Json

/-- The fields of an object. -/
abbrev Fields := Keyed Json

/-- The six shapes of a value. -/
inductive Shape
  | null
  | boolean
  | number
  | string
  | array
  | object
  deriving DecidableEq

/-- A shape as messages name it. -/
def Shape.name : Shape → String
  | null => "null"
  | boolean => "a boolean"
  | number => "a number"
  | string => "a string"
  | array => "an array"
  | object => "an object"

/-- The shape of a value. -/
def shape : Json → Shape
  | .null => .null
  | .boolean _ => .boolean
  | .number _ => .number
  | .string _ => .string
  | .array _ => .array
  | .object _ => .object

/-- The value of a natural number. -/
def ofNat (n : Nat) : Json :=
  .number (.integer n)

/-- A text, or null when it is absent. -/
def ofText? : Option String → Json
  | some s => .string s
  | none => .null

/-- The value at `key`, null when the key is absent. -/
def Fields.getOrNull (fields : Fields) (key : String) : Json :=
  (fields.get? key).getD .null

end Json

end CloudCanvas
