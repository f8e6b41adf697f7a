/-
Reading property values. The panel sends loosely typed values, such as numbers that were typed into a
text box, and a field's type says how they are to be read. Null, blank texts and empty lists count as
absent; zero and `false` do not.
-/
import CloudCanvas.Hcl.Block
import CloudCanvas.Resource.Schema

namespace CloudCanvas

/-- Why a value cannot be read as the type of its field. -/
inductive Mismatch
  | notText (found : Json.Shape)
  | notNumber (found : Json.Shape)
  /-- A text that is no numeral. -/
  | notNumeral (text : String)
  | notBoolean (found : Json.Shape)
  /-- A text that is neither `true` nor `false`. -/
  | notTruthValue (text : String)
  | notList (found : Json.Shape)
  | notListItem (found : Json.Shape)
  deriving DecidableEq

/-- The message of a mismatch. -/
def Mismatch.message : Mismatch → String
  | notText found => "expected text, got " ++ found.name
  | notNumber found => "expected a number, got " ++ found.name
  | notNumeral text => "expected a number, got \"" ++ text ++ "\""
  | notBoolean found => "expected a boolean, got " ++ found.name
  | notTruthValue text => "expected a boolean, got \"" ++ text ++ "\""
  | notList found => "expected a list, got " ++ found.name
  | notListItem found => "expected list items to be text, got " ++ found.name

namespace Json

/-- Reads a text. Numbers and truth values count as their texts. -/
def asText? : Json → Except Mismatch (Option String)
  | .null => .ok none
  | .string s => .ok (if Text.isBlank s then none else some s)
  | .number n => .ok (some n.text)
  | .boolean b => .ok (some (toString b))
  | v => .error (.notText v.shape)

/-- Reads a number. A text counts as the numeral it holds. -/
def asNumber? : Json → Except Mismatch (Option Number)
  | .null => .ok none
  | .number n => .ok (some n)
  | .string s =>
    if Text.isBlank s then .ok none
    else
      match Number.ofNumeral? (Text.trimChars s.toList) with
      | some n => .ok (some n)
      | none => .error (.notNumeral s)
  | v => .error (.notNumber v.shape)

/-- Reads a truth value. A text counts when it reads `true` or `false`. -/
def asBool? : Json → Except Mismatch (Option Bool)
  | .null => .ok none
  | .boolean b => .ok (some b)
  | .string s =>
    if Text.trim s = "true" then .ok (some true)
    else if Text.trim s = "false" then .ok (some false)
    else .error (.notTruthValue s)
  | v => .error (.notBoolean v.shape)

/-- Reads an item of a list as text. -/
def asListItem : Json → Except Mismatch String
  | .string s => .ok s
  | .number n => .ok n.text
  | .boolean b => .ok (toString b)
  | v => .error (.notListItem v.shape)

/-- Reads a list of texts; an absent list is empty. -/
def asTexts : Json → Except Mismatch (List String)
  | .null => .ok []
  | .array items => items.mapM asListItem
  | v => .error (.notList v.shape)

end Json

/-- Reads a value as a field of the given type. -/
def FieldType.read (type : FieldType) (v : Json) : Except Mismatch (Option Hcl.Expr) :=
  match type with
  | .text | .select => v.asText?.map (·.map .string)
  | .number => v.asNumber?.map (·.map .number)
  | .boolean => v.asBool?.map (·.map .boolean)
  | .array => v.asTexts.map fun items => if items.isEmpty then none else some (.strings items)

end CloudCanvas
