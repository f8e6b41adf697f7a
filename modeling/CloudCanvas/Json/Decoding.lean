/-
Decoding a document value into the types of the program: the reasons why a value is refused, and the
decoders of texts, sequences and variants from which the records build theirs.

A record decodes from an object, field by field in the order of the object, and from an array, item by
item in the order of its own fields.
-/
import CloudCanvas.Json.Basic
import CloudCanvas.Text.Visible

namespace CloudCanvas

/-- What a decoder found in place of what it expected. -/
inductive Found
  | null
  | boolean (b : Bool)
  | integer (n : Int)
  /-- An integer beyond 64 bits, with the name of the word that holds it. -/
  | wideInteger (n : Int) (word : String)
  /-- A number that is no integer, as it is written. -/
  | real (text : String)
  | string (s : String)
  | sequence
  | map
  deriving DecidableEq

/-- What was found, in the words of a message. -/
def Found.text : Found → String
  | null => "null"
  | boolean b => s!"boolean `{b}`"
  | integer n => s!"integer `{n}`"
  | wideInteger n word => s!"integer `{n}` as {word}"
  | real text => s!"floating point `{text}`"
  | string s => "string " ++ Text.visible s
  | sequence => "sequence"
  | map => "map"

/-- Why a value was refused. -/
inductive DecodeError
  | invalidType (found : Found) (expected : String)
  | invalidValue (found : Found) (expected : String)
  | invalidLength (length : Nat) (expected : String)
  | missingField (name : String)
  | duplicateField (name : String)
  | unknownField (name : String) (known : List String)
  | unknownVariant (name : String) (known : List String)
  deriving DecidableEq

namespace DecodeError

/-- A name as messages write it. -/
def named (name : String) : String :=
  "`" ++ name ++ "`"

/-- The names that would have been known. -/
def choices : List String → String
  | [] => "nothing"
  | [a] => named a
  | [a, b] => named a ++ " or " ++ named b
  | names => "one of " ++ ", ".intercalate (names.map named)

/-- The message of a refusal. -/
def message : DecodeError → String
  | invalidType found expected => "invalid type: " ++ found.text ++ ", expected " ++ expected
  | invalidValue found expected => "invalid value: " ++ found.text ++ ", expected " ++ expected
  | invalidLength length expected => s!"invalid length {length}, expected " ++ expected
  | missingField name => "missing field " ++ named name
  | duplicateField name => "duplicate field " ++ named name
  | unknownField name known => "unknown field " ++ named name ++ ", expected " ++ choices known
  | unknownVariant name known => "unknown variant " ++ named name ++ ", expected " ++ choices known

end DecodeError

/-- A decoder of document values. -/
abbrev Decoder (α : Type) := Json → Except DecodeError α

namespace Json

/-- The value as a decoder finds it. -/
def found : Json → Found
  | .null => .null
  | .boolean b => .boolean b
  | .number (.integer n) => .integer n
  | .number (.real x) => .real x.text
  | .string s => .string s
  | .array _ => .sequence
  | .object _ => .map

/-- Refuses a value of the wrong type. -/
def refuse {α : Type} (expected : String) (v : Json) : Except DecodeError α :=
  .error (.invalidType v.found expected)

/-- Decodes a text. -/
def toText : Decoder String
  | .string s => .ok s
  | v => refuse "a string" v

/-- Decodes an item, or its absence from null. -/
def toOption {α : Type} (decode : Decoder α) : Decoder (Option α)
  | .null => .ok none
  | v => (decode v).map some

/-- Decodes any value; null counts as absent. -/
def toPresent : Decoder (Option Json)
  | .null => .ok none
  | v => .ok (some v)

/-- Decodes a sequence. -/
def toList {α : Type} (decode : Decoder α) : Decoder (List α)
  | .array items => items.mapM decode
  | v => refuse "a sequence" v

/-- Decodes a count that fits an unsigned word of 64 bits. -/
def toCount : Decoder Nat
  | .number (.integer n) =>
    if 0 ≤ n then .ok n.toNat else .error (.invalidValue (.integer n) "usize")
  | v => refuse "usize" v

/-- Decodes a map from texts to texts, in increasing order of its keys. -/
def toTextMap : Decoder (Keyed String)
  | .object fields => do
    let entries ← fields.mapM fun (key, v) => (toText v).map fun s => (key, s)
    return Keyed.ofList entries
  | v => refuse "a map" v

/-- Looks a variant up by its name. -/
def variantNamed {α : Type} (variants : List (String × α)) (name : String) : Except DecodeError α :=
  match variants.lookup name with
  | some a => .ok a
  | none => .error (.unknownVariant name (variants.map (·.1)))

/-- Decodes one of the variants: its name alone, or an object whose only field has that name and the
value null. -/
def toVariant {α : Type} (variants : List (String × α)) : Decoder α
  | .string name => variantNamed variants name
  | .object [(name, v)] =>
    match variantNamed variants name, v with
    | .ok a, .null => .ok a
    | .ok _, v => refuse "unit" v
    | .error e, _ => .error e
  | .object _ => .error (.invalidValue .map "map with a single key")
  | v => refuse "string or map" v

/-! ## Records -/

/-- Fills the slot of the field `name`; a slot is filled once. -/
def fill {α : Type} (name : String) (slot : Option α) (decode : Decoder α) (v : Json) :
    Except DecodeError (Option α) :=
  match slot with
  | some _ => .error (.duplicateField name)
  | none => (decode v).map some

/-- The content of the slot of a field that has to be there. -/
def required {α : Type} (name : String) : Option α → Except DecodeError α
  | some a => .ok a
  | none => .error (.missingField name)

/-- Refuses items beyond the last field of a record. -/
def exhausted {α : Type} (items rest : List Json) (a : α) : Except DecodeError α :=
  if rest.isEmpty then .ok a
  else .error (.invalidLength items.length "fewer elements in array")

/-- Decodes the first item, if there is one; `absent` stands for a missing one. Gives the decoded item
and what is left. -/
def takeOr {α : Type} (absent : α) (decode : Decoder α) : List Json → Except DecodeError (α × List Json)
  | [] => .ok (absent, [])
  | v :: rest => (decode v).map fun a => (a, rest)

/-- Decodes the item at `position`, which has to be there. -/
def take {α : Type} (position : Nat) (expected : String) (decode : Decoder α) :
    List Json → Except DecodeError (α × List Json)
  | [] => .error (.invalidLength position expected)
  | v :: rest => (decode v).map fun a => (a, rest)

end Json

end CloudCanvas
