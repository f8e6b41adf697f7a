/-
Reading a configuration from the text of a configuration file. The key of the name tag must not be
blank, and no default tag may have it.
-/
import CloudCanvas.Generation.Config
import CloudCanvas.Text.Blank
import CloudCanvas.Toml.Document

namespace CloudCanvas

/-- Why the text of a configuration file gives no configuration. -/
inductive ConfigDefect
  /-- The file cannot be read, or a value in it stands for nothing. -/
  | unreadable
  /-- The file holds something other than a configuration. -/
  | refused (cause : DecodeError)
  | blankNameTagKey
  | nameTagRedefined (key : String)
  deriving DecidableEq

namespace ConfigDefect

/-- What is said about a file that cannot be read. -/
def unreadableMessage : String := "TOML parse error"

/-- The characters behind the last line break. -/
def lastLine (s : List Char) : List Char :=
  (s.reverse.takeWhile (· != '\n')).reverse

/-- The beginnings by which a refusal is known. -/
def refusals : List String := ["unknown field", "unknown variant", "invalid type"]

/-- The last line of a refusal, when that still begins as a refusal does. -/
def refusalMessage (message : String) : String :=
  let line := lastLine message.toList
  if refusals.any fun beginning => beginning.toList.isPrefixOf line then String.ofList line
  else unreadableMessage

/-- The message of a defect. -/
def message : ConfigDefect → String
  | unreadable => unreadableMessage
  | refused cause => refusalMessage cause.message
  | blankNameTagKey => "`name_tag_key` must not be empty"
  | nameTagRedefined key => "`default_tags` must not redefine the name tag `" ++ key ++ "`"

end ConfigDefect

namespace Toml

/-- A number that is no integer, with all places written out. -/
def Real.text? : Real → Option String
  | .finite x => some x.positionalText
  | .infinite negative => some (if negative then "-inf" else "inf")
  | .notANumber => some "NaN"
  | .excessive => none

/-- An integer as a decoder finds it, by the smallest word that holds it. -/
def foundInteger? (n : Int) : Option Found :=
  if -(powerOfTwo 63 : Int) ≤ n ∧ n < powerOfTwo 64 then some (.integer n)
  else if -(powerOfTwo 127 : Int) ≤ n ∧ n < powerOfTwo 127 then some (.wideInteger n "i128")
  else if 0 ≤ n ∧ n < powerOfTwo 128 then some (.wideInteger n "u128")
  else none

/-- A value as a decoder finds it; none for a number that no word and no format can hold. -/
def Value.found? : Value → Option Found
  | .string s => some (.string s)
  | .integer n => foundInteger? n
  | .real x => x.text?.map .real
  | .boolean b => some (.boolean b)
  | .moment _ | .table .. => some .map
  | .array _ | .tables .. => some .sequence

/-- Refuses a value of the wrong type. -/
def refuse {α : Type} (expected : String) (v : Value) : Except ConfigDefect α :=
  match v.found? with
  | some found => .error (.refused (.invalidType found expected))
  | none => .error .unreadable

/-- Decodes a text. -/
def toText : Value → Except ConfigDefect String
  | .string s => .ok s
  | v => refuse "a string" v

/-- The key under which a date or time stands when it is taken for a map. -/
def momentKey : String := "$__toml_private_datetime"

/-- Decodes a map from texts to texts, in increasing order of its keys. -/
def toTextMap : Value → Except ConfigDefect (Keyed String)
  | .table _ entries => do
    let tags ← entries.mapM fun (key, v) => (toText v).map fun s => (key, s)
    return Keyed.ofList tags
  | .moment m => .ok [(momentKey, m.text)]
  | v => refuse "a map" v

/-- Whether a value is an empty table or array, as it stands behind the name of a variant. -/
def Value.isEmpty : Value → Bool
  | .table _ entries => entries.isEmpty
  | .array items => items.isEmpty
  | _ => false

/-- Decodes an ordering: its name, or a table with its name as the only key. -/
def toOrdering : Value → Except ConfigDefect BlockOrdering
  | .string name => (Json.variantNamed BlockOrdering.variants name).mapError .refused
  | .table _ [(name, v)] =>
    match Json.variantNamed BlockOrdering.variants name with
    | .error e => .error (.refused e)
    | .ok ordering => if v.isEmpty then .ok ordering else .error .unreadable
  | _ => .error .unreadable

end Toml

namespace Config

/-- Takes one entry of a configuration file in. -/
def Draft.entry (draft : Draft) (key : String) (v : Toml.Value) : Except ConfigDefect Draft :=
  match key with
  | "ordering" => (Toml.toOrdering v).map ({ draft with ordering := some · })
  | "name_tag_key" => (Toml.toText v).map ({ draft with nameTagKey := some · })
  | "default_tags" => (Toml.toTextMap v).map ({ draft with defaultTags := some · })
  | _ => .error (.refused (.unknownField key fieldNames))

/-- Decodes a configuration from the table of a file, whose entries come in increasing order of their
keys. -/
def ofTable (entries : Keyed Toml.Value) : Except ConfigDefect Config :=
  (entries.foldlM (fun draft (key, v) => Draft.entry draft key v) Draft.empty).map Draft.finish

/-- Accepts a configuration whose name tag has a key that is not blank and that no default tag has. -/
def validate (config : Config) : Except ConfigDefect Config :=
  if Text.isBlank config.nameTagKey then .error .blankNameTagKey
  else if (config.defaultTags.get? config.nameTagKey).isSome then
    .error (.nameTagRedefined config.nameTagKey)
  else .ok config

/-- Reads a configuration from the text of a file. -/
def parse (text : String) : Except ConfigDefect Config :=
  match Toml.parse? text with
  | none => .error .unreadable
  | some entries => (ofTable entries).bind validate

end Config

end CloudCanvas
