/-
Writing a document value as text: on one line, or indented by two spaces.
-/
import CloudCanvas.Json.Basic
import CloudCanvas.Text.Visible

namespace CloudCanvas.Json

/-- How one character is written inside a string. -/
def escapeChar (c : Char) : String :=
  if c = '"' then "\\\""
  else if c = '\\' then "\\\\"
  else if c = '\n' then "\\n"
  else if c = '\r' then "\\r"
  else if c = '\t' then "\\t"
  else if c = Char.ofNat 8 then "\\b"
  else if c = Char.ofNat 12 then "\\f"
  else if c.toNat < 0x10 then "\\u000" ++ Text.hexText c.toNat
  else if c.toNat < 0x20 then "\\u00" ++ Text.hexText c.toNat
  else c.toString

/-- A string with its quotes. -/
def quoted (s : String) : String :=
  "\"" ++ String.join (s.toList.map escapeChar) ++ "\""

mutual

/-- The value on one line, without spaces. -/
def compact : Json → String
  | .null => "null"
  | .boolean b => toString b
  | .number n => n.text
  | .string s => quoted s
  | .array items => "[" ++ ",".intercalate (compactItems items) ++ "]"
  | .object fields => "\x7b" ++ ",".intercalate (compactFields fields) ++ "\x7d"

/-- The items of an array, each on one line. -/
def compactItems : List Json → List String
  | [] => []
  | v :: rest => compact v :: compactItems rest

/-- The fields of an object, each on one line. -/
def compactFields : List (String × Json) → List String
  | [] => []
  | (key, v) :: rest => (quoted key ++ ":" ++ compact v) :: compactFields rest

end

/-- A line break and the indentation at `depth`. -/
def newLine (depth : Nat) : String :=
  "\n" ++ String.ofList (List.replicate (2 * depth) ' ')

/-- Parts between brackets, each on a line of its own one step deeper; nothing between the brackets
when there is no part. -/
def enclosed (opening closing : String) (depth : Nat) (parts : List String) : String :=
  if parts.isEmpty then opening ++ closing
  else
    opening ++ newLine (depth + 1) ++ ("," ++ newLine (depth + 1)).intercalate parts ++
      newLine depth ++ closing

mutual

/-- The value over several lines, at `depth` steps of indentation. -/
def indented (depth : Nat) : Json → String
  | .array items => enclosed "[" "]" depth (indentedItems (depth + 1) items)
  | .object fields => enclosed "\x7b" "\x7d" depth (indentedFields (depth + 1) fields)
  | .null => "null"
  | .boolean b => toString b
  | .number n => n.text
  | .string s => quoted s

/-- The items of an array at `depth`. -/
def indentedItems (depth : Nat) : List Json → List String
  | [] => []
  | v :: rest => indented depth v :: indentedItems depth rest

/-- The fields of an object at `depth`. -/
def indentedFields (depth : Nat) : List (String × Json) → List String
  | [] => []
  | (key, v) :: rest => (quoted key ++ ": " ++ indented depth v) :: indentedFields depth rest

end

/-- The value over several lines. -/
def pretty (v : Json) : String :=
  indented 0 v

end CloudCanvas.Json
