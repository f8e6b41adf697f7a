/-
String literals of the configuration language. Five characters are reserved inside a literal and are
written as a backslash and a letter; every other character stands for itself.
-/
namespace CloudCanvas.Hcl

/-- The letter that stands after the backslash for a reserved character. -/
def escapeLetter? : Char → Option Char
  | '\\' => some '\\'
  | '"' => some '"'
  | '\n' => some 'n'
  | '\r' => some 'r'
  | '\t' => some 't'
  | _ => none

/-- How one character is written inside a literal. -/
def escapeChar (c : Char) : List Char :=
  match escapeLetter? c with
  | some e => ['\\', e]
  | none => [c]

/-- The characters of a text as they are written inside a literal. -/
def escapeChars (s : List Char) : List Char :=
  s.flatMap escapeChar

/-- A text as it is written inside a literal. -/
def escape (s : String) : String :=
  String.ofList (escapeChars s.toList)

/-- The literal of a text: its escaped form between double quotes. -/
def quote (s : String) : String :=
  "\"" ++ escape s ++ "\""

end CloudCanvas.Hcl
