/-
Identifiers for declarations, made from free-form labels: lowercase letters, digits and underscores,
with no digit in front and no two underscores in a row.
-/
import CloudCanvas.Text.Lowercase

namespace CloudCanvas.Naming

/-- The characters that an identifier keeps. -/
def isKept (c : Char) : Bool :=
  c.isLower || c.isDigit || c == '_'

/-- Puts an underscore for every character that an identifier cannot hold. -/
def mask (c : Char) : Char :=
  if isKept c then c else '_'

/-- Puts an underscore in front of a leading digit. -/
def guardDigit : List Char → List Char
  | [] => []
  | c :: s => if c.isDigit then '_' :: c :: s else c :: s

/-- Leaves one underscore of each run. -/
def collapse : List Char → List Char
  | [] => []
  | [c] => [c]
  | c :: d :: s => if c = '_' ∧ d = '_' then collapse (d :: s) else c :: collapse (d :: s)

/-- The name of a label that leaves nothing behind. -/
def fallback : String := "resource"

/-- The characters of the identifier of a label; none for the empty label. -/
def identifierChars (raw : List Char) : List Char :=
  collapse (guardDigit ((Text.lowercase raw).map mask))

/-- The identifier of a label. -/
def sanitize (raw : String) : String :=
  let name := identifierChars raw.toList
  if name.isEmpty then fallback else String.ofList name

end CloudCanvas.Naming
