/-
The formats of the log.
-/
import CloudCanvas.Text.Lowercase

namespace CloudCanvas.Command

/-- A format of the log. -/
inductive LogFormat
  | pretty
  | compact
  | json
  deriving DecidableEq

namespace LogFormat

/-- Every format. -/
def all : List LogFormat := [pretty, compact, json]

/-- The name of a format. -/
def tag : LogFormat → String
  | pretty => "pretty"
  | compact => "compact"
  | json => "json"

/-- The name of a format with a capital. -/
def title : LogFormat → String
  | pretty => "Pretty"
  | compact => "Compact"
  | json => "Json"

/-- The format of a name, which may be in capitals. -/
def ofName? (name : String) : Option LogFormat :=
  all.find? fun format => format.tag.toList == Text.lowercase name.toList

/-- The message for a name that no format has. -/
def unknownName (name : String) : String :=
  "Unknown tracing format: " ++ name

end LogFormat

end CloudCanvas.Command
