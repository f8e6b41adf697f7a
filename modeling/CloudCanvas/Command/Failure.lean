/-
Failures: why a request was not carried out, with the code, the help and the exit code that go with each
of them.
-/
import CloudCanvas.Command.Files
import CloudCanvas.Generation.ConfigFile
import CloudCanvas.Graph.Snapshot
import CloudCanvas.Json.Parser

namespace CloudCanvas

/-- Why a request was not carried out. -/
inductive Failure
  /-- The document is no snapshot. -/
  | invalidInput (defect : Graph.ShapeDefect)
  | configNotFound (path : String)
  | configDefect (path : String) (defect : ConfigDefect)
  | configUnreadable (cause : Command.FileFailure)
  /-- The text is no document. -/
  | json (defect : Json.Defect)
  /-- The input holds nothing but white space. -/
  | blankInput (source : String)
  | file (operation path : String) (cause : Command.FileFailure)
  deriving DecidableEq

namespace Failure

/-- What is said about a text that is no document. -/
def jsonMessage : Json.Defect → String
  | .unfinished => "the text ends too early"
  | .malformed => "the text is not well-formed"

/-- The message of a failure. -/
def message : Failure → String
  | invalidInput defect => "Invalid graph input: " ++ defect.message
  | configNotFound path => "Configuration file not found: " ++ path
  | configDefect path defect => "Failed to parse configuration " ++ path ++ ": " ++ defect.message
  | configUnreadable cause => "IO error: " ++ cause.message
  | json defect => "JSON error: " ++ jsonMessage defect
  | blankInput source => "CLI/configuration error: no graph snapshot in " ++ source
  | file operation path cause => "Failed to " ++ operation ++ " " ++ path ++ ": " ++ cause.message

/-- The code by which a failure is known. -/
def code : Failure → String
  | invalidInput _ => "infragraph::invalid_input"
  | configNotFound _ => "infragraph::config_not_found"
  | configDefect .. => "infragraph::config_parse_error"
  | configUnreadable _ => "infragraph::io_error"
  | json _ => "infragraph::json_error"
  | blankInput _ => "infragraph::cli::config"
  | file .. => "infragraph::cli::io"

/-- What can be done about a failure. -/
def help? : Failure → Option String
  | invalidInput _ =>
    some "The snapshot must be a JSON object whose `nodes` and `edges` fields are arrays"
  | configDefect .. => some "Supported keys are `ordering`, `name_tag_key` and `[default_tags]`"
  | blankInput _ => some "Pass a snapshot file path or pipe the editor's JSON export on stdin"
  | _ => none

/-- The exit code: files that cannot be read or written are told apart from all else. -/
def exitCode : Failure → Nat
  | configUnreadable _ | file .. => 3
  | _ => 2

end Failure

/-- Reads a snapshot from text. -/
def Graph.Snapshot.parse (text : String) : Except Failure Graph.Snapshot :=
  match Json.parse text with
  | .error defect => .error (.json defect)
  | .ok document => (Graph.Snapshot.load document).mapError .invalidInput

/-- The place of a configuration that comes from no file. -/
def inlinePath : String := "<inline>"

/-- Reads a configuration that comes from no file. -/
def Config.parseInline (text : String) : Except Failure Config :=
  (Config.parse text).mapError (.configDefect inlinePath)

end CloudCanvas
