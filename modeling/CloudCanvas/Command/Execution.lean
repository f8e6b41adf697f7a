/-
Carrying a request out. A generation reads its configuration, then its input, and writes its output at
the very end, so that a failure before that leaves every file as it was.
-/
import CloudCanvas.Command.Arguments
import CloudCanvas.Command.Failure
import CloudCanvas.Command.InputSchema
import CloudCanvas.Compliance.Report
import CloudCanvas.Generation.Run
import CloudCanvas.Json.Printer

namespace CloudCanvas.Command

/-- The result of a request that was carried out: what goes to standard output, and the exit code. -/
structure Result where
  output : Option String
  exitCode : Nat
  deriving DecidableEq

/-- The exit code of a request that was carried out. -/
def exitFine : Nat := 0

/-- The exit code when something needs attention. -/
def exitFindings : Nat := 1

/-- A document as it is printed. -/
def printed (document : Json) : String :=
  document.pretty ++ "\n"

/-- The output of a run in a format. -/
def rendered (format : OutputFormat) (output : Output) : String :=
  match format with
  | .hcl => output.text ++ "\n"
  | .json => printed output.toJson

/-- The exit code of a generation: under `strict`, warnings count. -/
def generateExit (strict : Bool) (output : Output) : Nat :=
  if strict && !output.warnings.isEmpty then exitFindings else exitFine

/-- The exit code of a check. -/
def checkExit (report : Report) : Nat :=
  if report.isCompliant then exitFine else exitFindings

section

variable {m : Type → Type} [Monad m] (files : Files m)

/-- Carries a file operation out, and names it when it fails. -/
def named {α : Type} (operation path : String) (act : m (Except FileFailure α)) :
    ExceptT Failure m α := do
  match ← act with
  | .ok a => return a
  | .error cause => throw (.file operation path cause)

/-- Loads a configuration file. -/
def loadConfig (path : String) : ExceptT Failure m Config := do
  if ← files.isThere path then
    match ← files.read path with
    | .error cause => throw (.configUnreadable cause)
    | .ok text =>
      match Config.parse text with
      | .ok config => return config
      | .error defect => throw (.configDefect path defect)
  else
    throw (.configNotFound path)

/-- Reads the input, which must not be blank. -/
def readInput (input : String) : ExceptT Failure m String := do
  let isStandard := input == standardInput
  let source := if isStandard then "stdin" else input
  let text ← named "read" source (if isStandard then files.readInput else files.read input)
  if Text.isBlank text then throw (.blankInput source)
  return text

/-- Writes an output file; the folders above it are made where they are missing. -/
def writeOutput (path text : String) : ExceptT Failure m Unit := do
  match FilePath.above path with
  | [] => pure ()
  | folder :: _ => named "create" folder (files.makeFolders folder)
  named "write" path (files.write path text)

/-- The configuration of a generation; an ordering on the command line counts before the configured
one. -/
def effectiveConfig (options : GenerateOptions) : ExceptT Failure m Config := do
  let config ←
    match options.config with
    | some path => loadConfig files path
    | none => pure Config.default
  return match options.ordering with
    | some ordering => config.withOrdering ordering
    | none => config

/-- Generates from the input. -/
def generate (options : GenerateOptions) : ExceptT Failure m Result := do
  let config ← effectiveConfig files options
  let text ← readInput files options.input
  let snapshot ← ExceptT.mk (pure (Graph.Snapshot.parse text))
  let output := config.generate snapshot
  let text := rendered options.format output
  let exitCode := generateExit options.strict output
  match options.output with
  | some path =>
    writeOutput files path text
    return ⟨none, exitCode⟩
  | none => return ⟨some text, exitCode⟩

/-- Checks the input. -/
def check (input : String) : ExceptT Failure m Result := do
  let text ← readInput files input
  let snapshot ← ExceptT.mk (pure (Graph.Snapshot.parse text))
  let report := snapshot.check
  return ⟨some (printed report.toJson), checkExit report⟩

/-- Carries a request out. -/
def execute (request : Request) : ExceptT Failure m Result :=
  match request with
  | .generate options => generate files options
  | .schema none => pure ⟨some (printed (.array (Registry.schemas.map Schema.toJson))), exitFine⟩
  | .schema (some kind) => pure ⟨some (printed kind.schema.toJson), exitFine⟩
  | .check input => check files input
  | .inputSchema => pure ⟨some (printed inputSchema), exitFine⟩

/-! ## The program -/

/-- What the program leaves behind. -/
structure Ending where
  /-- What goes to standard output. -/
  output : String
  exitCode : Nat
  /-- Why the request was not carried out. -/
  failure : Option Failure
  /-- Whether a failure is to be reported as a document. -/
  asDocument : Bool
  deriving DecidableEq

/-- The name and the version of the program. -/
def versionText : String := "infragraph 0.1.0\n"

/-- The ending of a command line that is not carried out. Only the version goes to standard output. -/
def Usage.ending (usage : Usage) : Ending :=
  ⟨if usage = .displayVersion then versionText else "", usage.exitCode, none, false⟩

/-- The ending of a request. -/
def Globals.ending (globals : Globals) : Except Failure Result → Ending
  | .ok result => ⟨result.output.getD "", result.exitCode, none, globals.json⟩
  | .error failure => ⟨"", failure.exitCode, some failure, globals.json⟩

/-- A failure as a document, for programs that read it. -/
def envelope (failure : Failure) : Json :=
  .object
    [("status", .string "error"),
      ("error", .object [("message", .string failure.message), ("code", .ofNat failure.exitCode)])]

/-- The document that reports a failure, when that has been asked for. -/
def Ending.envelope? (ending : Ending) : Option Json :=
  if ending.asDocument then ending.failure.map envelope else none

/-- Runs the program on the words of a command line; `configPath` is the configuration file that the
environment names. -/
def run (configPath : Option String) (words : List String) : m Ending :=
  match read configPath words with
  | .error usage => pure usage.ending
  | .ok (request, globals) => globals.ending <$> (execute files request).run

end

end CloudCanvas.Command
