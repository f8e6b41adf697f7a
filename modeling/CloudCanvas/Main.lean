/-
The program. Everything that it decides is decided by `Command.run`; here the files are those of the
system.
-/
import CloudCanvas.Command.Execution

namespace CloudCanvas.Command

/-- The cause of a failure of the system. -/
def FileFailure.ofError : IO.Error → FileFailure
  | .noFileOrDirectory .. => .notFound
  | .alreadyExists .. => .alreadyThere
  | .inappropriateType _ 20 _ => .notFolder
  | .inappropriateType _ 21 _ => .isFolder
  | .invalidArgument _ 36 _ => .nameTooLong
  | e => .system (toString e)

/-- Carries an action out, with its failure as a value. -/
def attempt {α : Type} (act : IO α) : IO (Except FileFailure α) := do
  match ← act.toBaseIO with
  | .ok a => return .ok a
  | .error e => return .error (.ofError e)

/-- The content of a file or stream as text. -/
def readText (act : IO ByteArray) : IO (Except FileFailure String) := do
  return (← attempt act).bind textOf

/-- Whether a path leads to a file or folder. -/
def isThere (path : String) : IO Bool := do
  match ← attempt (IO.FS.Handle.mk path .read) with
  | .error .notFound | .error .notFolder => return false
  | _ => return true

/-- Access to the files of the system. -/
def systemFiles : Files IO where
  isThere path := isThere path
  read path := readText (IO.FS.withFile path .read fun file => file.readBinToEnd)
  readInput := readText (do (← IO.getStdin).readBinToEnd)
  makeFolders path := attempt (IO.FS.createDirAll path)
  write path text := attempt (IO.FS.writeFile path text)

/-- What is written to the error stream at an ending. -/
def Ending.report? (ending : Ending) : Option String :=
  match ending.envelope? with
  | some document => some document.compact
  | none => ending.failure.map Failure.message

end CloudCanvas.Command

/-- Runs the program with the arguments of the command line. -/
def main (args : List String) : IO UInt32 := do
  let configPath ← IO.getEnv "INFRAGRAPH_CONFIG"
  let ending ← CloudCanvas.Command.run CloudCanvas.Command.systemFiles configPath args
  IO.print ending.output
  if let some report := ending.report? then IO.eprintln report
  return ending.exitCode.toUInt32
