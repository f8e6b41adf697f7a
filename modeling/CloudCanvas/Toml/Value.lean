/-
Values of a configuration file, and how assignments and table headers build the table of a whole file.
A key is assigned once, and a table that has been written is not opened again.
-/
import CloudCanvas.Keyed
import CloudCanvas.Number.Shortest
import CloudCanvas.Toml.Moment

namespace CloudCanvas.Toml

/-- A number that is no integer. -/
inductive Real
  | finite (x : Binary64)
  | infinite (negative : Bool)
  | notANumber
  /-- A numeral beyond the largest finite number. -/
  | excessive
  deriving DecidableEq

/-- How a table has come about. -/
inductive Origin
  /-- It has a header of its own. -/
  | header
  /-- It is named by a longer header only. -/
  | implied
  /-- It is named by a dotted key. -/
  | dotted
  /-- It is written as a value. -/
  | inline
  deriving DecidableEq

/-- A value of a configuration file. -/
inductive Value
  | string (s : String)
  | integer (n : Int)
  | real (x : Real)
  | boolean (b : Bool)
  /-- A date, a time or both. -/
  | moment (m : Moment)
  | array (items : List Value)
  | table (origin : Origin) (entries : List (String × Value))
  /-- An array of tables with headers: those before the last, and the last. -/
  | tables (earlier : List (List (String × Value))) (last : List (String × Value))

/-- A table that has come about without being written as such: it may still grow. -/
def Origin.isImplicit : Origin → Bool
  | implied | dotted => true
  | header | inline => false

/-- A key with dots, and the value assigned to it. -/
structure Assignment where
  path : List String
  value : Value

/-- Assigns a value. Tables that a dotted key passes through have to be implicit, and the innermost one
has to be named by dotted keys only: `inDotted` tells whether that is the case here. -/
def assignAt (inDotted : Bool) (value : Value) : List String → Keyed Value → Option (Keyed Value)
  | [], _ => none
  | [key], entries =>
    if inDotted && (entries.get? key).isNone then some (Keyed.insert key value entries) else none
  | key :: rest, entries =>
    match entries.get? key with
    | none =>
      (assignAt true value rest []).map fun sub => Keyed.insert key (.table .dotted sub) entries
    | some (.table origin sub) =>
      if origin.isImplicit then
        (assignAt (origin == .dotted) value rest sub).map fun sub =>
          Keyed.insert key (.table origin sub) entries
      else none
    | some (.tables earlier last) =>
      (assignAt false value rest last).map fun last => Keyed.insert key (.tables earlier last) entries
    | some _ => none

/-- Carries assignments out, one after another. -/
def assignAll (assignments : List Assignment) (entries : Keyed Value) : Option (Keyed Value) :=
  assignments.foldlM (fun entries a => assignAt true a.value a.path entries) entries

/-- The header of a section. -/
inductive Header
  /-- `[path]` -/
  | table (path : List String)
  /-- `[[path]]`, which adds a table to an array. -/
  | element (path : List String)

/-- A header with the assignments under it. -/
structure Section where
  header : Header
  assignments : List Assignment

/-- Changes what stands at a path of tables; tables on the way are made where they are missing. -/
def updateAt (update : Option Value → Option Value) : List String → Keyed Value → Option (Keyed Value)
  | [], _ => none
  | [key], entries => (update (entries.get? key)).map fun v => Keyed.insert key v entries
  | key :: rest, entries =>
    match entries.get? key with
    | none => (updateAt update rest []).map fun sub => Keyed.insert key (.table .implied sub) entries
    | some (.table origin sub) =>
      if origin = .inline then none
      else (updateAt update rest sub).map fun sub => Keyed.insert key (.table origin sub) entries
    | some (.tables earlier last) =>
      (updateAt update rest last).map fun last => Keyed.insert key (.tables earlier last) entries
    | some _ => none

/-- What stands at the path of a header once its section has been read: a table that is new or has been
implied so far, or an array with one more table. -/
def Section.update (section_ : Section) (before : Option Value) : Option Value :=
  match section_.header, before with
  | .table _, none => (assignAll section_.assignments []).map (.table .header)
  | .table _, some (.table .implied sub) => (assignAll section_.assignments sub).map (.table .header)
  | .element _, none => (assignAll section_.assignments []).map (.tables [])
  | .element _, some (.tables earlier last) =>
    (assignAll section_.assignments []).map (.tables (earlier ++ [last]))
  | _, _ => none

/-- The path of a header. -/
def Header.path : Header → List String
  | table path => path
  | element path => path

/-- The table of a file: the assignments before the first header, then the sections. -/
def build (top : List Assignment) (sections : List Section) : Option (Keyed Value) := do
  let root ← assignAll top []
  sections.foldlM (fun entries s => updateAt s.update s.header.path entries) root

end CloudCanvas.Toml
