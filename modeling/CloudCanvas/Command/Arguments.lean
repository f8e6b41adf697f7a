/-
The command line of the program: what can be asked for, and with which options.
-/
import CloudCanvas.Command.Grammar
import CloudCanvas.Generation.Config
import CloudCanvas.Generation.Event
import CloudCanvas.Resource.Kind

namespace CloudCanvas.Command

/-- The form in which generated text is given. -/
inductive OutputFormat
  /-- The configuration text alone. -/
  | hcl
  /-- Text, warnings and number of blocks as a document. -/
  | json
  deriving DecidableEq

namespace OutputFormat

/-- Every format. -/
def all : List OutputFormat := [hcl, json]

/-- The name of a format. -/
def tag : OutputFormat → String
  | hcl => "hcl"
  | json => "json"

end OutputFormat

/-- What is asked of a generation. -/
structure GenerateOptions where
  input : String
  output : Option String
  config : Option String
  ordering : Option BlockOrdering
  format : OutputFormat
  strict : Bool
  deriving DecidableEq

/-- What the program is asked to do. -/
inductive Request
  | generate (options : GenerateOptions)
  /-- Print the schema of a kind, or all schemas. -/
  | schema (kind : Option Kind)
  | check (input : String)
  /-- Print the schema of the snapshot format. -/
  | inputSchema
  deriving DecidableEq

/-- What applies to every request. -/
structure Globals where
  level : Level
  json : Bool
  deriving DecidableEq

/-! ## Settings -/

/-- The global options as far as they have been given at one place of the command line. -/
structure GlobalSettings where
  level : Option Level
  json : Bool

/-- No global option has been given. -/
def GlobalSettings.empty : GlobalSettings := ⟨none, false⟩

/-- The global options: those given behind the subcommand count before those in front of it. -/
def GlobalSettings.merge (before after : GlobalSettings) : Globals :=
  ⟨(after.level <|> before.level).getD .warn, before.json || after.json⟩

/-- The settings of a subcommand. -/
structure Settings where
  globals : GlobalSettings
  input : Option String
  kind : Option Kind
  output : Option String
  config : Option String
  ordering : Option BlockOrdering
  format : Option OutputFormat
  strict : Bool

/-- Nothing has been given. -/
def Settings.empty : Settings :=
  ⟨.empty, none, none, none, none, none, none, false⟩

/-! ## Options -/

/-- A text that names one of several values. -/
def choose {α : Type} (values : List α) (tag : α → String) (text : String) : Except Usage α :=
  match values.find? fun a => tag a == text with
  | some a => .ok a
  | none => .error .invalidValue

/-- A text that names a file, which cannot be empty. -/
def filePath (text : String) : Except Usage String :=
  if text.isEmpty then .error .invalidValue else .ok text

/-- The option that asks for help. -/
def helpOption {σ : Type} : Parameter σ where
  long := "help"
  short := some 'h'
  takesText := false
  isSet _ := false
  set _ _ := .error .displayHelp

/-- The option that asks for the version. -/
def versionOption {σ : Type} : Parameter σ where
  long := "version"
  short := some 'V'
  takesText := false
  isSet _ := false
  set _ _ := .error .displayVersion

/-- The global options, over settings that hold theirs at `get`. -/
def globalOptions {σ : Type} (get : σ → GlobalSettings) (put : GlobalSettings → σ → σ) :
    List (Parameter σ) :=
  [{ long := "level"
     short := some 'l'
     takesText := true
     isSet s := (get s).level.isSome
     set text s := (choose Level.all Level.tag text).map fun level =>
       put { get s with level := some level } s },
   { long := "json"
     short := none
     takesText := false
     isSet s := (get s).json
     set _ s := .ok (put { get s with json := true } s) },
   helpOption]

/-- The options of every subcommand. -/
def commonOptions : List (Parameter Settings) :=
  globalOptions Settings.globals fun globals s => { s with globals }

/-- The file to read, or a dash for standard input. -/
def inputArgument : Parameter Settings where
  long := "input"
  short := none
  takesText := true
  isSet s := s.input.isSome
  set text s := .ok { s with input := some text }

/-- The kind whose schema is printed. -/
def kindArgument : Parameter Settings where
  long := "kind"
  short := none
  takesText := true
  isSet s := s.kind.isSome
  set text s :=
    match Kind.ofTag? text with
    | some kind => .ok { s with kind := some kind }
    | none => .error .valueValidation

/-- The configuration file. -/
def configOption : Parameter Settings where
  long := "config"
  short := none
  takesText := true
  isSet s := s.config.isSome
  set text s := (filePath text).map fun path => { s with config := some path }

/-- The options of a generation. -/
def generateOptions : List (Parameter Settings) :=
  [{ long := "output"
     short := some 'o'
     takesText := true
     isSet s := s.output.isSome
     set text s := (filePath text).map fun path => { s with output := some path } },
   configOption,
   { long := "ordering"
     short := none
     takesText := true
     isSet s := s.ordering.isSome
     set text s := (choose BlockOrdering.all BlockOrdering.tag text).map fun ordering =>
       { s with ordering := some ordering } },
   { long := "format"
     short := none
     takesText := true
     isSet s := s.format.isSome
     set text s := (choose OutputFormat.all OutputFormat.tag text).map fun format =>
       { s with format := some format } },
   { long := "strict"
     short := none
     takesText := false
     isSet s := s.strict
     set _ s := .ok { s with strict := true } }]

/-! ## Commands -/

/-- The names of the subcommands; `help` describes the others. -/
def subcommandNames : List String :=
  ["generate", "schema", "check", "input-schema", "help"]

/-- The grammar in front of the subcommand. -/
def rootGrammar : Grammar GlobalSettings where
  options := versionOption :: globalOptions id fun globals _ => globals
  positional := none
  subcommands := subcommandNames

/-- The grammar of a subcommand with the given options and argument. -/
def subcommandGrammar (options : List (Parameter Settings)) (positional : Option (Parameter Settings)) :
    Grammar Settings where
  options := options ++ commonOptions
  positional := positional
  subcommands := []

/-- Standard input, where a file to read can be named. -/
def standardInput : String := "-"

/-- Takes the configuration file from the environment when no option names one. -/
def Settings.withEnvironment (s : Settings) : Option String → Except Usage Settings
  | some path => if s.config.isSome then .ok s else configOption.set path s
  | none => .ok s

/-- What `help` has to say about the words behind it. -/
def helpAbout : List String → Usage
  | [] => .displayHelp
  | [name] => if subcommandNames.contains name then .displayHelp else .invalidSubcommand
  | _ => .invalidSubcommand

/-- Reads a subcommand with the words behind it. -/
def readSubcommand (configPath : Option String) (name : String) (words : List String) :
    Except Usage (Request × GlobalSettings) :=
  match name with
  | "generate" => do
    let grammar := subcommandGrammar generateOptions (some inputArgument)
    let s ← (← grammar.readAll .empty words).withEnvironment configPath
    return (.generate ⟨s.input.getD standardInput, s.output, s.config, s.ordering,
      s.format.getD .hcl, s.strict⟩, s.globals)
  | "schema" => do
    let s ← (subcommandGrammar [] (some kindArgument)).readAll .empty words
    return (.schema s.kind, s.globals)
  | "check" => do
    let s ← (subcommandGrammar [] (some inputArgument)).readAll .empty words
    return (.check (s.input.getD standardInput), s.globals)
  | "input-schema" => do
    let s ← (subcommandGrammar [] none).readAll .empty words
    return (.inputSchema, s.globals)
  | _ => .error (helpAbout words)

/-- Reads a command line; `configPath` is the configuration file that the environment names. -/
def read (configPath : Option String) (words : List String) : Except Usage (Request × Globals) := do
  let (reading, subcommand) ← rootGrammar.read (.start .empty) words
  match subcommand with
  | none =>
    let settings := (← reading.settle).settings
    if settings.level.isNone && !settings.json then .error .displayHelpOnMissingSubcommand
    else .error .missingSubcommand
  | some (name, rest) =>
    let (request, after) ← readSubcommand configPath name rest
    return (request, (← reading.settle).settings.merge after)

end CloudCanvas.Command
