/-
Command lines. A grammar lists the options of a command, its positional argument and its subcommands;
reading goes through the words from left to right. An option or argument is taken in when the next one
comes or the words end, so that a fault in how it is followed is found before a fault in its text.
-/
namespace CloudCanvas.Command

/-- Why a command line is not carried out: it asks for help or the version, or it is at fault. -/
inductive Usage
  | displayHelp
  | displayVersion
  /-- Nothing was asked for at all. -/
  | displayHelpOnMissingSubcommand
  | missingSubcommand
  | invalidSubcommand
  | unknownArgument
  /-- A text is missing or is not among the possible ones. -/
  | invalidValue
  /-- A text does not stand for a value. -/
  | valueValidation
  /-- An option stands twice. -/
  | argumentConflict
  /-- A text stands behind an option that takes none. -/
  | tooManyValues
  deriving DecidableEq

namespace Usage

/-- The name of a usage outcome. -/
def name : Usage → String
  | displayHelp => "DisplayHelp"
  | displayVersion => "DisplayVersion"
  | displayHelpOnMissingSubcommand => "DisplayHelpOnMissingArgumentOrSubcommand"
  | missingSubcommand => "MissingSubcommand"
  | invalidSubcommand => "InvalidSubcommand"
  | unknownArgument => "UnknownArgument"
  | invalidValue => "InvalidValue"
  | valueValidation => "ValueValidation"
  | argumentConflict => "ArgumentConflict"
  | tooManyValues => "TooManyValues"

/-- The exit code: help and the version are given on request, all else is a fault. -/
def exitCode : Usage → Nat
  | displayHelp | displayVersion => 0
  | _ => 2

end Usage

/-- An option, or a positional argument, of a command whose settings are collected in `σ`. -/
structure Parameter (σ : Type) where
  long : String
  short : Option Char
  takesText : Bool
  /-- Whether it has been given. -/
  isSet : σ → Bool
  /-- Takes its text in; the text is empty for one that takes none. -/
  set : String → σ → Except Usage σ

/-- What may stand on a command line. -/
structure Grammar (σ : Type) where
  options : List (Parameter σ)
  positional : Option (Parameter σ)
  subcommands : List String

/-- A parameter that has been met and not yet taken in, with its text if that has come. -/
structure Pending (σ : Type) where
  parameter : Parameter σ
  text : Option String

/-- How far a command line has been read. -/
structure Reading (σ : Type) where
  settings : σ
  pending : Option (Pending σ)
  /-- Whether the positional argument has been met. -/
  positionalMet : Bool
  /-- Whether all further words are positional. -/
  trailing : Bool

namespace Reading

variable {σ : Type}

/-- Nothing has been read. -/
def start (settings : σ) : Reading σ :=
  ⟨settings, none, false, false⟩

/-- Takes a parameter in; each is given at most once. -/
def take (reading : Reading σ) (parameter : Parameter σ) (text : String) :
    Except Usage (Reading σ) :=
  if parameter.isSet reading.settings then .error .argumentConflict
  else (parameter.set text reading.settings).map fun settings => { reading with settings }

/-- Takes the pending parameter in, if there is one; its text must have come. -/
def settle (reading : Reading σ) : Except Usage (Reading σ) :=
  match reading.pending with
  | none => .ok reading
  | some ⟨_, none⟩ => .error .invalidValue
  | some ⟨parameter, some text⟩ => take { reading with pending := none } parameter text

/-- Takes the pending parameter in, then this one. -/
def settleAndTake (reading : Reading σ) (parameter : Parameter σ) (text : String) :
    Except Usage (Reading σ) := do
  (← reading.settle).take parameter text

/-- Takes the pending parameter in and waits for the text of this one. -/
def await (reading : Reading σ) (parameter : Parameter σ) : Except Usage (Reading σ) := do
  return { ← reading.settle with pending := some ⟨parameter, none⟩ }

/-- The parameter whose text is to come next. -/
def awaited (reading : Reading σ) : Option (Parameter σ) :=
  match reading.pending with
  | some ⟨parameter, none⟩ => some parameter
  | _ => none

end Reading

/-- What a word looks like. -/
inductive Word
  /-- `--`, which makes all further words positional. -/
  | escape
  /-- `--name` or `--name=text` -/
  | long (name : String) (text : Option String)
  /-- `-abc`: letters of options, the last of which may have its text behind it. -/
  | short (letters : List Char)
  | plain

/-- What the characters of a word look like. -/
def Word.ofChars : List Char → Word
  | ['-', '-'] => .escape
  | '-' :: '-' :: s =>
    match s.dropWhile (· != '=') with
    | [] => .long (String.ofList s) none
    | _ :: text => .long (String.ofList (s.takeWhile (· != '='))) (some (String.ofList text))
  | '-' :: c :: s => .short (c :: s)
  | _ => .plain

namespace Grammar

variable {σ : Type}

/-- Reads an option by its name. -/
def readLong (grammar : Grammar σ) (reading : Reading σ) (name : String) (text : Option String) :
    Except Usage (Reading σ) :=
  match grammar.options.find? fun option => option.long == name with
  | none => .error .unknownArgument
  | some option =>
    match option.takesText, text with
    | true, some text => reading.settleAndTake option text
    | true, none => reading.await option
    | false, some _ => .error .tooManyValues
    | false, none => reading.settleAndTake option ""

/-- Reads options by their letters. The text of an option stands directly behind its letter, with or
without an equals sign between them, or in the next word. -/
def readShort (grammar : Grammar σ) (reading : Reading σ) : List Char → Except Usage (Reading σ)
  | [] => .ok reading
  | letter :: rest =>
    match grammar.options.find? fun option => option.short == some letter with
    | none => .error .unknownArgument
    | some option =>
      if option.takesText then
        match rest with
        | [] => reading.await option
        | '=' :: text => reading.settleAndTake option (String.ofList text)
        | text => reading.settleAndTake option (String.ofList text)
      else
        match reading.settleAndTake option "" with
        | .error e => .error e
        | .ok reading => readShort grammar reading rest

/-- Reads a word that is no option. -/
def readPositional (grammar : Grammar σ) (reading : Reading σ) (word : String) :
    Except Usage (Reading σ) :=
  match grammar.positional, reading.positionalMet with
  | some parameter, false => do
    return { ← reading.settle with pending := some ⟨parameter, some word⟩, positionalMet := true }
  | _, _ =>
    if grammar.subcommands.isEmpty || (reading.trailing && grammar.subcommands.contains word) then
      .error .unknownArgument
    else .error .invalidSubcommand

/-- Reads a word in front of which no `--` stands. -/
def readWord (grammar : Grammar σ) (reading : Reading σ) (word : String) : Except Usage (Reading σ) :=
  match Word.ofChars word.toList with
  | .escape => .ok { reading with trailing := true }
  | .long name text => grammar.readLong reading name text
  | .short letters => grammar.readShort reading letters
  | .plain =>
    match reading.awaited with
    | some parameter => .ok { reading with pending := some ⟨parameter, some word⟩ }
    | none => grammar.readPositional reading word

/-- Whether a word is the name of a subcommand where it stands. -/
def isSubcommand (grammar : Grammar σ) (reading : Reading σ) (word : String) : Bool :=
  !reading.trailing && reading.awaited.isNone && grammar.subcommands.contains word

/-- Reads words up to the first subcommand: how far they have been read, and the subcommand with the
words behind it. -/
def read (grammar : Grammar σ) (reading : Reading σ) :
    List String → Except Usage (Reading σ × Option (String × List String))
  | [] => .ok (reading, none)
  | word :: rest =>
    if grammar.isSubcommand reading word then .ok (reading, some (word, rest))
    else
      match if reading.trailing then grammar.readPositional reading word else grammar.readWord reading word with
      | .error e => .error e
      | .ok reading => read grammar reading rest

/-- Reads all words of a command without subcommands. -/
def readAll (grammar : Grammar σ) (settings : σ) (words : List String) : Except Usage σ := do
  let (reading, _) ← grammar.read (.start settings) words
  return (← reading.settle).settings

end Grammar

end CloudCanvas.Command
