/-
Access to files, as far as the program needs it, and a tree of files that gives this access. The tree
stands for the files that can be seen from the working directory.
-/
import CloudCanvas.Command.FilePath

namespace CloudCanvas.Command

/-- Why a file could not be read or written. -/
inductive FileFailure
  | notFound
  | isFolder
  | notFolder
  | alreadyThere
  | nameTooLong
  /-- A name holds the null character. -/
  | nameWithNull
  /-- The content is no text. -/
  | notText
  /-- Anything else, in the words of the system. -/
  | system (message : String)
  deriving DecidableEq

/-- The message of a failure. -/
def FileFailure.message : FileFailure → String
  | notFound => "No such file or directory (os error 2)"
  | isFolder => "Is a directory (os error 21)"
  | notFolder => "Not a directory (os error 20)"
  | alreadyThere => "File exists (os error 17)"
  | nameTooLong => "File name too long (os error 36)"
  | nameWithNull => "file name contained an unexpected NUL byte"
  | notText => "stream did not contain valid UTF-8"
  | system message => message

/-- The text that bytes hold. -/
def textOf (bytes : ByteArray) : Except FileFailure String :=
  match String.fromUTF8? bytes with
  | some text => .ok text
  | none => .error .notText

/-- Access to files and to standard input. -/
structure Files (m : Type → Type) where
  /-- Whether a file or folder is there. -/
  isThere : String → m Bool
  /-- Reads a file. -/
  read : String → m (Except FileFailure String)
  /-- Reads standard input. -/
  readInput : m (Except FileFailure String)
  /-- Makes a folder, and the folders above it, where they are missing. -/
  makeFolders : String → m (Except FileFailure Unit)
  /-- Writes a file, replacing its content. -/
  write : String → String → m (Except FileFailure Unit)

/-- Where a file is: the names from the working directory on. It begins with `..` for each step above
the working directory, and with a slash for the root. -/
abbrev Location := List String

/-- A tree of files. -/
structure FileTree where
  files : List (Location × String)
  /-- Folders that have been made; those in which a file lies need not be listed. -/
  folders : List Location

namespace FileTree

/-- The tree without files. -/
def empty : FileTree := ⟨[], []⟩

/-- The content of a file. -/
def file? (tree : FileTree) (location : Location) : Option String :=
  tree.files.lookup location

/-- Whether a location is a folder: it is one that everyone has, it has been made, or a file or folder
lies in it. -/
def isFolder (tree : FileTree) (location : Location) : Bool :=
  location.all (· == "..") || location == ["/"] || tree.folders.any (location.isPrefixOf ·) ||
    tree.files.any fun (file, _) => location.isPrefixOf file && location != file

/-- Where a step from a folder leads. -/
def stepTo (folder : Location) (name : String) : Location :=
  if name = ".." then
    match folder.reverse with
    | [] => [".."]
    | last :: up =>
      if last = ".." then folder ++ [".."] else if last = "/" then folder else up.reverse
  else folder ++ [name]

/-- Whether a location can be gone on from. -/
def enter (tree : FileTree) (location : Location) : Except FileFailure Unit :=
  if tree.isFolder location then .ok ()
  else if (tree.file? location).isSome then .error .notFolder
  else .error .notFound

/-- How many bytes a name may have. -/
def nameLimit : Nat := 255

/-- How many bytes a path may have. -/
def pathLimit : Nat := 4095

/-- Walks along names; every location that is gone on from has to be a folder. -/
def walk (tree : FileTree) (start : Location) : List String → Except FileFailure Location
  | [] => .ok start
  | name :: rest => do
    tree.enter start
    if nameLimit < name.utf8ByteSize then .error .nameTooLong
    else walk tree (stepTo start name) rest

/-- Refuses a path that leads nowhere, whatever files there are. -/
def checkPath (path : String) : Except FileFailure Unit :=
  if path.toList.contains (Char.ofNat 0) then .error .nameWithNull
  else if path.isEmpty then .error .notFound
  else if pathLimit < path.utf8ByteSize then .error .nameTooLong
  else .ok ()

/-- The location of a path; the path need not lead to anything. -/
def locate (tree : FileTree) (path : String) : Except FileFailure Location := do
  checkPath path
  let location ←
    match FilePath.names path with
    | "/" :: rest => tree.walk ["/"] rest
    | names => tree.walk [] names
  if FilePath.endsIdle path then tree.enter location
  return location

/-- Whether a file or folder is there. -/
def isThere (tree : FileTree) (path : String) : Bool :=
  match tree.locate path with
  | .ok location => tree.isFolder location || (tree.file? location).isSome
  | .error _ => false

/-- Reads a file. -/
def read (tree : FileTree) (path : String) : Except FileFailure String := do
  let location ← tree.locate path
  if tree.isFolder location then .error .isFolder
  else
    match tree.file? location with
    | some text => .ok text
    | none => .error .notFound

/-- Makes one folder. -/
def makeFolder (tree : FileTree) (path : String) : Except FileFailure FileTree := do
  let location ← tree.locate path
  if tree.isFolder location || (tree.file? location).isSome then .error .alreadyThere
  else .ok { tree with folders := location :: tree.folders }

/-- Whether a path leads to a folder. -/
def leadsToFolder (tree : FileTree) (path : String) : Bool :=
  match tree.locate path with
  | .ok location => tree.isFolder location
  | .error _ => false

/-- Makes a folder where it is missing; a failure does not count when the folder is there. -/
def ensureFolder (tree : FileTree) (path : String) : Except FileFailure FileTree :=
  match tree.makeFolder path with
  | .ok tree => .ok tree
  | .error e => if tree.leadsToFolder path then .ok tree else .error e

/-- Makes the first folder of a chain; when it is not found, the folders above it come first. -/
def makeChain (tree : FileTree) : List String → Except FileFailure Unit × FileTree
  | [] => (.ok (), tree)
  | path :: above =>
    match tree.ensureFolder path with
    | .ok tree => (.ok (), tree)
    | .error .notFound =>
      match tree.makeChain above with
      | (.error e, tree) => (.error e, tree)
      | (.ok (), tree) =>
        match tree.ensureFolder path with
        | .ok tree => (.ok (), tree)
        | .error e => (.error e, tree)
    | .error e => (.error e, tree)

/-- Makes a folder and those above it where they are missing. -/
def makeFolders (tree : FileTree) (path : String) : Except FileFailure Unit × FileTree :=
  tree.makeChain (path :: FilePath.above path)

/-- Sets the content of the file at a location. -/
def put (tree : FileTree) (location : Location) (text : String) : FileTree :=
  { tree with files := (location, text) :: tree.files.filter fun (file, _) => file != location }

/-- Writes a file, replacing its content. -/
def write (tree : FileTree) (path text : String) : Except FileFailure FileTree := do
  checkPath path
  if FilePath.endsWithSlash path then .error .isFolder
  else
    let location ← tree.locate path
    if tree.isFolder location then .error .isFolder else .ok (tree.put location text)

/-- Access to the files of a tree that is carried along, with the given bytes on standard input. -/
def access (input : ByteArray) : Files (StateM FileTree) where
  isThere path := fun tree => (tree.isThere path, tree)
  read path := fun tree => (tree.read path, tree)
  readInput := fun tree => (textOf input, tree)
  makeFolders path := fun tree => tree.makeFolders path
  write path text := fun tree =>
    match tree.write path text with
    | .ok tree => (.ok (), tree)
    | .error e => (.error e, tree)

end FileTree

end CloudCanvas.Command
