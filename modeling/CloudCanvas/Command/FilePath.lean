/-
File paths as they are written: their pieces between slashes, and the paths of the folders above.
-/
namespace CloudCanvas.Command.FilePath

/-- The pieces of a path between its slashes. -/
def pieces (path : String) : List String :=
  (path.toList.splitOn '/').map String.ofList

/-- Pieces that lead nowhere else. -/
def isIdle (piece : String) : Bool :=
  piece == "" || piece == "."

/-- The path of pieces, the last of which comes first. -/
def ofReversed (reversed : List String) : String :=
  if reversed = [""] then "/" else "/".intercalate reversed.reverse

/-- The paths that end with the pieces, from the longest to the shortest; the last piece comes first.
Idle pieces end no path unless they begin it. -/
def chain : List String → List String
  | [] => []
  | [piece] => [ofReversed [piece]]
  | piece :: up => if isIdle piece then chain up else ofReversed (piece :: up) :: chain up

/-- The paths of the folders above a path, the nearest first. -/
def above (path : String) : List String :=
  (chain (pieces path).reverse).tail

/-- The names along a path, idle pieces left out; the root of an absolute path is a slash. -/
def names (path : String) : List String :=
  let steps := (pieces path).filter fun piece => !isIdle piece
  if path.startsWith "/" then "/" :: steps else steps

/-- Whether a path ends with a piece that can only follow a folder. -/
def endsIdle (path : String) : Bool :=
  ((pieces path).getLast?.map isIdle).getD false

/-- Whether a path ends with a slash. -/
def endsWithSlash (path : String) : Bool :=
  path.endsWith "/"

end CloudCanvas.Command.FilePath
