/-
Blocks of the configuration language and their text, line by line. A block has a keyword, labels and a
body; the body holds attributes, string maps, blocks and blank lines.
-/
import CloudCanvas.Hcl.Literal
import CloudCanvas.Number.Basic

namespace CloudCanvas.Hcl

/-- The right-hand side of an attribute. -/
inductive Expr
  | string (s : String)
  | number (n : Number)
  | boolean (b : Bool)
  /-- A list of string literals. -/
  | strings (items : List String)
  /-- A bare reference such as `aws_s3_bucket.assets.id`. -/
  | reference (address : String)
  /-- A list of bare references. -/
  | references (addresses : List String)
  deriving DecidableEq

/-- The expression of an integer. -/
def Expr.ofNat (n : Nat) : Expr :=
  .number (.integer n)

/-- Parts between square brackets. -/
def bracketed (parts : List String) : String :=
  "[" ++ ", ".intercalate parts ++ "]"

/-- The text of an expression. -/
def Expr.text : Expr → String
  | string s => quote s
  | number n => n.text
  | boolean b => toString b
  | strings items => bracketed (items.map quote)
  | reference address => address
  | references addresses => bracketed addresses

/-- One entry of a body. -/
inductive Item
  /-- `key = value` -/
  | attribute (key : String) (value : Expr)
  /-- A block inside the body. -/
  | block (keyword : String) (labels : List String) (body : List Item)
  /-- A map of texts: `key = { … }`. -/
  | entries (key : String) (pairs : List (String × String))
  /-- An empty line. -/
  | blank

/-- A block with its labels and its body. -/
structure Block where
  keyword : String
  labels : List String
  body : List Item

/-! ## Building -/

namespace Block

/-- A resource declaration with an empty body. -/
def resource (type name : String) : Block :=
  ⟨"resource", [type, name], []⟩

/-- A block without labels and with an empty body. -/
def nested (keyword : String) : Block :=
  ⟨keyword, [], []⟩

/-- The first label: the type of a resource declaration. -/
def type? (block : Block) : Option String :=
  block.labels[0]?

/-- The second label: the name of a resource declaration. -/
def name? (block : Block) : Option String :=
  block.labels[1]?

/-- The block with more items at the end of its body. -/
def append (block : Block) (items : List Item) : Block :=
  { block with body := block.body ++ items }

/-- The block as an item of another one. -/
def toItem (block : Block) : Item :=
  .block block.keyword block.labels block.body

end Block

/-- `key = value` when there is a value, and nothing otherwise. -/
def Item.attribute? (key : String) (value : Option Expr) : List Item :=
  (value.map (Item.attribute key)).toList

/-! ## Text -/

/-- Letters of ASCII and the underscore, which may begin an identifier. -/
def isIdentifierStart (c : Char) : Bool :=
  c.isAlpha || c == '_'

/-- Characters that may go on an identifier. -/
def isIdentifierRest (c : Char) : Bool :=
  c.isAlphanum || c == '_' || c == '-'

/-- Whether the characters form an identifier. -/
def isIdentifier : List Char → Bool
  | [] => false
  | c :: s => isIdentifierStart c && s.all isIdentifierRest

/-- The key of a map entry: identifiers stand bare, everything else is quoted. -/
def mapKey (key : String) : String :=
  if isIdentifier key.toList then key else quote key

/-- Two spaces for each step of depth. -/
def indent (depth : Nat) : String :=
  String.ofList (List.replicate (2 * depth) ' ')

/-- The first line of a block, without indentation. -/
def header (keyword : String) (labels : List String) : String :=
  keyword ++ String.join (labels.map fun label => " " ++ quote label) ++ " \x7b"

/-- The line of a map entry, without indentation. -/
def entryLine (pair : String × String) : String :=
  mapKey pair.1 ++ " = " ++ quote pair.2

mutual

/-- The lines of an item at a depth. -/
def Item.lines (depth : Nat) : Item → List String
  | .attribute key value => [indent depth ++ key ++ " = " ++ value.text]
  | .block keyword labels body =>
    (indent depth ++ header keyword labels) :: bodyLines (depth + 1) body ++ [indent depth ++ "\x7d"]
  | .entries key pairs =>
    (indent depth ++ key ++ " = \x7b") :: pairs.map (fun pair => indent (depth + 1) ++ entryLine pair) ++
      [indent depth ++ "\x7d"]
  | .blank => [""]

/-- The lines of the items of a body at a depth. -/
def bodyLines (depth : Nat) : List Item → List String
  | [] => []
  | item :: rest => item.lines depth ++ bodyLines depth rest

end

/-- The lines of a block at the top of a file. -/
def Block.lines (block : Block) : List String :=
  block.toItem.lines 0

/-- The text of a block at the top of a file, without a line break at its end. -/
def Block.text (block : Block) : String :=
  "\n".intercalate block.lines

end CloudCanvas.Hcl
