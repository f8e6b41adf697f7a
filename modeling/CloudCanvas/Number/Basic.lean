/-
The numbers of a document: integers that fit 64 bits, signed or unsigned, and binary64 numbers for all
else.
-/
import CloudCanvas.Number.Shortest
import CloudCanvas.Text.Blank

namespace CloudCanvas

/-- A number of a document. -/
inductive Number
  | integer (n : Int)
  | real (x : Binary64)
  deriving DecidableEq

namespace Number

/-- The number as it is written. -/
def text : Number → String
  | integer n => toString n
  | real x => x.text

/-- Whether `n` fits a signed word of 64 bits. -/
def fitsSigned (n : Int) : Bool :=
  -(powerOfTwo 63 : Int) ≤ n && n < powerOfTwo 63

/-- Whether `n` fits an unsigned word of 64 bits. -/
def fitsUnsigned (n : Int) : Bool :=
  0 ≤ n && n < powerOfTwo 64

/-- Reads a numeral typed as text: an integer when it is one and fits a signed word, else the nearest
binary64 number; a numeral beyond those is none. -/
def ofNumeral? (s : List Char) : Option Number :=
  match Decimal.readInteger? s with
  | some n => if fitsSigned n then some (integer n) else asReal
  | none => asReal
where
  /-- The nearest binary64 number to the numeral. -/
  asReal : Option Number := do
    let d ← Decimal.read? s
    let x ← d.toBinary64?
    return real x

end Number

end CloudCanvas
