/-
Decimal numerals as they are written: a sign, digits, a fraction, an exponent. `Decimal.read?` reads
the forms that a person may type into a number field; `Decimal.toBinary64?` gives the nearest number.
-/
import CloudCanvas.Number.Binary64

namespace CloudCanvas

/-- The number `± digits · 10 ^ exponent`. -/
structure Decimal where
  negative : Bool
  digits : Nat
  exponent : Int
  deriving DecidableEq

/-- The value of a run of decimal digits, continuing from `start`. -/
def digitsValue (start : Nat) (ds : List Char) : Nat :=
  ds.foldl (fun n c => 10 * n + (c.toNat - '0'.toNat)) start

namespace Decimal

/-- Splits a sign off: `-` is negative, `+` and no sign are not. -/
def splitSign : List Char → Bool × List Char
  | '-' :: s => (true, s)
  | '+' :: s => (false, s)
  | s => (false, s)

/-- Reads `± digits` as an integer; there has to be at least one digit and nothing else. -/
def readInteger? (s : List Char) : Option Int :=
  let (negative, ds) := splitSign s
  if ds.isEmpty || !ds.all Char.isDigit then none
  else if negative then some (-(digitsValue 0 ds : Int))
  else some (digitsValue 0 ds)

/-- Reads what may follow the mantissa: nothing, or an `e` and an integer. -/
def readExponent? : List Char → Option Int
  | [] => some 0
  | c :: s => if c == 'e' || c == 'E' then readInteger? s else none

/-- Reads a fraction, if one starts here, and what follows it. -/
def splitFraction : List Char → List Char × List Char
  | '.' :: s => (s.takeWhile Char.isDigit, s.dropWhile Char.isDigit)
  | s => ([], s)

/-- Reads a numeral: a sign, digits with a point among, before or after them, and an exponent. All but
one digit may be left out. -/
def read? (s : List Char) : Option Decimal :=
  let (negative, unsigned) := splitSign s
  let whole := unsigned.takeWhile Char.isDigit
  let (fraction, rest) := splitFraction (unsigned.dropWhile Char.isDigit)
  if whole.isEmpty && fraction.isEmpty then none
  else
    (readExponent? rest).map fun e =>
      ⟨negative, digitsValue 0 (whole ++ fraction), e - fraction.length⟩

/-- Count of decimal digits of `n`; zero has one. -/
def digitCount (n : Nat) : Nat :=
  (Nat.toDigits 10 n).length

/-- The nearest binary64 number, ties to even; none when it would be infinite. Numbers of at least
`10 ^ 309` are infinite and numbers below `10 ^ -324` are zero, which is decided before any power is
computed. -/
def toBinary64? (x : Decimal) : Option Binary64 :=
  if x.digits = 0 then some (Binary64.zero x.negative)
  else
    let magnitude := (digitCount x.digits : Int) + x.exponent
    if 309 < magnitude then none
    else if magnitude < -323 then some (Binary64.zero x.negative)
    else
      match x.exponent with
      | .ofNat k => Binary64.ofRatio? x.negative (x.digits * powerOfTen k) 1
      | .negSucc k => Binary64.ofRatio? x.negative x.digits (powerOfTen (k + 1))

end Decimal

end CloudCanvas
