/-
Binary64 numbers from numerals as the reader of documents forms them. It keeps the first digits only, as
many as fit a word of 64 bits, takes the number nearest to these, and scales it by powers of ten, which are
binary64 numbers themselves. Every step rounds, so the result may differ from the number nearest to the
numeral in its last place, and a numeral at the upper end may be refused: `3e23` is read as one unit in the
last place less than the number nearest to it, and `1.7976931348623158e308` is infinite.
-/
import CloudCanvas.Number.Decimal

namespace CloudCanvas

namespace Binary64

/-- The magnitude of a number as a ratio. -/
def ratio (x : Binary64) : Nat × Nat :=
  match x.exponent with
  | .ofNat k => (x.mantissa * powerOfTwo k, 1)
  | .negSucc k => (x.mantissa, powerOfTwo (k + 1))

/-- The product of two numbers, rounded; none when it would be infinite. -/
def times? (x y : Binary64) : Option Binary64 :=
  ofRatio? (x.negative != y.negative) (x.ratio.1 * y.ratio.1) (x.ratio.2 * y.ratio.2)

/-- The quotient by a number that is not zero, rounded; none when it would be infinite. -/
def over? (x y : Binary64) : Option Binary64 :=
  ofRatio? (x.negative != y.negative) (x.ratio.1 * y.ratio.2) (x.ratio.2 * y.ratio.1)

/-- The number nearest to a power of ten; none when it would be infinite. -/
def powerOfTen? (k : Nat) : Option Binary64 :=
  ofRatio? false (powerOfTen k) 1

/-- The exponent of the greatest power of ten that is not infinite. -/
def greatestPower : Nat := 308

/-- Scales a number by `10 ^ exponent`, in one step when that power or its reciprocal is a binary64 number
and otherwise in several; none when the result would be infinite. -/
def scale? (x : Binary64) (exponent : Int) : Option Binary64 :=
  if _h : exponent.natAbs ≤ greatestPower then do
    let power ← powerOfTen? exponent.natAbs
    if 0 ≤ exponent then x.times? power else x.over? power
  else if x.isZero then some x
  else if _hpos : 0 ≤ exponent then none
  else do
    let smaller ← x.over? (← powerOfTen? greatestPower)
    smaller.scale? (exponent + greatestPower)
termination_by exponent.natAbs
decreasing_by
  unfold greatestPower at *
  omega

end Binary64

namespace Decimal

/-- Continues a significand by digits as long as it fits an unsigned word: the significand, and how many
digits it has taken. -/
def takeDigits (significand : Nat) : List Char → Nat × Nat
  | [] => (significand, 0)
  | c :: ds =>
    let longer := digitsValue significand [c]
    if longer < powerOfTwo 64 then
      let (longest, taken) := takeDigits longer ds
      (longest, taken + 1)
    else (significand, 0)

/-- What is kept of a numeral with digits before and behind the point: digits before the point that are not
taken count for the exponent, and those behind it are ignored. -/
def keep (negative : Bool) (whole fraction : List Char) (exponent : Int) : Decimal :=
  let (start, before) := takeDigits 0 whole
  let (significand, behind) := takeDigits start fraction
  ⟨negative, significand, exponent + (whole.length - before : Nat) - behind⟩

/-- The number nearest to the digits, scaled by the power of ten; none when it would be infinite. -/
def scaled? (x : Decimal) : Option Binary64 := do
  let significand ← Binary64.ofRatio? x.negative x.digits 1
  significand.scale? x.exponent

end Decimal

end CloudCanvas
