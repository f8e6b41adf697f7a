/-
Finite numbers of the binary64 format, and the nearest one to a ratio of natural numbers. Everything
is exact arithmetic on natural numbers.
-/
import CloudCanvas.Number.Power

namespace CloudCanvas

/-- The finite binary64 number `± mantissa · 2 ^ exponent`. The fields are canonical: a mantissa below
`2 ^ 52` occurs with the least exponent only. -/
structure Binary64 where
  negative : Bool
  mantissa : Nat
  exponent : Int
  canonical : mantissa < powerOfTwo 53 ∧ -1074 ≤ exponent ∧ exponent ≤ 971 ∧
    (powerOfTwo 52 ≤ mantissa ∨ exponent = -1074)
  deriving DecidableEq

namespace Binary64

/-- Zero, with its sign. -/
def zero (negative : Bool) : Binary64 :=
  ⟨negative, 0, -1074, by decide⟩

/-- Whether the number is one of the two zeros. -/
def isZero (x : Binary64) : Bool :=
  x.mantissa == 0

/-- `num / den` in units of `2 ^ exponent`, again as a ratio. -/
def inUnits (num den : Nat) (exponent : Int) : Nat × Nat :=
  match exponent with
  | .ofNat k => (num, den * powerOfTwo k)
  | .negSucc k => (num * powerOfTwo (k + 1), den)

/-- The natural number nearest to `num / den`; a tie goes to the even one. -/
def roundHalfEven (num den : Nat) : Nat :=
  let quotient := num / den
  let rest := 2 * (num % den)
  if rest < den then quotient
  else if den < rest then quotient + 1
  else quotient + quotient % 2

/-- The exponent at which `num / den` has a mantissa of 53 bits, or the least exponent. -/
def exponentFor (num den : Nat) : Int :=
  let guess := max ((Nat.log2 num : Int) - (Nat.log2 den : Int) - 53) (-1074)
  let (n, d) := inUnits num den guess
  if n / d < powerOfTwo 53 then guess else guess + 1

/-- The binary64 number nearest to `± num / den`, ties to the even mantissa; none when it would be
infinite. -/
def ofRatio? (negative : Bool) (num den : Nat) : Option Binary64 :=
  if num = 0 then some (zero negative)
  else
    let exponent := exponentFor num den
    let (n, d) := inUnits num den exponent
    let rounded := roundHalfEven n d
    let (mantissa, exponent) :=
      if rounded = powerOfTwo 53 then (powerOfTwo 52, exponent + 1) else (rounded, exponent)
    if h : mantissa < powerOfTwo 53 ∧ -1074 ≤ exponent ∧ exponent ≤ 971 ∧
        (powerOfTwo 52 ≤ mantissa ∨ exponent = -1074) then
      some ⟨negative, mantissa, exponent, h⟩
    else none

end Binary64

end CloudCanvas
