/-
The fewest decimal digits that read back as a given binary64 number, and the two layouts in which this
program writes them. The digits are found by exact arithmetic: on the grid of 1, 2, … 17 digits the two
neighbours of the number are tested against the interval of reals that round to it.
-/
import CloudCanvas.Number.Decimal

namespace CloudCanvas.Binary64

/-- `x` and the ends of the interval that rounds to it, all in quarters of its last place: the lower
end, the number, the upper end. Below a power of two the neighbours are twice as dense. -/
def quarters (x : Binary64) : Nat × Nat × Nat :=
  let value := 4 * x.mantissa
  let below := if x.mantissa = powerOfTwo 52 ∧ -1074 < x.exponent then 1 else 2
  (value - below, value, value + 2)

/-- Compares `a · 10 ^ p` with `b · 2 ^ q` exactly. -/
def compareGrids (a : Nat) (p : Int) (b : Nat) (q : Int) : Ordering :=
  compare (a * powerOfTen p.toNat * powerOfTwo (-q).toNat)
    (b * powerOfTwo q.toNat * powerOfTen (-p).toNat)

/-- Whether `c · 10 ^ p` rounds to the magnitude of `x`; the ends count when the mantissa is even. -/
def readsBack (x : Binary64) (c : Nat) (p : Int) : Bool :=
  let (low, _, high) := x.quarters
  let q := x.exponent - 2
  let inclusive := x.mantissa % 2 == 0
  let fromLow := compareGrids c p low q
  let toHigh := compareGrids c p high q
  (fromLow == .gt || inclusive && fromLow == .eq) && (toHigh == .lt || inclusive && toHigh == .eq)

/-- The largest `c` with `c · 10 ^ p ≤ |x|`. -/
def floorAt (x : Binary64) (p : Int) : Nat :=
  (x.mantissa * powerOfTwo x.exponent.toNat * powerOfTen (-p).toNat) /
    (powerOfTen p.toNat * powerOfTwo (-x.exponent).toNat)

/-- The decimal exponent of the leading digit of a nonzero `x`. -/
def leadingExponent (x : Binary64) : Int :=
  let num := x.mantissa * powerOfTwo x.exponent.toNat
  let den := powerOfTwo (-x.exponent).toNat
  let guess := (Decimal.digitCount num : Int) - (Decimal.digitCount den : Int)
  if x.floorAt guess = 0 then guess - 1 else guess

/-- The multiple of `10 ^ p` that reads back as `x`, if there is one: of two the nearer, of two equally
near the even one. -/
def nearestAt (x : Binary64) (p : Int) : Option (Nat × Int) :=
  let c := x.floorAt p
  match x.readsBack c p, x.readsBack (c + 1) p with
  | true, false => some (c, p)
  | false, true => some (c + 1, p)
  | false, false => none
  | true, true =>
    match compareGrids (2 * c + 1) p (2 * x.mantissa) x.exponent with
    | .gt => some (c, p)
    | .lt => some (c + 1, p)
    | .eq => some (c + c % 2, p)

/-- The decimal of fewest digits that reads back as `|x|`: its digits without trailing zeros, and the
exponent of the leading one. Zero has the digit `0`. -/
def shortest (x : Binary64) : List Char × Int :=
  if x.isZero then (['0'], 0)
  else
    let top := x.leadingExponent
    let (c, p) := ((List.range 17).findSome? fun n => x.nearestAt (top - (n : Nat))).getD
      (x.floorAt (top - 16), top - 16)
    let ds := Nat.toDigits 10 c
    ((ds.reverse.dropWhile (· == '0')).reverse, (ds.length : Int) - 1 + p)

/-- Digits with the point after the digit of weight one; there is always a point and a digit on both
sides of it. -/
def positional (ds : List Char) (top : Int) : List Char :=
  if top < 0 then '0' :: '.' :: (List.replicate (-top - 1).toNat '0' ++ ds)
  else
    let whole := top.toNat + 1
    let padded := ds ++ List.replicate (whole - ds.length) '0'
    let fraction := padded.drop whole
    padded.take whole ++ '.' :: (if fraction.isEmpty then ['0'] else fraction)

/-- Digits with the point after the first and an explicitly signed exponent; a single digit has no
point. -/
def scientific (ds : List Char) (top : Int) : List Char :=
  let fraction := ds.drop 1
  let exponent := (if top < 0 then '-' else '+') :: Nat.toDigits 10 top.natAbs
  ds.take 1 ++ (if fraction.isEmpty then [] else '.' :: fraction) ++ 'e' :: exponent

/-- The sign of `x` as it is written. -/
def signText (x : Binary64) : List Char :=
  if x.negative then ['-'] else []

/-- The text of `x` in output: positional for magnitudes from `10 ^ -5` to below `10 ^ 16`, and with an
exponent outside of that. -/
def text (x : Binary64) : String :=
  let (ds, top) := x.shortest
  String.ofList <| x.signText ++
    if -5 ≤ top ∧ top < 16 then positional ds top else scientific ds top

/-- The text of `x` with all places written out, whatever its size. -/
def positionalText (x : Binary64) : String :=
  let (ds, top) := x.shortest
  String.ofList (x.signText ++ positional ds top)

end CloudCanvas.Binary64
