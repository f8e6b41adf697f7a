/-
Dates and times of day, and how they are read and written. Several spellings stand for one moment: the
seconds may be left out, the marks may be small letters, a fraction may end in zeros. The written form is
the same for all of them, and a fraction is kept to the nanosecond.
-/
import CloudCanvas.Number.Decimal

namespace CloudCanvas.Toml

/-- A day of the calendar. -/
structure Date where
  year : Nat
  month : Nat
  day : Nat
  deriving DecidableEq

/-- A time of day; second 60 is a leap second. -/
structure Time where
  hour : Nat
  minute : Nat
  second : Nat
  nanosecond : Nat
  deriving DecidableEq

/-- How far a local time is from universal time. -/
inductive Offset
  /-- The time is universal time. -/
  | zulu
  | minutes (n : Int)
  deriving DecidableEq

/-- A date, a time of day, or both with an offset if one is given. -/
inductive Moment
  | date (d : Date)
  | time (t : Time)
  | dateTime (d : Date) (t : Time) (offset : Option Offset)
  deriving DecidableEq

/-! ## Reading -/

/-- The value of exactly two digits, when it is at most `limit`. -/
def twoDigits? (limit : Nat) : List Char → Option Nat
  | [a, b] =>
    if a.isDigit && b.isDigit && digitsValue 0 [a, b] ≤ limit then some (digitsValue 0 [a, b])
    else none
  | _ => none

/-- How many days a month has. -/
def daysIn (year month : Nat) : Nat :=
  if month = 2 then
    if year % 4 = 0 ∧ (year % 100 ≠ 0 ∨ year % 400 = 0) then 29 else 28
  else if month = 4 ∨ month = 6 ∨ month = 9 ∨ month = 11 then 30
  else 31

/-- Reads a date: `1979-05-27`. -/
def Date.read? (s : List Char) : Option Date :=
  match s with
  | [a, b, c, d, '-', e, f, '-', g, h] => do
    let year := digitsValue 0 [a, b, c, d]
    let month ← twoDigits? 12 [e, f]
    let day ← twoDigits? (daysIn year month) [g, h]
    if [a, b, c, d].all Char.isDigit ∧ month ≠ 0 ∧ day ≠ 0 then return ⟨year, month, day⟩ else none
  | _ => none

/-- Reads hours and minutes: `07:32`. -/
def readClock? (s : List Char) : Option (Nat × Nat) :=
  match s with
  | [a, b, ':', c, d] => do return (← twoDigits? 23 [a, b], ← twoDigits? 59 [c, d])
  | _ => none

/-- The nanoseconds of a fraction; digits beyond the ninth do not count. -/
def nanoseconds (fraction : List Char) : Nat :=
  digitsValue 0 ((fraction ++ List.replicate 9 '0').take 9)

/-- Reads what may follow the seconds: nothing, or a point and digits. -/
def readFraction? : List Char → Option Nat
  | [] => some 0
  | '.' :: fraction =>
    if !fraction.isEmpty && fraction.all Char.isDigit then some (nanoseconds fraction) else none
  | _ => none

/-- Reads a time of day: hours and minutes, and seconds if any follow. -/
def Time.read? (s : List Char) : Option Time := do
  let (hour, minute) ← readClock? (s.take 5)
  match s.drop 5 with
  | [] => return ⟨hour, minute, 0, 0⟩
  | ':' :: rest =>
    return ⟨hour, minute, ← twoDigits? 60 (rest.take 2), ← readFraction? (rest.drop 2)⟩
  | _ => none

/-- Reads an offset: a `Z`, or a sign with hours and minutes. -/
def Offset.read? : List Char → Option Offset
  | ['Z'] | ['z'] => some .zulu
  | '+' :: clock => (readClock? clock).map fun (h, m) => .minutes (60 * h + m : Nat)
  | '-' :: clock => (readClock? clock).map fun (h, m) => .minutes (-(60 * h + m : Nat))
  | _ => none

/-- Characters with which an offset begins. -/
def isOffsetMark (c : Char) : Bool :=
  c == '+' || c == '-' || c == 'Z' || c == 'z'

/-- Characters that stand between a date and a time. -/
def isTimeMark (c : Char) : Bool :=
  c == 'T' || c == 't' || c == ' '

/-- Reads a moment. Only a date and time has an offset. -/
def Moment.read? (s : List Char) : Option Moment :=
  match Date.read? (s.take 10) with
  | none => (Time.read? s).map .time
  | some d =>
    match s.drop 10 with
    | [] => some (.date d)
    | mark :: rest => do
      if !isTimeMark mark then none
      let t ← Time.read? (rest.takeWhile (!isOffsetMark ·))
      match rest.dropWhile (!isOffsetMark ·) with
      | [] => return .dateTime d t none
      | offset => return .dateTime d t (some (← Offset.read? offset))

/-! ## Writing -/

/-- A number with zeros in front up to a width. -/
def padded (width n : Nat) : List Char :=
  let ds := Nat.toDigits 10 n
  List.replicate (width - ds.length) '0' ++ ds

/-- The characters of a date. -/
def Date.chars (d : Date) : List Char :=
  padded 4 d.year ++ '-' :: padded 2 d.month ++ '-' :: padded 2 d.day

/-- Hours and minutes. -/
def clockChars (hours minutes : Nat) : List Char :=
  padded 2 hours ++ ':' :: padded 2 minutes

/-- A fraction of a second without zeros at its end; nothing when there is none. -/
def fractionChars (nanosecond : Nat) : List Char :=
  if nanosecond = 0 then []
  else '.' :: ((padded 9 nanosecond).reverse.dropWhile (· == '0')).reverse

/-- The characters of a time of day; the seconds are always there. -/
def Time.chars (t : Time) : List Char :=
  clockChars t.hour t.minute ++ ':' :: padded 2 t.second ++ fractionChars t.nanosecond

/-- The characters of an offset. -/
def Offset.chars : Offset → List Char
  | zulu => ['Z']
  | minutes n => (if n < 0 then '-' else '+') :: clockChars (n.natAbs / 60) (n.natAbs % 60)

/-- The text of a moment. -/
def Moment.text : Moment → String
  | date d => String.ofList d.chars
  | time t => String.ofList t.chars
  | dateTime d t offset =>
    String.ofList (d.chars ++ 'T' :: t.chars ++ (offset.map Offset.chars).getD [])

end CloudCanvas.Toml
