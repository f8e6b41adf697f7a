/-
Port ranges as they are entered in an ingress rule: a single port, or two ports with a dash between
them. White space is allowed at both ends and around the dash.
-/
import CloudCanvas.Number.Decimal
import CloudCanvas.Text.Blank

namespace CloudCanvas

/-- An inclusive range of ports. -/
structure PortRange where
  low : Nat
  high : Nat
  low_le_high : low ≤ high
  high_le : high ≤ 65535
  deriving DecidableEq

namespace PortRange

/-- Why an entry is no port range. -/
inductive Defect
  | notPorts
  | reversed
  deriving DecidableEq

/-- The message of a defect of an entry. -/
def Defect.message (entry : String) : Defect → String
  | notPorts => "`" ++ entry ++ "` is not a port or port range"
  | reversed => "port range `" ++ entry ++ "` is reversed"

/-- The characters without a plus sign in front. -/
def dropPlus : List Char → List Char
  | '+' :: s => s
  | s => s

/-- Reads a port: digits, a plus sign allowed in front, for a value of at most 65535. -/
def readPort? (s : List Char) : Option Nat :=
  let ds := dropPlus (Text.trimChars s)
  if !ds.isEmpty && ds.all Char.isDigit && digitsValue 0 ds ≤ 65535 then some (digitsValue 0 ds)
  else none

/-- The range from one port to another. -/
def between (low high : Nat) : Except Defect PortRange :=
  if h : low ≤ high ∧ high ≤ 65535 then .ok ⟨low, high, h.1, h.2⟩ else .error .reversed

/-- Reads an entry. A range is split at its first dash. -/
def read (entry : String) : Except Defect PortRange :=
  let s := Text.trimChars entry.toList
  match s.dropWhile (· != '-') with
  | [] =>
    match readPort? s with
    | some port => between port port
    | none => .error .notPorts
  | _ :: after =>
    match readPort? (s.takeWhile (· != '-')), readPort? after with
    | some low, some high => between low high
    | _, _ => .error .notPorts

end PortRange

end CloudCanvas
