/-
Reading a document value from text. The reader walks over the text once and keeps the arrays and
objects that are still open on a stack; it tells a text that ends too early from one that is wrong.
-/
import CloudCanvas.Json.Basic
import CloudCanvas.Number.Scaling
import CloudCanvas.Text.Hex
import CloudCanvas.Text.Rest

namespace CloudCanvas.Json

open Text (Rest Left)

/-- Why a text is no document value. -/
inductive Defect
  /-- The text ends too early. -/
  | unfinished
  /-- What stands in the text is wrong, however it goes on. -/
  | malformed
  deriving DecidableEq

/-! ## Strings -/

/-- Reads four hexadecimal digits. The text has ended too early when fewer than four bytes are left. -/
def readHex (s : List Char) : Except Defect (Nat × Rest s) :=
  match s with
  | a :: b :: c :: d :: r =>
    match Text.hexDigitsValue? [a, b, c, d] with
    | some n => .ok (n, ⟨r, by simp +arith⟩)
    | none => .error .malformed
  | few => .error (if (String.ofList few).utf8ByteSize < 4 then .unfinished else .malformed)

/-- The code unit is the first half of a pair. -/
def isHighSurrogate (n : Nat) : Bool := 0xD800 ≤ n && n < 0xDC00

/-- The code unit is the second half of a pair. -/
def isLowSurrogate (n : Nat) : Bool := 0xDC00 ≤ n && n < 0xE000

/-- Reads what follows a backslash and a `u`: one code unit, or two that form a pair. -/
def readCodePoint (s : List Char) : Except Defect (Char × Rest s) :=
  match readHex s with
  | .error e => .error e
  | .ok (n, r) =>
    if isLowSurrogate n then .error .malformed
    else if isHighSurrogate n then
      match h : r.1 with
      | [] => .error .unfinished
      | ['\\'] => .error .unfinished
      | '\\' :: 'u' :: t =>
        match readHex t with
        | .error e => .error e
        | .ok (m, q) =>
          if isLowSurrogate m then
            .ok (Char.ofNat (0x10000 + (n - 0xD800) * 0x400 + (m - 0xDC00)),
              r.trans ⟨q.1, by have := q.2; simp [h]; omega⟩)
          else .error .malformed
      | _ => .error .malformed
    else .ok (Char.ofNat n, r)

/-- The character that a backslash and `c` stand for. -/
def shortEscape? : Char → Option Char
  | '"' => some '"'
  | '\\' => some '\\'
  | '/' => some '/'
  | 'b' => some (Char.ofNat 8)
  | 'f' => some (Char.ofNat 12)
  | 'n' => some '\n'
  | 'r' => some '\r'
  | 't' => some '\t'
  | _ => none

/-- Reads what follows a backslash. -/
def readEscape (s : List Char) : Except Defect (Char × Rest s) :=
  match s with
  | [] => .error .unfinished
  | c :: r =>
    if c = 'u' then (readCodePoint r).map fun (x, t) => (x, t.cons c)
    else
      match shortEscape? c with
      | some x => .ok (x, .single)
      | none => .error .malformed

/-- Reads the rest of a string whose opening quote has been read. -/
def readString (s : List Char) : Except Defect (List Char × Rest s) :=
  match s with
  | [] => .error .unfinished
  | c :: r =>
    if c = '"' then .ok ([], .single)
    else if c = '\\' then
      match readEscape r with
      | .error e => .error e
      | .ok (x, t) => (readString t.1).map fun (xs, u) => (x :: xs, (t.trans u).cons c)
    else if c.toNat < 0x20 then .error .malformed
    else (readString r).map fun (xs, u) => (c :: xs, u.cons c)
termination_by s.length
decreasing_by
  · have := t.2; simp; omega
  · simp

/-! ## Numbers -/

/-- Reads one digit or more: the digits and what follows them. -/
def readDigits (s : List Char) : Except Defect (List Char × Rest s) :=
  match s with
  | [] => .error .unfinished
  | c :: r =>
    if c.isDigit then
      .ok (c :: r.takeWhile Char.isDigit, (Text.dropping Char.isDigit r).cons c)
    else .error .malformed

/-- Reads a whole part: one digit or more, and no zero in front of another digit. -/
def readWhole (s : List Char) : Except Defect (List Char × Rest s) :=
  match readDigits s with
  | .ok ('0' :: _ :: _, _) => .error .malformed
  | other => other

/-- Reads a fraction if one starts here: its digits and what follows. -/
def readFraction (s : List Char) : Except Defect (List Char × Left s) :=
  match s with
  | '.' :: r => (readDigits r).map fun (ds, t) => (ds, (t.cons '.').toLeft)
  | _ => .ok ([], .all)

/-- Reads an exponent if one starts here: its value and what follows. -/
def readExponent (s : List Char) : Except Defect (Option Int × Left s) :=
  match s with
  | [] => .ok (none, .all)
  | c :: r =>
    if c = 'e' ∨ c = 'E' then
      match r with
      | '-' :: t => (readDigits t).map fun (ds, u) =>
          (some (-(digitsValue 0 ds : Int)), ((u.cons '-').cons c).toLeft)
      | '+' :: t => (readDigits t).map fun (ds, u) =>
          (some (digitsValue 0 ds : Int), ((u.cons '+').cons c).toLeft)
      | t => (readDigits t).map fun (ds, u) =>
          (some (digitsValue 0 ds : Int), (u.cons c).toLeft)
    else .ok (none, .all)

/-- The number of a numeral's parts. Without a fraction and an exponent it is an integer when that fits
64 bits, minus zero excepted; otherwise it is what is kept of the numeral, scaled, which must not be
infinite. -/
def numberOfParts (negative : Bool) (whole fraction : List Char) (exponent : Option Int) :
    Except Defect Number :=
  let value := digitsValue 0 whole
  let signed : Int := if negative then -value else value
  let plain := fraction.isEmpty && exponent.isNone
  if plain && (if negative then value != 0 && Number.fitsSigned signed else Number.fitsUnsigned signed) then
    .ok (.integer signed)
  else
    match (Decimal.keep negative whole fraction (exponent.getD 0)).scaled? with
    | some x => .ok (.real x)
    | none => .error .malformed

/-- Reads an unsigned numeral as the number of the given sign. -/
def readUnsigned (negative : Bool) (s : List Char) : Except Defect (Number × Rest s) :=
  match readWhole s with
  | .error e => .error e
  | .ok (whole, r) =>
    match readFraction r.1 with
    | .error e => .error e
    | .ok (fraction, t) =>
      match readExponent t.1 with
      | .error e => .error e
      | .ok (exponent, u) =>
        (numberOfParts negative whole fraction exponent).map fun n =>
          (n, r.transLeft (t.trans u))

/-! ## Values -/

/-- Reads a fixed word. -/
def readWord (word : List Char) (s : List Char) : Except Defect (Left s) :=
  match word, s with
  | [], _ => .ok .all
  | _ :: _, [] => .error .unfinished
  | w :: ws, c :: r =>
    if c = w then (readWord ws r).map fun t => (t.cons c).toLeft
    else .error .malformed

/-- Reads a number, a string or a fixed word that starts with `c`. -/
def readScalar (c : Char) (s : List Char) : Except Defect (Json × Left s) :=
  if c = '"' then
    (readString s).map fun (xs, r) => (.string (String.ofList xs), r.toLeft)
  else if c = '-' then
    (readUnsigned true s).map fun (n, r) => (.number n, r.toLeft)
  else if c.isDigit then
    (readUnsigned false (c :: s)).map fun (n, r) => (.number n, .ofTail r)
  else if c = 'n' then (readWord ['u', 'l', 'l'] s).map fun r => (.null, r)
  else if c = 't' then (readWord ['r', 'u', 'e'] s).map fun r => (.boolean true, r)
  else if c = 'f' then (readWord ['a', 'l', 's', 'e'] s).map fun r => (.boolean false, r)
  else .error .malformed

/-- An array or object that is still open. -/
inductive Frame
  /-- An array with the items read so far, the last one first. -/
  | items (done : List Json)
  /-- An object with the fields read so far and the key whose value is being read. -/
  | member (done : Fields) (key : String)

/-- What may come next. -/
inductive Expected
  | value
  /-- The first item of an array, or its end. -/
  | firstItem
  /-- The first key of an object, or its end. -/
  | firstKey
  /-- A further key of an object. -/
  | key (done : Fields)
  /-- The colon after a key. -/
  | colon (done : Fields) (key : String)
  /-- What follows a finished value: a comma or a closing bracket, or the end of the text. -/
  | next (value : Json)

/-- White space between the parts of a document: space, tab, line feed, carriage return. -/
def isSpace (c : Char) : Bool :=
  c == ' ' || c == '\t' || c == '\n' || c == '\r'

/-- As many arrays and objects may stand inside one another. -/
def depthLimit : Nat := 127

/-- The state of the reader between two parts of a document: what may come next, and the arrays and
objects that are open, the innermost first. -/
structure Reader where
  expected : Expected
  stack : List Frame

/-- Starts a value with `c`: opens an array or an object, or reads a scalar. -/
def Reader.start (stack : List Frame) (c : Char) (r : List Char) :
    Except Defect (Reader × Left r) :=
  if c = '[' ∨ c = '{' then
    if depthLimit ≤ stack.length then .error .malformed
    else if c = '[' then .ok (⟨.firstItem, .items [] :: stack⟩, .all)
    else .ok (⟨.firstKey, stack⟩, .all)
  else (readScalar c r).map fun (v, t) => (⟨.next v, stack⟩, t)

/-- Starts a further field of an object with `c`. -/
def Reader.startField (done : Fields) (stack : List Frame) (c : Char) (r : List Char) :
    Except Defect (Reader × Left r) :=
  if c = '"' then
    (readString r).map fun (xs, t) =>
      (⟨.colon done (String.ofList xs), stack⟩, t.toLeft)
  else .error .malformed

/-- Reads the next part of a document, which starts with `c`. -/
def Reader.step (reader : Reader) (c : Char) (r : List Char) :
    Except Defect (Reader × Left r) :=
  match reader with
  | ⟨.value, stack⟩ => Reader.start stack c r
  | ⟨.firstItem, stack⟩ =>
    if c = ']' then .ok (⟨.next (.array []), stack.tail⟩, .all)
    else Reader.start stack c r
  | ⟨.firstKey, stack⟩ =>
    if c = '}' then .ok (⟨.next (.object []), stack⟩, .all)
    else Reader.startField [] stack c r
  | ⟨.key done, stack⟩ => Reader.startField done stack c r
  | ⟨.colon done key, stack⟩ =>
    if c = ':' then .ok (⟨.value, .member done key :: stack⟩, .all)
    else .error .malformed
  | ⟨.next _, []⟩ => .error .malformed
  | ⟨.next v, .items done :: up⟩ =>
    if c = ',' then .ok (⟨.value, .items (v :: done) :: up⟩, .all)
    else if c = ']' then .ok (⟨.next (.array (v :: done).reverse), up⟩, .all)
    else .error .malformed
  | ⟨.next v, .member done key :: up⟩ =>
    if c = ',' then .ok (⟨.key (Keyed.insert key v done), up⟩, .all)
    else if c = '}' then .ok (⟨.next (.object (Keyed.insert key v done)), up⟩, .all)
    else .error .malformed

/-- Reads to the end of the text. -/
def Reader.run (reader : Reader) (s : List Char) : Except Defect Json :=
  match s with
  | [] =>
    match reader with
    | ⟨.next v, []⟩ => .ok v
    | _ => .error .unfinished
  | c :: r =>
    if isSpace c then run reader r
    else
      match reader.step c r with
      | .error e => .error e
      | .ok (after, t) => run after t.1
termination_by s.length
decreasing_by
  · simp
  · have := t.2; simp; omega

/-- Reads the document value that the text holds. -/
def parse (text : String) : Except Defect Json :=
  Reader.run ⟨.value, []⟩ text.toList

end CloudCanvas.Json
