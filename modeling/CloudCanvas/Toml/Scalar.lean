/-
Scalars of a configuration file: quoted texts, numbers, truth values, dates and times. A carriage return
is taken to stand in front of a line feed only.
-/
import CloudCanvas.Text.Hex
import CloudCanvas.Text.Rest
import CloudCanvas.Toml.Value

namespace CloudCanvas.Toml

open Text (Rest Left)

/-- Characters that may stand in a comment or between quotes: all but control characters other than
the tab. -/
def isPlain (c : Char) : Bool :=
  c == '\t' || (0x20 ≤ c.toNat && c.toNat != 0x7F)

/-- White space inside a line. -/
def isGap (c : Char) : Bool :=
  c == ' ' || c == '\t'

/-- The characters of a line break: a line feed, alone or with a carriage return in front. -/
def isBreak (c : Char) : Bool :=
  c == '\n' || c == '\r'

/-! ## Quoted texts -/

/-- Reads so many hexadecimal digits as the character with that code point. -/
def readCodePoint (count : Nat) (s : List Char) : Option (Char × Left s) :=
  if (s.take count).length = count then
    match Text.hexDigitsValue? (s.take count) with
    | some n =>
      if n.isValidChar then some (Char.ofNat n, ⟨s.drop count, by simp⟩) else none
    | none => none
  else none

/-- Reads what follows a backslash. -/
def readEscape (s : List Char) : Option (Char × Rest s) :=
  match s with
  | [] => none
  | c :: r =>
    match c with
    | 'b' => some (Char.ofNat 0x08, .single)
    | 't' => some ('\t', .single)
    | 'n' => some ('\n', .single)
    | 'f' => some (Char.ofNat 0x0C, .single)
    | 'r' => some ('\r', .single)
    | 'e' => some (Char.ofNat 0x1B, .single)
    | '"' => some ('"', .single)
    | '\\' => some ('\\', .single)
    | 'x' => (readCodePoint 2 r).map fun (x, t) => (x, t.cons c)
    | 'u' => (readCodePoint 4 r).map fun (x, t) => (x, t.cons c)
    | 'U' => (readCodePoint 8 r).map fun (x, t) => (x, t.cons c)
    | _ => none

/-- The quotes of a text: basic ones know escapes, literal ones do not. -/
inductive Quotes
  | basic
  | literal
  deriving DecidableEq

/-- The character of the quotes. -/
def Quotes.char : Quotes → Char
  | basic => '"'
  | literal => '\''

/-- Reads the rest of a text that ends on its line. -/
def readLineText (quotes : Quotes) (s : List Char) : Option (List Char × Rest s) :=
  match s with
  | [] => none
  | c :: r =>
    if c = quotes.char then some ([], .single)
    else if c = '\\' ∧ quotes = .basic then
      match readEscape r with
      | none => none
      | some (x, t) => (readLineText quotes t.1).map fun (xs, u) => (x :: xs, (t.trans u).cons c)
    else if isPlain c then (readLineText quotes r).map fun (xs, u) => (c :: xs, u.cons c)
    else none
termination_by s.length
decreasing_by
  · have := t.2; simp; omega
  · simp

/-- What follows the end of a line that a backslash has folded: white space and line breaks are passed
over. There is nothing to fold when more text stands on the line. -/
def afterFold? (s : List Char) : Option (Left s) :=
  let t := Text.dropping isGap s
  match t.1 with
  | [] => none
  | c :: _ =>
    if isBreak c then some (t.trans (Text.dropping (fun c => isGap c || isBreak c) t.1)) else none

/-- Reads the rest of a text over several lines. Three quotes end it, and up to two more of them belong
to the text. -/
def readBlockText (quotes : Quotes) (s : List Char) : Option (List Char × Rest s) :=
  match s with
  | [] => none
  | c :: r =>
    if c = quotes.char then
      let more := r.takeWhile (· == quotes.char)
      let t := Text.dropping (· == quotes.char) r
      if more.length < 2 then
        (readBlockText quotes t.1).map fun (xs, u) => (c :: more ++ xs, (t.transRest u).cons c)
      else if more.length < 5 then some (more.drop 2, t.cons c)
      else none
    else if c = '\\' ∧ quotes = .basic then
      match afterFold? r with
      | some t => (readBlockText quotes t.1).map fun (xs, u) => (xs, (t.transRest u).cons c)
      | none =>
        match readEscape r with
        | none => none
        | some (x, t) => (readBlockText quotes t.1).map fun (xs, u) => (x :: xs, (t.trans u).cons c)
    else if isPlain c || isBreak c then
      (readBlockText quotes r).map fun (xs, u) => (c :: xs, u.cons c)
    else none
termination_by s.length
decreasing_by
  · have := (Text.dropping (· == quotes.char) r).2; simp; omega
  · have := t.2; simp; omega
  · have := t.2; simp; omega
  · simp

/-- The text without the line break with which it begins, if it begins with one. -/
def dropBreak (s : List Char) : Left s :=
  match s with
  | '\n' :: r => ⟨r, by simp⟩
  | '\r' :: '\n' :: r => ⟨r, by simp; omega⟩
  | _ => .all

/-- Reads the rest of a text whose first quote has been read. A line break right behind three opening
quotes does not count. -/
def readText (quotes : Quotes) (s : List Char) : Option (String × Rest s) :=
  match s with
  | [] => none
  | [c] => if c = quotes.char then some ("", .single) else none
  | c :: d :: r =>
    if c = quotes.char ∧ d = quotes.char then
      let t := dropBreak r
      (readBlockText quotes t.1).map fun (xs, u) =>
        (String.ofList xs, ((t.transRest u).cons d).cons c)
    else (readLineText quotes (c :: d :: r)).map fun (xs, u) => (String.ofList xs, u)

/-! ## Numbers -/

/-- The digits of a run in which single underscores may stand between digits. -/
def ungroup? (isDigit : Char → Bool) : List Char → Option (List Char)
  | [] => none
  | [c] => if isDigit c then some [c] else none
  | c :: '_' :: rest => if isDigit c then (ungroup? isDigit rest).map (c :: ·) else none
  | c :: rest => if isDigit c then (ungroup? isDigit rest).map (c :: ·) else none

/-- The value of digits of a base. -/
def digitsOf (base : Nat) (ds : List Char) : Option Nat :=
  ds.foldlM
    (fun n c => (Text.hexValue? c).bind fun d => if d < base then some (base * n + d) else none) 0

/-- Reads an integer of a base other than ten. -/
def readBased? (base : Nat) (s : List Char) : Option Value :=
  ((ungroup? (fun c => (Text.hexValue? c).isSome) s).bind (digitsOf base)).map fun n => .integer n

/-- Whether digits have no zero in front that is not the only one. -/
def isUnpadded : List Char → Bool
  | '0' :: _ :: _ => false
  | _ => true

/-- Reads an unsigned decimal numeral as the number of the given sign. -/
def readDecimal? (negative : Bool) (s : List Char) : Option Value := do
  let isWhole (c : Char) : Bool := c.isDigit || c == '_'
  let whole ← ungroup? Char.isDigit (s.takeWhile isWhole)
  if !isUnpadded whole then none
  else
    let rest := s.dropWhile isWhole
    if rest.isEmpty then
      let n : Int := digitsValue 0 whole
      return .integer (if negative then -n else n)
    else
      let (fraction, rest) ←
        match rest with
        | '.' :: r => (ungroup? Char.isDigit (r.takeWhile isWhole)).map fun f => (f, r.dropWhile isWhole)
        | r => some ([], r)
      let exponent ←
        match rest with
        | [] => some (0 : Int)
        | e :: r =>
          if e == 'e' || e == 'E' then
            let (down, r) := Decimal.splitSign r
            (ungroup? Char.isDigit r).map fun ds =>
              if down then -(digitsValue 0 ds : Int) else (digitsValue 0 ds : Int)
          else none
      let d : Decimal := ⟨negative, digitsValue 0 (whole ++ fraction), exponent - fraction.length⟩
      return .real ((d.toBinary64?.map Real.finite).getD .excessive)

/-- Reads a number. -/
def readNumber? (s : List Char) : Option Value :=
  match s with
  | '0' :: 'x' :: ds => readBased? 16 ds
  | '0' :: 'o' :: ds => readBased? 8 ds
  | '0' :: 'b' :: ds => readBased? 2 ds
  | _ =>
    let (negative, unsigned) := Decimal.splitSign s
    if unsigned = ['i', 'n', 'f'] then some (.real (.infinite negative))
    else if unsigned = ['n', 'a', 'n'] then some (.real .notANumber)
    else readDecimal? negative unsigned

/-! ## Bare words -/

/-- The characters of a scalar without quotes. -/
def isWordChar (c : Char) : Bool :=
  c.isAlphanum || c == '_' || c == '+' || c == '-' || c == '.' || c == ':'

/-- The scalar that a bare word stands for. -/
def wordValue? (word : List Char) : Option Value :=
  if word = ['t', 'r', 'u', 'e'] then some (.boolean true)
  else if word = ['f', 'a', 'l', 's', 'e'] then some (.boolean false)
  else
    match Moment.read? word with
    | some moment => some (.moment moment)
    | none => readNumber? word

/-- Reads a bare word. A date goes on behind a space when a digit follows there. -/
def readWord (s : List Char) : Option (Value × Rest s) :=
  match s with
  | [] => none
  | c :: r =>
    if !isWordChar c then none
    else
      let word := c :: r.takeWhile isWordChar
      let t := Text.dropping isWordChar r
      match h : t.1 with
      | ' ' :: d :: u =>
        if (Date.read? word).isSome && d.isDigit then
          let time := d :: u.takeWhile isWordChar
          let v := Text.dropping isWordChar u
          (wordValue? (word ++ ' ' :: time)).map fun value =>
            (value, Left.cons c ⟨v.1, by have := t.2; have := v.2; simp [h] at *; omega⟩)
        else (wordValue? word).map fun value => (value, t.cons c)
      | _ => (wordValue? word).map fun value => (value, t.cons c)

/-- Reads a text or a bare word. -/
def readScalar (s : List Char) : Option (Value × Rest s) :=
  match s with
  | '"' :: r => (readText .basic r).map fun (x, t) => (.string x, t.cons '"')
  | '\'' :: r => (readText .literal r).map fun (x, t) => (.string x, t.cons '\'')
  | s => readWord s

end CloudCanvas.Toml
