/-
Reading a configuration file: values, lines, and the table of the whole file. As far as a reader can
tell, a file is good or it is not, so there is one way to fail.
-/
import CloudCanvas.Toml.Scalar

namespace CloudCanvas.Toml

open Text (Rest Left)

/-! ## Spaces, line breaks and comments -/

/-- Passes over white space, line breaks and comments; `inComment` tells whether a comment has begun. -/
def skipTrivia (inComment : Bool) (s : List Char) : Option (Left s) :=
  match s with
  | [] => some .all
  | c :: r =>
    if isBreak c then (skipTrivia false r).map fun t => (t.cons c).toLeft
    else if inComment then
      if isPlain c then (skipTrivia true r).map fun t => (t.cons c).toLeft else none
    else if isGap c then (skipTrivia false r).map fun t => (t.cons c).toLeft
    else if c = '#' then (skipTrivia true r).map fun t => (t.cons c).toLeft
    else some .all

/-- Passes over the end of a line: white space, a comment if there is one, and the line break or its first
character. -/
def endLine (s : List Char) : Option (Left s) :=
  let t := Text.dropping isGap s
  match h : t.1 with
  | [] => some t
  | c :: r =>
    if isBreak c then some ⟨r, by have := t.2; simp [h] at this; omega⟩
    else if c = '#' then
      if (r.takeWhile (!isBreak ·)).all isPlain then
        let u := Text.dropping (!isBreak ·) r
        some ⟨u.1.tail, by have := t.2; have := u.2; simp [h] at *; omega⟩
      else none
    else none

/-! ## Keys -/

/-- The characters of a key without quotes. -/
def isBareKeyChar (c : Char) : Bool :=
  c.isAlphanum || c == '_' || c == '-'

/-- Reads one key. -/
def readKey (s : List Char) : Option (String × Rest s) :=
  match s with
  | [] => none
  | c :: r =>
    if c = '"' then (readLineText .basic r).map fun (xs, t) => (String.ofList xs, t.cons c)
    else if c = '\'' then (readLineText .literal r).map fun (xs, t) => (String.ofList xs, t.cons c)
    else if isBareKeyChar c then
      some (String.ofList (c :: r.takeWhile isBareKeyChar), (Text.dropping isBareKeyChar r).cons c)
    else none

/-- Reads keys with dots between them, and the white space behind them. -/
def readPath (s : List Char) : Option (List String × Rest s) :=
  match readKey s with
  | none => none
  | some (key, r) =>
    let t := r.transLeft (Text.dropping isGap r.1)
    match h : t.1 with
    | '.' :: u =>
      let v := Text.dropping isGap u
      have shorter : v.1.length < s.length := by
        have := t.2; have := v.2; simp [h] at *; omega
      (readPath v.1).map fun (keys, w) => (key :: keys, ⟨w.1, Nat.lt_trans w.2 shorter⟩)
    | _ => some ([key], t)
termination_by s.length

/-! ## Values -/

/-- A reader of one value. -/
abbrev ValueReader := (s : List Char) → Option (Value × Rest s)

/-- Reads `path = value`. -/
def readAssignment (readValue : ValueReader) (s : List Char) : Option (Assignment × Rest s) :=
  match readPath s with
  | none => none
  | some (path, r) =>
    match h : r.1 with
    | '=' :: t =>
      let u := Text.dropping isGap t
      (readValue u.1).map fun (value, v) =>
        (⟨path, value⟩,
          ⟨v.1, by have := r.2; have := u.2; have := v.2; simp [h] at *; omega⟩)
    | _ => none

/-- Reads the rest of a list of items whose opening bracket has been read; a comma may stand behind the
last item. -/
def readItems {α : Type} (closing : Char) (readItem : (s : List Char) → Option (α × Rest s))
    (s : List Char) : Option (List α × Rest s) :=
  match skipTrivia false s with
  | none => none
  | some t =>
    match h : t.1 with
    | [] => none
    | c :: r =>
      if c = closing then some ([], ⟨r, by have := t.2; simp [h] at this; omega⟩)
      else
        match readItem t.1 with
        | none => none
        | some (item, u) =>
          match skipTrivia false u.1 with
          | none => none
          | some v =>
            match h' : v.1 with
            | [] => none
            | d :: w =>
              have shorter : w.length < s.length := by
                have := t.2; have := u.2; have := v.2; simp [h'] at *; omega
              if d = closing then some ([item], ⟨w, shorter⟩)
              else if d = ',' then
                (readItems closing readItem w).map fun (items, x) =>
                  (item :: items, ⟨x.1, Nat.lt_trans x.2 shorter⟩)
              else none
termination_by s.length

/-- Reads a value in which arrays and tables stand at most `depth` deep inside one another. -/
def readValue : Nat → ValueReader
  | 0, s => readScalar s
  | depth + 1, s =>
    match s with
    | '[' :: r =>
      (readItems ']' (readValue depth) r).map fun (items, t) => (.array items, t.cons '[')
    | '\x7b' :: r =>
      match readItems '\x7d' (readAssignment (readValue depth)) r with
      | none => none
      | some (assignments, t) =>
        (assignAll assignments []).map fun entries => (.table .inline entries, t.cons '\x7b')
    | s => readScalar s

/-- As many arrays and tables may stand inside one another. -/
def depthLimit : Nat := 80

/-! ## Lines -/

/-- A line of a file. -/
inductive Line
  | assignment (a : Assignment)
  | header (h : Header)

/-- Reads the path of a header up to its brackets. -/
def readHeader (s : List Char) : Option (Header × Left s) :=
  match s with
  | '[' :: r =>
    let t := Text.dropping isGap r
    match readPath t.1 with
    | none => none
    | some (path, u) =>
      match h : u.1 with
      | ']' :: ']' :: v =>
        some (.element path, ⟨v, by have := t.2; have := u.2; simp [h] at *; omega⟩)
      | _ => none
  | s =>
    let t := Text.dropping isGap s
    match readPath t.1 with
    | none => none
    | some (path, u) =>
      match h : u.1 with
      | ']' :: v => some (.table path, ⟨v, by have := t.2; have := u.2; simp [h] at *; omega⟩)
      | _ => none

/-- Reads a line that is neither empty nor a comment. -/
def readLine (s : List Char) : Option (Line × Rest s) :=
  match s with
  | '[' :: r =>
    match readHeader r with
    | none => none
    | some (header, t) => (endLine t.1).map fun u => (.header header, (t.trans u).cons '[')
  | s =>
    match readAssignment (readValue depthLimit) s with
    | none => none
    | some (a, r) => (endLine r.1).map fun t => (.assignment a, r.transLeft t)

/-- Reads the lines of a file. -/
def readLines (s : List Char) : Option (List Line) :=
  match skipTrivia false s with
  | none => none
  | some t =>
    if t.1.isEmpty then some []
    else
      match readLine t.1 with
      | none => none
      | some (line, u) => (readLines u.1).map (line :: ·)
termination_by s.length
decreasing_by have := t.2; have := u.2; omega

/-- Groups lines: the assignments before the first header, and the sections. -/
def group : List Line → List Assignment × List Section
  | [] => ([], [])
  | .assignment a :: rest => (a :: (group rest).1, (group rest).2)
  | .header h :: rest => ([], ⟨h, (group rest).1⟩ :: (group rest).2)

/-- Whether every carriage return stands in front of a line feed. -/
def hasWholeBreaks : List Char → Bool
  | [] => true
  | '\r' :: '\n' :: rest => hasWholeBreaks rest
  | '\r' :: _ => false
  | _ :: rest => hasWholeBreaks rest

/-- The text without a byte order mark in front. -/
def dropMark : List Char → List Char
  | c :: rest => if c.toNat = 0xFEFF then rest else c :: rest
  | [] => []

/-- Reads the table that a configuration file holds. -/
def parse? (text : String) : Option (Keyed Value) := do
  let s := dropMark text.toList
  if !hasWholeBreaks s then none
  let (top, sections) := group (← readLines s)
  build top sections

end CloudCanvas.Toml
