/-
What is left of a text after a piece of it has been read. The types carry that the rest is shorter than
the text, or at least not longer, so that readers which go on with the rest come to an end.
-/
namespace CloudCanvas.Text

/-- What follows a nonempty piece at the start of `s`. -/
abbrev Rest (s : List Char) := { r : List Char // r.length < s.length }

/-- What follows a piece at the start of `s` that may be empty. -/
abbrev Left (s : List Char) := { r : List Char // r.length ≤ s.length }

namespace Rest

/-- The rest behind one character. -/
def single {c : Char} {s : List Char} : Rest (c :: s) :=
  ⟨s, Nat.lt_succ_self _⟩

/-- A rest of `s`, seen from a character before `s`. -/
def cons {s : List Char} (c : Char) (r : Rest s) : Rest (c :: s) :=
  ⟨r.1, Nat.lt_succ_of_lt r.2⟩

/-- A rest of a rest. -/
def trans {s : List Char} (r : Rest s) (t : Rest r.1) : Rest s :=
  ⟨t.1, Nat.lt_trans t.2 r.2⟩

/-- What a piece that may be empty leaves of a rest. -/
def transLeft {s : List Char} (r : Rest s) (t : Left r.1) : Rest s :=
  ⟨t.1, Nat.lt_of_le_of_lt t.2 r.2⟩

/-- A rest, with its strictness forgotten. -/
def toLeft {s : List Char} (r : Rest s) : Left s :=
  ⟨r.1, Nat.le_of_lt r.2⟩

end Rest

namespace Left

/-- Nothing has been read. -/
def all {s : List Char} : Left s :=
  ⟨s, Nat.le_refl _⟩

/-- What is left of `s`, seen from a character before `s`. -/
def cons {s : List Char} (c : Char) (r : Left s) : Rest (c :: s) :=
  ⟨r.1, Nat.lt_succ_of_le r.2⟩

/-- What a second piece leaves. -/
def trans {s : List Char} (r : Left s) (t : Left r.1) : Left s :=
  ⟨t.1, Nat.le_trans t.2 r.2⟩

/-- What a nonempty second piece leaves. -/
def transRest {s : List Char} (r : Left s) (t : Rest r.1) : Rest s :=
  ⟨t.1, Nat.lt_of_lt_of_le t.2 r.2⟩

/-- What is left of `s` after a character before `s` has been read as well. -/
def ofTail {c : Char} {s : List Char} (r : Rest (c :: s)) : Left s :=
  ⟨r.1, Nat.le_of_lt_succ r.2⟩

end Left

theorem length_dropWhile_le (p : Char → Bool) (s : List Char) :
    (s.dropWhile p).length ≤ s.length :=
  (List.dropWhile_suffix p).length_le

/-- What follows the characters with `p` at the start. -/
def dropping (p : Char → Bool) (s : List Char) : Left s :=
  ⟨s.dropWhile p, length_dropWhile_le p s⟩

end CloudCanvas.Text
