/-
Literals are read back from any text that begins with one. A scanner that takes a backslash and the character
behind it together stops at the first quote that is not escaped, and that is the closing quote; what stands
in between is the text once the escapes are undone. The reader accepts nothing but written literals.
-/
import CloudCanvas.Proofs.Hcl.Literal
import CloudCanvas.Proofs.Hcl.Token

namespace CloudCanvas.Hcl

open CloudCanvas.Text

/-! ## Up to the closing quote -/

/-- What may stand between the quotes of a literal: every quote and every backslash is escaped. -/
inductive IsInside : List Char → Prop
  | nil : IsInside []
  | plain {c : Char} {s : List Char} : c ≠ '"' → c ≠ '\\' → IsInside s → IsInside (c :: s)
  /-- A backslash and the character behind it, whatever that is. -/
  | escaped (c : Char) {s : List Char} : IsInside s → IsInside ('\\' :: c :: s)

/-- Reads up to the first quote that is not escaped: what stands before it and what follows it. -/
def scan : List Char → Option (List Char × List Char)
  | [] => none
  | '"' :: s => some ([], s)
  | '\\' :: c :: s => (scan s).map fun (inside, rest) => ('\\' :: c :: inside, rest)
  | c :: s => (scan s).map fun (inside, rest) => (c :: inside, rest)

theorem scan_plain {c : Char} (hquote : c ≠ '"') (hslash : c ≠ '\\') (s : List Char) :
    scan (c :: s) = (scan s).map fun (inside, rest) => (c :: inside, rest) := by
  rw [scan]
  · exact hquote
  · rintro d t rfl
    exact absurd rfl hslash

theorem IsInside.scan_append {inside : List Char} (h : IsInside inside) (rest : List Char) :
    scan (inside ++ '"' :: rest) = some (inside, rest) := by
  induction h with
  | nil => rfl
  | plain hquote hslash _ ih =>
    rw [List.cons_append, scan_plain hquote hslash, ih]
    rfl
  | escaped c _ ih =>
    rw [List.cons_append, List.cons_append, scan, ih]
    rfl

theorem of_scan {text inside rest : List Char} (h : scan text = some (inside, rest)) :
    IsInside inside ∧ text = inside ++ '"' :: rest := by
  fun_induction scan text generalizing inside with
  | case1 => cases h
  | case2 s =>
    cases h
    exact ⟨.nil, rfl⟩
  | case3 c s ih =>
    obtain ⟨⟨inside, rest⟩, hs, hpair⟩ := Option.map_eq_some_iff.1 h
    cases hpair
    obtain ⟨hinside, rfl⟩ := ih hs
    exact ⟨hinside.escaped c, rfl⟩
  | case4 c s hquote hslash ih =>
    obtain ⟨⟨inside, rest⟩, hs, hpair⟩ := Option.map_eq_some_iff.1 h
    cases hpair
    obtain ⟨hinside, rfl⟩ := ih hs
    -- a backslash would have been taken together with the character behind it
    refine ⟨hinside.plain hquote ?_, rfl⟩
    rintro rfl
    obtain ⟨d, t, ht⟩ := List.exists_cons_of_ne_nil (List.append_ne_nil_of_right_ne_nil inside
      (List.cons_ne_nil '"' rest))
    exact hslash d t rfl ht

theorem scan_eq_some_iff {text inside rest : List Char} :
    scan text = some (inside, rest) ↔ IsInside inside ∧ text = inside ++ '"' :: rest := by
  refine ⟨of_scan, ?_⟩
  rintro ⟨h, rfl⟩
  exact h.scan_append rest

/-! ## Undoing escapes -/

/-- The character for which a letter behind a backslash stands. -/
def reservedOf? : Char → Option Char
  | '\\' => some '\\'
  | '"' => some '"'
  | 'n' => some '\n'
  | 'r' => some '\r'
  | 't' => some '\t'
  | _ => none

theorem reservedOf?_eq_some_iff {c e : Char} : reservedOf? e = some c ↔ escapeLetter? c = some e := by
  constructor
  · intro h
    unfold reservedOf? at h
    split at h <;> cases h <;> rfl
  · intro h
    unfold escapeLetter? at h
    split at h <;> cases h <;> rfl

/-- Undoes the escapes. A backslash with another letter behind it stands for nothing, and neither does a
reserved character by itself. -/
def unescape : List Char → Option (List Char)
  | [] => some []
  | '\\' :: e :: s => do
    let c ← reservedOf? e
    let rest ← unescape s
    return c :: rest
  | c :: s => if (escapeLetter? c).isSome then none else (unescape s).map (c :: ·)

theorem unescape_plain {c : Char} (h : escapeLetter? c = none) (s : List Char) :
    unescape (c :: s) = (unescape s).map (c :: ·) := by
  rw [unescape, h]
  · rfl
  · rintro e t rfl
    cases h

theorem unescape_escapeChars (s : List Char) : unescape (escapeChars s) = some s := by
  induction s with
  | nil => rfl
  | cons c s ih =>
    have hcons : escapeChars (c :: s) = escapeChar c ++ escapeChars s := List.flatMap_cons
    rw [hcons]
    unfold escapeChar
    cases hc : escapeLetter? c with
    | some e =>
      show unescape ('\\' :: e :: escapeChars s) = some (c :: s)
      rw [unescape, reservedOf?_eq_some_iff.2 hc, ih]
      rfl
    | none =>
      show unescape (c :: escapeChars s) = some (c :: s)
      rw [unescape_plain hc, ih]
      rfl

theorem eq_escapeChars_of_unescape {t s : List Char} (h : unescape t = some s) : t = escapeChars s := by
  fun_induction unescape t generalizing s with
  | case1 =>
    cases h
    rfl
  | case2 e t ih =>
    obtain ⟨c, hc, h⟩ := Option.bind_eq_some_iff.1 h
    obtain ⟨rest, hrest, h⟩ := Option.bind_eq_some_iff.1 h
    cases h
    have hchar : escapeChar c = ['\\', e] := by
      unfold escapeChar
      rw [reservedOf?_eq_some_iff.1 hc]
    show _ = escapeChar c ++ escapeChars rest
    rw [hchar, ih hrest]
    rfl
  | case3 c t _ hc => cases h
  | case4 c t _ hc ih =>
    obtain ⟨rest, hrest, rfl⟩ := Option.map_eq_some_iff.1 h
    have hchar : escapeChar c = [c] := by
      unfold escapeChar
      rw [Option.not_isSome_iff_eq_none.1 hc]
    show _ = escapeChar c ++ escapeChars rest
    rw [hchar, ih hrest]
    rfl

theorem unescape_eq_some_iff {t s : List Char} : unescape t = some s ↔ t = escapeChars s := by
  refine ⟨eq_escapeChars_of_unescape, ?_⟩
  rintro rfl
  exact unescape_escapeChars s

/-- Escaping leaves no quote and no backslash without a backslash in front. -/
theorem isInside_escapeChars (s : List Char) : IsInside (escapeChars s) := by
  induction s with
  | nil => exact .nil
  | cons c s ih =>
    show IsInside (escapeChar c ++ escapeChars s)
    unfold escapeChar
    cases hc : escapeLetter? c with
    | some e => exact .escaped e ih
    | none =>
      refine .plain ?_ ?_ ih
      · rintro rfl
        cases hc
      · rintro rfl
        cases hc

/-! ## Literals -/

/-- Reads the literal with which the characters begin: what it stands for, and what follows it. -/
def readQuoted : List Char → Option (List Char × List Char)
  | '"' :: s => do
    let (inside, rest) ← scan s
    let value ← unescape inside
    return (value, rest)
  | _ => none

/-- Reads the literal with which a text begins: the text that it stands for, and what follows it. -/
def readLiteral (text : String) : Option (String × String) :=
  (readQuoted text.toList).map fun (s, rest) => (String.ofList s, String.ofList rest)

theorem readQuoted_eq_some_iff {text s rest : List Char} :
    readQuoted text = some (s, rest) ↔ text = '"' :: (escapeChars s ++ '"' :: rest) := by
  constructor
  · intro h
    unfold readQuoted at h
    split at h
    · obtain ⟨⟨inside, after⟩, hscan, h⟩ := Option.bind_eq_some_iff.1 h
      obtain ⟨value, hvalue, h⟩ := Option.bind_eq_some_iff.1 h
      cases h
      obtain ⟨-, rfl⟩ := of_scan hscan
      rw [unescape_eq_some_iff.1 hvalue]
    · cases h
  · rintro rfl
    rw [readQuoted, (isInside_escapeChars s).scan_append]
    show ((unescape (escapeChars s)).bind fun value => some (value, rest)) = some (s, rest)
    rw [unescape_eq_some_iff.2 rfl, Option.bind_some]

theorem readLiteral_eq_some_iff {text s rest : String} :
    readLiteral text = some (s, rest) ↔ text = quote s ++ rest := by
  have hchars : text = quote s ++ rest ↔
      text.toList = '"' :: (escapeChars s.toList ++ '"' :: rest.toList) := by
    rw [← String.toList_inj, String.toList_append, toList_quote]
    simp
  rw [hchars, ← readQuoted_eq_some_iff]
  unfold readLiteral
  rw [Option.map_eq_some_iff]
  constructor
  · rintro ⟨⟨value, after⟩, hread, hpair⟩
    cases hpair
    rw [String.toList_ofList, String.toList_ofList]
    exact hread
  · intro hread
    exact ⟨_, hread, Prod.ext String.ofList_toList String.ofList_toList⟩

/-! ## Reserved characters -/

/-- The characters that do not stand for themselves inside a literal. -/
def reserved : List Char := ['\\', '"', '\n', '\r', '\t']

theorem escapeLetter?_eq_none_iff {c : Char} : escapeLetter? c = none ↔ c ∉ reserved := by
  unfold escapeLetter?
  split
  case h_6 hslash hquote hline hreturn htab =>
    simpa [reserved] using ⟨hslash, hquote, hline, hreturn, htab⟩
  all_goals decide

/-- Escaping makes a text longer by one character for each reserved one. -/
theorem length_escapeChars (s : List Char) :
    (escapeChars s).length = s.length + s.countP fun c => (escapeLetter? c).isSome := by
  induction s with
  | nil => rfl
  | cons c s ih =>
    show (escapeChar c ++ escapeChars s).length = _
    rw [List.length_append, ih, List.countP_cons, List.length_cons]
    unfold escapeChar
    cases escapeLetter? c with
    | some e =>
      simp
      omega
    | none =>
      simp
      omega

theorem escape_eq_self_iff {s : String} : escape s = s ↔ ∀ c ∈ s.toList, c ∉ reserved := by
  constructor
  · intro h c hc
    have hlength := length_escapeChars s.toList
    have hchars : escapeChars s.toList = s.toList := by
      have := congrArg String.toList h
      unfold escape at this
      rwa [String.toList_ofList] at this
    rw [hchars] at hlength
    have hcount : s.toList.countP (fun c => (escapeLetter? c).isSome) = 0 := by omega
    rw [← escapeLetter?_eq_none_iff, ← Option.not_isSome_iff_eq_none]
    exact List.countP_eq_zero.1 hcount c hc
  · exact fun h => escape_eq_self fun c hc => escapeLetter?_eq_none_iff.2 (h c hc)

/-- Literals tell where they end and what they stand for. One scanner, which takes a backslash and the
character behind it together and stops at the first quote that is left, reads the literal of every text from
whatever begins with it, and reads nothing else. A literal holds no line break, no carriage return and no
tab, and just the texts without reserved characters are written as they are. -/
theorem literals_delimit_themselves :
    (∀ text inside rest, scan text = some (inside, rest) ↔ IsInside inside ∧ text = inside ++ '"' :: rest) ∧
    (∀ text s rest, readLiteral text = some (s, rest) ↔ text = quote s ++ rest) ∧
    (∀ s, Unbroken (quote s)) ∧
    ∀ s, escape s = s ↔ ∀ c ∈ s.toList, c ∉ reserved := by
  exact ⟨fun _ _ _ => scan_eq_some_iff, fun _ _ _ => readLiteral_eq_some_iff, unbroken_quote,
    fun _ => escape_eq_self_iff⟩

/-- A text that ends with a backslash, before a text that begins with a quote. -/
theorem slash_before_quote_is_read :
    readLiteral "\"\\\"\\\\\"\"\\" = some ("\"\\", "\"\\") ∧ Unbroken (quote "\"\\") ∧
      (∀ c ∈ "a.b".toList, c ∉ reserved) ∧ escape "a.b" = "a.b" := by
  have hplain : ∀ c ∈ "a.b".toList, c ∉ reserved := by simp [reserved]
  exact ⟨(literals_delimit_themselves.2.1 _ _ _).2 (by decide +kernel), literals_delimit_themselves.2.2.1 _,
    hplain, (literals_delimit_themselves.2.2.2 _).2 hplain⟩

end CloudCanvas.Hcl
