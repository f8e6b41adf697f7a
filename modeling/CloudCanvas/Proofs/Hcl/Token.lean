/-
The parts of a line tell where they end. A literal ends at its closing quote, because every quote inside
is escaped; an identifier and a reference end at the first character that cannot go on with them; a list
ends at its bracket. So the text of an expression determines the expression, as far as numbers are taken
by their text, and the line of a map entry determines the entry.
-/
import CloudCanvas.Proofs.Hcl.Block
import CloudCanvas.Proofs.Number.Leading
import CloudCanvas.Proofs.Text.Lines

namespace CloudCanvas.Hcl

/-! ## Where a part ends -/

section Ends

variable {α β : Type} {p : β → Bool}

/-- What follows does not begin with an element of the class. -/
def Stops (p : β → Bool) (rest : List β) : Prop :=
  ∀ b ∈ rest.head?, p b = false

theorem stops_cons {b : β} {rest : List β} : Stops p (b :: rest) ↔ p b = false := by
  simp [Stops]

theorem takeWhile_append_of_stops {s rest : List β} (hs : ∀ b ∈ s, p b = true) (hr : Stops p rest) :
    (s ++ rest).takeWhile p = s := by
  rw [List.takeWhile_append_of_pos hs]
  cases rest with
  | nil => simp
  | cons b rest => rw [List.takeWhile_cons_of_neg (by rw [stops_cons.1 hr]; decide), List.append_nil]

/-- Two runs of elements of a class that end before one outside of it. -/
theorem append_inj_of_stops {s t rest rest' : List β} (hs : ∀ b ∈ s, p b = true)
    (ht : ∀ b ∈ t, p b = true) (hr : Stops p rest) (hr' : Stops p rest') (h : s ++ rest = t ++ rest') :
    s = t ∧ rest = rest' := by
  have hst : s = t := by
    rw [← takeWhile_append_of_stops hs hr, h, takeWhile_append_of_stops ht hr']
  subst hst
  exact ⟨rfl, List.append_cancel_left h⟩

/-- Parts one after another, up to a closing element with which no part begins. If each part tells where
it ends, before whatever cannot go on with it, then so do the parts together. -/
theorem flatMap_append_inj {f : α → List β} {C : α → Prop} {close : β}
    (hlead : ∀ a, C a → ∃ b t, f a = b :: t ∧ b ≠ close ∧ p b = false)
    (hinj : ∀ a a' rest rest', C a → C a' → Stops p rest → Stops p rest' →
      f a ++ rest = f a' ++ rest' → a = a' ∧ rest = rest')
    (hclose : p close = false) {as bs : List α} (ha : ∀ a ∈ as, C a) (hb : ∀ b ∈ bs, C b)
    {rest rest' : List β} (h : as.flatMap f ++ close :: rest = bs.flatMap f ++ close :: rest') :
    as = bs ∧ rest = rest' := by
  have hstops : ∀ {as : List α} {rest : List β}, (∀ a ∈ as, C a) →
      Stops p (as.flatMap f ++ close :: rest) := by
    intro as rest ha
    cases as with
    | nil => exact stops_cons.2 hclose
    | cons a as =>
      obtain ⟨b, t, hf, -, hp⟩ := hlead a (ha a (List.mem_cons_self ..))
      rw [List.flatMap_cons, hf]
      exact stops_cons.2 hp
  induction as generalizing bs with
  | nil =>
    cases bs with
    | nil => exact ⟨rfl, (List.cons.inj h).2⟩
    | cons b bs =>
      obtain ⟨c, t, hf, hne, -⟩ := hlead b (hb b (List.mem_cons_self ..))
      rw [List.flatMap_cons, hf] at h
      exact absurd (List.cons.inj h).1.symm hne
  | cons a as ih =>
    have ha' := fun a ha' => ha a (List.mem_cons_of_mem _ ha')
    cases bs with
    | nil =>
      obtain ⟨c, t, hf, hne, -⟩ := hlead a (ha a (List.mem_cons_self ..))
      rw [List.flatMap_cons, hf] at h
      exact absurd (List.cons.inj h).1 hne
    | cons b bs =>
      have hb' := fun b hb' => hb b (List.mem_cons_of_mem _ hb')
      rw [List.flatMap_cons, List.flatMap_cons, List.append_assoc, List.append_assoc] at h
      obtain ⟨rfl, hmore⟩ := hinj a b _ _ (ha a (List.mem_cons_self ..)) (hb b (List.mem_cons_self ..))
        (hstops ha') (hstops hb') h
      obtain ⟨rfl, hrest⟩ := ih ha' hb' hmore
      exact ⟨rfl, hrest⟩

end Ends

/-! ## Literals -/

theorem escapeLetter?_inj {c d e : Char} (hc : escapeLetter? c = some e) (hd : escapeLetter? d = some e) :
    c = d := by
  unfold escapeLetter? at hc hd
  split at hc
  case h_6 => cases hc
  all_goals
    cases hc
    split at hd
    all_goals first
      | rfl
      | exact absurd hd (by decide)

theorem escapeChar_append_inj {c d : Char} {rest rest' : List Char}
    (h : escapeChar c ++ rest = escapeChar d ++ rest') : c = d ∧ rest = rest' := by
  unfold escapeChar at h
  cases hc : escapeLetter? c with
  | none =>
    cases hd : escapeLetter? d with
    | none => rw [hc, hd] at h; exact List.cons.inj h
    | some e =>
      -- the backslash is reserved
      rw [hc, hd] at h
      obtain ⟨rfl, -⟩ := List.cons.inj h
      cases hc
  | some e =>
    cases hd : escapeLetter? d with
    | none =>
      rw [hc, hd] at h
      obtain ⟨rfl, -⟩ := List.cons.inj h
      cases hd
    | some e' =>
      rw [hc, hd] at h
      obtain ⟨rfl, hrest⟩ := List.cons.inj (List.cons.inj h).2
      exact ⟨escapeLetter?_inj hc hd, hrest⟩

theorem exists_cons_escapeChar (c : Char) : ∃ d t, escapeChar c = d :: t ∧ d ≠ '"' := by
  unfold escapeChar
  split
  · exact ⟨_, _, rfl, by decide⟩
  · rename_i h
    refine ⟨_, _, rfl, ?_⟩
    rintro rfl
    cases h

theorem toList_quote (s : String) : (quote s).toList = '"' :: (escapeChars s.toList ++ ['"']) := by
  unfold quote escape
  simp

/-- A literal ends at its closing quote. -/
theorem quote_append_inj {s t : String} {rest rest' : List Char}
    (h : (quote s).toList ++ rest = (quote t).toList ++ rest') : s = t ∧ rest = rest' := by
  rw [toList_quote, toList_quote, List.cons_append, List.cons_append, List.cons.injEq,
    List.append_assoc, List.append_assoc] at h
  obtain ⟨hs, hrest⟩ := flatMap_append_inj (p := fun _ => false) (C := fun _ => True)
    (fun c _ => by
      obtain ⟨d, t, hd, hne⟩ := exists_cons_escapeChar c
      exact ⟨d, t, hd, hne, rfl⟩)
    (fun _ _ _ _ _ _ _ _ he => escapeChar_append_inj he) rfl (fun _ _ => trivial) (fun _ _ => trivial) h.2
  exact ⟨String.toList_inj.1 hs, hrest⟩

theorem quote_inj {s t : String} (h : quote s = quote t) : s = t := by
  have hchars : (quote s).toList ++ [] = (quote t).toList ++ [] := by rw [h]
  exact (quote_append_inj hchars).1

/-! ## Identifiers and references -/

/-- Characters that may stand in a reference. -/
def isReferenceChar (c : Char) : Bool :=
  isIdentifierRest c || c == '.'

theorem exists_cons_of_isIdentifier {s : List Char} (h : isIdentifier s = true) :
    ∃ c t, s = c :: t ∧ isIdentifierStart c = true := by
  cases s with
  | nil => cases h
  | cons c t =>
    rw [isIdentifier, Bool.and_eq_true] at h
    exact ⟨c, t, rfl, h.1⟩

/-- An identifier ends before a character that cannot go on with it. -/
theorem identifier_append_inj {s t : String} (hs : isIdentifier s.toList = true)
    (ht : isIdentifier t.toList = true) {rest rest' : List Char} (hr : Stops isIdentifierRest rest)
    (hr' : Stops isIdentifierRest rest') (h : s.toList ++ rest = t.toList ++ rest') :
    s = t ∧ rest = rest' := by
  obtain ⟨hst, hrest⟩ := append_inj_of_stops (isIdentifierRest_of_mem hs) (isIdentifierRest_of_mem ht)
    hr hr' h
  exact ⟨String.toList_inj.1 hst, hrest⟩

theorem IsReference.isReferenceChar {address : String} (h : IsReference address) :
    ∀ c ∈ address.toList, isReferenceChar c = true := by
  obtain ⟨⟨parts, -, hparts, rfl⟩, -⟩ := h
  intro c hc
  rw [String.toList_intercalate] at hc
  unfold Hcl.isReferenceChar
  rcases Text.mem_intercalate hc with hc | ⟨part, hp, hc⟩
  · rw [List.mem_singleton.1 hc]; decide
  · obtain ⟨text, ht, rfl⟩ := List.mem_map.1 hp
    rw [isIdentifierRest_of_mem (hparts text ht) c hc]; rfl

theorem IsReference.exists_cons {address : String} (h : IsReference address) :
    ∃ c t, address.toList = c :: t ∧ isIdentifierStart c = true := by
  obtain ⟨⟨parts, hne, hparts, rfl⟩, -⟩ := h
  cases parts with
  | nil => exact absurd rfl hne
  | cons part rest =>
    obtain ⟨c, t, hp, hc⟩ := exists_cons_of_isIdentifier (hparts part (List.mem_cons_self ..))
    cases rest with
    | nil => exact ⟨c, t, by simpa using hp, hc⟩
    | cons next rest =>
      rw [String.intercalate_cons_cons, String.toList_append, String.toList_append, hp]
      exact ⟨c, _, rfl, hc⟩

theorem reference_append_inj {s t : String} (hs : IsReference s) (ht : IsReference t)
    {rest rest' : List Char} (hr : Stops isReferenceChar rest) (hr' : Stops isReferenceChar rest')
    (h : s.toList ++ rest = t.toList ++ rest') : s = t ∧ rest = rest' := by
  obtain ⟨hst, hrest⟩ := append_inj_of_stops hs.isReferenceChar ht.isReferenceChar hr hr' h
  exact ⟨String.toList_inj.1 hst, hrest⟩

/-! ## Lists -/

theorem toList_bracketed (part : String) (parts : List String) :
    (bracketed (part :: parts)).toList =
      '[' :: (part.toList ++ (parts.flatMap (fun part => ',' :: ' ' :: part.toList) ++ [']'])) := by
  unfold bracketed
  induction parts generalizing part with
  | nil => simp
  | cons next parts ih =>
    have hnext := ih next
    simp only [String.toList_append] at hnext ⊢
    rw [String.intercalate_cons_cons, String.toList_append, String.toList_append]
    simp at hnext ⊢
    exact hnext

/-- A list of parts that tell where they end, before a comma or the closing bracket. -/
theorem bracketed_inj {p : Char → Bool} {C : String → Prop}
    (hinj : ∀ s t rest rest', C s → C t → Stops p rest → Stops p rest' →
      s.toList ++ rest = t.toList ++ rest' → s = t ∧ rest = rest')
    (hcomma : p ',' = false) (hclose : p ']' = false) {parts others : List String}
    (hne : parts ≠ []) (hne' : others ≠ []) (hp : ∀ part ∈ parts, C part) (ho : ∀ part ∈ others, C part)
    (h : bracketed parts = bracketed others) : parts = others := by
  have hstops : ∀ parts : List String,
      Stops p (parts.flatMap (fun part => ',' :: ' ' :: part.toList) ++ [']']) := by
    intro parts
    cases parts with
    | nil => exact stops_cons.2 hclose
    | cons part parts => exact stops_cons.2 hcomma
  cases parts with
  | nil => exact absurd rfl hne
  | cons part parts =>
    cases others with
    | nil => exact absurd rfl hne'
    | cons other others =>
      have hchars := congrArg String.toList h
      rw [toList_bracketed, toList_bracketed, List.cons.injEq] at hchars
      obtain ⟨rfl, hrest⟩ := hinj part other _ _ (hp part (List.mem_cons_self ..))
        (ho other (List.mem_cons_self ..)) (hstops parts) (hstops others) hchars.2
      obtain ⟨rfl, -⟩ := flatMap_append_inj (p := p) (C := C)
        (f := fun part => ',' :: ' ' :: part.toList) (fun _ _ => ⟨',', _, rfl, by decide, hcomma⟩)
        (fun s t rest rest' hs ht hr hr' he => hinj s t rest rest' hs ht hr hr'
          (List.cons.inj (List.cons.inj he).2).2)
        hclose (fun part hm => hp part (List.mem_cons_of_mem _ hm))
        (fun part hm => ho part (List.mem_cons_of_mem _ hm)) hrest
      rfl

/-! ## Expressions -/

/-- Two expressions are the same, or they are numbers with the same text. -/
def Expr.Agree (value other : Expr) : Prop :=
  value = other ∨ ∃ n m, value = .number n ∧ other = .number m ∧ n.text = m.text

theorem Expr.Agree.text_eq {value other : Expr} (h : value.Agree other) : value.text = other.text := by
  rcases h with rfl | ⟨n, m, rfl, rfl, h⟩
  · rfl
  · exact h

/-- The forms of expressions. -/
inductive Form
  | string
  | number
  | boolean
  | strings
  | reference
  | references
  deriving DecidableEq

/-- The form of an expression. -/
def Expr.form : Expr → Form
  | string _ => .string
  | number _ => .number
  | boolean _ => .boolean
  | strings _ => .strings
  | reference _ => .reference
  | references _ => .references

/-- Characters with which a number may begin. -/
def isNumberLead (c : Char) : Bool :=
  c.isDigit || c == '-'

/-- The form of an expression as its text tells it: by the first character, by the one behind a bracket,
and by whether it is one of the truth values. -/
def Form.ofText (text : List Char) : Form :=
  if text.head? = some '"' then .string
  else if text.head? = some '[' then if text[1]? = some '"' then .strings else .references
  else if text.head?.any isNumberLead then .number
  else if text = "true".toList ∨ text = "false".toList then .boolean
  else .reference

theorem ne_of_class {p : Char → Bool} {c d : Char} (hc : p c = true) (hd : p d = false) : c ≠ d := by
  rintro rfl
  rw [hc] at hd
  cases hd

theorem isDigit_eq_false_of_isAlpha {c : Char} (h : c.isAlpha = true) : c.isDigit = false := by
  change (c.isUpper || c.isLower) = true at h
  rw [Bool.or_eq_true, Naming.isUpper_iff, Naming.isLower_iff] at h
  rw [Bool.eq_false_iff, Ne, Naming.isDigit_iff]
  omega

theorem isNumberLead_of_isIdentifierStart {c : Char} (h : isIdentifierStart c = true) :
    isNumberLead c = false := by
  have hminus : c ≠ '-' := ne_of_class h (by decide)
  have hdigit : c.isDigit = false := by
    unfold isIdentifierStart at h
    rw [Bool.or_eq_true, beq_iff_eq] at h
    rcases h with h | rfl
    · exact isDigit_eq_false_of_isAlpha h
    · decide
  unfold isNumberLead
  rw [hdigit, Bool.false_or]
  exact beq_eq_false_iff_ne.2 hminus

theorem Form.ofText_number {c : Char} (hc : isNumberLead c = true) (rest : List Char) :
    ofText (c :: rest) = .number := by
  have hquote : c ≠ '"' := ne_of_class hc (by decide)
  have hbracket : c ≠ '[' := ne_of_class hc (by decide)
  unfold ofText
  simp [hquote, hbracket, hc]

theorem Form.ofText_reference {address : String} (h : IsReference address) :
    ofText address.toList = .reference := by
  obtain ⟨c, t, ha, hc⟩ := h.exists_cons
  have hquote : c ≠ '"' := ne_of_class hc (by decide)
  have hbracket : c ≠ '[' := ne_of_class hc (by decide)
  have htruth : ¬ (address.toList = "true".toList ∨ address.toList = "false".toList) := by
    rw [String.toList_inj, String.toList_inj]
    rintro (rfl | rfl)
    · exact h.2.1 rfl
    · exact h.2.2 rfl
  unfold ofText
  rw [if_neg htruth, ha]
  simp [hquote, hbracket, isNumberLead_of_isIdentifierStart hc]

/-- The text of an expression tells its form. -/
theorem Expr.WellFormed.ofText_text {value : Expr} (h : value.WellFormed) :
    Form.ofText value.text.toList = value.form := by
  cases value with
  | string s =>
    rw [Expr.text, toList_quote]
    rfl
  | number n =>
    obtain ⟨c, rest, ht, hc⟩ := n.exists_leading
    rw [Expr.text, ht]
    exact Form.ofText_number (by simpa [isNumberLead] using hc) rest
  | boolean b => cases b <;> decide
  | strings items =>
    cases items with
    | nil => exact absurd rfl h
    | cons item items =>
      rw [Expr.text, List.map_cons, toList_bracketed, toList_quote]
      rfl
  | reference address => exact Form.ofText_reference h
  | references addresses =>
    cases addresses with
    | nil => exact absurd rfl h.1
    | cons address addresses =>
      obtain ⟨c, t, ha, hc⟩ := (h.2 address (List.mem_cons_self ..)).exists_cons
      have hquote : c ≠ '"' := ne_of_class hc (by decide)
      rw [Expr.text, toList_bracketed, ha]
      unfold Form.ofText
      simp [hquote, Expr.form]

/-- The text of an expression determines it, as far as numbers are taken by their text. -/
theorem Expr.agree_of_text_eq {value other : Expr} (hv : value.WellFormed) (ho : other.WellFormed)
    (h : value.text = other.text) : value.Agree other := by
  have hform : value.form = other.form := by rw [← hv.ofText_text, ← ho.ofText_text, h]
  cases value with
  | string s =>
    cases other with
    | string t => exact .inl (congrArg Expr.string (quote_inj h))
    | _ => cases hform
  | number n =>
    cases other with
    | number m => exact .inr ⟨n, m, rfl, rfl, h⟩
    | _ => cases hform
  | boolean b =>
    cases other with
    | boolean b' =>
      refine .inl ?_
      cases b <;> cases b' <;> first
        | rfl
        | exact absurd h (by decide)
    | _ => cases hform
  | strings items =>
    cases other with
    | strings items' =>
      have hne : items ≠ [] := hv
      have hne' : items' ≠ [] := ho
      have hparts : items.map quote = items'.map quote :=
        bracketed_inj (p := fun _ => false) (C := fun part => ∃ s, part = quote s)
          (by
            rintro _ _ rest rest' ⟨s, rfl⟩ ⟨t, rfl⟩ - - he
            obtain ⟨rfl, hrest⟩ := quote_append_inj he
            exact ⟨rfl, hrest⟩)
          rfl rfl (by simpa using hne) (by simpa using hne')
          (fun part hp => by obtain ⟨s, -, rfl⟩ := List.mem_map.1 hp; exact ⟨s, rfl⟩)
          (fun part hp => by obtain ⟨s, -, rfl⟩ := List.mem_map.1 hp; exact ⟨s, rfl⟩) h
      exact .inl (congrArg Expr.strings ((List.map_inj_right fun _ _ => quote_inj).1 hparts))
    | _ => cases hform
  | reference address =>
    cases other with
    | reference address' => exact .inl (congrArg Expr.reference h)
    | _ => cases hform
  | references addresses =>
    cases other with
    | references addresses' =>
      have haddresses : addresses = addresses' :=
        bracketed_inj (p := isReferenceChar) (fun _ _ _ _ hs ht hr hr' he => reference_append_inj hs ht hr hr' he)
          (by decide) (by decide) hv.1 ho.1 hv.2 ho.2 h
      exact .inl (congrArg Expr.references haddresses)
    | _ => cases hform

/-! ## Headers and map entries -/

theorem toList_header (keyword : String) (labels : List String) :
    (header keyword labels).toList =
      keyword.toList ++ ' ' :: (labels.flatMap (fun label => (quote label).toList ++ [' ']) ++ ['\x7b']) := by
  unfold header
  rw [String.toList_append, String.toList_append, List.append_assoc]
  congr 1
  induction labels with
  | nil => rfl
  | cons label labels ih =>
    rw [List.map_cons, String.join_cons, String.toList_append, List.append_assoc, ih]
    simp

/-- The first line of a block determines its keyword and its labels. -/
theorem header_inj {keyword keyword' : String} {labels labels' : List String}
    (hk : isIdentifier keyword.toList = true) (hk' : isIdentifier keyword'.toList = true)
    (h : header keyword labels = header keyword' labels') : keyword = keyword' ∧ labels = labels' := by
  have hchars := congrArg String.toList h
  rw [toList_header, toList_header] at hchars
  obtain ⟨rfl, hrest⟩ := identifier_append_inj hk hk' (stops_cons.2 (by decide))
    (stops_cons.2 (by decide)) hchars
  obtain ⟨rfl, -⟩ := flatMap_append_inj (p := fun _ => false) (C := fun _ => True)
    (f := fun label => (quote label).toList ++ [' '])
    (fun label _ => ⟨'"', _, by rw [toList_quote]; rfl, by decide, rfl⟩)
    (fun s t rest rest' _ _ _ _ he => by
      rw [List.append_assoc, List.append_assoc] at he
      obtain ⟨rfl, hrest⟩ := quote_append_inj he
      exact ⟨rfl, (List.cons.inj hrest).2⟩)
    rfl (fun _ _ => trivial) (fun _ _ => trivial) (List.cons.inj hrest).2
  exact ⟨rfl, rfl⟩

/-- The key of a map entry ends before a character that cannot go on with an identifier: a quoted key
does not begin like a bare one. -/
theorem mapKey_append_inj {s t : String} {rest rest' : List Char} (hr : Stops isIdentifierRest rest)
    (hr' : Stops isIdentifierRest rest') (h : (mapKey s).toList ++ rest = (mapKey t).toList ++ rest') :
    s = t ∧ rest = rest' := by
  have hmixed : ∀ {s t : String} {rest rest' : List Char}, isIdentifier s.toList = true →
      s.toList ++ rest ≠ (quote t).toList ++ rest' := by
    intro s t rest rest' hs he
    obtain ⟨c, u, hc, hstart⟩ := exists_cons_of_isIdentifier hs
    rw [hc, toList_quote] at he
    exact ne_of_class hstart (by decide) (List.cons.inj he).1
  unfold mapKey at h
  split at h
  · rename_i hs
    split at h
    · rename_i ht
      exact identifier_append_inj hs ht hr hr' h
    · exact absurd h (hmixed hs)
  · split at h
    · rename_i ht
      exact absurd h.symm (hmixed ht)
    · exact quote_append_inj h

theorem mapKey_injective : Function.Injective mapKey := by
  intro s t h
  have hend : Stops isIdentifierRest [] := fun _ hb => by cases hb
  exact (mapKey_append_inj hend hend (by rw [h])).1

/-- The line of a map entry determines the entry. -/
theorem entryLine_inj {pair other : String × String} (h : entryLine pair = entryLine other) :
    pair = other := by
  have hchars := congrArg String.toList h
  unfold entryLine at hchars
  simp only [String.toList_append, List.append_assoc] at hchars
  have hstops : ∀ value : String, Stops isIdentifierRest (" = ".toList ++ value.toList) :=
    fun _ => stops_cons.2 (by decide)
  obtain ⟨hkey, hrest⟩ := mapKey_append_inj (hstops _) (hstops _) hchars
  have hvalue := quote_inj (String.toList_inj.1 (List.append_cancel_left hrest))
  exact Prod.ext hkey hvalue

end CloudCanvas.Hcl
