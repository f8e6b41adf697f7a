/-
The lines of a declaration: its header, lines that are empty or indented, and the closing brace. No
text inside a declaration can end its line, so the lines that look like headers are the headers.
-/
import CloudCanvas.Proofs.Hcl.Block
import CloudCanvas.Proofs.Hcl.Literal
import CloudCanvas.Proofs.Number.Text

namespace CloudCanvas.Hcl

open CloudCanvas.Text

/-! ## Unbroken parts -/

theorem unbroken_of_isIdentifier {s : String} (h : isIdentifier s.toList = true) : Unbroken s :=
  fun c hc => isBreak_eq_false_of (isIdentifierRest_of_mem h c hc) rfl rfl rfl

/-- Identifiers are written as they are. -/
theorem quote_of_isIdentifier {s : String} (h : isIdentifier s.toList = true) :
    quote s = "\"" ++ s ++ "\"" := by
  unfold quote
  rw [escape_eq_self fun c hc => ?_]
  have hr := isIdentifierRest_of_mem h c hc
  unfold escapeLetter?
  split
  · exact absurd hr (by decide)
  · exact absurd hr (by decide)
  · exact absurd hr (by decide)
  · exact absurd hr (by decide)
  · exact absurd hr (by decide)
  · rfl

theorem IsReference.unbroken {address : String} (h : IsReference address) : Unbroken address := by
  obtain ⟨⟨parts, -, hparts, rfl⟩, -⟩ := h
  exact unbroken_intercalate (by decide) fun part hp =>
    unbroken_of_isIdentifier (hparts part hp)

theorem unbroken_number (n : Number) : Unbroken n.text := by
  intro c hc
  exact isBreak_eq_false_of (n.isNumeralChar_text c hc) rfl rfl rfl

theorem unbroken_bracketed {parts : List String} (h : ∀ part ∈ parts, Unbroken part) :
    Unbroken (bracketed parts) :=
  unbroken_append.2 ⟨unbroken_append.2 ⟨by decide,
    unbroken_intercalate (by decide) h⟩, by decide⟩

theorem Expr.WellFormed.unbroken {value : Expr} (h : value.WellFormed) : Unbroken value.text := by
  cases value with
  | string s => exact unbroken_quote s
  | number n => exact unbroken_number n
  | boolean b => cases b <;> decide
  | strings items =>
    refine unbroken_bracketed fun part hp => ?_
    obtain ⟨s, -, rfl⟩ := List.mem_map.1 hp
    exact unbroken_quote s
  | reference address => exact IsReference.unbroken h
  | references addresses => exact unbroken_bracketed fun part hp => (h.2 part hp).unbroken

theorem unbroken_indent (depth : Nat) : Unbroken (indent depth) := by
  intro c hc
  unfold indent at hc
  rw [String.toList_ofList] at hc
  rw [List.eq_of_mem_replicate hc]; decide

theorem unbroken_header {keyword : String} (labels : List String) (h : isIdentifier keyword.toList = true) :
    Unbroken (header keyword labels) := by
  refine unbroken_append.2 ⟨unbroken_append.2 ⟨unbroken_of_isIdentifier h, ?_⟩, by decide⟩
  refine unbroken_join fun part hp => ?_
  obtain ⟨label, -, rfl⟩ := List.mem_map.1 hp
  exact unbroken_append.2 ⟨by decide, unbroken_quote label⟩

theorem unbroken_entryLine (pair : String × String) : Unbroken (entryLine pair) := by
  refine unbroken_append.2 ⟨unbroken_append.2 ⟨?_, by decide⟩, unbroken_quote _⟩
  unfold mapKey
  split
  · rename_i h; exact unbroken_of_isIdentifier h
  · exact unbroken_quote _

/-! ## The lines inside a block -/

theorem bodyLines_append (depth : Nat) (body rest : List Item) :
    bodyLines depth (body ++ rest) = bodyLines depth body ++ bodyLines depth rest := by
  induction body with
  | nil => rfl
  | cons item body ih => simp only [List.cons_append, bodyLines, ih, List.append_assoc]

/-- The lines of an item stand together in its block. -/
theorem Block.lines_infix {block : Block} {item : Item} (h : item ∈ block.body) :
    item.lines 1 <:+: block.lines := by
  obtain ⟨before, after, hbody⟩ := List.append_of_mem h
  have hinside : item.lines 1 <:+: bodyLines 1 block.body := by
    rw [hbody, bodyLines_append]
    exact ⟨bodyLines 1 before, bodyLines 1 after, by rw [bodyLines, List.append_assoc]⟩
  refine hinside.trans ⟨[indent 0 ++ header block.keyword block.labels], [indent 0 ++ "\x7d"], rfl⟩

/-- A line inside a block at the top: it is empty or begins with two spaces, and it is unbroken. -/
def IsInner (line : String) : Prop :=
  (line = "" ∨ ∃ rest, line = "  " ++ rest) ∧ Unbroken line

theorem indent_succ (depth : Nat) : indent (depth + 1) = "  " ++ indent depth := by
  unfold indent
  rw [show 2 * (depth + 1) = 2 + 2 * depth by omega, ← List.replicate_append_replicate,
    String.ofList_append]
  rfl

theorem isInner_indent {depth : Nat} {text : String} (h : Unbroken text) :
    IsInner (indent (depth + 1) ++ text) := by
  refine ⟨.inr ⟨indent depth ++ text, ?_⟩, unbroken_append.2 ⟨unbroken_indent _, h⟩⟩
  rw [indent_succ, String.append_assoc]

mutual

theorem Item.isInner_lines : ∀ (item : Item) (depth : Nat), item.WellFormed →
    ∀ line ∈ item.lines (depth + 1), IsInner line
  | .attribute key value, depth, h, line, hl => by
    simp only [Item.lines, List.mem_singleton] at hl
    rw [hl]
    simp only [String.append_assoc]
    refine isInner_indent (unbroken_append.2 ⟨unbroken_of_isIdentifier h.1, ?_⟩)
    exact unbroken_append.2 ⟨by decide, Expr.WellFormed.unbroken h.2⟩
  | .block keyword labels body, depth, h, line, hl => by
    simp only [Item.lines, List.mem_append, List.mem_cons] at hl
    rcases hl with (rfl | hl) | rfl | hl
    · exact isInner_indent (unbroken_header labels h.1)
    · exact isInner_bodyLines body (depth + 1) h.2 line hl
    · exact isInner_indent (by decide)
    · cases hl
  | .entries key pairs, depth, h, line, hl => by
    simp only [Item.lines, List.mem_append, List.mem_cons, List.mem_map] at hl
    rcases hl with (rfl | ⟨pair, -, rfl⟩) | rfl | hl
    · rw [String.append_assoc]
      exact isInner_indent (unbroken_append.2 ⟨unbroken_of_isIdentifier h, by decide⟩)
    · exact isInner_indent (unbroken_entryLine pair)
    · exact isInner_indent (by decide)
    · cases hl
  | .blank, depth, h, line, hl => by
    simp only [Item.lines, List.mem_singleton] at hl
    rw [hl]
    exact ⟨.inl rfl, by decide⟩

/-- The lines of a well-formed body inside a block are empty or indented, and unbroken. -/
theorem isInner_bodyLines : ∀ (body : List Item) (depth : Nat), BodyWellFormed body →
    ∀ line ∈ bodyLines (depth + 1) body, IsInner line
  | [], depth, h, line, hl => by cases hl
  | item :: rest, depth, h, line, hl => by
    simp only [bodyLines, List.mem_append] at hl
    rcases hl with hl | hl
    · exact item.isInner_lines depth h.1 line hl
    · exact isInner_bodyLines rest depth h.2 line hl

end

/-! ## Texts of blocks -/

theorem Block.lines_ne_nil (block : Block) : block.lines ≠ [] := by
  simp [Block.lines, Block.toItem, Item.lines]

theorem Block.WellFormed.unbroken_lines {block : Block} (h : block.WellFormed) :
    ∀ line ∈ block.lines, Unbroken line := by
  intro line hl
  unfold Block.lines Block.toItem at hl
  simp only [Item.lines, List.mem_append, List.mem_cons, List.not_mem_nil, or_false] at hl
  rcases hl with (rfl | hl) | rfl
  · exact unbroken_append.2 ⟨unbroken_indent 0, unbroken_header block.labels h.1⟩
  · exact (isInner_bodyLines block.body 0 h.2 line hl).2
  · exact unbroken_append.2 ⟨unbroken_indent 0, by decide⟩

/-- The text of blocks is put together from their lines, with an empty line between. -/
theorem intercalate_text (blocks : List Block) :
    "\n\n".intercalate (blocks.map Block.text) =
      "\n".intercalate ([""].intercalate (blocks.map Block.lines)) := by
  rw [← intercalate_paragraphs, List.map_map]
  · rfl
  · intro ls hls
    obtain ⟨block, -, rfl⟩ := List.mem_map.1 hls
    exact block.lines_ne_nil

theorem intercalate_lines_ne_nil {blocks : List Block} (h : blocks ≠ []) :
    [""].intercalate (blocks.map Block.lines) ≠ [] := by
  cases blocks with
  | nil => exact absurd rfl h
  | cons block rest =>
    cases rest with
    | nil => simpa using block.lines_ne_nil
    | cons next rest => simp

theorem unbroken_of_mem_intercalate {blocks : List Block} (h : ∀ block ∈ blocks, block.WellFormed) :
    ∀ line ∈ [""].intercalate (blocks.map Block.lines), Unbroken line := by
  intro line hl
  rcases mem_intercalate hl with hl | ⟨ls, hls, hl⟩
  · rw [List.mem_singleton.1 hl]; decide
  · obtain ⟨block, hb, rfl⟩ := List.mem_map.1 hls
    exact (h block hb).unbroken_lines line hl

/-- The lines of a text of well-formed blocks are those of the blocks, with an empty line between. -/
theorem lines_intercalate_text {blocks : List Block} (hne : blocks ≠ [])
    (h : ∀ block ∈ blocks, block.WellFormed) :
    lines ("\n\n".intercalate (blocks.map Block.text)) = [""].intercalate (blocks.map Block.lines) := by
  rw [intercalate_text]
  exact lines_intercalate (intercalate_lines_ne_nil hne) (unbroken_of_mem_intercalate h)

/-! ## Declarations -/

/-- The first line of a declaration: `resource "type" "name" {`. -/
def declarationHeader (type name : String) : String :=
  "resource \"" ++ type ++ "\" \"" ++ name ++ "\" \x7b"

/-- The line that ends a declaration. -/
def closingBrace : String := "\x7d"

/-- Whether a line begins like the first line of a declaration. -/
def isHeader (line : String) : Bool :=
  "resource \"".toList.isPrefixOf line.toList

/-- The first line of a block, read as a declaration. -/
def Block.headerLine (block : Block) : String :=
  declarationHeader (block.type?.getD "") (block.name?.getD "")

/-- A block that declares a resource under a type and a name; its body is well-formed. -/
structure Block.Declares (block : Block) (type name : String) : Prop where
  keyword : block.keyword = "resource"
  labels : block.labels = [type, name]
  typed : isIdentifier type.toList = true
  named : Naming.IsIdentifier name.toList
  body : BodyWellFormed block.body

theorem isHeader_declarationHeader (type name : String) : isHeader (declarationHeader type name) = true := by
  unfold isHeader declarationHeader
  simp only [String.toList_append, List.append_assoc, List.isPrefixOf_iff_prefix]
  exact List.prefix_append _ _

theorem IsInner.isHeader {line : String} (h : IsInner line) : isHeader line = false := by
  rcases h.1 with rfl | ⟨rest, rfl⟩
  · decide
  · unfold Hcl.isHeader
    rw [String.toList_append]; rfl

theorem IsInner.ne_closingBrace {line : String} (h : IsInner line) : (line == closingBrace) = false := by
  rw [beq_eq_false_iff_ne]
  rintro rfl
  rcases h.1 with h | ⟨rest, h⟩
  · revert h; decide
  · have := congrArg String.toList h
    rw [String.toList_append] at this
    cases this

namespace Block.Declares

variable {block : Block} {type name : String}

theorem wellFormed (h : block.Declares type name) : block.WellFormed :=
  ⟨by rw [h.keyword]; decide, h.body⟩

theorem headerLine (h : block.Declares type name) : block.headerLine = declarationHeader type name := by
  unfold Block.headerLine Block.type? Block.name?
  rw [h.labels]; rfl

theorem header_eq (h : block.Declares type name) :
    header block.keyword block.labels = declarationHeader type name := by
  rw [h.keyword, h.labels]
  simp only [header, declarationHeader, List.map_cons, List.map_nil, String.join_cons, String.join_nil,
    quote_of_isIdentifier h.typed, quote_of_isIdentifier (isIdentifier_of_naming h.named)]
  simp only [← String.toList_inj, String.toList_append]
  simp

/-- A declaration is its header, lines that are empty or indented, and the closing brace. -/
theorem lines_eq (h : block.Declares type name) :
    ∃ inner, block.lines = declarationHeader type name :: inner ++ [closingBrace] ∧
      ∀ line ∈ inner, IsInner line := by
  refine ⟨bodyLines 1 block.body, ?_, isInner_bodyLines block.body 0 h.body⟩
  have hi : indent 0 = "" := rfl
  simp only [Block.lines, Block.toItem, Item.lines, hi, String.empty_append, h.header_eq]
  rfl

theorem mem_lines (h : block.Declares type name) {line : String} (hm : line ∈ block.lines) :
    line = declarationHeader type name ∨ IsInner line ∨ line = closingBrace := by
  obtain ⟨inner, hl, hi⟩ := h.lines_eq
  rw [hl] at hm
  simp only [List.mem_append, List.mem_cons, List.not_mem_nil, or_false] at hm
  rcases hm with (rfl | hm) | rfl
  · exact .inl rfl
  · exact .inr (.inl (hi line hm))
  · exact .inr (.inr rfl)

/-- Of the lines of a declaration only the first looks like a header and only the last is a closing
brace. -/
theorem filter_lines (h : block.Declares type name) :
    block.lines.filter (fun line => isHeader line || line == closingBrace) =
      [declarationHeader type name, closingBrace] := by
  obtain ⟨inner, hl, hi⟩ := h.lines_eq
  have hinner : inner.filter (fun line => isHeader line || line == closingBrace) = [] := by
    rw [List.filter_eq_nil_iff]
    intro line hm
    rw [(hi line hm).isHeader, (hi line hm).ne_closingBrace]; decide
  rw [hl, List.filter_append, List.filter_cons_of_pos (by simp [isHeader_declarationHeader]), hinner]
  rfl

end Block.Declares

end CloudCanvas.Hcl
