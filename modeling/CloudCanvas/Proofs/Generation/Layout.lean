/-
The lines of an output. Whatever the texts of a snapshot and a configuration hold, the lines of the
output are those of its blocks with an empty line between them: headers, lines that are empty or
indented, and closing braces. No text from outside adds a line of its own, and no two lists of blocks that
differ in more than the representation of numbers have the same text.
-/
import CloudCanvas.Proofs.Generation.Run
import CloudCanvas.Proofs.Hcl.Unambiguous

namespace CloudCanvas

open CloudCanvas.Graph CloudCanvas.Hcl CloudCanvas.Text

variable {config : Config} {snapshot : Snapshot}

/-! ## Lines of a run -/

namespace Config

theorem wellFormed_of_mem_blocks : ∀ block ∈ (config.run snapshot).blocks, block.WellFormed := by
  intro block hb
  obtain ⟨type, name, hd⟩ := declares_of_mem_blocks hb
  exact hd.wellFormed

/-- The lines of a run with blocks are the lines of these, with an empty line between. -/
theorem lines_text (h : (config.run snapshot).blocks ≠ []) :
    lines (config.run snapshot).text =
      [""].intercalate ((config.run snapshot).blocks.map Block.lines) := by
  rw [Run.text_of_blocks_ne_nil h]
  exact lines_intercalate_text h wellFormed_of_mem_blocks

/-- The headers and the closing braces of a text are those of its blocks, one of each in turn. -/
theorem filter_lines_text (h : (config.run snapshot).blocks ≠ []) :
    (lines (config.run snapshot).text).filter (fun line => isHeader line || line == closingBrace) =
      (config.run snapshot).blocks.flatMap fun block => [block.headerLine, closingBrace] := by
  rw [lines_text h, filter_intercalate (by decide), List.flatMap_map]
  refine List.flatMap_congr fun block hb => ?_
  obtain ⟨type, name, hd⟩ := declares_of_mem_blocks hb
  rw [hd.filter_lines, hd.headerLine]

/-- The headers of a text are those of its blocks; a marker holds none. -/
theorem filter_isHeader_lines_text (config : Config) (snapshot : Snapshot) :
    (lines (config.run snapshot).text).filter isHeader =
      (config.run snapshot).blocks.map Block.headerLine := by
  by_cases h : (config.run snapshot).blocks = []
  · rw [h]
    -- a marker is one line and no header
    unfold Run.text
    split
    · decide
    · decide
    · rw [h]; decide
  · have hsub : (fun line => isHeader line && (isHeader line || line == closingBrace)) = isHeader := by
      funext line
      cases isHeader line <;> simp
    have hblock : ∀ block : Block, [block.headerLine, closingBrace].filter isHeader = [block.headerLine] := by
      intro block
      have hh : isHeader block.headerLine = true := isHeader_declarationHeader _ _
      have hb : isHeader closingBrace = false := by decide
      simp [hh, hb]
    have hfilter := congrArg (List.filter isHeader) (filter_lines_text h)
    rw [List.filter_filter, hsub, List.filter_flatMap] at hfilter
    rw [hfilter, List.map_eq_flatMap]
    exact List.flatMap_congr fun block _ => hblock block

/-- Every line of a text with blocks is a header, an empty or indented line, or a closing brace. -/
theorem mem_lines_text (h : (config.run snapshot).blocks ≠ []) {line : String}
    (hl : line ∈ lines (config.run snapshot).text) :
    (∃ type name, line = declarationHeader type name ∧ Naming.IsIdentifier name.toList) ∨
      IsInner line ∨ line = closingBrace := by
  rw [lines_text h] at hl
  rcases mem_intercalate hl with hl | ⟨ls, hls, hl⟩
  · exact .inr (.inl ⟨.inl (List.mem_singleton.1 hl), by rw [List.mem_singleton.1 hl]; decide⟩)
  · obtain ⟨block, hb, rfl⟩ := List.mem_map.1 hls
    obtain ⟨type, name, hd⟩ := declares_of_mem_blocks hb
    exact (hd.mem_lines hl).imp_left fun he => ⟨type, name, he, hd.named⟩

/-- No text with blocks holds a carriage return or a tab. -/
theorem not_mem_text (h : (config.run snapshot).blocks ≠ []) {c : Char}
    (hc : c ∈ (config.run snapshot).text.toList) : c ≠ '\r' ∧ c ≠ '\t' := by
  rw [Run.text_of_blocks_ne_nil h, intercalate_text, String.toList_intercalate] at hc
  -- between the lines there are line breaks only, and the lines themselves are unbroken
  have hcases : c = '\n' ∨ isBreak c = false := by
    rcases mem_intercalate hc with hc | ⟨part, hp, hc⟩
    · exact .inl (List.mem_singleton.1 hc)
    · obtain ⟨line, hl, rfl⟩ := List.mem_map.1 hp
      exact .inr (unbroken_of_mem_intercalate wellFormed_of_mem_blocks line hl c hc)
  rcases hcases with rfl | hb
  · decide
  · constructor
    · rintro rfl; revert hb; decide
    · rintro rfl; revert hb; decide

end Config

/-! ## No text breaks out -/

/-- Texts from outside stay inside their literals. A text with blocks holds no carriage return and no
tab, and each of its lines is empty, a closing brace, indented, or a header with an identifier as name.
The headers are those of the blocks, in order, and each of them is followed by one closing brace before
the next. -/
theorem texts_stay_in_literals (config : Config) (snapshot : Snapshot)
    (h : (config.generate snapshot).hasBlocks = true) :
    (∀ c ∈ (config.generate snapshot).text.toList, c ≠ '\r' ∧ c ≠ '\t') ∧
    (∀ line ∈ lines (config.generate snapshot).text,
      line = "" ∨ line = closingBrace ∨ (∃ rest, line = "  " ++ rest) ∨
        ∃ type name, line = declarationHeader type name ∧ Naming.IsIdentifier name.toList) ∧
    (lines (config.generate snapshot).text).filter isHeader =
      (config.run snapshot).blocks.map Block.headerLine ∧
    (lines (config.generate snapshot).text).filter (fun line => isHeader line || line == closingBrace) =
      ((config.run snapshot).blocks.flatMap fun block => [block.headerLine, closingBrace]) ∧
    (config.generate snapshot).blocks = (config.run snapshot).blocks.length ∧
    ∀ block ∈ (config.run snapshot).blocks, block.keyword = "resource" ∧
      ∃ type name, block.labels = [type, name] ∧ block.headerLine = declarationHeader type name ∧
        Naming.IsIdentifier name.toList := by
  have hne : (config.run snapshot).blocks ≠ [] := by
    intro hb
    simp [Config.generate, Run.output, Output.hasBlocks, hb] at h
  refine ⟨fun c hc => Config.not_mem_text hne hc, fun line hl => ?_,
    Config.filter_isHeader_lines_text config snapshot, Config.filter_lines_text hne, rfl, fun block hb => ?_⟩
  · rcases Config.mem_lines_text hne hl with hh | hi | rfl
    · exact .inr (.inr (.inr hh))
    · rcases hi.1 with rfl | hi
      · exact .inl rfl
      · exact .inr (.inr (.inl hi))
    · exact .inr (.inl rfl)
  · obtain ⟨type, name, hd⟩ := Config.declares_of_mem_blocks hb
    exact ⟨hd.keyword, type, name, hd.labels, hd.headerLine, hd.named⟩

/-- A network whose label would declare another one if it could end its line. -/
def forgery : Snapshot :=
  .ofNodes [⟨"n", "vpc", "\"\n\x7d\nresource \"aws_vpc\" \"forged\" \x7b\r\t", []⟩] []

/-- The label of the forgery ends up in a name and in a literal, and there is one header only. -/
theorem forgery_stays_in_literals :
    (Config.default.generate forgery).hasBlocks = true ∧
      (lines (Config.default.generate forgery).text).filter isHeader =
        [declarationHeader "aws_vpc" "_resource_aws_vpc_forged_"] := by
  have h : (Config.default.generate forgery).hasBlocks = true := by decide +kernel
  have hblocks : (Config.default.run forgery).blocks.map Block.headerLine =
      [declarationHeader "aws_vpc" "_resource_aws_vpc_forged_"] := by decide +kernel
  exact ⟨h, (texts_stay_in_literals Config.default forgery h).2.2.1.trans hblocks⟩

/-! ## Texts determine blocks -/

/-- The text of well-formed blocks determines them: two lists of blocks have the same text exactly when
they have the same length and their blocks agree one by one, numbers being taken by their text. All blocks
of a run are well-formed. -/
theorem text_determines_blocks :
    (∀ blocks others : List Block, (∀ block ∈ blocks, block.WellFormed) →
      (∀ block ∈ others, block.WellFormed) →
      ("\n\n".intercalate (blocks.map Block.text) = "\n\n".intercalate (others.map Block.text) ↔
        List.Forall₂ Block.Agree blocks others)) ∧
    ∀ (config : Config) (snapshot : Snapshot), ∀ block ∈ (config.run snapshot).blocks,
      block.WellFormed :=
  ⟨fun _ _ h ho => intercalate_text_eq_iff h ho, fun _ _ => Config.wellFormed_of_mem_blocks⟩

/-- A block with a label that looks like two labels and a value that looks like two attributes. -/
def folded : Block :=
  ⟨"resource", ["a\" \"b"], [.attribute "x" (.string "1\"\n  y = \"2")]⟩

/-- A block with the two labels and the two attributes. -/
def unfolded : Block :=
  ⟨"resource", ["a", "b"], [.attribute "x" (.string "1"), .attribute "y" (.string "2")]⟩

/-- The two blocks have different texts. -/
theorem text_folded_ne :
    folded.WellFormed ∧ unfolded.WellFormed ∧
      "\n\n".intercalate ([folded].map Block.text) ≠ "\n\n".intercalate ([unfolded].map Block.text) := by
  have hfolded : folded.WellFormed := ⟨by decide, ⟨by decide, trivial⟩, trivial⟩
  have hunfolded : unfolded.WellFormed :=
    ⟨by decide, ⟨by decide, trivial⟩, ⟨by decide, trivial⟩, trivial⟩
  refine ⟨hfolded, hunfolded, fun he => ?_⟩
  have hagree := (text_determines_blocks.1 [folded] [unfolded] (by simpa using hfolded)
    (by simpa using hunfolded)).1 he
  cases hagree with
  | cons hblock _ => exact absurd hblock.labels (by decide)

end CloudCanvas
