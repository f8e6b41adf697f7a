/-
The tags of a run under a configuration that has been accepted: every primary block has one map of tags, which
begins with the name tag and goes on with the default tags, and nobody who reads the text can mistake one of
the keys for another one or the label of the node for another text.
-/
import CloudCanvas.Proofs.Command.Execution
import CloudCanvas.Proofs.Generation.ConfigFile
import CloudCanvas.Proofs.Generation.Run
import CloudCanvas.Proofs.Hcl.Scanner

namespace CloudCanvas

open CloudCanvas.Graph CloudCanvas.Hcl

/-- The configuration has been accepted, from a text or from a file of a tree. -/
inductive Config.Accepted (config : Config) : Prop
  | text {text : String} (h : Config.parse text = .ok config)
  | file {stdin : ByteArray} {tree : Command.FileTree} {path : String}
    (h : (Command.runOn tree (Command.loadConfig (Command.FileTree.access stdin) path)).1 = .ok config)

theorem Config.Accepted.valid {config : Config} (h : config.Accepted) : config.Valid := by
  cases h with
  | text h => exact valid_of_parse h
  | file h =>
    obtain ⟨text, -, hparse⟩ := Command.exists_text_of_loadConfig h
    exact valid_of_parse hparse

/-- The lines of a map of tags in a primary block. -/
def tagLines (tags : List (String × String)) : List String :=
  (indent 1 ++ "tags" ++ " = \x7b") ::
      tags.map (fun tag => indent 2 ++ (mapKey tag.1 ++ " = " ++ quote tag.2)) ++
    [indent 1 ++ "\x7d"]

theorem Declaration.tagLines_infix (d : Declaration) (tags : List (String × String)) (references : List String) :
    tagLines tags <:+: (d.finish tags references).primary.lines := by
  have hmem : Item.entries "tags" tags ∈ (d.finish tags references).primary.body :=
    List.mem_append_right _ (List.mem_cons_of_mem _ (List.mem_cons_self ..))
  exact Block.lines_infix hmem

/-- Under a configuration that has been accepted every primary block has one map, the map of its tags, and
the other blocks have none. The keys of the map are told apart, also as they are written. It begins with the
name tag, whose literal is read back as the label of the node, or as the name of the block when the label is
blank; behind it stand the default tags, in the order of the bytes of their keys. -/
theorem tags_are_faithful {config : Config} (h : config.Accepted) (snapshot : Snapshot) :
    ∀ f ∈ (config.run snapshot).finished, ∃ value,
      (Text.isBlank f.emitted.candidate.node.label = false → value = f.emitted.candidate.node.label) ∧
      (Text.isBlank f.emitted.candidate.node.label = true →
        f.declaration.primary.name? = some value) ∧
      (let tags := (config.nameTagKey, value) :: config.defaultTags
       f.declaration.primary.maps "tags" = [tags] ∧ f.declaration.primary.allMaps = [("tags", tags)] ∧
        (∀ block ∈ f.declaration.companions, block.allMaps = []) ∧
        tagLines tags <:+: f.declaration.primary.lines ∧
        readLiteral (quote value) = some (value, "") ∧
        (tags.map (·.1)).Nodup ∧ ((tags.map (·.1)).map mapKey).Nodup ∧
        config.defaultTags.Pairwise fun tag other => Text.bytes tag.1 < Text.bytes other.1) := by
  intro f hf
  have hsound := Config.sound_of_mem_finished hf
  rw [(config.run_spec snapshot).1] at hf
  obtain ⟨e, he, rfl⟩ := List.mem_map.1 hf
  have hdeclare := Config.declare_of_mem_emitted he
  have hvalid := h.valid
  refine ⟨if Text.isBlank e.candidate.node.label then e.name else e.candidate.node.label, ?_, ?_, ?_, ?_, ?_,
    ?_, ?_, hvalid.nodup_keys, hvalid.nodup_mapKeys, hvalid.pairwise_bytes⟩
  · exact fun hlabel => if_neg (Bool.eq_false_iff.1 hlabel)
  · intro hlabel
    rw [Block.name?, hsound.primary.labels]
    exact congrArg some (if_pos hlabel).symm
  · exact maps_finish config snapshot.edges _ hdeclare
  · exact (shape_of_declare hdeclare).allMaps_finish _ _
  · intro block hblock
    exact (hsound.companions block hblock).2.allMaps
  · exact e.declaration.tagLines_infix _ _
  · exact readLiteral_eq_some_iff.2 (by simp)

/-- A configuration file with a key that has to be quoted. -/
def taggingText : String :=
  "name_tag_key = \"Display name\"\n[default_tags]\nteam = \"core\"\n\"cost centre\" = \"7\"\n"

/-- A network whose label begins with a quote and ends with a space. -/
def quotedCanvas : Snapshot :=
  .ofNodes [⟨"n", "vpc", "\"Net ", []⟩] []

theorem quotedCanvas_is_tagged :
    ∃ config, Config.parse taggingText = .ok config ∧ config.Accepted ∧
      ∃ f ∈ (config.run quotedCanvas).finished, f.emitted.candidate.node.label = "\"Net " ∧
        f.declaration.primary.maps "tags" =
          [[("Display name", "\"Net "), ("cost centre", "7"), ("team", "core")]] ∧
        tagLines [("Display name", "\"Net "), ("cost centre", "7"), ("team", "core")] <:+:
          f.declaration.primary.lines ∧
        readLiteral (quote "\"Net ") = some ("\"Net ", "") := by
  have hparse : Config.parse taggingText =
      .ok ⟨.input, "Display name", [("cost centre", "7"), ("team", "core")]⟩ := by
    decide +kernel
  have haccepted := Config.Accepted.text hparse
  have hlabels : ((Config.run ⟨.input, "Display name", [("cost centre", "7"), ("team", "core")]⟩
      quotedCanvas).finished.map fun f => f.emitted.candidate.node.label) = ["\"Net "] := by
    decide +kernel
  obtain ⟨f, hf, hlabel⟩ := List.mem_map.1 (hlabels ▸ List.mem_singleton.2 rfl)
  obtain ⟨value, hvalue, -, hmaps, -, -, hlines, hread, -⟩ := tags_are_faithful haccepted quotedCanvas f hf
  rw [hlabel] at hvalue
  obtain rfl := hvalue (by decide +kernel)
  exact ⟨_, hparse, haccepted, f, hf, hlabel, hmaps, hlines, hread⟩

end CloudCanvas
