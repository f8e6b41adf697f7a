/-
An output that is printed as a document is read back without a loss. Its only number is the number of
blocks, which is an integer of 64 bits because there are at most three blocks to a node and every node has
taken up some of the text of the snapshot.
-/
import CloudCanvas.Proofs.Generation.Address
import CloudCanvas.Proofs.Graph.Saving
import CloudCanvas.Proofs.Json.Reading
import CloudCanvas.Proofs.Json.Weight
import Mathlib.Algebra.Order.BigOperators.Group.List
import Mathlib.Algebra.Order.Group.Nat

namespace CloudCanvas

open CloudCanvas.Graph

/-! ## Warnings -/

theorem WarningKind.decode_tag (kind : WarningKind) : decode (.string kind.tag) = .ok kind := by
  cases kind <;> rfl

namespace Warning

theorem readable_toJson (w : Warning) (room : Nat) : Json.Readable (room + 1) w.toJson := by
  refine .object fun field hfield => ?_
  simp only [List.mem_cons, List.not_mem_nil, or_false] at hfield
  rcases hfield with rfl | rfl | rfl
  · obtain ⟨nodeId, kind, message⟩ := w
    cases nodeId with
    | none => exact .null
    | some id => exact .string id
  · exact .string _
  · exact .string _

/-- The fields of a written warning come back in the order of their keys. -/
theorem sorted_toJson (w : Warning) : w.toJson.sorted =
    .object [("kind", .string w.kind.tag), ("message", .string w.message), ("node_id", .ofText? w.nodeId)] := by
  obtain ⟨nodeId, kind, message⟩ := w
  cases nodeId <;> rfl

theorem decode_sorted (w : Warning) : decode w.toJson.sorted = .ok w := by
  rw [sorted_toJson]
  show List.foldlM (fun draft (field : String × Json) => Draft.field draft field.1 field.2)
    ⟨none, none, none⟩ _ >>= Draft.finish = _
  simp only [List.foldlM_cons, List.foldlM_nil, Draft.field, Json.fill, Json.toOption_ofText?,
    WarningKind.decode_tag]
  rfl

end Warning

/-! ## Outputs -/

namespace Output

variable {output : Output}

theorem readable_toJson (h : output.blocks < 2 ^ 64) : Json.Readable Json.depthLimit output.toJson := by
  show Json.Readable (124 + 1 + 1 + 1) _
  refine .object fun field hfield => ?_
  simp only [List.mem_cons, List.not_mem_nil, or_false] at hfield
  rcases hfield with rfl | rfl | rfl
  · exact .string _
  · refine .array fun v hv => ?_
    obtain ⟨w, -, rfl⟩ := List.mem_map.1 hv
    exact w.readable_toJson 124
  · refine .integer ?_
    have h64 : powerOfTwo 64 = 2 ^ 64 := rfl
    simp only [Json.fitsWord, Number.fitsUnsigned, Bool.or_eq_true, Bool.and_eq_true, decide_eq_true_eq, h64]
    exact .inr ⟨by omega, by exact_mod_cast h⟩

theorem sorted_toJson (output : Output) : output.toJson.sorted =
    .object [("blocks", .ofNat output.blocks), ("text", .string output.text),
      ("warnings", .array ((output.warnings.map Warning.toJson).map Json.sorted))] := by
  rw [← Json.sortedItems_eq_map]
  rfl

theorem decode_sorted (output : Output) : decode output.toJson.sorted = .ok output := by
  have hwarnings : Json.toList Warning.decode (.array ((output.warnings.map Warning.toJson).map Json.sorted)) =
      .ok output.warnings := by
    refine mapM_eq_ok_iff.2 ?_
    rw [List.map_map, List.forall₂_map_left_iff, List.forall₂_same]
    exact fun w _ => w.decode_sorted
  have hblocks : Json.toCount (.ofNat output.blocks) = .ok output.blocks := rfl
  rw [sorted_toJson]
  show List.foldlM (fun draft (field : String × Json) => Draft.field draft field.1 field.2)
    ⟨none, none, none⟩ _ >>= Draft.finish = _
  simp only [List.foldlM_cons, List.foldlM_nil, Draft.field, Json.fill, hwarnings, hblocks]
  rfl

/-- An output that is printed is read back as it was. -/
theorem decode_printed (h : output.blocks < 2 ^ 64) :
    ∃ document, Json.parse (output.toJson.pretty ++ "\n") = .ok document ∧ decode document = .ok output :=
  ⟨_, Json.parse_pretty (readable_toJson h), output.decode_sorted⟩

end Output

/-! ## The number of blocks -/

theorem Config.blocks_le (config : Config) (snapshot : Snapshot) :
    (config.generate snapshot).blocks ≤ 3 * snapshot.nodes.length := by
  have haddresses : ∀ candidate : Candidate, candidate.addresses.length ≤ 3 := by
    intro candidate
    unfold Candidate.addresses
    cases candidate.kind <;> simp
  have hfinished : (config.run snapshot).finished.length ≤ snapshot.nodes.length := by
    rw [(Config.run_spec config snapshot).1, List.length_map]
    calc (config.emitted snapshot).length
        ≤ (config.candidates snapshot).length := by
          refine (List.length_filterMap_le _ _).trans ?_
          rw [List.length_map]
      _ = (accepted (snapshot.nodes.map Record.screen)).length := (candidates_perm config snapshot).length_eq
      _ ≤ snapshot.nodes.length := by
          refine (List.length_filterMap_le _ _).trans ?_
          rw [List.length_map]
  have hblocks : (config.run snapshot).blocks.length ≤ (config.run snapshot).finished.length * 3 := by
    unfold Run.blocks
    rw [List.length_flatMap]
    have hsum := List.sum_le_card_nsmul
      ((config.run snapshot).finished.map fun f => f.declaration.blocks.length) 3 fun n hn => by
        obtain ⟨f, hf, rfl⟩ := List.mem_map.1 hn
        have hsub := (Config.addresses_sublist_of_mem_finished hf).length_le
        rw [List.length_map] at hsub
        exact hsub.trans (haddresses _)
    rw [List.length_map] at hsum
    exact hsum
  show (config.run snapshot).blocks.length ≤ _
  omega

/-- A node takes up at least a weight of two. -/
theorem Graph.Snapshot.nodes_le_of_load {document : Json} {snapshot : Snapshot}
    (h : load document = .ok snapshot) : 2 * snapshot.nodes.length ≤ document.weight := by
  obtain ⟨fields, nodes, -, rfl, hnodes, -, hkept, -⟩ := load_spec h
  have hlength : snapshot.nodes.length ≤ nodes.length := by
    rw [hkept]
    refine (List.length_filterMap_le _ _).trans ?_
    rw [List.length_mapIdx]
  rcases hnodes with hget | ⟨-, rfl⟩
  · have hweight := Json.weight_lt_of_get? hget
    have hitems := Json.two_mul_length_le_weightItems nodes
    rw [Json.weight] at hweight
    omega
  · rw [List.length_nil] at hlength
    omega

end CloudCanvas
