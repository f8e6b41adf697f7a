/-
Configurations that come from a text. Their default tags are in increasing order of their keys, and the key of
the name tag is neither blank nor one of these.
-/
import CloudCanvas.Generation.ConfigFile
import CloudCanvas.Proofs.Fallible
import CloudCanvas.Proofs.Hcl.Token
import CloudCanvas.Proofs.Keyed
import CloudCanvas.Proofs.Text.Bytes

namespace CloudCanvas

theorem Toml.increasing_toTextMap {v : Value} {tags : Keyed String} (h : toTextMap v = .ok tags) :
    tags.Increasing := by
  unfold toTextMap at h
  split at h
  · obtain ⟨pairs, -, h⟩ := bind_eq_ok h
    cases h
    exact Keyed.increasing_ofList pairs
  · cases h
    exact List.pairwise_singleton _ _
  · unfold refuse at h
    split at h <;> cases h

namespace Config

/-- The tags that have been seen, if any, are in increasing order. -/
def Draft.Sorted (draft : Draft) : Prop :=
  ∀ tags, draft.defaultTags = some tags → tags.Increasing

theorem Draft.Sorted.entry {draft filled : Draft} {key : String} {v : Toml.Value} (h : draft.Sorted)
    (he : draft.entry key v = .ok filled) : filled.Sorted := by
  unfold Draft.entry at he
  split at he
  · obtain ⟨ordering, -, rfl⟩ := map_eq_ok he
    exact h
  · obtain ⟨nameTagKey, -, rfl⟩ := map_eq_ok he
    exact h
  · obtain ⟨tags, htags, rfl⟩ := map_eq_ok he
    intro found hfound
    cases hfound
    exact Toml.increasing_toTextMap htags
  · cases he

theorem increasing_of_ofTable {entries : Keyed Toml.Value} {config : Config}
    (h : ofTable entries = .ok config) : config.defaultTags.Increasing := by
  obtain ⟨draft, hdraft, rfl⟩ := map_eq_ok h
  have hempty : Draft.empty.Sorted := fun tags htags => by cases htags
  have hsorted : draft.Sorted :=
    foldlM_induction hempty (fun _ _ _ _ hbefore hafter => hbefore.entry hafter) hdraft
  show (draft.defaultTags.getD []).Increasing
  cases htags : draft.defaultTags with
  | none => exact List.Pairwise.nil
  | some tags => exact hsorted tags htags

/-- What the tags of an accepted configuration are like. -/
structure Valid (config : Config) : Prop where
  key_present : Text.isBlank config.nameTagKey = false
  key_free : config.nameTagKey ∉ config.defaultTags.map (·.1)
  increasing : config.defaultTags.Increasing

theorem valid_of_parse {text : String} {config : Config} (h : parse text = .ok config) : config.Valid := by
  unfold parse at h
  split at h
  · cases h
  · obtain ⟨read, hread, h⟩ := bind_eq_ok h
    unfold validate at h
    split at h
    · cases h
    · rename_i hblank
      split at h
      · cases h
      · rename_i hfree
        cases h
        rw [Keyed.isSome_get?_iff] at hfree
        exact ⟨Bool.eq_false_iff.2 hblank, hfree, increasing_of_ofTable hread⟩

namespace Valid

variable {config : Config} (h : config.Valid)
include h

/-- No key occurs twice among the tags. -/
theorem nodup_keys : (config.nameTagKey :: config.defaultTags.map (·.1)).Nodup :=
  List.nodup_cons.2 ⟨h.key_free, h.increasing.nodup_keys⟩

/-- The keys are told apart in the text too, where some of them are quoted. -/
theorem nodup_mapKeys : ((config.nameTagKey :: config.defaultTags.map (·.1)).map Hcl.mapKey).Nodup :=
  h.nodup_keys.map Hcl.mapKey_injective

/-- The default tags are in the order of the bytes of their keys. -/
theorem pairwise_bytes : config.defaultTags.Pairwise fun tag other => Text.bytes tag.1 < Text.bytes other.1 :=
  h.increasing.imp Text.bytes_lt_bytes

end Valid

end Config

end CloudCanvas
