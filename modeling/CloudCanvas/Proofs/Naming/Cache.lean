/-
The cache of names is transparent: on every cache that a run can reach, the name of a label is its
identifier, whatever has been asked for before. Each label that has been asked for stands in one row, and
what is known already is not added again.
-/
import CloudCanvas.Naming.Cache
import CloudCanvas.Proofs.Keyed
import Mathlib.Data.Finset.Card

namespace CloudCanvas.Naming.Cache

/-- The invariant of caches: every row holds the identifier of its label. -/
def Faithful (cache : Cache) : Prop :=
  ∀ row ∈ cache.rows, row.2 = sanitize row.1

theorem faithful_empty : empty.Faithful := by
  intro row hrow; cases hrow

theorem nameFor_fst {cache : Cache} (h : cache.Faithful) (raw : String) :
    (cache.nameFor raw).1 = sanitize raw := by
  unfold nameFor
  split
  · rename_i name hl
    obtain ⟨before, after, hrows, -⟩ := List.lookup_eq_some_iff.1 hl
    exact h (raw, name) (by rw [hrows]; simp)
  · rfl

theorem Faithful.nameFor {cache : Cache} (h : cache.Faithful) (raw : String) :
    (cache.nameFor raw).2.Faithful := by
  unfold Cache.nameFor
  split
  · exact h
  · intro row hrow
    rcases List.mem_append.1 hrow with hrow | hrow
    · exact h row hrow
    · rw [List.mem_singleton] at hrow
      rw [hrow]

/-! ## Known labels -/

/-- The labels that a cache knows. -/
def labels (cache : Cache) : List String :=
  cache.rows.map Prod.fst

theorem isSome_lookup_iff {cache : Cache} {raw : String} :
    (cache.rows.lookup raw).isSome = true ↔ raw ∈ cache.labels :=
  Keyed.isSome_get?_iff

/-- What is known already is not added again. -/
theorem nameFor_snd_of_mem {cache : Cache} {raw : String} (h : raw ∈ cache.labels) :
    (cache.nameFor raw).2 = cache := by
  obtain ⟨name, hl⟩ := Option.isSome_iff_exists.1 (isSome_lookup_iff.2 h)
  unfold nameFor
  rw [hl]

theorem labels_nameFor (cache : Cache) (raw : String) :
    (cache.nameFor raw).2.labels =
      if raw ∈ cache.labels then cache.labels else cache.labels ++ [raw] := by
  by_cases h : raw ∈ cache.labels
  · rw [nameFor_snd_of_mem h, if_pos h]
  · have hl : cache.rows.lookup raw = none := by
      rw [← Option.not_isSome_iff_eq_none, isSome_lookup_iff]
      exact h
    rw [if_neg h, nameFor, hl]
    exact List.map_append

/-- A cache after the labels of a list have been asked for: there is one row for each of them, with its
identifier, and there is no other row. -/
structure Holds (cache : Cache) (raws : List String) : Prop where
  faithful : cache.Faithful
  nodup : cache.labels.Nodup
  mem_iff : ∀ raw, raw ∈ cache.labels ↔ raw ∈ raws

theorem holds_empty : empty.Holds [] :=
  ⟨faithful_empty, List.nodup_nil, fun _ => Iff.rfl⟩

namespace Holds

variable {cache : Cache} {raws : List String}

theorem nameFor (h : cache.Holds raws) (raw : String) : (cache.nameFor raw).2.Holds (raws ++ [raw]) := by
  refine ⟨h.faithful.nameFor raw, ?_, fun other => ?_⟩
  · rw [labels_nameFor]
    split
    · exact h.nodup
    · rename_i hnew
      exact List.nodup_append_comm.1 (List.nodup_cons.2 ⟨hnew, h.nodup⟩)
  · rw [labels_nameFor, List.mem_append, List.mem_singleton, ← h.mem_iff]
    split
    · rename_i hold
      constructor
      · exact .inl
      · rintro (hother | rfl)
        · exact hother
        · exact hold
    · rw [List.mem_append, List.mem_singleton]

theorem of_perm {others : List String} (h : cache.Holds raws) (hp : raws.Perm others) : cache.Holds others :=
  ⟨h.faithful, h.nodup, fun raw => (h.mem_iff raw).trans hp.mem_iff⟩

/-- A cache has as many rows as there are different labels among those that have been asked for. -/
theorem size_eq (h : cache.Holds raws) : cache.size = raws.toFinset.card := by
  have hlabels : cache.labels.toFinset = raws.toFinset := by
    ext raw
    rw [List.mem_toFinset, List.mem_toFinset, h.mem_iff]
  rw [← hlabels, List.toFinset_card_of_nodup h.nodup, labels, List.length_map, size]

theorem mem_rows_iff (h : cache.Holds raws) {raw name : String} :
    (raw, name) ∈ cache.rows ↔ raw ∈ raws ∧ name = sanitize raw := by
  rw [← h.mem_iff]
  constructor
  · intro hrow
    exact ⟨List.mem_map_of_mem hrow, h.faithful _ hrow⟩
  · rintro ⟨hraw, rfl⟩
    obtain ⟨row, hrow, rfl⟩ := List.mem_map.1 hraw
    rw [← h.faithful row hrow]
    exact hrow

end Holds

/-! ## Lookups one after another -/

/-- Looks labels up one after another. -/
def nameEach : Cache → List String → List String × Cache
  | cache, [] => ([], cache)
  | cache, raw :: rest =>
    let (name, cache) := cache.nameFor raw
    let (names, cache) := cache.nameEach rest
    (name :: names, cache)

theorem nameEach_fst {cache : Cache} (h : cache.Faithful) (raws : List String) :
    (cache.nameEach raws).1 = raws.map sanitize := by
  induction raws generalizing cache with
  | nil => rfl
  | cons raw rest ih =>
    unfold nameEach
    rw [List.map_cons, ← nameFor_fst h raw, ← ih (h.nameFor raw)]

theorem Holds.nameEach {cache : Cache} {earlier : List String} (h : cache.Holds earlier) (raws : List String) :
    (cache.nameEach raws).2.Holds (earlier ++ raws) := by
  induction raws generalizing cache earlier with
  | nil =>
    rw [List.append_nil]
    exact h
  | cons raw rest ih =>
    rw [List.append_cons]
    exact ih (h.nameFor raw)

end CloudCanvas.Naming.Cache
