/-
Lists of keyed entries. An insertion changes the value at its key and at no other one, and it keeps the
entries in increasing order, in which no key occurs twice.
-/
import CloudCanvas.Keyed
import Mathlib.Data.String.Basic
import Mathlib.Data.List.Nodup

namespace CloudCanvas

namespace Keyed

variable {α β : Type} {entries : Keyed α} {key : String}

theorem get?_cons (entry : String × α) (entries : Keyed α) (other : String) :
    Keyed.get? (entry :: entries) other = if other = entry.1 then some entry.2 else entries.get? other := by
  unfold get?
  rw [List.lookup_cons]
  by_cases h : other = entry.1
  · simp [h]
  · rw [beq_eq_false_iff_ne.2 h, if_neg h]

theorem isSome_get?_iff :
    (entries.get? key).isSome = true ↔ key ∈ entries.map (·.1) := by
  induction entries with
  | nil => simp [get?]
  | cons entry rest ih =>
    rw [get?_cons, List.map_cons, List.mem_cons, ← ih]
    split
    · simp [*]
    · simp [*]

theorem mem_of_get? {value : α} (h : entries.get? key = some value) : (key, value) ∈ entries := by
  induction entries with
  | nil => cases h
  | cons entry rest ih =>
    rw [get?_cons] at h
    split at h
    · rename_i hkey
      cases h
      subst hkey
      exact List.mem_cons_self ..
    · exact List.mem_cons_of_mem _ (ih h)

theorem get?_insert (key : String) (value : α) (entries : Keyed α) (other : String) :
    (insert key value entries).get? other = if other = key then some value else entries.get? other := by
  induction entries with
  | nil => exact get?_cons (key, value) [] other
  | cons entry rest ih =>
    unfold insert
    split
    · exact get?_cons (key, value) _ other
    · split
      · rename_i hkey
        rw [get?_cons, get?_cons]
        subst hkey
        split <;> rfl
      · rename_i hkey
        rw [get?_cons, get?_cons, ih]
        by_cases h : other = entry.1
        · rw [if_pos h, if_neg (h ▸ Ne.symm hkey), if_pos h]
        · rw [if_neg h, if_neg h]

/-- Leaving entries out by their keys changes the values at these keys only. -/
theorem get?_filter {p : String → Bool} {other : String} (h : p other = true) (entries : Keyed α) :
    Keyed.get? (entries.filter fun entry => p entry.1) other = entries.get? other := by
  induction entries with
  | nil => rfl
  | cons entry rest ih =>
    rw [List.filter_cons, get?_cons, ← ih]
    by_cases hother : other = entry.1
    · subst hother
      rw [if_pos h, if_pos rfl, get?_cons, if_pos rfl]
    · rw [if_neg hother]
      split
      · rw [get?_cons, if_neg hother]
      · rfl

/-- What passes over a key does not see an insertion there. -/
theorem filterMap_insert {f : String × α → Option β} (h : ∀ value, f (key, value) = none) (value : α)
    (entries : Keyed α) : (insert key value entries).filterMap f = entries.filterMap f := by
  induction entries with
  | nil => simp [insert, h]
  | cons entry rest ih =>
    obtain ⟨other, v⟩ := entry
    unfold insert
    split
    · rw [List.filterMap_cons_none (h value)]
    · split
      · rename_i hkey
        subst hkey
        rw [List.filterMap_cons_none (h value), List.filterMap_cons_none (h v)]
      · rw [List.filterMap_cons, List.filterMap_cons, ih]

theorem mem_keys_insert {value : α} {other : String} :
    other ∈ (insert key value entries).map (·.1) ↔ other = key ∨ other ∈ entries.map (·.1) := by
  induction entries with
  | nil => simp [insert]
  | cons entry rest ih =>
    unfold insert
    split
    · rw [List.map_cons, List.mem_cons]
    · split
      · rename_i hkey
        rw [List.map_cons, List.map_cons, List.mem_cons, List.mem_cons, hkey, or_self_left]
      · rw [List.map_cons, List.map_cons, List.mem_cons, List.mem_cons, ih, or_left_comm]

theorem mem_insert {value : α} {entry : String × α} (h : entry ∈ insert key value entries) :
    entry = (key, value) ∨ entry ∈ entries := by
  induction entries with
  | nil => exact .inl (List.mem_singleton.1 h)
  | cons other rest ih =>
    unfold insert at h
    split at h
    · exact List.mem_cons.1 h
    · split at h
      · exact (List.mem_cons.1 h).imp_right (List.mem_cons_of_mem _)
      · rcases List.mem_cons.1 h with rfl | h
        · exact .inr (List.mem_cons_self ..)
        · exact (ih h).imp_right (List.mem_cons_of_mem _)

/-! ## Increasing keys -/

/-- The keys are in increasing order, so none occurs twice. -/
def Increasing (entries : Keyed α) : Prop :=
  entries.Pairwise (·.1 < ·.1)

instance (entries : Keyed α) : Decidable entries.Increasing :=
  inferInstanceAs (Decidable (entries.Pairwise (·.1 < ·.1)))

theorem Increasing.pairwise_keys (h : entries.Increasing) : (entries.map (·.1)).Pairwise (· < ·) :=
  List.pairwise_map.2 h

theorem Increasing.nodup_keys (h : entries.Increasing) : (entries.map (·.1)).Nodup :=
  h.pairwise_keys.imp fun hlt => hlt.ne

theorem Increasing.insert (h : entries.Increasing) (key : String) (value : α) :
    (insert key value entries).Increasing := by
  induction entries with
  | nil => exact List.pairwise_singleton _ _
  | cons entry rest ih =>
    obtain ⟨hhead, hrest⟩ := List.pairwise_cons.1 h
    unfold Keyed.insert
    split
    · rename_i hlt
      refine List.pairwise_cons.2 ⟨fun other ho => ?_, h⟩
      rcases List.mem_cons.1 ho with rfl | ho
      · exact hlt
      · exact hlt.trans (hhead other ho)
    · split
      · rename_i hkey
        exact List.pairwise_cons.2 ⟨fun other ho => hkey ▸ hhead other ho, hrest⟩
      · rename_i hle hne
        refine List.pairwise_cons.2 ⟨fun other ho => ?_, ih hrest⟩
        rcases mem_keys_insert.1 (List.mem_map_of_mem ho) with ho | ho
        · exact ho ▸ lt_of_le_of_ne (not_lt.1 hle) (Ne.symm hne)
        · obtain ⟨found, hfound, hsame⟩ := List.mem_map.1 ho
          exact hsame ▸ hhead found hfound

theorem increasing_ofList (entries : List (String × α)) : (ofList entries).Increasing := by
  have hfold : ∀ sorted : Keyed α, sorted.Increasing →
      Increasing (entries.foldl (fun sorted entry => Keyed.insert entry.1 entry.2 sorted) sorted) := by
    induction entries with
    | nil => exact fun sorted hs => hs
    | cons entry rest ih => exact fun sorted hs => ih _ (hs.insert entry.1 entry.2)
  exact hfold [] List.Pairwise.nil

end Keyed

end CloudCanvas
