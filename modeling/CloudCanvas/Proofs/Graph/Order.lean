/-
A sweep places every position at most once, and no position that there is not.

The invariant of the sweep is that placed and ready positions are distinct and have nothing left to
wait for. A position becomes ready only when its count goes from one to zero, and a count that has
reached zero stays there, so no position becomes ready twice.
-/
import CloudCanvas.Graph.Order
import Mathlib.Data.List.Nodup
import Mathlib.Data.List.Perm.Subperm

namespace CloudCanvas.Graph

/-! ## Counting down -/

theorem length_countDown (i : Nat) (counts : List Nat) : (countDown i counts).1.length = counts.length := by
  induction counts generalizing i with
  | nil => simp [countDown]
  | cons count rest ih =>
    cases i with
    | zero => rfl
    | succ i => simp only [countDown, List.length_cons, ih]

theorem getElem?_countDown (i j : Nat) (counts : List Nat) :
    (countDown i counts).1[j]? = if i = j then counts[j]?.map (· - 1) else counts[j]? := by
  induction counts generalizing i j with
  | nil => simp [countDown]
  | cons count rest ih =>
    cases i with
    | zero => cases j <;> simp [countDown]
    | succ i =>
      cases j with
      | zero => simp [countDown]
      | succ j => simp only [countDown, List.getElem?_cons_succ, ih, Nat.add_right_cancel_iff]

/-- Counting down says that an entry is done exactly when it was one. -/
theorem countDown_snd (i : Nat) (counts : List Nat) :
    (countDown i counts).2 = true ↔ counts[i]? = some 1 := by
  induction counts generalizing i with
  | nil => simp [countDown]
  | cons count rest ih =>
    cases i with
    | zero => simp [countDown]
    | succ i => simpa [countDown] using ih i

theorem enqueue_perm (position : Nat) (ready : List Nat) :
    (enqueue position ready).Perm (position :: ready) := by
  induction ready with
  | nil => exact List.Perm.refl _
  | cons p rest ih =>
    unfold enqueue
    split
    · exact List.Perm.refl _
    · exact (ih.cons p).trans (List.Perm.swap position p rest)

/-! ## The invariant of a sweep -/

namespace Sweep

/-- The invariant of a sweep over `count` positions: placed and ready positions are distinct and have
nothing left to wait for. -/
structure Sound (count : Nat) (sweep : Sweep) : Prop where
  length : sweep.waiting.length = count
  nodup : (sweep.ready ++ sweep.placed).Nodup
  settled : ∀ p ∈ sweep.ready ++ sweep.placed, sweep.waiting[p]? = some 0

variable {count : Nat} {sweep : Sweep}

theorem sound_start (arcs : List Arc) (count : Nat) : (start arcs count).Sound count := by
  refine ⟨by simp [start], ?_, fun p hp => ?_⟩
  · simp only [start, List.append_nil]
    exact List.Nodup.filter _ List.nodup_range
  · simp only [start, List.append_nil, List.mem_filter, List.mem_range, beq_iff_eq] at hp
    simp [start, hp.1, hp.2]

theorem Sound.release (h : sweep.Sound count) (position : Nat) : (sweep.release position).Sound count := by
  have hw : ∀ p : Nat, sweep.waiting[p]? = some 0 → (countDown position sweep.waiting).1[p]? = some 0 := by
    intro p hp
    rw [getElem?_countDown, hp]
    split <;> rfl
  by_cases hd : (countDown position sweep.waiting).2 = true
  · have h1 := (countDown_snd position sweep.waiting).1 hd
    -- what is ready or placed already has count zero, not one
    have hnew : position ∉ sweep.ready ++ sweep.placed := by
      intro hm
      have := h.settled position hm
      rw [h1] at this; cases this
    have hperm : (enqueue position sweep.ready ++ sweep.placed).Perm
        (position :: (sweep.ready ++ sweep.placed)) :=
      (enqueue_perm position sweep.ready).append_right sweep.placed
    unfold Sweep.release
    simp only [hd, if_true]
    refine ⟨by rw [length_countDown, h.length], ?_, fun p hp => ?_⟩
    · exact hperm.nodup_iff.2 (List.nodup_cons.2 ⟨hnew, h.nodup⟩)
    · rcases List.mem_cons.1 (hperm.mem_iff.1 hp) with rfl | hp
      · rw [getElem?_countDown, if_pos rfl, h1]; rfl
      · exact hw p (h.settled p hp)
  · unfold Sweep.release
    simp only [hd]
    exact ⟨by rw [length_countDown, h.length], h.nodup, fun p hp => hw p (h.settled p hp)⟩

theorem Sound.foldl_release (h : sweep.Sound count) (targets : List Nat) :
    (targets.foldl Sweep.release sweep).Sound count := by
  induction targets generalizing sweep with
  | nil => exact h
  | cons target rest ih => exact ih (h.release target)

/-- One step keeps the invariant: the least ready position is placed, and its targets are released. -/
theorem Sound.step {arcs : List Arc} {after : Sweep} (h : sweep.Sound count)
    (hs : sweep.step? arcs = some after) : after.Sound count := by
  unfold step? at hs
  split at hs
  · cases hs
  · rename_i position ready hr
    cases hs
    -- the position moves from the ready ones to the placed ones
    have hperm : (ready ++ position :: sweep.placed).Perm (sweep.ready ++ sweep.placed) := by
      rw [hr]; exact List.perm_middle
    have hplaced : Sound count { sweep with placed := position :: sweep.placed, ready } := by
      refine ⟨h.length, hperm.nodup_iff.2 h.nodup, fun p hp => ?_⟩
      exact h.settled p (hperm.mem_iff.1 hp)
    exact hplaced.foldl_release _

/-- A run keeps the invariant, by induction on its steps. -/
theorem Sound.run (arcs : List Arc) (h : sweep.Sound count) : (sweep.run arcs).Sound count := by
  induction sweep using Sweep.run.induct arcs with
  | case1 sweep hs => rw [Sweep.run, hs]; exact h
  | case2 sweep after hs ih => rw [Sweep.run, hs]; exact ih (h.step hs)

theorem Sound.lt_of_mem (h : sweep.Sound count) : ∀ p ∈ sweep.ready ++ sweep.placed, p < count := by
  intro p hp
  obtain ⟨hlt, -⟩ := List.getElem?_eq_some_iff.1 (h.settled p hp)
  rw [h.length] at hlt; exact hlt

/-- No more positions are ready and placed than there are. -/
theorem Sound.length_le (h : sweep.Sound count) : (sweep.ready ++ sweep.placed).length ≤ count := by
  have hsubset : sweep.ready ++ sweep.placed ⊆ List.range count := fun p hp =>
    List.mem_range.2 (h.lt_of_mem p hp)
  have hle := (List.subperm_of_subset h.nodup hsubset).length_le
  rwa [List.length_range] at hle

theorem Sound.nodup_ready (h : sweep.Sound count) : sweep.ready.Nodup :=
  (List.nodup_append.1 h.nodup).1

theorem Sound.nodup_placed (h : sweep.Sound count) : sweep.placed.Nodup :=
  (List.nodup_append.1 h.nodup).2.1

end Sweep

end CloudCanvas.Graph
