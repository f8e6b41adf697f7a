/-
The order of dependencies is canonical: the arcs count, and the order in which they are listed does not.
A sweep goes through its arcs in their order, but what it has placed already determines the rest of it.
The counts are those of the open arcs, and the ready positions are the other ones without an open arc, in
increasing order. So sweeps over permuted arcs take the same steps.
-/
import CloudCanvas.Proofs.Graph.Precedence
import Mathlib.Data.List.Sort

namespace CloudCanvas.Graph

/-! ## Increasing positions -/

theorem pairwise_enqueue {ready : List Nat} (h : ready.Pairwise (· ≤ ·)) (position : Nat) :
    (enqueue position ready).Pairwise (· ≤ ·) := by
  induction ready with
  | nil => exact List.pairwise_singleton _ _
  | cons p rest ih =>
    obtain ⟨hp, hrest⟩ := List.pairwise_cons.1 h
    unfold enqueue
    split
    · rename_i hle
      refine List.pairwise_cons.2 ⟨fun q hq => ?_, h⟩
      rcases List.mem_cons.1 hq with rfl | hq
      · exact hle
      · exact hle.trans (hp q hq)
    · rename_i hlt
      refine List.pairwise_cons.2 ⟨fun q hq => ?_, ih hrest⟩
      rcases List.mem_cons.1 ((enqueue_perm position rest).mem_iff.1 hq) with rfl | hq
      · omega
      · exact hp q hq

namespace Sweep

variable {arcs links : List Arc} {count : Nat} {sweep other : Sweep}

theorem pairwise_ready_foldl_release (h : sweep.ready.Pairwise (· ≤ ·)) (targets : List Nat) :
    (targets.foldl Sweep.release sweep).ready.Pairwise (· ≤ ·) := by
  induction targets generalizing sweep with
  | nil => exact h
  | cons target rest ih =>
    refine ih ?_
    unfold Sweep.release
    dsimp only
    split
    · exact pairwise_enqueue h target
    · exact h

/-! ## Sweeps determined by what they have placed -/

/-- A sweep with exact counts whose ready positions increase. -/
structure Canonical (arcs : List Arc) (count : Nat) (sweep : Sweep) : Prop extends
    sweep.Exact arcs count where
  increasing : sweep.ready.Pairwise (· ≤ ·)

theorem canonical_start (arcs : List Arc) (count : Nat) : (start arcs count).Canonical arcs count := by
  refine ⟨exact_start arcs count, ?_⟩
  exact (List.pairwise_le_range).filter _

theorem Canonical.step {after : Sweep} (h : sweep.Canonical arcs count)
    (hs : sweep.step? arcs = some after) : after.Canonical arcs count := by
  refine ⟨h.toExact.step hs, ?_⟩
  unfold step? at hs
  split at hs
  · cases hs
  · rename_i position ready hr
    cases hs
    have hready : ready.Pairwise (· ≤ ·) := by
      have h' := h.increasing
      rw [hr] at h'
      exact (List.pairwise_cons.1 h').2
    apply pairwise_ready_foldl_release
    exact hready

/-- The ready positions are those without an open arc that have not been placed. -/
theorem Exact.mem_ready_iff (h : sweep.Exact arcs count) {p : Nat} :
    p ∈ sweep.ready ↔ p < count ∧ openArcs arcs sweep.placed p = 0 ∧ p ∉ sweep.placed := by
  constructor
  · intro hp
    have hzero := h.settled p (List.mem_append_left _ hp)
    have hlt : p < count := h.lt_of_mem p (List.mem_append_left _ hp)
    rw [h.counts p hlt] at hzero
    refine ⟨hlt, Option.some.inj hzero, fun hplaced => ?_⟩
    exact (List.nodup_append.1 h.nodup).2.2 p hp p hplaced rfl
  · rintro ⟨hlt, hopen, hplaced⟩
    have hmem := h.complete p (by rw [h.counts p hlt, hopen])
    exact (List.mem_append.1 hmem).resolve_right hplaced

theorem Canonical.eq_of_placed (h : sweep.Canonical arcs count) (ho : other.Canonical arcs count)
    (hplaced : sweep.placed = other.placed) : sweep = other := by
  have hwaiting : sweep.waiting = other.waiting := by
    refine List.ext_getElem? fun p => ?_
    by_cases hp : p < count
    · rw [h.counts p hp, ho.counts p hp, hplaced]
    · rw [List.getElem?_eq_none (by rw [h.length]; omega), List.getElem?_eq_none (by rw [ho.length]; omega)]
  have hready : sweep.ready = other.ready := by
    have hperm : sweep.ready.Perm other.ready := by
      refine (List.perm_ext_iff_of_nodup h.nodup_ready ho.nodup_ready).2 fun p => ?_
      rw [h.mem_ready_iff, ho.mem_ready_iff, hplaced]
    exact hperm.eq_of_pairwise (fun _ _ _ _ => Nat.le_antisymm) h.increasing ho.increasing
  cases sweep
  cases other
  dsimp only at hplaced hwaiting hready
  rw [hplaced, hwaiting, hready]

/-! ## Permuted arcs -/

theorem Canonical.of_perm (hperm : arcs.Perm links) (h : sweep.Canonical arcs count) :
    sweep.Canonical links count := by
  refine ⟨⟨h.toSound, h.complete, fun p hp => ?_, fun after p before hs arc ha => ?_⟩, h.increasing⟩
  · rw [h.counts p hp]
    exact congrArg some (hperm.countP_eq _)
  · exact h.closed after p before hs arc (hperm.mem_iff.2 ha)

theorem start_eq_of_perm (hperm : arcs.Perm links) (count : Nat) : start arcs count = start links count :=
  ((canonical_start arcs count).of_perm hperm).eq_of_placed (canonical_start links count) rfl

/-- A step places the first of the ready positions, along whichever arcs. -/
theorem map_placed_step? (arcs : List Arc) (sweep : Sweep) :
    (sweep.step? arcs).map Sweep.placed = sweep.ready.head?.map (· :: sweep.placed) := by
  unfold step?
  cases sweep.ready with
  | nil => rfl
  | cons position ready => exact congrArg some (placed_foldl_release _ _)

theorem Canonical.step?_eq_of_perm (hperm : arcs.Perm links) (h : sweep.Canonical arcs count) :
    sweep.step? arcs = sweep.step? links := by
  have hplaced := (map_placed_step? arcs sweep).trans (map_placed_step? links sweep).symm
  cases hs : sweep.step? arcs with
  | none =>
    rw [hs, Option.map_none, eq_comm, Option.map_eq_none_iff] at hplaced
    exact hplaced.symm
  | some after =>
    rw [hs, Option.map_some, eq_comm] at hplaced
    obtain ⟨later, hl, hsame⟩ := Option.map_eq_some_iff.1 hplaced
    rw [hl, ((h.step hs).of_perm hperm).eq_of_placed ((h.of_perm hperm).step hl) hsame.symm]

theorem Canonical.run_eq_of_perm (hperm : arcs.Perm links) (h : sweep.Canonical arcs count) :
    sweep.run arcs = sweep.run links := by
  induction sweep using Sweep.run.induct arcs with
  | case1 sweep hs =>
    have hl := h.step?_eq_of_perm hperm
    rw [hs] at hl
    rw [Sweep.run, Sweep.run, hs, ← hl]
  | case2 sweep after hs ih =>
    have hl := h.step?_eq_of_perm hperm
    rw [hs] at hl
    rw [Sweep.run, Sweep.run, hs, ← hl]
    exact ih (h.step hs)

end Sweep

/-- The order depends on the arcs only, and not on the order in which they are listed. -/
theorem order?_eq_of_perm {ids : List String} {edges others : List Edge}
    (h : (arcs ids edges).Perm (arcs ids others)) : order? ids edges = order? ids others := by
  have hcycle : hasCycle (arcs ids edges) ids.length = hasCycle (arcs ids others) ids.length := by
    have hleads : Leads (arcs ids edges) = Leads (arcs ids others) := by
      funext p q
      exact propext h.mem_iff
    rw [Bool.eq_iff_iff, hasCycle_iff fun _ _ => lt_of_leads, hasCycle_iff fun _ _ => lt_of_leads, hleads]
  have hsweep : lastSweep ids edges = lastSweep ids others := by
    unfold lastSweep
    rw [(Sweep.canonical_start _ _).run_eq_of_perm h, Sweep.start_eq_of_perm h]
  rw [order?_eq, order?_eq, hcycle, hsweep]

end CloudCanvas.Graph
