/-
The order of dependencies respects the edges: it lists every position exactly once, and places the source of
every edge before its target. There is such an order unless the edges form a cycle.

The invariant of the sweep is that the count of a position is the number of arcs into it from positions
that have not been placed. So a position whose count is zero has all its sources placed. When no
position is ready, every position that is left over has a source that is left over too, and as there are
finitely many of them, some of them form a cycle.
-/
import CloudCanvas.Proofs.Graph.Cycle
import CloudCanvas.Proofs.Graph.Order
import Mathlib.Data.List.Count
import Mathlib.Order.WellFounded
import Mathlib.Data.Fintype.EquivFin

namespace CloudCanvas.Graph

/-! ## Open arcs -/

/-- How many arcs lead into a position from positions that have not been placed. -/
def openArcs (arcs : List Arc) (placed : List Nat) (p : Nat) : Nat :=
  arcs.countP fun arc => arc.target == p && !placed.contains arc.source

theorem openArcs_nil (arcs : List Arc) (p : Nat) : openArcs arcs [] p = arcsInto arcs p := by
  simp [openArcs, arcsInto, List.countP_eq_length_filter]

theorem openArcs_eq_zero_iff {arcs : List Arc} {placed : List Nat} {p : Nat} :
    openArcs arcs placed p = 0 ↔ ∀ arc ∈ arcs, arc.target = p → arc.source ∈ placed := by
  simp [openArcs, List.countP_eq_zero]

/-- Placing a position closes the arcs that leave it. -/
theorem openArcs_cons {placed : List Nat} {position : Nat} (h : position ∉ placed) (arcs : List Arc)
    (p : Nat) :
    openArcs arcs placed p =
      openArcs arcs (position :: placed) p + (targetsOf arcs position).count p := by
  unfold openArcs targetsOf
  induction arcs with
  | nil => rfl
  | cons arc rest ih =>
    rw [List.countP_cons, List.countP_cons, List.filter_cons, ih]
    by_cases hs : arc.source = position
    · simp only [hs, beq_self_eq_true, if_true, List.map_cons, List.count_cons]
      by_cases ht : arc.target = p
      · simp [ht, h]; omega
      · simp [ht]
    · simp [hs]; omega

namespace Sweep

variable {arcs : List Arc} {count : Nat} {sweep : Sweep}

/-! ## Releasing targets -/

theorem getElem?_waiting_release (sweep : Sweep) (position p : Nat) :
    (sweep.release position).waiting[p]? =
      if position = p then sweep.waiting[p]?.map (· - 1) else sweep.waiting[p]? :=
  getElem?_countDown position p sweep.waiting

theorem placed_foldl_release (targets : List Nat) (sweep : Sweep) :
    (targets.foldl Sweep.release sweep).placed = sweep.placed := by
  induction targets generalizing sweep with
  | nil => rfl
  | cons target rest ih => exact ih (sweep.release target)

/-- Releasing targets counts a position down once for every time that it is among them. -/
theorem getElem?_waiting_foldl_release (targets : List Nat) (sweep : Sweep) (p : Nat) :
    (targets.foldl Sweep.release sweep).waiting[p]? =
      sweep.waiting[p]?.map (· - targets.count p) := by
  induction targets generalizing sweep with
  | nil => simp
  | cons target rest ih =>
    rw [List.foldl_cons, ih, getElem?_waiting_release, List.count_cons]
    by_cases ht : target = p
    · subst ht
      cases sweep.waiting[target]? with
      | none => simp
      | some n => simp only [if_true, Option.map_some, beq_self_eq_true]; congr 1; omega
    · simp [ht]

/-- A sweep misses no position: one that waits for nothing is ready or placed. -/
def Complete (sweep : Sweep) : Prop :=
  ∀ p, sweep.waiting[p]? = some 0 → p ∈ sweep.ready ++ sweep.placed

theorem Complete.release (h : sweep.Complete) (position : Nat) : (sweep.release position).Complete := by
  intro p hp
  have hmem : p ∈ sweep.ready ++ sweep.placed → p ∈ (sweep.release position).ready ++ sweep.placed := by
    unfold Sweep.release
    dsimp only
    split
    · rw [((enqueue_perm position sweep.ready).append_right sweep.placed).mem_iff]
      exact List.mem_cons_of_mem _
    · exact id
  rw [getElem?_waiting_release] at hp
  split at hp
  · rename_i he
    subst he
    obtain ⟨n, hn, hz⟩ := Option.map_eq_some_iff.1 hp
    by_cases h1 : n = 1
    -- the count goes from one to zero, and the position is enqueued
    · have hd := (countDown_snd position sweep.waiting).2 (h1 ▸ hn)
      refine List.mem_append_left _ ?_
      unfold Sweep.release
      simp only [hd, if_true]
      exact (enqueue_perm position sweep.ready).mem_iff.2 (List.mem_cons_self ..)
    · exact hmem (h position (by rw [hn]; congr 1; omega))
  · exact hmem (h p hp)

theorem Complete.foldl_release (h : sweep.Complete) (targets : List Nat) :
    (targets.foldl Sweep.release sweep).Complete := by
  induction targets generalizing sweep with
  | nil => exact h
  | cons target rest ih => exact ih (h.release target)

/-! ## The counts of a sweep -/

/-- What holds of the sweep over `count` positions whenever a step begins or ends. -/
structure Exact (arcs : List Arc) (count : Nat) (sweep : Sweep) : Prop extends sweep.Sound count where
  complete : sweep.Complete
  counts : ∀ p < count, sweep.waiting[p]? = some (openArcs arcs sweep.placed p)
  /-- All sources of a placed position have been placed before it. -/
  closed : ∀ after p before, sweep.placed = after ++ p :: before →
    ∀ arc ∈ arcs, arc.target = p → arc.source ∈ before

theorem exact_start (arcs : List Arc) (count : Nat) : (start arcs count).Exact arcs count := by
  refine ⟨sound_start arcs count, fun p hp => ?_, fun p hp => ?_, fun after p before h => ?_⟩
  · obtain ⟨q, hq, hz⟩ : ∃ q, (List.range count)[p]? = some q ∧ arcsInto arcs q = 0 := by
      simpa [start] using hp
    have hpq : p < count ∧ p = q := by simpa using List.getElem?_eq_some_iff.1 hq
    obtain ⟨hlt, rfl⟩ := hpq
    simp [start, hlt, hz]
  · simp [start, hp, openArcs_nil]
  · simp [start] at h

/-- One step keeps the counts exact: the arcs out of the position that is placed are closed, and they
are what its targets are counted down for. -/
theorem Exact.step {after : Sweep} (h : sweep.Exact arcs count) (hs : sweep.step? arcs = some after) :
    after.Exact arcs count := by
  have hsound := h.toSound.step hs
  unfold step? at hs
  split at hs
  · cases hs
  · rename_i position ready hr
    cases hs
    have hmem : position ∈ sweep.ready ++ sweep.placed := by rw [hr]; exact List.mem_cons_self ..
    have hnew : position ∉ sweep.placed := by
      have hn := h.nodup
      rw [hr, List.cons_append, List.nodup_cons, List.mem_append] at hn
      exact fun hp => hn.1 (.inr hp)
    have hlt : position < count := h.lt_of_mem position hmem
    -- a position is placed when it waits for nothing
    have hsources : ∀ arc ∈ arcs, arc.target = position → arc.source ∈ sweep.placed := by
      rw [← openArcs_eq_zero_iff]
      have hz := h.settled position hmem
      rw [h.counts position hlt] at hz
      exact Option.some.inj hz
    have hcomplete : Complete { sweep with placed := position :: sweep.placed, ready } := by
      intro p hp
      have hready := h.complete p hp
      rw [hr] at hready
      exact List.perm_middle.mem_iff.2 hready
    refine ⟨hsound, hcomplete.foldl_release _, fun p hp => ?_, ?_⟩
    · rw [getElem?_waiting_foldl_release, placed_foldl_release]
      show sweep.waiting[p]?.map _ = some (openArcs arcs (position :: sweep.placed) p)
      rw [h.counts p hp, Option.map_some, openArcs_cons hnew, Nat.add_sub_cancel]
    · rw [placed_foldl_release]
      intro later p before hp arc ha ht
      cases later with
      | nil =>
        obtain ⟨rfl, rfl⟩ := List.cons.inj hp
        exact hsources arc ha ht
      | cons q later =>
        exact h.closed later p before (List.cons.inj hp).2 arc ha ht

/-- A run keeps the counts exact. -/
theorem Exact.run (h : sweep.Exact arcs count) : (sweep.run arcs).Exact arcs count := by
  induction sweep using Sweep.run.induct arcs with
  | case1 sweep hs => rw [Sweep.run, hs]; exact h
  | case2 sweep after hs ih => rw [Sweep.run, hs]; exact ih (h.step hs)

theorem ready_run (arcs : List Arc) (sweep : Sweep) : (sweep.run arcs).ready = [] := by
  induction sweep using Sweep.run.induct arcs with
  | case1 sweep hs =>
    rw [Sweep.run, hs]
    unfold step? at hs
    split at hs
    · assumption
    · cases hs
  | case2 sweep after hs ih => rw [Sweep.run, hs]; exact ih

end Sweep

/-! ## Cycles -/

/-- The edges between two different ids of a list: the target has to come after the source. -/
def Precedes (ids : List String) (edges : List Edge) (s t : String) : Prop :=
  s ≠ t ∧ s ∈ ids ∧ t ∈ ids ∧ ∃ edge ∈ edges, edge.source = s ∧ edge.target = t

/-- Some id has to come after itself. -/
def Cyclic (ids : List String) (edges : List Edge) : Prop :=
  ∃ id, Relation.TransGen (Precedes ids edges) id id

theorem arc?_eq_some_iff {ids : List String} {edge : Edge} {p q : Nat} :
    edge.arc? ids = some ⟨p, q⟩ ↔
      edge.source ≠ edge.target ∧ ids.idxOf? edge.source = some p ∧ ids.idxOf? edge.target = some q := by
  unfold Edge.arc?
  by_cases he : edge.source = edge.target
  · simp [he]
  · cases ids.idxOf? edge.source <;> cases ids.idxOf? edge.target <;> simp [he]

section Positions

variable {ids : List String} {edges : List Edge}

theorem exists_idxOf? {id : String} (h : id ∈ ids) : ∃ p, ids.idxOf? id = some p := by
  rw [← Option.isSome_iff_exists, List.isSome_idxOf?]
  exact h

theorem lt_of_idxOf?_eq_some {id : String} {p : Nat} (h : ids.idxOf? id = some p) : p < ids.length := by
  obtain ⟨hlt, -, -⟩ := List.idxOf?_eq_some_iff.1 h
  exact hlt

theorem getElem?_of_idxOf?_eq_some {id : String} {p : Nat} (h : ids.idxOf? id = some p) :
    ids[p]? = some id := by
  obtain ⟨hlt, hid, -⟩ := List.idxOf?_eq_some_iff.1 h
  rw [List.getElem?_eq_getElem hlt, hid]

theorem mem_of_idxOf?_eq_some {id : String} {p : Nat} (h : ids.idxOf? id = some p) : id ∈ ids :=
  List.mem_of_getElem? (getElem?_of_idxOf?_eq_some h)

/-- Arcs lead between the first positions of ids that precede one another. -/
theorem leads_arcs_iff {p q : Nat} :
    Leads (arcs ids edges) p q ↔
      ∃ s t, Precedes ids edges s t ∧ ids.idxOf? s = some p ∧ ids.idxOf? t = some q := by
  unfold Leads arcs
  rw [List.mem_filterMap]
  constructor
  · rintro ⟨edge, he, ha⟩
    obtain ⟨hne, hs, ht⟩ := arc?_eq_some_iff.1 ha
    exact ⟨edge.source, edge.target,
      ⟨hne, mem_of_idxOf?_eq_some hs, mem_of_idxOf?_eq_some ht, edge, he, rfl, rfl⟩, hs, ht⟩
  · rintro ⟨s, t, ⟨hne, -, -, edge, he, rfl, rfl⟩, hs, ht⟩
    exact ⟨edge, he, arc?_eq_some_iff.2 ⟨hne, hs, ht⟩⟩

theorem lt_of_leads {p q : Nat} (h : Leads (arcs ids edges) p q) : p < ids.length := by
  obtain ⟨s, t, -, hs, -⟩ := leads_arcs_iff.1 h
  exact lt_of_idxOf?_eq_some hs

/-- The ids form a cycle exactly when their positions do. -/
theorem cyclic_iff : Cyclic ids edges ↔ ∃ p, Relation.TransGen (Leads (arcs ids edges)) p p := by
  constructor
  · rintro ⟨id, h⟩
    refine ⟨_, h.lift (fun s => (ids.idxOf? s).getD 0) fun s t hst => ?_⟩
    obtain ⟨p, hp⟩ := exists_idxOf? hst.2.1
    obtain ⟨q, hq⟩ := exists_idxOf? hst.2.2.1
    show Leads _ ((ids.idxOf? s).getD 0) ((ids.idxOf? t).getD 0)
    rw [hp, hq]
    exact leads_arcs_iff.2 ⟨s, t, hst, hp, hq⟩
  · rintro ⟨p, h⟩
    refine ⟨_, h.lift (fun p => ids[p]?.getD "") fun p q hpq => ?_⟩
    obtain ⟨s, t, hst, hs, ht⟩ := leads_arcs_iff.1 hpq
    show Precedes _ _ (ids[p]?.getD "") (ids[q]?.getD "")
    rw [getElem?_of_idxOf?_eq_some hs, getElem?_of_idxOf?_eq_some ht]
    exact hst

end Positions

/-! ## Complete sweeps -/

namespace Sweep

variable {arcs : List Arc} {count : Nat} {sweep : Sweep}

/-- When nothing is ready, what has not been placed waits for something that has not been placed. -/
theorem Exact.exists_leads (h : sweep.Exact arcs count) (hr : sweep.ready = []) {q : Nat}
    (hq : q < count) (hn : q ∉ sweep.placed) : ∃ p, Leads arcs p q ∧ p ∉ sweep.placed := by
  have hopen : openArcs arcs sweep.placed q ≠ 0 := by
    intro hz
    have hmem := h.complete q (by rw [h.counts q hq, hz])
    rw [hr] at hmem
    exact hn hmem
  by_contra hnone
  refine hopen (openArcs_eq_zero_iff.2 fun arc ha ht => ?_)
  by_contra hs
  exact hnone ⟨arc.source, by rw [← ht]; exact ha, hs⟩

/-- A sweep that ends early has met a cycle: among finitely many positions that are left over, each of
them behind another one, there is no first one. -/
theorem Exact.exists_cycle (h : sweep.Exact arcs count) (hr : sweep.ready = [])
    (hlt : ∀ p q, Leads arcs p q → p < count) {q : Nat} (hq : q < count) (hn : q ∉ sweep.placed) :
    ∃ p, Relation.TransGen (Leads arcs) p p := by
  by_contra hacyclic
  let Before (a b : Fin count) : Prop := Relation.TransGen (Leads arcs) a b
  have : IsTrans (Fin count) Before := ⟨fun _ _ _ => Relation.TransGen.trans⟩
  have : Std.Irrefl Before := ⟨fun a ha => hacyclic ⟨a, ha⟩⟩
  obtain ⟨first, hfirst, hmin⟩ := (Finite.wellFounded_of_trans_of_irrefl Before).has_min
    {p | p.val ∉ sweep.placed} ⟨⟨q, hq⟩, hn⟩
  obtain ⟨p, hleads, hp⟩ := h.exists_leads hr first.isLt hfirst
  exact hmin ⟨p, hlt _ _ hleads⟩ hp (.single hleads)

end Sweep

/-! ## Orders -/

variable {ids : List String} {edges : List Edge} {order : List Nat}

/-- The sweep over the positions of ids at its end. -/
def lastSweep (ids : List String) (edges : List Edge) : Sweep :=
  (Sweep.start (arcs ids edges) ids.length).run (arcs ids edges)

theorem exact_lastSweep (ids : List String) (edges : List Edge) :
    (lastSweep ids edges).Exact (arcs ids edges) ids.length :=
  (Sweep.exact_start _ _).run

theorem ready_lastSweep (ids : List String) (edges : List Edge) : (lastSweep ids edges).ready = [] :=
  Sweep.ready_run _ _

/-- The order is what the sweep has placed, the last position first. -/
theorem order?_eq (ids : List String) (edges : List Edge) :
    order? ids edges =
      if hasCycle (arcs ids edges) ids.length then none else some (lastSweep ids edges).placed.reverse :=
  rfl

/-- There is an order unless the edges form a cycle. -/
theorem order?_eq_none_iff : order? ids edges = none ↔ Cyclic ids edges := by
  have hcycle : hasCycle (arcs ids edges) ids.length = true ↔ _ := hasCycle_iff fun _ _ => lt_of_leads
  rw [cyclic_iff, ← hcycle, order?_eq]
  split
  · rename_i hfound
    exact iff_of_true rfl hfound
  · rename_i hnone
    exact iff_of_false (Option.some_ne_none _) hnone

theorem eq_placed_of_order? (h : order? ids edges = some order) :
    order = (lastSweep ids edges).placed.reverse := by
  rw [order?_eq] at h
  split at h
  · cases h
  · exact (Option.some.inj h).symm

/-- Without a cycle the sweep places every position. -/
theorem placed_perm_of_not_cyclic (h : ¬ Cyclic ids edges) :
    (lastSweep ids edges).placed.Perm (List.range ids.length) := by
  rw [cyclic_iff] at h
  have hexact := exact_lastSweep ids edges
  refine (List.perm_ext_iff_of_nodup hexact.nodup_placed List.nodup_range).2 fun p => ?_
  rw [List.mem_range]
  refine ⟨fun hp => hexact.lt_of_mem p (List.mem_append_right _ hp), fun hp => ?_⟩
  by_contra hn
  exact h (hexact.exists_cycle (ready_lastSweep ids edges) (fun _ _ => lt_of_leads) hp hn)

/-- An order lists every position exactly once. -/
theorem perm_of_order? (h : order? ids edges = some order) : order.Perm (List.range ids.length) := by
  have hacyclic : ¬ Cyclic ids edges := by
    rw [← order?_eq_none_iff, h]
    exact Option.some_ne_none order
  rw [eq_placed_of_order? h]
  exact (List.reverse_perm _).trans (placed_perm_of_not_cyclic hacyclic)

theorem mem_of_order? (h : order? ids edges = some order) {p : Nat} : p ∈ order ↔ p < ids.length := by
  rw [(perm_of_order? h).mem_iff, List.mem_range]

/-- An order places the source of an edge before its target. -/
theorem split_of_order? (h : order? ids edges = some order) {s t : String}
    (hst : Precedes ids edges s t) :
    ∃ p q before between after, ids.idxOf? s = some p ∧ ids.idxOf? t = some q ∧
      order = before ++ p :: (between ++ q :: after) := by
  obtain ⟨p, hp⟩ := exists_idxOf? hst.2.1
  obtain ⟨q, hq⟩ := exists_idxOf? hst.2.2.1
  have hexact := exact_lastSweep ids edges
  have hall : ∀ p, p ∈ order ↔ p < ids.length := fun p => mem_of_order? h
  obtain rfl := eq_placed_of_order? h
  generalize lastSweep ids edges = sweep at hexact hall ⊢
  have hleads : Leads (arcs ids edges) p q := leads_arcs_iff.2 ⟨s, t, hst, hp, hq⟩
  have hmem : q ∈ sweep.placed := List.mem_reverse.1 ((hall q).2 (lt_of_idxOf?_eq_some hq))
  -- what was placed last stands first in the sweep
  obtain ⟨after, rest, hrest⟩ := List.append_of_mem hmem
  obtain ⟨between, before, hbefore⟩ :=
    List.append_of_mem (hexact.closed after q rest hrest _ hleads rfl)
  refine ⟨p, q, before.reverse, between.reverse, after.reverse, hp, hq, ?_⟩
  rw [hrest, hbefore]
  simp

end CloudCanvas.Graph
