/-
The order of dependencies is the least one: among all sequences that list every position once and place the
source of every edge before its target, it comes first in the lexicographic order of lists.

A sweep places at each step the least position that does not wait for anything. Where another sequence first
departs from that, all positions before are the same, so what it places there was waiting for nothing either,
and the sweep has placed something less.
-/
import CloudCanvas.Proofs.Graph.Canonical

namespace CloudCanvas.Graph

/-! ## Arrangements -/

/-- Some edge leads from one position to the other: its ends differ, and these are the first positions at
which they stand. -/
def Follows (ids : List String) (edges : List Edge) (p q : Nat) : Prop :=
  ∃ edge ∈ edges, edge.source ≠ edge.target ∧ ids.idxOf? edge.source = some p ∧
    ids.idxOf? edge.target = some q

/-- A sequence of positions in which each of them stands once and every edge leads forward. -/
structure Arranges (ids : List String) (edges : List Edge) (order : List Nat) : Prop where
  perm : order.Perm (List.range ids.length)
  forward : ∀ p q, Follows ids edges p q → order.idxOf p < order.idxOf q

/-- At each place of a sequence stands the least position that could stand there: one that has not come
before, and behind no edge from a position that has not come before. -/
def Thrifty (follows : Nat → Nat → Prop) (count : Nat) (order : List Nat) : Prop :=
  ∀ before p after, order = before ++ p :: after →
    ∀ q < count, q ∉ before → (∀ r, follows r q → r ∈ before) → p ≤ q

theorem leads_arcs_eq_follows (ids : List String) (edges : List Edge) :
    Leads (arcs ids edges) = Follows ids edges := by
  funext p q
  unfold Leads arcs Follows
  simp only [List.mem_filterMap, arc?_eq_some_iff]

section Lists

variable {ids : List String} {edges : List Edge} {order other before after : List Nat} {p q : Nat}

theorem idxOf_split (h : (before ++ p :: after).Nodup) : (before ++ p :: after).idxOf p = before.length := by
  rw [List.idxOf_append_of_notMem fun hp => (List.nodup_append.1 h).2.2 p hp p (List.mem_cons_self ..) rfl,
    List.idxOf_cons_self, Nat.add_zero]

theorem mem_of_idxOf_lt (h : (before ++ after).idxOf p < before.length) : p ∈ before := by
  by_contra hp
  rw [List.idxOf_append_of_notMem hp] at h
  omega

theorem Arranges.nodup (h : Arranges ids edges order) : order.Nodup :=
  h.perm.nodup_iff.2 List.nodup_range

/-- What stands at some place of an arrangement waits for nothing but what stands before. -/
theorem Arranges.mem_before (h : Arranges ids edges (before ++ q :: after)) {r : Nat}
    (hr : Follows ids edges r q) : r ∈ before := by
  have hlt := h.forward r q hr
  rw [idxOf_split h.nodup] at hlt
  exact mem_of_idxOf_lt hlt

/-- A thrifty sequence comes before every other arrangement, by induction from the place on up to which the
two agree. -/
theorem Thrifty.eq_or_lex (h : Thrifty (Follows ids edges) ids.length order)
    (hperm : order.Perm (List.range ids.length)) (ho : Arranges ids edges other) :
    order = other ∨ List.Lex (· < ·) order other := by
  have hlength := (hperm.trans ho.perm.symm).length_eq
  have hagree : ∀ rest before tail, order = before ++ rest → other = before ++ tail →
      rest = tail ∨ List.Lex (· < ·) rest tail := by
    intro rest
    induction rest with
    | nil =>
      intro before tail hrest htail
      rw [hrest, htail] at hlength
      left
      simpa using hlength
    | cons p rest ih =>
      intro before tail hrest htail
      cases tail with
      | nil =>
        rw [hrest, htail] at hlength
        simp at hlength
      | cons q tail =>
        have harranges := ho
        rw [htail] at harranges
        have hq : q < ids.length := by
          rw [← List.mem_range, ← harranges.perm.mem_iff]
          simp
        have hnew : q ∉ before := fun hm =>
          (List.nodup_append.1 harranges.nodup).2.2 q hm q (List.mem_cons_self ..) rfl
        have hle := h before p rest hrest q hq hnew fun r hr => harranges.mem_before hr
        rcases Nat.lt_or_eq_of_le hle with hlt | rfl
        · exact .inr (.rel hlt)
        · have hrest' : order = (before ++ [p]) ++ rest := by rw [hrest, List.append_assoc]; rfl
          have htail' : other = (before ++ [p]) ++ tail := by rw [htail, List.append_assoc]; rfl
          exact (ih _ _ hrest' htail').imp (congrArg (p :: ·)) .cons
  exact hagree order [] other rfl rfl

/-- The positions in their own order are thrifty, whatever the edges. -/
theorem thrifty_range (follows : Nat → Nat → Prop) (count : Nat) : Thrifty follows count (List.range count) := by
  intro before p after hsplit q hq hnew _
  by_contra hlt
  have hp : p = before.length := by
    have hget : (List.range count)[before.length]? = some p := by rw [hsplit]; simp
    obtain ⟨_, hp⟩ := List.getElem?_eq_some_iff.1 hget
    rw [← hp, List.getElem_range]
  have hget : (before ++ p :: after)[q]? = some q := by rw [← hsplit]; simp [hq]
  rw [List.getElem?_append_left (by omega)] at hget
  exact hnew (List.mem_of_getElem? hget)

end Lists

/-! ## Sweeps -/

namespace Sweep

variable {arcs : List Arc} {count : Nat} {sweep : Sweep}

/-- A canonical sweep each of whose positions was the least that could come next when it was placed. -/
structure Greedy (arcs : List Arc) (count : Nat) (sweep : Sweep) : Prop extends
    sweep.Canonical arcs count where
  least : ∀ after p before, sweep.placed = after ++ p :: before →
    ∀ q < count, q ∉ before → openArcs arcs before q = 0 → p ≤ q

theorem greedy_start (arcs : List Arc) (count : Nat) : (start arcs count).Greedy arcs count :=
  ⟨canonical_start arcs count, fun _ _ _ h => by simp [start] at h⟩

/-- One step places the first of the ready positions, which increase. -/
theorem Greedy.step {after : Sweep} (h : sweep.Greedy arcs count) (hs : sweep.step? arcs = some after) :
    after.Greedy arcs count := by
  refine ⟨h.toCanonical.step hs, ?_⟩
  have hplaced := map_placed_step? arcs sweep
  rw [hs, Option.map_some, eq_comm, Option.map_eq_some_iff] at hplaced
  obtain ⟨position, hhead, hplaced⟩ := hplaced
  obtain ⟨ready, hready⟩ := List.head?_eq_some_iff.1 hhead
  rw [← hplaced]
  intro later p before hsplit q hq hnew hopen
  cases later with
  | nil =>
    obtain ⟨rfl, rfl⟩ := List.cons.inj hsplit
    have hmem := h.mem_ready_iff.2 ⟨hq, hopen, hnew⟩
    have hincreasing := h.increasing
    rw [hready] at hmem hincreasing
    rcases List.mem_cons.1 hmem with rfl | hmem
    · exact Nat.le_refl _
    · exact (List.pairwise_cons.1 hincreasing).1 q hmem
  | cons _ later => exact h.least later p before (List.cons.inj hsplit).2 q hq hnew hopen

theorem Greedy.run (h : sweep.Greedy arcs count) : (sweep.run arcs).Greedy arcs count := by
  induction sweep using Sweep.run.induct arcs with
  | case1 sweep hs => rw [Sweep.run, hs]; exact h
  | case2 sweep after hs ih => rw [Sweep.run, hs]; exact ih (h.step hs)

theorem Greedy.thrifty (h : sweep.Greedy arcs count) : Thrifty (Leads arcs) count sweep.placed.reverse := by
  intro before p after hsplit q hq hnew hsources
  have hplaced : sweep.placed = after.reverse ++ p :: before.reverse := by
    rw [← List.reverse_reverse sweep.placed, hsplit]
    simp
  refine h.least _ p _ hplaced q hq (by simpa using hnew) (openArcs_eq_zero_iff.2 fun arc ha ht => ?_)
  exact List.mem_reverse.2 (hsources arc.source (ht ▸ ha))

end Sweep

/-! ## Orders -/

variable {ids : List String} {edges : List Edge} {order : List Nat}

theorem thrifty_of_order? (h : order? ids edges = some order) :
    Thrifty (Follows ids edges) ids.length order := by
  rw [← leads_arcs_eq_follows, eq_placed_of_order? h]
  exact (Sweep.greedy_start (arcs ids edges) ids.length).run.thrifty

theorem arranges_of_order? (h : order? ids edges = some order) : Arranges ids edges order := by
  refine ⟨perm_of_order? h, ?_⟩
  rintro p q ⟨edge, he, hne, hp, hq⟩
  obtain ⟨p', q', before, between, after, hp', hq', hsplit⟩ :=
    split_of_order? h ⟨hne, mem_of_idxOf?_eq_some hp, mem_of_idxOf?_eq_some hq, edge, he, rfl, rfl⟩
  obtain rfl : p = p' := Option.some.inj (hp.symm.trans hp')
  obtain rfl : q = q' := Option.some.inj (hq.symm.trans hq')
  have hnodup : order.Nodup := (perm_of_order? h).nodup_iff.2 List.nodup_range
  have hagain : order = (before ++ p :: between) ++ q :: after := by simp [hsplit]
  have hidx : order.idxOf p = before.length := by rw [hsplit] at hnodup ⊢; exact idxOf_split hnodup
  have hidx' : order.idxOf q = (before ++ p :: between).length := by
    rw [hagain] at hnodup ⊢
    exact idxOf_split hnodup
  rw [hidx, hidx']
  simp

/-- The order of dependencies is the canonical one. There is none exactly when the edges lead from some
position back to it. Otherwise it lists every position once, with every edge leading forward, and of all such
sequences it is the least: every other one comes after it in the lexicographic order. So without edges that
count, positions stay in their own order. -/
theorem order_is_least_arrangement (ids : List String) (edges : List Edge) :
    (order? ids edges = none ↔ ∃ p, Relation.TransGen (Follows ids edges) p p) ∧
    (∀ order, order? ids edges = some order →
      Arranges ids edges order ∧
        ∀ other, Arranges ids edges other → order = other ∨ List.Lex (· < ·) order other) ∧
    ((∀ p q, ¬ Follows ids edges p q) → order? ids edges = some (List.range ids.length)) := by
  have hnone : order? ids edges = none ↔ ∃ p, Relation.TransGen (Follows ids edges) p p := by
    rw [order?_eq_none_iff, cyclic_iff, leads_arcs_eq_follows]
  have hleast : ∀ order, order? ids edges = some order →
      Arranges ids edges order ∧
        ∀ other, Arranges ids edges other → order = other ∨ List.Lex (· < ·) order other := fun order h =>
    ⟨arranges_of_order? h, fun other ho => (thrifty_of_order? h).eq_or_lex (perm_of_order? h) ho⟩
  refine ⟨hnone, hleast, fun hfree => ?_⟩
  cases horder : order? ids edges with
  | none =>
    obtain ⟨p, hcycle⟩ := hnone.1 horder
    obtain ⟨q, -, hq⟩ := Relation.TransGen.tail'_iff.1 hcycle
    exact absurd hq (hfree q p)
  | some order =>
    obtain ⟨harranges, hle⟩ := hleast order horder
    have hrange : Arranges ids edges (List.range ids.length) :=
      ⟨List.Perm.refl _, fun p q hpq => absurd hpq (hfree p q)⟩
    have hback := (thrifty_range (Follows ids edges) ids.length).eq_or_lex (List.Perm.refl _) harranges
    -- neither of the two comes after the other
    rcases hle _ hrange with heq | hbefore
    · exact congrArg some heq
    · rcases hback with heq | hafter
      · exact congrArg some heq.symm
      · exact absurd hafter (List.lt_asymm hbefore)

/-- An edge from the last of three nodes to the first moves the first behind it and leaves the one in
between where it is; the sequence that moves both is another arrangement, and comes later. An edge back closes
a cycle. -/
theorem order_of_three_nodes :
    order? ["x", "y", "z"] [⟨"e", "z", "x"⟩] = some [1, 2, 0] ∧
    List.Lex (· < ·) ([1, 2, 0] : List Nat) [2, 0, 1] ∧
    order? ["x", "y", "z"] [⟨"e", "z", "x"⟩, ⟨"f", "x", "z"⟩] = none := by
  have horder : order? ["x", "y", "z"] [⟨"e", "z", "x"⟩] = some [1, 2, 0] := by decide +kernel
  refine ⟨horder, ?_, by decide +kernel⟩
  refine (((order_is_least_arrangement _ _).2.1 _ horder).2 _ ⟨by decide, ?_⟩).resolve_left (by decide)
  rintro p q ⟨edge, he, -, hp, hq⟩
  obtain rfl := List.mem_singleton.1 he
  cases hp
  cases hq
  decide

end CloudCanvas.Graph
