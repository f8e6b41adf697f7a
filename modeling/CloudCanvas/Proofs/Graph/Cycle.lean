/-
The search for a cycle finds one exactly when there is one.

The search follows arcs, so from each position of the trail there is a way to every position that it goes on
to, and an arc that leads back to the trail closes a cycle. A position that the search has finished has only
targets that it has finished before. So no way along arcs from such a position goes on for ever, as one
around a cycle would.
-/
import CloudCanvas.Graph.Order
import Mathlib.Logic.Relation

namespace CloudCanvas.Graph

variable {arcs : List Arc} {trail todo unseen : List Nat} {p q : Nat}

/-- An arc leads from one position to the other. -/
def Leads (arcs : List Arc) (p q : Nat) : Prop :=
  ⟨p, q⟩ ∈ arcs

theorem mem_targetsOf_iff : q ∈ targetsOf arcs p ↔ Leads arcs p q := by
  unfold targetsOf Leads
  rw [List.mem_map]
  constructor
  · rintro ⟨arc, ha, rfl⟩
    obtain ⟨ha, hp⟩ := List.mem_filter.1 ha
    rw [beq_iff_eq] at hp
    rw [← hp]
    exact ha
  · intro h
    exact ⟨_, List.mem_filter.2 ⟨h, beq_self_eq_true p⟩, rfl⟩

/-- No way along arcs goes on for ever from a position. -/
def Settled (arcs : List Arc) (p : Nat) : Prop :=
  Acc (fun q p => Leads arcs p q) p

theorem Settled.not_cycle (h : Settled arcs p) : ¬ Relation.TransGen (Leads arcs) p p := by
  induction h with
  | intro p _ ih =>
    intro hcycle
    -- the cycle goes on from a target of the position, and runs through this target as well
    obtain ⟨q, hpq, hqp⟩ := Relation.TransGen.head'_iff.1 hcycle
    exact ih q hpq (.tail' hqp hpq)

/-- A search that ends early has met a cycle. -/
theorem exists_cycle_of_search (h : search arcs trail todo unseen = none)
    (htrail : ∀ o ∈ trail, ∀ p ∈ todo, Relation.TransGen (Leads arcs) o p) :
    ∃ p, Relation.TransGen (Leads arcs) p p := by
  induction trail, todo, unseen using search.induct arcs with
  | case1 trail unseen =>
    rw [search] at h
    cases h
  | case2 trail unseen position rest hback =>
    exact ⟨position, htrail position hback position (List.mem_cons_self ..)⟩
  | case3 trail unseen position rest _ _ hnone ih =>
    refine ih hnone fun o ho p hp => ?_
    have hleads := mem_targetsOf_iff.1 hp
    rcases List.mem_cons.1 ho with rfl | ho
    · exact .single hleads
    · exact (htrail o ho position (List.mem_cons_self ..)).tail hleads
  | case4 trail unseen position rest hback hnew left hleft hsome _ ih =>
    rw [search, if_neg hback, dif_pos hnew, hsome] at h
    exact ih (Option.map_eq_none_iff.1 h) fun o ho p hp => htrail o ho p (List.mem_cons_of_mem _ hp)
  | case5 trail unseen position rest hback hold ih =>
    rw [search, if_neg hback, dif_neg hold] at h
    exact ih h fun o ho p hp => htrail o ho p (List.mem_cons_of_mem _ hp)

/-- A search that does not end early settles its positions. Each position is unvisited, on the trail, or
settled, and so it is when the search goes on. -/
theorem settled_of_search {left : { left : List Nat // left.length ≤ unseen.length }}
    (h : search arcs trail todo unseen = some left)
    (hdone : ∀ p, p ∉ unseen → p ∉ trail → Settled arcs p) :
    (∀ p ∈ todo, Settled arcs p) ∧ ∀ p, p ∉ left.1 → p ∉ trail → Settled arcs p := by
  induction trail, todo, unseen using search.induct arcs with
  | case1 trail unseen =>
    rw [search] at h
    cases h
    exact ⟨List.forall_mem_nil _, hdone⟩
  | case2 trail unseen position rest hback =>
    rw [search, if_pos hback] at h
    cases h
  | case3 trail unseen position rest hback hnew hnone _ =>
    rw [search, if_neg hback, dif_pos hnew, hnone] at h
    cases h
  | case4 trail unseen position rest hback hnew between hbetween hsome ihTargets ihRest =>
    rw [search, if_neg hback, dif_pos hnew, hsome] at h
    obtain ⟨⟨later, hlater⟩, hrest, rfl⟩ := Option.map_eq_some_iff.1 h
    obtain ⟨htargets, hvisited⟩ := ihTargets hsome fun p hp hptrail => by
      rw [List.mem_cons, not_or] at hptrail
      exact hdone p (fun hpu => hp ((List.mem_erase_of_ne hptrail.1).2 hpu)) hptrail.2
    -- the position is finished when its targets are
    have hposition : Settled arcs position :=
      .intro position fun q hq => htargets q (mem_targetsOf_iff.2 hq)
    obtain ⟨hothers, hleft⟩ := ihRest hrest fun p hp hptrail => by
      by_cases hpp : p = position
      · rw [hpp]
        exact hposition
      · exact hvisited p hp fun hm => (List.mem_cons.1 hm).elim hpp hptrail
    exact ⟨List.forall_mem_cons.2 ⟨hposition, hothers⟩, hleft⟩
  | case5 trail unseen position rest hback hold ih =>
    rw [search, if_neg hback, dif_neg hold] at h
    obtain ⟨hothers, hleft⟩ := ih h hdone
    exact ⟨List.forall_mem_cons.2 ⟨hdone position hold hback, hothers⟩, hleft⟩

theorem hasCycle_iff {count : Nat} (hlt : ∀ p q, Leads arcs p q → p < count) :
    hasCycle arcs count = true ↔ ∃ p, Relation.TransGen (Leads arcs) p p := by
  unfold hasCycle
  rw [Option.isNone_iff_eq_none]
  constructor
  · intro h
    exact exists_cycle_of_search h fun o ho => absurd ho (List.not_mem_nil)
  · rintro ⟨p, hcycle⟩
    cases h : search arcs [] (List.range count) (List.range count) with
    | none => rfl
    | some left =>
      obtain ⟨hall, -⟩ := settled_of_search h fun q hq _ =>
        .intro q fun _ hleads => absurd (List.mem_range.2 (hlt q _ hleads)) hq
      -- a cycle starts with an arc, which leaves one of the positions
      obtain ⟨q, hpq, -⟩ := Relation.TransGen.head'_iff.1 hcycle
      exact absurd hcycle (hall p (List.mem_range.2 (hlt p q hpq))).not_cycle

end CloudCanvas.Graph
