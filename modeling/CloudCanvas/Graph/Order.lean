/-
The order in which nodes come before their dependents. A cycle of the edges is looked for first. When there
is none, positions are placed one by one: of those that depend on placed positions only, the least comes
next, so that a graph without edges keeps its order.
Edges from a node to itself and edges that end at an unknown node do not count.
-/
import CloudCanvas.Graph.Edge

namespace CloudCanvas.Graph

/-- An edge between two positions of a list of ids. -/
structure Arc where
  source : Nat
  target : Nat
  deriving DecidableEq

/-- The arc of an edge: between the first positions of its two ends, which have to differ. -/
def Edge.arc? (ids : List String) (edge : Edge) : Option Arc :=
  if edge.source = edge.target then none
  else
    match ids.idxOf? edge.source, ids.idxOf? edge.target with
    | some source, some target => some ⟨source, target⟩
    | _, _ => none

/-- The arcs of a list of edges, in edge order. -/
def arcs (ids : List String) (edges : List Edge) : List Arc :=
  edges.filterMap (Edge.arc? ids)

/-- The targets of the arcs that leave a position. -/
def targetsOf (arcs : List Arc) (position : Nat) : List Nat :=
  (arcs.filter fun arc => arc.source == position).map (·.target)

/-! ## Cycles -/

/-- Searches in depth, from each of the positions `todo` in turn, for an arc that leads back to the trail:
to a position whose own arcs are still being followed. The result is none when there is such an arc, and
otherwise the positions that have not been visited, of those that had not been before. -/
def search (arcs : List Arc) (trail todo unseen : List Nat) :
    Option { left : List Nat // left.length ≤ unseen.length } :=
  match todo with
  | [] => some ⟨unseen, Nat.le_refl _⟩
  | position :: rest =>
    if position ∈ trail then none
    else if _h : position ∈ unseen then
      match search arcs (position :: trail) (targetsOf arcs position) (unseen.erase position) with
      | none => none
      | some ⟨left, hleft⟩ =>
        (search arcs trail rest left).map fun ⟨later, hlater⟩ =>
          ⟨later, Nat.le_trans hlater (Nat.le_trans hleft List.length_erase_le)⟩
    else search arcs trail rest unseen
termination_by unseen.length * (arcs.length + 1) + todo.length
decreasing_by
  · have hlength := List.length_erase_of_mem _h
    have hpos := List.length_pos_of_mem _h
    have htargets : (targetsOf arcs position).length ≤ arcs.length := by
      rw [targetsOf, List.length_map]
      exact List.length_filter_le _ _
    obtain ⟨n, hn⟩ : ∃ n, unseen.length = n + 1 := ⟨unseen.length - 1, by omega⟩
    rw [hlength, hn, Nat.add_sub_cancel, Nat.succ_mul]
    omega
  · have hle : left.length ≤ unseen.length := Nat.le_trans hleft List.length_erase_le
    have hmul := Nat.mul_le_mul_right (arcs.length + 1) hle
    simp only [List.length_cons]
    omega
  · simp only [List.length_cons]
    omega

/-- Whether arcs between the first `count` positions form a cycle. -/
def hasCycle (arcs : List Arc) (count : Nat) : Bool :=
  (search arcs [] (List.range count) (List.range count)).isNone

/-! ## Placing positions -/

/-- A sweep over the positions: those placed so far, the last one first; for each position the number
of arcs into it from positions that have not been placed; and the positions that can come next, in
increasing order. -/
structure Sweep where
  placed : List Nat
  waiting : List Nat
  ready : List Nat

/-- Counts down the entry at a position, and tells whether that took it from one to zero. -/
def countDown : Nat → List Nat → List Nat × Bool
  | _, [] => ([], false)
  | 0, count :: rest => ((count - 1) :: rest, count == 1)
  | i + 1, count :: rest => (count :: (countDown i rest).1, (countDown i rest).2)

/-- Puts a position into an increasing list. -/
def enqueue (position : Nat) : List Nat → List Nat
  | [] => [position]
  | p :: rest => if position ≤ p then position :: p :: rest else p :: enqueue position rest

/-- Counts down the arcs into a position; the position is ready when none is left. -/
def Sweep.release (sweep : Sweep) (position : Nat) : Sweep :=
  let (waiting, done) := countDown position sweep.waiting
  { sweep with waiting, ready := if done then enqueue position sweep.ready else sweep.ready }

/-- How many arcs are counted altogether. -/
def arcsCounted : List Nat → Nat
  | [] => 0
  | count :: rest => count + arcsCounted rest

/-- What is left to be done: each step takes a position from the ready ones, and a position becomes
ready only when a count goes down. -/
def Sweep.weight (sweep : Sweep) : Nat :=
  arcsCounted sweep.waiting + sweep.ready.length

theorem arcsCounted_countDown_le (i : Nat) (counts : List Nat) :
    arcsCounted (countDown i counts).1 + (if (countDown i counts).2 then 1 else 0) ≤
      arcsCounted counts := by
  induction counts generalizing i with
  | nil => simp [countDown]
  | cons count rest ih =>
    cases i with
    | zero =>
      simp only [countDown, arcsCounted, beq_iff_eq]
      split <;> omega
    | succ i =>
      have := ih i
      cases done : (countDown i rest).2 <;> simp [countDown, arcsCounted, done] at this ⊢ <;> omega

theorem length_enqueue (position : Nat) (ready : List Nat) :
    (enqueue position ready).length = ready.length + 1 := by
  induction ready with
  | nil => rfl
  | cons p rest ih => simp only [enqueue]; split <;> simp [ih]

theorem Sweep.weight_release_le (sweep : Sweep) (position : Nat) :
    (sweep.release position).weight ≤ sweep.weight := by
  have h := arcsCounted_countDown_le position sweep.waiting
  unfold release weight
  generalize countDown position sweep.waiting = counted at h
  obtain ⟨waiting, done⟩ := counted
  cases done <;> simp [length_enqueue] at h ⊢ <;> omega

theorem Sweep.weight_foldl_release_le (targets : List Nat) (sweep : Sweep) :
    (targets.foldl Sweep.release sweep).weight ≤ sweep.weight := by
  induction targets generalizing sweep with
  | nil => exact Nat.le_refl _
  | cons target rest ih => exact Nat.le_trans (ih _) (sweep.weight_release_le target)

/-- Places the least ready position; none when no position is ready. -/
def Sweep.step? (arcs : List Arc) (sweep : Sweep) : Option Sweep :=
  match sweep.ready with
  | [] => none
  | position :: ready =>
    some ((targetsOf arcs position).foldl Sweep.release
      { sweep with placed := position :: sweep.placed, ready })

theorem Sweep.weight_step?_lt {arcs : List Arc} {sweep after : Sweep}
    (h : sweep.step? arcs = some after) : after.weight < sweep.weight := by
  unfold step? at h
  split at h
  · simp at h
  · rename_i position ready hready
    simp only [Option.some.injEq] at h
    subst h
    refine Nat.lt_of_le_of_lt (weight_foldl_release_le _ _) ?_
    simp [weight, hready]

/-- Places positions until none is ready. -/
def Sweep.run (arcs : List Arc) (sweep : Sweep) : Sweep :=
  match _h : sweep.step? arcs with
  | none => sweep
  | some after => run arcs after
termination_by sweep.weight
decreasing_by exact weight_step?_lt _h

/-- How many arcs end at a position. -/
def arcsInto (arcs : List Arc) (position : Nat) : Nat :=
  (arcs.filter fun arc => arc.target == position).length

/-- The sweep over the first `count` positions before any of them has been placed. -/
def Sweep.start (arcs : List Arc) (count : Nat) : Sweep :=
  let positions := List.range count
  ⟨[], positions.map (arcsInto arcs), positions.filter fun p => arcsInto arcs p == 0⟩

/-- The positions of `ids` in an order in which every node comes before its dependents; none when the
edges form a cycle, which is looked for before any position is placed. -/
def order? (ids : List String) (edges : List Edge) : Option (List Nat) :=
  let arcs := arcs ids edges
  if hasCycle arcs ids.length then none
  else some ((Sweep.start arcs ids.length).run arcs).placed.reverse

end CloudCanvas.Graph
