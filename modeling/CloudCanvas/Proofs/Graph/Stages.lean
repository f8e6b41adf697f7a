/-
The loop of a sweep, count by count. A stage is where the loop can stand: between two positions, or behind one
that has been taken from the ready ones while some targets of its arcs have still to be counted down. These are
taken in any order.

The invariant is that the count of a position is the number of its open arcs and of its occurrences among the
targets that are left. Every arc is counted once at the start and once when it is followed, parallel arcs
included, so a position that is counted down has a count.
-/
import CloudCanvas.Proofs.Graph.Precedence

namespace CloudCanvas.Graph

/-! ## Edges that count -/

/-- How many edges lead into a position from positions that have not been popped. An edge counts if its two
ends differ and both of them are known, and of parallel edges each one does. -/
def openEdges (ids : List String) (edges : List Edge) (popped : List Nat) (p : Nat) : Nat :=
  edges.countP fun edge => edge.source != edge.target && ids.idxOf? edge.target == some p &&
    (ids.idxOf? edge.source).any fun source => !popped.contains source

theorem openArcs_arcs (ids : List String) (edges : List Edge) (popped : List Nat) (p : Nat) :
    openArcs (arcs ids edges) popped p = openEdges ids edges popped p := by
  unfold openArcs arcs openEdges
  rw [List.countP_filterMap]
  refine List.countP_congr fun edge _ => ?_
  unfold Edge.arc?
  by_cases he : edge.source = edge.target
  · simp [he]
  · cases ids.idxOf? edge.source <;> cases ids.idxOf? edge.target <;> simp [he]

theorem target_lt_of_mem_arcs {ids : List String} {edges : List Edge} {arc : Arc} (h : arc ∈ arcs ids edges) :
    arc.target < ids.length := by
  obtain ⟨s, t, -, -, ht⟩ := leads_arcs_iff.1 h
  exact lt_of_idxOf?_eq_some ht

/-! ## Releasing in any order -/

theorem enqueue_comm (p q : Nat) (ready : List Nat) :
    enqueue p (enqueue q ready) = enqueue q (enqueue p ready) := by
  induction ready with
  | nil => grind [enqueue]
  | cons r rest ih => grind [enqueue]

theorem countDown_comm (p q : Nat) (counts : List Nat) :
    (countDown p (countDown q counts).1).1 = (countDown q (countDown p counts).1).1 := by
  refine List.ext_getElem? fun i => ?_
  rw [getElem?_countDown, getElem?_countDown, getElem?_countDown, getElem?_countDown]
  split <;> split <;> rfl

/-- Whether a position is done does not depend on the counts of the others. -/
theorem countDown_snd_countDown {p q : Nat} (h : p ≠ q) (counts : List Nat) :
    (countDown p (countDown q counts).1).2 = (countDown p counts).2 := by
  rw [Bool.eq_iff_iff, countDown_snd, countDown_snd, getElem?_countDown, if_neg h.symm]

theorem Sweep.release_comm (sweep : Sweep) (p q : Nat) :
    (sweep.release p).release q = (sweep.release q).release p := by
  by_cases h : p = q
  · rw [h]
  · unfold Sweep.release
    dsimp only
    rw [countDown_comm q p, countDown_snd_countDown h, countDown_snd_countDown (Ne.symm h)]
    congr 1
    split <;> split
    · exact enqueue_comm q p sweep.ready
    · rfl
    · rfl
    · rfl

theorem Sweep.foldl_release_eq_of_perm {targets others : List Nat} (h : targets.Perm others) (sweep : Sweep) :
    targets.foldl Sweep.release sweep = others.foldl Sweep.release sweep :=
  have : RightCommutative Sweep.release := ⟨Sweep.release_comm⟩
  h.foldl_eq sweep

/-! ## Stages of the loop -/

/-- Where the loop stands: the sweep so far, the targets that have still to be counted down for the position
that was popped last, and the positions that have ever been pushed, the last one first. -/
structure Stage where
  sweep : Sweep
  pending : List Nat
  pushed : List Nat

/-- The stages that the loop comes to from a start. -/
inductive Stage.Reached (arcs : List Arc) (count : Nat) : Stage → Prop
  /-- Before the loop, the positions without arcs are pushed. -/
  | start : Reached arcs count ⟨.start arcs count, [], (Sweep.start arcs count).ready⟩
  /-- The least ready position is popped, and the targets of its arcs are lined up in some order. -/
  | pop {sweep : Sweep} {position : Nat} {ready targets pushed : List Nat}
      (before : Reached arcs count ⟨sweep, [], pushed⟩) (hready : sweep.ready = position :: ready)
      (htargets : targets.Perm (targetsOf arcs position)) :
      Reached arcs count ⟨{ sweep with placed := position :: sweep.placed, ready }, targets, pushed⟩
  /-- The next target is counted down, and pushed if it waits for nothing else. -/
  | lower {sweep : Sweep} {target : Nat} {pending pushed : List Nat}
      (before : Reached arcs count ⟨sweep, target :: pending, pushed⟩) :
      Reached arcs count ⟨sweep.release target, pending,
        if (countDown target sweep.waiting).2 then target :: pushed else pushed⟩

namespace Stage

variable {arcs : List Arc} {count : Nat} {stage : Stage}

/-- What holds at every stage over `count` positions. -/
structure Sound (arcs : List Arc) (count : Nat) (stage : Stage) : Prop extends stage.sweep.Sound count where
  counts : ∀ p < count,
    stage.sweep.waiting[p]? = some (openArcs arcs stage.sweep.placed p + stage.pending.count p)
  bounded : ∀ p ∈ stage.pending, p < count
  history : stage.pushed.Perm (stage.sweep.ready ++ stage.sweep.placed)
  /-- The rest of the loop ends where the whole loop does. -/
  onward : (stage.pending.foldl Sweep.release stage.sweep).run arcs = (Sweep.start arcs count).run arcs

theorem sound_start (arcs : List Arc) (count : Nat) :
    Sound arcs count ⟨.start arcs count, [], (Sweep.start arcs count).ready⟩ := by
  refine ⟨Sweep.sound_start arcs count, (Sweep.exact_start arcs count).counts, List.forall_mem_nil _, ?_, rfl⟩
  show (Sweep.start arcs count).ready.Perm ((Sweep.start arcs count).ready ++ [])
  rw [List.append_nil]

/-- Popping a position closes its arcs, and their targets are lined up instead. -/
theorem Sound.pop (hlt : ∀ arc ∈ arcs, arc.target < count) {sweep : Sweep} {position : Nat}
    {ready targets pushed : List Nat}
    (h : Sound arcs count ⟨sweep, [], pushed⟩) (hready : sweep.ready = position :: ready)
    (htargets : targets.Perm (targetsOf arcs position)) :
    Sound arcs count ⟨{ sweep with placed := position :: sweep.placed, ready }, targets, pushed⟩ := by
  have hperm : (ready ++ position :: sweep.placed).Perm (sweep.ready ++ sweep.placed) := by
    rw [hready]
    exact List.perm_middle
  have hnew : position ∉ sweep.placed := by
    have hnodup := hperm.nodup_iff.2 h.nodup
    exact (List.nodup_cons.1 (List.nodup_append.1 hnodup).2.1).1
  refine ⟨⟨h.length, hperm.nodup_iff.2 h.nodup, fun p hp => h.settled p (hperm.mem_iff.1 hp)⟩, fun p hp => ?_,
    fun p hp => ?_, h.history.trans hperm.symm, ?_⟩
  · have hcount := h.counts p hp
    rw [openArcs_cons hnew] at hcount
    rw [htargets.count_eq]
    exact hcount
  · obtain ⟨arc, harc, rfl⟩ := List.mem_map.1 (htargets.mem_iff.1 hp)
    exact hlt arc (List.mem_filter.1 harc).1
  · have hstep : sweep.step? arcs = some ((targetsOf arcs position).foldl Sweep.release
        { sweep with placed := position :: sweep.placed, ready }) := by
      unfold Sweep.step?
      rw [hready]
    have hrun : sweep.run arcs = (Sweep.start arcs count).run arcs := h.onward
    rw [Sweep.run, hstep] at hrun
    dsimp only
    rw [Sweep.foldl_release_eq_of_perm htargets]
    exact hrun

/-- Counting a target down takes it off the list and one off its count. -/
theorem Sound.lower {sweep : Sweep} {target : Nat} {pending pushed : List Nat}
    (h : Sound arcs count ⟨sweep, target :: pending, pushed⟩) :
    Sound arcs count ⟨sweep.release target, pending,
      if (countDown target sweep.waiting).2 then target :: pushed else pushed⟩ := by
  refine ⟨h.toSound.release target, fun p hp => ?_, fun p hp => h.bounded p (List.mem_cons_of_mem _ hp), ?_,
    h.onward⟩
  · have hcount := h.counts p hp
    dsimp only at hcount ⊢
    rw [Sweep.getElem?_waiting_release, hcount, List.count_cons]
    by_cases ht : target = p
    · rw [if_pos ht, ht, beq_self_eq_true, if_pos rfl]
      rfl
    · rw [if_neg ht, beq_false_of_ne ht, if_neg Bool.false_ne_true]
      rfl
  · unfold Sweep.release
    dsimp only
    split
    · exact (h.history.cons target).trans ((enqueue_perm target sweep.ready).append_right sweep.placed).symm
    · exact h.history

/-- Every stage that the loop comes to is sound, by induction on the way there. -/
theorem Reached.sound (hlt : ∀ arc ∈ arcs, arc.target < count) (h : Reached arcs count stage) :
    stage.Sound arcs count := by
  induction h with
  | start => exact sound_start arcs count
  | pop _ hready htargets ih => exact Sound.pop hlt ih hready htargets
  | lower _ ih => exact ih.lower

/-! ## The end of the loop -/

theorem Reached.exists_lowered {sweep : Sweep} {pending pushed : List Nat}
    (h : Reached arcs count ⟨sweep, pending, pushed⟩) :
    ∃ later, Reached arcs count ⟨pending.foldl Sweep.release sweep, [], later⟩ := by
  induction pending generalizing sweep pushed with
  | nil => exact ⟨pushed, h⟩
  | cons target rest ih => exact ih h.lower

/-- From between two positions the loop comes to its end. -/
theorem Reached.exists_run {sweep : Sweep} {pushed : List Nat} (h : Reached arcs count ⟨sweep, [], pushed⟩) :
    ∃ later, Reached arcs count ⟨sweep.run arcs, [], later⟩ := by
  induction sweep using Sweep.run.induct arcs generalizing pushed with
  | case1 sweep hs =>
    rw [Sweep.run, hs]
    exact ⟨pushed, h⟩
  | case2 sweep after hs ih =>
    have hstep := hs
    unfold Sweep.step? at hstep
    split at hstep
    · cases hstep
    · rename_i position ready hready
      obtain ⟨later, hlater⟩ := (h.pop hready (List.Perm.refl _)).exists_lowered
      rw [Option.some.inj hstep] at hlater
      rw [Sweep.run, hs]
      exact ih hlater

/-- When nothing is ready and nothing is left to be counted down, the sweep has come to its end. -/
theorem Sound.eq_run (h : stage.Sound arcs count) (hpending : stage.pending = [])
    (hready : stage.sweep.ready = []) : stage.sweep = (Sweep.start arcs count).run arcs := by
  have hend : stage.sweep.run arcs = stage.sweep := by
    rw [Sweep.run]
    unfold Sweep.step?
    rw [hready]
  have honward := h.onward
  rw [hpending] at honward
  exact hend.symm.trans honward

end Stage

/-! ## Safety -/

namespace Stage

variable {ids : List String} {edges : List Edge} {stage : Stage}

/-- What makes a stage of the loop over a list of ids safe. -/
structure Safe (ids : List String) (edges : List Edge) (stage : Stage) : Prop where
  /-- The count of a position is the number of edges into it from positions that have not been popped; while
  targets are left to be counted down, these come on top. -/
  counts : ∀ p < ids.length, stage.sweep.waiting[p]? =
    some (openEdges ids edges stage.sweep.placed p + stage.pending.count p)
  /-- There is a count for every target that is left, and it is not zero. -/
  positive : ∀ p ∈ stage.pending, p < ids.length ∧ ∃ n, stage.sweep.waiting[p]? = some (n + 1)
  bounded : ∀ p ∈ stage.sweep.ready ++ stage.sweep.placed, p < ids.length
  /-- What has been pushed was pushed once, and is ready or popped. -/
  once : stage.pushed.Nodup ∧ stage.pushed.Perm (stage.sweep.ready ++ stage.sweep.placed)
  popped_le : stage.sweep.placed.length ≤ ids.length
  /-- What is left of the loop leads to where the sweep ends. -/
  onward : (stage.pending.foldl Sweep.release stage.sweep).run (arcs ids edges) =
    (Sweep.start (arcs ids edges) ids.length).run (arcs ids edges)

theorem Sound.safe (h : stage.Sound (arcs ids edges) ids.length) : stage.Safe ids edges := by
  have hle := h.length_le
  rw [List.length_append] at hle
  refine ⟨fun p hp => ?_, fun p hp => ⟨h.bounded p hp, ?_⟩, h.lt_of_mem,
    ⟨h.history.nodup_iff.2 h.nodup, h.history⟩, by omega, h.onward⟩
  · rw [← openArcs_arcs]
    exact h.counts p hp
  · -- the target itself is among those that are left
    obtain ⟨n, hn⟩ := Nat.exists_eq_add_one_of_ne_zero (List.count_pos_iff.2 hp).ne'
    rw [h.counts p (h.bounded p hp), hn]
    exact ⟨_, rfl⟩

end Stage

/-- Without a cycle the sweep places as many positions as there are, and these are the order. -/
theorem order?_of_not_cyclic {ids : List String} {edges : List Edge} (h : ¬ Cyclic ids edges) :
    (lastSweep ids edges).placed.length = ids.length ∧
      order? ids edges = some (lastSweep ids edges).placed.reverse := by
  refine ⟨(placed_perm_of_not_cyclic h).length_eq.trans List.length_range, ?_⟩
  cases ho : order? ids edges with
  | none => exact absurd (order?_eq_none_iff.1 ho) h
  | some order => rw [eq_placed_of_order? ho]

/-- The loop that puts ids into order is safe, for all ids and edges and in whichever order the targets of a
position are taken. At every stage the count of a position is the number of edges into it from positions that
have not been popped, and of targets that are left; so no count that is taken down is zero. Every position is
in range, none is pushed twice, and no more are popped than there are. Without a cycle the loop goes on just
until as many positions have been popped as there are ids; it comes to that point, and what it has popped is
the order. -/
theorem sweep_is_safe (ids : List String) (edges : List Edge) :
    (∀ stage, Stage.Reached (arcs ids edges) ids.length stage → stage.Safe ids edges) ∧
    (¬ Cyclic ids edges →
      (∀ stage, Stage.Reached (arcs ids edges) ids.length stage → stage.pending = [] →
        (stage.sweep.ready = [] ↔ stage.sweep.placed.length = ids.length)) ∧
      ∃ stage, Stage.Reached (arcs ids edges) ids.length stage ∧ stage.pending = [] ∧
        stage.sweep.ready = [] ∧ order? ids edges = some stage.sweep.placed.reverse) := by
  have hsound : ∀ stage, Stage.Reached (arcs ids edges) ids.length stage →
      stage.Sound (arcs ids edges) ids.length :=
    fun stage h => h.sound fun _ => target_lt_of_mem_arcs
  refine ⟨fun stage h => (hsound stage h).safe, fun hacyclic => ?_⟩
  obtain ⟨hlength, horder⟩ := order?_of_not_cyclic hacyclic
  refine ⟨fun stage h hpending => ⟨fun hready => ?_, fun hall => ?_⟩, ?_⟩
  · rw [(hsound stage h).eq_run hpending hready]
    exact hlength
  · have hle := (hsound stage h).length_le
    rw [List.length_append, hall] at hle
    exact List.eq_nil_of_length_eq_zero (by omega)
  · have hstart : Stage.Reached (arcs ids edges) ids.length
        ⟨.start (arcs ids edges) ids.length, [], (Sweep.start (arcs ids edges) ids.length).ready⟩ := .start
    obtain ⟨pushed, hlast⟩ := hstart.exists_run
    exact ⟨_, hlast, rfl, ready_lastSweep ids edges, horder⟩

/-- Two parallel edges, an edge from a node to itself and one from an unknown node. -/
def parallelEdges : List Edge :=
  [⟨"e", "a", "b"⟩, ⟨"f", "a", "b"⟩, ⟨"g", "b", "b"⟩, ⟨"h", "x", "b"⟩]

/-- When the first of two nodes with the id `a` has been popped and one of the parallel edges has been followed,
the other one is left to be counted down. -/
theorem parallelEdges_count_each :
    ∃ stage, Stage.Reached (arcs ["a", "b", "a"] parallelEdges) 3 stage ∧ stage.pending = [1] ∧
      (∃ n, stage.sweep.waiting[1]? = some (n + 1)) ∧
      ¬ Cyclic ["a", "b", "a"] parallelEdges ∧
      ∃ last, Stage.Reached (arcs ["a", "b", "a"] parallelEdges) 3 last ∧ last.sweep.placed.length = 3 := by
  obtain ⟨hsafe, hend⟩ := sweep_is_safe ["a", "b", "a"] parallelEdges
  have hpopped : Stage.Reached (arcs ["a", "b", "a"] parallelEdges) 3
      ⟨⟨[0], [0, 2, 0], [2]⟩, [1, 1], [0, 2]⟩ :=
    .pop .start rfl (List.Perm.refl [1, 1])
  have hacyclic : ¬ Cyclic ["a", "b", "a"] parallelEdges := by
    rw [← order?_eq_none_iff]
    decide +kernel
  obtain ⟨hcount, last, hlast, hpending, hready, -⟩ := hend hacyclic
  exact ⟨_, hpopped.lower, rfl, ((hsafe _ hpopped.lower).positive 1 (List.mem_singleton_self 1)).2, hacyclic,
    last, hlast, (hcount last hlast hpending).1 hready⟩

end CloudCanvas.Graph
