/-
What the order of a configuration changes. The candidates of a snapshot have positions, and an order is
a permutation of these: that of the records, or one in which the source of every edge comes before its
target. When the edges form a cycle there is no such permutation, and the order of the records stays.

The declaration of a candidate does not depend on the order, with one exception: when several nodes carry
the same id, a reference to that id points at the one that is emitted first.
-/
import CloudCanvas.Proofs.Generation.Accounting
import CloudCanvas.Proofs.Graph.Precedence
import Mathlib.Data.List.Find

namespace CloudCanvas

open CloudCanvas.Graph

/-! ## Positions -/

/-- The well-formed nodes of a supported kind, in the order of the records. -/
def Graph.Snapshot.candidates (snapshot : Snapshot) : List Candidate :=
  accepted (snapshot.nodes.map Record.screen)

/-- The ids of the candidates. -/
def Graph.Snapshot.ids (snapshot : Snapshot) : List String :=
  snapshot.candidates.map (·.node.id)

/-- The positions of the candidates in the order of a configuration. -/
def Config.positions (config : Config) (snapshot : Snapshot) : List Nat :=
  match config.ordering with
  | .input => List.range snapshot.candidates.length
  | .dependency =>
    (order? snapshot.ids snapshot.edges).getD (List.range snapshot.candidates.length)

/-- The declaration of the candidate at a position; none when it cannot be declared. -/
def Graph.Snapshot.emittedAt (snapshot : Snapshot) (position : Nat) : Option Emitted :=
  snapshot.candidates[position]?.bind fun candidate => candidate.declare.toOption

/-- The declaration of the candidate at a position with its tags and references. -/
def Config.finishedAt (config : Config) (snapshot : Snapshot) (position : Nat) : Option Finished :=
  (snapshot.emittedAt position).map (config.finish snapshot.edges (config.targets snapshot))

theorem accepted_map {ε α β : Type} (f : α → Except ε β) (as : List α) :
    accepted (as.map f) = as.filterMap fun a => (f a).toOption := by
  unfold accepted
  rw [List.filterMap_map]
  refine List.filterMap_congr fun a _ => ?_
  rw [Function.comp_apply]
  cases f a <;> rfl

namespace Config

variable (config : Config) (snapshot : Snapshot)

theorem positions_perm :
    (config.positions snapshot).Perm (List.range snapshot.candidates.length) := by
  unfold positions
  split
  · exact List.Perm.refl _
  · cases ho : order? snapshot.ids snapshot.edges with
    | none => exact List.Perm.refl _
    | some order =>
      have h := perm_of_order? ho
      rw [Snapshot.ids, List.length_map] at h
      exact h

theorem candidates_eq_filterMap :
    config.candidates snapshot =
      (config.positions snapshot).filterMap fun position => snapshot.candidates[position]? := by
  have hinput := filterMap_getElem?_range (accepted (snapshot.nodes.map Record.screen))
  unfold candidates positions arrange Snapshot.ids Snapshot.candidates
  cases config.ordering with
  | input => exact hinput.symm
  | dependency =>
    dsimp only
    split
    · rename_i order ho
      rw [ho]
      rfl
    · rename_i ho
      rw [ho]
      exact hinput.symm

/-- The declarations of a run are those of the candidates, position by position. -/
theorem finished_run :
    (config.run snapshot).finished =
      (config.positions snapshot).filterMap (config.finishedAt snapshot) := by
  rw [(run_spec config snapshot).1, emitted, candidates_eq_filterMap, accepted_map,
    List.filterMap_filterMap, List.map_filterMap]
  rfl

/-- Runs in which the candidates come in one order end alike. -/
theorem outcome_withOrdering {config : Config} {snapshot : Snapshot} {first second : BlockOrdering}
    (h : (arrange first snapshot.edges snapshot.candidates).1 =
      (arrange second snapshot.edges snapshot.candidates).1) :
    ((config.withOrdering first).run snapshot).outcome =
      ((config.withOrdering second).run snapshot).outcome := by
  rw [Snapshot.candidates, ← filterMap_candidate?] at h
  unfold run withOrdering
  dsimp only
  -- the two runs differ in the warnings of `arrange` only
  generalize arrange first snapshot.edges (snapshot.nodes.filterMap Record.candidate?) = one at h ⊢
  generalize arrange second snapshot.edges (snapshot.nodes.filterMap Record.candidate?) = other at h ⊢
  obtain ⟨candidates, warnings⟩ := one
  obtain ⟨candidates', warnings'⟩ := other
  subst h
  dsimp only
  split
  · rfl
  · split
    · rfl
    · rw [finishEach_spec _ _ _ _ (emitEach_spec _ Naming.Cache.faithful_empty).2,
        finishEach_spec _ _ _ _ (emitEach_spec _ Naming.Cache.faithful_empty).2]
      rfl

end Config

theorem Run.text_eq_of_outcome {run other : Run} (h : run.outcome = other.outcome) : run.text = other.text := by
  unfold text blocks finished
  rw [h]

/-! ## Cycles -/

section Cycles

variable {config : Config} {snapshot : Snapshot}

theorem arrange_of_cyclic (h : Cyclic snapshot.ids snapshot.edges) :
    arrange .dependency snapshot.edges snapshot.candidates = (snapshot.candidates, [cycleWarning]) := by
  have ho : order? (snapshot.candidates.map (·.node.id)) snapshot.edges = none := order?_eq_none_iff.2 h
  unfold arrange
  rw [ho]

theorem exists_order_of_not_cyclic (h : ¬ Cyclic snapshot.ids snapshot.edges) :
    ∃ order, order? snapshot.ids snapshot.edges = some order ∧
      (arrange .dependency snapshot.edges snapshot.candidates).2 = [] := by
  cases ho : order? snapshot.ids snapshot.edges with
  | none => exact absurd (order?_eq_none_iff.1 ho) h
  | some order =>
    rw [Snapshot.ids] at ho
    refine ⟨order, rfl, ?_⟩
    unfold arrange
    rw [ho]

/-- Of the warnings that a run adds, those about cycles are the ones that come with the order. -/
theorem Config.exists_added (config : Config) (snapshot : Snapshot) :
    ∃ added, (config.run snapshot).warnings = snapshot.loadWarnings ++ added ∧
      (added.filter fun w => w.kind == .dependencyCycle) =
        (arrange config.ordering snapshot.edges snapshot.candidates).2 := by
  refine ⟨config.added snapshot, config.warnings_run snapshot, ?_⟩
  have hfilter := config.filter_added snapshot (p := (· == .dependencyCycle)) (by decide) (by decide)
  rw [Snapshot.candidates]
  simpa using hfilter

end Cycles

/-! ## Dependencies first -/

/-- What stands at a position comes before what stands at a later one, with all of its blocks. -/
theorem Config.blocks_of_positions {config : Config} {snapshot : Snapshot} {i j : Nat}
    {before between after : List Nat}
    (hp : config.positions snapshot = before ++ i :: (between ++ j :: after)) {f g : Finished}
    (hf : config.finishedAt snapshot i = some f) (hg : config.finishedAt snapshot j = some g) :
    ∃ earlier middle later, (config.run snapshot).blocks =
      earlier ++ f.declaration.blocks ++ middle ++ g.declaration.blocks ++ later := by
  unfold Run.blocks
  rw [finished_run, hp]
  simp only [List.filterMap_append, List.filterMap_cons, hf, hg, List.flatMap_append, List.flatMap_cons]
  simp only [← List.append_assoc]
  exact ⟨_, _, _, rfl⟩

/-- Dependencies come first in the order of dependencies. With the ids of all candidates and the edges
between two different ones, a run adds exactly one warning about a cycle, about no node in particular,
when these edges form a cycle, and none otherwise. With a cycle the text is that of the order of the
records. Without one the emitted nodes are a permutation of those in the order of the records, and for
each edge the first candidate with the id of its source stands before the first candidate with the id of
its target: all blocks of the one come before all blocks of the other, if both are declared. -/
theorem dependencies_come_first (config : Config) (snapshot : Snapshot) :
    (∃ added, ((config.withOrdering .dependency).generate snapshot).warnings =
        snapshot.loadWarnings ++ added ∧
      (Cyclic snapshot.ids snapshot.edges → ∃ message,
        (added.filter fun w => w.kind == .dependencyCycle) = [⟨none, .dependencyCycle, message⟩]) ∧
      (¬ Cyclic snapshot.ids snapshot.edges →
        (added.filter fun w => w.kind == .dependencyCycle) = [])) ∧
    (Cyclic snapshot.ids snapshot.edges →
      ((config.withOrdering .dependency).generate snapshot).text =
        ((config.withOrdering .input).generate snapshot).text) ∧
    (¬ Cyclic snapshot.ids snapshot.edges →
      ((config.withOrdering .dependency).run snapshot).nodes.Perm
          ((config.withOrdering .input).run snapshot).nodes ∧
      ∃ positions, positions.Perm (List.range snapshot.candidates.length) ∧
        ((config.withOrdering .dependency).run snapshot).finished =
          positions.filterMap ((config.withOrdering .dependency).finishedAt snapshot) ∧
        ∀ s t, Precedes snapshot.ids snapshot.edges s t →
          ∃ i j before between after, snapshot.ids.idxOf? s = some i ∧ snapshot.ids.idxOf? t = some j ∧
            positions = before ++ i :: (between ++ j :: after) ∧
            ∀ f g, (config.withOrdering .dependency).finishedAt snapshot i = some f →
              (config.withOrdering .dependency).finishedAt snapshot j = some g →
              ∃ earlier middle later, ((config.withOrdering .dependency).run snapshot).blocks =
                earlier ++ f.declaration.blocks ++ middle ++ g.declaration.blocks ++ later) := by
  refine ⟨?_, fun hcyclic => ?_, fun hacyclic => ⟨?_, ?_⟩⟩
  · obtain ⟨added, hadded, hfilter⟩ := (config.withOrdering .dependency).exists_added snapshot
    refine ⟨added, hadded, fun hcyclic => ⟨cycleWarning.message, ?_⟩, fun hacyclic => ?_⟩
    · rw [hfilter]
      exact congrArg Prod.snd (arrange_of_cyclic hcyclic)
    · obtain ⟨-, -, harrange⟩ := exists_order_of_not_cyclic hacyclic
      rw [hfilter]
      exact harrange
  · refine Run.text_eq_of_outcome (Config.outcome_withOrdering ?_)
    rw [arrange_of_cyclic hcyclic]
    rfl
  · rw [Config.nodes_run, Config.nodes_run]
    exact ((Config.emitted_perm _ _).trans (Config.emitted_perm _ _).symm).map _
  · obtain ⟨order, horder, -⟩ := exists_order_of_not_cyclic hacyclic
    have hpositions : (config.withOrdering .dependency).positions snapshot = order := by
      unfold Config.positions Config.withOrdering
      dsimp only
      rw [horder]
      rfl
    refine ⟨order, ?_, ?_, fun s t hst => ?_⟩
    · rw [← hpositions]
      exact Config.positions_perm _ _
    · rw [← hpositions]
      exact Config.finished_run _ _
    · obtain ⟨i, j, before, between, after, hi, hj, hsplit⟩ := split_of_order? horder hst
      refine ⟨i, j, before, between, after, hi, hj, hsplit, fun f g hf hg => ?_⟩
      exact Config.blocks_of_positions (hpositions.trans hsplit) hf hg

/-- A network that stands before the bucket on which it depends. -/
def invertedCanvas : Snapshot :=
  .ofNodes [⟨"n", "vpc", "Net", []⟩, ⟨"b", "s3", "Assets", [("versioning", .boolean true)]⟩]
    [⟨"1", "b", "n"⟩, ⟨"2", "n", "n"⟩, ⟨"3", "ghost", "b"⟩]

/-- Two networks that depend on each other. -/
def knottedCanvas : Snapshot :=
  .ofNodes [⟨"a", "vpc", "A", []⟩, ⟨"b", "vpc", "B", []⟩] [⟨"1", "a", "b"⟩, ⟨"2", "b", "a"⟩]

/-- The blocks of the bucket come before that of the network, and the knot stays as it is. -/
theorem invertedCanvas_is_ordered :
    (Precedes invertedCanvas.ids invertedCanvas.edges "b" "n" ∧
      ¬ Cyclic invertedCanvas.ids invertedCanvas.edges ∧ ∃ f g earlier middle later,
        (Config.default.withOrdering .dependency).finishedAt invertedCanvas 1 = some f ∧
        (Config.default.withOrdering .dependency).finishedAt invertedCanvas 0 = some g ∧
        ((Config.default.withOrdering .dependency).run invertedCanvas).blocks =
          earlier ++ f.declaration.blocks ++ middle ++ g.declaration.blocks ++ later) ∧
    Cyclic knottedCanvas.ids knottedCanvas.edges ∧
      ((Config.default.withOrdering .dependency).generate knottedCanvas).text =
        ((Config.default.withOrdering .input).generate knottedCanvas).text := by
  have hprecedes : Precedes invertedCanvas.ids invertedCanvas.edges "b" "n" :=
    ⟨by decide, by decide +kernel, by decide +kernel, ⟨"1", "b", "n"⟩, by decide +kernel, rfl, rfl⟩
  have hacyclic : ¬ Cyclic invertedCanvas.ids invertedCanvas.edges := by
    rw [← order?_eq_none_iff]
    decide +kernel
  have hcyclic : Cyclic knottedCanvas.ids knottedCanvas.edges :=
    order?_eq_none_iff.1 (by decide +kernel)
  refine ⟨⟨hprecedes, hacyclic, ?_⟩, hcyclic,
    (dependencies_come_first Config.default knottedCanvas).2.1 hcyclic⟩
  obtain ⟨-, positions, -, -, hbefore⟩ :=
    (dependencies_come_first Config.default invertedCanvas).2.2 hacyclic
  obtain ⟨i, j, _, _, _, hi, hj, -, hblocks⟩ := hbefore "b" "n" hprecedes
  have hi' : invertedCanvas.ids.idxOf? "b" = some 1 := by decide +kernel
  have hj' : invertedCanvas.ids.idxOf? "n" = some 0 := by decide +kernel
  obtain rfl : 1 = i := Option.some.inj (hi'.symm.trans hi)
  obtain rfl : 0 = j := Option.some.inj (hj'.symm.trans hj)
  obtain ⟨f, hf⟩ : ∃ f, (Config.default.withOrdering .dependency).finishedAt invertedCanvas 1 = some f :=
    Option.isSome_iff_exists.1 (by decide +kernel)
  obtain ⟨g, hg⟩ : ∃ g, (Config.default.withOrdering .dependency).finishedAt invertedCanvas 0 = some g :=
    Option.isSome_iff_exists.1 (by decide +kernel)
  obtain ⟨earlier, middle, later, h⟩ := hblocks f g hf hg
  exact ⟨f, g, earlier, middle, later, hf, hg, h⟩

end CloudCanvas
