/-
What the order of a configuration changes inside a declaration: nothing but references to ids that
several nodes carry. Such a reference points at the node that is emitted first, and which one that is
depends on the order.
-/
import CloudCanvas.Proofs.Generation.Ordering

namespace CloudCanvas

open CloudCanvas.Graph CloudCanvas.Hcl

/-! ## References from among permuted targets -/

theorem filterMap_eq_filterMap_iff {α β : Type} {f g : α → Option β} {as : List α}
    (h : ∀ a ∈ as, (f a).isSome = (g a).isSome) :
    as.filterMap f = as.filterMap g ↔ ∀ a ∈ as, f a = g a := by
  induction as with
  | nil => simp
  | cons a rest ih =>
    have hrest := ih fun a' ha => h a' (List.mem_cons_of_mem _ ha)
    have ha := h a (List.mem_cons_self ..)
    rw [List.filterMap_cons, List.filterMap_cons, List.forall_mem_cons]
    cases hf : f a with
    | none =>
      cases hg : g a with
      | none => simpa using hrest
      | some b => rw [hf, hg] at ha; cases ha
    | some b =>
      cases hg : g a with
      | none => rw [hf, hg] at ha; cases ha
      | some b' => rw [List.cons.injEq, Option.some.injEq, hrest]

theorem isSome_find?_of_perm {α : Type} {as bs : List α} (h : as.Perm bs) (p : α → Bool) :
    (as.find? p).isSome = (bs.find? p).isSome := by
  rw [List.isSome_find?, List.isSome_find?]
  exact h.any_eq

section Targets

variable {targets others : List Candidate}

/-- From among permuted targets come the same references exactly when the first target with the id of
each source has the same address. -/
theorem referencesInto_eq_iff (h : targets.Perm others) (id : String) (edges : List Edge) :
    referencesInto targets id edges = referencesInto others id edges ↔
      ∀ edge ∈ edges, edge.target = id →
        (targets.find? fun candidate => candidate.node.id == edge.source).map Candidate.address =
          (others.find? fun candidate => candidate.node.id == edge.source).map Candidate.address := by
  unfold referencesInto
  rw [filterMap_eq_filterMap_iff fun edge _ => ?_]
  · refine forall₂_congr fun edge _ => ?_
    by_cases ht : edge.target = id
    · simp [ht]
    · simp [ht]
  · split
    · rw [Option.isSome_map, Option.isSome_map, isSome_find?_of_perm h]
    · rfl

/-- Targets with different ids are found in any order. -/
theorem find?_eq_of_nodup (h : targets.Perm others) (hn : (targets.map (·.node.id)).Nodup) (id : String) :
    (targets.find? fun candidate => candidate.node.id == id) =
      others.find? fun candidate => candidate.node.id == id := by
  refine List.find?_eq_find?_of_perm h ?_
  rintro a ⟨ha, hai⟩ b ⟨hb, hbi⟩
  rw [beq_iff_eq] at hai hbi
  exact List.inj_on_of_nodup_map hn ha hb (hai.trans hbi.symm)

end Targets

theorem Declaration.closing_inj (tags : List (String × String)) {references others : List String} :
    closing tags references = closing tags others ↔ references = others := by
  unfold closing
  cases references with
  | nil => cases others <;> simp
  | cons r rest => cases others <;> simp

theorem Declaration.finish_inj {d : Declaration} {tags : List (String × String)}
    {references others : List String} :
    d.finish tags references = d.finish tags others ↔ references = others := by
  rw [← closing_inj tags]
  constructor
  · intro h
    exact List.append_cancel_left (congrArg (·.primary.body) h)
  · intro h
    unfold finish
    rw [h]

/-! ## Two orders -/

theorem targets_perm (config : Config) (snapshot : Snapshot) (first second : BlockOrdering) :
    ((config.withOrdering first).targets snapshot).Perm ((config.withOrdering second).targets snapshot) :=
  ((Config.emitted_perm _ _).trans (Config.emitted_perm _ _).symm).map _

/-- A declaration depends on the targets only through which of them has an id first. -/
theorem Config.finish_congr {targets others : List Candidate}
    (h : ∀ id, (targets.find? fun candidate => candidate.node.id == id) =
      others.find? fun candidate => candidate.node.id == id)
    (config : Config) (edges : List Edge) : config.finish edges targets = config.finish edges others := by
  funext e
  unfold finish referencesInto Resolver.target?
  simp only [h]

/-- The order of a configuration matters to references to repeated ids only. Whatever the order, a run
declares the same candidates, in some permutation of their positions. The declarations of one candidate
in two orders have the same blocks beside the primary one, and they are the same exactly when, for each
edge into the node, the first emitted node with the id of the source has the same address in both. So no
declaration changes when the ids of the emitted nodes are different. -/
theorem order_changes_ambiguous_references (config : Config) (snapshot : Snapshot)
    (first second : BlockOrdering) :
    (∀ ordering, ∃ positions : List Nat, positions.Perm (List.range snapshot.candidates.length) ∧
      ((config.withOrdering ordering).run snapshot).finished =
        positions.filterMap ((config.withOrdering ordering).finishedAt snapshot)) ∧
    (∀ position, ((config.withOrdering first).finishedAt snapshot position).isSome =
        ((config.withOrdering second).finishedAt snapshot position).isSome ∧
      ∀ f g, (config.withOrdering first).finishedAt snapshot position = some f →
        (config.withOrdering second).finishedAt snapshot position = some g →
        f.emitted = g.emitted ∧ f.unresolved = g.unresolved ∧
          f.declaration.companions = g.declaration.companions ∧
          (f.declaration = g.declaration ↔
            ∀ edge ∈ snapshot.edges, edge.target = f.emitted.candidate.node.id →
              (((config.withOrdering first).run snapshot).nodes.find? fun node =>
                  node.node.id == edge.source).map Candidate.address =
                (((config.withOrdering second).run snapshot).nodes.find? fun node =>
                  node.node.id == edge.source).map Candidate.address)) ∧
    ((((config.withOrdering first).run snapshot).nodes.map (·.node.id)).Nodup →
      ∀ position, (config.withOrdering first).finishedAt snapshot position =
        (config.withOrdering second).finishedAt snapshot position) := by
  have hperm := targets_perm config snapshot first second
  rw [Config.nodes_run, Config.nodes_run]
  refine ⟨fun ordering => ?_, fun position => ⟨?_, fun f g hf hg => ?_⟩, fun hnodup position => ?_⟩
  · exact ⟨_, Config.positions_perm _ snapshot, Config.finished_run _ _⟩
  · unfold Config.finishedAt
    rw [Option.isSome_map, Option.isSome_map]
  · obtain ⟨e, he, rfl⟩ := Option.map_eq_some_iff.1 hf
    obtain ⟨e', he', rfl⟩ := Option.map_eq_some_iff.1 hg
    obtain rfl : e = e' := Option.some.inj (he.symm.trans he')
    refine ⟨rfl, ?_, rfl, Declaration.finish_inj.trans (referencesInto_eq_iff hperm _ _)⟩
    refine List.filter_congr fun id _ => ?_
    rw [← Option.not_isSome, ← Option.not_isSome]
    exact congrArg (! ·) (isSome_find?_of_perm hperm _)
  · unfold Config.finishedAt
    rw [Config.finish_congr (find?_eq_of_nodup hperm hnodup)]
    rfl

/-- The network that stands before its bucket is declared alike in both orders. -/
theorem invertedCanvas_declares_alike :
    (((Config.default.withOrdering .dependency).run invertedCanvas).nodes.map (·.node.id)).Nodup ∧
      (∀ position, (Config.default.withOrdering .dependency).finishedAt invertedCanvas position =
        (Config.default.withOrdering .input).finishedAt invertedCanvas position) ∧
      ∃ f g, (Config.default.withOrdering .dependency).finishedAt invertedCanvas 0 = some f ∧
        (Config.default.withOrdering .input).finishedAt invertedCanvas 0 = some g ∧
        f.emitted = g.emitted ∧ f.declaration.companions = g.declaration.companions := by
  have hnodup : (((Config.default.withOrdering .dependency).run invertedCanvas).nodes.map
      (·.node.id)).Nodup := by decide +kernel
  obtain ⟨-, hdeclared, hequal⟩ :=
    order_changes_ambiguous_references Config.default invertedCanvas .dependency .input
  obtain ⟨f, hf⟩ : ∃ f, (Config.default.withOrdering .dependency).finishedAt invertedCanvas 0 = some f :=
    Option.isSome_iff_exists.1 (by decide +kernel)
  obtain ⟨g, hg⟩ : ∃ g, (Config.default.withOrdering .input).finishedAt invertedCanvas 0 = some g :=
    Option.isSome_iff_exists.1 (by decide +kernel)
  obtain ⟨hemitted, -, hcompanions, -⟩ := (hdeclared 0).2 f g hf hg
  exact ⟨hnodup, hequal hnodup, f, g, hf, hg, hemitted, hcompanions⟩

/-- Two networks with the same id, the first of which depends on a third one, and a subnet that depends
on that id. -/
def twinCanvas : Snapshot :=
  .ofNodes [⟨"a", "vpc", "First", []⟩, ⟨"a", "vpc", "Second", []⟩, ⟨"b", "vpc", "Base", []⟩,
      ⟨"c", "subnet", "Client", []⟩]
    [⟨"1", "b", "a"⟩, ⟨"2", "a", "c"⟩]

/-- In the order of dependencies the second of the two networks is emitted first, and the subnet comes
to depend on it; in the order of the records it depends on the first. -/
theorem twinCanvas_depends_on_order :
    ∃ f g, (Config.default.withOrdering .dependency).finishedAt twinCanvas 3 = some f ∧
      (Config.default.withOrdering .input).finishedAt twinCanvas 3 = some g ∧ f.emitted = g.emitted ∧
      f.declaration.primary.values "depends_on" = [.references ["aws_vpc.second"]] ∧
      g.declaration.primary.values "depends_on" = [.references ["aws_vpc.first"]] ∧
      f.declaration.blocks ≠ g.declaration.blocks := by
  have hd : ((Config.default.withOrdering .dependency).finishedAt twinCanvas 3).map
      (·.declaration.primary.values "depends_on") = some [.references ["aws_vpc.second"]] := by
    decide +kernel
  have hi : ((Config.default.withOrdering .input).finishedAt twinCanvas 3).map
      (·.declaration.primary.values "depends_on") = some [.references ["aws_vpc.first"]] := by
    decide +kernel
  obtain ⟨f, hf, hfv⟩ := Option.map_eq_some_iff.1 hd
  obtain ⟨g, hg, hgv⟩ := Option.map_eq_some_iff.1 hi
  obtain ⟨e, he, rfl⟩ := Option.map_eq_some_iff.1 hf
  obtain ⟨e', he', rfl⟩ := Option.map_eq_some_iff.1 hg
  refine ⟨_, _, hf, hg, Option.some.inj (he.symm.trans he'), hfv, hgv, fun hblocks => ?_⟩
  have hprimary := (List.cons.inj hblocks).1
  rw [hprimary, hgv] at hfv
  revert hfv
  decide

end CloudCanvas
