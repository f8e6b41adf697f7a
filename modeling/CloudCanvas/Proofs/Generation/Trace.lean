/-
The events of a run tell what its output tells. A run reports while it works, block after block, and its
output is put together apart from that. Each step is shown to report events of its own after those before
it, and to give what the same step of `Config.run` gives. So the events are those of the declarations, the
warnings and the blocks of the output, however the run ends.
-/
import CloudCanvas.Proofs.Generation.Layout
import Mathlib.Data.List.ProdSigma

namespace CloudCanvas

open CloudCanvas.Graph CloudCanvas.Hcl CloudCanvas.Text

/-! ## What work gives and reports -/

/-- Work that gives a value and reports events of its own after those that have been reported. -/
def Gives {α : Type} (work : Reporting α) (a : α) (added : List Event) : Prop :=
  ∀ events, work.run events = (a, events ++ added)

namespace Gives

variable {α β : Type} {work : Reporting α} {next : α → Reporting β} {a : α} {b : β}
  {added more all : List Event}

theorem pure (a : α) : Gives (Pure.pure a) a [] := by
  intro events
  rw [List.append_nil]
  rfl

theorem report (event : Event) : Gives (report event) () [event] :=
  fun _ => rfl

theorem bind (h : Gives work a added) (hnext : Gives (next a) b more) (hall : added ++ more = all) :
    Gives (work >>= next) b all := by
  intro events
  rw [StateT.run_bind, h events, ← hall, ← List.append_assoc]
  exact hnext (events ++ added)

theorem forM {as : List α} {event : α → Event} :
    Gives (as.forM fun a => CloudCanvas.report (event a)) PUnit.unit (as.map event) := by
  induction as with
  | nil => exact pure _
  | cons a rest ih => exact (report _).bind ih rfl

end Gives

/-! ## What each step gives and reports -/

/-- The events about one declaration: references that were left out, then its blocks. -/
def declarationEvents (f : Finished) : List Event :=
  f.unresolved.map .unresolved ++ f.declaration.blocks.map Run.blockEvent

/-- What stands for nothing is reported, and the references are those of `Resolver.resolve`. -/
theorem gives_follow (resolver : Resolver) (ids : List String) (names : Naming.Cache) :
    Gives (resolver.follow ids names)
      ((resolver.resolve ids names).1.references, (resolver.resolve ids names).2)
      ((resolver.resolve ids names).1.unresolved.map .unresolved) := by
  induction ids generalizing names with
  | nil => exact .pure _
  | cons id rest ih =>
    unfold Resolver.follow Resolver.resolve
    cases resolver.target? id with
    | some candidate => exact (ih _).bind (.pure _) (List.append_nil _)
    | none => exact (Gives.report _).bind (ih names) rfl

theorem gives_renderBlocks (blocks : List Block) :
    Gives (renderBlocks blocks) (blocks.map Block.text) (blocks.map Run.blockEvent) := by
  induction blocks with
  | nil => exact .pure _
  | cons block rest ih =>
    exact (Gives.report _).bind (ih.bind (.pure _) (List.append_nil _)) rfl

/-- Rendering goes through the declarations of `finishEach`, by induction on what is emitted. -/
theorem gives_renderEach (config : Config) (edges : List Edge) (resolver : Resolver) (emitted : List Emitted)
    (names : Naming.Cache) :
    Gives (renderEach config edges resolver emitted names)
      ((finishEach config edges resolver emitted names).1.flatMap fun f => f.declaration.blocks.map Block.text)
      ((finishEach config edges resolver emitted names).1.flatMap declarationEvents) := by
  induction emitted generalizing names with
  | nil => exact .pure _
  | cons e rest ih =>
    -- references first, then the blocks of this declaration, then the other declarations
    refine (gives_follow resolver _ names).bind
      ((gives_renderBlocks _).bind ((ih _).bind (.pure _) (List.append_nil _)) rfl) ?_
    rw [finishEach, List.flatMap_cons, declarationEvents, List.append_assoc]

theorem gives_conclude (text : String) (warnings : List Warning) (blocks : Nat) :
    Gives (conclude text warnings blocks) ⟨text, warnings, blocks⟩
      (warnings.map .warning ++ [.completed blocks warnings.length]) :=
  Gives.forM.bind ((Gives.report _).bind (.pure _) rfl) rfl

/-- The output of a run that declares something, put together from what has been rendered. -/
theorem Run.output_declared (finished : List Finished) (warnings : List Warning) (names : Naming.Cache) :
    (⟨.declared finished, warnings, names⟩ : Run).output =
      ⟨"\n\n".intercalate (finished.flatMap fun f => f.declaration.blocks.map Block.text), warnings,
        (finished.flatMap fun f => f.declaration.blocks.map Block.text).length⟩ := by
  rw [← List.map_flatMap, List.length_map]
  rfl

namespace Config

variable (config : Config) (snapshot : Snapshot)

/-- A run gives the output of `Config.generate`, and reports what this says, on each of its three ends. -/
theorem gives_perform :
    Gives (config.perform snapshot) (config.generate snapshot)
      (.started snapshot.nodes.length snapshot.edges.length ::
        ((config.run snapshot).finished.flatMap declarationEvents ++
          ((config.generate snapshot).warnings.map .warning ++
            [.completed (config.generate snapshot).blocks (config.generate snapshot).warnings.length]))) := by
  refine (Gives.report _).bind ?_ rfl
  unfold generate run
  split
  · exact gives_conclude _ _ _
  · dsimp only
    split
    · exact gives_conclude _ _ _
    · rw [Run.output_declared]
      exact (gives_renderEach _ _ _ _ _).bind (gives_conclude _ _ _) rfl

theorem trace_eq :
    config.trace snapshot =
      .started snapshot.nodes.length snapshot.edges.length ::
        ((config.run snapshot).finished.flatMap declarationEvents ++
          ((config.generate snapshot).warnings.map .warning ++
            [.completed (config.generate snapshot).blocks (config.generate snapshot).warnings.length])) :=
  congrArg Prod.snd (config.gives_perform snapshot [])

/-- Of the events about declarations, those of the generation are about blocks. -/
theorem filter_target_trace :
    (config.trace snapshot).filter (·.target == "infragraph::codegen") =
      .started snapshot.nodes.length snapshot.edges.length ::
        ((config.run snapshot).blocks.map Run.blockEvent ++
          ((config.generate snapshot).warnings.map .warning ++
            [.completed (config.generate snapshot).blocks (config.generate snapshot).warnings.length])) := by
  have hdeclarations : ∀ f, (declarationEvents f).filter (·.target == "infragraph::codegen") =
      f.declaration.blocks.map Run.blockEvent := by
    intro f
    simp [declarationEvents, List.filter_map, Function.comp_def, Event.target, Run.blockEvent]
  rw [trace_eq, Run.blocks, List.map_flatMap, List.filter_cons, List.filter_append, List.filter_flatMap]
  simp only [hdeclarations]
  simp [List.filter_map, Function.comp_def, Event.target]

theorem filter_target_ne_trace :
    (config.trace snapshot).filter (·.target != "infragraph::codegen") =
      (config.run snapshot).finished.flatMap fun f => f.unresolved.map .unresolved := by
  have hdeclarations : ∀ f, (declarationEvents f).filter (·.target != "infragraph::codegen") =
      f.unresolved.map .unresolved := by
    intro f
    simp [declarationEvents, List.filter_map, Function.comp_def, Event.target, Run.blockEvent]
  rw [trace_eq, List.filter_cons, List.filter_append, List.filter_flatMap]
  simp only [hdeclarations]
  simp [List.filter_map, Function.comp_def, Event.target]

end Config

/-! ## References that are left out -/

/-- The pairs of a node and an edge into it whose source is the id of none of the nodes. -/
def danglingPairs (nodes : List Candidate) (edges : List Edge) : List (Candidate × Edge) :=
  (nodes ×ˢ edges).filter fun (candidate, edge) =>
    edge.target = candidate.node.id ∧ edge.source ∉ nodes.map (·.node.id)

theorem filter_product {α β : Type} (p : α × β → Bool) (as : List α) (bs : List β) :
    (as ×ˢ bs).filter p = as.flatMap fun a => (bs.filter fun b => p (a, b)).map (Prod.mk a) := by
  show (as.flatMap fun a => bs.map (Prod.mk a)).filter p = _
  rw [List.filter_flatMap]
  refine List.flatMap_congr fun a _ => ?_
  rw [List.filter_map]
  rfl

/-- The references that are left out of a run belong to these pairs, one to each. -/
theorem Config.flatMap_unresolved (config : Config) (snapshot : Snapshot) :
    (config.run snapshot).finished.flatMap Finished.unresolved =
      (danglingPairs (config.run snapshot).nodes snapshot.edges).map fun pair => pair.2.source := by
  have hnone : ∀ source, ((⟨config.targets snapshot⟩ : Resolver).target? source).isNone =
      decide (source ∉ (config.targets snapshot).map (·.node.id)) := by
    intro source
    rw [Bool.eq_iff_iff, Option.isNone_iff_eq_none, decide_eq_true_iff, Resolver.target?_eq_none_iff]
    simp
  rw [nodes_run, (run_spec config snapshot).1, List.flatMap_map, danglingPairs, filter_product,
    List.map_flatMap, targets, List.flatMap_map, ← targets]
  refine List.flatMap_congr fun e _ => ?_
  unfold finish dependencyIds
  rw [List.filter_map, List.filter_filter, List.map_map]
  refine congrArg (List.map Edge.source) (List.filter_congr fun edge _ => ?_)
  rw [Function.comp_apply, hnone, Bool.and_comm]
  dsimp only
  rw [Bool.decide_and]
  rfl

/-! ## Events and output -/

/-- The events of a run tell what its output tells. What the run gives while it reports is the output of
the snapshot. The events of the generation are, in order: that it has started, with the numbers of nodes
and edges; one for each block, with the type and the name in the header of the block, in the order of the
text; one for each warning of the output, with its kind, its node and its message; and that it is completed,
with the numbers of blocks and warnings of the output. All other events say that a reference was dropped,
and there is one of them for each pair of an emitted node and an edge into it whose source is the id of no
emitted node. -/
theorem trace_tells_the_output (config : Config) (snapshot : Snapshot) :
    ((config.perform snapshot).run []).1 = config.generate snapshot ∧
    (∃ declared : List (String × String),
      (lines (config.generate snapshot).text).filter isHeader =
          (declared.map fun (type, name) => declarationHeader type name) ∧
      declared.length = (config.generate snapshot).blocks ∧
      (((config.trace snapshot).filter (·.target == "infragraph::codegen")).map fun e => (e.level, e.fields)) =
        (.info, [("event_type", .string "generation.started"), ("nodes", .ofNat snapshot.nodes.length),
          ("edges", .ofNat snapshot.edges.length),
          ("message", .string "Generating Terraform configuration")]) ::
        ((declared.map fun (type, name) => (.debug, [("event_type", .string "generation.block"),
          ("declaration_type", .string type), ("name", .string name)])) ++
        (((config.generate snapshot).warnings.map fun w => (.warn, [("event_type", .string w.kind.eventType),
          ("node_id", .string (Event.nodeText w.nodeId)), ("kind", .string w.kind.tag),
          ("message", .string w.message)])) ++
        [(.info, [("event_type", .string "generation.completed"),
          ("blocks", .ofNat (config.generate snapshot).blocks),
          ("warnings", .ofNat (config.generate snapshot).warnings.length),
          ("message", .string "Generation complete")])]))) ∧
    (((config.trace snapshot).filter (·.target != "infragraph::codegen")).map fun e => (e.level, e.fields)) =
      (danglingPairs (config.run snapshot).nodes snapshot.edges).map fun (_, edge) =>
        (.debug, [("upstream", .string edge.source),
          ("message", .string "Dropping unresolved dependency reference")]) := by
  refine ⟨congrArg Prod.fst (config.gives_perform snapshot []), ?_, ?_⟩
  · refine ⟨(config.run snapshot).blocks.map fun block => (block.type?.getD "", block.name?.getD ""), ?_, ?_, ?_⟩
    · rw [List.map_map]
      exact Config.filter_isHeader_lines_text config snapshot
    · rw [List.length_map]
      rfl
    · rw [Config.filter_target_trace, List.map_cons, List.map_append, List.map_append, List.map_map,
        List.map_map, List.map_map]
      rfl
  · have hdropped : ((config.run snapshot).finished.flatMap fun f => f.unresolved.map Event.unresolved) =
        ((config.run snapshot).finished.flatMap Finished.unresolved).map Event.unresolved :=
      List.map_flatMap.symm
    rw [Config.filter_target_ne_trace, hdropped, Config.flatMap_unresolved, List.map_map, List.map_map]
    rfl

end CloudCanvas
