/-
Validated nodes in place of the records that they come from. A record that is well-formed can be exchanged for
the record of its node: it denotes the same node, is screened alike and is checked alike, so neither a
generation nor a check tells the two apart.
-/
import CloudCanvas.Compliance.Report
import CloudCanvas.Proofs.Generation.Run

namespace CloudCanvas

open CloudCanvas.Graph

namespace Graph

/-! ## Records of nodes -/

theorem Record.present?_some {s : String} :
    present? (some s) = if Text.isBlank s then none else some s := by
  unfold present?
  cases hblank : Text.isBlank s <;> simp [hblank]

/-- A text that is present is not blank. -/
theorem Record.isBlank_of_present? {text? : Option String} {s : String} (h : present? text? = some s) :
    Text.isBlank s = false := by
  obtain ⟨-, hs⟩ := Option.filter_eq_some_iff.1 h
  simpa using hs

namespace Node

/-- The record of a node denotes the node, unless there is something blank about it. -/
theorem toNode_toRecord (node : Node) :
    node.toRecord.toNode =
      if Text.isBlank node.id then .error .noId
      else if Text.isBlank node.kind then .error (.noKind node.id)
      else .ok node := by
  unfold toRecord Record.toNode
  dsimp only
  rw [Record.present?_some, Record.present?_some]
  cases Text.isBlank node.id <;> cases Text.isBlank node.kind <;> rfl

theorem toNode_toRecord_eq_ok_iff {node : Node} :
    node.toRecord.toNode = .ok node ↔ Text.isBlank node.id = false ∧ Text.isBlank node.kind = false := by
  rw [toNode_toRecord]
  cases Text.isBlank node.id <;> cases Text.isBlank node.kind <;> simp

end Node

namespace Record

theorem isBlank_of_toNode {record : Record} {node : Node} (h : record.toNode = .ok node) :
    Text.isBlank node.id = false ∧ Text.isBlank node.kind = false := by
  unfold toNode at h
  split at h
  · cases h
  · rename_i id hid
    split at h
    · cases h
    · rename_i kind hkind
      split at h
      · cases h
      · split at h
        · cases h
        · cases h
          exact ⟨isBlank_of_present? hid, isBlank_of_present? hkind⟩

/-- The node of a record has a record that denotes it again. -/
theorem toNode_toRecord_of_toNode {record : Record} {node : Node} (h : record.toNode = .ok node) :
    node.toRecord.toNode = .ok node :=
  Node.toNode_toRecord_eq_ok_iff.2 (isBlank_of_toNode h)

/-- The record of the node, for a record that has one. -/
def validated (record : Record) : Record :=
  match record.toNode with
  | .ok node => node.toRecord
  | .error _ => record

theorem validated_of_toNode {record : Record} {node : Node} (h : record.toNode = .ok node) :
    record.validated = node.toRecord := by
  unfold validated
  rw [h]

/-- What sees a well-formed record only through its node does not see the record of that node. -/
theorem apply_validated {α : Type} {f : Record → α}
    (hf : ∀ record other node, record.toNode = .ok node → other.toNode = .ok node → f record = f other)
    (record : Record) : f record.validated = f record := by
  cases hnode : record.toNode with
  | error defect =>
    unfold validated
    rw [hnode]
  | ok node =>
    rw [validated_of_toNode hnode]
    exact hf _ _ node (toNode_toRecord_of_toNode hnode) hnode

theorem screen_validated (record : Record) : record.validated.screen = record.screen :=
  apply_validated (fun _ _ _ h h' => by unfold screen; rw [h, h']) record

theorem report?_validated (record : Record) : record.validated.report? = record.report? :=
  apply_validated (fun _ _ _ h h' => by unfold report?; rw [h, h']) record

theorem skipped?_validated (record : Record) : record.validated.skipped? = record.skipped? :=
  apply_validated (fun _ _ _ h h' => by unfold skipped?; rw [h, h']) record

end Record

/-! ## Snapshots of nodes -/

namespace Snapshot

/-- The snapshot with the record of its node in place of every record that has one. -/
def validated (snapshot : Snapshot) : Snapshot :=
  { snapshot with nodes := snapshot.nodes.map Record.validated }

theorem map_validated_of_toNode {records : List Record} {nodes : List Node}
    (h : records.map Record.toNode = nodes.map .ok) : records.map Record.validated = nodes.map Node.toRecord := by
  induction nodes generalizing records with
  | nil =>
    rw [List.map_eq_nil_iff.1 h]
    rfl
  | cons node rest ih =>
    obtain ⟨record, others, rfl, hnode, hothers⟩ := List.map_eq_cons_iff.1 h
    rw [List.map_cons, List.map_cons, Record.validated_of_toNode hnode, ih hothers]

/-- When every record denotes a node and nothing was dropped, the nodes and the edges are all that there is. -/
theorem validated_eq_ofNodes {snapshot : Snapshot} {nodes : List Node}
    (hnodes : snapshot.nodes.map Record.toNode = nodes.map .ok) (hwarnings : snapshot.loadWarnings = []) :
    snapshot.validated = .ofNodes nodes snapshot.edges := by
  unfold validated ofNodes
  rw [map_validated_of_toNode hnodes, hwarnings]

/-- A check reports the same about validated records. -/
theorem check_validated (snapshot : Snapshot) : snapshot.validated.check = snapshot.check := by
  have hreports : Record.report? ∘ Record.validated = Record.report? :=
    funext Record.report?_validated
  have hskipped : Record.skipped? ∘ Record.validated = Record.skipped? :=
    funext Record.skipped?_validated
  unfold check validated
  rw [List.filterMap_map, List.filterMap_map, hreports, hskipped]

end Snapshot

end Graph

/-! ## Runs -/

/-- A run sees the records of a snapshot only through their screening. -/
theorem Config.run_congr {snapshot other : Snapshot}
    (hnodes : other.nodes.map Record.screen = snapshot.nodes.map Record.screen)
    (hedges : other.edges = snapshot.edges) (hwarnings : other.loadWarnings = snapshot.loadWarnings)
    (config : Config) : config.run other = config.run snapshot := by
  have hempty : other.nodes.isEmpty = snapshot.nodes.isEmpty := by
    rw [← List.isEmpty_map (f := Record.screen), hnodes, List.isEmpty_map]
  unfold run Snapshot.isEmptyGraph
  rw [hempty, hedges, hwarnings, filterMap_candidate?, filterMap_candidate?, filterMap_warning?,
    filterMap_warning?, hnodes]

theorem Config.run_validated (config : Config) (snapshot : Snapshot) :
    config.run snapshot.validated = config.run snapshot := by
  have hnodes : snapshot.validated.nodes.map Record.screen = snapshot.nodes.map Record.screen := by
    unfold Snapshot.validated
    rw [List.map_map]
    exact List.map_congr_left fun record _ => record.screen_validated
  exact Config.run_congr hnodes rfl rfl config

/-- Well-formed records and the nodes that they denote can be exchanged for each other. The record of a node
denotes the node again just if neither its id nor its kind is blank, and so it does whenever some record
denotes the node. With the records of nodes in place of all well-formed records, a generation has the same
output and a check the same report. So the output for well-formed nodes is that for every snapshot whose
records denote just these nodes and from which nothing was dropped. -/
theorem nodes_and_records_are_interchangeable :
    (∀ node : Node, node.toRecord.toNode = .ok node ↔
      Text.isBlank node.id = false ∧ Text.isBlank node.kind = false) ∧
    (∀ (record : Record) (node : Node), record.toNode = .ok node → node.toRecord.toNode = .ok node) ∧
    (∀ (config : Config) (snapshot : Snapshot),
      config.generate snapshot.validated = config.generate snapshot ∧
        snapshot.validated.check = snapshot.check) ∧
    (∀ (nodes : List Node) (snapshot : Snapshot), snapshot.nodes.map Record.toNode = nodes.map .ok →
      snapshot.loadWarnings = [] →
        generateNodes nodes snapshot.edges = Config.default.generate snapshot) := by
  refine ⟨fun node => Node.toNode_toRecord_eq_ok_iff, fun record node => Record.toNode_toRecord_of_toNode,
    fun config snapshot => ⟨?_, snapshot.check_validated⟩, fun nodes snapshot hnodes hwarnings => ?_⟩
  · unfold Config.generate
    rw [config.run_validated]
  · unfold generateNodes Config.generate
    rw [← Snapshot.validated_eq_ofNodes hnodes hwarnings, Config.run_validated]

/-- Records without properties, in the two ways in which a record can have none. -/
def bareCanvas : Snapshot :=
  ⟨[⟨some "n", some "vpc", some "", none⟩, ⟨some "b", some "s3", some "Logs", some .null⟩],
    [⟨"1", "n", "b"⟩], []⟩

theorem bareCanvas_is_its_nodes :
    bareCanvas.nodes.map Record.toNode = [⟨"n", "vpc", "", []⟩, ⟨"b", "s3", "Logs", []⟩].map .ok ∧
      Record.toNode ⟨some "n", some "vpc", some "", some (.object [])⟩ = .ok ⟨"n", "vpc", "", []⟩ ∧
      generateNodes [⟨"n", "vpc", "", []⟩, ⟨"b", "s3", "Logs", []⟩] [⟨"1", "n", "b"⟩] =
        Config.default.generate bareCanvas := by
  have hnodes : bareCanvas.nodes.map Record.toNode =
      [⟨"n", "vpc", "", []⟩, ⟨"b", "s3", "Logs", []⟩].map .ok := by
    rfl
  obtain ⟨-, hagain, -, hgenerate⟩ := nodes_and_records_are_interchangeable
  exact ⟨hnodes, hagain ⟨some "n", some "vpc", some "", none⟩ _ rfl, hgenerate _ bareCanvas hnodes rfl⟩

end CloudCanvas
