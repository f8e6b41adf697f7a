/-
Records that a check and a generation leave out. Both go through the records of a snapshot, each in a loop
of its own; they leave out the same malformed records, and tell of the same unsupported kinds, in the same
words and in the same order.
-/
import CloudCanvas.Compliance.Report
import CloudCanvas.Proofs.Compliance.Field
import CloudCanvas.Proofs.Generation.Accounting

namespace CloudCanvas

open CloudCanvas.Graph

/-- Whether warnings of the kind tell of an element or a record that is malformed. -/
def WarningKind.isMalformed : WarningKind → Bool
  | malformedNode | malformedEdge => true
  | unsupportedKind | emissionFailed | duplicateName | dependencyCycle => false

/-- Whether an issue is about a kind that is not supported. -/
def Issue.isUnsupportedKind : Issue → Bool
  | unsupportedKind _ => true
  | missingRequired _ | invalidOption .. | typeMismatch .. | unknownProperty _ => false

/-! ## One node -/

theorem Field.isUnsupportedKind_of_issue? {field : Field} {v : Json} {issue : Issue}
    (h : field.issue? v = some issue) : issue.isUnsupportedKind = false := by
  rcases issue?_eq_some_iff.1 h with ⟨cause, -, rfl⟩ | ⟨-, -, rfl⟩ | ⟨text, -, -, -, rfl⟩ <;> rfl

/-- Among the issues of a node there is one about its kind when the kind is not supported, and none
otherwise. -/
theorem Graph.Node.filter_isUnsupportedKind_issues (node : Node) :
    node.issues.filter Issue.isUnsupportedKind =
      if node.kind? = none then [.unsupportedKind node.kind] else [] := by
  unfold issues
  cases hk : node.kind? with
  | none => rfl
  | some kind =>
    have hnone : ∀ issue ∈ kind.schema.fieldIssues node.properties ++
        kind.schema.unknownIssues node.properties, issue.isUnsupportedKind = false := by
      intro issue hi
      rcases List.mem_append.1 hi with hi | hi
      · obtain ⟨field, -, hf⟩ := List.mem_filterMap.1 hi
        exact field.isUnsupportedKind_of_issue? hf
      · obtain ⟨⟨key, v⟩, -, hu⟩ := List.mem_filterMap.1 hi
        dsimp only at hu
        split at hu
        · cases hu
          rfl
        · cases hu
    dsimp only
    rw [if_neg (by simp), List.filter_eq_nil_iff]
    intro issue hi
    rw [hnone issue hi]
    exact Bool.false_ne_true

/-! ## One record -/

/-- The warning of a check about a record is that of a generation, if it is about a malformed record. -/
theorem Graph.Record.filter_isMalformed_warning? (record : Record) :
    (record.warning?.filter fun w => w.kind.isMalformed) = record.skipped? := by
  unfold warning? screen skipped?
  cases record.toNode with
  | error defect => rfl
  | ok node =>
    dsimp only
    cases node.kind? <;> rfl

/-- The issues of a report that are about kinds that are not supported, each with its node and its text. -/
def NodeReport.unsupported (report : NodeReport) : List (Option String × String) :=
  (report.issues.filter Issue.isUnsupportedKind).map fun issue => (some report.nodeId, issue.text)

/-- The issue of a check about the kind of a record says what the warning of a generation says. -/
theorem Graph.Record.filter_unsupportedKind_warning? (record : Record) :
    ((record.warning?.filter fun w => w.kind == .unsupportedKind).map fun w => (w.nodeId, w.message)).toList =
      record.report?.toList.flatMap NodeReport.unsupported := by
  unfold warning? screen report?
  cases record.toNode with
  | error defect => rfl
  | ok node =>
    have hissues := node.filter_isUnsupportedKind_issues
    dsimp only
    cases hk : node.kind? with
    | none =>
      have hempty : node.issues = [.unsupportedKind node.kind] := by
        unfold Node.issues
        rw [hk]
      rw [hempty]
      rfl
    | some kind =>
      rw [hk, if_neg (by simp)] at hissues
      have hnone : NodeReport.unsupported ⟨node.id, node.issues⟩ = [] := by
        unfold NodeReport.unsupported
        rw [hissues]
        rfl
      dsimp only
      split
      · rfl
      · rw [Option.toList_some, List.flatMap_cons, hnone]
        rfl

/-! ## Whole snapshots -/

theorem filterMap_flatMap_toList {α β γ : Type} (f : α → Option β) (g : β → List γ) (as : List α) :
    (as.filterMap f).flatMap g = as.flatMap fun a => (f a).toList.flatMap g := by
  induction as with
  | nil => rfl
  | cons a rest ih => cases hf : f a <;> simp [hf, ih]

theorem ofKinds_loadWarnings {document : Json} {snapshot : Snapshot}
    (h : Snapshot.load document = .ok snapshot) :
    OfKinds [.malformedNode, .malformedEdge] snapshot.loadWarnings := by
  obtain ⟨fields, nodes, edges, -, -, -, -, -, hwarnings⟩ := Snapshot.load_spec h
  intro w hw
  rw [hwarnings] at hw
  rcases List.mem_append.1 hw with hw | hw
  · exact List.mem_append_left [.malformedEdge] (ofKinds_settled _ _ _ _ w hw)
  · exact List.mem_append_right [.malformedNode] (ofKinds_settled _ _ _ _ w hw)

namespace Config

variable (config : Config) (snapshot : Snapshot)

theorem filter_isMalformed_added :
    ((config.added snapshot).filter fun w => w.kind.isMalformed) =
      snapshot.nodes.filterMap Record.skipped? := by
  have hsteps := config.filter_added_steps snapshot WarningKind.isMalformed
  rw [if_neg (by decide), if_neg (by decide), if_neg (by decide)] at hsteps
  simp only [List.append_nil] at hsteps
  rw [hsteps, ← filterMap_warning?, List.filter_filterMap]
  exact List.filterMap_congr fun record _ => record.filter_isMalformed_warning?

theorem filter_unsupportedKind_added :
    (((config.added snapshot).filter fun w => w.kind == .unsupportedKind).map fun w => (w.nodeId, w.message)) =
      snapshot.check.nodes.flatMap NodeReport.unsupported := by
  have hsteps := config.filter_added_steps snapshot (· == .unsupportedKind)
  rw [if_neg (by decide), if_neg (by decide), if_neg (by decide)] at hsteps
  simp only [List.append_nil] at hsteps
  rw [hsteps, ← filterMap_warning?, List.filter_filterMap, List.map_filterMap, Snapshot.check,
    filterMap_flatMap_toList, List.filterMap_eq_flatMap_toList]
  exact List.flatMap_congr fun record _ => record.filter_unsupportedKind_warning?

end Config

/-- A check and a generation agree on the records that neither can use. The warnings of a check are, in
full and in order, those of a generation that tell of malformed elements and records; and what a check says
about the kinds of nodes is, node by node and in the same words, what a generation says about them. -/
theorem check_agrees_with_generation (config : Config) {document : Json} {snapshot : Snapshot}
    (h : Snapshot.load document = .ok snapshot) :
    snapshot.check.skipped =
        ((config.generate snapshot).warnings.filter fun w =>
          w.kind == .malformedNode || w.kind == .malformedEdge) ∧
      (snapshot.check.nodes.flatMap fun report =>
          (report.issues.filter Issue.isUnsupportedKind).map fun issue => (some report.nodeId, issue.text)) =
        ((config.generate snapshot).warnings.filter fun w => w.kind == .unsupportedKind).map fun w =>
          (w.nodeId, w.message) := by
  have hload := ofKinds_loadWarnings h
  have hkinds : (fun w : Warning => w.kind == .malformedNode || w.kind == .malformedEdge) =
      fun w => w.kind.isMalformed := by
    funext w
    cases w.kind <;> rfl
  rw [Config.warnings_generate, List.filter_append, List.filter_append, hkinds]
  constructor
  · rw [hload.filter_eq_self (by decide), config.filter_isMalformed_added]
    rfl
  · rw [hload.filter_eq_nil (p := (· == .unsupportedKind)) (by decide), List.nil_append,
      config.filter_unsupportedKind_added]
    rfl

/-- A document with two elements that cannot be decoded, one in each array, two malformed records and two
nodes of kinds that are not supported. -/
def spoiledCanvas : Json :=
  .object
    [("edges", .array [.null]),
      ("nodes", .array
        [.object [("id", .string "a"), ("kind", .string "airship"), ("label", .string " ")],
          .object [("id", .string " "), ("kind", .string "vpc"), ("label", .string "A")],
          .boolean true,
          .object [("id", .string "b"), ("kind", .string "VPC"), ("label", .string "B")],
          .object [("id", .string "c"), ("kind", .string "vpc"), ("label", .string "C"),
            ("properties", .array [])]])]

/-- A check and a generation leave out the same two elements and two records of that document, and tell of
the same two kinds. -/
theorem spoiledCanvas_is_judged_alike :
    ∃ snapshot, Snapshot.load spoiledCanvas = .ok snapshot ∧
      snapshot.check.skipped =
        ((Config.default.generate snapshot).warnings.filter fun w =>
          w.kind == .malformedNode || w.kind == .malformedEdge) ∧
      snapshot.check.skipped.map (·.kind) = [.malformedNode, .malformedEdge, .malformedNode, .malformedNode] ∧
      ((Config.default.generate snapshot).warnings.filter fun w => w.kind == .unsupportedKind).map (fun w =>
          (w.nodeId, w.message)) =
        [(some "a", "unsupported resource kind `airship`"), (some "b", "unsupported resource kind `VPC`")] := by
  obtain ⟨snapshot, hload, hskipped, hissues⟩ : ∃ snapshot, Snapshot.load spoiledCanvas = .ok snapshot ∧
      snapshot.check.skipped.map (·.kind) = [.malformedNode, .malformedEdge, .malformedNode, .malformedNode] ∧
      (snapshot.check.nodes.flatMap fun report =>
          (report.issues.filter Issue.isUnsupportedKind).map fun issue => (some report.nodeId, issue.text)) =
        [(some "a", "unsupported resource kind `airship`"), (some "b", "unsupported resource kind `VPC`")] :=
    ⟨_, rfl, by decide +kernel, by decide +kernel⟩
  obtain ⟨hsame, hkinds⟩ := check_agrees_with_generation Config.default hload
  exact ⟨snapshot, hload, hsame, hskipped, hkinds.symm.trans hissues⟩

end CloudCanvas
