/-
Compliance reports: the issues of all nodes of a snapshot, and the records that could not be checked.
-/
import CloudCanvas.Compliance.Issue
import CloudCanvas.Generation.Event
import CloudCanvas.Graph.Snapshot

namespace CloudCanvas

open CloudCanvas.Graph

/-- The issues of one node. -/
structure NodeReport where
  nodeId : String
  issues : List Issue
  deriving DecidableEq

/-- The result of checking a snapshot. -/
structure Report where
  /-- The nodes with issues. -/
  nodes : List NodeReport
  /-- The records that could not be checked. -/
  skipped : List Warning
  deriving DecidableEq

/-- The issues of a record's node, if it is well-formed and has some. -/
def Graph.Record.report? (record : Record) : Option NodeReport :=
  match record.toNode with
  | .ok node => if node.issues.isEmpty then none else some ⟨node.id, node.issues⟩
  | .error _ => none

/-- The warning about a record that is no well-formed node. -/
def Graph.Record.skipped? (record : Record) : Option Warning :=
  match record.toNode with
  | .ok _ => none
  | .error defect => some (record.malformed defect)

/-- Checks every node of a snapshot. -/
def Graph.Snapshot.check (snapshot : Snapshot) : Report :=
  ⟨snapshot.nodes.filterMap Record.report?,
    snapshot.loadWarnings ++ snapshot.nodes.filterMap Record.skipped?⟩

namespace Report

/-- All issues of a report. -/
def issues (report : Report) : List Issue :=
  report.nodes.flatMap (·.issues)

/-- Whether every record could be checked and no issue is an error. -/
def isCompliant (report : Report) : Bool :=
  report.skipped.isEmpty && report.issues.all fun issue => !issue.isError

/-- How many issues are errors. -/
def errorCount (report : Report) : Nat :=
  report.issues.countP Issue.isError

/-- A report as a document value. -/
def toJson (report : Report) : Json :=
  .object
    [("nodes", .array (report.nodes.map fun node =>
        .object [("node_id", .string node.nodeId), ("issues", .array (node.issues.map Issue.toJson))])),
      ("skipped", .array (report.skipped.map Warning.toJson))]

/-- The event about a check. -/
def event (report : Report) : Event :=
  .checked report.nodes.length report.errorCount

end Report

end CloudCanvas
