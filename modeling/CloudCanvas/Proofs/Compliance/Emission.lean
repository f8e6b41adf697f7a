/-
A compliant graph is emitted. A check judges properties by the schema of their kind, and that is all an
emission asks for, but for the entries of port lists: to the schema they are texts, and only the emission
of a security group reads them as port ranges.
-/
import CloudCanvas.Compliance.Report
import CloudCanvas.Proofs.Compliance.Field
import CloudCanvas.Proofs.Emission.Fitting
import CloudCanvas.Proofs.Generation.Ordering

namespace CloudCanvas

open CloudCanvas.Graph

/-! ## Compliant nodes -/

theorem Graph.Node.fits_of_issues {node : Node} {kind : Kind} (hk : node.kind? = some kind)
    (h : ∀ issue ∈ node.issues, issue.isError = false) : Properties.Fits ⟨kind, node.properties⟩ := by
  intro field hf
  show ∃ value, field.type.read (node.properties.getOrNull field.name) = .ok value
  cases hr : field.type.read (node.properties.getOrNull field.name) with
  | ok value => exact ⟨value, rfl⟩
  | error cause =>
    -- a value of the wrong type would be an issue
    have hissue := Field.issue?_eq_some_iff.2 (.inl ⟨cause, hr, rfl⟩)
    rw [node.issue?_of_issues hk h field hf] at hissue
    cases hissue

theorem Graph.Node.kind?_of_issues {node : Node} (h : ∀ issue ∈ node.issues, issue.isError = false) :
    ∃ kind, node.kind? = some kind := by
  cases hk : node.kind? with
  | some kind => exact ⟨kind, rfl⟩
  | none =>
    have hissue : .unsupportedKind node.kind ∈ node.issues := by
      unfold issues
      rw [hk]
      exact List.mem_singleton.2 rfl
    cases h _ hissue

/-- The error about the first listed port of a candidate that is no port range. -/
def Graph.Candidate.portError? (candidate : Candidate) : Option EmissionError :=
  Properties.portError? ⟨candidate.kind, candidate.node.properties⟩

/-- The properties of a candidate fit the schema of its kind. -/
def Graph.Candidate.Fits (candidate : Candidate) : Prop :=
  Properties.Fits ⟨candidate.kind, candidate.node.properties⟩

/-- A record that raises no warning and no error in a check is a candidate with fitting properties. -/
theorem Graph.Record.exists_screen {record : Record} (hs : record.skipped? = none)
    (h : ∀ report, record.report? = some report → ∀ issue ∈ report.issues, issue.isError = false) :
    ∃ candidate, record.screen = .ok candidate ∧ candidate.Fits := by
  unfold skipped? at hs
  cases hn : record.toNode with
  | error defect => rw [hn] at hs; cases hs
  | ok node =>
    have hissues : ∀ issue ∈ node.issues, issue.isError = false := by
      intro issue hi
      refine h ⟨node.id, node.issues⟩ ?_ issue hi
      unfold report?
      rw [hn]
      exact if_neg fun hempty => by rw [List.isEmpty_iff.1 hempty] at hi; cases hi
    obtain ⟨kind, hk⟩ := node.kind?_of_issues hissues
    exact ⟨⟨kind, node⟩, screen_eq_ok_iff.2 ⟨hn, hk⟩, node.fits_of_issues hk hissues⟩

/-! ## Compliant snapshots -/

theorem eq_map_accepted {ε α : Type} {results : List (Except ε α)}
    (h : ∀ result ∈ results, ∃ a, result = .ok a) : results = (accepted results).map .ok := by
  refine eq_map_ok_iff.2 ⟨List.eq_nil_iff_forall_not_mem.2 fun e he => ?_, rfl⟩
  obtain ⟨a, ha⟩ := h _ (mem_rejected.1 he)
  cases ha

namespace Graph.Snapshot

variable {snapshot : Snapshot}

theorem loadWarnings_of_isCompliant (h : snapshot.check.isCompliant = true) : snapshot.loadWarnings = [] := by
  unfold Report.isCompliant check at h
  simp only [Bool.and_eq_true, List.isEmpty_iff, List.append_eq_nil_iff] at h
  exact h.1.1

/-- Every record of a compliant snapshot is a candidate with fitting properties. -/
theorem exists_screen_of_isCompliant (h : snapshot.check.isCompliant = true) :
    ∀ record ∈ snapshot.nodes, ∃ candidate, record.screen = .ok candidate ∧ candidate.Fits := by
  intro record hr
  unfold Report.isCompliant Report.issues check at h
  simp only [Bool.and_eq_true, List.isEmpty_iff, List.append_eq_nil_iff, List.filterMap_eq_nil_iff,
    List.all_eq_true, List.mem_flatMap, List.mem_filterMap, Bool.not_eq_true'] at h
  obtain ⟨⟨-, hskipped⟩, hissues⟩ := h
  exact record.exists_screen (hskipped record hr) fun report hreport issue hi =>
    hissues issue ⟨report, ⟨record, hr, hreport⟩, hi⟩

theorem map_screen_of_isCompliant (h : snapshot.check.isCompliant = true) :
    snapshot.nodes.map Record.screen = snapshot.candidates.map .ok := by
  refine eq_map_accepted fun result hr => ?_
  obtain ⟨record, hm, rfl⟩ := List.mem_map.1 hr
  obtain ⟨candidate, hc, -⟩ := exists_screen_of_isCompliant h record hm
  exact ⟨candidate, hc⟩

theorem fits_of_isCompliant (h : snapshot.check.isCompliant = true) :
    ∀ candidate ∈ snapshot.candidates, candidate.Fits := by
  intro candidate hc
  obtain ⟨record, hr, hs⟩ := List.mem_map.1 (mem_accepted.1 hc)
  obtain ⟨other, ho, hfits⟩ := exists_screen_of_isCompliant h record hr
  obtain rfl : candidate = other := Except.ok.inj (hs.symm.trans ho)
  exact hfits

end Graph.Snapshot

/-! ## Declaring fitting candidates -/

theorem Graph.Candidate.Fits.declare {candidate : Candidate} (h : candidate.Fits) :
    (candidate.portError? = none → ∃ e, candidate.declare = .ok e) ∧
      ∀ cause, candidate.portError? = some cause → candidate.declare = .error (candidate.node.failed cause) := by
  obtain ⟨hok, herror⟩ := Properties.Fits.emit h candidate.name
  refine ⟨fun hnone => exists_declare_iff.2 (hok hnone), fun cause hc => ?_⟩
  unfold Candidate.declare
  rw [herror cause hc]

/-- Of fitting candidates those are declared whose ports are port ranges, and the others fail. -/
theorem declare_fitting {candidates : List Candidate} (h : ∀ candidate ∈ candidates, candidate.Fits) :
    (accepted (candidates.map Candidate.declare)).map (·.candidate) =
        (candidates.filter fun candidate => candidate.portError?.isNone) ∧
      rejected (candidates.map Candidate.declare) =
        candidates.filterMap fun candidate => candidate.portError?.map candidate.node.failed := by
  induction candidates with
  | nil => exact ⟨rfl, rfl⟩
  | cons candidate rest ih =>
    obtain ⟨haccepted, hrejected⟩ := ih fun candidate hc => h candidate (List.mem_cons_of_mem _ hc)
    obtain ⟨hok, herror⟩ := (h candidate (List.mem_cons_self ..)).declare
    rw [List.map_cons, List.filter_cons, List.filterMap_cons]
    cases hp : candidate.portError? with
    | none =>
      obtain ⟨e, he⟩ := hok hp
      rw [he]
      exact ⟨congrArg₂ (· :: ·) (eq_of_declare he).1 haccepted, hrejected⟩
    | some cause =>
      rw [herror cause hp]
      exact ⟨haccepted, congrArg (candidate.node.failed cause :: ·) hrejected⟩

/-- A compliant graph is emitted, but for security groups with a port that is none. Every record is a
candidate, no warning tells of a malformed node or edge or of a kind that is not supported, and every
candidate yields its primary block unless an entry of its port list is no port range; of these each
yields one warning, about the first such entry. -/
theorem compliant_graph_is_emitted (config : Config) {snapshot : Snapshot}
    (h : snapshot.check.isCompliant = true) :
    snapshot.nodes.map Record.screen = snapshot.candidates.map .ok ∧
    (∀ w ∈ (config.generate snapshot).warnings,
      w.kind ≠ .malformedNode ∧ w.kind ≠ .malformedEdge ∧ w.kind ≠ .unsupportedKind) ∧
    (config.run snapshot).nodes.Perm
      (snapshot.candidates.filter fun candidate => candidate.portError?.isNone) ∧
    ((config.generate snapshot).warnings.filter fun w => w.kind == .emissionFailed).Perm
      (snapshot.candidates.filterMap fun candidate =>
        candidate.portError?.map candidate.node.failed) := by
  have hscreen := Snapshot.map_screen_of_isCompliant h
  obtain ⟨hnodes, hfailed⟩ := declare_fitting (Snapshot.fits_of_isCompliant h)
  have hperm : (config.candidates snapshot).Perm snapshot.candidates := config.candidates_perm snapshot
  have hrejected : rejected (snapshot.nodes.map Record.screen) = [] := by
    rw [hscreen]
    exact List.filterMap_eq_nil_iff.2 fun result hr => by
      obtain ⟨candidate, -, rfl⟩ := List.mem_map.1 hr
      rfl
  have hwarnings : (config.generate snapshot).warnings =
      (arrange config.ordering snapshot.edges snapshot.candidates).2 ++
        rejected ((config.candidates snapshot).map Candidate.declare) ++
        duplicates [] (config.emitted snapshot) := by
    show (config.run snapshot).warnings = _
    rw [(config.run_spec snapshot).2, Snapshot.loadWarnings_of_isCompliant h, hrejected]
    rfl
  have harranged := ofKinds_arranged config.ordering snapshot.edges snapshot.candidates
  have hemission := ofKinds_failed (config.candidates snapshot)
  have hduplicates := ofKinds_duplicates [] (config.emitted snapshot)
  refine ⟨hscreen, fun w hw => ?_, ?_, ?_⟩
  · have hkind : w.kind ∈ [.dependencyCycle, .emissionFailed, .duplicateName] := by
      rw [hwarnings, List.mem_append, List.mem_append] at hw
      rcases hw with (hw | hw) | hw
      · rw [List.mem_singleton.1 (harranged w hw)]; decide
      · rw [List.mem_singleton.1 (hemission w hw)]; decide
      · rw [List.mem_singleton.1 (hduplicates w hw)]; decide
    simp only [List.mem_cons, List.not_mem_nil, or_false] at hkind
    rcases hkind with hk | hk | hk
    all_goals
      rw [hk]
      decide
  · rw [Config.nodes_run, ← hnodes]
    exact ((hperm.map _).filterMap _).map _
  · rw [hwarnings, ← hfailed, List.filter_append, List.filter_append,
      harranged.filter_eq_nil (p := (· == .emissionFailed)) (by decide),
      hemission.filter_eq_self (p := (· == .emissionFailed)) (by decide),
      hduplicates.filter_eq_nil (p := (· == .emissionFailed)) (by decide), List.nil_append,
      List.append_nil]
    exact (hperm.map _).filterMap _

/-- A security group with port ranges and one whose port is given by the name of a service. -/
def portCanvas : Snapshot :=
  .ofNodes
    [⟨"w", "security_group", "Web",
        [("ingress_ports", .array [.string "80", .string " 8000 - 8010 "]), ("name", .string "web")]⟩,
      ⟨"s", "security_group", "Shell",
        [("ingress_ports", .array [.string "ssh"]), ("name", .string "shell")]⟩]
    [⟨"1", "s", "w"⟩]

/-- Both groups are compliant; the one with port ranges is emitted, and there is a warning about the
other one. -/
theorem portCanvas_is_emitted :
    portCanvas.check.isCompliant = true ∧
      (Config.default.run portCanvas).nodes.Perm
        (portCanvas.candidates.filter fun candidate => candidate.portError?.isNone) ∧
      (portCanvas.candidates.filter fun candidate => candidate.portError?.isNone).map (·.node.id) = ["w"] := by
  have hcompliant : portCanvas.check.isCompliant = true := by decide +kernel
  exact ⟨hcompliant, (compliant_graph_is_emitted Config.default hcompliant).2.2.1, by decide +kernel⟩

/-- A compliant graph of one node that is not emitted: the check takes the name of a service for a port. -/
theorem service_port_is_compliant :
    ∃ snapshot : Snapshot, snapshot.check.isCompliant = true ∧ snapshot.check.errorCount = 0 ∧
      ((Config.default.generate snapshot).warnings.map (·.kind)) = [.emissionFailed] ∧
      snapshot.nodes.length = 1 ∧ (Config.default.run snapshot).nodes.length = 0 := by
  refine ⟨.ofNodes [⟨"s", "security_group", "Shell",
    [("ingress_ports", .array [.string "ssh"]), ("name", .string "shell")]⟩] [], ?_⟩
  decide +kernel

end CloudCanvas
