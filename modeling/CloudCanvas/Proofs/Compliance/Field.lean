/-
What a check finds about one declared field: its value cannot be read, or it is required and absent, or it is
a text outside the options.
-/
import CloudCanvas.Compliance.Issue

namespace CloudCanvas

/-- The property that an issue is about. -/
def Issue.field? : Issue → Option String
  | missingRequired field | invalidOption field _ _ | typeMismatch field _ _ | unknownProperty field =>
    some field
  | unsupportedKind _ => none

namespace Field

variable {field : Field} {v : Json} {issue : Issue}

theorem optionIssue?_eq_some_iff :
    field.optionIssue? v = some issue ↔ ∃ text, v.asText? = .ok (some text) ∧ text ∉ field.options ∧
      issue = .invalidOption field.name text field.options := by
  unfold optionIssue?
  cases v.asText? with
  | error cause => simp
  | ok value =>
    cases value with
    | none => simp
    | some text =>
      dsimp only
      split
      · rename_i hcontains
        simp [List.contains_iff_mem.1 hcontains]
      · rename_i hcontains
        rw [List.contains_iff_mem] at hcontains
        simp [hcontains, eq_comm]

/-- A select field is read as a text. -/
theorem read_of_select (h : field.type = .select) {text : String} (hv : v.asText? = .ok (some text)) :
    field.type.read v = .ok (some (.string text)) := by
  rw [h]
  show v.asText?.map _ = _
  rw [hv]
  rfl

/-- All that can be found about a field. -/
theorem issue?_eq_some_iff :
    field.issue? v = some issue ↔
      (∃ cause, field.type.read v = .error cause ∧ issue = .typeMismatch field.name field.type cause) ∨
      (field.type.read v = .ok none ∧ field.required = true ∧ issue = .missingRequired field.name) ∨
        ∃ text, field.type = .select ∧ v.asText? = .ok (some text) ∧ text ∉ field.options ∧
          issue = .invalidOption field.name text field.options := by
  unfold issue?
  cases hr : field.type.read v with
  | error cause =>
    constructor
    · intro h
      cases h
      exact .inl ⟨cause, rfl, rfl⟩
    · rintro (⟨found, hfound, rfl⟩ | ⟨hnone, -⟩ | ⟨text, htype, hv, -⟩)
      · cases hfound
        rfl
      · cases hnone
      · rw [read_of_select htype hv] at hr
        cases hr
  | ok value =>
    cases value with
    | none =>
      constructor
      · intro h
        dsimp only at h
        split at h
        · cases h
          exact .inr (.inl ⟨rfl, ‹_›, rfl⟩)
        · cases h
      · rintro (⟨cause, hcause, -⟩ | ⟨-, hrequired, rfl⟩ | ⟨text, htype, hv, -⟩)
        · cases hcause
        · exact if_pos hrequired
        · rw [read_of_select htype hv] at hr
          cases hr
    | some value =>
      dsimp only
      split
      · rename_i htype
        rw [optionIssue?_eq_some_iff]
        simp [htype]
      · rename_i htype
        simp [htype]

theorem field?_of_issue? (h : field.issue? v = some issue) : issue.field? = some field.name := by
  rcases issue?_eq_some_iff.1 h with ⟨cause, -, rfl⟩ | ⟨-, -, rfl⟩ | ⟨text, -, -, -, rfl⟩ <;> rfl

theorem isError_of_issue? {issue : Issue} (h : field.issue? v = some issue) : issue.isError = true := by
  rcases issue?_eq_some_iff.1 h with ⟨cause, -, rfl⟩ | ⟨-, -, rfl⟩ | ⟨text, -, -, -, rfl⟩ <;> rfl

theorem ne_unknownProperty_of_issue? (h : field.issue? v = some issue) (name : String) :
    issue ≠ .unknownProperty name := by
  rcases issue?_eq_some_iff.1 h with ⟨cause, -, rfl⟩ | ⟨-, -, rfl⟩ | ⟨text, -, -, -, rfl⟩ <;>
    exact Issue.noConfusion

end Field

/-- In a node without errors no fault is found with a declared field. -/
theorem Graph.Node.issue?_of_issues {node : Graph.Node} {kind : Kind} (hk : node.kind? = some kind)
    (h : ∀ issue ∈ node.issues, issue.isError = false) :
    ∀ field ∈ kind.schema.fields, field.issue? (node.properties.getOrNull field.name) = none := by
  intro field hf
  cases hissue : field.issue? (node.properties.getOrNull field.name) with
  | none => rfl
  | some issue =>
    have hmem : issue ∈ node.issues := by
      unfold issues
      rw [hk]
      exact List.mem_append_left _ (List.mem_filterMap.2 ⟨field, hf, hissue⟩)
    have herror := Field.isError_of_issue? hissue
    rw [h issue hmem] at herror
    cases herror

end CloudCanvas
