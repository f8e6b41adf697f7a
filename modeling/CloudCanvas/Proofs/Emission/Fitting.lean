/-
Fitting properties. When the value of every field of a kind can be read as the type of its field, a node
of that kind can be declared, unless an entry of its port list is no port range.
-/
import CloudCanvas.Proofs.Emission.Failure

namespace CloudCanvas

namespace Properties

variable {props : Properties}

/-- Every field of the schema holds a value that can be read as its type. -/
def Fits (props : Properties) : Prop :=
  ∀ field ∈ props.kind.schema.fields, ∃ value, field.type.read (props.raw field.name) = .ok value

theorem Fits.misfits (h : props.Fits) (names : List String) : props.misfits names = [] := by
  unfold Properties.misfits
  rw [List.filterMap_eq_nil_iff]
  intro name _
  cases hm : props.misfit? name with
  | none => rfl
  | some e =>
    obtain ⟨type, cause, ht, hc, -⟩ := misfit?_eq_some_iff.1 hm
    obtain ⟨field, hf, rfl, rfl⟩ := Kind.exists_field_of_typeOf? ht
    obtain ⟨value, hv⟩ := h field hf
    rw [hc] at hv
    cases hv

/-- With fitting properties a declaration can be emitted unless a listed port is no port range. -/
theorem Fits.emit {kind : Kind} {values : Json.Fields} (h : Fits ⟨kind, values⟩) (name : String) :
    (portError? ⟨kind, values⟩ = none → ∃ d, Declaration.emit kind values name = .ok d) ∧
      ∀ e, portError? ⟨kind, values⟩ = some e → Declaration.emit kind values name = .error e := by
  have hemit := failsFirst_emit kind values name
  unfold errors at hemit
  rw [h.misfits, h.misfits, List.nil_append, List.append_nil] at hemit
  refine ⟨fun hnone => ?_, fun e he => ?_⟩
  · rw [hnone] at hemit
    exact hemit.exists_ok
  · rw [he] at hemit
    exact (hemit e).2 rfl

end Properties

end CloudCanvas
