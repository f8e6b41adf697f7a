/-
Identifiers of the configuration language and the references that are made of them: identifiers with
dots between them.
-/
import CloudCanvas.Hcl.Block
import CloudCanvas.Proofs.Naming.Identifier

namespace CloudCanvas.Hcl

/-! ## Identifiers -/

theorem isIdentifierRest_of_mem {s : List Char} (h : isIdentifier s = true) :
    ∀ c ∈ s, isIdentifierRest c = true := by
  cases s with
  | nil => cases h
  | cons d t =>
    simp only [isIdentifier, Bool.and_eq_true, List.all_eq_true] at h
    intro c hc
    rcases List.mem_cons.1 hc with rfl | hc
    · have hs := h.1
      unfold isIdentifierStart at hs; unfold isIdentifierRest
      simp only [Bool.or_eq_true, Char.isAlphanum] at hs ⊢
      rcases hs with hs | hs
      · exact .inl (.inl (.inl hs))
      · exact .inl (.inr hs)
    · exact h.2 c hc

theorem dot_not_mem_of_isIdentifier {s : List Char} (h : isIdentifier s = true) : '.' ∉ s := by
  intro hc
  exact absurd (isIdentifierRest_of_mem h _ hc) (by decide)

theorem isAlpha_of_isLower {c : Char} (h : c.isLower = true) : c.isAlpha = true := by
  show (c.isUpper || c.isLower) = true
  rw [h, Bool.or_true]

theorem isIdentifierStart_of_isLeading {c : Char} (h : Naming.isLeading c = true) :
    isIdentifierStart c = true := by
  unfold Naming.isLeading at h; unfold isIdentifierStart
  simp only [Bool.or_eq_true] at h ⊢
  rcases h with h | h
  · exact .inl (isAlpha_of_isLower h)
  · exact .inr h

theorem isIdentifierRest_of_isKept {c : Char} (h : Naming.isKept c = true) :
    isIdentifierRest c = true := by
  unfold Naming.isKept at h; unfold isIdentifierRest
  simp only [Bool.or_eq_true, Char.isAlphanum] at h ⊢
  rcases h with (h | h) | h
  · exact .inl (.inl (.inl (isAlpha_of_isLower h)))
  · exact .inl (.inl (.inr h))
  · exact .inl (.inr h)

/-- The names of declarations are identifiers of the language. -/
theorem isIdentifier_of_naming {s : List Char} (h : Naming.IsIdentifier s) : isIdentifier s = true := by
  obtain ⟨c, t, rfl, hc, ht⟩ := h
  simp only [isIdentifier, Bool.and_eq_true, List.all_eq_true]
  exact ⟨isIdentifierStart_of_isLeading hc, fun d hd => isIdentifierRest_of_isKept (ht d hd)⟩

/-! ## References -/

/-- References: identifiers joined with dots, other than the two truth values. -/
def IsReference (address : String) : Prop :=
  (∃ parts : List String, parts ≠ [] ∧ (∀ part ∈ parts, isIdentifier part.toList = true) ∧
    address = ".".intercalate parts) ∧ address ≠ "true" ∧ address ≠ "false"

/-- At least two identifiers make a reference: the truth values hold no dot. -/
theorem isReference_intercalate {part next : String} {parts : List String}
    (h : ∀ p ∈ part :: next :: parts, isIdentifier p.toList = true) :
    IsReference (".".intercalate (part :: next :: parts)) := by
  have hdot : '.' ∈ (".".intercalate (part :: next :: parts)).toList := by
    rw [String.intercalate_cons_cons, String.toList_append, String.toList_append]
    simp
  refine ⟨⟨_, by simp, h, rfl⟩, ?_, ?_⟩
  · intro he; rw [he] at hdot; revert hdot; decide
  · intro he; rw [he] at hdot; revert hdot; decide

theorem isReference_pair {type name : String} (ht : isIdentifier type.toList = true)
    (hn : isIdentifier name.toList = true) : IsReference (type ++ "." ++ name) := by
  have hpair : IsReference (".".intercalate [type, name]) :=
    isReference_intercalate (by simp [ht, hn])
  simpa using hpair

end CloudCanvas.Hcl
