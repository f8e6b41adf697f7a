/-
A cache of identifiers: each label is sanitized once in a run. Looking a label up gives its identifier
and the cache in which it is known.
-/
import CloudCanvas.Naming.Identifier

namespace CloudCanvas.Naming

/-- Labels with their identifiers, in the order in which they were first seen. -/
structure Cache where
  rows : List (String × String)

namespace Cache

/-- The cache that knows no label. -/
def empty : Cache := ⟨[]⟩

/-- How many labels are known. -/
def size (cache : Cache) : Nat :=
  cache.rows.length

/-- Whether no label is known. -/
def isEmpty (cache : Cache) : Bool :=
  cache.rows.isEmpty

/-- The identifier of a label, and the cache in which the label is known. -/
def nameFor (cache : Cache) (raw : String) : String × Cache :=
  match cache.rows.lookup raw with
  | some name => (name, cache)
  | none => (sanitize raw, ⟨cache.rows ++ [(raw, sanitize raw)]⟩)

end Cache

end CloudCanvas.Naming
