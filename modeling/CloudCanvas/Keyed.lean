/-
Lists of keyed entries. Inserting keeps the entries in increasing order of their keys, with one entry
for each key.
-/
namespace CloudCanvas

/-- Entries with a text as key. -/
abbrev Keyed (α : Type) := List (String × α)

namespace Keyed

variable {α : Type}

/-- The value at a key: of several entries with it the first. -/
def get? (entries : Keyed α) (key : String) : Option α :=
  entries.lookup key

/-- Sets the value at a key, in entries that are in increasing order. -/
def insert (key : String) (value : α) : Keyed α → Keyed α
  | [] => [(key, value)]
  | (k, v) :: rest =>
    if key < k then (key, value) :: (k, v) :: rest
    else if key = k then (key, value) :: rest
    else (k, v) :: insert key value rest

/-- The entries in increasing order of their keys; of entries with one key the last stays. -/
def ofList (entries : List (String × α)) : Keyed α :=
  entries.foldl (fun sorted (key, value) => insert key value sorted) []

end Keyed

end CloudCanvas
