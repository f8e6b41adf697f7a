/-
Powers of the two bases in which numbers are kept and written.
-/
namespace CloudCanvas

/-- The `k`-th power of two. -/
def powerOfTwo (k : Nat) : Nat :=
  Nat.pow 2 k

/-- The `k`-th power of ten. -/
def powerOfTen (k : Nat) : Nat :=
  Nat.pow 10 k

end CloudCanvas
