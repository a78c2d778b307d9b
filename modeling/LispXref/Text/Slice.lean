-- Indices that may count from the end. A negative index counts back from the
-- end of a list; a slice clamps both of its ends to the list.
import LispXref.Text.Basic

namespace LispXref

/-- The element at an index, a negative one counting from the end. -/
def signedGet? {α : Type} (xs : List α) (i : Int) : Option α :=
  if 0 ≤ i then xs[i.toNat]?
  else if -(xs.length : Int) ≤ i then xs[((xs.length : Int) + i).toNat]?
  else none

/-- Where a slice's end falls: negative ends count from the end of a list of
`length` elements, and every end is moved into the list. -/
def clampIndex (length : Nat) (i : Int) : Nat :=
  if 0 ≤ i then min i.toNat length else ((length : Int) + i).toNat

/-- The elements from `start` up to `stop`, both clamped. -/
def slice {α : Type} (xs : List α) (start stop : Int) : List α :=
  (xs.take (clampIndex xs.length stop)).drop (clampIndex xs.length start)

/-- A slice whose ends lie inside the list. -/
theorem slice_natCast {α : Type} (xs : List α) {s e : Nat} (hs : s ≤ xs.length) (he : e ≤ xs.length) :
    slice xs s e = (xs.take e).drop s := by
  simp [slice, clampIndex, Nat.min_eq_left hs, Nat.min_eq_left he]

end LispXref
