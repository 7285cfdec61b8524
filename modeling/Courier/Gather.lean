/-!
# Gather - the members of a list under one key each

The groups come in the order in which their keys first occur, and the members of a group in the order of the
list.
-/
namespace Courier

/-- The groups of a list: the first member and all members under its key, for each key. -/
def gather {α κ : Type} [BEq κ] (key : α → κ) : List α → List (α × List α)
  | [] => []
  | x :: xs =>
    let same := fun y => key y == key x
    (x, x :: xs.filter same) :: gather key (xs.filter fun y => !same y)
termination_by xs => xs.length
decreasing_by
  simpa using Nat.lt_succ_of_le (Nat.le_trans (List.length_filter_le _ _) (by simp))

@[simp] theorem gather_nil {α κ : Type} [BEq κ] (key : α → κ) : gather key [] = [] := by
  rw [gather]

/-- A group is closed by taking every member of its key out of the list at once. -/
theorem gather_cons {α κ : Type} [BEq κ] (key : α → κ) (x : α) (xs : List α) :
    gather key (x :: xs) =
      (x, x :: xs.filter fun y => key y == key x) :: gather key (xs.filter fun y => !key y == key x) := by
  rw [gather]

end Courier
