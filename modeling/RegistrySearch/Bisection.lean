/-!
# Bisection of arrays

`bisect above xs` walks to the last element of `xs` that is not above the sought one. Half of the
window is dropped in every step, whatever the comparison says, so the number of steps depends on the
size alone and equal elements are passed on the right. `partitionPoint` asks the same of a
predicate: on an array in which the elements that satisfy it come first, it counts them.
-/

namespace RegistrySearch

/-- The index in `base ..< base + size` on which the walk to the last element not `above` ends. -/
def bisectFrom {α : Type} (above : α → Bool) (xs : Array α) (base size : Nat) : Nat :=
  if _small : size ≤ 1 then base
  else
    match xs[base + size / 2]? with
    | some x =>
      if above x then bisectFrom above xs base (size - size / 2)
      else bisectFrom above xs (base + size / 2) (size - size / 2)
    | none => base
termination_by size

/-- The index on which the walk to the last element of `xs` that is not `above` ends. -/
def bisect {α : Type} (above : α → Bool) (xs : Array α) : Nat :=
  bisectFrom above xs 0 xs.size

/-- The number of leading elements that satisfy `holds`, on an array that has them in front. -/
def partitionPoint {α : Type} (holds : α → Bool) (xs : Array α) : Nat :=
  let found := bisect (fun x => !holds x) xs
  match xs[found]? with
  | some x => if holds x then found + 1 else found
  | none => 0

end RegistrySearch
