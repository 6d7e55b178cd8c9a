import RegistrySearch.Bisection

/-!
# Maps of code points as runs

Case maps move whole alphabets by one distance. A **run** states that every `step`-th code point
from `first` to `last` moves by `offset`.
-/

namespace RegistrySearch.Unicode

/-- Every `step`-th code point from `first` to `last` moves by `offset`. -/
structure Run where
  first : Nat
  last : Nat
  step : Nat
  offset : Int

/-- Where the run takes a code point, if it moves it. -/
def Run.shift? (r : Run) (n : Nat) : Option Nat :=
  if r.first ≤ n && n ≤ r.last && (n - r.first) % r.step == 0 then some (n + r.offset).toNat
  else none

/-- Where the ascending runs take a code point; what no run moves stays. -/
def applyRuns (runs : Array Run) (n : Nat) : Nat :=
  match runs[bisect (fun r => decide (n < r.first)) runs]? with
  | some r => (r.shift? n).getD n
  | none => n

end RegistrySearch.Unicode
