import RegistrySearch.Numeral.Integer
import RegistrySearch.Query.Clause

/-!
# Ranges

A range whose bounds are integers, or open, selects points (`NumericRange`); any other range selects
terms, in the order of their characters. Bounds that exclude their value are moved by one, and a
range that has nothing between its bounds is numeric and empty.
-/

namespace RegistrySearch.Query

namespace Bound

/-- Whether a term is not below a lower bound. -/
def admitsAbove (b : Bound) (term : String) : Bool :=
  match b with
  | unbounded => true
  | inclusive value => value ≤ term
  | exclusive value => value < term

/-- Whether a term is not above an upper bound. -/
def admitsBelow (b : Bound) (term : String) : Bool :=
  match b with
  | unbounded => true
  | inclusive value => term ≤ value
  | exclusive value => term < value

end Bound

/-- Whether a term lies between two bounds. -/
def isBetween (lower upper : Bound) (term : String) : Bool :=
  lower.admitsAbove term && upper.admitsBelow term

/-- A range as one of points. -/
inductive NumericRange where
  | notNumeric
  | empty
  | between (lo hi : Int64)
deriving DecidableEq

/-- The least integer that a lower bound admits, `none` if the bound is no integer. -/
def Bound.least? : Bound → Option Int
  | unbounded => some (-2 ^ 63)
  | inclusive value => (Numeral.readInt64? value).map Int64.toInt
  | exclusive value => (Numeral.readInt64? value).map fun n => n.toInt + 1

/-- The greatest integer that an upper bound admits, `none` if the bound is no integer. -/
def Bound.greatest? : Bound → Option Int
  | unbounded => some (2 ^ 63 - 1)
  | inclusive value => (Numeral.readInt64? value).map Int64.toInt
  | exclusive value => (Numeral.readInt64? value).map fun n => n.toInt - 1

/-- The points between two bounds. What lies beyond 64 bits is no point. -/
def NumericRange.ofBounds (lower upper : Bound) : NumericRange :=
  if lower = .unbounded && upper = .unbounded then notNumeric
  else
    match lower.least?, upper.greatest? with
    | some lo, some hi =>
      match Numeral.int64? lo, Numeral.int64? hi with
      | some lo, some hi => if lo ≤ hi then between lo hi else empty
      | _, _ => empty
    | _, _ => notNumeric

end RegistrySearch.Query
