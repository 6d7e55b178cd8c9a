import RegistrySearch.Sorting
import RegistrySearch.Bisection

/-!
# Sets of code points as ranges

A set of code points is a list of inclusive ranges. Lists in **ascending order with gaps between
them** are the normal form; `ofRows` reaches it, and the set operations keep it. For the tables that
every character of a text is looked up in, the same data is laid out for bisection (`RangeTable`).
-/

namespace RegistrySearch.Unicode

/-- The largest code point. -/
def lastCodePoint : Nat := 0x10FFFF

/-- A set of code points, as rows `(first, last)` of inclusive ranges. -/
structure Ranges where
  rows : List (Nat × Nat)
deriving DecidableEq

namespace Ranges

/-- Whether the code point `n` lies in one of the ranges. -/
def contains (r : Ranges) (n : Nat) : Bool :=
  r.rows.any fun row => row.1 ≤ n && n ≤ row.2

/-- The set of one range. -/
def single (first last : Nat) : Ranges := ⟨[(first, last)]⟩

/-- The set of every second code point of each row, from its first to its last. -/
def alternating (rows : List (Nat × Nat)) : Ranges :=
  ⟨rows.flatMap fun (first, last) =>
    (List.range ((last - first) / 2 + 1)).map fun i => (first + 2 * i, first + 2 * i)⟩

/-- All code points. -/
def all : Ranges := single 0 lastCodePoint

/-- Joins the ranges of an ascending list that overlap or touch `lo .. hi`. -/
def joinFrom (lo hi : Nat) : List (Nat × Nat) → List (Nat × Nat)
  | [] => [(lo, hi)]
  | (a, b) :: rest =>
    if a ≤ hi + 1 then joinFrom lo (max hi b) rest else (lo, hi) :: joinFrom a b rest

/-- The set of the given ranges, with its ranges in ascending order and gaps between them. -/
def ofRows (rows : List (Nat × Nat)) : Ranges :=
  match sortBy (fun x y => x.1 ≤ y.1) rows with
  | [] => ⟨[]⟩
  | (a, b) :: rest => ⟨joinFrom a b rest⟩

/-- The code points in either set. -/
def union (r s : Ranges) : Ranges := ofRows (r.rows ++ s.rows)

/-- The code points in one of the sets at least. -/
def unions (rs : List Ranges) : Ranges := ofRows (rs.flatMap rows)

/-- The code points from `lo` on that lie in none of the ascending ranges. -/
def gapsFrom (lo : Nat) : List (Nat × Nat) → List (Nat × Nat)
  | [] => if lo ≤ lastCodePoint then [(lo, lastCodePoint)] else []
  | (a, b) :: rest =>
    if lo < a then (lo, a - 1) :: gapsFrom (b + 1) rest else gapsFrom (b + 1) rest

/-- The code points outside a set in normal form. -/
def complement (r : Ranges) : Ranges := ⟨gapsFrom 0 r.rows⟩

/-- The code points in both sets. -/
def inter (r s : Ranges) : Ranges := complement (union (complement r) (complement s))

/-- The code points of `r` outside `s`. -/
def diff (r s : Ranges) : Ranges := inter r (complement s)

/-- The code points in exactly one of the sets. -/
def symmDiff (r s : Ranges) : Ranges := union (diff r s) (diff s r)

/-- Whether all members are ASCII. -/
def isAscii (r : Ranges) : Bool := r.rows.all fun row => row.2 ≤ 0x7F

end Ranges

/-- Ascending ranges laid out for bisection. -/
structure RangeTable where
  rows : Array (Nat × Nat)

/-- Lays ascending ranges out for bisection. -/
def Ranges.toTable (r : Ranges) : RangeTable := ⟨r.rows.toArray⟩

/-- Whether `n` lies in the last range that does not begin above it. -/
def RangeTable.contains (t : RangeTable) (n : Nat) : Bool :=
  match t.rows[bisect (fun row => decide (n < row.1)) t.rows]? with
  | some row => row.1 ≤ n && n ≤ row.2
  | none => false

end RegistrySearch.Unicode
