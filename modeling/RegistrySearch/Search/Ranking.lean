import RegistrySearch.Index.Basic
import RegistrySearch.Sorting

/-!
# Ranking

Hits are ranked by descending score, and those of equal score by ascending ordinal, so that they
stay in the order of the records. Scores are compared as words in their total order, in which not
even two undefined scores are left without an order.
-/

namespace RegistrySearch

open Numeral (Binary64)

/-- A document that matches, and its score. -/
structure Hit where
  doc : Ordinal
  score : Binary64
deriving DecidableEq, Inhabited

namespace Hit

/-- The order of hits: the better one is less. -/
def compare (a b : Hit) : Ordering :=
  (Ord.compare b.score.orderKey a.score.orderKey).then (Ord.compare a.doc.toNat b.doc.toNat)

/-- Whether `a` may stand in front of `b`. -/
def precedes (a b : Hit) : Bool := a.compare b ≠ .gt

end Hit

/-- The first `limit` hits in their order. -/
def rank (hits : List Hit) (limit : Nat) : List Hit := (sortBy Hit.precedes hits).take limit

end RegistrySearch
