/-!
# Clauses

A query is a tree of clauses. A leaf states a condition on the terms or points of one field; a
boolean clause combines others, each with an `Occur` that says how it takes part: it must hold, it
must not, or it may.
-/

namespace RegistrySearch.Query

/-- How a child takes part in a boolean clause. -/
inductive Occur where
  /-- It has to match, and adds to the score. -/
  | must
  /-- It adds to the score. One such child has to match where none is required. -/
  | should
  /-- It excludes what it matches. -/
  | mustNot
deriving DecidableEq

/-- One end of a range. -/
inductive Bound where
  | unbounded
  | inclusive (value : String)
  | exclusive (value : String)
deriving DecidableEq

/-- The text of a bound that has one. -/
def Bound.value? : Bound → Option String
  | unbounded => none
  | inclusive value => some value
  | exclusive value => some value

/-- A query. -/
inductive Clause where
  /-- One term of a field. -/
  | term (field text : String)
  /-- Terms at consecutive positions. -/
  | phrase (field : String) (terms : List String)
  /-- Terms that a pattern with `*` and `?` accepts; a backslash escapes. -/
  | wildcard (field pattern : String)
  /-- Terms that a regular expression accepts as a whole. -/
  | regexp (field pattern : String)
  /-- Numbers or terms between two bounds. -/
  | range (field : String) (lower upper : Bound)
  /-- A combination of clauses. -/
  | boolean (children : List (Occur × Clause))
deriving Inhabited

namespace Clause

/-- The field that a leaf looks at. -/
def field? : Clause → Option String
  | term field _ => some field
  | phrase field _ => some field
  | wildcard field _ => some field
  | regexp field _ => some field
  | range field _ _ => some field
  | boolean _ => none

/-- Whether a clause is a boolean one without children, which matches nothing. -/
def isEmpty : Clause → Bool
  | boolean [] => true
  | _ => false

end Clause

end RegistrySearch.Query
