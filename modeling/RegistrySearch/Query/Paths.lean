import RegistrySearch.Query.Clause
import RegistrySearch.Record.Path

/-!
# The paths of a query

A query needs the values at the paths that its leaves name, excluded leaves included. A regular
expression looks at whole values, so it asks for the marked path. `Clause.paths` has them in the
order in which they first occur, which is the order in which records are projected.
-/

namespace RegistrySearch.Query.Clause

mutual

/-- The paths that the leaves of a clause name, in order. -/
def leafPaths : Clause → List Path
  | term field _ => [⟨field⟩]
  | phrase field _ => [⟨field⟩]
  | wildcard field _ => [⟨field⟩]
  | regexp field _ => [Path.exact field]
  | range field _ _ => [⟨field⟩]
  | boolean children => leafPathsOf children

/-- The paths that the leaves of children name, in order. -/
def leafPathsOf : List (Occur × Clause) → List Path
  | [] => []
  | (_, child) :: rest => leafPaths child ++ leafPathsOf rest

end

/-- The paths of a clause, in the order in which they first occur. -/
def paths (c : Clause) : PathSet := .ofList c.leafPaths

end RegistrySearch.Query.Clause
