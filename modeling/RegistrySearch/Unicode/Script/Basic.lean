import RegistrySearch.Unicode.Ranges

/-!
# Scripts

A script is known by its name and short names. Some characters of other scripts are used with it
too, which makes its extension.
-/

namespace RegistrySearch.Unicode

/-- A script: its names, the rows of its code points, and the rows that its extension adds or, where
they are code points of the script itself, takes away. -/
structure Script where
  names : List String
  rows : List (Nat × Nat)
  changes : List (Nat × Nat)

namespace Script

/-- The code points of a script. -/
def ranges (s : Script) : Ranges := ⟨s.rows⟩

/-- The code points that are used with a script. -/
def extension (s : Script) : Ranges := s.ranges.symmDiff ⟨s.changes⟩

end Script

end RegistrySearch.Unicode
