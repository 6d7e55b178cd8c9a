import RegistrySearch.Unicode.Ranges

/-!
# Blanks

The characters with the property White_Space.
-/

namespace RegistrySearch.Unicode

/-- The blank code points. -/
def blankRanges : Ranges :=
  ⟨[(0x0009, 0x000D), (0x0020, 0x0020), (0x0085, 0x0085), (0x00A0, 0x00A0), (0x1680, 0x1680),
    (0x2000, 0x200A), (0x2028, 0x2029), (0x202F, 0x202F), (0x205F, 0x205F), (0x3000, 0x3000)]⟩

/-- Whether a character is a blank: a space, a line break or another separator of its kind. -/
def isBlank (c : Char) : Bool := blankRanges.contains c.toNat

end RegistrySearch.Unicode
