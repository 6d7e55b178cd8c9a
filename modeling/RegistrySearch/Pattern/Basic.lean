import RegistrySearch.Pattern.Moves
import RegistrySearch.Pattern.Reader
import RegistrySearch.Pattern.Size
import RegistrySearch.Pattern.Wildcard

/-!
# Patterns

Wildcard patterns and regular expressions both become regular expressions that are tied to both ends
of a text, so that a pattern accepts a term as a whole. A regular expression is put between its ties
as text; one that breaks out of the parentheses around it is accepted as it reads then. A pattern is
none if its text is no regular expression, or if the expression is too large.
-/

namespace RegistrySearch.Pattern

/-- The expression of a text, if it is not too large. -/
def Regex.compile? (text : String) : Option Regex :=
  (Regex.ofText? text).filter Regex.isWithinLimit

/-- The text of a regular expression between its ties. -/
def tiedText (pattern : String) : String := "^(?:" ++ pattern ++ ")$"

/-- The expression of a regular expression that has to match as a whole. -/
def regexp? (pattern : String) : Option Regex := Regex.compile? (tiedText pattern)

/-- The expression of a wildcard pattern. -/
def wildcard? (pattern : String) : Option Regex := Regex.compile? (wildcardRegexText pattern)

end RegistrySearch.Pattern
