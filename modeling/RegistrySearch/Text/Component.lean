/-!
# Names of directories

A caller's name becomes one component of a path: only letters, digits, dots, underscores and
hyphens stay, and a name of dots alone is replaced, so that no name leads out of the directory that
it is used in.
-/

namespace RegistrySearch.Text

/-- The number of bytes that the name of a directory may have. -/
def nameLimit : Nat := 255

/-- Whether a character may stand in the name of a directory. -/
def isComponentChar (c : Char) : Bool :=
  c.isAlphanum || c == '.' || c == '_' || c == '-'

/-- The name made safe as one component of a path. -/
def sanitizeComponent (name : String) : String :=
  let cleaned := name.toList.map fun c => if isComponentChar c then c else '_'
  if cleaned.all (· == '.') then "_" else String.ofList cleaned

end RegistrySearch.Text
