import RegistrySearch.Pattern.Basic
import RegistrySearch.Record.TypedValue

/-!
# Callers

A caller has a name and sees some of the records: all of them, those with given identifiers, or
those of the services that the caller may manage, which are told by patterns of their addresses. A
list of patterns can fail to be one; an empty list shows everything.
-/

namespace RegistrySearch

/-- On whose behalf a search runs. -/
structure Caller where
  name : String
  /-- Whether the caller may see a record at all. -/
  sees : Record → Bool

namespace Caller

/-- A caller who sees every record. -/
def unrestricted (name : String) : Caller := ⟨name, fun _ => true⟩

/-- A caller who sees the records with given integer identifiers. -/
def withIds (name : String) (visible : List Int64) : Caller :=
  ⟨name, fun r => ((r.get? Path.idName).bind Json.Value.int64?).any visible.contains⟩

/-- A caller who sees the records whose service one of the patterns accepts as a whole. Without
patterns, or with a lone `*` among them, every record is seen. -/
def withPatterns? (name : String) (patterns : List String) : Option Caller :=
  if patterns.isEmpty || patterns.contains "*" then some (unrestricted name)
  else
    (patterns.mapM Pattern.regexp?).map fun allowed =>
      ⟨name, fun r =>
        let service := (Record.textAt r "serviceId").toList
        allowed.any fun regex => regex.accepts service⟩

end Caller

end RegistrySearch
