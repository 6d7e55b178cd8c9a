import RegistrySearch.Json.Decode

/-!
# Settings

Where indexes are kept, and how many results a search may return. Settings can lower the number of
results that the program allows, and cannot raise it (`Config.limit`).
-/

namespace RegistrySearch

/-- The number of results that no search exceeds. -/
def resultCap : Nat := 5000

/-- The settings of a service. -/
structure Config where
  /-- The directory in which scopes are kept. -/
  indexRoot : String
  /-- The number of results that a search may return, as far as it is below the cap. -/
  maxResults : Nat
deriving DecidableEq

namespace Config

/-- The settings without a text, with indexes kept in `indexRoot`. -/
def default (indexRoot : String) : Config := ⟨indexRoot, resultCap⟩

/-- The number of results that a search may return. -/
def limit (c : Config) : Nat := min c.maxResults resultCap

/-- The settings of a text. What the text leaves out stays as it is in `base`; anything that is no
setting makes the text invalid. -/
def ofText? (base : Config) (text : String) : Option Config := do
  let tree ← Json.Tree.read? text.toList
  match ← tree.onlyFields? ["indexRoot", "maxResults"] with
  | [root, most] =>
    let root ← match root with
      | some t => t.string?
      | none => some base.indexRoot
    let most ← match most with
      | some t => t.uint64?.map UInt64.toNat
      | none => some base.maxResults
    some ⟨root, most⟩
  | _ => none

end Config

end RegistrySearch
