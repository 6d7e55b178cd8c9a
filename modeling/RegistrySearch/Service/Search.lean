import RegistrySearch.Index.Builder
import RegistrySearch.Query.Parser
import RegistrySearch.Query.Paths
import RegistrySearch.Record.Projection
import RegistrySearch.Service.Caller
import RegistrySearch.Service.Config
import RegistrySearch.Service.Source
import RegistrySearch.Store

/-!
# Search calls

A search call indexes what its query needs of the records that the caller sees, in a call directory
of its own, searches that index once, and looks the records of its hits up. A record is checked
again when it is looked up, for an identifier may lead to another record than the one indexed.

Errors in the query, and errors while the index is read, leave the result empty and are kept as its
reason; errors of the source and of the store are errors of the call. Whatever happens, the call
directory is released when the call ends, and nobody asks whether it is gone then.
-/

namespace RegistrySearch

open Query (Clause)

/-- What can go wrong in a search call. -/
inductive SearchError where
  | syntaxError (error : Query.SyntaxError)
  | build (error : BuildError)
  | index (error : IndexError)
  | source (error : SourceError)
deriving DecidableEq

/-- Whether an error leaves an empty result instead of failing the call. -/
def SearchError.isDegradable : SearchError → Bool
  | syntaxError _ => true
  | index _ => true
  | build _ => false
  | source _ => false

/-- The outcome of a search call. -/
structure Report where
  items : List Item
  /-- The error that left the result empty, if one did. -/
  degraded : Option SearchError
deriving DecidableEq

/-- A source with the settings of its searches. -/
structure Service where
  source : Source
  config : Config

namespace Service

/-- The index of the records that a caller sees, for a clause. -/
def visibleIndex (clause : Clause) (caller : Caller) (records : List Record) : Index :=
  .ofDocuments ((records.filter caller.sees).map fun r => Record.project r clause.paths)

/-- The item of a hit, if its record is still there and the caller sees it. -/
def pull? (s : Service) (caller : Caller) (hit : StoredHit) : Option Item := do
  let id ← hit.id
  if id = Record.missingId then none
  else
    let record ← s.source.find? id
    if caller.sees record then some (s.source.summarize record) else none

/-- Searches an index in a call directory, which is gone afterwards. -/
def searchStored (s : Service) (clause : Clause) (caller : Caller) (index : Index)
    (store : Store) : Except SearchError (List StoredHit) × Store :=
  match store.acquire caller.name with
  | .error e => (.error (.build e), store)
  | .ok (call, acquired) =>
    match acquired.write call index with
    | .error e => (.error (.build e), acquired.release call)
    | .ok written =>
      let hits := (written.openIndex call).bind fun index => index.search clause s.config.limit
      (hits.mapError .index, written.release call)

/-- Runs a query. -/
def run (s : Service) (caller : Caller) (query : String) (store : Store) :
    Except SearchError (List Item) × Store :=
  match Clause.parse query with
  | .error e => (.error (.syntaxError e), store)
  | .ok clause =>
    match s.source.records with
    | .error e => (.error (.source e), store)
    | .ok records =>
      let (hits, store) := s.searchStored clause caller (visibleIndex clause caller records) store
      (hits.map fun hits => hits.filterMap (s.pull? caller), store)

/-- Runs a query and reports its outcome, with what is in the store afterwards. -/
def search (s : Service) (caller : Caller) (query : String) (store : Store) :
    Except SearchError Report × Store :=
  match s.run caller query store with
  | (.ok items, store) => (.ok ⟨items, none⟩, store)
  | (.error e, store) => (if e.isDegradable then .ok ⟨[], some e⟩ else .error e, store)

end Service

end RegistrySearch
