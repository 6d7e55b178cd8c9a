import RegistrySearch.CommandLine.Help
import RegistrySearch.CommandLine.Workspace
import RegistrySearch.Query.Tree
import RegistrySearch.Service.Search
import RegistrySearch.Text.Quoted

/-!
# Running commands

A run reads its arguments, does what they ask for on a file system, and ends with an `Outcome`: what
is printed, and the code that the program exits with. A search (`runSearch`) first reads its
settings, from the arguments and the `Environment`, then the records, then the patterns of what the
caller sees; the first to fail ends the run, and its `Failure` is what is printed. Showing the
fields of a query (`runFields`) touches no files.
-/

namespace RegistrySearch.CommandLine

open Query (Clause)

/-- What surrounds a run. -/
structure Environment where
  /-- The directory for temporary files. -/
  temporary : String
  /-- The directory in which scopes are kept, if the environment names one. -/
  indexRoot? : Option String
  /-- Whether what is printed can be painted. -/
  color : Bool

/-- Why a command fails. -/
inductive Failure where
  | unreadableConfig (path : String)
  | invalidConfig (path : String)
  | records (path : String) (error : SourceError)
  | invalidPattern
  | search (scope : String) (error : SearchError)
  | query (text : String) (error : Query.SyntaxError)
deriving DecidableEq

/-- The wording for a source that has no records. -/
def sourceMessage (path : String) : SourceError → String
  | .unreadable => "cannot read records from " ++ path
  | .notJson => "invalid record JSON"
  | .notRecords => SourceError.notRecordsText

/-- The wording for an error of a search call. The scope is given by its path. -/
def searchMessage (scope : String) : SearchError → String
  | .build .directory => "cannot create index directory " ++ scope
  | .build .segment => "cannot write index segment " ++ scope
  | .syntaxError e => e.text
  | .index _ => "cannot read the index"
  | .source e => sourceMessage scope e

/-- The wording of a failure. What caused one stands behind a colon. -/
def Failure.message : Failure → String
  | unreadableConfig path => "cannot read config " ++ path
  | invalidConfig path => "invalid config " ++ path
  | records path e => "loading records from " ++ path ++ ": " ++ sourceMessage path e
  | invalidPattern => "invalid --allow pattern"
  | search scope e => searchMessage scope e
  | query text e => "cannot parse " ++ Text.quoted text ++ ": " ++ e.text

/-- How a run ends. -/
inductive Outcome where
  /-- All is done, and `output` is printed. -/
  | done (output : String)
  | failed (failure : Failure)
  /-- The arguments ask for nothing that can be done. -/
  | misused (fault : ArgumentFault)
deriving DecidableEq

namespace Outcome

/-- The outcome of a command. -/
def ofCommand : Except Failure String → Outcome
  | .ok output => done output
  | .error e => failed e

/-- The code that the program exits with. -/
def exitCode : Outcome → Nat
  | done _ => 0
  | failed _ => 1
  | misused _ => 2

/-- What is printed. -/
def output : Outcome → String
  | done output => output
  | failed _ => ""
  | misused _ => ""

/-- The wording of what went wrong. -/
def message? : Outcome → Option String
  | done _ => none
  | failed e => some e.message
  | misused e => some e.message

end Outcome

/-- What the command `fields` prints. -/
def runFields (color : Bool) (query : String) : Except Failure String :=
  match Clause.parse query with
  | .error e => .error (.query query e)
  | .ok clause =>
    let paths := clause.paths
    .ok (clause.tree color ++ "\n" ++ "Fields (" ++ toString paths.size ++ "):\n"
      ++ paths.listing color)

variable {m : Type → Type} [Monad m]

/-- The settings of a search: those of its file, with what the arguments say instead. -/
def readConfig (fs : FileSystem m) (env : Environment) (c : SearchCommand) :
    ExceptT Failure m Config := do
  let base := Config.default (joinPath env.temporary programName)
  let config ← match c.config? with
    | none => pure base
    | some path =>
      match ← fs.text? path with
      | none => throw (.unreadableConfig path)
      | some text =>
        match Config.ofText? base text with
        | some config => pure config
        | none => throw (.invalidConfig path)
  return ⟨c.indexRoot?.getD config.indexRoot, c.maxResults?.getD config.maxResults⟩

/-- Makes the directory of a scope for a query, and gives the store to search in. Nothing is made
for a query that cannot be read. -/
def openStore (fs : FileSystem m) (scope query : String) : m Store :=
  match Clause.parse query with
  | .error _ => return .empty
  | .ok _ => return if ← fs.makeDirectory scope then .empty else .blocked

/-- Runs a search and gives what it prints. -/
def runSearch (fs : FileSystem m) (env : Environment) (c : SearchCommand) :
    ExceptT Failure m String := do
  let config ← readConfig fs env c
  match Source.ofText (← fs.text? c.records) with
  | .error e => throw (.records c.records e)
  | .ok source =>
    match Caller.withPatterns? c.user c.allowed with
    | none => throw .invalidPattern
    | some caller =>
      let scope := joinPath config.indexRoot (Text.sanitizeComponent c.user)
      let store ← (openStore fs scope c.query : m Store)
      match (Service.search ⟨source, config⟩ caller c.query store).1 with
      | .error e => throw (.search scope e)
      | .ok report => return (Json.Value.array (report.items.map Item.toJson)).pretty ++ "\n"

/-- Runs the program on its arguments. -/
def run (fs : FileSystem m) (env : Environment) (arguments : List String) : m Outcome :=
  match Request.ofArguments env.indexRoot? arguments with
  | .error fault => return .misused fault
  | .ok .version => return .done versionText
  | .ok (.help topic) => return .done topic.text
  | .ok (.run (.fields query)) => return .ofCommand (runFields env.color query)
  | .ok (.run (.search c)) => return .ofCommand (← (runSearch fs env c).run)

end RegistrySearch.CommandLine
