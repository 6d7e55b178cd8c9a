import RegistrySearch.CommandLine.Arguments
import RegistrySearch.Numeral.Integer

/-!
# Commands

Two commands are known: `search` runs a query over the records of a file, and `fields` shows how a
query is read and which fields it needs. Instead of running a command one can ask for help on it, on
the program as a whole, or for the version; `Request.ofArguments` decides what a list of arguments
asks for.
-/

namespace RegistrySearch.CommandLine

/-- What a search on the command line is told. -/
structure SearchCommand where
  /-- The file with the records. -/
  records : String
  /-- The name of the caller. -/
  user : String
  /-- Patterns of the services that the caller sees. -/
  allowed : List String
  /-- The file with the settings. -/
  config? : Option String
  /-- The directory in which scopes are kept. -/
  indexRoot? : Option String
  /-- The number of results. -/
  maxResults? : Option Nat
  query : String
deriving DecidableEq

/-- The commands. -/
inductive Command where
  | search (c : SearchCommand)
  | fields (query : String)
deriving DecidableEq

/-- What help is about. -/
inductive Topic where
  | program
  | search
  | fields
deriving DecidableEq

/-- What arguments ask for. -/
inductive Request where
  | run (command : Command)
  | version
  | help (topic : Topic)
deriving DecidableEq

namespace SearchCommand

/-- Whether a text can name a file. -/
def isPath (text : String) : Bool := !text.isEmpty

/-- The name of the caller if none is given. -/
def anonymous : String := "anonymous"

/-- The settings of a search. -/
def settings : List Setting :=
  [⟨"records", some 'r', false, isPath⟩,
    ⟨"user", some 'u', false, fun _ => true⟩,
    ⟨"allow", some 'a', true, fun _ => true⟩,
    ⟨"config", some 'c', false, isPath⟩,
    ⟨"index-root", none, false, isPath⟩,
    ⟨"max-results", none, false, fun text => (Numeral.readUInt64? text).isSome⟩]

/-- The search that is asked for. The directory of the indexes can also come from the environment of
the program; it must be a path then, too. -/
def ofGiven (environment? : Option String) (g : Given) : Except ArgumentFault SearchCommand := do
  let indexRoot? ← match g.value? "index-root", environment? with
    | some root, _ => .ok (some root)
    | none, some root =>
      if isPath root then .ok (some root) else .error (.invalidValue "index-root" root)
    | none, none => .ok none
  match g.value? "records", g.words with
  | none, _ => .error (.missing "--records")
  | some _, [] => .error (.missing "a query")
  | some records, query :: _ =>
    return {
      records, query, indexRoot?
      user := (g.value? "user").getD anonymous
      allowed := g.values "allow"
      config? := g.value? "config"
      maxResults? := ((g.value? "max-results").bind Numeral.readUInt64?).map UInt64.toNat }

end SearchCommand

namespace Request

/-- The request of the arguments of a search. -/
def ofSearch (environment? : Option String) (arguments : List String) :
    Except ArgumentFault Request := do
  match ← Given.nothing.read SearchCommand.settings 1 arguments with
  | none => return help .search
  | some g => return run (.search (← SearchCommand.ofGiven environment? g))

/-- The request of the arguments of `fields`. -/
def ofFields (arguments : List String) : Except ArgumentFault Request := do
  match ← Given.nothing.read [] 1 arguments with
  | none => return help .fields
  | some g =>
    match g.words with
    | [] => .error (.missing "a query")
    | query :: _ => return run (.fields query)

/-- The request of the arguments of `help`. -/
def ofHelp : List String → Except ArgumentFault Request
  | [] => .ok (help .program)
  | ["search"] => .ok (help .search)
  | ["fields"] => .ok (help .fields)
  | ["help"] => .ok (help .program)
  | name :: _ => .error (.unknownCommand name)

/-- The request of a list of arguments. -/
def ofArguments (environment? : Option String) : List String → Except ArgumentFault Request
  | [] => .error .missingCommand
  | "search" :: rest => ofSearch environment? rest
  | "fields" :: rest => ofFields rest
  | "help" :: rest => ofHelp rest
  | argument :: _ =>
    match Argument.ofText argument with
    | .named "help" none => .ok (help .program)
    | .named "version" none => .ok version
    | .lettered 'h' _ => .ok (help .program)
    | .lettered 'V' _ => .ok version
    | .separator => .error .missingCommand
    | .word name => .error (.unknownCommand name)
    | _ => .error (.unknownArgument argument)

end Request

end RegistrySearch.CommandLine
