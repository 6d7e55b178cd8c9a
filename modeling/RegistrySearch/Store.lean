import RegistrySearch.Search.Evaluation
import RegistrySearch.Segment.Basic
import RegistrySearch.Text.Component

/-!
# The store of call directories

Every search call keeps its index in a directory of its own. The directories of one caller lie in a
**scope**, a directory named after the caller, and the scopes lie in the root. A call directory has
a fresh number, holds one segment at most, and is removed when it is released; scopes stay.

Anything that is done to a directory can fail, and what cannot be done in a store is part of its
state: directories that cannot be made and segments that cannot be written are a `BuildError`,
segments that cannot be read an `IndexError`. A removal that fails is no error at all, it only gets
less far.
-/

namespace RegistrySearch

/-- Why an index cannot be built. -/
inductive BuildError where
  /-- The directory of a scope or of a call cannot be made. -/
  | directory
  /-- The segment cannot be written. -/
  | segment
deriving DecidableEq

/-- Why an index cannot be read or searched. -/
inductive IndexError where
  /-- There is no segment, or it cannot be read. -/
  | missing
  /-- What is read is no segment. -/
  | unreadable (error : Segment.ReadError)
  | invalidPattern (error : InvalidPattern)
deriving DecidableEq

/-- A call directory: its scope, and the number that tells it from all others. -/
structure Call where
  scope : String
  number : Nat
deriving DecidableEq

/-- How far the removal of a call directory gets. -/
inductive Removal where
  /-- The directory is gone. -/
  | whole
  /-- What was in the directory is gone, the directory itself stays. -/
  | contents
  /-- Nothing is removed. -/
  | nothing
deriving DecidableEq

/-- What lies in the root of the index directories, and what can be done there. -/
structure Store where
  /-- Whether directories can be made in the root. -/
  takesDirectories : Bool
  /-- Whether segments can be written. -/
  takesSegments : Bool
  /-- Whether segments can be read. -/
  givesSegments : Bool
  /-- How far removals get. -/
  removal : Removal
  /-- The scopes, each once. -/
  scopes : List String
  /-- The call directories, each with its segment if it has one. -/
  calls : List (Call × Option (List UInt8))
  /-- A number that no call directory has had yet. -/
  next : Nat

namespace Store

/-- An empty root. -/
def empty : Store := ⟨true, true, true, .whole, [], [], 0⟩

/-- A root that is no directory. -/
def blocked : Store := ⟨false, false, true, .whole, [], [], 0⟩

/-- The call directories in a scope. -/
def callsIn (s : Store) (scope : String) : List Call :=
  (s.calls.map (·.1)).filter (·.scope = scope)

/-- Whether a call directory is there. -/
def has (s : Store) (call : Call) : Bool := (s.calls.lookup call).isSome

/-- The segment of a call. -/
def segment? (s : Store) (call : Call) : Option (List UInt8) := (s.calls.lookup call).join

/-- Makes a call directory in the scope of a caller. -/
def acquire (s : Store) (caller : String) : Except BuildError (Call × Store) :=
  let scope := Text.sanitizeComponent caller
  if !s.takesDirectories || Text.nameLimit < scope.utf8ByteSize then .error .directory
  else
    let call : Call := ⟨scope, s.next⟩
    .ok (call, { s with
      scopes := if s.scopes.contains scope then s.scopes else s.scopes ++ [scope]
      calls := s.calls ++ [(call, none)]
      next := s.next + 1 })

/-- Puts a segment into a call directory, or takes it out; nothing happens to one that is not
there. -/
def setSegment (s : Store) (call : Call) (segment : Option (List UInt8)) : Store :=
  { s with calls := s.calls.map fun (c, old) => (c, if c = call then segment else old) }

/-- Writes an index as the segment of a call. -/
def write (s : Store) (call : Call) (index : Index) : Except BuildError Store :=
  if s.takesSegments && s.has call then .ok (s.setSegment call (some (Segment.ofIndex index)))
  else .error .segment

/-- Reads the index of a call back. -/
def openIndex (s : Store) (call : Call) : Except IndexError Index :=
  if !s.givesSegments then .error .missing
  else
    match s.segment? call with
    | none => .error .missing
    | some bytes => (Segment.readIndex bytes).mapError .unreadable

/-- Removes a call directory with all that is in it, as far as removals get. That one fails is not
an error: the directory stays, and whoever releases it does not learn of it. -/
def release (s : Store) (call : Call) : Store :=
  { s with
    calls := match s.removal with
      | .whole => s.calls.filter fun (c, _) => c ≠ call
      | .contents => (s.setSegment call none).calls
      | .nothing => s.calls }

end Store

/-! ### Searching an index that was read -/

/-- A hit with the identifier that is stored for it. -/
structure StoredHit where
  doc : Ordinal
  score : Numeral.Binary64
  id : Option Int64
deriving DecidableEq

/-- The best hits of a clause, each with its stored identifier. -/
def Index.search (index : Index) (clause : Query.Clause) (limit : Nat) :
    Except IndexError (List StoredHit) :=
  match index.evaluate clause limit with
  | .ok hits => .ok (hits.map fun h => ⟨h.doc, h.score, index.storedId? h.doc⟩)
  | .error e => .error (.invalidPattern e)

end RegistrySearch
