import RegistrySearch.Store

/-!
# Sessions on a shared store

Calls that run at the same time share the store and take their steps in any order. Each of them
holds the **guard** of its directory and, once it has opened the segment, the index that was read. A
guard removes its directory when it is released; being dropped, which is what comes last in any
case, it does so only if that has not been done before.

`Session.step?` is one step of one call, with what the call learns from it, and `System.run?` takes
the steps of all calls one by one, in an order that anybody may choose. Steps in which the store
fails are not taken; in particular nothing is released that cannot be removed.
-/

namespace RegistrySearch

open Query (Clause)

/-- The guard of a call directory. -/
structure Guard where
  /-- The directory, in which the segment is written and read. -/
  call : Call
  /-- Whether the directory is still to be removed. -/
  pending : Bool
deriving DecidableEq

namespace Guard

/-- The directory that is still to be removed. -/
def held? (g : Guard) : Option Call := if g.pending then some g.call else none

/-- Removes the directory, unless that has been done. -/
def cleanUp (g : Guard) (s : Store) : Guard × Store :=
  match g.held? with
  | some call => ({ g with pending := false }, s.release call)
  | none => (g, s)

end Guard

/-- The store when the next call directory gets another number. -/
def Store.numbered (s : Store) (number : Nat) : Store := { s with next := number }

/-- What a call holds. -/
structure Session where
  guard : Option Guard
  /-- The index that was read last, if it has not been searched. -/
  handle : Option Index

/-- A step of a call. -/
inductive Action where
  /-- Makes a call directory for a caller, with a number that is new in its scope. -/
  | acquire (caller : String) (number : Nat)
  | write (index : Index)
  | openIndex
  /-- Searches the index that was read, which is used up. -/
  | search (clause : Clause) (limit : Nat)
  | release
  /-- Gives the guard up, at the end or before it. -/
  | drop

/-- What a call learns from a step. -/
inductive Answer where
  | acquired (call : Call)
  | written
  | opened (outcome : Except IndexError Index)
  | found (outcome : Except IndexError (List StoredHit))
  /-- A directory is removed, or it was before. -/
  | removed (call : Option Call)

/-- The steps of a search call. What it has released it drops at the end. -/
def Action.searchCall (caller : String) (number : Nat) (index : Index) (clause : Clause)
    (limit : Nat) : List Action :=
  [.acquire caller number, .write index, .openIndex, .search clause limit, .release, .drop]

namespace Session

/-- The session of a call that has not begun. -/
def idle : Session := ⟨none, none⟩

/-- The directory that a session has to remove. -/
def held? (session : Session) : Option Call := session.guard.bind Guard.held?

/-- The handle after an attempt to open the segment: one that fails leaves what was there. -/
def reopened (session : Session) (outcome : Except IndexError Index) : Session :=
  match outcome with
  | .ok index => { session with handle := some index }
  | .error _ => session

/-- A step of a session on a store, `none` if it cannot be taken now or if the store fails in it. A
guard that has been released is moved away: all that is left is to drop it. -/
def step? (session : Session) (s : Store) : Action → Option (Answer × Session × Store)
  | .acquire caller number =>
    if session.guard.isSome || s.has ⟨Text.sanitizeComponent caller, number⟩ then none
    else
      match (s.numbered number).acquire caller with
      | .ok (call, t) => some (.acquired call, { session with guard := some ⟨call, true⟩ }, t)
      | .error _ => none
  | .write index =>
    match session.held? with
    | some call =>
      match s.write call index with
      | .ok t => some (.written, session, t)
      | .error _ => none
    | none => none
  | .openIndex =>
    match session.held? with
    | some call => some (.opened (s.openIndex call), session.reopened (s.openIndex call), s)
    | none => none
  | .search clause limit =>
    match session.handle with
    | some index => some (.found (index.search clause limit), { session with handle := none }, s)
    | none => none
  | .release =>
    match session.guard with
    | some ⟨call, true⟩ =>
      if s.removal = .whole then
        let (guard, t) := Guard.cleanUp ⟨call, true⟩ s
        some (.removed (some call), { session with guard := some guard }, t)
      else none
    | _ => none
  | .drop =>
    match session.guard with
    | some guard =>
      if guard.pending ∧ s.removal ≠ .whole then none
      else some (.removed guard.held?, { session with guard := none }, (guard.cleanUp s).2)
    | none => none

end Session

/-- The store with the sessions of all calls. -/
structure System where
  store : Store
  sessions : Nat → Session

namespace System

/-- The store before any call begins. -/
def start (s : Store) : System := ⟨s, fun _ => .idle⟩

/-- The system when a session and the store have changed. -/
def update (sys : System) (i : Nat) (session : Session) (t : Store) : System :=
  ⟨t, fun j => if j = i then session else sys.sessions j⟩

/-- A step of the call `i`. -/
def step? (sys : System) (i : Nat) (a : Action) : Option (Answer × System) :=
  ((sys.sessions i).step? sys.store a).map fun (answer, session, t) =>
    (answer, sys.update i session t)

/-- Steps one after the other, each with the call that takes it, and their answers. -/
def run? (sys : System) : List (Nat × Action) → Option (List (Nat × Answer) × System)
  | [] => some ([], sys)
  | (i, a) :: rest => do
    let (answer, next) ← sys.step? i a
    let (answers, last) ← next.run? rest
    some ((i, answer) :: answers, last)

end System

end RegistrySearch
