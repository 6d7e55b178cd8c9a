import Mathlib.Data.List.Induction
import RegistrySearch.Proofs.Store.Sessions

/-!
# Traces

What a call holds after a run, what it has removed, and which index it has at hand can be read off
from its own steps and answers (`System.ofCall`): every directory that it has made is removed once,
and only its own steps change its handle.
-/

namespace RegistrySearch

open Text (sanitizeComponent)

/-! ### Steps and answers -/

namespace Action

/-- The directory that a step makes. -/
def made? : Action → Option Call
  | .acquire caller number => some ⟨sanitizeComponent caller, number⟩
  | _ => none

/-- The directory that a call holds after a step, when it held another one before. -/
def holds (held : Option Call) : Action → Option Call
  | .acquire caller number => some ⟨sanitizeComponent caller, number⟩
  | .release => none
  | .drop => none
  | _ => held

/-- Whether a step leaves the handle as it is. -/
def KeepsHandle : Action → Prop
  | .openIndex => False
  | .search _ _ => False
  | _ => True

end Action

namespace Answer

/-- The directory that a step has made. -/
def acquired? : Answer → Option Call
  | .acquired call => some call
  | _ => none

/-- The directory that a step has removed. -/
def removed? : Answer → Option Call
  | .removed call => call
  | _ => none

end Answer

namespace Session.Step

variable {s s' : Store} {session next : Session} {a : Action} {answer : Answer}

theorem held? (h : session.Step s a answer next s') : next.held? = a.holds session.held? := by
  cases h with
  | acquire idle new made =>
    obtain ⟨-, -, rfl, -⟩ := Store.acquire_numbered_eq_ok_iff.mp made
    rfl
  | openIndex held => exact held?_reopened
  | write | search | release | drop | dropReleased => rfl

/-- A directory that is made was not there. -/
theorem notMem_of_made (h : session.Step s a answer next s') {call : Call}
    (ha : a.made? = some call) : call ∉ s.directories := by
  cases h with
  | acquire idle new made =>
    obtain ⟨-, -, rfl, -⟩ := Store.acquire_numbered_eq_ok_iff.mp made
    exact Option.some.inj ha ▸ new
  | write | openIndex | search | release | drop | dropReleased => cases ha

/-- What a session has made, it has removed or holds. -/
theorem acquired? (h : session.Step s a answer next s') :
    session.held?.toList ++ answer.acquired?.toList =
      answer.removed?.toList ++ next.held?.toList := by
  cases h with
  | acquire idle new made =>
    rw [held?_of_guard_none idle]
    rfl
  | write | search => exact List.append_nil _
  | openIndex held => rw [held?_reopened]; exact List.append_nil _
  | release held => rw [held?_of_guard held]; rfl
  | drop held => rw [held?_of_guard held]; rfl
  | dropReleased released => rw [Session.held?, released]; rfl

theorem handle (h : session.Step s a answer next s') (ha : a.KeepsHandle) :
    next.handle = session.handle := by
  cases h with
  | openIndex | search => exact ha.elim
  | acquire | write | release | drop | dropReleased => rfl

end Session.Step

/-! ### The steps of one call -/

namespace System

variable {α : Type} {i j : Nat} {a : Action} {answer : Answer} {x : α} {items : List (Nat × α)}
  {trace front back : List (Nat × Action)} {answers : List (Nat × Answer)} {s : Store}
  {sys last : System} {call : Call}

/-- What belongs to one call. -/
def ofCall (i : Nat) (items : List (Nat × α)) : List (Nat × α) := items.filter (·.1 = i)

theorem ofCall_append {others : List (Nat × α)} :
    ofCall i (items ++ others) = ofCall i items ++ ofCall i others :=
  List.filter_append items others

theorem ofCall_append_self : ofCall i (items ++ [(i, x)]) = ofCall i items ++ [(i, x)] := by
  simp [ofCall]

theorem ofCall_append_of_ne (h : i ≠ j) : ofCall j (items ++ [(i, x)]) = ofCall j items := by
  simp [ofCall, h]

/-- The directory that a call holds after its steps: it has made it, and has neither released it nor
been dropped since. -/
def heldBy (i : Nat) (trace : List (Nat × Action)) : Option Call :=
  (ofCall i trace).foldl (fun held step => step.2.holds held) none

theorem heldBy_append_self : heldBy i (trace ++ [(i, a)]) = a.holds (heldBy i trace) := by
  rw [heldBy, ofCall_append_self, List.foldl_append, List.foldl_cons, List.foldl_nil, heldBy]

theorem heldBy_append_of_ne (h : i ≠ j) : heldBy j (trace ++ [(i, a)]) = heldBy j trace := by
  rw [heldBy, ofCall_append_of_ne h, heldBy]

/-- A directory that is held was made by its call. -/
theorem exists_made_of_heldBy (h : heldBy i trace = some call) :
    ∃ a, (i, a) ∈ trace ∧ a.made? = some call := by
  induction trace using List.reverseRecOn with
  | nil => cases h
  | append_singleton front step ih =>
    obtain ⟨j, a⟩ := step
    -- a step of another call, or one that keeps what is held
    have hkeep (hfront : heldBy i front = some call) :
        ∃ b, (i, b) ∈ front ++ [(j, a)] ∧ b.made? = some call := by
      obtain ⟨b, hmem, hb⟩ := ih hfront
      exact ⟨b, List.mem_append_left _ hmem, hb⟩
    by_cases hj : j = i
    · subst hj
      rw [heldBy_append_self] at h
      cases a with
      | acquire caller number =>
        exact ⟨.acquire caller number, List.mem_append_right _ (List.mem_singleton_self _), h⟩
      | release | drop => cases h
      | write | openIndex | search => exact hkeep h
    · rw [heldBy_append_of_ne hj] at h
      exact hkeep h

/-! ### Runs by their last step -/

theorem run?_append : sys.run? (front ++ back) = some (answers, last) ↔
    ∃ before mid after, sys.run? front = some (before, mid) ∧ mid.run? back = some (after, last) ∧
      answers = before ++ after := by
  induction front generalizing sys answers with
  | nil => simp [run?]
  | cons step front ih =>
    obtain ⟨i, a⟩ := step
    simp only [List.cons_append, run?_cons, ih]
    constructor
    · rintro ⟨answer, session, t, _, hstep, ⟨before, mid, after, hfront, hback, rfl⟩, rfl⟩
      exact ⟨_, mid, after, ⟨answer, session, t, before, hstep, hfront, rfl⟩, hback, rfl⟩
    · rintro ⟨_, mid, after, ⟨answer, session, t, before, hstep, hfront, rfl⟩, hback, rfl⟩
      exact ⟨answer, session, t, _, hstep, ⟨before, mid, after, hfront, hback, rfl⟩, rfl⟩

theorem run?_append_singleton : sys.run? (front ++ [(i, a)]) = some (answers, last) ↔
    ∃ before mid answer session t, sys.run? front = some (before, mid) ∧
      (mid.sessions i).Step mid.store a answer session t ∧ last = mid.update i session t ∧
      answers = before ++ [(i, answer)] := by
  rw [run?_append]
  constructor
  · rintro ⟨before, mid, _, hfront, hback, rfl⟩
    obtain ⟨answer, session, t, _, hstep, hend, rfl⟩ := run?_cons.mp hback
    cases hend
    exact ⟨before, mid, answer, session, t, hfront, hstep, rfl, rfl⟩
  · rintro ⟨before, mid, answer, session, t, hfront, hstep, rfl, rfl⟩
    have hback : mid.run? [(i, a)] = some ([(i, answer)], mid.update i session t) :=
      run?_cons.mpr ⟨answer, session, t, [], hstep, rfl, rfl⟩
    exact ⟨before, mid, _, hfront, hback, rfl⟩

/-- The directories that are held are those that were made and not given back. -/
theorem held?_eq_heldBy (h : (start s).run? trace = some (answers, sys)) :
    sys.held? = fun i => heldBy i trace := by
  induction trace using List.reverseRecOn generalizing answers sys with
  | nil =>
    cases h
    rfl
  | append_singleton front step ih =>
    obtain ⟨i, a⟩ := step
    obtain ⟨before, mid, answer, session, t, hfront, hstep, rfl, -⟩ := run?_append_singleton.mp h
    have hmid : ∀ j, (mid.sessions j).held? = heldBy j front := congrFun (ih hfront)
    funext j
    by_cases hj : i = j
    · subst hj
      rw [held?, sessions_update_self, heldBy_append_self, hstep.held?, hmid]
    · rw [held?, sessions_update_of_ne (Ne.symm hj), heldBy_append_of_ne hj, hmid]

/-- Every directory is removed once: those that a call has made are those that it has removed, one
after the other, and the one that it holds. -/
theorem acquired_eq (h : (start s).run? trace = some (answers, sys)) :
    (ofCall i answers).filterMap (·.2.acquired?) =
      (ofCall i answers).filterMap (·.2.removed?) ++ (heldBy i trace).toList := by
  induction trace using List.reverseRecOn generalizing answers sys with
  | nil =>
    cases h
    rfl
  | append_singleton front step ih =>
    obtain ⟨j, a⟩ := step
    obtain ⟨before, mid, answer, session, t, hfront, hstep, rfl, rfl⟩ := run?_append_singleton.mp h
    by_cases hj : j = i
    · subst hj
      have hheld : (mid.sessions j).held? = heldBy j front := congrFun (held?_eq_heldBy hfront) j
      have honce := hstep.acquired?
      rw [hstep.held?, hheld] at honce
      have hlast : ∀ f : Answer → Option Call,
          [(j, answer)].filterMap (f ·.2) = (f answer).toList := fun f => by
        rw [List.filterMap_eq_flatMap_toList, List.flatMap_singleton]
      rw [ofCall_append_self, List.filterMap_append, List.filterMap_append, heldBy_append_self,
        ih hfront, hlast, hlast, List.append_assoc, honce, List.append_assoc]
    · -- the answers of the call are the same as before
      rw [ofCall_append_of_ne hj, heldBy_append_of_ne hj, ih hfront]

/-- A handle is not changed by any step but those of its own call that read it or search it. -/
theorem handle_eq (h : sys.run? trace = some (answers, last))
    (hkeep : ∀ a, (i, a) ∈ trace → a.KeepsHandle) :
    (last.sessions i).handle = (sys.sessions i).handle := by
  induction trace generalizing sys answers with
  | nil =>
    cases h
    rfl
  | cons step rest ih =>
    obtain ⟨j, a⟩ := step
    obtain ⟨answer, session, t, others, hstep, hrest, -⟩ := run?_cons.mp h
    rw [ih hrest fun a ha => hkeep a (List.mem_cons_of_mem _ ha)]
    by_cases hj : i = j
    · subst hj
      rw [sessions_update_self, hstep.handle (hkeep a List.mem_cons_self)]
    · rw [sessions_update_of_ne hj]

end System

end RegistrySearch
