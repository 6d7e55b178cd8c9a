import RegistrySearch.Proofs.Store.Scopes
import RegistrySearch.Proofs.Store.Traces

/-!
# Calls do not interfere

When calls take their steps on one store in any order, each of them gets the answers that it gets
when it runs alone, and at any moment the store holds the directories of those calls that have made
one and have not given it back (`System.Isolated`).

A step has the same answer on every store with the same segment in the directory that the session
holds (`Session.Step.transfer`). So a call can be followed, step by step, by a run of it alone
(`System.Alone`), as long as the names of new directories are not in use.
-/

namespace RegistrySearch

open Query (Clause)
open Text (sanitizeComponent)

/-! ### One step on two stores -/

namespace Store

variable {s t : Store} {call : Call} {caller : String} {segment : Option (List UInt8)}

theorem segment?_acquire (h : s.acquire caller = .ok (call, t)) (new : call ∉ s.directories) :
    t.segment? call = none := by
  obtain ⟨-, -, -, rfl⟩ := acquire_eq_ok_iff.mp h
  have hnone : s.calls.lookup call = none := by
    rwa [← has_iff, has, Option.isSome_iff_ne_none, not_not] at new
  simp [segment?, List.lookup_append, hnone]

theorem segment?_setSegment_self (h : call ∈ s.directories) :
    (s.setSegment call segment).segment? call = segment :=
  segment?_setSegment (has_iff.mpr h) segment

theorem openIndex_congr (hgives : s.givesSegments = t.givesSegments)
    (h : s.segment? call = t.segment? call) : s.openIndex call = t.openIndex call := by
  rw [openIndex, hgives, h, openIndex]

end Store

namespace Session.Step

variable {s s' t : Store} {session next : Session} {a : Action} {answer : Answer}

/-- A step that can be taken on one store can be taken on another one, with the same answer, if the
directory that the session holds is there with the same segment. -/
theorem transfer (h : session.Step s a answer next s')
    (hdirectories : t.takesDirectories = s.takesDirectories)
    (hsegments : t.takesSegments = s.takesSegments)
    (hgives : t.givesSegments = s.givesSegments) (hremoval : t.removal = s.removal)
    (hnew : ∀ call, a.made? = some call → call ∉ t.directories)
    (hheld : ∀ call, session.held? = some call →
      call ∈ t.directories ∧ t.segment? call = s.segment? call) :
    ∃ t', session.Step t a answer next t' ∧
      ∀ call, next.held? = some call → t'.segment? call = s'.segment? call := by
  cases h with
  | @acquire caller number call _ idle new made =>
    obtain ⟨htakes, hname, rfl, -⟩ := Store.acquire_numbered_eq_ok_iff.mp made
    have hnew := hnew _ rfl
    obtain ⟨t', hmade⟩ :=
      Store.exists_acquire_numbered (s := t) (hdirectories ▸ htakes) hname number
    refine ⟨_, .acquire idle hnew hmade, fun call hcall => ?_⟩
    obtain rfl : _ = call := Option.some.inj hcall
    -- a new directory is empty on both
    rw [Store.segment?_acquire hmade hnew, Store.segment?_acquire made new]
  | @write call index held takes there =>
    obtain ⟨hthere, -⟩ := hheld call held
    refine ⟨_, .write index held (hsegments ▸ takes) hthere, fun other hother => ?_⟩
    obtain rfl : call = other := Option.some.inj (held.symm.trans hother)
    rw [Store.segment?_setSegment_self hthere, Store.segment?_setSegment_self there]
  | @openIndex call held =>
    rw [← Store.openIndex_congr hgives (hheld call held).2]
    refine ⟨_, .openIndex held, fun other hother => ?_⟩
    exact (hheld other (held?_reopened ▸ hother)).2
  | search clause limit read =>
    exact ⟨_, .search clause limit read, fun other hother => (hheld other hother).2⟩
  -- nothing is held afterwards
  | release held clean =>
    exact ⟨_, .release held (hremoval ▸ clean), fun other hother => nomatch hother⟩
  | drop held clean =>
    exact ⟨_, .drop held (hremoval ▸ clean), fun other hother => nomatch hother⟩
  | dropReleased released => exact ⟨_, .dropReleased released, fun other hother => nomatch hother⟩

end Session.Step

namespace System

variable {i j : Nat} {a : Action} {answer : Answer} {trace front back : List (Nat × Action)}
  {answers : List (Nat × Answer)} {s t : Store} {sys last : System} {session : Session}
  {call : Call}

/-! ### Calls together and alone -/

/-- The name of a new directory is not in use when the directory is made. -/
def Names (trace : List (Nat × Action)) : Prop :=
  ∀ front i a back call, trace = front ++ (i, a) :: back → a.made? = some call →
    ∀ j, heldBy j front ≠ some call

/-- After its steps alone, a call has had the same answers, and it holds and sees the same. -/
def Alone (s : Store) (trace : List (Nat × Action)) (answers : List (Nat × Answer)) (sys : System)
    (i : Nat) : Prop :=
  ∃ alone, (start s).run? (ofCall i trace) = some (ofCall i answers, alone) ∧
    alone.sessions i = sys.sessions i ∧
    ∀ call, heldBy i trace = some call → sys.store.segment? call = alone.store.segment? call

/-- Names that are all different are never in use. -/
theorem names_of_nodup (h : (trace.filterMap (·.2.made?)).Nodup) : Names trace := by
  intro front i a back call ht hmade j hj
  obtain ⟨b, hmem, hb⟩ := exists_made_of_heldBy hj
  have hfront : call ∈ front.filterMap (·.2.made?) := List.mem_filterMap.mpr ⟨(j, b), hmem, hb⟩
  have hback : call ∈ ((i, a) :: back).filterMap (·.2.made?) :=
    List.mem_filterMap.mpr ⟨(i, a), List.mem_cons_self, hmade⟩
  rw [ht, List.filterMap_append] at h
  exact List.disjoint_of_nodup_append h hfront hback

theorem Names.of_append (h : Names (front ++ back)) : Names front := by
  intro front' i a back' call hf
  exact h front' i a (back' ++ back) call (by rw [hf, List.append_assoc, List.cons_append])

theorem isSome_run?_of_append (h : (sys.run? (front ++ back)).isSome) :
    (sys.run? front).isSome := by
  obtain ⟨⟨_, _⟩, hrun⟩ := Option.isSome_iff_exists.mp h
  obtain ⟨_, _, _, hfront, -⟩ := run?_append.mp hrun
  rw [hfront]
  rfl

/-- What a call does next when it runs alone, it does with the same answer among other calls, if its
session is the same and the name of a new directory is not in use. -/
theorem exists_step {alone : System} {others : List (Nat × Answer)} {session : Session} {s' : Store}
    (hrun : (start s).run? front = some (answers, sys))
    (halone : (start s).run? (ofCall i front) = some (others, alone))
    (hsession : alone.sessions i = sys.sessions i)
    (hsegment : ∀ call, heldBy i front = some call →
      sys.store.segment? call = alone.store.segment? call)
    (hnew : ∀ call, a.made? = some call → ∀ j, heldBy j front ≠ some call)
    (hstep : (alone.sessions i).Step alone.store a answer session s') :
    ∃ t, (sys.sessions i).Step sys.store a answer session t ∧
      ∀ call, session.held? = some call → t.segment? call = s'.segment? call := by
  have hheld : ∀ j, (sys.sessions j).held? = heldBy j front := congrFun (held?_eq_heldBy hrun)
  have hsound : sys.Sound s := (sound_start s).run hrun
  have hsoundAlone : alone.Sound s := (sound_start s).run halone
  rw [← hsession]
  refine hstep.transfer (hsound.takesDirectories.trans hsoundAlone.takesDirectories.symm)
    (hsound.takesSegments.trans hsoundAlone.takesSegments.symm)
    (hsound.givesSegments.trans hsoundAlone.givesSegments.symm)
    (hsound.removal.trans hsoundAlone.removal.symm) (fun call hmade hmem => ?_) fun call hcall => ?_
  · -- what was there in the beginning is in the way alone, too
    obtain hold | ⟨j, hj⟩ := (hsound.mem_directories call).mp hmem
    · exact hstep.notMem_of_made hmade ((hsoundAlone.mem_directories call).mpr (.inl hold))
    · exact hnew call hmade j (hheld j ▸ hj)
  · rw [hsession] at hcall
    exact ⟨(hsound.mem_directories call).mpr (.inr ⟨i, hcall⟩), hsegment call (hheld i ▸ hcall)⟩

/-- A call does not see the steps of another one. -/
theorem Alone.step_of_ne (h : Alone s front answers sys j) (hj : i ≠ j)
    (hrun : (start s).run? front = some (answers, sys))
    (hstep : (sys.sessions i).Step sys.store a answer session t) :
    Alone s (front ++ [(i, a)]) (answers ++ [(i, answer)]) (sys.update i session t) j := by
  obtain ⟨alone, halone, hsession, hsegment⟩ := h
  have hsound : sys.Sound s := (sound_start s).run hrun
  refine ⟨alone, ?_, ?_, fun call hcall => ?_⟩
  · rw [ofCall_append_of_ne hj, ofCall_append_of_ne hj, halone]
  · rw [sessions_update_of_ne (Ne.symm hj), hsession]
  · rw [heldBy_append_of_ne hj] at hcall
    have hheld : sys.held? j = some call := (congrFun (held?_eq_heldBy hrun) j).trans hcall
    rw [← hsegment call hcall]
    exact hstep.segment?_of_ne (fun hi => hj (hsound.apart i j call hi hheld))
      ((hsound.mem_directories call).mpr (.inr ⟨j, hheld⟩))

/-- **Progress and isolation.** Calls that run alone run together, with the same answers. -/
theorem exists_run? (halone : ∀ i, ((start s).run? (ofCall i trace)).isSome)
    (hnames : Names trace) :
    ∃ answers sys, (start s).run? trace = some (answers, sys) ∧
      ∀ i, Alone s trace answers sys i := by
  induction trace using List.reverseRecOn with
  | nil => exact ⟨[], start s, rfl, fun i => ⟨start s, rfl, rfl, fun _ h => nomatch h⟩⟩
  | append_singleton front step ih =>
    obtain ⟨i, a⟩ := step
    obtain ⟨answers, sys, hrun, hsame⟩ := ih
      (fun j => isSome_run?_of_append (ofCall_append ▸ halone j)) hnames.of_append
    -- the last step of the call when it runs alone
    obtain ⟨⟨_, _⟩, hi⟩ := Option.isSome_iff_exists.mp (halone i)
    rw [ofCall_append_self] at hi
    obtain ⟨_, alone, answer, session, s', hfront, hstep, rfl, rfl⟩ := run?_append_singleton.mp hi
    obtain ⟨_, hfront', hsession, hsegment⟩ := hsame i
    obtain ⟨rfl, rfl⟩ := Prod.mk.inj (Option.some.inj (hfront.symm.trans hfront'))
    -- the same step among the others
    obtain ⟨t, hstep', hsegment'⟩ := exists_step hrun hfront hsession hsegment
      (fun call hmade => hnames front i a [] call rfl hmade) hstep
    refine ⟨answers ++ [(i, answer)], sys.update i session t,
      run?_append_singleton.mpr ⟨answers, sys, answer, session, t, hrun, hstep', rfl, rfl⟩,
      fun j => ?_⟩
    by_cases hj : i = j
    · subst hj
      have hheld : (sys.sessions i).held? = heldBy i front := congrFun (held?_eq_heldBy hrun) i
      refine ⟨alone.update i session s', ?_, ?_, fun call hcall => hsegment' call ?_⟩
      · rw [ofCall_append_self, ofCall_append_self, hi]
      · rw [sessions_update_self, sessions_update_self]
      · rw [hstep'.held?, hheld, ← heldBy_append_self, hcall]
    · exact (hsame j).step_of_ne hj hrun hstep'

/-! ### Search calls -/

theorem run?_cons_of_step {rest : List (Nat × Action)} (hi : sys.sessions i = session)
    {next : Session} (hstep : session.Step sys.store a answer next t)
    (hrest : (sys.update i next t).run? rest = some (answers, last)) :
    sys.run? ((i, a) :: rest) = some ((i, answer) :: answers, last) :=
  run?_cons.mpr ⟨answer, next, t, answers, hi ▸ hstep, hrest, rfl⟩

/-- A search call that runs alone opens the index that it has written, finds in it what there is to
find, and leaves nothing behind. -/
theorem run?_searchCall {caller : String} {number : Nat} (i : Nat) (index : Index) (clause : Clause)
    (limit : Nat) (hdirectories : s.takesDirectories) (hsegments : s.takesSegments)
    (hgives : s.givesSegments) (hclean : s.removal = .whole)
    (hname : (sanitizeComponent caller).utf8ByteSize ≤ Text.nameLimit)
    (hcall : call = ⟨sanitizeComponent caller, number⟩) (new : call ∉ s.directories) :
    ∃ sys, (start s).run? ((Action.searchCall caller number index clause limit).map (i, ·)) =
        some ([(i, .acquired call), (i, .written), (i, .opened (.ok index)),
          (i, .found (index.search clause limit)), (i, .removed (some call)),
          (i, .removed none)], sys) ∧
      sys.store.calls = s.calls := by
  obtain ⟨made, hmade⟩ := Store.exists_acquire_numbered hdirectories hname number
  rw [← hcall] at hmade
  have hleft : made.without call = s.calls :=
    Store.without_acquire (s := s.numbered number) hmade new
  have hmadeEq := (Store.acquire_numbered_eq_ok_iff.mp hmade).2.2.2
  have htakes : made.takesSegments := by rw [hmadeEq, hsegments]
  have hgives : made.givesSegments := by rw [hmadeEq, hgives]
  have hclean : made.removal = .whole := by rw [hmadeEq, hclean]
  have hthere : call ∈ made.directories := by simp [hmadeEq, Store.directories]
  obtain ⟨written, hwrite, hopen⟩ :=
    Store.openIndex_write htakes hgives (Store.has_iff.mpr hthere) index
  obtain ⟨-, -, rfl⟩ := Store.write_eq_ok_iff.mp hwrite
  refine ⟨_, run?_cons_of_step rfl (.acquire rfl new hmade) <|
    run?_cons_of_step sessions_update_self (.write index rfl htakes hthere) <|
    run?_cons_of_step sessions_update_self (.openIndex_of_ok rfl hopen) <|
    run?_cons_of_step sessions_update_self (.search clause limit rfl) <|
    run?_cons_of_step sessions_update_self (.release rfl hclean) <|
    run?_cons_of_step sessions_update_self (.dropReleased rfl) rfl, ?_⟩
  exact (congrArg Store.calls (Store.release_setSegment hclean)).trans
    ((Store.calls_release hclean).trans hleft)

/-! ### Main theorem -/

/-- What holds after calls have taken their steps on a store, in whatever order: where each call
stands, what is in the store, and what has been removed. -/
structure Isolated (s : Store) (trace : List (Nat × Action)) (answers : List (Nat × Answer))
    (sys : System) : Prop where
  /-- Every call has had the answers that it gets alone. -/
  alone : ∀ i, Alone s trace answers sys i
  /-- A handle is what it was at an earlier moment if its call has not read or searched since. -/
  handle : ∀ i front back before mid, trace = front ++ back →
    (start s).run? front = some (before, mid) → (∀ a, (i, a) ∈ back → a.KeepsHandle) →
    (sys.sessions i).handle = (mid.sessions i).handle
  /-- The directories are those of the beginning and those that calls hold. -/
  directories : ∀ call, call ∈ sys.store.directories ↔
    call ∈ s.directories ∨ ∃ i, heldBy i trace = some call
  /-- Each is held by one call, and was not there in the beginning. -/
  apart : ∀ i call, heldBy i trace = some call →
    call ∉ s.directories ∧ ∀ j, heldBy j trace = some call → i = j
  /-- Each lies in the scope of the caller that it was made for. -/
  scope : ∀ i call, heldBy i trace = some call → call.scope ∈ sys.store.scopes ∧
    ∃ caller, call.scope = sanitizeComponent caller ∧
      (i, Action.acquire caller call.number) ∈ trace
  /-- The directories of the beginning have the segments of the beginning. -/
  before : sys.store.calls.filter (·.1 ∈ s.directories) = s.calls
  /-- When no call holds a directory, the directories are those of the beginning. -/
  ended : (∀ i, heldBy i trace = none) → sys.store.calls = s.calls
  /-- What a call has made, it has removed once or holds. -/
  once : ∀ i, (ofCall i answers).filterMap (·.2.acquired?) =
    (ofCall i answers).filterMap (·.2.removed?) ++ (heldBy i trace).toList

theorem exists_isolated (halone : ∀ i, ((start s).run? (ofCall i trace)).isSome)
    (hnames : Names trace) :
    ∃ answers sys, (start s).run? trace = some (answers, sys) ∧ Isolated s trace answers sys := by
  obtain ⟨answers, sys, hrun, hsame⟩ := exists_run? halone hnames
  have hsound : s.Extends (fun i => heldBy i trace) sys.store :=
    held?_eq_heldBy hrun ▸ (sound_start s).run hrun
  have hhandle : ∀ i front back before mid, trace = front ++ back →
      (start s).run? front = some (before, mid) → (∀ a, (i, a) ∈ back → a.KeepsHandle) →
      (sys.sessions i).handle = (mid.sessions i).handle := by
    intro i front back before mid ht hfront hkeep
    rw [ht] at hrun
    obtain ⟨_, _, after, hfront', hback, -⟩ := run?_append.mp hrun
    obtain ⟨rfl, rfl⟩ := Prod.mk.inj (Option.some.inj (hfront.symm.trans hfront'))
    exact handle_eq hback hkeep
  have hscope : ∀ i call, heldBy i trace = some call → call.scope ∈ sys.store.scopes ∧
      ∃ caller, call.scope = sanitizeComponent caller ∧
        (i, Action.acquire caller call.number) ∈ trace := by
    intro i call hi
    obtain ⟨a, hmem, ha⟩ := exists_made_of_heldBy hi
    cases a with
    | acquire caller number =>
      cases ha
      exact ⟨hsound.scope i _ hi, caller, rfl, hmem⟩
    | write | openIndex | search | release | drop => cases ha
  have hended : (∀ i, heldBy i trace = none) → sys.store.calls = s.calls := by
    intro hnone
    refine Eq.trans (List.filter_eq_self.mpr fun c hc => ?_).symm hsound.before
    obtain hold | ⟨i, hi⟩ := (hsound.mem_directories c.1).mp (List.mem_map_of_mem hc)
    · exact decide_eq_true hold
    · rw [hnone i] at hi
      cases hi
  exact ⟨answers, sys, hrun, hsame, hhandle, hsound.mem_directories,
    fun i call hi => ⟨hsound.notMem i call hi, fun j hj => hsound.apart i j call hi hj⟩, hscope,
    hsound.before, hended, fun i => acquired_eq hrun⟩

/-- **Calls do not interfere.** Let every call run to the end of its steps when it runs alone, and
let the name of a new directory never be in use. Then the calls run together in whatever order they
take their steps, and at no moment do they interfere. Scopes lie in the root directly, whoever
calls. -/
theorem isolated (s : Store) (trace : List (Nat × Action))
    (halone : ∀ i, ((start s).run? (ofCall i trace)).isSome) (hnames : Names trace) :
    (∀ front back, trace = front ++ back →
      ∃ answers sys, (start s).run? front = some (answers, sys) ∧ Isolated s front answers sys) ∧
    ∀ root caller,
      CommandLine.IsChild root (CommandLine.joinPath root (sanitizeComponent caller)) := by
  constructor
  · intro front back ht
    subst ht
    have hfront (i : Nat) : ((start s).run? (ofCall i front)).isSome :=
      isSome_run?_of_append (ofCall_append ▸ halone i)
    exact exists_isolated hfront hnames.of_append
  · intro root caller
    exact CommandLine.isChild_joinPath_sanitizeComponent

/-- Two callers whose names are sanitized alike, and the steps of their calls in turn. -/
private abbrev sharedScope : List (Nat × Action) :=
  let ada := Action.searchCall "ada lovelace" 0 ⟨#[], .empty⟩ (.boolean []) 5
  let ida := Action.searchCall "ada_lovelace" 1 ⟨#[7], .empty⟩ (.boolean []) 5
  (ada.zip ida).flatMap fun (a, b) => [(0, a), (1, b)]

/-- Two calls in one scope. -/
theorem isolated_sharedScope :
    (∀ i, ((start .empty).run? (ofCall i sharedScope)).isSome) ∧ Names sharedScope ∧
    ∃ answers sys, (start .empty).run? sharedScope = some (answers, sys) ∧
      Isolated .empty sharedScope answers sys := by
  have halone (i : Nat) : ((start .empty).run? (ofCall i sharedScope)).isSome := by
    have hcall (caller : String) (number : Nat) (index : Index)
        (hname : (sanitizeComponent caller).utf8ByteSize ≤ Text.nameLimit) :
        ((start .empty).run?
          ((Action.searchCall caller number index (.boolean []) 5).map (i, ·))).isSome := by
      obtain ⟨sys, hrun, -⟩ := run?_searchCall (s := .empty) i index (.boolean []) 5 rfl rfl
        rfl rfl hname rfl List.not_mem_nil
      rw [hrun]
      rfl
    match i with
    | 0 => exact hcall "ada lovelace" 0 ⟨#[], .empty⟩ (by decide +kernel)
    | 1 => exact hcall "ada_lovelace" 1 ⟨#[7], .empty⟩ (by decide +kernel)
    | _ + 2 => rfl
  have hnames : Names sharedScope := names_of_nodup (by decide +kernel)
  exact ⟨halone, hnames, (isolated .empty sharedScope halone hnames).1 sharedScope []
    (List.append_nil _).symm⟩

end System

end RegistrySearch
