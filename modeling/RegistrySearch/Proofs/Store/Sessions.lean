import RegistrySearch.Proofs.Store.Directories
import RegistrySearch.Store.Session

/-!
# Steps of sessions

A step of a session touches its own directory and no other: `Session.Step` lists what it can do, and
everything else is derived from this list. So the directories that come up while sessions run are at
any time those that some session holds, each held by one session alone, and the directories of the
beginning stay as they were (`System.Sound`).
-/

namespace RegistrySearch

open Query (Clause)

namespace Store

variable {s t : Store} {caller : String} {number : Nat} {call : Call}

theorem acquire_numbered_eq_ok_iff :
    (s.numbered number).acquire caller = .ok (call, t) ↔
      s.takesDirectories ∧ (Text.sanitizeComponent caller).utf8ByteSize ≤ Text.nameLimit ∧
      call = ⟨Text.sanitizeComponent caller, number⟩ ∧
      t = { s with
        scopes := if s.scopes.contains call.scope then s.scopes else s.scopes ++ [call.scope]
        calls := s.calls ++ [(call, none)]
        next := number + 1 } := acquire_eq_ok_iff

theorem exists_acquire_numbered (hdirectories : s.takesDirectories)
    (hname : (Text.sanitizeComponent caller).utf8ByteSize ≤ Text.nameLimit) (number : Nat) :
    ∃ t, (s.numbered number).acquire caller =
      .ok (⟨Text.sanitizeComponent caller, number⟩, t) :=
  ⟨_, acquire_numbered_eq_ok_iff.mpr ⟨hdirectories, hname, rfl, rfl⟩⟩

end Store

/-! ### Directories that are held -/

namespace Store

variable {s t t' : Store} {held : Nat → Option Call} {i : Nat} {caller : String} {number : Nat}
  {call : Call} {segment : Option (List UInt8)}

/-- A store is another one together with directories that are held, each by one call alone. What was
there before is as it was. -/
structure Extends (s : Store) (held : Nat → Option Call) (t : Store) : Prop where
  takesDirectories : t.takesDirectories = s.takesDirectories
  takesSegments : t.takesSegments = s.takesSegments
  givesSegments : t.givesSegments = s.givesSegments
  removal : t.removal = s.removal
  mem_directories : ∀ call, call ∈ t.directories ↔ call ∈ s.directories ∨ ∃ i, held i = some call
  notMem : ∀ i call, held i = some call → call ∉ s.directories
  apart : ∀ i j call, held i = some call → held j = some call → i = j
  before : t.calls.filter (·.1 ∈ s.directories) = s.calls
  scope : ∀ i call, held i = some call → call.scope ∈ t.scopes

namespace Extends

theorem refl (s : Store) : Extends s (fun _ => none) s where
  takesDirectories := rfl
  takesSegments := rfl
  givesSegments := rfl
  removal := rfl
  mem_directories call := by simp
  notMem i call h := nomatch h
  apart i j call h := nomatch h
  before := List.filter_eq_self.mpr fun _ hc => decide_eq_true (List.mem_map_of_mem hc)
  scope i call h := nomatch h

/-- A directory that was not there before does not matter for those that were. -/
theorem filter_without (h : call ∉ s.directories) :
    (t.without call).filter (·.1 ∈ s.directories) = t.calls.filter (·.1 ∈ s.directories) := by
  rw [without, List.filter_filter]
  refine List.filter_congr fun c _ => ?_
  by_cases hc : c.1 = call
  · simp [hc, h]
  · simp [hc]

/-- A new directory, held by a call that held none. -/
theorem acquire (h : Extends s held t) (hi : held i = none) (new : call ∉ t.directories)
    (made : (t.numbered number).acquire caller = .ok (call, t')) :
    Extends s (Function.update held i (some call)) t' := by
  have hnew : call ∉ s.directories := fun hc => new ((h.mem_directories call).mpr (.inl hc))
  -- what is held afterwards: the new directory by the call, and nothing else has changed
  have hheld : ∀ j other, Function.update held i (some call) j = some other ↔
      (j = i ∧ other = call) ∨ held j = some other := by
    intro j other
    by_cases hj : j = i
    · subst hj
      simp [hi, eq_comm]
    · simp [hj]
  have hfree : ∀ j, held j ≠ some call := fun j hj =>
    new ((h.mem_directories call).mpr (.inr ⟨j, hj⟩))
  have hcalls : t'.without call = t.calls := without_acquire (s := t.numbered number) made new
  obtain ⟨-, -, -, ht⟩ := acquire_numbered_eq_ok_iff.mp made
  refine ⟨?_, ?_, ?_, ?_, fun other => ?_, fun j other hj => ?_, fun j k other hj hk => ?_, ?_,
    fun j other hj => ?_⟩
  · rw [ht, ← h.takesDirectories]
  · rw [ht, ← h.takesSegments]
  · rw [ht, ← h.givesSegments]
  · rw [ht, ← h.removal]
  · have hdirectories : t'.directories = t.directories ++ [call] :=
      directories_acquire (s := t.numbered number) made
    rw [hdirectories, List.mem_append, List.mem_singleton, h.mem_directories]
    simp only [hheld]
    grind
  · obtain ⟨-, he⟩ | hj := (hheld j other).mp hj
    · exact he ▸ hnew
    · exact h.notMem j other hj
  · obtain ⟨hji, he⟩ | hj := (hheld j other).mp hj
    · obtain ⟨hki, -⟩ | hk := (hheld k other).mp hk
      · rw [hji, hki]
      · exact absurd (he ▸ hk) (hfree k)
    · obtain ⟨-, he⟩ | hk := (hheld k other).mp hk
      · exact absurd (he ▸ hj) (hfree j)
      · exact h.apart j k other hj hk
  · rw [← filter_without hnew, hcalls]
    exact h.before
  · have hscopes : ∀ scope, scope ∈ t'.scopes ↔ scope ∈ t.scopes ∨ scope = call.scope := by
      intro scope
      rw [ht]
      simp only [List.contains_eq_mem, decide_eq_true_eq]
      split
      · next hm => exact ⟨.inl, fun hs => hs.elim id fun he => he ▸ hm⟩
      · simp
    rw [hscopes]
    obtain ⟨-, he⟩ | hj := (hheld j other).mp hj
    · exact .inr (he ▸ rfl)
    · exact .inl (h.scope j other hj)

/-- A segment in a directory that is held. -/
theorem setSegment (h : Extends s held t) (hi : held i = some call) :
    Extends s held (t.setSegment call segment) where
  takesDirectories := h.takesDirectories
  takesSegments := h.takesSegments
  givesSegments := h.givesSegments
  removal := h.removal
  mem_directories other := by rw [directories_setSegment, h.mem_directories]
  notMem := h.notMem
  apart := h.apart
  before := by
    have hnew := h.notMem i call hi
    rw [← filter_without hnew, without_setSegment, filter_without hnew]
    exact h.before
  scope := h.scope

/-- A directory is removed by the call that held it. -/
theorem release (h : Extends s held t) (hi : held i = some call) (clean : t.removal = .whole) :
    Extends s (Function.update held i none) (t.release call) := by
  have hheld : ∀ j other, Function.update held i none j = some other ↔
      held j = some other ∧ other ≠ call := by
    intro j other
    by_cases hj : j = i
    · subst hj
      simp [hi, eq_comm]
    · -- nobody else holds the directory
      have hne : held j = some other → other ≠ call := by
        rintro hother rfl
        exact hj (h.apart j i _ hother hi)
      simpa [hj] using hne
  have hnew := h.notMem i call hi
  have hbefore : (t.release call).calls.filter (·.1 ∈ s.directories) = s.calls := by
    rw [calls_release clean, filter_without hnew, h.before]
  refine ⟨h.takesDirectories, h.takesSegments, h.givesSegments, h.removal, fun other => ?_,
    fun j other hj => h.notMem j other ((hheld j other).mp hj).1,
    fun j k other hj hk => h.apart j k other ((hheld j other).mp hj).1 ((hheld k other).mp hk).1,
    hbefore, fun j other hj => h.scope j other ((hheld j other).mp hj).1⟩
  rw [mem_directories_release clean, h.mem_directories]
  simp only [hheld]
  constructor
  · rintro ⟨hs | ⟨j, hj⟩, hne⟩
    · exact .inl hs
    · exact .inr ⟨j, hj, hne⟩
  · rintro (hs | ⟨j, hj, hne⟩)
    · exact ⟨.inl hs, fun he => hnew (he ▸ hs)⟩
    · exact ⟨.inr ⟨j, hj⟩, hne⟩

end Extends

end Store

/-! ### What a step can do -/

namespace Session

/-- What a step of a session on a store can do. -/
inductive Step (s : Store) (session : Session) : Action → Answer → Session → Store → Prop where
  | acquire {caller : String} {number : Nat} {call : Call} {t : Store} (idle : session.guard = none)
      (new : call ∉ s.directories) (made : (s.numbered number).acquire caller = .ok (call, t)) :
      Step s session (.acquire caller number) (.acquired call)
        { session with guard := some ⟨call, true⟩ } t
  | write {call : Call} (index : Index) (held : session.held? = some call)
      (takes : s.takesSegments) (there : call ∈ s.directories) :
      Step s session (.write index) .written session
        (s.setSegment call (some (Segment.ofIndex index)))
  | openIndex {call : Call} (held : session.held? = some call) :
      Step s session .openIndex (.opened (s.openIndex call)) (session.reopened (s.openIndex call)) s
  | search {index : Index} (clause : Clause) (limit : Nat) (read : session.handle = some index) :
      Step s session (.search clause limit) (.found (index.search clause limit))
        { session with handle := none } s
  | release {call : Call} (held : session.guard = some ⟨call, true⟩) (clean : s.removal = .whole) :
      Step s session .release (.removed (some call)) { session with guard := some ⟨call, false⟩ }
        (s.release call)
  | drop {call : Call} (held : session.guard = some ⟨call, true⟩) (clean : s.removal = .whole) :
      Step s session .drop (.removed (some call)) { session with guard := none } (s.release call)
  | dropReleased {call : Call} (released : session.guard = some ⟨call, false⟩) :
      Step s session .drop (.removed none) { session with guard := none } s

variable {s t : Store} {session next : Session} {a : Action} {answer : Answer}

theorem held?_of_guard {call : Call} (h : session.guard = some ⟨call, true⟩) :
    session.held? = some call := by
  rw [held?, h]
  rfl

theorem held?_of_guard_none (h : session.guard = none) : session.held? = none := by
  rw [held?, h]
  rfl

@[simp]
theorem held?_reopened {outcome : Except IndexError Index} :
    (session.reopened outcome).held? = session.held? := by
  cases outcome <;> rfl

/-- The steps that can be taken. -/
theorem step?_eq_some_iff :
    session.step? s a = some (answer, next, t) ↔ session.Step s a answer next t := by
  constructor
  · intro h
    cases a with
    | acquire caller number =>
      simp only [step?, Bool.or_eq_true, Option.isSome_iff_ne_none] at h
      split at h
      · cases h
      · next hnew =>
        rw [not_or, not_not, Store.has_iff] at hnew
        split at h
        · next call t' hmade =>
          cases h
          obtain ⟨-, -, rfl, -⟩ := Store.acquire_numbered_eq_ok_iff.mp hmade
          exact .acquire hnew.1 hnew.2 hmade
        · cases h
    | write index =>
      simp only [step?] at h
      split at h
      · next call hheld =>
        split at h
        · next t' hwrite =>
          cases h
          obtain ⟨htakes, hthere, rfl⟩ := Store.write_eq_ok_iff.mp hwrite
          exact .write index hheld htakes hthere
        · cases h
      · cases h
    | openIndex =>
      simp only [step?] at h
      split at h
      · next call hheld =>
        cases h
        exact .openIndex hheld
      · cases h
    | search clause limit =>
      simp only [step?] at h
      split at h
      · next index hread =>
        cases h
        exact .search clause limit hread
      · cases h
    | release =>
      simp only [step?] at h
      split at h
      · next call hheld =>
        split at h
        · next hclean =>
          cases h
          exact .release hheld hclean
        · cases h
      · cases h
    | drop =>
      simp only [step?] at h
      split at h
      · next guard hguard =>
        obtain ⟨call, pending⟩ := guard
        split at h
        · cases h
        · next hclean =>
          cases h
          cases pending with
          | true => exact .drop hguard (by simpa using hclean)
          | false => exact .dropReleased hguard
      · cases h
  · intro h
    cases h with
    | acquire idle new made =>
      obtain ⟨-, -, rfl, -⟩ := Store.acquire_numbered_eq_ok_iff.mp made
      rw [step?, if_neg (by simpa [idle, Store.has_iff] using new), made]
    | write index held takes there =>
      rw [step?, held]
      simp only [Store.write_eq_ok_iff.mpr ⟨takes, there, rfl⟩]
    | openIndex held => rw [step?, held]
    | search clause limit read => rw [step?, read]
    | release held clean =>
      rw [step?, held]
      exact if_pos clean
    | drop held clean =>
      rw [step?, held]
      exact if_neg (by simp [clean])
    | dropReleased released =>
      rw [step?, released]
      exact if_neg (by simp)

/-- What is read is kept. -/
theorem Step.openIndex_of_ok {call : Call} {index : Index} (held : session.held? = some call)
    (hopen : s.openIndex call = .ok index) :
    session.Step s .openIndex (.opened (.ok index)) { session with handle := some index } s := by
  have h := Step.openIndex (s := s) held
  rwa [hopen] at h

/-- A step leaves the segments of directories that the session does not hold. -/
theorem Step.segment?_of_ne (h : session.Step s a answer next t) {other : Call}
    (hother : session.held? ≠ some other) (hthere : other ∈ s.directories) :
    t.segment? other = s.segment? other := by
  cases h with
  | @acquire caller number call t idle new made =>
    have hne : other ≠ call := fun he => new (he ▸ hthere)
    refine Store.segment?_congr hne (Eq.trans ?_ (Store.without_of_notMem new).symm)
    exact Store.without_acquire (s := s.numbered number) made new
  | write index held takes there =>
    exact Store.segment?_setSegment_of_ne fun he => hother (he ▸ held)
  | openIndex | search | dropReleased => rfl
  | release held | drop held =>
    exact Store.segment?_congr (fun he => hother (he ▸ held?_of_guard held)) Store.without_release

end Session

/-! ### Steps of the system -/

namespace System

variable {s : Store} {sys last : System} {i j : Nat} {a : Action} {answer : Answer}
  {session : Session} {t : Store}

/-- The directory that a call holds. -/
def held? (sys : System) (i : Nat) : Option Call := (sys.sessions i).held?

@[simp]
theorem sessions_update_self : (sys.update i session t).sessions i = session := if_pos rfl

theorem sessions_update_of_ne (h : j ≠ i) :
    (sys.update i session t).sessions j = sys.sessions j := if_neg h

theorem held?_update :
    (sys.update i session t).held? = Function.update sys.held? i session.held? := by
  funext j
  by_cases hj : j = i
  · subst hj
    rw [held?, sessions_update_self, Function.update_self]
  · rw [held?, sessions_update_of_ne hj, Function.update_of_ne hj, held?]

theorem step?_eq_some_iff {next : System} :
    sys.step? i a = some (answer, next) ↔ ∃ session t,
      (sys.sessions i).Step sys.store a answer session t ∧ next = sys.update i session t := by
  simp only [step?, Option.map_eq_some_iff, Prod.exists, Session.step?_eq_some_iff, Prod.mk.injEq]
  constructor
  · rintro ⟨_, session, t, h, rfl, rfl⟩
    exact ⟨session, t, h, rfl⟩
  · rintro ⟨session, t, h, rfl⟩
    exact ⟨answer, session, t, h, rfl, rfl⟩

/-- The store holds what it held in the beginning and the directories of the calls. -/
def Sound (s : Store) (sys : System) : Prop := s.Extends sys.held? sys.store

theorem sound_start (s : Store) : (start s).Sound s := Store.Extends.refl s

/-- **Steps.** A step of a call leaves the store sound. -/
theorem Sound.step (h : sys.Sound s) (hstep : (sys.sessions i).Step sys.store a answer session t) :
    (sys.update i session t).Sound s := by
  rw [Sound, held?_update]
  -- a step that leaves the guard as it is changes the segment at most
  have hkeep (he : session.held? = sys.held? i) :
      Function.update sys.held? i session.held? = sys.held? := by
    rw [he, Function.update_eq_self]
  cases hstep with
  | acquire idle new made => exact h.acquire (Session.held?_of_guard_none idle) new made
  | write index held takes there =>
    rw [hkeep rfl]
    exact h.setSegment held
  | openIndex held =>
    rw [hkeep Session.held?_reopened]
    exact h
  | search clause limit read =>
    rw [hkeep rfl]
    exact h
  | release held clean => exact h.release (Session.held?_of_guard held) clean
  | drop held clean => exact h.release (Session.held?_of_guard held) clean
  | dropReleased released =>
    have hnone : sys.held? i = none := by rw [held?, Session.held?, released]; rfl
    rw [hkeep hnone.symm]
    exact h

theorem run?_cons {rest : List (Nat × Action)} {answers : List (Nat × Answer)} :
    sys.run? ((i, a) :: rest) = some (answers, last) ↔ ∃ answer session t others,
      (sys.sessions i).Step sys.store a answer session t ∧
      (sys.update i session t).run? rest = some (others, last) ∧
      answers = (i, answer) :: others := by
  simp only [run?, Option.bind_eq_bind, Option.bind_eq_some_iff, Prod.exists, Option.some.injEq,
    Prod.mk.injEq, step?_eq_some_iff]
  constructor
  · rintro ⟨answer, _, ⟨session, t, hstep, rfl⟩, others, _, hrun, rfl, rfl⟩
    exact ⟨answer, session, t, others, hstep, hrun, rfl⟩
  · rintro ⟨answer, session, t, others, hstep, hrun, rfl⟩
    exact ⟨answer, _, ⟨session, t, hstep, rfl⟩, others, last, hrun, rfl, rfl⟩

/-- **Runs.** The store stays sound. -/
theorem Sound.run {trace : List (Nat × Action)} {answers : List (Nat × Answer)} (h : sys.Sound s)
    (hrun : sys.run? trace = some (answers, last)) : last.Sound s := by
  induction trace generalizing sys answers with
  | nil =>
    cases hrun
    exact h
  | cons step rest ih =>
    obtain ⟨answer, session, t, others, hstep, hrest, -⟩ := run?_cons.mp hrun
    exact ih (h.step hstep) hrest

end System

end RegistrySearch
