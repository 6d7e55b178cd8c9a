import RegistrySearch.Proofs.Store.Segments

/-!
# Call directories in the store

Making a call directory, writing a segment and removing the directory change nothing but this one
directory. What lies outside of it (`Store.without`) is the same before and after, and the segments
of other directories lie there.

**Removal may fail.** How far it gets is up to the store; however far, it makes no difference
outside. So a store to which one directory has been added (`Store.Adds`) is left with what was there
before, and with the directory itself if it cannot be removed.
-/

namespace RegistrySearch

/-- A dropped key is not found, and every other one as before. -/
theorem lookup_filter_ne {κ α : Type} [DecidableEq κ] {k key : κ} {entries : List (κ × α)} :
    (entries.filter fun e => e.1 ≠ k).lookup key =
      if key = k then none else entries.lookup key := by
  induction entries with
  | nil => simp
  | cons e entries ih =>
    obtain ⟨k', a⟩ := e
    rw [List.filter_cons, lookup_cons_ite]
    by_cases hk : k' = k
    · rw [if_neg (by simpa using hk), ih]
      subst hk
      by_cases he : key = k'
      · rw [if_pos he, if_pos he]
      · rw [if_neg he, if_neg he, if_neg (Ne.symm he)]
    · rw [if_pos (by simpa using hk), lookup_cons_ite, ih]
      by_cases he : k' = key
      · rw [if_pos he, if_pos he, if_neg (he ▸ hk)]
      · rw [if_neg he, if_neg he]

namespace Store

variable {s t : Store} {call other : Call} {caller : String} {index : Index}
  {segment : Option (List UInt8)}

/-- The call directories that are there. -/
def directories (s : Store) : List Call := s.calls.map (·.1)

theorem has_iff : s.has call ↔ call ∈ s.directories := by
  rw [has, directories]
  induction s.calls with
  | nil => simp
  | cons c calls ih =>
    obtain ⟨c, old⟩ := c
    rw [lookup_cons_ite, List.map_cons, List.mem_cons, ← ih]
    by_cases hc : c = call
    · simp [hc]
    · simp [hc, Ne.symm hc]

/-! ### Refusal -/

/-- Why a store does not take the index of a caller, if it does not: the directory cannot be made,
or the segment cannot be written. -/
def refusal? (s : Store) (caller : String) : Option BuildError :=
  if !s.takesDirectories || Text.nameLimit < (Text.sanitizeComponent caller).utf8ByteSize then
    some .directory
  else if !s.takesSegments then some .segment
  else none

/-! ### What the operations do -/

/-- A call directory is made if directories can be made and the name of the scope is not too long.
It is the one with the next number, it is empty, and its scope is there. -/
theorem acquire_eq_ok_iff :
    s.acquire caller = .ok (call, t) ↔
      s.takesDirectories ∧ (Text.sanitizeComponent caller).utf8ByteSize ≤ Text.nameLimit ∧
      call = ⟨Text.sanitizeComponent caller, s.next⟩ ∧
      t = { s with
        scopes := if s.scopes.contains call.scope then s.scopes else s.scopes ++ [call.scope]
        calls := s.calls ++ [(call, none)]
        next := s.next + 1 } := by
  rw [acquire]
  cases hd : s.takesDirectories with
  | false => simp
  | true =>
    by_cases hn : (Text.sanitizeComponent caller).utf8ByteSize ≤ Text.nameLimit
    · simp only [Bool.not_true, Bool.false_or, decide_eq_true_eq, Nat.not_lt.mpr hn, if_false,
        Except.ok.injEq, Prod.mk.injEq, hn, true_and]
      constructor
      · rintro ⟨rfl, rfl⟩
        exact ⟨rfl, rfl⟩
      · rintro ⟨rfl, rfl⟩
        exact ⟨rfl, rfl⟩
    · simp [hn, Nat.not_le.mp hn]

/-- A segment is written if segments can be written and the directory is there. -/
theorem write_eq_ok_iff :
    s.write call index = .ok t ↔ s.takesSegments ∧ call ∈ s.directories ∧
      t = s.setSegment call (some (Segment.ofIndex index)) := by
  rw [write, ← has_iff]
  by_cases h : s.takesSegments ∧ s.has call
  · simp [h.1, h.2, eq_comm]
  · rw [if_neg (by simpa using h)]
    refine iff_of_false ?_ ?_
    · intro hwritten
      cases hwritten
    · rintro ⟨hs, hc, -⟩
      exact h ⟨hs, hc⟩

/-- A store refuses a caller because the directory is not made, or because no segment is written in
it. -/
theorem refusal?_cases {e : BuildError} (h : s.refusal? caller = some e) :
    s.acquire caller = .error e ∨
      ∃ call t, s.acquire caller = .ok (call, t) ∧ ∀ index, t.write call index = .error e := by
  rw [refusal?] at h
  split at h
  · next hd =>
    cases h
    rw [acquire]
    exact .inl (if_pos hd)
  · next hd =>
    split at h
    · next hs =>
      cases h
      simp only [Bool.or_eq_true, Bool.not_eq_true', decide_eq_true_eq, not_or, Nat.not_lt,
        Bool.not_eq_false] at hd
      refine .inr ⟨_, _, acquire_eq_ok_iff.mpr ⟨hd.1, hd.2, rfl, rfl⟩, fun index => ?_⟩
      rw [Bool.not_eq_true'] at hs
      rw [write, hs, Bool.false_and, if_neg Bool.false_ne_true]
    · cases h

/-- A store that does not refuse a caller makes directories, writes segments, and takes the name of
the scope. -/
theorem refusal?_eq_none_iff : s.refusal? caller = none ↔
    s.takesDirectories ∧ (Text.sanitizeComponent caller).utf8ByteSize ≤ Text.nameLimit ∧
      s.takesSegments := by
  rw [refusal?]
  constructor
  · intro h
    split at h
    · cases h
    · next hd =>
      split at h
      · cases h
      · next hs =>
        simp only [Bool.or_eq_true, Bool.not_eq_true', decide_eq_true_eq, not_or, Nat.not_lt,
          Bool.not_eq_false] at hd hs
        exact ⟨hd.1, hd.2, hs⟩
  · rintro ⟨hd, hn, hs⟩
    rw [if_neg (by simpa [hd] using hn), if_neg (by simpa using hs)]

theorem directories_setSegment : (s.setSegment call segment).directories = s.directories := by
  rw [directories, setSegment, List.map_map, directories]
  rfl

/-! ### What lies outside -/

/-- The call directories without one of them. -/
def without (s : Store) (call : Call) : List (Call × Option (List UInt8)) :=
  s.calls.filter fun c => c.1 ≠ call

/-- A segment that is put in or taken out makes no difference outside of its directory. -/
theorem without_setSegment : (s.setSegment call segment).without call = s.without call := by
  simp only [without, setSegment]
  induction s.calls with
  | nil => rfl
  | cons c calls ih =>
    rw [List.map_cons, List.filter_cons, List.filter_cons, ih]
    by_cases hc : c.1 = call
    · simp [hc]
    · simp [hc]

theorem without_of_notMem (h : call ∉ s.directories) : s.without call = s.calls := by
  refine List.filter_eq_self.mpr fun c hc => ?_
  have hne : c.1 ≠ call := fun he => h (he ▸ List.mem_map_of_mem hc)
  simpa using hne

theorem directories_acquire (h : s.acquire caller = .ok (call, t)) :
    t.directories = s.directories ++ [call] := by
  obtain ⟨-, -, -, rfl⟩ := acquire_eq_ok_iff.mp h
  rw [directories, List.map_append]
  rfl

/-- Outside of a new directory is what was there before it. -/
theorem without_acquire (h : s.acquire caller = .ok (call, t)) (hnew : call ∉ s.directories) :
    t.without call = s.calls := by
  obtain ⟨-, -, -, rfl⟩ := acquire_eq_ok_iff.mp h
  refine Eq.trans ?_ (without_of_notMem hnew)
  simp [without, List.filter_append]

/-- The segments of other directories lie outside. -/
theorem segment?_congr (hne : other ≠ call) (h : s.without call = t.without call) :
    s.segment? other = t.segment? other := by
  have hlookup (s : Store) : s.segment? other = ((s.without call).lookup other).join := by
    rw [without, lookup_filter_ne, if_neg hne, segment?]
  rw [hlookup, h, ← hlookup]

theorem segment?_setSegment_of_ne (h : other ≠ call) :
    (s.setSegment call segment).segment? other = s.segment? other :=
  segment?_congr h without_setSegment

/-! ### Removal -/

theorem calls_release (h : s.removal = .whole) : (s.release call).calls = s.without call := by
  rw [release, h]
  rfl

/-- However far a removal gets, it makes no difference outside of the directory. -/
theorem without_release : (s.release call).without call = s.without call := by
  simp only [without, release]
  cases s.removal with
  | whole => exact List.filter_filter.trans (List.filter_congr fun c _ => Bool.and_self _)
  | contents => exact without_setSegment
  | nothing => rfl

/-- A directory whose segment is put in or taken out is removed like before. -/
theorem release_setSegment (h : s.removal = .whole) :
    (s.setSegment call segment).release call = s.release call := by
  have hcalls : ((s.setSegment call segment).release call).calls = (s.release call).calls := by
    rw [calls_release h, ← without_setSegment]
    exact calls_release h
  exact congrArg (fun calls => { s with calls }) hcalls

/-- A directory that cannot be removed stays. -/
theorem directories_release (h : s.removal ≠ .whole) :
    (s.release call).directories = s.directories := by
  simp only [directories, release]
  cases hr : s.removal with
  | whole => exact absurd hr h
  | contents => exact directories_setSegment
  | nothing => rfl

theorem mem_directories_release (h : s.removal = .whole) :
    other ∈ (s.release call).directories ↔ other ∈ s.directories ∧ other ≠ call := by
  rw [directories, calls_release h, without, directories]
  simp only [List.mem_map, List.mem_filter, decide_eq_true_eq]
  constructor
  · rintro ⟨c, ⟨hc, hne⟩, rfl⟩
    exact ⟨⟨c, hc, rfl⟩, hne⟩
  · rintro ⟨⟨c, hc, rfl⟩, hne⟩
    exact ⟨c, ⟨hc, hne⟩, rfl⟩

/-! ### One directory more -/

/-- A store has one call directory more than another one, with a segment or without; otherwise they
agree in what is there and in how far removals get. -/
structure Adds (s : Store) (call : Call) (t : Store) : Prop where
  directories : t.directories = s.directories ++ [call]
  outside : t.without call = s.calls
  removal : t.removal = s.removal
  next : t.next = s.next + 1

namespace Adds

theorem of_acquire (h : s.acquire caller = .ok (call, t)) (hnew : call ∉ s.directories) :
    s.Adds call t where
  directories := directories_acquire h
  outside := without_acquire h hnew
  removal := by rw [(acquire_eq_ok_iff.mp h).2.2.2]
  next := by rw [(acquire_eq_ok_iff.mp h).2.2.2]

theorem setSegment (h : s.Adds call t) (segment : Option (List UInt8)) :
    s.Adds call (t.setSegment call segment) where
  directories := directories_setSegment.trans h.directories
  outside := without_setSegment.trans h.outside
  removal := h.removal
  next := h.next

/-- Where directories cannot be removed, releasing the new one leaves it there. -/
theorem release (h : s.Adds call t) (hstays : s.removal ≠ .whole) :
    s.Adds call (t.release call) where
  directories := (directories_release (h.removal ▸ hstays)).trans h.directories
  outside := without_release.trans h.outside
  removal := h.removal
  next := h.next

/-- A new directory stands behind those that were there before. -/
theorem exists_calls (h : s.Adds call t) (hnew : call ∉ s.directories) :
    ∃ segment, t.calls = s.calls ++ [(call, segment)] := by
  obtain ⟨front, last, hcalls, hfront, hlast⟩ := List.map_eq_append_iff.mp h.directories
  obtain ⟨⟨c, segment⟩, rfl, hc⟩ := List.map_eq_singleton_iff.mp hlast
  obtain rfl : c = call := hc
  have hkeep : front.filter (·.1 ≠ c) = front := by
    refine List.filter_eq_self.mpr fun other hother => ?_
    have hne : other.1 ≠ c := fun he => hnew (he ▸ hfront ▸ List.mem_map_of_mem hother)
    simpa using hne
  have hout := h.outside
  rw [without, hcalls, List.filter_append, hkeep] at hout
  exact ⟨segment, by simpa [hcalls] using hout⟩

/-- What is left when the directory is released: what was there before it, as it was, and the
directory itself if it cannot be removed. -/
theorem exists_left (h : s.Adds call t) (hnew : call ∉ s.directories) :
    ∃ left, (t.release call).calls = s.calls ++ left ∧
      left.map (·.1) = if s.removal = .whole then [] else [call] := by
  by_cases hclean : s.removal = .whole
  · rw [calls_release (h.removal.trans hclean), h.outside, if_pos hclean]
    exact ⟨[], (List.append_nil _).symm, rfl⟩
  · obtain ⟨segment, hcalls⟩ := (h.release hclean).exists_calls hnew
    rw [if_neg hclean]
    exact ⟨_, hcalls, rfl⟩

end Adds

end Store

end RegistrySearch
