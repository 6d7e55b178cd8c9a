import RegistrySearch.Proofs.Search.Failure
import RegistrySearch.Proofs.Service.Call
import RegistrySearch.Proofs.Store.Directories

/-!
# How a call ends

A call ends with the first failure that applies to it: of the query, of the source, of the store
that takes the index, of the segment that is read back, or of a pattern of the query, in this order.
Failures of the source and of the store are errors of the call; all others leave an empty result
with a reason. Without a failure there is a result and no reason.

However a call ends, the call directories are those that were there before, with the segments that
they had. Its own directory is not among them, unless it cannot be removed: a removal that fails is
passed over, and then the directory is left without a word. This is said of any store whose next
directory is new (`Store.IsFresh`), which every call keeps, so it holds along any number of calls.
-/

namespace RegistrySearch

open Query (Clause)

namespace Store

variable {s : Store} {caller : String} {call : Call}

/-- The number of the next call directory is above those of all that are there. -/
def IsFresh (s : Store) : Prop := ∀ call ∈ s.directories, call.number < s.next

/-- The call directory that is made for a caller, if one is. -/
def made? (s : Store) (caller : String) : Option Call :=
  match s.acquire caller with
  | .ok (call, _) => some call
  | .error _ => none

/-- A directory that is made has the next number. -/
theorem number_of_made? (h : s.made? caller = some call) : call.number = s.next := by
  rw [made?] at h
  split at h
  · next hacquire =>
    cases h
    obtain ⟨-, -, rfl, -⟩ := acquire_eq_ok_iff.mp hacquire
    rfl
  · cases h

/-- A directory that is made is new in a fresh store. -/
theorem IsFresh.notMem (fresh : s.IsFresh) (h : s.made? caller = some call) :
    call ∉ s.directories := by
  intro hm
  have hlt := fresh call hm
  rw [number_of_made? h] at hlt
  exact Nat.lt_irrefl _ hlt

end Store

namespace Service

variable {s : Service} {caller : Caller} {query : String} {store : Store} {clause : Clause}
  {index : Index}

/-! ### The search in a call directory -/

/-- A store that refuses the caller fails the call. -/
theorem searchStored_of_refusal {e : BuildError} (h : store.refusal? caller.name = some e)
    (clause : Clause) (index : Index) :
    (s.searchStored clause caller index store).1 = .error (.build e) := by
  rw [searchStored]
  obtain hacquire | ⟨call, acquired, hacquire, hwrite⟩ := Store.refusal?_cases h
  · rw [hacquire]
  · simp only [hacquire, hwrite]

/-- A segment that cannot be read leaves nothing to be searched. -/
theorem searchStored_of_not_givesSegments (h : store.refusal? caller.name = none)
    (hgives : ¬ store.givesSegments) (clause : Clause) (index : Index) :
    (s.searchStored clause caller index store).1 = .error (.index .missing) := by
  obtain ⟨call, acquired, written, hacquire, hwrite, hsame, -⟩ := Store.exists_write h index
  have hopen : written.openIndex call = .error .missing :=
    Store.openIndex_of_not_givesSegments (hsame ▸ hgives)
  simp only [searchStored, hacquire, hwrite, hopen]
  rfl

/-- The search in a call directory leaves the store as it is, if no directory is made, and otherwise
the new directory has been released. -/
theorem searchStored_cases (s : Service) (clause : Clause) (caller : Caller) (index : Index)
    (fresh : store.IsFresh) :
    (store.made? caller.name = none ∧ (s.searchStored clause caller index store).2 = store) ∨
      ∃ call t, store.made? caller.name = some call ∧ store.Adds call t ∧
        (s.searchStored clause caller index store).2 = t.release call := by
  rw [searchStored]
  cases hacquire : store.acquire caller.name with
  | error e => exact .inl ⟨by rw [Store.made?, hacquire], rfl⟩
  | ok acquired =>
    obtain ⟨call, acquired⟩ := acquired
    have hmade : store.made? caller.name = some call := by rw [Store.made?, hacquire]
    have hadds := Store.Adds.of_acquire hacquire (fresh.notMem hmade)
    refine .inr ⟨call, ?_⟩
    simp only
    cases hwrite : acquired.write call index with
    | error e => exact ⟨acquired, hmade, hadds, rfl⟩
    | ok written =>
      obtain ⟨-, -, rfl⟩ := Store.write_eq_ok_iff.mp hwrite
      exact ⟨_, hmade, hadds.setSegment _, rfl⟩

/-! ### What a call leaves -/

/-- The call directory that a call makes: none if it ends before. -/
def made? (s : Service) (caller : Caller) (query : String) (store : Store) : Option Call :=
  match Clause.parse query, s.source.records with
  | .ok _, .ok _ => store.made? caller.name
  | _, _ => none

/-- A call leaves the store as it is, if it makes no directory, and otherwise the new directory has
been released. -/
theorem search_cases (s : Service) (caller : Caller) (query : String) (fresh : store.IsFresh) :
    (s.made? caller query store = none ∧ (s.search caller query store).2 = store) ∨
      ∃ call t, s.made? caller query store = some call ∧ call ∉ store.directories ∧
        call.number = store.next ∧ store.Adds call t ∧
        (s.search caller query store).2 = t.release call := by
  have hrun : (s.search caller query store).2 = (s.run caller query store).2 := by
    rw [search]
    split <;> next h => rw [h]
  rw [hrun, run, made?]
  cases Clause.parse query with
  | error e => exact .inl ⟨rfl, rfl⟩
  | ok clause =>
    cases s.source.records with
    | error e => exact .inl ⟨rfl, rfl⟩
    | ok records =>
      obtain h | ⟨call, t, hmade, hadds, h⟩ := searchStored_cases s clause caller
        (visibleIndex clause caller records) fresh
      · exact .inl h
      · exact .inr ⟨call, t, hmade, fresh.notMem hmade, Store.number_of_made? hmade, hadds, h⟩

/-- **Cleanup.** The call directories after a call are those that were there before it, as they
were, and the one that it has made if directories cannot be removed. -/
theorem exists_left_search (s : Service) (caller : Caller) (query : String)
    (fresh : store.IsFresh) :
    ∃ left, (s.search caller query store).2.calls = store.calls ++ left ∧
      left.map (·.1) =
        if store.removal = .whole then [] else (s.made? caller query store).toList := by
  obtain ⟨hmade, h⟩ | ⟨call, t, hmade, hnew, -, hadds, h⟩ := search_cases s caller query fresh
  · refine ⟨[], by rw [h, List.append_nil], ?_⟩
    rw [hmade, Option.toList_none, ite_self]
    rfl
  · rw [h, hmade]
    exact hadds.exists_left hnew

/-- A call does not change how far removals get, and the store stays fresh. -/
theorem removal_search (s : Service) (caller : Caller) (query : String) (fresh : store.IsFresh) :
    (s.search caller query store).2.removal = store.removal := by
  obtain ⟨-, h⟩ | ⟨call, t, -, -, -, hadds, h⟩ := search_cases s caller query fresh
  · rw [h]
  · rw [h]
    exact hadds.removal

theorem isFresh_search (s : Service) (caller : Caller) (query : String) (fresh : store.IsFresh) :
    (s.search caller query store).2.IsFresh := by
  intro other hother
  obtain ⟨-, h⟩ | ⟨call, t, -, hnew, hnumber, hadds, h⟩ := search_cases s caller query fresh
  · rw [h] at hother ⊢
    exact fresh other hother
  · obtain ⟨left, hcalls, hleft⟩ := hadds.exists_left hnew
    have hnext : (t.release call).next = store.next + 1 := hadds.next
    rw [h] at hother ⊢
    rw [Store.directories, hcalls, List.map_append, List.mem_append] at hother
    rw [hnext]
    obtain hold | hown := hother
    · exact Nat.lt_succ_of_lt (fresh other hold)
    · have hcall : other = call := by
        rw [hleft] at hown
        split at hown
        · cases hown
        · exact List.mem_singleton.mp hown
      rw [hcall, hnumber]
      exact Nat.lt_succ_self _

/-- However many calls there are, and however each of them ends, they leave what was there before
them, as it was, and none of their own directories if directories can be removed, otherwise one of
each call at most. -/
theorem exists_left_searches (fresh : store.IsFresh) (requests : List (Caller × String)) :
    ∃ left, (requests.foldl (fun store r => (s.search r.1 r.2 store).2) store).calls =
        store.calls ++ left ∧
      left.length ≤ if store.removal = .whole then 0 else requests.length := by
  induction requests generalizing store with
  | nil => exact ⟨[], (List.append_nil _).symm, Nat.zero_le _⟩
  | cons r requests ih =>
    obtain ⟨first, hfirst, hown⟩ := exists_left_search s r.1 r.2 fresh
    obtain ⟨rest, hrest, hlength⟩ := ih (isFresh_search s r.1 r.2 fresh)
    refine ⟨first ++ rest, ?_, ?_⟩
    · rw [List.foldl_cons, hrest, hfirst, List.append_assoc]
    · have hfirstLength := congrArg List.length hown
      rw [removal_search s r.1 r.2 fresh] at hlength
      rw [List.length_map] at hfirstLength
      rw [List.length_append, hfirstLength]
      split
      · next hclean => simpa [hclean] using hlength
      · next hclean =>
        rw [if_neg hclean] at hlength
        have hone : (s.made? r.1 r.2 store).toList.length ≤ 1 := by
          cases s.made? r.1 r.2 store <;> simp
        rw [List.length_cons]
        omega

/-! ### Failures, in the order in which they apply -/

theorem search_of_parse_error {e : Query.SyntaxError} (h : Clause.parse query = .error e) :
    s.search caller query store = (.ok ⟨[], some (.syntaxError e)⟩, store) := by
  rw [search, run, h]
  rfl

theorem search_of_records_error {e : SourceError} (hparse : Clause.parse query = .ok clause)
    (h : s.source.records = .error e) :
    s.search caller query store = (.error (.source e), store) := by
  rw [search, run, hparse, h]
  rfl

/-- Before there are records to be indexed nothing is stored. -/
theorem store_search_of_error
    (h : (∃ e, Clause.parse query = .error e) ∨ ∃ e, s.source.records = .error e) :
    (s.search caller query store).2 = store := by
  cases hparse : Clause.parse query with
  | error e => rw [search_of_parse_error hparse]
  | ok clause =>
    obtain ⟨e, he⟩ | ⟨e, he⟩ := h
    · rw [hparse] at he
      cases he
    · rw [search_of_records_error hparse he]

section parsed

variable (hparse : Clause.parse query = .ok clause)

include hparse

variable {records : List Record} (hrecords : s.source.records = .ok records)

include hrecords

theorem search_of_refusal {e : BuildError} (h : store.refusal? caller.name = some e) :
    (s.search caller query store).1 = .error (.build e) := by
  have hstored := searchStored_of_refusal (s := s) h clause (visibleIndex clause caller records)
  rw [search, run, hparse, hrecords]
  simp only [hstored]
  rfl

/-- A segment that cannot be read leaves the result empty. -/
theorem search_of_not_givesSegments (h : store.refusal? caller.name = none)
    (hgives : ¬ store.givesSegments) :
    (s.search caller query store).1 = .ok ⟨[], some (.index .missing)⟩ := by
  have hstored := searchStored_of_not_givesSegments (s := s) h hgives clause
    (visibleIndex clause caller records)
  rw [search, run, hparse, hrecords]
  simp only [hstored]
  rfl

/-- A pattern that is none is found whatever the records are. -/
theorem search_of_firstInvalid {e : InvalidPattern} (h : store.Serves caller.name)
    (hinvalid : clause.firstInvalid? = some e) :
    (s.search caller query store).1 = .ok ⟨[], some (.index (.invalidPattern e))⟩ := by
  have hsearch := search_of_serves (s := s) query h hrecords
  simp only [hparse, Index.search, Index.evaluate_eq_error_iff.mpr hinvalid] at hsearch
  exact hsearch

theorem exists_search_of_patternsCompile (h : store.Serves caller.name)
    (hcompile : clause.PatternsCompile) :
    ∃ items, (s.search caller query store).1 = .ok ⟨items, none⟩ := by
  obtain ⟨hits, hhits⟩ := Index.exists_evaluate (visibleIndex clause caller records) hcompile
    s.config.limit
  have hsearch := search_of_serves (s := s) query h hrecords
  simp only [hparse, Index.search, hhits] at hsearch
  exact ⟨_, hsearch⟩

end parsed

/-- **Outcome and cleanup.** A call ends with the first failure that applies: a query that does not
parse, a segment that cannot be read and a pattern that is none leave an empty result with this
reason, the source and the store fail the call; otherwise there is a result without a reason. If the
query or the source fails the store is untouched. In all cases the call directories are those that
were there before, as they were, and nothing else if directories can be removed; if they cannot, the
one that the call has made is left in addition. -/
theorem search_outcome (s : Service) (caller : Caller) (query : String) (fresh : store.IsFresh) :
    (∃ items, (s.search caller query store).1 =
      match Clause.parse query with
      | .error e => .ok ⟨[], some (.syntaxError e)⟩
      | .ok clause =>
        match s.source.records with
        | .error e => .error (.source e)
        | .ok _ =>
          match store.refusal? caller.name with
          | some e => .error (.build e)
          | none =>
            if store.givesSegments then
              match clause.firstInvalid? with
              | some e => .ok ⟨[], some (.index (.invalidPattern e))⟩
              | none => .ok ⟨items, none⟩
            else .ok ⟨[], some (.index .missing)⟩) ∧
    ((∃ e, Clause.parse query = .error e) ∨ (∃ e, s.source.records = .error e) →
      (s.search caller query store).2 = store) ∧
    (store.removal = .whole → (s.search caller query store).2.calls = store.calls) ∧
    (store.removal ≠ .whole → ∃ left,
      (s.search caller query store).2.calls = store.calls ++ left ∧
        left.map (·.1) = (s.made? caller query store).toList) := by
  obtain ⟨left, hcalls, hleft⟩ := exists_left_search s caller query fresh
  refine ⟨?outcome, store_search_of_error, fun hclean => ?clean, fun hclean => ?left⟩
  case outcome =>
    cases hparse : Clause.parse query with
    | error e => exact ⟨[], by rw [search_of_parse_error hparse]⟩
    | ok clause =>
      cases hrecords : s.source.records with
      | error e => exact ⟨[], by rw [search_of_records_error hparse hrecords]⟩
      | ok records =>
        simp only
        cases hrefusal : store.refusal? caller.name with
        | some e => exact ⟨[], search_of_refusal hparse hrecords hrefusal⟩
        | none =>
          simp only
          split
          · next hgives =>
            have hserves := Store.serves_iff.mpr ⟨hrefusal, hgives⟩
            cases hinvalid : clause.firstInvalid? with
            | some e => exact ⟨[], search_of_firstInvalid hparse hrecords hserves hinvalid⟩
            | none =>
              exact exists_search_of_patternsCompile hparse hrecords hserves
                (Clause.firstInvalid?_eq_none_iff.mp hinvalid)
          · next hgives => exact ⟨[], search_of_not_givesSegments hparse hrecords hrefusal hgives⟩
  case clean =>
    rw [if_pos hclean] at hleft
    rw [hcalls, List.map_eq_nil_iff.mp hleft, List.append_nil]
  case left =>
    rw [if_neg hclean] at hleft
    exact ⟨left, hcalls, hleft⟩

/-- A store with a call directory of somebody else. -/
private abbrev busy : Store := ⟨true, true, true, .whole, ["bob"], [(⟨"bob", 0⟩, none)], 1⟩

set_option maxRecDepth 4000 in
/-- A pattern that is none, in a store with a directory of somebody else. -/
theorem search_outcome_invalidPattern :
    busy.IsFresh ∧ busy.removal = .whole ∧
      (search ⟨.ofRecords [], ⟨"index", 10⟩⟩ (.unrestricted "ada") "name:/(/" busy).1 =
        .ok ⟨[], some (.index (.invalidPattern ⟨"("⟩))⟩ ∧
      (search ⟨.ofRecords [], ⟨"index", 10⟩⟩ (.unrestricted "ada") "name:/(/" busy).2.calls =
        [(⟨"bob", 0⟩, none)] := by
  have hfresh : busy.IsFresh := by
    intro call hcall
    rw [List.mem_singleton.mp hcall]
    decide
  have hparse : Clause.parse "name:/(/" = .ok (.regexp "name" "(") := by with_unfolding_all rfl
  have hrecords : (Source.ofRecords []).records = .ok [] := rfl
  have hrefusal : busy.refusal? (Caller.unrestricted "ada").name = none := by decide +kernel
  have hinvalid : (Clause.regexp "name" "(").firstInvalid? = some ⟨"("⟩ := by decide +kernel
  obtain ⟨⟨items, houtcome⟩, -, hcalls, -⟩ :=
    search_outcome ⟨.ofRecords [], ⟨"index", 10⟩⟩ (.unrestricted "ada") "name:/(/" hfresh
  simp only [hparse, hrecords, hrefusal, hinvalid] at houtcome
  exact ⟨hfresh, rfl, houtcome, hcalls rfl⟩

/-- A store in which entries can be made but not removed. -/
private abbrev appendOnly : Store := ⟨true, true, true, .contents, [], [], 0⟩

/-- A store in which what is written cannot be read. -/
private abbrev writeOnly : Store := ⟨true, true, false, .whole, [], [], 0⟩

private abbrev noRecords : Service := ⟨.ofRecords [], ⟨"index", 10⟩⟩

set_option maxRecDepth 4000 in
/-- Where nothing can be removed, a call that succeeds leaves its directory behind. Where nothing can
be read, one whose query is in order has an empty result with a reason. -/
theorem search_appendOnly_writeOnly :
    (appendOnly.IsFresh ∧ appendOnly.calls = [] ∧
      (noRecords.search (.unrestricted "ada") "name:cas" appendOnly).1 = .ok ⟨[], none⟩ ∧
      (noRecords.search (.unrestricted "ada") "name:cas" appendOnly).2.calls =
        [(⟨"ada", 0⟩, none)]) ∧
    writeOnly.IsFresh ∧ writeOnly.refusal? "ada" = none ∧
      Clause.parse "name:cas" = .ok (.term "name" "cas") ∧
      (Clause.term "name" "cas").firstInvalid? = none ∧
      (noRecords.search (.unrestricted "ada") "name:cas" writeOnly).1 =
        .ok ⟨[], some (.index .missing)⟩ := by
  have hempty (s : Store) (h : s.calls = []) : s.IsFresh := by
    intro call hcall
    rw [Store.directories, h] at hcall
    cases hcall
  exact ⟨⟨hempty _ rfl, rfl, by decide +kernel, by decide +kernel⟩, hempty _ rfl, by decide +kernel,
    by with_unfolding_all rfl, by decide +kernel, by decide +kernel⟩

end Service

end RegistrySearch
