import RegistrySearch.Proofs.Service.Call

/-!
# Hidden records have no influence

What a call answers depends on the records that its caller sees, and on what look-ups and summaries
make of such records. Two sources that agree there (`Source.AgreesFor`) give the same answer, be it
a result or the reason why there is none, and nothing but summaries of visible records is in it.
-/

namespace RegistrySearch

open Query (Clause)

/-- Two sources agree for somebody who sees some records only: they list the same visible records, a
look-up finds the same visible record in both or none in either, and they summarize visible records
in the same way. -/
structure Source.AgreesFor (sees : Record → Bool) (s t : Source) : Prop where
  records : ∃ rs ts, s.records = .ok rs ∧ t.records = .ok ts ∧ rs.filter sees = ts.filter sees
  find? : ∀ id, (s.find? id).filter sees = (t.find? id).filter sees
  summarize : ∀ r, sees r → s.summarize r = t.summarize r

namespace Service

variable {s : Service} {caller : Caller} {query : String} {store store' : Store}

/-! ### Items -/

theorem sees_of_pull? {hit : StoredHit} {item : Item} (h : s.pull? caller hit = some item) :
    ∃ r, caller.sees r ∧ item = s.source.summarize r := by
  rw [pull?_eq, Option.bind_eq_some_iff] at h
  obtain ⟨id, -, h⟩ := h
  split at h
  · cases h
  · obtain ⟨r, hr, rfl⟩ := Option.map_eq_some_iff.mp h
    exact ⟨r, (Option.filter_eq_some_iff.mp hr).2, rfl⟩

/-- What a run answers are the items of hits. -/
private theorem exists_hits_of_run {items : List Item}
    (h : (s.run caller query store).1 = .ok items) :
    ∃ hits, items = List.filterMap (s.pull? caller) hits := by
  unfold run at h
  split at h
  · cases h
  · next clause _ =>
    split at h
    · cases h
    · next records _ =>
      simp only at h
      cases hhits : (s.searchStored clause caller (visibleIndex clause caller records) store).1 with
      | error e => rw [hhits] at h; cases h
      | ok hits =>
        rw [hhits] at h
        cases h
        exact ⟨hits, rfl⟩

/-- **Items.** Whatever a call answers, its items are summaries of records that the caller sees. -/
theorem sees_of_mem_search {report : Report} (h : (s.search caller query store).1 = .ok report) :
    ∀ item ∈ report.items, ∃ r, caller.sees r ∧ item = s.source.summarize r := by
  -- a report is that of a run, or an empty one
  have hrun : report.items = [] ∨ ∃ hits, report.items = List.filterMap (s.pull? caller) hits := by
    rw [search] at h
    split at h
    · next items _ hr =>
      cases h
      exact .inr (exists_hits_of_run (by rw [hr]))
    · next e _ _ =>
      simp only at h
      split at h
      · cases h
        exact .inl rfl
      · cases h
  intro item hi
  rcases hrun with hnil | ⟨hits, hitems⟩
  · rw [hnil] at hi
    cases hi
  · rw [hitems, List.mem_filterMap] at hi
    obtain ⟨hit, -, hp⟩ := hi
    exact sees_of_pull? hp

/-! ### Two sources -/

variable {source source' : Source} {config : Config}

/-- A look-up depends on the visible records alone. -/
theorem pull?_congr (h : source.AgreesFor caller.sees source') :
    pull? ⟨source, config⟩ caller = pull? ⟨source', config⟩ caller := by
  funext hit
  have hfind : ∀ id, ((source.find? id).filter caller.sees).map source.summarize =
      ((source'.find? id).filter caller.sees).map source'.summarize := by
    intro id
    rw [h.find? id]
    refine Option.map_congr fun r hr => ?_
    exact h.summarize r (Option.filter_eq_some_iff.mp hr).2
  simp only [pull?_eq, hfind]

/-- **Noninterference.** Sources that agree for a caller give the caller the same answer, on stores
that serve the caller, and there is one. -/
theorem search_congr (h : source.AgreesFor caller.sees source') (hserves : store.Serves caller.name)
    (hserves' : store'.Serves caller.name) :
    ∃ report, (search ⟨source, config⟩ caller query store).1 = .ok report ∧
      (search ⟨source', config⟩ caller query store').1 = .ok report ∧
      ∀ item ∈ report.items, ∃ r, caller.sees r ∧ item = source.summarize r := by
  obtain ⟨rs, rs', hrs, hrs', hvisible⟩ := h.records
  -- hidden records are left out before anything is counted
  have hindex : ∀ clause, visibleIndex clause caller rs = visibleIndex clause caller rs' := by
    intro clause
    rw [visibleIndex, hvisible, visibleIndex]
  have hsearch := search_of_serves (s := ⟨source, config⟩) query hserves hrs
  have hsearch' := search_of_serves (s := ⟨source', config⟩) query hserves' hrs'
  refine ⟨_, hsearch, ?_, sees_of_mem_search hsearch⟩
  rw [hsearch']
  simp only [hindex, pull?_congr h]

/-- A source with a hidden record that matches, and one without it. -/
theorem search_congr_cas :
    ∃ report,
      (search ⟨.ofRecords [.object [("id", .number (.natural 1)), ("name", .string "CAS")],
          .object [("id", .number (.natural 2)), ("name", .string "CAS")]], ⟨"index", 10⟩⟩
        (.withIds "ada" [1]) "name:cas" .empty).1 = .ok report ∧
      (search ⟨.ofRecords [.object [("id", .number (.natural 1)), ("name", .string "CAS")]],
          ⟨"index", 10⟩⟩ (.withIds "ada" [1]) "name:cas" .empty).1 = .ok report ∧
      ∀ item ∈ report.items, ∃ r, (Caller.withIds "ada" [1]).sees r ∧ item = Item.ofRecord r := by
  have hserves : Store.empty.Serves (Caller.withIds "ada" [1]).name :=
    ⟨rfl, rfl, rfl, by decide +kernel⟩
  have hagree : Source.AgreesFor (Caller.withIds "ada" [1]).sees
      (.ofRecords [.object [("id", .number (.natural 1)), ("name", .string "CAS")],
        .object [("id", .number (.natural 2)), ("name", .string "CAS")]])
      (.ofRecords [.object [("id", .number (.natural 1)), ("name", .string "CAS")]]) := by
    refine ⟨⟨_, _, rfl, rfl, rfl⟩, fun id => ?_, fun _ _ => rfl⟩
    rw [Source.find?_ofRecords, Source.find?_ofRecords]
    have hvisible :
        Record.id (.object [("id", .number (.natural 1)), ("name", .string "CAS")]) = 1 := by
      decide +kernel
    have hhidden :
        Record.id (.object [("id", .number (.natural 2)), ("name", .string "CAS")]) = 2 := by
      decide +kernel
    by_cases hone : 1 = id
    · subst hone
      rfl
    · by_cases htwo : 2 = id
      · subst htwo
        rfl
      · simp [hvisible, hhidden, hone, htwo]
  exact search_congr hagree hserves hserves

end Service

end RegistrySearch
