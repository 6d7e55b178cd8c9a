import RegistrySearch.Proofs.Store.Directories
import RegistrySearch.Service.Search

/-!
# The outcome of a call

A call directory is made for one call and read by it alone, so what is read from it is what was
written. The store has no part in the outcome as long as it takes the directory and the segment and
gives the segment back (`Store.Serves`); whether the directory can be removed again is of no
concern. What is left of a call is the search of the index of the visible records, and the look-up
of its hits.
-/

namespace RegistrySearch

open Query (Clause)

namespace Store

variable {s : Store} {caller : String}

/-- A store takes the call directories of a caller with their segments and gives the segments back:
directories can be made, segments written and read, and the name of the scope is not too long.
Whether it lets the directories go does not matter here. -/
structure Serves (s : Store) (caller : String) : Prop where
  directories : s.takesDirectories
  segments : s.takesSegments
  readable : s.givesSegments
  name : (Text.sanitizeComponent caller).utf8ByteSize ≤ Text.nameLimit

/-- A store that does not refuse a caller serves the caller, if segments can be read. -/
theorem serves_iff : s.Serves caller ↔ s.refusal? caller = none ∧ s.givesSegments := by
  rw [refusal?_eq_none_iff]
  exact ⟨fun h => ⟨⟨h.directories, h.name, h.segments⟩, h.readable⟩,
    fun ⟨⟨hd, hn, hs⟩, hg⟩ => ⟨hd, hs, hg, hn⟩⟩

/-- A store that does not refuse a caller makes a call directory and writes every index in it; that
segments can be read is not needed. -/
theorem exists_write (h : s.refusal? caller = none) (index : Index) :
    ∃ call acquired written, s.acquire caller = .ok (call, acquired) ∧
      acquired.write call index = .ok written ∧ written.givesSegments = s.givesSegments ∧
      (s.givesSegments → written.openIndex call = .ok index) := by
  obtain ⟨hd, hn, hs⟩ := refusal?_eq_none_iff.mp h
  obtain ⟨call, acquired, hacquire⟩ : ∃ call acquired, s.acquire caller = .ok (call, acquired) :=
    ⟨_, _, acquire_eq_ok_iff.mpr ⟨hd, hn, rfl, rfl⟩⟩
  have hacquired := (acquire_eq_ok_iff.mp hacquire).2.2.2
  have hsegments : acquired.takesSegments := hacquired ▸ hs
  have hgives : acquired.givesSegments = s.givesSegments := by rw [hacquired]
  have hhas : acquired.has call :=
    has_iff.mpr (directories_acquire hacquire ▸ List.mem_append_right _ (List.mem_singleton_self _))
  refine ⟨call, acquired, _, hacquire, write_eq hsegments hhas index, hgives, fun hg => ?_⟩
  exact openIndex_of_holds (hgives.trans hg) (segment?_setSegment hhas _)
    (Segment.holds_ofIndex index)

end Store

/-- A list of records finds the last record with an identifier. -/
theorem Source.find?_ofRecords {records : List Record} {id : Int64} :
    (Source.ofRecords records).find? id = (records.filter (Record.id · = id)).getLast? := by
  have hvalues : valuesAt id.toInt (records.map fun r => ((Record.id r).toInt, r)) =
      records.filter (Record.id · = id) := by
    induction records with
    | nil => rfl
    | cons r records ih =>
      rw [List.map_cons, valuesAt_cons, ih, List.filter_cons]
      simp only [Int64.toInt_inj, decide_eq_true_eq]
  simp only [Source.ofRecords, Dictionary.get?_ofList, hvalues]

namespace Service

variable {s : Service} {caller : Caller} {store : Store} {records : List Record}

/-- The search in a call directory is that of the index. -/
theorem searchStored_of_serves (h : store.Serves caller.name) (clause : Clause) (index : Index) :
    (s.searchStored clause caller index store).1 =
      (index.search clause s.config.limit).mapError .index := by
  obtain ⟨hrefusal, hgives⟩ := Store.serves_iff.mp h
  obtain ⟨call, acquired, written, hacquire, hwrite, -, hopen⟩ :=
    Store.exists_write hrefusal index
  simp only [searchStored, hacquire, hwrite, hopen hgives]
  rfl

/-- **Outcome.** When the source lists its records and the store serves the caller, a call answers
what the search of the index of the visible records gives; an error of the query or of one of its
patterns leaves the answer empty. -/
theorem search_of_serves (query : String) (h : store.Serves caller.name)
    (hrecords : s.source.records = .ok records) :
    (s.search caller query store).1 = .ok (match Clause.parse query with
      | .error e => ⟨[], some (.syntaxError e)⟩
      | .ok clause =>
        match (visibleIndex clause caller records).search clause s.config.limit with
        | .ok hits => ⟨hits.filterMap (s.pull? caller), none⟩
        | .error e => ⟨[], some (.index e)⟩) := by
  rw [search, run]
  cases Clause.parse query with
  | error e => rfl
  | ok clause =>
    have hstored := searchStored_of_serves (s := s) h clause (visibleIndex clause caller records)
    simp only [hrecords, hstored]
    cases (visibleIndex clause caller records).search clause s.config.limit <;> rfl

/-- The item of a hit is that of the record with its identifier, if the caller sees one. -/
theorem pull?_eq {hit : StoredHit} :
    s.pull? caller hit = hit.id.bind fun id =>
      if id = Record.missingId then none
      else ((s.source.find? id).filter caller.sees).map s.source.summarize := by
  rw [pull?]
  cases hit.id with
  | none => rfl
  | some id =>
    simp only [Option.bind_eq_bind, Option.bind_some]
    split
    · rfl
    · cases s.source.find? id with
      | none => rfl
      | some r => cases hr : caller.sees r <;> simp [hr, Option.filter]

end Service

end RegistrySearch
