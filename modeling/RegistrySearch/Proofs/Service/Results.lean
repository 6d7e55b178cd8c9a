import RegistrySearch.Proofs.Search.Exactness
import RegistrySearch.Proofs.Service.Call

/-!
# Results

Of records with different identifiers the ordinal of a hit, the identifier that is stored for it and
the record that is found by the identifier belong together. So a call answers the summaries of the
records at the ordinals that evaluation finds, in their order, and none is lost.
-/

namespace RegistrySearch

open Query (Clause)

/-- If a function gives something for every element of a list, nothing is left out. -/
theorem map_some_filterMap {α β : Type} {f : α → Option β} {xs : List α}
    (h : ∀ x ∈ xs, (f x).isSome) : (xs.filterMap f).map some = xs.map f := by
  rw [List.map_filterMap_some_eq_filter_map_isSome, List.filter_eq_self, List.forall_mem_map]
  exact h

/-- Of records with different identifiers each one is found by its own. -/
theorem Source.find?_ofRecords_of_mem {records : List Record} (hn : (records.map Record.id).Nodup)
    {r : Record} (hr : r ∈ records) : (Source.ofRecords records).find? (Record.id r) = some r := by
  rw [Source.find?_ofRecords, filter_key_eq_singleton hn hr, List.getLast?_singleton]

namespace Service

variable {caller : Caller} {store : Store} {config : Config} {clause : Clause} {query : String}
  {records : List Record}

/-- The identifier that is stored for an ordinal is that of the visible record. -/
theorem storedId?_visibleIndex {doc : Ordinal} :
    (visibleIndex clause caller records).storedId? doc =
      ((records.filter caller.sees)[doc.toNat]?).map Record.id := by
  simp only [visibleIndex, Index.ofDocuments, Index.storedId?, List.getElem?_toArray,
    List.getElem?_map, Option.map_map]
  rfl

/-- The item of a hit is the summary of the record at its ordinal. -/
theorem pull?_storedHit (hn : (records.map Record.id).Nodup)
    (hids : ∀ r ∈ records, Record.id r ≠ Record.missingId) {hit : StoredHit}
    (hid : hit.id = (visibleIndex clause caller records).storedId? hit.doc) :
    pull? ⟨.ofRecords records, config⟩ caller hit =
      ((records.filter caller.sees)[hit.doc.toNat]?).map Item.ofRecord := by
  rw [pull?_eq, hid, storedId?_visibleIndex]
  cases hr : (records.filter caller.sees)[hit.doc.toNat]? with
  | none => rfl
  | some r =>
    obtain ⟨hmem, hsees⟩ := List.mem_filter.mp (List.mem_of_getElem? hr)
    simp only [Option.map_some, Option.bind_some]
    rw [if_neg (hids r hmem), Source.find?_ofRecords_of_mem hn hmem, Option.filter_some,
      if_pos hsees]
    rfl

/-- **Results.** Of records with integer identifiers, all different, a call whose query parses and
whose patterns compile answers the summaries of the visible records at the ordinals of the hits, in
their order: as many as the limit allows, of all that there are. -/
theorem search_ofRecords (hserves : store.Serves caller.name)
    (hn : (records.map Record.id).Nodup)
    (hids : ∀ r ∈ records, Record.id r ≠ Record.missingId)
    (hparse : Clause.parse query = .ok clause) (hcompile : clause.PatternsCompile) :
    ∃ items hits all,
      (search ⟨.ofRecords records, config⟩ caller query store).1 = .ok ⟨items, none⟩ ∧
      (visibleIndex clause caller records).evaluate clause config.limit = .ok hits ∧
      (visibleIndex clause caller records).evaluate clause (records.filter caller.sees).length =
        .ok all ∧
      items.map some =
        hits.map (fun hit => ((records.filter caller.sees)[hit.doc.toNat]?).map Item.ofRecord) ∧
      items.length = min config.limit all.length := by
  have hindex : visibleIndex clause caller records = .ofDocuments
      ((records.filter caller.sees).map fun r => Record.project r clause.paths) := rfl
  obtain ⟨hits, hhits⟩ := Index.exists_evaluate (visibleIndex clause caller records) hcompile
    config.limit
  obtain ⟨all, hall⟩ := Index.exists_evaluate (visibleIndex clause caller records) hcompile
    (records.filter caller.sees).length
  have hsearch := search_of_serves (s := ⟨.ofRecords records, config⟩) query hserves rfl
  simp only [hparse, Index.search, hhits] at hsearch
  -- every hit leads to a visible record, so none is left out
  have hrange : ∀ hit ∈ hits, hit.doc.toNat < (records.filter caller.sees).length := by
    intro hit hm
    rw [hindex] at hhits
    simpa using Index.lt_length_of_finds hcompile (Index.finds_of_mem_evaluate hhits hm)
  have hitems : ((hits.map fun hit => (⟨hit.doc, hit.score,
      (visibleIndex clause caller records).storedId? hit.doc⟩ : StoredHit)).filterMap
        (pull? ⟨.ofRecords records, config⟩ caller)).map some =
      hits.map fun hit => ((records.filter caller.sees)[hit.doc.toNat]?).map Item.ofRecord := by
    rw [List.filterMap_map, map_some_filterMap]
    · exact List.map_congr_left fun hit _ => pull?_storedHit hn hids rfl
    · intro hit hm
      rw [Function.comp_apply, pull?_storedHit hn hids rfl,
        List.getElem?_eq_getElem (hrange hit hm)]
      rfl
  refine ⟨_, hits, all, hsearch, hhits, hall, hitems, ?_⟩
  have hlength := congrArg List.length hitems
  rw [List.length_map, List.length_map] at hlength
  rw [hlength]
  rw [hindex] at hhits hall
  exact Index.length_evaluate hcompile hhits (by rwa [List.length_map])

/-- One of two records with the same name. -/
private abbrev mine : Record := .object [("id", .number (.natural 1)), ("name", .string "CAS")]

private abbrev yours : Record := .object [("id", .number (.natural 2)), ("name", .string "CAS")]

set_option maxRecDepth 4000 in
/-- A caller who sees one of the two gets this one. -/
theorem search_ofRecords_cas :
    (search ⟨.ofRecords [mine, yours], ⟨"index", 10⟩⟩ (.withIds "ada" [1]) "name:cas" .empty).1 =
      .ok ⟨[Item.ofRecord mine], none⟩ := by
  have hserves : Store.empty.Serves "ada" := ⟨rfl, rfl, rfl, by decide +kernel⟩
  have hparse : Clause.parse "name:cas" = .ok (.term "name" "cas") := by with_unfolding_all rfl
  have hcompile : (Clause.term "name" "cas").PatternsCompile :=
    (Clause.patternsCompile_leaf rfl).mpr rfl
  have hvisible : [mine, yours].filter (Caller.withIds "ada" [1]).sees = [mine] :=
    rfl
  have hproject : Record.project mine (Clause.term "name" "cas").paths =
      ⟨1, [.exact "id" "1", .numeric "id" 1, .text "name" "CAS"]⟩ := rfl
  obtain ⟨hit, hhit, hdoc⟩ : ∃ hit, (visibleIndex (.term "name" "cas") (.withIds "ada" [1])
      [mine, yours]).evaluate (.term "name" "cas") 10 = .ok [hit] ∧ hit.doc.toNat = 0 := by
    rw [visibleIndex, hvisible, List.map_singleton, hproject]
    refine Index.evaluate_eq_singleton (.of_textTerms (by decide) (by with_unfolding_all decide)
      fun _ _ _ _ hl => nomatch List.mem_singleton.mp hl) hcompile (by decide) fun i => ?_
    cases i with
    | zero => simpa using ⟨0, .inl (by with_unfolding_all rfl)⟩
    | succ i => simp
  obtain ⟨items, hits, all, hsearch, heval, -, hitems, -⟩ :=
    @search_ofRecords (.withIds "ada" [1]) .empty ⟨"index", 10⟩ (.term "name" "cas") "name:cas"
      [mine, yours] hserves (by decide +kernel) (by decide +kernel) hparse hcompile
  obtain rfl := Except.ok.inj (hhit.symm.trans heval)
  rw [List.map_singleton, hvisible, hdoc] at hitems
  obtain ⟨item, rfl, hitem⟩ := List.map_eq_singleton_iff.mp hitems
  rw [hsearch, Option.some.inj hitem]

end Service

end RegistrySearch
