import RegistrySearch.Proofs.Service.Outcome
import RegistrySearch.Proofs.Service.Results
import RegistrySearch.Proofs.Text.Numerals

/-!
# Records with the same identifier

A hit leads back to a record by its identifier, and of the records with one identifier the last is
found. A caller who does not see this last record gets no item for the hit, and one who does gets
the summary of it, whichever of the records was hit.
-/

namespace RegistrySearch

open Query (Clause)

/-! ### The last record with an identifier -/

namespace Record

variable {records : List Record} {sees : Record → Bool} {id : Int64} {r : Record}

/-- The last record with an identifier. -/
def lastWith? (records : List Record) (id : Int64) : Option Record :=
  (records.filter (Record.id · = id)).getLast?

/-- No two records have the same identifier, those aside that have none. -/
def DistinctIds (records : List Record) : Prop :=
  ∀ id ≠ missingId, (records.filter (Record.id · = id)).length ≤ 1

theorem mem_of_lastWith? (h : lastWith? records id = some r) : r ∈ records ∧ Record.id r = id := by
  simpa using List.mem_filter.mp (List.mem_of_getLast? h)

/-- A last record that is not filtered out stays the last. -/
theorem lastWith?_filter (h : (lastWith? records id).any sees) :
    lastWith? (records.filter sees) id = lastWith? records id := by
  obtain ⟨r, hr, hsees⟩ := (Option.any_eq_true _ _).mp h
  obtain ⟨front, hfront⟩ := List.getLast?_eq_some_iff.mp hr
  have hkeep : (records.filter sees).filter (Record.id · = id) = front.filter sees ++ [r] := by
    rw [List.filter_comm, hfront, List.filter_append, List.filter_singleton, hsees]
    rfl
  rw [lastWith?, hkeep, List.getLast?_concat, hr]

/-- Of records with distinct identifiers each is the last with its own. -/
theorem DistinctIds.lastWith? (h : DistinctIds records) (hid : Record.id r ≠ missingId)
    (hr : r ∈ records) : Record.lastWith? records (Record.id r) = some r := by
  have hmem : r ∈ records.filter (Record.id · = Record.id r) := by simpa using hr
  obtain ⟨x, hx⟩ := List.length_eq_one_iff.mp
    (Nat.le_antisymm (h _ hid) (List.length_pos_of_mem hmem))
  rw [hx, List.mem_singleton] at hmem
  rw [Record.lastWith?, hx, hmem, List.getLast?_singleton]

end Record

/-! ### Hits -/

/-- A search gives the hits of the evaluation, each with the identifier that is stored for it. -/
theorem Index.exists_evaluate_of_search {index : Index} {c : Clause} {limit : Nat}
    {hits : List StoredHit} (h : index.search c limit = .ok hits) :
    ∃ all, index.evaluate c limit = .ok all ∧ (hits.map (·.doc)).Nodup ∧
      ∀ hit ∈ hits, hit.doc ∈ all.map (·.doc) ∧ hit.id = index.storedId? hit.doc := by
  rw [search] at h
  split at h
  · next all hall =>
    cases h
    refine ⟨all, hall, by simpa [Function.comp_def] using nodup_evaluate hall, fun hit hm => ?_⟩
    obtain ⟨found, hfound, rfl⟩ := List.mem_map.mp hm
    exact ⟨List.mem_map_of_mem hfound, rfl⟩
  · cases h

/-! ### Hidden records -/

/-- The last record with the identifier of an item is one that the caller sees. -/
def Item.isCurrent (records : List Record) (caller : Caller) (item : Item) : Bool :=
  (records.filter fun r => (Item.ofRecord r).assignedId = item.assignedId).getLast?.any caller.sees

theorem Item.isCurrent_ofRecord {records : List Record} {caller : Caller} {r : Record} :
    (Item.ofRecord r).isCurrent records caller =
      (Record.lastWith? records (Record.id r)).any caller.sees := by
  have hsame (x : Record) : (Item.ofRecord x).assignedId = (Item.ofRecord r).assignedId ↔
      Record.id x = Record.id r := by
    refine ⟨fun h => ?_, fun h => congrArg (toString ·.toInt) h⟩
    -- an identifier is read back from its text
    have hread := congrArg Numeral.readInt64? h
    rwa [Item.ofRecord, Item.ofRecord, Numeral.readInt64?_toString, Numeral.readInt64?_toString,
      Option.some.injEq] at hread
  simp only [isCurrent, Record.lastWith?, hsame]

namespace Service

variable {caller : Caller} {store : Store} {config : Config} {clause : Clause} {query : String}
  {records : List Record} {hit : StoredHit}

theorem pull?_ofRecords : pull? ⟨.ofRecords records, config⟩ caller hit =
    hit.id.bind fun id => if id = Record.missingId then none
      else ((Record.lastWith? records id).filter caller.sees).map Item.ofRecord := by
  simp only [pull?_eq, Source.find?_ofRecords, Record.lastWith?]
  rfl

theorem pull?_ofRecords_eq_some_iff {item : Item} :
    pull? ⟨.ofRecords records, config⟩ caller hit = some item ↔
      ∃ id r, hit.id = some id ∧ id ≠ Record.missingId ∧ Record.lastWith? records id = some r ∧
        caller.sees r ∧ item = Item.ofRecord r := by
  rw [pull?_ofRecords, Option.bind_eq_some_iff]
  constructor
  · rintro ⟨id, hid, h⟩
    split at h
    · cases h
    · next hne =>
      obtain ⟨r, hr, rfl⟩ := Option.map_eq_some_iff.mp h
      obtain ⟨hlast, hsees⟩ := Option.filter_eq_some_iff.mp hr
      exact ⟨id, r, hid, hne, hlast, hsees, rfl⟩
  · rintro ⟨id, r, hid, hne, hlast, hsees, rfl⟩
    refine ⟨id, hid, ?_⟩
    rw [if_neg hne, hlast, Option.filter_some, if_pos hsees, Option.map_some]

/-- Hidden records take away the items of those hits whose identifier leads to one of them. -/
theorem pull?_withHidden : pull? ⟨.ofRecords records, config⟩ caller hit =
    (pull? ⟨.ofRecords (records.filter caller.sees), config⟩ caller hit).filter
      (Item.isCurrent records caller) := by
  rw [pull?_ofRecords, pull?_ofRecords]
  cases hit.id with
  | none => rfl
  | some id =>
    simp only [Option.bind_some]
    split
    · rfl
    · by_cases hlast : (Record.lastWith? records id).any caller.sees
      · -- the last record is visible, so it is found either way
        obtain ⟨r, hr, hsees⟩ := (Option.any_eq_true _ _).mp hlast
        rw [Record.lastWith?_filter hlast, hr, Option.filter_some, if_pos hsees, Option.map_some,
          Option.filter_some, Item.isCurrent_ofRecord, (Record.mem_of_lastWith? hr).2, hlast]
        rfl
      · have hnone : (Record.lastWith? records id).filter caller.sees = none := by
          cases hr : Record.lastWith? records id with
          | none => rfl
          | some r =>
            rw [hr, Option.any_some] at hlast
            rw [Option.filter_some, if_neg hlast]
        rw [hnone, Option.map_none]
        cases hr : Record.lastWith? (records.filter caller.sees) id with
        | none => rfl
        | some r =>
          obtain ⟨hmem, hid⟩ := Record.mem_of_lastWith? hr
          rw [Option.filter_some, if_pos (List.mem_filter.mp hmem).2, Option.map_some,
            Option.filter_some, Item.isCurrent_ofRecord, hid, if_neg hlast]

/-- Two sources with the same visible records answer alike, as far as their look-ups do. -/
theorem search_of_pull? {s t : Service} {rs rt : List Record} (keep : Item → Bool)
    (hconfig : s.config = t.config)
    (hs : s.source.records = .ok rs) (ht : t.source.records = .ok rt)
    (hvisible : rs.filter caller.sees = rt.filter caller.sees)
    (hpull : ∀ hit, s.pull? caller hit = (t.pull? caller hit).filter keep) :
    s.search caller query store =
      ((t.search caller query store).1.map fun report =>
        { report with items := report.items.filter keep }, (t.search caller query store).2) := by
  have hindex (clause : Clause) :
      visibleIndex clause caller rs = visibleIndex clause caller rt := by
    rw [visibleIndex, hvisible, visibleIndex]
  have hstored (clause : Clause) (index : Index) : s.searchStored clause caller index store =
      t.searchStored clause caller index store := by
    simp only [searchStored, hconfig]
  have hitems (hits : List StoredHit) : hits.filterMap (s.pull? caller) =
      (hits.filterMap (t.pull? caller)).filter keep := by
    rw [List.filter_filterMap]
    exact congrArg (fun f => hits.filterMap f) (funext hpull)
  rw [search, search, run, run]
  cases Clause.parse query with
  | error e => rfl
  | ok clause =>
    simp only [hs, ht, hindex, hstored]
    obtain ⟨outcome, left⟩ := t.searchStored clause caller (visibleIndex clause caller rt) store
    cases outcome with
    | ok hits => simp only [Except.map, hitems]
    | error e => cases e <;> rfl

/-- **Hidden records.** A call answers what it answers without the hidden records, less the items of
which a hidden record is the last one with the identifier. Everything else, the reason of an empty
answer, an error of the call, and the store, is the same. So hidden records change nothing if none
of them is the last one with the identifier of a visible record. -/
theorem search_withHidden (records : List Record) (config : Config) (caller : Caller)
    (query : String) (store : Store) :
    search ⟨.ofRecords records, config⟩ caller query store =
      ((search ⟨.ofRecords (records.filter caller.sees), config⟩ caller query store).1.map
        fun report => { report with items := report.items.filter (Item.isCurrent records caller) },
        (search ⟨.ofRecords (records.filter caller.sees), config⟩ caller query store).2) ∧
    ((∀ r ∈ records, caller.sees r → Record.id r ≠ Record.missingId →
        (Record.lastWith? records (Record.id r)).any caller.sees) →
      search ⟨.ofRecords records, config⟩ caller query store =
        search ⟨.ofRecords (records.filter caller.sees), config⟩ caller query store) := by
  have hvisible : records.filter caller.sees = (records.filter caller.sees).filter caller.sees := by
    simp
  refine ⟨search_of_pull? _ rfl rfl rfl hvisible fun hit => pull?_withHidden, fun hlast => ?_⟩
  -- nothing that is found is taken away
  have hpull (hit : StoredHit) : pull? ⟨.ofRecords records, config⟩ caller hit =
      (pull? ⟨.ofRecords (records.filter caller.sees), config⟩ caller hit).filter
        fun _ => true := by
    rw [pull?_withHidden]
    cases hitem : pull? ⟨.ofRecords (records.filter caller.sees), config⟩ caller hit with
    | none => rfl
    | some item =>
      obtain ⟨id, r, -, hne, hr, hsees, rfl⟩ := pull?_ofRecords_eq_some_iff.mp hitem
      obtain ⟨hmem, rfl⟩ := Record.mem_of_lastWith? hr
      have hcurrent := hlast r (List.mem_filter.mp hmem).1 hsees hne
      rw [Option.filter_some, Option.filter_some, Item.isCurrent_ofRecord, hcurrent]
  refine (search_of_pull? (s := ⟨.ofRecords records, config⟩)
    (t := ⟨.ofRecords (records.filter caller.sees), config⟩) _ rfl rfl rfl hvisible hpull).trans ?_
  obtain ⟨outcome, left⟩ :=
    search ⟨.ofRecords (records.filter caller.sees), config⟩ caller query store
  cases outcome with
  | ok report => simp [Except.map]
  | error e => rfl

/-- A record that the caller `ada` sees. -/
private abbrev shown : Record :=
  .object [("id", .number (.natural 1)), ("name", .string "CAS")]

/-- A record with another identifier, which `ada` does not see. -/
private abbrev concealed : Record :=
  .object [("id", .number (.natural 2)), ("name", .string "CAS")]

private abbrev ada : Caller := .withIds "ada" [1]

/-- A hidden record with an identifier of its own. -/
theorem search_withHidden_cas :
    (∀ r ∈ [shown, concealed], ada.sees r → Record.id r ≠ Record.missingId →
      (Record.lastWith? [shown, concealed] (Record.id r)).any ada.sees) ∧
    search ⟨.ofRecords [shown, concealed], ⟨"index", 10⟩⟩ ada "name:cas" .empty =
      search ⟨.ofRecords [shown], ⟨"index", 10⟩⟩ ada "name:cas" .empty := by
  have hlast : ∀ r ∈ [shown, concealed], ada.sees r → Record.id r ≠ Record.missingId →
      (Record.lastWith? [shown, concealed] (Record.id r)).any ada.sees := by
    decide +kernel
  exact ⟨hlast, (search_withHidden [shown, concealed] ⟨"index", 10⟩ ada "name:cas" .empty).2 hlast⟩

/-! Two records with one identifier: the first matches, the second is found. -/

private abbrev portal : Record :=
  .object [("id", .number (.natural 7)), ("name", .string "portal"),
    ("serviceId", .string "https://public.example.org")]

private abbrev secret : Record :=
  .object [("id", .number (.natural 7)), ("name", .string "secret"),
    ("serviceId", .string "https://hidden.example.org")]

/-- A caller who sees the first of them. -/
private abbrev frank : Caller :=
  ⟨"frank", fun r => Record.textAt r "serviceId" = "https://public.example.org"⟩

private theorem patternsCompile_portal : (Clause.term "name" "portal").PatternsCompile :=
  (Clause.patternsCompile_leaf rfl).mpr rfl

set_option maxRecDepth 4000 in
/-- The first one is the only hit, whether the second is visible or not. -/
private theorem evaluate_portal {others : List Record} (hothers : others = [] ∨ others = [secret])
    (hvisible : records.filter caller.sees = portal :: others) :
    ∃ hit, (visibleIndex (.term "name" "portal") caller records).evaluate (.term "name" "portal")
      5 = .ok [hit] ∧ hit.doc.toNat = 0 := by
  have hfirst : Record.project portal (Clause.term "name" "portal").paths =
      ⟨7, [.exact "id" "7", .numeric "id" 7, .text "name" "portal"]⟩ := rfl
  have hsecond : Record.project secret (Clause.term "name" "portal").paths =
      ⟨7, [.exact "id" "7", .numeric "id" 7, .text "name" "secret"]⟩ := rfl
  have hportal : Document.Satisfies ⟨7, [.exact "id" "7", .numeric "id" 7, .text "name" "portal"]⟩
      (.term "name" "portal") := ⟨0, .inl (by with_unfolding_all rfl)⟩
  have hsecret : ¬Document.Satisfies ⟨7, [.exact "id" "7", .numeric "id" 7, .text "name" "secret"]⟩
      (.term "name" "portal") := by
    rintro ⟨position, hs | ⟨-, f, hf, hk, -⟩⟩
    · have hterm : "portal" ∈ textTerms [.text "name" "secret"] := List.mem_of_getElem? hs
      exact absurd hterm (by with_unfolding_all decide)
    · have hfields : f ∈ [Field.text "name" "secret"] := hf
      rw [List.mem_singleton.mp hfields] at hk
      cases hk
  have hindex : visibleIndex (.term "name" "portal") caller records = .ofDocuments
      ((portal :: others).map fun r => Record.project r (Clause.term "name" "portal").paths) := by
    rw [visibleIndex, hvisible]
  rw [hindex]
  obtain rfl | rfl := hothers
  · rw [List.map_singleton, hfirst]
    refine Index.evaluate_eq_singleton (.of_textTerms (by decide) (by with_unfolding_all decide)
      fun _ _ _ _ hl => ?_) patternsCompile_portal (by decide) fun i => ?_
    · cases List.mem_singleton.mp hl
    · cases i with
      | zero => simpa using hportal
      | succ i => simp
  · rw [List.map_cons, List.map_singleton, hfirst, hsecond]
    refine Index.evaluate_eq_singleton (.of_textTerms (by decide) (by with_unfolding_all decide)
      fun _ _ _ _ hl => ?_) patternsCompile_portal (by decide) fun i => ?_
    · cases List.mem_singleton.mp hl
    · obtain _ | _ | i := i
      · simpa using hportal
      · simpa using hsecret
      · refine iff_of_false ?_ (Nat.succ_ne_zero _)
        rintro ⟨hi, -⟩
        exact Nat.not_lt.mpr (Nat.le_add_left 2 i) hi

set_option maxRecDepth 4000 in
/-- The answer depends on the last of the records. -/
private theorem search_portal {others : List Record} {last : Record}
    (hothers : others = [] ∨ others = [secret])
    (hvisible : records.filter caller.sees = portal :: others)
    (hserves : Store.empty.Serves caller.name) (hlast : Record.lastWith? records 7 = some last) :
    (search ⟨.ofRecords records, ⟨"index", 5⟩⟩ caller "name:portal" .empty).1 =
      .ok ⟨if caller.sees last then [Item.ofRecord last] else [], none⟩ := by
  have hparse : Clause.parse "name:portal" = .ok (.term "name" "portal") := by
    with_unfolding_all rfl
  obtain ⟨hit, heval, hdoc⟩ := evaluate_portal hothers hvisible
  have hid : (visibleIndex (.term "name" "portal") caller records).storedId? hit.doc = some 7 := by
    rw [storedId?_visibleIndex, hvisible, hdoc, List.getElem?_cons_zero, Option.map_some]
    rfl
  have hpull : pull? ⟨.ofRecords records, ⟨"index", 5⟩⟩ caller ⟨hit.doc, hit.score, some 7⟩ =
      if caller.sees last then some (Item.ofRecord last) else none := by
    rw [pull?_ofRecords, Option.bind_some, if_neg (by decide), hlast, Option.filter_some]
    split <;> rfl
  have hlimit : Config.limit ⟨"index", 5⟩ = 5 := rfl
  have hsearch :=
    search_of_serves (s := ⟨.ofRecords records, ⟨"index", 5⟩⟩) "name:portal" hserves rfl
  simp only [hparse, Index.search, hlimit, heval, List.map_singleton, hid] at hsearch
  rw [hsearch]
  by_cases hsees : caller.sees last
  · rw [if_pos hsees] at hpull
    rw [List.filterMap_cons_some hpull, if_pos hsees, List.filterMap_nil]
  · rw [if_neg hsees] at hpull
    rw [List.filterMap_cons_none hpull, if_neg hsees, List.filterMap_nil]

/-- A hidden record takes a visible match away. -/
theorem search_sharedId_hidden :
    (search ⟨.ofRecords [portal, secret], ⟨"index", 5⟩⟩ frank "name:portal" .empty).1 =
      .ok ⟨[], none⟩ ∧
    (search ⟨.ofRecords ([portal, secret].filter frank.sees), ⟨"index", 5⟩⟩ frank "name:portal"
      .empty).1 = .ok ⟨[Item.ofRecord portal], none⟩ := by
  have hserves : Store.empty.Serves frank.name := ⟨rfl, rfl, rfl, by decide +kernel⟩
  have hportal : frank.sees portal = true := by decide +kernel
  have hsecret : frank.sees secret = false := by decide +kernel
  have hvisible : [portal, secret].filter frank.sees = [portal] := by
    rw [List.filter_cons_of_pos hportal, List.filter_cons_of_neg (by rw [hsecret]; decide),
      List.filter_nil]
  have hvisible' : [portal].filter frank.sees = [portal] := by
    rw [List.filter_cons_of_pos hportal, List.filter_nil]
  have hlast : Record.lastWith? [portal, secret] 7 = some secret := by rfl
  have hlast' : Record.lastWith? [portal] 7 = some portal := by rfl
  constructor
  · rw [search_portal (.inl rfl) hvisible hserves hlast, hsecret]
    rfl
  · rw [hvisible, search_portal (.inl rfl) hvisible' hserves hlast', hportal]
    rfl

/-! ### Positions -/

/-- What passes a filter stands at a position, and those before that pass, too, are counted. -/
private theorem exists_position {sees : Record → Bool} {k : Nat} {r : Record}
    (h : (records.filter sees)[k]? = some r) :
    ∃ p, records[p]? = some r ∧ (records.take p).countP sees = k := by
  induction records generalizing k with
  | nil => cases h
  | cons x records ih =>
    by_cases hx : sees x
    · rw [List.filter_cons_of_pos hx] at h
      cases k with
      | zero => exact ⟨0, by simpa using h, rfl⟩
      | succ k =>
        obtain ⟨p, hp, hcount⟩ := ih (by simpa using h)
        refine ⟨p + 1, by simpa using hp, ?_⟩
        rw [List.take_succ_cons, List.countP_cons_of_pos hx, hcount]
    · rw [List.filter_cons_of_neg hx] at h
      obtain ⟨p, hp, hcount⟩ := ih h
      refine ⟨p + 1, by simpa using hp, ?_⟩
      rw [List.take_succ_cons, List.countP_cons_of_neg hx, hcount]

/-- The record at a position is one that the caller sees and the clause finds: its ordinal among the
visible records is that of a hit. -/
structure IsHit (config : Config) (caller : Caller) (records : List Record) (clause : Clause)
    (position : Nat) (r : Record) : Prop where
  there : records[position]? = some r
  sees : caller.sees r
  found : ∃ hits, (visibleIndex clause caller records).evaluate clause config.limit = .ok hits ∧
    (records.take position).countP caller.sees ∈ hits.map (·.doc.toNat)

/-- An item comes from a record that the clause finds: it is the summary of the last record with the
identifier of that one, and the caller sees this last record, too. -/
def ComesFrom (config : Config) (caller : Caller) (records : List Record) (clause : Clause)
    (position : Nat) (item : Item) : Prop :=
  ∃ r last, IsHit config caller records clause position r ∧ Record.id r ≠ Record.missingId ∧
    Record.lastWith? records (Record.id r) = some last ∧ caller.sees last ∧
    item = Item.ofRecord last

/-- The items of hits on different ordinals come from different positions. -/
private theorem exists_positions {hits : List StoredHit} {all : List Hit}
    (hall : (visibleIndex clause caller records).evaluate clause config.limit = .ok all)
    (hstored : ∀ hit ∈ hits, hit.doc ∈ all.map (·.doc) ∧
      hit.id = (visibleIndex clause caller records).storedId? hit.doc)
    (hn : (hits.map (·.doc)).Nodup) :
    ∃ positions : List Nat, positions.Nodup ∧
      (∀ p ∈ positions, (records.take p).countP caller.sees ∈ hits.map (·.doc.toNat)) ∧
      List.Forall₂ (ComesFrom config caller records clause) positions
        (hits.filterMap (pull? ⟨.ofRecords records, config⟩ caller)) := by
  induction hits with
  | nil => exact ⟨[], List.nodup_nil, fun _ hp => absurd hp List.not_mem_nil, .nil⟩
  | cons hit hits ih =>
    rw [List.map_cons, List.nodup_cons] at hn
    obtain ⟨positions, hnodup, hordinals, hitems⟩ :=
      ih (fun h hh => hstored h (List.mem_cons_of_mem _ hh)) hn.2
    rw [List.filterMap_cons]
    split
    · exact ⟨positions, hnodup, fun p hp => List.mem_cons_of_mem _ (hordinals p hp), hitems⟩
    · next item hitem =>
      obtain ⟨hmem, hid'⟩ := hstored hit List.mem_cons_self
      obtain ⟨id, last, hid, hne, hlast, hsees, rfl⟩ := pull?_ofRecords_eq_some_iff.mp hitem
      rw [hid', storedId?_visibleIndex] at hid
      obtain ⟨r, hr, rfl⟩ := Option.map_eq_some_iff.mp hid
      obtain ⟨p, hp, hcount⟩ := exists_position hr
      -- the ordinal at a position is that of one hit alone
      have hnew : p ∉ positions := by
        intro hold
        obtain ⟨other, hother, hsame⟩ := List.mem_map.mp (hordinals p hold)
        rw [hcount, UInt32.toNat_inj] at hsame
        exact hn.1 (List.mem_map.mpr ⟨other, hother, hsame⟩)
      obtain ⟨found, hfound, hdoc⟩ := List.mem_map.mp hmem
      have hhit : IsHit config caller records clause p r :=
        ⟨hp, (List.mem_filter.mp (List.mem_of_getElem? hr)).2, all, hall,
          List.mem_map.mpr ⟨found, hfound, by rw [hdoc, hcount]⟩⟩
      refine ⟨p :: positions, List.nodup_cons.mpr ⟨hnew, hnodup⟩, fun q hq => ?_,
        .cons ⟨r, last, hhit, hne, hlast, hsees, rfl⟩ hitems⟩
      obtain rfl | hq := List.mem_cons.mp hq
      · exact List.mem_cons.mpr (.inl hcount)
      · exact List.mem_cons_of_mem _ (hordinals q hq)

/-- **Positions.** On a store that serves the caller there is an answer. The items of an answer come
from different records, each of which the caller sees and the query finds. So where identifiers are
distinct, each item is the summary of such a record. -/
theorem search_positions (hparse : Clause.parse query = .ok clause) :
    (store.Serves caller.name → ∃ report,
      (search ⟨.ofRecords records, config⟩ caller query store).1 = .ok report) ∧
    ∀ report, (search ⟨.ofRecords records, config⟩ caller query store).1 = .ok report →
      ∃ positions : List Nat, positions.Nodup ∧
        List.Forall₂ (ComesFrom config caller records clause) positions report.items ∧
        (Record.DistinctIds records → List.Forall₂ (fun p item => ∃ r,
          IsHit config caller records clause p r ∧ item = Item.ofRecord r)
          positions report.items) := by
  refine ⟨fun hserves => ⟨_, search_of_serves query hserves rfl⟩, fun report hsearch => ?_⟩
  obtain ⟨positions, hn, hitems⟩ : ∃ positions : List Nat, positions.Nodup ∧
      List.Forall₂ (ComesFrom config caller records clause) positions report.items := by
    cases hrefusal : store.refusal? caller.name with
    | some e =>
      rw [search_of_refusal hparse rfl hrefusal] at hsearch
      cases hsearch
    | none =>
      by_cases hgives : store.givesSegments
      case neg =>
        rw [search_of_not_givesSegments hparse rfl hrefusal hgives] at hsearch
        cases hsearch
        exact ⟨[], List.nodup_nil, .nil⟩
      rw [search_of_serves query (Store.serves_iff.mpr ⟨hrefusal, hgives⟩) rfl, hparse] at hsearch
      cases hhits : (visibleIndex clause caller records).search clause config.limit with
      | error e =>
        simp only [hhits] at hsearch
        cases hsearch
        exact ⟨[], List.nodup_nil, .nil⟩
      | ok hits =>
        simp only [hhits] at hsearch
        cases hsearch
        obtain ⟨all, hall, hdocs, hstored⟩ := Index.exists_evaluate_of_search hhits
        obtain ⟨positions, hn, -, hitems⟩ := exists_positions hall hstored hdocs
        exact ⟨positions, hn, hitems⟩
  refine ⟨positions, hn, hitems, fun hdistinct => hitems.imp ?_⟩
  rintro p item ⟨r, last, hhit, hne, hlast, -, rfl⟩
  rw [hdistinct.lastWith? hne (List.mem_of_getElem? hhit.there)] at hlast
  exact ⟨r, hhit, congrArg Item.ofRecord (Option.some.inj hlast).symm⟩

set_option maxRecDepth 4000 in
/-- Two records with different identifiers, one of which is hidden. -/
theorem search_positions_cas :
    Clause.parse "name:cas" = .ok (.term "name" "cas") ∧
    ∃ report,
      (search ⟨.ofRecords [shown, concealed], ⟨"index", 10⟩⟩ ada "name:cas" .empty).1 =
        .ok report ∧
      ∃ positions : List Nat, positions.Nodup ∧
        List.Forall₂ (fun p item => ∃ r,
            IsHit ⟨"index", 10⟩ ada [shown, concealed] (.term "name" "cas") p r ∧
            item = Item.ofRecord r)
          positions report.items := by
  have hparse : Clause.parse "name:cas" = .ok (.term "name" "cas") := by with_unfolding_all rfl
  have hserves : Store.empty.Serves ada.name := ⟨rfl, rfl, rfl, by decide +kernel⟩
  have hshown : Record.id shown = 1 := by decide +kernel
  have hconcealed : Record.id concealed = 2 := by decide +kernel
  have hids : Record.DistinctIds [shown, concealed] := by
    intro id _
    by_cases hone : 1 = id
    · simp [hshown, hconcealed, ← hone]
    · have hlength := List.length_filter_le (Record.id · = id) [concealed]
      rwa [List.filter_cons_of_neg (by simpa [hshown] using hone)]
  obtain ⟨hanswers, hpositions⟩ := @search_positions ada .empty ⟨"index", 10⟩
    (.term "name" "cas") "name:cas" [shown, concealed] hparse
  obtain ⟨report, hreport⟩ := hanswers hserves
  obtain ⟨positions, hn, -, hdistinct⟩ := hpositions report hreport
  exact ⟨hparse, report, hreport, positions, hn, hdistinct hids⟩

/-- The record that is found for a hit is another one, which is none. -/
theorem search_sharedId_visible :
    ∃ report, (search ⟨.ofRecords [portal, secret], ⟨"index", 5⟩⟩ (.unrestricted "frank")
        "name:portal" .empty).1 = .ok report ∧
      report.items = [Item.ofRecord secret] ∧
      ¬∃ positions : List Nat, positions.Nodup ∧
        List.Forall₂ (fun p item => ∃ r,
            IsHit ⟨"index", 5⟩ (.unrestricted "frank") [portal, secret] (.term "name" "portal") p
              r ∧ item = Item.ofRecord r)
          positions report.items := by
  have hserves : Store.empty.Serves (Caller.unrestricted "frank").name :=
    ⟨rfl, rfl, rfl, by decide +kernel⟩
  have hlast : Record.lastWith? [portal, secret] 7 = some secret := by rfl
  have hvisible : [portal, secret].filter (Caller.unrestricted "frank").sees =
      [portal, secret] := rfl
  refine ⟨_, search_portal (.inr rfl) hvisible hserves hlast, rfl, ?_⟩
  rintro ⟨positions, -, hitems⟩
  obtain ⟨hit, heval, hdoc⟩ := evaluate_portal (.inr rfl) hvisible
  cases hitems with
  | @cons p _ _ _ hitem _ =>
    obtain ⟨r, ⟨hthere, -, hits, hhits, hmem⟩, heq⟩ := hitem
    obtain rfl := Except.ok.inj (heval.symm.trans hhits)
    -- the hit is the first record, and its name is not that of the item
    have hcount : ([portal, secret].take p).countP (Caller.unrestricted "frank").sees = 0 := by
      simpa [hdoc] using hmem
    cases p with
    | zero =>
      cases hthere
      exact absurd heq (by decide +kernel)
    | succ p => simp [Caller.unrestricted] at hcount

end Service

end RegistrySearch
