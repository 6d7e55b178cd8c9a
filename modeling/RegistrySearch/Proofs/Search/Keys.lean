import RegistrySearch.Proofs.Search.Values

/-!
# Keys of records

The name of a leaf is a path to the projection, which takes the exact marker off and puts the value
under the name that is left, and a plain name to the evaluation. Both agree on the names without the
marker, and there a word finds the records with the word in the value at their key. Under a name
with the marker a word finds nothing: its value was put under another name. A regular expression
brings a marker of its own, so it finds the values of every key.
-/

namespace RegistrySearch

open Query (Clause)
open Text (analyze)

section keys

variable {key : String} {records : List Record} {i : Nat}

/-- A leaf that asks for a marked name as its path matches nothing, since no field has that name. -/
theorem notMem_matched_of_isExact {leaf : Clause} (hfield : leaf.field? = some key)
    (hpaths : leaf.leafPaths = [⟨key⟩]) (hcompile : leaf.compiles)
    (hexact : Path.isExact ⟨key⟩ = true) (hid : key ≠ Path.idName) : i ∉ matched leaf records := by
  have hbody : Path.isBody ⟨key⟩ = false := by
    rw [Path.isBody, decide_eq_false_iff_not]
    intro hbody
    rw [hbody] at hexact
    exact absurd hexact (by decide)
  have hname : Path.unmarked ⟨key⟩ ≠ key := Path.unmarked_ne_text hexact
  rw [mem_matched_ofColumn hfield hcompile]
  rintro ⟨-, h⟩
  obtain ⟨k, fields, hk, hne, -⟩ :=
    FieldIndex.exists_fields_of_mentions (Index.mentions_of_mem_leafScores h)
  rw [List.getElem?_map, Option.map_eq_some_iff] at hk
  obtain ⟨record, -, rfl⟩ := hk
  refine hne ?_
  rw [Clause.paths, hpaths, Record.fieldsNamed_project_ofList hbody hid,
    if_neg hname]

variable {record : Record} {v term : String}

/-- **Keys.** By the name of a key a word matches a record with a string at the key exactly if it is
a word of the string and the name has no marker. A regular expression matches the record exactly if
it accepts the string, marker or not. -/
theorem mem_matched_key (hdot : '.' ∉ key.toList) (hid : key ≠ Path.idName)
    (hbody : key ≠ Path.body.text) (hn : records.length ≤ 2 ^ 32)
    (hrecord : records[i]? = some record) (hvalue : record.get? key = some (.string v)) :
    (i ∈ matched (.term key term) records ↔ Path.isExact ⟨key⟩ = false ∧ term ∈ analyze v) ∧
      ∀ pattern regex, Pattern.regexp? pattern = some regex →
        (i ∈ matched (.regexp key pattern) records ↔ regex.accepts v.toList) := by
  -- a path whose name without marker is the key leads to the string
  have hresolve : ∀ p : Path, p.unmarked = key → Record.resolve record p = .string v := by
    intro p hp
    rw [Record.resolve_of_notMem (by rwa [hp]), hp, hvalue]
    rfl
  have hat : ∀ P : Record → Prop, (∃ r, records[i]? = some r ∧ P r) ↔ P record := by
    intro P
    simp only [hrecord, Option.some.injEq, exists_eq_left']
  constructor
  · cases hexact : Path.isExact ⟨key⟩ with
    | true =>
      exact iff_of_false (notMem_matched_of_isExact rfl rfl rfl hexact hid) fun h => by cases h.1
    | false =>
      have hname : Path.unmarked ⟨key⟩ = key := Path.unmarked_eq_text hexact
      have hpath : Path.isBody ⟨key⟩ = false :=
        decide_eq_false fun h => hbody (congrArg Path.text h)
      rw [(Path.brings_of_unmarked hpath hid hname).mem_matched_term hn, hat, hresolve _ hname,
        exists_standsAt_of_isExact_eq hexact]
      exact (and_iff_right rfl).symm
  · intro pattern regex hregex
    have hbrings : (Path.exact key).Brings key :=
      Path.brings_of_unmarked Path.isBody_exact hid Path.unmarked_exact
    rw [hbrings.mem_matched_regexp hn hregex, hat, hresolve _ Path.unmarked_exact]
    simp only [exists_standsAt_of_isExact Path.isExact_exact, exists_eq_left]

end keys

set_option maxRecDepth 4000 in
/-- A name that has the letters of the marker, but does not end in it. -/
theorem mem_matched_key_client :
    '.' ∉ "client-regs".toList ∧ "client-regs" ≠ Path.idName ∧ "client-regs" ≠ Path.body.text ∧
      0 ∈ matched (.term "client-regs" "client")
        [.object [("client-regs", .string "CAS Client")]] := by
  have hterm : "client" ∈ analyze "CAS Client" := by
    have hterms : analyze "CAS Client" = ["cas", "client"] := by with_unfolding_all rfl
    rw [hterms]
    exact List.mem_cons_of_mem _ List.mem_cons_self
  have hget : (Json.Value.object [("client-regs", .string "CAS Client")]).get? "client-regs" =
      some (.string "CAS Client") := by
    rw [Json.Value.get?, List.lookup_cons_self]
  have hlength : [Json.Value.object [("client-regs", .string "CAS Client")]].length ≤ 2 ^ 32 := by
    decide
  have hword : 0 ∈ matched (.term "client-regs" "client")
      [.object [("client-regs", .string "CAS Client")]] ↔
        Path.isExact ⟨"client-regs"⟩ = false ∧ "client" ∈ analyze "CAS Client" :=
    (mem_matched_key (by decide) (by decide) (by decide) hlength rfl hget).1
  exact ⟨by decide, by decide, by decide, hword.mpr ⟨by decide, hterm⟩⟩

set_option maxRecDepth 4000 in
/-- The value of a key that ends in the marker is not found by its word. -/
theorem notMem_matched_key_marked :
    '.' ∉ "name-reg".toList ∧ "name-reg" ≠ Path.idName ∧ "name-reg" ≠ Path.body.text ∧
      (Json.Value.object [("name-reg", .string "portal")]).get? "name-reg" =
        some (.string "portal") ∧
      "portal" ∈ analyze "portal" ∧
      0 ∉ matched (.term "name-reg" "portal") [.object [("name-reg", .string "portal")]] := by
  refine ⟨by decide, by decide, by decide, ?_, ?_, ?_⟩
  · rw [Json.Value.get?, List.lookup_cons_self]
  · have hterms : analyze "portal" = ["portal"] := by with_unfolding_all rfl
    rw [hterms]
    exact List.mem_singleton_self _
  · exact notMem_matched_of_isExact rfl rfl rfl (by decide) (by decide)

end RegistrySearch
