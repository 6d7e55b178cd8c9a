import RegistrySearch.Proofs.Query.Delimited
import RegistrySearch.Proofs.Search.Values

/-!
# Parts of a value, in quotes

A part of a string that cuts no word in two has its terms in a row among those of the string. In
quotes it is the phrase of these terms, whatever characters it has, so a record is found by every
part of its value.
-/

namespace RegistrySearch

open Query (Clause phrase? escaped)
open Text (IsCut analyze)
open Unicode (isAlphanumeric)

/-! ### The query -/

namespace Query

/-- A quoted text with a field in front is parsed as its clause. -/
theorem Clause.parse_escaped {field : String} (hname : IsName field) {text : List Char}
    {c : Clause} (hclause : phrase? field text = some c) :
    Clause.parse (String.ofList (field.toList ++ ':' :: '"' :: (escaped text ++ ['"']))) =
      .ok c := by
  have hprimary : ReadsPrimary (field.toList ++ ':' :: '"' :: (escaped text ++ ['"'])) c := by
    refine readsPrimary_of_value hname fun rest _ => ?_
    rw [List.cons_append, List.append_assoc, List.singleton_append,
      readValue_phrase (readQuoted?_escaped text rest), hclause]
  refine ReadsPrimary.parse_eq ?_
  rw [String.toList_ofList]
  exact hprimary

/-- A quoted text with terms has a clause, over its field alone and without a pattern. -/
theorem exists_phrase? {text : List Char} (h : analyze (String.ofList text) ≠ [])
    (field : String) : ∃ c, phrase? field text = some c ∧ c.leafPaths = [⟨field⟩] ∧
      c.PatternsCompile := by
  rw [phrase?]
  cases hterms : analyze (String.ofList text) with
  | nil => exact absurd hterms h
  | cons t ts =>
    cases ts with
    | nil => exact ⟨.term field t, rfl, rfl, (Clause.patternsCompile_leaf rfl).mpr rfl⟩
    | cons t' ts =>
      exact ⟨.phrase field (t :: t' :: ts), rfl, rfl, (Clause.patternsCompile_leaf rfl).mpr rfl⟩

end Query

/-! ### The index -/

/-- A quoted text finds a document in which its terms stand in a row. -/
theorem Index.finds_phrase? (start : Nat) {documents : List Document} {d : Document} {i : Nat}
    {field : String} {text : List Char} {c : Clause} (hclause : phrase? field text = some c)
    (hn : documents.length ≤ 2 ^ 32) (hd : documents[i]? = some d)
    (h : ∀ (j : Nat) term, (analyze (String.ofList text))[j]? = some term →
      StandsAt (d.fieldsNamed field) term (start + j)) :
    (ofDocuments documents).Finds i.toUInt32 c := by
  have hcolumn : (documents.map (·.fieldsNamed field))[i]? = some (d.fieldsNamed field) := by
    rw [List.getElem?_map, hd, Option.map_some]
  have hoccurs : ∀ (j : Nat) term, (analyze (String.ofList text))[j]? = some term →
      (FieldIndex.ofColumn (documents.map (·.fieldsNamed field))).Occurs term i.toUInt32
        (start.toUInt32 + j.toUInt32) := fun j term hj =>
    FieldIndex.occurs_ofColumn.mpr ⟨i, start + j, _, hcolumn, h j term hj, rfl, UInt32.ofNat_add ..⟩
  have ordered : (FieldIndex.ofColumn (documents.map (·.fieldsNamed field))).IsOrdered :=
    FieldIndex.isOrdered_ofColumn (by rwa [List.length_map])
  rw [phrase?] at hclause
  cases hterms : analyze (String.ofList text) with
  | nil =>
    rw [hterms] at hclause
    cases hclause
  | cons t ts =>
    rw [hterms] at hclause hoccurs
    cases ts with
    | nil =>
      cases hclause
      rw [finds_leaf_ofDocuments rfl rfl, leafScores, FieldIndex.mem_termScores,
        ordered.hasPosting_iff]
      exact ⟨_, hoccurs 0 t rfl⟩
    | cons t' ts =>
      cases hclause
      rw [finds_leaf_ofDocuments rfl rfl, leafScores, FieldIndex.mem_phraseScores ordered]
      exact ⟨List.cons_ne_nil _ _, start.toUInt32, hoccurs⟩

/-- The terms of one text stand at their places. -/
theorem standsAt_text {name value term : String} {position : Nat}
    (h : (analyze value)[position]? = some term) :
    StandsAt [.text name value] term position :=
  .inl (by rwa [textTerms_text])

/-- **Quotation.** A record is found by every part of its value that cuts no word in two, in quotes
and with the path of the value in front, whatever the other records. -/
theorem mem_matched_of_quoted {p : Path} (hp : p.IsPlain) {record : Record} {v : String}
    (hvalue : Record.resolve record p = .string v) {before u after : List Char}
    (hv : v.toList = before ++ (u ++ after)) (hbefore : IsCut isAlphanumeric before (u ++ after))
    (hafter : IsCut isAlphanumeric (before ++ u) after) (hu : analyze (String.ofList u) ≠ [])
    {records : List Record} {i : Nat} (hi : records[i]? = some record)
    (hn : records.length ≤ 2 ^ 32) :
    ∃ c, Clause.parse (String.ofList (p.text.toList ++ ':' :: '"' :: (escaped u ++ ['"']))) =
      .ok c ∧ i ∈ matched c records := by
  obtain ⟨c, hclause, hpaths, hcompile⟩ := Query.exists_phrase? hu p.text
  refine ⟨c, Clause.parse_escaped (hp.isName) hclause, ?_⟩
  have hlt : i < 2 ^ 32 := Nat.lt_of_lt_of_le (List.getElem?_eq_some_iff.mp hi).1 hn
  rw [matched, mem_matchedOn hcompile]
  refine ⟨hlt, Index.finds_phrase? (analyze (String.ofList before)).length hclause
    (by rwa [List.length_map]) (d := Record.project record c.paths)
    (by rw [List.getElem?_map, hi, Option.map_some]) fun j term hj => ?_⟩
  have hfields : (Record.project record c.paths).fieldsNamed p.text = [.text p.text v] := by
    rw [Clause.paths, hpaths, hp.fieldsNamed_project, hvalue, Field.ofValue, hp.isExact_eq,
      hp.unmarked_eq]
    rfl
  -- the terms of the part follow those of what stands in front of it
  have hne : u ≠ [] := by
    rintro rfl
    exact hu rfl
  have hcut : IsCut isAlphanumeric u after := fun a ha =>
    hafter a (by rwa [List.getLast?_append_of_ne_nil _ hne])
  have hterms : analyze v = analyze (String.ofList before) ++
      (analyze (String.ofList u) ++ analyze (String.ofList after)) := by
    rw [← String.ofList_toList (s := v), hv, Text.analyze_append hbefore, Text.analyze_append hcut]
  rw [hfields]
  refine standsAt_text ?_
  have hlt : j < (analyze (String.ofList u)).length := (List.getElem?_eq_some_iff.mp hj).1
  rw [hterms, List.getElem?_append_right (Nat.le_add_right _ _), Nat.add_sub_cancel_left,
    List.getElem?_append_left hlt, hj]

/-- A nested value with quotes in it, by a part that begins with a quote and ends in a word. -/
theorem mem_matched_of_quoted_nested :
    Record.resolve (.object [("contact", .object [("note", .string "ask \"the team\" first")])])
        ⟨"contact.note"⟩ = .string "ask \"the team\" first" ∧
      ∃ c, Clause.parse "contact.note:\"\\\"the team\"" = .ok c ∧
        0 ∈ matched c [.object [("contact",
          .object [("note", .string "ask \"the team\" first")])]] := by
  have hp : Path.IsPlain ⟨"contact.note"⟩ := by
    refine ⟨by decide, fun c hc => ?_, by decide, by decide⟩
    have hall : "contact.note".toList.all fun c => c.isAlpha || c = '.' := by decide
    simpa using List.all_eq_true.mp hall c hc
  have hvalue : Record.resolve
      (.object [("contact", .object [("note", .string "ask \"the team\" first")])])
      ⟨"contact.note"⟩ = .string "ask \"the team\" first" := by decide +kernel
  have hbefore : IsCut isAlphanumeric "ask ".toList ("\"the team".toList ++ "\" first".toList) := by
    rintro c hc d hd -
    cases hd
    decide +kernel
  have hafter : IsCut isAlphanumeric ("ask ".toList ++ "\"the team".toList) "\" first".toList := by
    rintro c hc d hd -
    cases hd
    decide +kernel
  have hu : analyze (String.ofList "\"the team".toList) ≠ [] := by decide +kernel
  exact ⟨hvalue, mem_matched_of_quoted hp hvalue (i := 0) rfl hbefore hafter hu
    List.getElem?_cons_zero (by decide)⟩

end RegistrySearch
