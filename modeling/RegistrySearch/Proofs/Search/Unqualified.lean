import RegistrySearch.Proofs.Json.Texts
import RegistrySearch.Proofs.Query.Delimited
import RegistrySearch.Proofs.Query.Operands
import RegistrySearch.Proofs.Search.Composition

/-!
# Words of a record

A query without a field looks at the text of the whole record, which is the serialized record and
not what its strings are. A word of a string or of a key is a word of that text as long as it does
not stand right behind a control character: the escape of such a character ends in letters or
digits, and these and the word become one.
-/

namespace RegistrySearch

open Query (Clause)
open Text (IsRun normalizeChars analyze)
open Unicode (isAlphanumeric ne_of_isAlphanumeric)

/-! ### The query -/

namespace Query

/-- A word in quotes is the term of its normal form, in the whole record. -/
theorem Clause.parse_quoted {w : List Char} (hne : w ≠ []) (h : ∀ c ∈ w, isAlphanumeric c)
    (hnormal : normalizeChars w ≠ []) :
    Clause.parse (String.ofList ('"' :: (w ++ ['"']))) =
      .ok (.term bodyField (String.ofList (normalizeChars w))) := by
  have hquoted : readQuoted? (w ++ ['"']) = some (w, []) := readQuoted?_append fun c hc =>
    ⟨ne_of_isAlphanumeric (h c hc) (by decide) (by decide),
      ne_of_isAlphanumeric (h c hc) (by decide) (by decide)⟩
  have hphrase : phrase? bodyField w =
      some (.term bodyField (String.ofList (normalizeChars w))) := by
    rw [phrase?, Text.analyze_word hne h hnormal]
  have hopens := opensPrimary_quote (w ++ ['"'])
  have hprimary : outcome (readPrimary bodyField ('"' :: (w ++ ['"']))) =
      .ok (some (.term bodyField (String.ofList (normalizeChars w))), []) := by
    rw [readPrimary_phrase hquoted, hphrase]
  have hconjunction := readConjunction_eq (readSigned_primary hopens hprimary)
    (readOperands_end rfl)
  have hread : outcome (readAlternatives true bodyField
      (String.ofList ('"' :: (w ++ ['"']))).toList) =
        .ok ([⟨none, .term bodyField (String.ofList (normalizeChars w))⟩], []) := by
    rw [String.toList_ofList]
    exact readAlternatives_cons hopens.toOpensOperand hconjunction
      (readAlternatives_nil false bodyField)
  exact parse_eq hread (List.cons_ne_nil _ _)

end Query

/-! ### The hits -/

section hits

variable {record : Record} {records : List Record} {term : String} {i limit : Nat}

/-- The whole record is among the fields of its name. -/
private theorem mem_fieldsNamed_body (record : Record) (term : String) :
    Field.text Path.body.text record.render ∈
      (Record.project record (Clause.term Query.bodyField term).paths).fieldsNamed
        Query.bodyField := by
  rw [Record.fieldsNamed_project_eq]
  refine List.mem_append_right _ (List.mem_flatMap.mpr ⟨Path.body, List.mem_singleton_self _, ?_⟩)
  exact List.mem_filter.mpr ⟨List.mem_cons_self, rfl⟩

/-- **Terms.** A record is among the hits for every term of its text, whatever the other records. -/
theorem exists_hit_of_mem_analyze (h : term ∈ analyze record.render)
    (hi : records[i]? = some record) (hlimit : records.length ≤ limit) :
    ∃ hits, (Index.ofDocuments (records.map fun r =>
        Record.project r (Clause.term Query.bodyField term).paths)).evaluate
          (.term Query.bodyField term) limit = .ok hits ∧ i.toUInt32 ∈ hits.map (·.doc) := by
  have hcompile : (Clause.term Query.bodyField term).PatternsCompile :=
    (Clause.patternsCompile_leaf rfl).mpr rfl
  obtain ⟨hits, he⟩ := Index.exists_evaluate (.ofDocuments (records.map fun r =>
    Record.project r (Clause.term Query.bodyField term).paths)) hcompile limit
  refine ⟨hits, he, ?_⟩
  rw [Index.mem_evaluate_iff hcompile (by rwa [List.length_map]) he,
    Index.finds_leaf_ofDocuments rfl rfl, Index.leafScores, FieldIndex.mem_termScores]
  obtain ⟨position, hs⟩ :=
    exists_standsAt_iff.mpr ⟨_, mem_fieldsNamed_body record term, .inl ⟨rfl, h⟩⟩
  have hcolumn : ((records.map fun r => Record.project r
      (Clause.term Query.bodyField term).paths).map (·.fieldsNamed Query.bodyField))[i]? =
        some ((Record.project record (Clause.term Query.bodyField term).paths).fieldsNamed
          Query.bodyField) := by
    rw [List.getElem?_map, List.getElem?_map, hi, Option.map_some, Option.map_some]
  obtain ⟨list, hl, p, hp, hdoc, -⟩ :=
    FieldIndex.occurs_ofColumn.mpr ⟨i, position, _, hcolumn, hs, rfl, rfl⟩
  exact ⟨list, hl, p, hp, hdoc⟩

/-- The word that is a run of the text of a record finds the record. -/
private theorem exists_hit_of_isRun {before w after : List Char}
    (hrender : record.renderChars = before ++ (w ++ after))
    (hrun : IsRun isAlphanumeric before w after) (hnormal : normalizeChars w ≠ [])
    (hi : records[i]? = some record) (hlimit : records.length ≤ limit) :
    ∃ c, Clause.parse (String.ofList ('"' :: (w ++ ['"']))) = .ok c ∧
      ∃ hits, (Index.ofDocuments (records.map fun r => Record.project r c.paths)).evaluate c
        limit = .ok hits ∧ i.toUInt32 ∈ hits.map (·.doc) := by
  refine ⟨_, Clause.parse_quoted hrun.ne_nil hrun.all hnormal, ?_⟩
  refine exists_hit_of_mem_analyze ?_ hi hlimit
  rw [Json.Value.render, hrender]
  exact Text.mem_analyze hrun hnormal

/-- The text of a record, around a part of one of its strings or keys. -/
private theorem exists_renderChars_eq {s : String} (htext : record.HasText s)
    {before after : List Char} (hs : s.toList = before ++ after) :
    ∃ front rest, record.renderChars =
      front ++ '"' :: before.flatMap Json.Value.escapeChar ++
        (after.flatMap Json.Value.escapeChar ++ '"' :: rest) := by
  obtain ⟨front, rest, hrender⟩ := htext.quote_infix
  refine ⟨front, rest, ?_⟩
  rw [← hrender, Json.Value.quote, hs, List.flatMap_append]
  simp

/-- **Words.** A record is found by every word of its strings and keys, in quotes and without a
field, whatever the other records — unless the word stands right behind a control character. -/
theorem exists_hit_of_hasText {s : String} (htext : record.HasText s) {before w after : List Char}
    (hs : s.toList = before ++ (w ++ after)) (hrun : IsRun isAlphanumeric before w after)
    (hnormal : normalizeChars w ≠ []) (hplain : ∀ c ∈ before.getLast?, 0x20 ≤ c.toNat)
    (hi : records[i]? = some record) (hlimit : records.length ≤ limit) :
    ∃ c, Clause.parse (String.ofList ('"' :: (w ++ ['"']))) = .ok c ∧
      ∃ hits, (Index.ofDocuments (records.map fun r => Record.project r c.paths)).evaluate c
        limit = .ok hits ∧ i.toUInt32 ∈ hits.map (·.doc) := by
  obtain ⟨front, rest, hrender⟩ := exists_renderChars_eq htext hs
  rw [List.flatMap_append, Json.Value.flatMap_escapeChar_of_isAlphanumeric hrun.all,
    List.append_assoc w] at hrender
  exact exists_hit_of_isRun hrender (Json.Value.isRun_quote hrun hplain front rest) hnormal hi hlimit

/-- Right behind a control character a word finds its record together with the letters and digits
of the escape. -/
theorem exists_hit_of_hasText_control {s : String} (htext : record.HasText s)
    {before w after : List Char} {c : Char} (hs : s.toList = before ++ [c] ++ (w ++ after))
    (hrun : IsRun isAlphanumeric (before ++ [c]) w after) (hc : c.toNat < 0x20)
    (hnormal : normalizeChars ((Json.Value.escapeChar c).tail ++ w) ≠ [])
    (hi : records[i]? = some record) (hlimit : records.length ≤ limit) :
    ∃ clause, Clause.parse (String.ofList ('"' :: ((Json.Value.escapeChar c).tail ++ w ++ ['"']))) =
        .ok clause ∧
      ∃ hits, (Index.ofDocuments (records.map fun r => Record.project r clause.paths)).evaluate
        clause limit = .ok hits ∧ i.toUInt32 ∈ hits.map (·.doc) := by
  obtain ⟨front, rest, hrender⟩ := exists_renderChars_eq htext hs
  obtain ⟨hescape, hglued⟩ := Json.Value.isRun_quote_control hrun hc front rest
  refine exists_hit_of_isRun ?_ hglued hnormal hi hlimit
  rw [hrender, List.flatMap_append, List.flatMap_append, List.flatMap_singleton, hescape,
    Json.Value.flatMap_escapeChar_of_isAlphanumeric hrun.all]
  simp

end hits

/-- The second word of a name finds the record. -/
theorem exists_hit_of_hasText_portal :
    Json.Value.HasText (.object [("id", .number (.natural 1)), ("name", .string "old portal")])
        "old portal" ∧
      ∃ c, Clause.parse "\"portal\"" = .ok c ∧
        ∃ hits, (Index.ofDocuments ([Json.Value.object [("id", .number (.natural 1)),
          ("name", .string "old portal")]].map fun r => Record.project r c.paths)).evaluate c 1 =
            .ok hits ∧ 0 ∈ hits.map (·.doc) := by
  have htext : Json.Value.HasText
      (.object [("id", .number (.natural 1)), ("name", .string "old portal")]) "old portal" :=
    .entry (List.mem_cons_of_mem _ List.mem_cons_self) (.string _)
  have hrun : IsRun isAlphanumeric ['o', 'l', 'd', ' '] ['p', 'o', 'r', 't', 'a', 'l'] [] := by
    refine ⟨List.cons_ne_nil _ _, List.all_eq_true.mp (by decide +kernel), ?_, ?_⟩
    · rintro c hc
      cases hc
      decide +kernel
    · rintro c hc
      cases hc
  have hplain : ∀ c ∈ ['o', 'l', 'd', ' '].getLast?, 0x20 ≤ c.toNat := by
    rintro c hc
    cases hc
    decide
  have hs : "old portal".toList =
      ['o', 'l', 'd', ' '] ++ (['p', 'o', 'r', 't', 'a', 'l'] ++ []) := rfl
  have hnormal : normalizeChars ['p', 'o', 'r', 't', 'a', 'l'] ≠ [] := by decide +kernel
  have hquery : "\"portal\"" =
      String.ofList ('"' :: (['p', 'o', 'r', 't', 'a', 'l'] ++ ['"'])) := rfl
  rw [hquery]
  exact ⟨htext, exists_hit_of_hasText htext hs hrun hnormal hplain (i := 0)
    List.getElem?_cons_zero (Nat.le_refl 1)⟩

/-! The line break in `a\nb` is written with the letter `n`, so that the record has the words `a`
and `nb`. -/

set_option maxRecDepth 4000 in
private theorem project_lineBreak :
    Record.project (.object [("id", .number (.natural 1)), ("name", .string "a\nb")])
        (Clause.term "body" "b").paths =
      ⟨1, [.exact "id" "1", .numeric "id" 1,
        .text "body" "\x7b\"id\":1,\"name\":\"a\\nb\"\x7d"]⟩ ∧
    textTerms [.text "body" "\x7b\"id\":1,\"name\":\"a\\nb\"\x7d"] =
      ["id", "1", "name", "a", "nb"] :=
  ⟨rfl, by with_unfolding_all rfl⟩

private theorem fitsWords_lineBreak :
    FitsWords [⟨1, [.exact "id" "1", .numeric "id" 1,
      .text "body" "\x7b\"id\":1,\"name\":\"a\\nb\"\x7d"]⟩] (.term "body" "b") := by
  refine .of_textTerms (show 1 ≤ 2 ^ 32 by decide) (fun d hd => ?_) fun _ _ _ _ hl => ?_
  · have hlength : (textTerms d.fields).length = 5 := by
      rw [List.mem_singleton.mp hd]
      exact congrArg List.length project_lineBreak.2
    rw [hlength]
    decide
  · cases List.mem_singleton.mp hl

private theorem not_standsAt_lineBreak {position : Nat} :
    ¬StandsAt [.text "body" "\x7b\"id\":1,\"name\":\"a\\nb\"\x7d"] "b" position := by
  rintro (h | ⟨-, f, hf, hk, -⟩)
  · rw [project_lineBreak.2] at h
    exact absurd (List.mem_of_getElem? h) (by decide)
  · rw [List.mem_singleton.mp hf] at hk
    cases hk

/-- A word behind a line break does not find its record. -/
theorem not_hit_behind_lineBreak :
    Json.Value.HasText (.object [("id", .number (.natural 1)), ("name", .string "a\nb")]) "a\nb" ∧
      IsRun isAlphanumeric ['a', '\n'] ['b'] [] ∧ normalizeChars ['b'] ≠ [] ∧
      ∃ c, Clause.parse "\"b\"" = .ok c ∧
        (Index.ofDocuments ([Json.Value.object [("id", .number (.natural 1)),
          ("name", .string "a\nb")]].map fun r => Record.project r c.paths)).evaluate c 1 =
            .ok [] := by
  have hrun : IsRun isAlphanumeric ['a', '\n'] ['b'] [] := by
    refine ⟨List.cons_ne_nil _ _, List.all_eq_true.mp (by decide +kernel), ?_, ?_⟩
    · rintro c hc
      cases hc
      decide +kernel
    · rintro c hc
      cases hc
  have hnormal : normalizeChars ['b'] ≠ [] := by decide +kernel
  have hparse : Clause.parse "\"b\"" = .ok (.term "body" "b") := by
    have hterm : String.ofList (normalizeChars ['b']) = "b" := by decide +kernel
    have h := Clause.parse_quoted hrun.ne_nil hrun.all hnormal
    rwa [hterm] at h
  refine ⟨.entry (List.mem_cons_of_mem _ List.mem_cons_self) (.string _), hrun, hnormal, _, hparse,
    ?_⟩
  have hcompile : (Clause.term "body" "b").PatternsCompile := by
    intro leaf hl
    rw [List.mem_singleton.mp hl]
    rfl
  rw [List.map_singleton, project_lineBreak.1]
  obtain ⟨hits, he⟩ := Index.exists_evaluate (.ofDocuments [⟨1, [.exact "id" "1", .numeric "id" 1,
    .text "body" "\x7b\"id\":1,\"name\":\"a\\nb\"\x7d"]⟩]) hcompile 1
  have hnil : hits = [] := by
    refine List.eq_nil_iff_forall_not_mem.mpr fun hit hm => ?_
    have hfinds := Index.finds_of_mem_evaluate he hm
    rw [Index.finds_ofDocuments fitsWords_lineBreak hcompile] at hfinds
    obtain ⟨hlt, position, hs⟩ := hfinds
    have hdoc : hit.doc.toNat = 0 := Nat.lt_one_iff.mp hlt
    simp only [hdoc, List.getElem_cons_zero] at hs
    exact not_standsAt_lineBreak hs
  rwa [hnil] at he

end RegistrySearch
