import Mathlib.Data.List.Perm.Subperm
import RegistrySearch.Proofs.Search.Boolean
import RegistrySearch.Proofs.Search.Leaves

/-!
# The index and the scan agree

A clause is evaluated leaf by leaf, and a boolean clause decides document by document; so what an
index finds (`Index.Finds`) is the truth of the clause, taken at what its leaves find. Of an index
of documents the leaves find what a scan of the documents finds, and so does the clause.
-/

namespace RegistrySearch

open Query (Clause Occur Decides NumericRange)

namespace Index

/-- A clause finds a document in an index. -/
def Finds (index : Index) (doc : Ordinal) (c : Clause) : Prop :=
  ∃ scores, index.scores c = .ok scores ∧ doc ∈ scores.keys

variable {index : Index} {doc : Ordinal} {c : Clause}

/-! ### Evaluation follows the leaves -/

theorem finds_iff_of_scores {scores : Scores} (h : index.scores c = .ok scores) :
    index.Finds doc c ↔ doc ∈ scores.keys := by
  simp only [Finds, h, Except.ok.injEq, exists_eq_left']

/-- If all children evaluate, so do they together. -/
private theorem exists_childScores {children : List (Occur × Clause)}
    (h : ∀ c ∈ children, ∃ scores, index.scores c.2 = .ok scores) :
    ∃ found, index.childScores children = .ok found ∧ ∀ doc,
      (found.map fun c => (c.1, doc ∈ c.2.keys)) =
        children.map fun c => (c.1, index.Finds doc c.2) := by
  induction children with
  | nil => exact ⟨[], rfl, fun _ => rfl⟩
  | cons c rest ih =>
    obtain ⟨first, hfirst⟩ := h c List.mem_cons_self
    obtain ⟨others, hothers, hfinds⟩ := ih fun c hc => h c (List.mem_cons_of_mem _ hc)
    refine ⟨(c.1, first) :: others, ?_, fun doc => ?_⟩
    · rw [childScores, hfirst, hothers]
      rfl
    · rw [List.map_cons, List.map_cons, hfinds, propext (finds_iff_of_scores hfirst)]

/-- A clause whose patterns compile evaluates. -/
theorem exists_scores (h : c.PatternsCompile) : ∃ scores, index.scores c = .ok scores := by
  induction c using Clause.induct with
  | leaf c field hf =>
    exact ⟨_, scores_leaf hf ((Clause.patternsCompile_leaf hf).mp h)⟩
  | boolean children ih =>
    have hchildren := Clause.patternsCompile_boolean.mp h
    obtain ⟨found, hfound, -⟩ := exists_childScores fun c hc => ih c hc (hchildren c hc)
    exact ⟨combine found, by rw [scores, hfound]; rfl⟩

/-- **Evaluation.** A clause finds a document exactly if it holds, given what its leaves find. -/
theorem finds_iff_holds (h : c.PatternsCompile) :
    index.Finds doc c ↔ c.Holds (index.Finds doc) := by
  induction c using Clause.induct with
  | leaf c field hf => rw [Clause.holds_leaf hf]
  | boolean children ih =>
    have hchildren := Clause.patternsCompile_boolean.mp h
    have hscores : ∀ c ∈ children, ∃ scores, index.scores c.2 = .ok scores := fun c hc =>
      exists_scores (hchildren c hc)
    obtain ⟨found, hfound, hfinds⟩ := exists_childScores hscores
    have hcombine : index.scores (.boolean children) = .ok (combine found) := by
      rw [scores, hfound]
      rfl
    -- what the children find is what they make true, by induction
    have hverdicts : (children.map fun c => (c.1, index.Finds doc c.2)) =
        Clause.verdicts (index.Finds doc) children := by
      rw [Clause.verdicts_eq_map]
      exact List.map_congr_left fun c hc => by rw [propext (ih c hc (hchildren c hc))]
    rw [finds_iff_of_scores hcombine, mem_keys_combine, hfinds, hverdicts]
    rfl

/-- What a boolean clause finds, in terms of what its children find. -/
theorem finds_boolean {children : List (Occur × Clause)}
    (h : (Clause.boolean children).PatternsCompile) :
    index.Finds doc (.boolean children) ↔
      (∀ c ∈ children, c.1 = .must → index.Finds doc c.2) ∧
      (∀ c ∈ children, c.1 = .mustNot → ¬index.Finds doc c.2) ∧
      ((∃ c ∈ children, c.1 = .must) ∨ ∃ c ∈ children, c.1 = .should ∧ index.Finds doc c.2) := by
  have hc : ∀ c ∈ children, (index.Finds doc c.2 ↔ c.2.Holds (index.Finds doc)) := fun c hm =>
    finds_iff_holds (Clause.patternsCompile_boolean.mp h c hm)
  rw [finds_iff_holds h, Clause.holds_boolean]
  refine and_congr (forall₂_congr fun c hm => ?_) (and_congr (forall₂_congr fun c hm => ?_)
    (or_congr_right (exists_congr fun c => and_congr_right fun hm => ?_)))
  all_goals rw [hc c hm]

/-! ### The index of documents -/

variable {documents : List Document}

theorem field?_ofDocuments {name : String} :
    (ofDocuments documents).field? name =
      if ∃ d ∈ documents, ∃ f ∈ d.fields, f.name = name then
        some (.ofColumn (documents.map (·.fieldsNamed name)))
      else none := by
  rw [field?, ofDocuments, Dictionary.get?_ofKeys]
  simp [List.mem_flatMap]

/-- A leaf finds in an index of documents what it finds in the column of its field, even if there is
no such field. -/
theorem finds_leaf_ofDocuments {leaf : Clause} {field : String} (hf : leaf.field? = some field)
    (h : leaf.compiles) :
    (ofDocuments documents).Finds doc leaf ↔
      doc ∈ ((ofDocuments documents).leafScores leaf
        (.ofColumn (documents.map (·.fieldsNamed field)))).keys := by
  rw [finds_iff_of_scores (scores_leaf hf h), inField, field?_ofDocuments]
  split
  · rfl
  · next hnone =>
    refine iff_of_false (fun h => nomatch h) fun h => ?_
    -- a name that no document has a field of is mentioned nowhere
    obtain ⟨i, fields, hi, hne, -⟩ :=
      FieldIndex.exists_fields_of_mentions (mentions_of_mem_leafScores h)
    rw [List.getElem?_map, Option.map_eq_some_iff] at hi
    obtain ⟨d, hd, rfl⟩ := hi
    obtain ⟨f, hm⟩ := List.exists_mem_of_ne_nil _ hne
    rw [Document.fieldsNamed, List.mem_filter, decide_eq_true_iff] at hm
    exact absurd ⟨d, List.mem_of_getElem? hd, f, hm⟩ hnone

/-- **Ordinals.** What is found in an index of documents is the ordinal of a document. -/
theorem lt_length_of_finds (h : c.PatternsCompile) (hfind : (ofDocuments documents).Finds doc c) :
    doc.toNat < documents.length := by
  obtain ⟨leaf, hl, hfound⟩ := Clause.exists_leaf_of_holds ((finds_iff_holds h).mp hfind)
  obtain ⟨field, hf⟩ := Clause.field?_of_mem_leaves hl
  have hm := mentions_of_mem_leafScores ((finds_leaf_ofDocuments hf (h leaf hl)).mp hfound)
  simpa using FieldIndex.lt_length_of_mentions hm

/-! ### Exactness -/

section bounds

variable {d : Document} {field : String}

/-- The fields at an ordinal that is a word are those of its document. -/
private theorem fields_of_ordinal (hn : documents.length ≤ 2 ^ 32)
    (hd : documents[doc.toNat]? = some d) {i : Nat} {fields : List Field}
    (hf : (documents.map (·.fieldsNamed field))[i]? = some fields) (hi : i.toUInt32 = doc) :
    fields = d.fieldsNamed field := by
  rw [List.getElem?_map, Option.map_eq_some_iff] at hf
  obtain ⟨d', hd', rfl⟩ := hf
  have hlt := (List.getElem?_eq_some_iff.mp hd').1
  rw [toUInt32_eq_iff (by omega)] at hi
  rw [hi, hd] at hd'
  cases hd'
  rfl

/-- Where a term can stand is a word. -/
private theorem lt_word_of_standsAt {fields : List Field} (h : (textTerms fields).length < 2 ^ 32)
    {term : String} {j : Nat} (hs : StandsAt fields term j) : j < 2 ^ 32 :=
  Nat.lt_of_lt_of_le hs.lt_max (by omega)

/-- If ordinals and positions are words, terms occur in the index of a column exactly where they
stand in it. -/
private theorem occurs_iff_standsAt (hn : documents.length ≤ 2 ^ 32)
    (htokens : (textTerms (d.fieldsNamed field)).length < 2 ^ 32)
    (hd : documents[doc.toNat]? = some d) {term : String} {position : UInt32} :
    (FieldIndex.ofColumn (documents.map (·.fieldsNamed field))).Occurs term doc position ↔
      StandsAt (d.fieldsNamed field) term position.toNat := by
  rw [FieldIndex.occurs_ofColumn]
  constructor
  · rintro ⟨i, j, fields, hf, hs, hi, hj⟩
    obtain rfl := fields_of_ordinal hn hd hf hi
    rw [toUInt32_eq_iff (lt_word_of_standsAt htokens hs)] at hj
    rwa [← hj]
  · intro hs
    exact ⟨doc.toNat, position.toNat, d.fieldsNamed field, by rw [List.getElem?_map, hd]; rfl, hs,
      UInt32.ofNat_toNat, UInt32.ofNat_toNat⟩

/-- If ordinals are words, the index of a column has the points of the documents. -/
private theorem mem_points_iff (hn : documents.length ≤ 2 ^ 32)
    (hd : documents[doc.toNat]? = some d) {point : Int64} :
    (point, doc) ∈ (FieldIndex.ofColumn (documents.map (·.fieldsNamed field))).points.toList ↔
      ∃ f ∈ d.fieldsNamed field, f.kind = .numeric ∧ point ∈ f.point := by
  have hpoints : point ∈ pointsOf (d.fieldsNamed field) ↔
      ∃ f ∈ d.fieldsNamed field, f.kind = .numeric ∧ point ∈ f.point := by
    simp [pointsOf]
  rw [FieldIndex.mem_points_ofColumn, ← hpoints]
  constructor
  · rintro ⟨i, fields, hf, hp, hi⟩
    obtain rfl := fields_of_ordinal hn hd hf hi
    exact hp
  · intro hp
    exact ⟨doc.toNat, d.fieldsNamed field, by rw [List.getElem?_map, hd]; rfl, hp,
      UInt32.ofNat_toNat⟩

private theorem mem_pointScores_iff (hn : documents.length ≤ 2 ^ 32)
    (hd : documents[doc.toNat]? = some d) {lo hi : Int64} :
    doc ∈ ((FieldIndex.ofColumn (documents.map (·.fieldsNamed field))).pointScores lo hi).keys ↔
      HasPoint (d.fieldsNamed field) lo hi := by
  have ordered : (FieldIndex.ofColumn (documents.map (·.fieldsNamed field))).IsOrdered :=
    FieldIndex.isOrdered_ofColumn (by simpa using hn)
  simp only [FieldIndex.mem_pointScores ordered, mem_points_iff hn hd, HasPoint]
  constructor
  · rintro ⟨point, ⟨f, hf, hk, hp⟩, hle⟩
    exact ⟨f, hf, hk, point, hp, hle⟩
  · rintro ⟨f, hf, hk, point, hp, hle⟩
    exact ⟨point, ⟨f, hf, hk, hp⟩, hle⟩

private theorem hasTerm_any {fields : List Field} {regex? : Option Pattern.Regex} :
    HasTerm fields (fun term => regex?.any fun r => r.accepts term.toList) ↔
      ∃ regex ∈ regex?, HasTerm fields fun term => regex.accepts term.toList := by
  cases regex? <;> simp [HasTerm]

section leaves

variable (hn : documents.length ≤ 2 ^ 32)
  (htokens : (textTerms (d.fieldsNamed field)).length < 2 ^ 32)
  (hd : documents[doc.toNat]? = some d)

include hn htokens hd

/-- A document has a posting of a term, if the term stands in it. -/
private theorem hasPosting_iff {term : String} :
    (FieldIndex.ofColumn (documents.map (·.fieldsNamed field))).HasPosting term doc ↔
      ∃ j, StandsAt (d.fieldsNamed field) term j := by
  have ordered : (FieldIndex.ofColumn (documents.map (·.fieldsNamed field))).IsOrdered :=
    FieldIndex.isOrdered_ofColumn (by simpa using hn)
  rw [ordered.hasPosting_iff]
  constructor
  · rintro ⟨position, h⟩
    exact ⟨position.toNat, (occurs_iff_standsAt hn htokens hd).mp h⟩
  · rintro ⟨j, hs⟩
    refine ⟨j.toUInt32, (occurs_iff_standsAt hn htokens hd).mpr ?_⟩
    rwa [UInt32.toNat_ofNat_of_lt' (lt_word_of_standsAt htokens hs)]

private theorem mem_acceptedScores_iff {accepts : String → Bool} :
    doc ∈ ((FieldIndex.ofColumn (documents.map (·.fieldsNamed field))).acceptedScores
      accepts).keys ↔ HasTerm (d.fieldsNamed field) accepts := by
  simp only [FieldIndex.mem_acceptedScores, hasPosting_iff hn htokens hd, HasTerm, exists_and_right]

/-- If the positions behind the last token are words, too, a phrase stands where its terms do. -/
private theorem mem_phraseScores_iff {terms : List String}
    (hlen : (textTerms (d.fieldsNamed field)).length + terms.length ≤ 2 ^ 32) :
    doc ∈ (index.phraseScores (.ofColumn (documents.map (·.fieldsNamed field))) terms).keys ↔
      terms ≠ [] ∧ ∃ start, ∀ (j : Nat) term, terms[j]? = some term →
        StandsAt (d.fieldsNamed field) term (start + j) := by
  have ordered : (FieldIndex.ofColumn (documents.map (·.fieldsNamed field))).IsOrdered :=
    FieldIndex.isOrdered_ofColumn (by simpa using hn)
  simp only [FieldIndex.mem_phraseScores ordered, occurs_iff_standsAt hn htokens hd]
  refine and_congr_right fun hne => ?_
  obtain ⟨first, hfirst⟩ : ∃ first, terms[0]? = some first :=
    ⟨_, List.getElem?_eq_getElem (List.length_pos_iff.mpr hne)⟩
  -- a phrase that starts at a place where its first term can stand ends on a word
  have hsum : ∀ (start : UInt32) (j : Nat), StandsAt (d.fieldsNamed field) first start.toNat →
      j < terms.length → (start + j.toUInt32).toNat = start.toNat + j := by
    intro start j hs hj
    have hstart := hs.lt_max
    rw [UInt32.toNat_add, UInt32.toNat_ofNat_of_lt' (show j < 2 ^ 32 by omega)]
    exact Nat.mod_eq_of_lt (by omega)
  constructor
  · rintro ⟨start, h⟩
    have hs : StandsAt (d.fieldsNamed field) first start.toNat := by simpa using h 0 first hfirst
    refine ⟨start.toNat, fun j term hj => ?_⟩
    rw [← hsum start j hs (List.getElem?_eq_some_iff.mp hj).1]
    exact h j term hj
  · rintro ⟨start, h⟩
    have hs : StandsAt (d.fieldsNamed field) first start := h 0 first hfirst
    have hword : start.toUInt32.toNat = start :=
      UInt32.toNat_ofNat_of_lt' (lt_word_of_standsAt htokens hs)
    refine ⟨start.toUInt32, fun j term hj => ?_⟩
    rw [hsum _ j (by rwa [hword]) (List.getElem?_eq_some_iff.mp hj).1, hword]
    exact h j term hj

/-- A leaf finds in the column of its field what satisfies it. -/
private theorem mem_leafScores_iff {leaf : Clause} (hf : leaf.field? = some field)
    (hphrase : ∀ terms, leaf = .phrase field terms →
      (textTerms (d.fieldsNamed field)).length + terms.length ≤ 2 ^ 32) :
    doc ∈ (index.leafScores leaf (.ofColumn (documents.map (·.fieldsNamed field)))).keys ↔
      d.SatisfiesLeaf leaf := by
  have haccepted : ∀ accepts,
      doc ∈ ((FieldIndex.ofColumn (documents.map (·.fieldsNamed field))).acceptedScores
        accepts).keys ↔ HasTerm (d.fieldsNamed field) accepts := fun accepts =>
    mem_acceptedScores_iff hn htokens hd
  cases leaf with
  | boolean => cases hf
  | term name text =>
    cases hf
    exact FieldIndex.mem_termScores.trans (hasPosting_iff hn htokens hd)
  | phrase name terms =>
    cases hf
    exact mem_phraseScores_iff hn htokens hd (hphrase terms rfl)
  | wildcard name pattern =>
    cases hf
    simp only [leafScores, haccepted, Document.SatisfiesLeaf, hasTerm_any]
  | regexp name pattern =>
    cases hf
    simp only [leafScores, haccepted, Document.SatisfiesLeaf, hasTerm_any]
  | range name lower upper =>
    cases hf
    simp only [leafScores, rangeScores, Document.SatisfiesLeaf]
    cases NumericRange.ofBounds lower upper with
    | notNumeric => exact haccepted _
    | empty => exact iff_of_false List.not_mem_nil not_false
    | between lo hi => exact mem_pointScores_iff hn hd

end leaves

end bounds

/-- What is found in an index of documents, are the documents that satisfy the clause. -/
theorem finds_ofDocuments (fits : FitsWords documents c) (h : c.PatternsCompile) :
    (ofDocuments documents).Finds doc c ↔
      ∃ h : doc.toNat < documents.length, documents[doc.toNat].Satisfies c := by
  have hleaf : ∀ h' : doc.toNat < documents.length, ∀ leaf ∈ c.leaves,
      (ofDocuments documents).Finds doc leaf ↔ documents[doc.toNat].SatisfiesLeaf leaf := by
    intro h' leaf hl
    obtain ⟨field, hf⟩ := Clause.field?_of_mem_leaves hl
    have hd := List.getElem_mem h'
    rw [finds_leaf_ofDocuments hf (h leaf hl), mem_leafScores_iff fits.ordinals
      (fits.tokens _ hd field) (List.getElem?_eq_getElem h') hf]
    rintro terms rfl
    exact fits.phrases _ hd field terms hl
  constructor
  · intro hfind
    have hlt := lt_length_of_finds h hfind
    exact ⟨hlt, (Clause.holds_congr (hleaf hlt)).mp ((finds_iff_holds h).mp hfind)⟩
  · rintro ⟨hlt, hs⟩
    exact (finds_iff_holds h).mpr ((Clause.holds_congr (hleaf hlt)).mpr hs)

end Index

/-! ### Hits -/

/-- The hits of scored documents, the best first. -/
def Scores.ranked (scores : Scores) (limit : Nat) : List Hit :=
  rank (scores.entries.map fun (doc, score) => ⟨doc, Numeral.Binary64.ofFloat score⟩) limit

section ranked

variable {scores : Scores} {limit : Nat}

/-- Without a limit the hits are the scored documents. -/
private theorem map_doc_sortBy_perm :
    ((sortBy Hit.precedes (scores.entries.map fun e =>
      ⟨e.1, Numeral.Binary64.ofFloat e.2⟩)).map (·.doc)).Perm scores.keys := by
  have h := (sortBy_perm Hit.precedes (scores.entries.map fun e =>
    (⟨e.1, Numeral.Binary64.ofFloat e.2⟩ : Hit))).map (·.doc)
  rwa [List.map_map] at h

theorem Scores.nodup_ranked : ((scores.ranked limit).map (·.doc)).Nodup := by
  rw [Scores.ranked, rank, List.map_take]
  exact (map_doc_sortBy_perm.nodup_iff.mpr scores.nodup_keys).take

theorem Scores.length_ranked : (scores.ranked limit).length = min limit scores.keys.length := by
  rw [Scores.ranked, rank, List.length_take, ← List.length_map (·.doc),
    map_doc_sortBy_perm.length_eq]

theorem Scores.mem_of_mem_ranked {hit : Hit} (h : hit ∈ scores.ranked limit) :
    hit.doc ∈ scores.keys :=
  map_doc_sortBy_perm.mem_iff.mp (List.mem_map_of_mem (List.mem_of_mem_take h))

theorem Scores.mem_ranked_iff (h : scores.keys.length ≤ limit) {doc : Ordinal} :
    doc ∈ (scores.ranked limit).map (·.doc) ↔ doc ∈ scores.keys := by
  rw [← map_doc_sortBy_perm.mem_iff, Scores.ranked, rank, List.take_of_length_le]
  rwa [← List.length_map (·.doc), map_doc_sortBy_perm.length_eq]

end ranked

namespace Index

variable {index : Index} {c : Clause} {documents : List Document} {hits : List Hit} {limit : Nat}

/-- The hits of a clause are the best of what it finds. -/
theorem evaluate_eq_ok_iff :
    index.evaluate c limit = .ok hits ↔
      ∃ scores, index.scores c = .ok scores ∧ hits = scores.ranked limit := by
  simp only [evaluate, bind, Except.bind]
  cases index.scores c with
  | error e => exact iff_of_false (fun h => nomatch h) (fun ⟨_, h, _⟩ => nomatch h)
  | ok scores => simp only [Except.ok.injEq, exists_eq_left', Scores.ranked, eq_comm]

theorem exists_evaluate (index : Index) (h : c.PatternsCompile) (limit : Nat) :
    ∃ hits, index.evaluate c limit = .ok hits := by
  obtain ⟨scores, hs⟩ := exists_scores h
  exact ⟨_, evaluate_eq_ok_iff.mpr ⟨scores, hs, rfl⟩⟩

theorem nodup_evaluate (h : index.evaluate c limit = .ok hits) : (hits.map (·.doc)).Nodup := by
  obtain ⟨scores, -, rfl⟩ := evaluate_eq_ok_iff.mp h
  exact scores.nodup_ranked

theorem finds_of_mem_evaluate (h : index.evaluate c limit = .ok hits) {hit : Hit}
    (hm : hit ∈ hits) : index.Finds hit.doc c := by
  obtain ⟨scores, hs, rfl⟩ := evaluate_eq_ok_iff.mp h
  exact ⟨scores, hs, Scores.mem_of_mem_ranked hm⟩

/-- A clause finds no more ordinals than there are documents. -/
theorem length_keys_le (h : c.PatternsCompile) {scores : Scores}
    (hs : (ofDocuments documents).scores c = .ok scores) :
    scores.keys.length ≤ documents.length := by
  have hnodup : (scores.keys.map UInt32.toNat).Nodup :=
    scores.nodup_keys.map fun _ _ => UInt32.toNat_inj.mp
  -- different ordinals of documents are no more than the documents
  have hsub : scores.keys.map UInt32.toNat ⊆ List.range documents.length := by
    intro i hi
    obtain ⟨doc, hd, rfl⟩ := List.mem_map.mp hi
    exact List.mem_range.mpr (lt_length_of_finds h ((finds_iff_of_scores hs).mpr hd))
  simpa using (hnodup.subperm hsub).length_le

/-- Under a limit that leaves all documents room, the hits of a clause are what it finds. -/
theorem mem_evaluate_iff (h : c.PatternsCompile) (hlimit : documents.length ≤ limit)
    (he : (ofDocuments documents).evaluate c limit = .ok hits) {doc : Ordinal} :
    doc ∈ hits.map (·.doc) ↔ (ofDocuments documents).Finds doc c := by
  obtain ⟨scores, hs, rfl⟩ := evaluate_eq_ok_iff.mp he
  rw [Scores.mem_ranked_iff (Nat.le_trans (length_keys_le h hs) hlimit), finds_iff_of_scores hs]

/-- Under a limit there are as many hits as it allows, of all that there are. -/
theorem length_evaluate (h : c.PatternsCompile)
    (he : (ofDocuments documents).evaluate c limit = .ok hits) {all : List Hit}
    (hall : (ofDocuments documents).evaluate c documents.length = .ok all) :
    hits.length = min limit all.length := by
  obtain ⟨scores, hs, rfl⟩ := evaluate_eq_ok_iff.mp he
  obtain ⟨scores', hs', rfl⟩ := evaluate_eq_ok_iff.mp hall
  obtain rfl := Except.ok.inj (hs.symm.trans hs')
  rw [Scores.length_ranked, Scores.length_ranked, Nat.min_eq_right (length_keys_le h hs)]

/-- If one document satisfies a clause, the clause has one hit. -/
theorem evaluate_eq_singleton {k : Nat}
    (fits : FitsWords documents c) (h : c.PatternsCompile) (hlimit : documents.length ≤ limit)
    (hk : ∀ i, (∃ hi : i < documents.length, documents[i].Satisfies c) ↔ i = k) :
    ∃ hit, (ofDocuments documents).evaluate c limit = .ok [hit] ∧ hit.doc.toNat = k := by
  obtain ⟨hits, he⟩ := exists_evaluate (ofDocuments documents) h limit
  have hn := nodup_evaluate he
  have hmem (doc : Ordinal) : doc ∈ hits.map (·.doc) ↔ doc.toNat = k := by
    rw [mem_evaluate_iff h hlimit he, finds_ofDocuments fits h, hk]
  obtain ⟨hkl, -⟩ := (hk k).mpr rfl
  have hword : k.toUInt32.toNat = k :=
    UInt32.toNat_ofNat_of_lt' (Nat.lt_of_lt_of_le hkl fits.ordinals)
  have hfound := (hmem k.toUInt32).mpr hword
  match hits, he, hn, hmem, hfound with
  | [hit], he, _, hmem, _ => exact ⟨hit, he, (hmem hit.doc).mp (List.mem_singleton_self _)⟩
  | first :: second :: _, _, hn, hmem, _ =>
    have hfirst := (hmem first.doc).mp (by simp)
    have hsecond := (hmem second.doc).mp (by simp)
    have hsame : first.doc = second.doc := UInt32.toNat_inj.mp (hfirst.trans hsecond.symm)
    simp [hsame] at hn

/-- **Exactness.** Under a limit that leaves all documents room, a clause whose patterns compile is
evaluated to the documents that satisfy it, each once. -/
theorem evaluate_ofDocuments (fits : FitsWords documents c) (h : c.PatternsCompile)
    (hlimit : documents.length ≤ limit) :
    ∃ hits, (ofDocuments documents).evaluate c limit = .ok hits ∧
      (hits.map (·.doc.toNat)).Nodup ∧
      ∀ i, i ∈ hits.map (·.doc.toNat) ↔
        ∃ h : i < documents.length, documents[i].Satisfies c := by
  obtain ⟨hits, he⟩ := exists_evaluate (ofDocuments documents) h limit
  refine ⟨hits, he, ?_, fun i => ?_⟩
  · have hn := (nodup_evaluate he).map fun _ _ => UInt32.toNat_inj.mp
    rwa [List.map_map] at hn
  · have hord := fits.ordinals
    constructor
    · intro hi
      obtain ⟨hit, hm, rfl⟩ := List.mem_map.mp hi
      exact (finds_ofDocuments fits h).mp (finds_of_mem_evaluate he hm)
    · rintro ⟨hi, hs⟩
      have hword : i.toUInt32.toNat = i := UInt32.toNat_ofNat_of_lt' (Nat.lt_of_lt_of_le hi hord)
      have hfinds : (ofDocuments documents).Finds i.toUInt32 c :=
        (finds_ofDocuments fits h).mpr (by simpa only [hword] using ⟨hi, hs⟩)
      obtain ⟨hit, hm, hd⟩ := List.mem_map.mp ((mem_evaluate_iff h hlimit he).mpr hfinds)
      exact List.mem_map.mpr ⟨hit, hm, by rw [hd, hword]⟩

/-- A required word and an excluded phrase, on a document that has the words in another order. -/
theorem evaluate_ofDocuments_client :
    ∃ hits, (ofDocuments [⟨1, [.text "name" "CAS Client"]⟩]).evaluate
        (.boolean [(.must, .term "name" "cas"), (.mustNot, .phrase "name" ["client", "cas"])]) 1 =
          .ok hits ∧
      (hits.map (·.doc.toNat)).Nodup ∧ 0 ∈ hits.map (·.doc.toNat) := by
  have hterms : textTerms [.text "name" "CAS Client"] = ["cas", "client"] := by decide +kernel
  have hstands : ∀ term position,
      StandsAt (Document.fieldsNamed ⟨1, [.text "name" "CAS Client"]⟩ "name") term position ↔
        ["cas", "client"][position]? = some term := by
    intro term position
    rw [StandsAt, show Document.fieldsNamed ⟨1, [.text "name" "CAS Client"]⟩ "name" =
      [.text "name" "CAS Client"] by decide, hterms]
    simp [Field.text]
  have fits : FitsWords [⟨1, [.text "name" "CAS Client"]⟩]
      (.boolean [(.must, .term "name" "cas"), (.mustNot, .phrase "name" ["client", "cas"])]) := by
    refine .of_textTerms (by decide) (fun d hd => ?_) fun d hd field terms hl => ?_
    · rw [List.mem_singleton.mp hd, hterms]
      decide
    · simp only [Clause.leaves, Clause.leavesOf, List.cons_append, List.nil_append, List.mem_cons,
        reduceCtorEq, Clause.phrase.injEq, List.not_mem_nil, or_false, false_or] at hl
      rw [List.mem_singleton.mp hd, hterms, hl.2]
      decide
  have compile : Clause.PatternsCompile
      (.boolean [(.must, .term "name" "cas"), (.mustNot, .phrase "name" ["client", "cas"])]) := by
    intro leaf hl
    simp only [Clause.leaves, Clause.leavesOf, List.cons_append, List.nil_append, List.mem_cons,
      List.not_mem_nil, or_false] at hl
    obtain rfl | rfl := hl <;> rfl
  obtain ⟨hits, he, hn, hm⟩ := evaluate_ofDocuments fits compile (Nat.le_refl 1)
  refine ⟨hits, he, hn, (hm 0).mpr ⟨by decide, ?_⟩⟩
  refine Clause.holds_boolean.mpr ⟨?_, ?_, .inl ⟨_, List.mem_cons_self, rfl⟩⟩
  · simp only [List.mem_cons, List.not_mem_nil, or_false, forall_eq_or_imp, forall_eq, true_implies,
      reduceCtorEq, false_implies, and_true]
    exact ⟨0, (hstands "cas" 0).mpr rfl⟩
  · simp only [List.mem_cons, List.not_mem_nil, or_false, forall_eq_or_imp, forall_eq, true_implies,
      reduceCtorEq, false_implies, true_and]
    rintro ⟨-, start, h⟩
    have hsecond := (hstands _ _).mp (h 1 "cas" rfl)
    cases start <;> simp at hsecond

end Index

end RegistrySearch
