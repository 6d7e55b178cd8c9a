import Mathlib.Algebra.Order.BigOperators.Group.List
import Mathlib.Algebra.Order.Group.Nat
import RegistrySearch.Proofs.Index.Building
import RegistrySearch.Proofs.Search.Exactness

/-!
# The finished index

The index that a builder finishes fits together and says of every field exactly what the documents
say (`FieldIndex.Describes`): it loses nothing and has nothing twice, however the fields of a
document and their kinds follow each other. So it is searched with the results that a scan of the
documents has, each document under the ordinal that it was given.

Ordinals, positions and lengths are words, so documents and the texts of one field must be so few
and so short that these do not wrap around.
-/

namespace RegistrySearch

/-! ### Chains -/

theorem isChain_of_pairwise {α : Type} {related : α → α → Bool} {xs : List α}
    (h : xs.Pairwise fun x y => related x y) : isChain related xs := by
  induction xs with
  | nil => rfl
  | cons x xs ih =>
    obtain ⟨hx, hxs⟩ := List.pairwise_cons.mp h
    cases xs with
    | nil => rfl
    | cons y xs =>
      have hrest := ih hxs
      rw [isChain] at hrest ⊢
      rw [List.drop_one, List.tail_cons, List.zip_cons_cons, List.all_cons]
      exact Bool.and_eq_true_iff.mpr ⟨hx y List.mem_cons_self, hrest⟩

/-- Tokens are counted text by text. -/
theorem tokenCount_eq {fields : List Field} : tokenCount fields = (textTerms fields).length := by
  induction fields with
  | nil => rfl
  | cons f fields ih =>
    rw [tokenCount, List.map_cons, List.sum_cons, ← tokenCount, ih, textTerms_cons,
      List.length_append]
    split
    · rw [List.length_map]
    · rfl

namespace FieldIndex

/-- The index of a field says what a column says, the fields of one name in each document. -/
structure Describes (index : FieldIndex) (column : List (List Field)) : Prop where
  /-- Every term that stands in some document is there, and no other. -/
  terms : ∀ term, (index.terms.get? term).isSome ↔
    ∃ fields ∈ column, ∃ j, StandsAt fields term j
  /-- The documents of a term are ascending. -/
  ascending : ∀ term list, index.terms.get? term = some list →
    list.postings.toList.Pairwise fun p q => p.doc < q.doc
  /-- The documents of a term are those in which it stands. -/
  documents : ∀ term list, index.terms.get? term = some list → ∀ i,
    (∃ p ∈ list.postings.toList, p.doc.toNat = i) ↔
      ∃ fields, column[i]? = some fields ∧ ∃ j, StandsAt fields term j
  /-- The positions of a term in a document are ascending, and those at which it stands. -/
  positions : ∀ term list, index.terms.get? term = some list → ∀ p ∈ list.postings.toList,
    p.positions.toList ≠ [] ∧ p.positions.toList.Pairwise (· < ·) ∧
      ∀ fields, column[p.doc.toNat]? = some fields → ∀ j,
        (∃ position ∈ p.positions.toList, position.toNat = j) ↔ StandsAt fields term j
  /-- The documents of a term are counted. -/
  docFreq : ∀ term list, index.terms.get? term = some list →
    list.docFreq.toNat = column.countP fun fields => positionsOf fields term ≠ []
  /-- The points are those of the documents, in order. -/
  points : index.points.toList.Pairwise (fun p q => pointBefore p q) ∧
    index.points.toList.Perm (columnPoints column)
  /-- The length of a document is the number of its tokens. -/
  lengths : index.lengths.toList.map (·.toNat) =
    column.map fun fields => (textTerms fields).length
  totalLength : index.totalLength.toNat =
    (column.map fun fields => (textTerms fields).length).sum
  lengthDocs : index.lengthDocs.toNat =
    column.countP fun fields => (textTerms fields).length ≠ 0

section column

variable {column : List (List Field)} {term : String} {list : PostingList}

/-- A posting of a column is that of a document in which the term stands, if ordinals are words. -/
private theorem exists_of_mem_postings (hn : column.length ≤ 2 ^ 32)
    (hl : (ofColumn column).terms.get? term = some list) {p : Posting}
    (hp : p ∈ list.postings.toList) :
    ∃ fields, column[p.doc.toNat]? = some fields ∧ positionsOf fields term ≠ [] ∧
      p = .ofPositions p.doc.toNat (positionsOf fields term) := by
  obtain ⟨position, hm⟩ := List.exists_mem_of_ne_nil _ (positions_ofColumn hl hp).2
  have hoccurs : (ofColumn column).Occurs term p.doc position := ⟨list, hl, p, hp, rfl, hm⟩
  obtain ⟨i, j, fields, hi, -, hdoc, -⟩ := occurs_ofColumn.mp hoccurs
  have hlt := (List.getElem?_eq_some_iff.mp hi).1
  have hword : p.doc.toNat = i := by
    rw [← hdoc]
    exact UInt32.toNat_ofNat_of_lt' (Nat.lt_of_lt_of_le hlt hn)
  rw [hword]
  exact ⟨fields, hi, (mem_postings_ofColumn_iff hn hi hl).mp ⟨hp, hdoc.symm⟩⟩

/-! The counts of an index are words of 32 and 64 bits, which hold those of a column. -/

private theorem toNat_docFreq_ofColumn (hn : column.length ≤ 2 ^ 32)
    (hl : (ofColumn column).terms.get? term = some list) :
    list.docFreq.toNat = column.countP fun fields => positionsOf fields term ≠ [] := by
  have hle : (column.countP fun fields => positionsOf fields term ≠ []) ≤ column.length :=
    List.countP_le_length
  rw [docFreq_ofColumn hl]
  exact UInt64.toNat_ofNat_of_lt' (Nat.lt_of_le_of_lt (Nat.le_trans hle hn) (by decide))

private theorem toNat_totalLength_ofColumn (hn : column.length < 2 ^ 32)
    (htokens : ∀ fields ∈ column, (textTerms fields).length < 2 ^ 32) :
    (ofColumn column).totalLength.toNat = (column.map tokenCount).sum := by
  have hle : (column.map tokenCount).sum ≤ column.length * 2 ^ 32 := by
    rw [← List.length_map (f := tokenCount)]
    refine List.sum_le_card_nsmul _ _ fun n hn' => ?_
    obtain ⟨fields, hf, rfl⟩ := List.mem_map.mp hn'
    exact Nat.le_of_lt (tokenCount_eq ▸ htokens fields hf)
  exact UInt64.toNat_ofNat_of_lt' (Nat.lt_of_le_of_lt hle
    (Nat.mul_lt_mul_of_pos_right hn (by decide)))

private theorem toNat_lengthDocs_ofColumn (hn : column.length < 2 ^ 32) :
    (ofColumn column).lengthDocs.toNat = column.countP fun fields => tokenCount fields ≠ 0 := by
  have hcount : (column.countP fun fields => tokenCount fields ≠ 0) =
      ((column.map tokenCount).filter (· ≠ 0)).length := by
    rw [← List.countP_eq_length_filter, List.countP_map]
    rfl
  have hle : (column.countP fun fields => tokenCount fields ≠ 0) ≤ column.length :=
    List.countP_le_length
  rw [hcount] at hle ⊢
  exact UInt32.toNat_ofNat_of_lt' (Nat.lt_of_le_of_lt hle hn)

/-- A posting list of a column is well formed. -/
private theorem isWellFormed_postings (hn : column.length ≤ 2 ^ 32)
    (hl : (ofColumn column).terms.get? term = some list) :
    list.isWellFormed column.length := by
  have hsize : list.docFreq.toNat = list.postings.size := by
    rw [toNat_docFreq_ofColumn hn hl, size_postings_ofColumn hl]
  have hchain := (isOrdered_ofColumn hn).postings term list hl
  simp only [PostingList.isWellFormed, Bool.and_eq_true, decide_eq_true_eq, Array.all_eq_true']
  refine ⟨⟨hsize, isChain_of_pairwise (hchain.imp fun h => decide_eq_true h)⟩, fun p hp => ?_⟩
  obtain ⟨fields, hi, -⟩ := exists_of_mem_postings hn hl (Array.mem_toList_iff.mpr hp)
  have hne := (positions_ofColumn hl (Array.mem_toList_iff.mpr hp)).2
  refine ⟨(List.getElem?_eq_some_iff.mp hi).1, ?_⟩
  simpa using hne

/-- The index of a column whose ordinals are words is well formed. -/
theorem isWellFormed_ofColumn (hn : column.length ≤ 2 ^ 32) :
    (ofColumn column).isWellFormed column.length := by
  simp only [FieldIndex.isWellFormed, Bool.and_eq_true, decide_eq_true_eq, List.all_eq_true,
    Array.all_eq_true']
  refine ⟨⟨⟨?_, ?_⟩, ?_⟩, ?_⟩
  · intro list hl
    obtain ⟨⟨term, list⟩, hmem, rfl⟩ := List.mem_map.mp hl
    exact isWellFormed_postings hn (Dictionary.get?_eq_some_iff.mpr hmem)
  · exact isChain_of_pairwise (pairwise_sortBy pointBefore_trans pointBefore_total _)
  · rintro ⟨point, doc⟩ hp
    obtain ⟨i, fields, hi, -, rfl⟩ := mem_points_ofColumn.mp (Array.mem_toList_iff.mpr hp)
    have hlt := (List.getElem?_eq_some_iff.mp hi).1
    rwa [UInt32.toNat_ofNat_of_lt' (Nat.lt_of_lt_of_le hlt hn)]
  · simp [ofColumn]

/-- **Columns.** If ordinals and positions are words, the index of a column describes it. -/
theorem describes_ofColumn (hn : column.length < 2 ^ 32)
    (htokens : ∀ fields ∈ column, (textTerms fields).length < 2 ^ 32) :
    (ofColumn column).Describes column where
  terms term := by
    rw [isSome_get?_terms_ofColumn]
    simp only [ne_eq, List.eq_nil_iff_forall_not_mem, mem_positionsOf, not_forall, not_not]
  ascending := (isOrdered_ofColumn (Nat.le_of_lt hn)).postings
  documents term list hl i := by
    constructor
    · rintro ⟨p, hp, rfl⟩
      obtain ⟨fields, hi, hne, -⟩ := exists_of_mem_postings (Nat.le_of_lt hn) hl hp
      obtain ⟨j, hj⟩ := List.exists_mem_of_ne_nil _ hne
      exact ⟨fields, hi, j, mem_positionsOf.mp hj⟩
    · rintro ⟨fields, hi, j, hs⟩
      have hne : positionsOf fields term ≠ [] := List.ne_nil_of_mem (mem_positionsOf.mpr hs)
      obtain ⟨hp, hdoc⟩ := (mem_postings_ofColumn_iff (Nat.le_of_lt hn) hi hl).mpr ⟨hne, rfl⟩
      have hlt := (List.getElem?_eq_some_iff.mp hi).1
      exact ⟨_, hp, (toUInt32_eq_iff (Nat.lt_trans hlt hn)).mp hdoc.symm |>.symm⟩
  positions term list hl p hp := by
    obtain ⟨hascending, hne⟩ := positions_ofColumn hl hp
    refine ⟨hne, hascending, fun fields hi j => ?_⟩
    obtain ⟨fields', hi', -, hpositions⟩ := exists_of_mem_postings (Nat.le_of_lt hn) hl hp
    rw [hi, Option.some.injEq] at hi'
    rw [hpositions, ← hi']
    simp only [Posting.mem_positions_ofPositions, mem_positionsOf]
    have hword : ∀ k, StandsAt fields term k → k.toUInt32.toNat = k := fun k hk =>
      UInt32.toNat_ofNat_of_lt' (Nat.lt_of_lt_of_le hk.lt_max
        (Nat.max_le.mpr ⟨Nat.le_of_lt (htokens fields (List.mem_of_getElem? hi)), by decide⟩))
    constructor
    · rintro ⟨_, ⟨k, hk, rfl⟩, rfl⟩
      rwa [hword k hk]
    · exact fun hj => ⟨_, ⟨j, hj, rfl⟩, hword j hj⟩
  docFreq term list hl := toNat_docFreq_ofColumn (Nat.le_of_lt hn) hl
  points := ⟨pairwise_sortBy pointBefore_trans pointBefore_total _, sortBy_perm _ _⟩
  lengths := by
    simp only [ofColumn, List.map_map]
    refine List.map_congr_left fun fields hf => ?_
    rw [← tokenCount_eq]
    exact UInt32.toNat_ofNat_of_lt' (tokenCount_eq ▸ htokens fields hf)
  totalLength := by
    simp only [← tokenCount_eq]
    exact toNat_totalLength_ofColumn hn htokens
  lengthDocs := by
    simp only [← tokenCount_eq]
    exact toNat_lengthDocs_ofColumn hn

end column

end FieldIndex

namespace Index

variable {documents : List Document} {name : String} {index : FieldIndex}

/-- A name has an index if some document has a field of the name. -/
theorem isSome_field?_ofDocuments :
    ((ofDocuments documents).field? name).isSome ↔ ∃ d ∈ documents, d.fieldsNamed name ≠ [] := by
  rw [field?_ofDocuments]
  split
  · next h => simpa [Document.fieldsNamed] using h
  · next h => simpa [Document.fieldsNamed] using h

theorem eq_ofColumn_of_field? (h : (ofDocuments documents).field? name = some index) :
    index = .ofColumn (documents.map (·.fieldsNamed name)) := by
  rw [field?_ofDocuments] at h
  split at h
  · exact (Option.some.inj h).symm
  · cases h

/-- **Documents.** The index of documents whose ordinals are words is well formed. -/
theorem isWellFormed_ofDocuments (hn : documents.length ≤ 2 ^ 32) :
    (ofDocuments documents).isWellFormed := by
  have hcount : (ofDocuments documents).docCount = documents.length := by
    simp [docCount, ofDocuments]
  rw [isWellFormed, List.all_eq_true, hcount]
  intro index hindex
  obtain ⟨⟨name, index⟩, hmem, rfl⟩ := List.mem_map.mp hindex
  have hfield : (ofDocuments documents).field? name = some index :=
    Dictionary.get?_eq_some_iff.mpr hmem
  have hwell : (FieldIndex.ofColumn (documents.map (·.fieldsNamed name))).isWellFormed
      (documents.map (·.fieldsNamed name)).length :=
    FieldIndex.isWellFormed_ofColumn (by rwa [List.length_map])
  rwa [← eq_ofColumn_of_field? hfield, List.length_map] at hwell

end Index

namespace Builder

/-- **Building.** Documents that are added to an empty builder get the ordinals 0, 1, 2, …, and the
index that is finished then is well formed, has the identifiers of the documents in their order, and
under each name that a document has what the documents say under the name. -/
theorem finish_addAll (documents : List Document) (hn : documents.length < 2 ^ 32)
    (htokens : ∀ d ∈ documents, ∀ name, (textTerms (d.fieldsNamed name)).length < 2 ^ 32) :
    (empty.addAll documents).1.map (·.toNat) = List.range documents.length ∧
      (empty.addAll documents).2.finish.isWellFormed ∧
      (empty.addAll documents).2.finish.ids.toList = documents.map (·.id) ∧
      ∀ name,
        (((empty.addAll documents).2.finish.field? name).isSome ↔
          ∃ d ∈ documents, d.fieldsNamed name ≠ []) ∧
        ∀ index ∈ (empty.addAll documents).2.finish.field? name,
          index.Describes (documents.map (·.fieldsNamed name)) := by
  have hfinish := finish_addAll_eq (Nat.le_of_lt hn) fun d hd name =>
    tokenCount_eq ▸ htokens d hd name
  rw [ordinals_addAll (Nat.le_of_lt hn), hfinish]
  refine ⟨?_, Index.isWellFormed_ofDocuments (Nat.le_of_lt hn), ?_, fun name =>
    ⟨Index.isSome_field?_ofDocuments, fun index hindex => ?_⟩⟩
  · rw [List.map_map]
    refine (List.map_congr_left fun i hi => ?_).trans (List.map_id _)
    exact UInt32.toNat_ofNat_of_lt' (Nat.lt_trans (List.mem_range.mp hi) hn)
  · simp [Index.ofDocuments]
  · rw [Index.eq_ofColumn_of_field? hindex]
    refine FieldIndex.describes_ofColumn (by rwa [List.length_map]) fun fields hf => ?_
    obtain ⟨d, hd, rfl⟩ := List.mem_map.mp hf
    exact htokens d hd name

/-- A value that is kept whole and a text of one name, a document without fields, and points. -/
theorem finish_addAll_mixed :
    (empty.addAll [⟨42, [.exact "name" "wiki", .numeric "order" 7, .text "name" "Wiki wiki",
        .text "name" "old"]⟩, ⟨-1, []⟩, ⟨7, [.numeric "order" 3]⟩]).1.map (·.toNat) = [0, 1, 2] ∧
      ∃ index ∈ (empty.addAll [⟨42, [.exact "name" "wiki", .numeric "order" 7,
          .text "name" "Wiki wiki", .text "name" "old"]⟩, ⟨-1, []⟩,
          ⟨7, [.numeric "order" 3]⟩]).2.finish.field? "name",
        index.Describes [[.exact "name" "wiki", .text "name" "Wiki wiki", .text "name" "old"],
          [], []] := by
  have htokens : ∀ d ∈ [(⟨42, [.exact "name" "wiki", .numeric "order" 7,
      .text "name" "Wiki wiki", .text "name" "old"]⟩ : Document), ⟨-1, []⟩,
      ⟨7, [.numeric "order" 3]⟩], (textTerms d.fields).length < 2 ^ 32 := by decide +kernel
  obtain ⟨hordinals, -, -, hfields⟩ := finish_addAll _ (by decide) fun d hd name =>
    Nat.lt_of_le_of_lt (length_textTerms_fieldsNamed_le d name) (htokens d hd)
  obtain ⟨hsome, hdescribes⟩ := hfields "name"
  obtain ⟨index, hindex⟩ := Option.isSome_iff_exists.mp
    (hsome.mpr ⟨_, List.mem_cons_self, by decide⟩)
  exact ⟨hordinals, index, hindex, hdescribes index hindex⟩

variable {documents : List Document} {c : Query.Clause} {limit : Nat}

/-- A document and the ordinal that it gets. -/
theorem mem_zip_ordinals (hn : documents.length ≤ 2 ^ 32) {doc : Ordinal} {d : Document} :
    (doc, d) ∈ (empty.addAll documents).1.zip documents ↔ documents[doc.toNat]? = some d := by
  have hword {i : Nat} (hi : i < documents.length) : i.toUInt32.toNat = i :=
    UInt32.toNat_ofNat_of_lt' (Nat.lt_of_lt_of_le hi hn)
  rw [ordinals_addAll hn, List.mem_iff_getElem?]
  simp only [List.getElem?_zip_eq_some, List.getElem?_map, Option.map_eq_some_iff]
  constructor
  · rintro ⟨i, ⟨k, hk, rfl⟩, hd⟩
    obtain ⟨hi, rfl⟩ := List.getElem?_eq_some_iff.mp hk
    rw [List.getElem_range, hword (by rwa [List.length_range] at hi), hd]
  · intro hd
    obtain ⟨hi, -⟩ := List.getElem?_eq_some_iff.mp hd
    exact ⟨doc.toNat, ⟨doc.toNat, List.getElem?_range hi, UInt32.ofNat_toNat⟩, hd⟩

/-- **Search.** On the index that a builder finishes, a clause whose patterns compile is evaluated to
the ordinals that the builder has given to the documents that satisfy it, each of them once. -/
theorem evaluate_finish_addAll (fits : FitsWords documents c) (h : c.PatternsCompile)
    (hlimit : documents.length ≤ limit) :
    ∃ hits, (empty.addAll documents).2.finish.evaluate c limit = .ok hits ∧
      (hits.map (·.doc)).Nodup ∧
      ∀ doc, doc ∈ hits.map (·.doc) ↔
        ∃ d, (doc, d) ∈ (empty.addAll documents).1.zip documents ∧ d.Satisfies c := by
  obtain ⟨hits, he⟩ := Index.exists_evaluate (.ofDocuments documents) h limit
  rw [finish_addAll_eq fits.ordinals fun d hd name => tokenCount_eq ▸ fits.tokens d hd name]
  refine ⟨hits, he, Index.nodup_evaluate he, fun doc => ?_⟩
  rw [Index.mem_evaluate_iff h hlimit he, Index.finds_ofDocuments fits h]
  simp only [mem_zip_ordinals fits.ordinals, List.getElem?_eq_some_iff]
  constructor
  · rintro ⟨hi, hs⟩
    exact ⟨_, ⟨hi, rfl⟩, hs⟩
  · rintro ⟨d, ⟨hi, rfl⟩, hs⟩
    exact ⟨hi, hs⟩

end Builder

end RegistrySearch
