import RegistrySearch.Proofs.Index.Statistics

/-!
# Documents added one at a time

A builder takes up documents field by field and compares an occurrence with the last posting of its
term alone. What it has gathered at any time, in the middle of a document or between two, is
determined by the columns of what it has seen: the occurrences of a term grouped by document, the
points in their order, and the lengths as far as there was need for them.

`FieldIndex.Gathers` says this of one field and one column, `Builder.Gathers` of all fields and a
list of documents. One occurrence, one field and one document more each keep it, so it holds after
any number of documents, and the index that is finished then is that of the columns:
`Builder.finish_addAll_eq` takes the steps of the builder for `Index.ofDocuments`.
-/

namespace RegistrySearch

open Text (tokenize)

/-! ### Words -/

theorem size_resized {n : Nat} {words : Array UInt32} : (resized n words).size = n := by
  simp only [resized, Array.size_append, Array.size_extract, Array.size_replicate]
  omega

/-- Zeros at the end are like words that are missing. -/
theorem getD_resized {n : Nat} {words : Array UInt32} (h : words.size ≤ n) (i : Nat) :
    (resized n words).getD i 0 = words.getD i 0 := by
  simp only [resized, Array.getD_eq_getD_getElem?, Array.getElem?_append, Array.size_extract,
    Array.getElem?_replicate, Array.getElem?_extract]
  grind

theorem getD_reaching {doc : Ordinal} {words : Array UInt32} (i : Nat) :
    (reaching doc words).getD i 0 = words.getD i 0 := by
  rw [reaching]
  split
  · next h => exact getD_resized (Nat.le_succ_of_le h) i
  · rfl

theorem size_reaching {doc : Ordinal} {words : Array UInt32} (h : words.size ≤ doc.toNat + 1) :
    (reaching doc words).size = doc.toNat + 1 := by
  rw [reaching]
  split
  · exact size_resized
  · omega

theorem getD_setIfInBounds {words : Array UInt32} {i : Nat} (hi : i < words.size) (word : UInt32)
    (j : Nat) : (words.setIfInBounds i word).getD j 0 = if j = i then word else words.getD j 0 := by
  rw [Array.getD_eq_getD_getElem?, Array.getElem?_setIfInBounds, Array.getD_eq_getD_getElem?]
  by_cases hj : j = i
  · rw [if_pos hj.symm, if_pos hj, if_pos (hj ▸ hi), Option.getD_some]
  · rw [if_neg (Ne.symm hj), if_neg hj]

/-- The sum of words as words of 64 bits. -/
theorem sum_map_toUInt64 {ns : List Nat} (h : ∀ n ∈ ns, n < 2 ^ 32) :
    ((ns.map Nat.toUInt32).map UInt32.toUInt64).sum = ns.sum.toUInt64 := by
  induction ns with
  | nil => rfl
  | cons n ns ih =>
    have hn : n.toUInt32.toUInt64 = n.toUInt64 := by
      rw [← UInt64.toNat_inj, UInt32.toNat_toUInt64,
        UInt32.toNat_ofNat_of_lt' (h n List.mem_cons_self)]
      exact (UInt64.toNat_ofNat_of_lt' (Nat.lt_trans (h n List.mem_cons_self) (by decide))).symm
    have hsum : (n + ns.sum).toUInt64 = n.toUInt64 + ns.sum.toUInt64 := UInt64.ofNat_add ..
    rw [List.map_cons, List.map_cons, List.sum_cons, List.sum_cons,
      ih fun m hm => h m (List.mem_cons_of_mem _ hm), hn, hsum]

theorem length_filter_map_toUInt32 {ns : List Nat} (h : ∀ n ∈ ns, n < 2 ^ 32) :
    ((ns.map Nat.toUInt32).filter (· ≠ 0)).length = (ns.filter (· ≠ 0)).length := by
  rw [List.filter_map, List.length_map]
  refine congrArg List.length (List.filter_congr fun n hn => ?_)
  have hzero : n.toUInt32 = 0 ↔ n = 0 := toUInt32_inj (h n hn) (by decide)
  simp [hzero]

/-! ### The fields of a document -/

theorem tokenCount_append {xs ys : List Field} :
    tokenCount (xs ++ ys) = tokenCount xs + tokenCount ys := by
  rw [tokenCount, List.map_append, List.sum_append_nat, tokenCount, tokenCount]

theorem pointsOf_append {xs ys : List Field} : pointsOf (xs ++ ys) = pointsOf xs ++ pointsOf ys :=
  List.filterMap_append

/-- The terms of later fields stand behind all tokens of the earlier ones. -/
theorem occurrencesFrom_append {start : Nat} {xs ys : List Field} :
    occurrencesFrom start (xs ++ ys) =
      occurrencesFrom start xs ++ occurrencesFrom (start + tokenCount xs) ys := by
  induction xs generalizing start with
  | nil => rfl
  | cons f xs ih =>
    have hcount : tokenCount (f :: xs) =
        (if f.kind = .text then (tokenize f.value).length else 0) + tokenCount xs := by
      rw [tokenCount, List.map_cons, List.sum_cons, tokenCount]
    rw [List.cons_append, occurrencesFrom, occurrencesFrom, hcount]
    cases hk : f.kind with
    | exact => simp [ih]
    | text => simp [ih, Nat.add_assoc]
    | numeric => simp [ih]

/-! ### Postings -/

namespace PostingList

/-- The postings of a term for the documents and positions at which it occurs, before they are
finished. -/
def gathered (occurrences : List (Nat × Nat)) : PostingList :=
  ⟨((Dictionary.group occurrences).entries.map fun (doc, positions) =>
    ⟨doc.toUInt32, (positions.map Nat.toUInt32).toArray⟩).toArray, 0⟩

variable {occurrences : List (Nat × Nat)}

theorem finish_gathered : (gathered occurrences).finish = ofOccurrences occurrences := by
  simp [finish, gathered, ofOccurrences, Posting.finish, Posting.ofPositions, Function.comp_def]

/-- **One occurrence.** Among occurrences of which none is in a later document, it is enough to look
at the last posting. -/
theorem addPosition_gathered {doc : Nat} (hle : ∀ e ∈ occurrences, e.1 ≤ doc)
    (hdoc : doc < 2 ^ 32) (position : Nat) :
    (gathered occurrences).addPosition doc.toUInt32 position.toUInt32 =
      gathered (occurrences ++ [(doc, position)]) := by
  have hkeys : ∀ key, key ∈ (Dictionary.group occurrences).keys ↔ ∃ j, (key, j) ∈ occurrences :=
    fun key => Dictionary.mem_keys_group
  obtain hnil | ⟨front, ⟨doc', positions⟩, hlast⟩ :=
    List.eq_nil_or_concat' (Dictionary.group occurrences).entries
  · -- nothing has occurred so far
    have hnone : occurrences = [] := by
      refine List.eq_nil_iff_forall_not_mem.mpr fun e he => ?_
      have hkey := (hkeys e.1).mpr ⟨e.2, he⟩
      rw [Dictionary.keys, hnil] at hkey
      cases hkey
    subst hnone
    rfl
  · have hsplit : (Dictionary.group occurrences).keys = front.map (·.1) ++ [doc'] := by
      rw [Dictionary.keys, hlast, List.map_append, List.map_singleton]
    obtain ⟨j, hj⟩ := (hkeys doc').mp (hsplit ▸ List.mem_append_right _ (List.mem_singleton_self _))
    have hdoc' : doc' ≤ doc := hle _ hj
    by_cases hsame : doc' = doc
    · subst hsame
      simp [addPosition, gathered, hlast, Dictionary.entries_group_append_last position hlast]
    · -- the last document is an earlier one, and so are all others
      have hlt : ∀ e ∈ occurrences, e.1 < doc := by
        intro e he
        have hkey := (hkeys e.1).mpr ⟨e.2, he⟩
        have hascending := (Dictionary.group occurrences).ascending
        rw [hlast, List.pairwise_append] at hascending
        rw [hsplit, List.mem_append, List.mem_map, List.mem_singleton] at hkey
        obtain ⟨x, hx, he'⟩ | he' := hkey
        · have := hascending.2.2 x hx _ (List.mem_singleton_self _)
          omega
        · omega
      have hword : doc'.toUInt32 ≠ doc.toUInt32 :=
        mt (toUInt32_inj (Nat.lt_of_le_of_lt hdoc' hdoc) hdoc).mp hsame
      simp [addPosition, gathered, hlast, hword,
        Dictionary.entries_group_append_new position hlt]

end PostingList

/-! ### Fields -/

namespace FieldIndex

/-- An index of a field holds what a column says, before it is finished. -/
structure Gathers (index : FieldIndex) (column : List (List Field)) : Prop where
  terms : index.terms = (Dictionary.group (columnOccurrences column)).map PostingList.gathered
  points : index.points.toList = columnPoints column
  size_le : index.lengths.size ≤ column.length
  /-- Lengths that are missing are zero. -/
  length : ∀ i, index.lengths.getD i 0 = (tokenCount (column[i]?.getD [])).toUInt32

section column

variable {prior : List (List Field)} {fields : List Field} {index : FieldIndex}

private theorem columnOccurrences_concat :
    columnOccurrences (prior ++ [fields]) = columnOccurrences prior ++
      (occurrencesFrom 0 fields).map fun (term, position) => (term, prior.length, position) := by
  simp [columnOccurrences, List.zipIdx_append]

private theorem columnPoints_concat :
    columnPoints (prior ++ [fields]) = columnPoints prior ++
      (pointsOf fields).map fun point => (point, prior.length.toUInt32) := by
  simp [columnPoints, List.zipIdx_append]

private theorem lt_length_of_mem_columnOccurrences {column : List (List Field)}
    {e : String × Nat × Nat} (he : e ∈ columnOccurrences column) : e.2.1 < column.length := by
  obtain ⟨term, i, j⟩ := e
  obtain ⟨fields, hi, -⟩ := mem_columnOccurrences.mp (mem_valuesAt.mpr he)
  exact (List.getElem?_eq_some_iff.mp hi).1

private theorem tokenCount_concat (i : Nat) :
    tokenCount (((prior ++ [fields])[i]?).getD []) =
      if i = prior.length then tokenCount fields else tokenCount (prior[i]?.getD []) := by
  rw [List.getElem?_append]
  by_cases hi : i = prior.length
  · simp [hi]
  · by_cases hlt : i < prior.length
    · simp [hlt, hi]
    · have hge : prior.length + 1 ≤ i := by omega
      have hrest : [fields].length ≤ i - prior.length := Nat.le_sub_of_add_le' hge
      simp [hi, hlt, List.getElem?_eq_none hrest]

theorem gathers_empty : empty.Gathers [] where
  terms := rfl
  points := rfl
  size_le := Nat.le_refl _
  length _ := rfl

/-- A document without the field changes nothing. -/
theorem Gathers.append_nil (h : index.Gathers prior) : index.Gathers (prior ++ [[]]) where
  terms := by
    rw [h.terms, columnOccurrences_concat]
    exact congrArg _ (congrArg _ (List.append_nil _).symm)
  points := by
    rw [h.points, columnPoints_concat]
    exact (List.append_nil _).symm
  size_le := by
    rw [List.length_append]
    exact Nat.le_add_right_of_le h.size_le
  length i := by
    rw [h.length, tokenCount_concat]
    split
    · next hi => subst hi; simp
    · rfl

/-- One more occurrence of a term, in the document that is being added. -/
private theorem addPosition_eq {occurrences : List (String × Nat × Nat)} {doc : Nat}
    (hterms : index.terms = (Dictionary.group occurrences).map PostingList.gathered)
    (hle : ∀ e ∈ occurrences, e.2.1 ≤ doc) (hdoc : doc < 2 ^ 32) (term : String) (position : Nat) :
    index.addPosition doc.toUInt32 term position.toUInt32 = { index with
      terms := (Dictionary.group (occurrences ++ [(term, doc, position)])).map
        PostingList.gathered } := by
  rw [addPosition, FieldIndex.mk.injEq]
  refine ⟨Dictionary.ext_get? fun key => ?_, rfl, rfl, rfl, rfl⟩
  rw [Dictionary.get?_update, hterms, Dictionary.get?_map, Dictionary.get?_map,
    Dictionary.get?_map, Dictionary.get?_group, Dictionary.get?_group, Dictionary.get?_group,
    valuesAt_append, valuesAt_cons]
  by_cases hk : term = key
  · subst hk
    have hat : ∀ e ∈ valuesAt term occurrences, e.1 ≤ doc := fun e he =>
      hle (term, e) (mem_valuesAt.mp he)
    have hadd := PostingList.addPosition_gathered hat hdoc position
    by_cases hnil : valuesAt term occurrences = []
    · have hempty : PostingList.gathered [] = ⟨#[], 0⟩ := rfl
      rw [hnil, hempty, List.nil_append] at hadd
      simpa [hnil] using hadd
    · simp [hnil, hadd]
  · simp [hk]

/-- Any number of occurrences more, in the document that is being added. -/
private theorem foldl_addPosition_eq {occurrences : List (String × Nat × Nat)} {doc : Nat}
    (hterms : index.terms = (Dictionary.group occurrences).map PostingList.gathered)
    (hle : ∀ e ∈ occurrences, e.2.1 ≤ doc) (hdoc : doc < 2 ^ 32) (start : Nat)
    (tokens : List Text.Token) :
    tokens.foldl (fun index t => index.addPosition doc.toUInt32 t.term
        (start.toUInt32 + t.position.toUInt32)) index = { index with
      terms := (Dictionary.group (occurrences ++
        tokens.map fun t => (t.term, doc, start + t.position))).map PostingList.gathered } := by
  induction tokens generalizing index occurrences with
  | nil =>
    rw [List.map_nil, List.append_nil, ← hterms]
    rfl
  | cons t tokens ih =>
    have hsum : start.toUInt32 + t.position.toUInt32 = (start + t.position).toUInt32 :=
      (UInt32.ofNat_add ..).symm
    have hle' : ∀ e ∈ occurrences ++ [(t.term, doc, start + t.position)], e.2.1 ≤ doc := by
      intro e he
      obtain he | he := List.mem_append.mp he
      · exact hle e he
      · exact Nat.le_of_eq (congrArg (·.2.1) (List.mem_singleton.mp he))
    rw [List.foldl_cons, hsum, addPosition_eq hterms hle hdoc, ih rfl hle', List.map_cons,
      List.append_assoc, List.singleton_append]

/-- What a field more has to add: its terms, its points and the number of its tokens. -/
private theorem Gathers.concat (h : index.Gathers (prior ++ [fields])) {index' : FieldIndex}
    {f : Field}
    (hterms : index'.terms = (Dictionary.group (columnOccurrences (prior ++ [fields]) ++
      (occurrencesFrom (tokenCount fields) [f]).map fun (term, position) =>
        (term, prior.length, position))).map PostingList.gathered)
    (hpoints : index'.points.toList = index.points.toList ++
      (pointsOf [f]).map fun point => (point, prior.length.toUInt32))
    (hsize : index'.lengths.size ≤ prior.length + 1)
    (hlength : ∀ i, index'.lengths.getD i 0 =
      if i = prior.length then (tokenCount fields + tokenCount [f]).toUInt32
      else index.lengths.getD i 0) : index'.Gathers (prior ++ [fields ++ [f]]) where
  terms := by
    rw [hterms, columnOccurrences_concat, columnOccurrences_concat, occurrencesFrom_append,
      List.map_append, List.append_assoc, Nat.zero_add]
  points := by
    rw [hpoints, h.points, columnPoints_concat, columnPoints_concat, pointsOf_append,
      List.map_append, List.append_assoc]
  size_le := by rwa [List.length_append, List.length_singleton]
  length i := by
    rw [hlength, h.length, tokenCount_concat, tokenCount_concat, tokenCount_append]
    split <;> rfl

/-- **One field.** The document that is being added is the last one. -/
theorem Gathers.addField (h : index.Gathers (prior ++ [fields])) (hdoc : prior.length < 2 ^ 32)
    (f : Field) :
    (index.addField prior.length.toUInt32 f).Gathers (prior ++ [fields ++ [f]]) := by
  have hle : ∀ e ∈ columnOccurrences (prior ++ [fields]), e.2.1 ≤ prior.length := by
    intro e he
    have hlt := lt_length_of_mem_columnOccurrences he
    rw [List.length_append] at hlt
    exact Nat.le_of_lt_succ hlt
  have hsize : index.lengths.size ≤ prior.length + 1 := by
    simpa using h.size_le
  have hlast : index.lengths.getD prior.length 0 = (tokenCount fields).toUInt32 := by
    rw [h.length, tokenCount_concat, if_pos rfl]
  -- a field without tokens leaves the lengths
  have hlength (hcount : tokenCount [f] = 0) (i : Nat) : index.lengths.getD i 0 =
      if i = prior.length then (tokenCount fields + tokenCount [f]).toUInt32
      else index.lengths.getD i 0 := by
    rw [hcount, Nat.add_zero, ← hlast]
    split
    · next hi => rw [hi]
    · rfl
  rw [FieldIndex.addField]
  cases hk : f.kind with
  | exact =>
    have hadd : index.addPosition prior.length.toUInt32 f.value 0 = _ :=
      addPosition_eq h.terms hle hdoc f.value 0
    rw [hadd]
    refine h.concat ?_ ?_ hsize (hlength (by simp [tokenCount, hk]))
    · simp [occurrencesFrom, hk]
    · simp [pointsOf, hk]
  | numeric =>
    have hterms : index.terms = (Dictionary.group (columnOccurrences (prior ++ [fields]) ++
        (occurrencesFrom (tokenCount fields) [f]).map fun (term, position) =>
          (term, prior.length, position))).map PostingList.gathered := by
      simpa [occurrencesFrom, hk] using h.terms
    cases hp : f.point with
    | none =>
      refine h.concat hterms ?_ hsize (hlength (by simp [tokenCount, hk]))
      simp [pointsOf, hk, hp]
    | some point =>
      refine h.concat hterms ?_ hsize (hlength (by simp [tokenCount, hk]))
      simp [pointsOf, hk, hp]
  | text =>
    have hword : prior.length.toUInt32.toNat = prior.length := UInt32.toNat_ofNat_of_lt' hdoc
    have hfull : (reaching prior.length.toUInt32 index.lengths).size = prior.length + 1 := by
      rw [size_reaching (by rwa [hword]), hword]
    have hbase : (reaching prior.length.toUInt32 index.lengths).getD prior.length 0 =
        (tokenCount fields).toUInt32 := by
      rw [getD_reaching, hlast]
    simp only [hword, hbase]
    rw [foldl_addPosition_eq h.terms hle hdoc]
    refine h.concat ?_ ?_ ?_ fun i => ?_
    · simp [occurrencesFrom, hk, Function.comp_def]
    · simp [pointsOf, hk]
    · exact Nat.le_of_eq ((Array.size_setIfInBounds ..).trans hfull)
    · have hcount : tokenCount [f] = (tokenize f.value).length := by simp [tokenCount, hk]
      have hsum : (tokenCount fields).toUInt32 + (tokenize f.value).length.toUInt32 =
          (tokenCount fields + (tokenize f.value).length).toUInt32 := (UInt32.ofNat_add ..).symm
      rw [getD_setIfInBounds (hfull ▸ Nat.lt_succ_self _), hcount, hsum, getD_reaching]

end column

/-- What has been gathered of a column is finished as the index of the column. -/
theorem Gathers.finish_eq {index : FieldIndex} {column : List (List Field)}
    (h : index.Gathers column) (htokens : ∀ fields ∈ column, tokenCount fields < 2 ^ 32) :
    index.finish column.length = ofColumn column := by
  have hlengths : (resized column.length index.lengths).toList =
      (column.map tokenCount).map Nat.toUInt32 := by
    refine List.ext_getElem (by simp [size_resized]) fun i hi hi' => ?_
    rw [Array.length_toList, size_resized] at hi
    have hget := getD_resized h.size_le i
    rw [h.length, Array.getD_eq_getD_getElem?, Array.getElem?_eq_getElem (by rwa [size_resized]),
      List.getElem?_eq_getElem hi] at hget
    rw [Array.getElem_toList, List.getElem_map, List.getElem_map]
    exact hget
  have hword : ∀ n ∈ column.map tokenCount, n < 2 ^ 32 := by
    intro n hn
    obtain ⟨fields, hf, rfl⟩ := List.mem_map.mp hn
    exact htokens fields hf
  rw [finish, ofColumn, FieldIndex.mk.injEq]
  refine ⟨?_, by rw [h.points], ?_, ?_, ?_⟩
  · refine Dictionary.ext_get? fun term => ?_
    rw [h.terms, Dictionary.get?_map, Dictionary.get?_map, Dictionary.get?_map, Option.map_map]
    exact congrArg (Option.map · _) (funext fun _ => PostingList.finish_gathered)
  · rw [← Array.toList_inj, hlengths]
  · rw [hlengths, sum_map_toUInt64 hword]
  · rw [hlengths, length_filter_map_toUInt32 hword]

end FieldIndex

/-! ### Builders -/

namespace Builder

/-- The fields of a builder hold what documents say: there is one for each name that they have, and
it holds the column of the name. -/
structure GathersFields (fields : Dictionary String FieldIndex) (documents : List Document) :
    Prop where
  isSome : ∀ name, (fields.get? name).isSome ↔ ∃ d ∈ documents, d.fieldsNamed name ≠ []
  column : ∀ name, ((fields.get? name).getD .empty).Gathers (documents.map (·.fieldsNamed name))

/-- A builder holds what documents say. -/
structure Gathers (b : Builder) (documents : List Document) : Prop where
  ids : b.ids.toList = documents.map (·.id)
  fields : GathersFields b.fields documents

theorem gathers_empty : empty.Gathers [] where
  ids := rfl
  fields := ⟨fun name => by simp [empty, Dictionary.get?], fun _ => FieldIndex.gathers_empty⟩

section fields

variable {fields : Dictionary String FieldIndex} {documents : List Document} {id : Int64}
  {done : List Field}

/-- A document of which no field has been seen. -/
theorem GathersFields.append_nil (h : GathersFields fields documents) :
    GathersFields fields (documents ++ [⟨id, []⟩]) where
  isSome name := by
    rw [h.isSome]
    simp [Document.fieldsNamed]
  column name := by
    rw [List.map_append]
    exact (h.column name).append_nil

/-- One more field of the last document. -/
theorem GathersFields.addField (h : GathersFields fields (documents ++ [⟨id, done⟩]))
    (hn : documents.length < 2 ^ 32) (f : Field) :
    GathersFields (addField documents.length.toUInt32 fields f)
      (documents ++ [⟨id, done ++ [f]⟩]) := by
  have hnamed (name : String) : Document.fieldsNamed ⟨id, done ++ [f]⟩ name =
      Document.fieldsNamed ⟨id, done⟩ name ++ if f.name = name then [f] else [] := by
    rw [Document.fieldsNamed, List.filter_append, List.filter_singleton, Bool.cond_decide]
    rfl
  refine ⟨fun name => ?_, fun name => ?_⟩
  · have hsome := h.isSome name
    simp only [List.mem_append, List.mem_singleton, or_and_right, exists_or, exists_eq_left,
      hnamed] at hsome ⊢
    rw [Builder.addField, Dictionary.get?_update]
    by_cases hname : f.name = name
    · simp [hname]
    · simpa [hname] using hsome
  · have hcolumn := h.column name
    rw [List.map_append, List.map_singleton] at hcolumn ⊢
    rw [Builder.addField, Dictionary.get?_update, hnamed]
    by_cases hname : f.name = name
    · subst hname
      have hadd := hcolumn.addField (by rwa [List.length_map]) f
      rw [List.length_map] at hadd
      rwa [if_pos rfl, if_pos rfl, Option.getD_some]
    · rwa [if_neg hname, if_neg hname, List.append_nil]

/-- All other fields of the last document. -/
theorem GathersFields.foldl_addField (h : GathersFields fields (documents ++ [⟨id, done⟩]))
    (hn : documents.length < 2 ^ 32) (rest : List Field) :
    GathersFields (rest.foldl (Builder.addField documents.length.toUInt32) fields)
      (documents ++ [⟨id, done ++ rest⟩]) := by
  induction rest generalizing fields done with
  | nil => rwa [List.append_nil]
  | cons f rest ih =>
    have hrest := ih (h.addField hn f)
    rwa [List.append_assoc, List.singleton_append] at hrest

end fields

variable {b : Builder} {documents : List Document}

theorem Gathers.docCount_eq (h : b.Gathers documents) : b.docCount = documents.length := by
  rw [docCount, ← Array.length_toList, h.ids, List.length_map]

/-- **One document.** -/
theorem Gathers.add (h : b.Gathers documents) (hn : documents.length < 2 ^ 32) (d : Document) :
    (b.add d).1 = documents.length.toUInt32 ∧ (b.add d).2.Gathers (documents ++ [d]) := by
  rw [Builder.add, h.docCount_eq]
  refine ⟨rfl, ?_, ?_⟩
  · simp [h.ids]
  · have hfirst : GathersFields b.fields (documents ++ [⟨d.id, []⟩]) := h.fields.append_nil
    exact hfirst.foldl_addField hn d.fields

/-- **Any number of documents.** They get the next ordinals. -/
theorem Gathers.addAll (h : b.Gathers documents) (more : List Document)
    (hn : documents.length + more.length ≤ 2 ^ 32) :
    (b.addAll more).1 = (List.range' documents.length more.length).map Nat.toUInt32 ∧
      (b.addAll more).2.Gathers (documents ++ more) := by
  induction more generalizing b documents with
  | nil => exact ⟨rfl, by rwa [List.append_nil]⟩
  | cons d more ih =>
    rw [List.length_cons] at hn
    obtain ⟨hdoc, hadd⟩ := h.add (by omega) d
    obtain ⟨hdocs, hall⟩ := ih hadd (by rw [List.length_append, List.length_singleton]; omega)
    rw [List.append_assoc, List.singleton_append] at hall
    refine ⟨?_, hall⟩
    rw [Builder.addAll, List.length_cons, List.range'_succ, List.map_cons, ← hdoc]
    rw [List.length_append, List.length_singleton] at hdocs
    exact congrArg _ hdocs

/-- **The end.** What has been gathered of documents is finished as their index. -/
theorem Gathers.finish_eq (h : b.Gathers documents)
    (htokens : ∀ d ∈ documents, ∀ name, tokenCount (d.fieldsNamed name) < 2 ^ 32) :
    b.finish = .ofDocuments documents := by
  rw [finish, Index.ofDocuments, Index.mk.injEq]
  refine ⟨by rw [← h.ids], ?_⟩
  refine Dictionary.ext_get? fun name => ?_
  have hname : name ∈ documents.flatMap (fun d => d.fields.map (·.name)) ↔
      (b.fields.get? name).isSome := by
    rw [h.fields.isSome]
    simp [Document.fieldsNamed]
  have hcolumn := h.fields.column name
  rw [Dictionary.get?_map, Dictionary.get?_ofKeys, h.docCount_eq]
  cases hget : b.fields.get? name with
  | none => rw [hget] at hname; simpa using hname
  | some index =>
    rw [hget] at hname hcolumn
    rw [if_pos (hname.mpr rfl), Option.map_some, ← hcolumn.finish_eq, List.length_map]
    · rfl
    · intro fields hf
      obtain ⟨d, hd, rfl⟩ := List.mem_map.mp hf
      exact htokens d hd name

/-- The documents that are added to an empty builder get the ordinals 0, 1, 2, …. -/
theorem ordinals_addAll (hn : documents.length ≤ 2 ^ 32) :
    (empty.addAll documents).1 = (List.range documents.length).map Nat.toUInt32 := by
  rw [(gathers_empty.addAll documents (by simpa using hn)).1, List.length_nil,
    List.range_eq_range']

/-- **One at a time or all at once.** The index that a builder finishes is that of the documents. -/
theorem finish_addAll_eq (hn : documents.length ≤ 2 ^ 32)
    (htokens : ∀ d ∈ documents, ∀ name, tokenCount (d.fieldsNamed name) < 2 ^ 32) :
    (empty.addAll documents).2.finish = .ofDocuments documents :=
  (gathers_empty.addAll documents (by simpa using hn)).2.finish_eq htokens

end Builder

end RegistrySearch
