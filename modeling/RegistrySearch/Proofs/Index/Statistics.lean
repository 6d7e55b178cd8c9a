import Mathlib.Data.List.Nodup
import RegistrySearch.Proofs.Index.Content

/-!
# What the index of a column says of one document

The index of a column says of a document what its own fields say, wherever in the column it stands:
the positions of its terms, its points and its length. Everything else that scores depend on, how
many documents have a term and how long their texts are in the mean, is counted over the whole
column, and so does not depend on the order of the documents.
-/

namespace RegistrySearch

/-- The positions at which a term stands among fields. -/
def positionsOf (fields : List Field) (term : String) : List Nat :=
  valuesAt term (occurrencesFrom 0 fields)

theorem mem_positionsOf {fields : List Field} {term : String} {position : Nat} :
    position ∈ positionsOf fields term ↔ StandsAt fields term position := by
  rw [positionsOf, mem_valuesAt, mem_occurrencesFrom_zero]

namespace FieldIndex

variable {column column' : List (List Field)} {fields : List Field} {term : String}
  {list : PostingList} {i : Nat}

/-! ### The whole column -/

private theorem mem_valuesAt_columnOccurrences {j : Nat} :
    j ∈ valuesAt i (valuesAt term (columnOccurrences column)) ↔
      ∃ fields, column[i]? = some fields ∧ StandsAt fields term j :=
  mem_valuesAt.trans mem_columnOccurrences

/-- The documents that have a term are as many as there are postings for. -/
private theorem length_group_columnOccurrences :
    (Dictionary.group (valuesAt term (columnOccurrences column))).entries.length =
      column.countP fun fields => positionsOf fields term ≠ [] := by
  have hkeys : (Dictionary.group (valuesAt term (columnOccurrences column))).keys.Perm
      ((column.zipIdx.filter fun e => positionsOf e.1 term ≠ []).map (·.2)) := by
    refine (List.perm_ext_iff_of_nodup (Dictionary.nodup_keys _) ?_).mpr fun i => ?_
    · have hnodup : (column.zipIdx.map (·.2)).Nodup := by
        rw [List.zipIdx_map_snd]
        exact List.nodup_range'
      exact hnodup.sublist (List.filter_sublist.map _)
    · simp only [Dictionary.mem_keys_iff, Dictionary.get?_group_eq_some_iff, exists_eq_left,
        List.mem_map, List.mem_filter, Prod.exists, exists_eq_right,
        List.mk_mem_zipIdx_iff_getElem?, decide_eq_true_eq, ne_eq, List.eq_nil_iff_forall_not_mem,
        not_forall, not_not, mem_valuesAt_columnOccurrences, mem_positionsOf]
      exact exists_comm.trans (exists_congr fun _ => exists_and_left)
  have hlength := hkeys.length_eq
  rw [List.length_map, ← List.countP_eq_length_filter, Dictionary.keys, List.length_map] at hlength
  rw [hlength]
  have hfst : column.zipIdx.map (·.1) = column := List.zipIdx_map_fst 0 column
  conv_rhs => rw [← hfst, List.countP_map]
  rfl

/-- **Frequencies.** The number that is stored with a term is that of the documents that have it. -/
theorem docFreq_ofColumn (h : (ofColumn column).terms.get? term = some list) :
    list.docFreq = (column.countP fun fields => positionsOf fields term ≠ []).toUInt64 := by
  obtain ⟨-, rfl⟩ := get?_terms_ofColumn.mp h
  rw [← length_group_columnOccurrences, PostingList.ofOccurrences]

/-- A term has as many postings. -/
theorem size_postings_ofColumn (h : (ofColumn column).terms.get? term = some list) :
    list.postings.size = column.countP fun fields => positionsOf fields term ≠ [] := by
  obtain ⟨-, rfl⟩ := get?_terms_ofColumn.mp h
  rw [← length_group_columnOccurrences, PostingList.ofOccurrences, List.size_toArray,
    List.length_map]

/-- A term is stored if some document has it. -/
theorem isSome_get?_terms_ofColumn :
    ((ofColumn column).terms.get? term).isSome ↔
      ∃ fields ∈ column, positionsOf fields term ≠ [] := by
  have hsome : ((ofColumn column).terms.get? term).isSome ↔
      valuesAt term (columnOccurrences column) ≠ [] := by
    rw [Option.isSome_iff_exists]
    exact ⟨fun ⟨_, h⟩ => (get?_terms_ofColumn.mp h).1,
      fun hne => ⟨_, get?_terms_ofColumn.mpr ⟨hne, rfl⟩⟩⟩
  rw [hsome]
  constructor
  · intro hne
    obtain ⟨⟨i, j⟩, h⟩ := List.exists_mem_of_ne_nil _ hne
    obtain ⟨fields, hf, hs⟩ := mem_columnOccurrences.mp h
    exact ⟨fields, List.mem_of_getElem? hf, List.ne_nil_of_mem (mem_positionsOf.mpr hs)⟩
  · rintro ⟨fields, hf, hne⟩
    obtain ⟨i, hi⟩ := List.getElem?_of_mem hf
    obtain ⟨j, hj⟩ := List.exists_mem_of_ne_nil _ hne
    exact List.ne_nil_of_mem (mem_columnOccurrences.mpr ⟨fields, hi, mem_positionsOf.mp hj⟩)

/-- **Lengths.** The mean length of documents does not depend on their order. -/
theorem averageLength_ofColumn_congr (h : column.Perm column') :
    (ofColumn column).averageLength = (ofColumn column').averageLength := by
  have hlengths := h.map tokenCount
  have htotal : (ofColumn column).totalLength = (ofColumn column').totalLength :=
    congrArg Nat.toUInt64 hlengths.sum_nat
  have hdocs : (ofColumn column).lengthDocs = (ofColumn column').lengthDocs :=
    congrArg Nat.toUInt32 (hlengths.filter _).length_eq
  rw [averageLength, averageLength, htotal, hdocs]

/-! ### One document -/

/-- The length of a document is the number of its own tokens. -/
theorem lengthOf_ofColumn (hn : column.length ≤ 2 ^ 32) (hi : column[i]? = some fields) :
    (ofColumn column).lengthOf i.toUInt32 =
      if (tokenCount fields).toUInt32 = 0 then 1 else (tokenCount fields).toUInt32 := by
  have hlt := (List.getElem?_eq_some_iff.mp hi).1
  have hword : i.toUInt32.toNat = i := UInt32.toNat_ofNat_of_lt' (Nat.lt_of_lt_of_le hlt hn)
  have hget : (ofColumn column).lengths[i.toUInt32.toNat]? =
      some (tokenCount fields).toUInt32 := by
    rw [hword]
    simp [ofColumn, hi]
  rw [lengthOf, hget]

/-- A document has its own points. -/
theorem mem_points_ofColumn_iff (hn : column.length ≤ 2 ^ 32) (hi : column[i]? = some fields)
    {point : Int64} :
    (point, i.toUInt32) ∈ (ofColumn column).points.toList ↔ point ∈ pointsOf fields := by
  have hlt := (List.getElem?_eq_some_iff.mp hi).1
  rw [mem_points_ofColumn]
  constructor
  · rintro ⟨i', fields', hi', hp, hword⟩
    have hlt' := (List.getElem?_eq_some_iff.mp hi').1
    obtain rfl := (toUInt32_inj (by omega) (by omega)).mp hword
    rw [hi, Option.some.injEq] at hi'
    rwa [hi']
  · exact fun hp => ⟨i, fields, hi, hp, rfl⟩

/-- The posting of a document for a term has the positions at which it stands in its own fields. -/
theorem mem_postings_ofColumn_iff (hn : column.length ≤ 2 ^ 32) (hi : column[i]? = some fields)
    (hl : (ofColumn column).terms.get? term = some list) {p : Posting} :
    p ∈ list.postings.toList ∧ p.doc = i.toUInt32 ↔
      positionsOf fields term ≠ [] ∧ p = Posting.ofPositions i (positionsOf fields term) := by
  have hlt := (List.getElem?_eq_some_iff.mp hi).1
  obtain ⟨-, rfl⟩ := get?_terms_ofColumn.mp hl
  have hmem : ∀ j, j ∈ valuesAt i (valuesAt term (columnOccurrences column)) ↔
      j ∈ positionsOf fields term := by
    intro j
    simp only [mem_valuesAt_columnOccurrences, mem_positionsOf, hi,
      Option.some.injEq, exists_eq_left']
  have hnil : valuesAt i (valuesAt term (columnOccurrences column)) = [] ↔
      positionsOf fields term = [] := by
    simp only [List.eq_nil_iff_forall_not_mem, hmem]
  rw [PostingList.mem_postings_ofOccurrences, ne_eq (positionsOf fields term), ← hnil, ←
    Posting.ofPositions_congr hmem]
  constructor
  · rintro ⟨⟨i', hne, rfl⟩, hword⟩
    have hlt' : i' < column.length := by
      obtain ⟨j, hj⟩ := List.exists_mem_of_ne_nil _ hne
      obtain ⟨fields', hf, -⟩ := mem_columnOccurrences.mp (mem_valuesAt.mp hj)
      exact (List.getElem?_eq_some_iff.mp hf).1
    have hdoc : i'.toUInt32 = i.toUInt32 := hword
    obtain rfl := (toUInt32_inj (by omega) (by omega)).mp hdoc
    exact ⟨hne, rfl⟩
  · rintro ⟨hne, rfl⟩
    exact ⟨⟨i, hne, rfl⟩, rfl⟩

end FieldIndex

end RegistrySearch
