import RegistrySearch.Index.Builder
import RegistrySearch.Proofs.Dictionary
import RegistrySearch.Proofs.Search.Scan

/-!
# What the index of a column holds

A column is the fields of one name, document by document. Its index is seen here through the
occurrences of terms in documents (`FieldIndex.Occurs`): which they are, and that the arrays that
hold them stand in the order that bisection asks for (`FieldIndex.IsOrdered`). Ordinals and
positions are words, so the documents and positions of the column appear in the index by their
lowest 32 bits.
-/

namespace RegistrySearch

theorem toUInt32_lt_toUInt32 {m n : Nat} (hlt : m < n) (h : n < 2 ^ 32) :
    m.toUInt32 < n.toUInt32 := by
  rw [UInt32.lt_iff_toNat_lt, UInt32.toNat_ofNat_of_lt' h,
    UInt32.toNat_ofNat_of_lt' (Nat.lt_trans hlt h)]
  exact hlt

theorem toUInt32_eq_iff {n : Nat} {w : UInt32} (h : n < 2 ^ 32) : n.toUInt32 = w ↔ n = w.toNat := by
  rw [← UInt32.toNat_inj, UInt32.toNat_ofNat_of_lt' h]

theorem toUInt32_inj {m n : Nat} (hm : m < 2 ^ 32) (hn : n < 2 ^ 32) :
    m.toUInt32 = n.toUInt32 ↔ m = n := by
  rw [toUInt32_eq_iff hm, UInt32.toNat_ofNat_of_lt' hn]

/-! ### The order of points -/

theorem pointBefore_trans (p q r : Int64 × Ordinal) (hpq : pointBefore p q)
    (hqr : pointBefore q r) : pointBefore p r := by
  simp only [pointBefore, Bool.or_eq_true, Bool.and_eq_true, decide_eq_true_eq,
    Int64.lt_iff_toInt_lt, ← Int64.toInt_inj, UInt32.le_iff_toNat_le] at *
  omega

theorem pointBefore_total (p q : Int64 × Ordinal) : pointBefore p q ∨ pointBefore q p := by
  simp only [pointBefore, Bool.or_eq_true, Bool.and_eq_true, decide_eq_true_eq,
    Int64.lt_iff_toInt_lt, ← Int64.toInt_inj, UInt32.le_iff_toNat_le]
  omega

/-- Points of which each may stand in front of the other are the same. -/
theorem eq_of_pointBefore {p q : Int64 × Ordinal} (hpq : pointBefore p q)
    (hqp : pointBefore q p) : p = q := by
  simp only [pointBefore, Bool.or_eq_true, Bool.and_eq_true, decide_eq_true_eq,
    Int64.lt_iff_toInt_lt, ← Int64.toInt_inj, UInt32.le_iff_toNat_le] at hpq hqp
  refine Prod.ext ?_ ?_
  · rw [← Int64.toInt_inj]
    omega
  · rw [← UInt32.toNat_inj]
    omega

/-! ### Postings -/

section postings

variable {doc : Nat} {places : List Nat} {occurrences : List (Nat × Nat)}

theorem Posting.mem_positions_ofPositions {position : UInt32} :
    position ∈ (Posting.ofPositions doc places).positions.toList ↔
      ∃ j ∈ places, j.toUInt32 = position := by
  rw [Posting.ofPositions, Dictionary.mem_keys_ofKeys, List.mem_map]

theorem Posting.pairwise_positions_ofPositions :
    (Posting.ofPositions doc places).positions.toList.Pairwise (· < ·) :=
  List.pairwise_map.mpr (Dictionary.ascending _)

theorem PostingList.mem_postings_ofOccurrences {p : Posting} :
    p ∈ (PostingList.ofOccurrences occurrences).postings.toList ↔
      ∃ doc, valuesAt doc occurrences ≠ [] ∧
        p = Posting.ofPositions doc (valuesAt doc occurrences) := by
  simp only [PostingList.ofOccurrences, List.mem_map, Prod.exists,
    ← Dictionary.get?_eq_some_iff, Dictionary.get?_group_eq_some_iff]
  constructor
  · rintro ⟨doc, places, ⟨rfl, hne⟩, rfl⟩
    exact ⟨doc, hne, rfl⟩
  · rintro ⟨doc, hne, rfl⟩
    exact ⟨doc, _, ⟨rfl, hne⟩, rfl⟩

/-- Documents that are words keep their order as ordinals. -/
theorem PostingList.pairwise_postings_ofOccurrences (h : ∀ e ∈ occurrences, e.1 < 2 ^ 32) :
    (PostingList.ofOccurrences occurrences).postings.toList.Pairwise fun p q => p.doc < q.doc := by
  have hlt : ∀ e ∈ (Dictionary.group occurrences).entries, e.1 < 2 ^ 32 := by
    rintro ⟨doc, places⟩ he
    obtain ⟨rfl, hne⟩ := Dictionary.get?_group_eq_some_iff.mp (Dictionary.get?_eq_some_iff.mpr he)
    obtain ⟨j, hj⟩ := List.exists_mem_of_ne_nil _ hne
    exact h (doc, j) (mem_valuesAt.mp hj)
  refine List.pairwise_map.mpr ?_
  refine (Dictionary.group occurrences).ascending.imp_of_mem fun {x y} hx hy hxy => ?_
  exact toUInt32_lt_toUInt32 hxy (hlt y hy)

end postings

namespace FieldIndex

/-- A term occurs in a document at a position. -/
def Occurs (f : FieldIndex) (term : String) (doc : Ordinal) (position : UInt32) : Prop :=
  ∃ list, f.terms.get? term = some list ∧
    ∃ p ∈ list.postings.toList, p.doc = doc ∧ position ∈ p.positions.toList

/-- The parts of a field stand in the order that look-ups rely on, and no posting is without
positions. -/
structure IsOrdered (f : FieldIndex) : Prop where
  postings : ∀ term list, f.terms.get? term = some list →
    list.postings.toList.Pairwise fun p q => p.doc < q.doc
  positions : ∀ term list, f.terms.get? term = some list → ∀ p ∈ list.postings.toList,
    p.positions.toList.Pairwise (· < ·) ∧ p.positions.toList ≠ []
  points : f.points.toList.Pairwise fun p q => p.1 ≤ q.1

/-! ### Terms of a column -/

section column

variable {column : List (List Field)} {term : String}

theorem mem_columnOccurrences {i j : Nat} :
    (i, j) ∈ valuesAt term (columnOccurrences column) ↔
      ∃ fields, column[i]? = some fields ∧ StandsAt fields term j := by
  simp only [mem_valuesAt, columnOccurrences, List.mem_flatMap, List.mem_map, Prod.exists,
    Prod.mk.injEq, List.mk_mem_zipIdx_iff_getElem?, ← mem_occurrencesFrom_zero]
  constructor
  · rintro ⟨fields, i, h, term, j, hs, rfl, rfl, rfl⟩
    exact ⟨fields, h, hs⟩
  · rintro ⟨fields, h, hs⟩
    exact ⟨fields, i, h, term, j, hs, rfl, rfl, rfl⟩

theorem get?_terms_ofColumn {list : PostingList} :
    (ofColumn column).terms.get? term = some list ↔
      valuesAt term (columnOccurrences column) ≠ [] ∧
        list = .ofOccurrences (valuesAt term (columnOccurrences column)) := by
  simp only [ofColumn, Dictionary.get?_map, Option.map_eq_some_iff,
    Dictionary.get?_group_eq_some_iff]
  constructor
  · rintro ⟨_, ⟨rfl, hne⟩, rfl⟩
    exact ⟨hne, rfl⟩
  · rintro ⟨hne, rfl⟩
    exact ⟨_, ⟨rfl, hne⟩, rfl⟩

/-- **Occurrences.** What occurs in the index of a column stands in the column, at an ordinal and a
position of which the index holds the lowest bits. -/
theorem occurs_ofColumn {doc : Ordinal} {position : UInt32} :
    (ofColumn column).Occurs term doc position ↔
      ∃ (i j : Nat) (fields : List Field), column[i]? = some fields ∧ StandsAt fields term j ∧
        i.toUInt32 = doc ∧ j.toUInt32 = position := by
  constructor
  · rintro ⟨list, hl, p, hp, rfl, hj⟩
    obtain ⟨-, rfl⟩ := get?_terms_ofColumn.mp hl
    obtain ⟨i, -, rfl⟩ := PostingList.mem_postings_ofOccurrences.mp hp
    obtain ⟨j, hm, rfl⟩ := Posting.mem_positions_ofPositions.mp hj
    obtain ⟨fields, hf, hs⟩ := mem_columnOccurrences.mp (mem_valuesAt.mp hm)
    exact ⟨i, j, fields, hf, hs, rfl, rfl⟩
  · rintro ⟨i, j, fields, hf, hs, rfl, rfl⟩
    have hm := mem_columnOccurrences.mpr ⟨fields, hf, hs⟩
    have hj : j ∈ valuesAt i (valuesAt term (columnOccurrences column)) := mem_valuesAt.mpr hm
    refine ⟨_, get?_terms_ofColumn.mpr ⟨List.ne_nil_of_mem hm, rfl⟩, _,
      PostingList.mem_postings_ofOccurrences.mpr ⟨i, List.ne_nil_of_mem hj, rfl⟩, rfl, ?_⟩
    exact Posting.mem_positions_ofPositions.mpr ⟨j, hj, rfl⟩

/-- No posting of a column is without positions. -/
theorem positions_ofColumn {list : PostingList} (h : (ofColumn column).terms.get? term = some list)
    {p : Posting} (hp : p ∈ list.postings.toList) :
    p.positions.toList.Pairwise (· < ·) ∧ p.positions.toList ≠ [] := by
  obtain ⟨-, rfl⟩ := get?_terms_ofColumn.mp h
  obtain ⟨i, hne, rfl⟩ := PostingList.mem_postings_ofOccurrences.mp hp
  obtain ⟨j, hj⟩ := List.exists_mem_of_ne_nil _ hne
  exact ⟨Posting.pairwise_positions_ofPositions,
    List.ne_nil_of_mem (Posting.mem_positions_ofPositions.mpr ⟨j, hj, rfl⟩)⟩

/-! ### Points of a column -/

theorem mem_points_ofColumn {point : Int64} {doc : Ordinal} :
    (point, doc) ∈ (ofColumn column).points.toList ↔
      ∃ (i : Nat) (fields : List Field), column[i]? = some fields ∧ point ∈ pointsOf fields ∧
        i.toUInt32 = doc := by
  simp only [ofColumn, mem_sortBy, columnPoints, List.mem_flatMap, List.mem_map, Prod.exists,
    Prod.mk.injEq, List.mk_mem_zipIdx_iff_getElem?]
  constructor
  · rintro ⟨fields, i, h, point, hp, rfl, rfl⟩
    exact ⟨i, fields, h, hp, rfl⟩
  · rintro ⟨i, fields, h, hp, rfl⟩
    exact ⟨fields, i, h, point, hp, rfl, rfl⟩

theorem pairwise_points_ofColumn :
    (ofColumn column).points.toList.Pairwise fun p q => p.1 ≤ q.1 := by
  -- points are sorted with their ordinals, of which the order of the points is a part
  refine (pairwise_sortBy pointBefore_trans pointBefore_total (columnPoints column)).imp ?_
  intro a b h
  simp only [pointBefore, Bool.or_eq_true, Bool.and_eq_true, decide_eq_true_eq,
    Int64.lt_iff_toInt_lt, ← Int64.toInt_inj, Int64.le_iff_toInt_le] at *
  omega

/-- **Order.** If the ordinals of a column are words, its index is ordered. -/
theorem isOrdered_ofColumn (h : column.length ≤ 2 ^ 32) : (ofColumn column).IsOrdered where
  postings := by
    intro term list hl
    obtain ⟨-, rfl⟩ := get?_terms_ofColumn.mp hl
    refine PostingList.pairwise_postings_ofOccurrences fun e he => ?_
    obtain ⟨fields, hf, -⟩ := mem_columnOccurrences.mp he
    have := (List.getElem?_eq_some_iff.mp hf).1
    omega
  positions := fun _ _ hl _ hp => positions_ofColumn hl hp
  points := pairwise_points_ofColumn

end column

end FieldIndex

end RegistrySearch
