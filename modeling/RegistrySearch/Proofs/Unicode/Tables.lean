import Mathlib.Data.List.Chain
import Mathlib.Data.Nat.Bitwise
import RegistrySearch.Proofs.Bisection
import RegistrySearch.Unicode.Canonical
import RegistrySearch.Unicode.Ranges

/-!
# What is in a table of code points

A table in ascending order is known by its rows: bisection finds the row of a code point. What holds
of all rows of a table is decided by evaluation. So that this stays quick for tables with thousands
of rows, a set of code points is laid out as the bits of one number, on which sets are compared at
one stroke.
-/

namespace RegistrySearch.Unicode

/-! ### Code points as bits -/

/-- The code points of a list, each as a bit of a number. -/
def bits (ns : List Nat) : Nat := ns.foldr (fun n set => 1 <<< n ||| set) 0

/-- The code points of ranges, each as a bit of a number. -/
def rangeBits (rows : List (Nat × Nat)) : Nat :=
  rows.foldr (fun row set => (1 <<< (row.2 + 1 - row.1) - 1) <<< row.1 ||| set) 0

theorem testBit_bits {ns : List Nat} {n : Nat} : (bits ns).testBit n ↔ n ∈ ns := by
  induction ns with
  | nil => simp [bits]
  | cons m ns ih =>
    rw [bits, List.foldr_cons, ← bits, Nat.testBit_or, Bool.or_eq_true, ih, Nat.one_shiftLeft,
      Nat.testBit_two_pow, decide_eq_true_eq, List.mem_cons, eq_comm]

theorem testBit_rangeBits {rows : List (Nat × Nat)} {n : Nat} :
    (rangeBits rows).testBit n ↔ ∃ row ∈ rows, row.1 ≤ n ∧ n ≤ row.2 := by
  induction rows with
  | nil => simp [rangeBits]
  | cons row rows ih =>
    rw [rangeBits, List.foldr_cons, ← rangeBits, Nat.testBit_or, Bool.or_eq_true, ih,
      List.exists_mem_cons_iff]
    refine or_congr_left ?_
    rw [Nat.testBit_shiftLeft, Nat.one_shiftLeft, Nat.testBit_two_pow_sub_one, Bool.and_eq_true,
      decide_eq_true_eq, decide_eq_true_eq]
    omega

/-- A set whose bits are all set in another is a part of it. -/
theorem testBit_of_and_eq {s t n : Nat} (h : s &&& t = s) (hs : s.testBit n) : t.testBit n := by
  rw [← h, Nat.testBit_and, Bool.and_eq_true] at hs
  exact hs.2

/-- Sets without a common bit have no common element. -/
theorem not_testBit_of_and_eq_zero {s t n : Nat} (h : s &&& t = 0) (hs : s.testBit n) :
    ¬t.testBit n := by
  intro ht
  have hand : (s &&& t).testBit n := by
    rw [Nat.testBit_and, Bool.and_eq_true]
    exact ⟨hs, ht⟩
  rw [h, Nat.zero_testBit] at hand
  cases hand

/-! ### Look-ups -/

section lookup

variable {α : Type} {first : α → Nat} {rows : List α} {n : Nat} {row : α}

/-- What bisection finds is a row. -/
theorem mem_of_getElem?_bisect {above : α → Bool}
    (h : rows.toArray[bisect above rows.toArray]? = some row) : row ∈ rows := by
  rw [List.getElem?_toArray] at h
  exact List.mem_of_getElem? h

/-- Bisection finds a row that does not begin above: a given one, or one behind it. -/
theorem exists_getElem?_bisect (asc : rows.Pairwise fun x y => first x < first y)
    (hrow : row ∈ rows) (hle : first row ≤ n) {related : α → α → Prop}
    (hrelated : rows.Pairwise related) :
    ∃ found, rows.toArray[bisect (fun r => decide (n < first r)) rows.toArray]? = some found ∧
      first found ≤ n ∧ (row = found ∨ related row found) := by
  obtain ⟨i, hi, rfl⟩ := List.mem_iff_getElem.mp hrow
  have mono : ∀ a b, (hab : a ≤ b) → (hb : b < rows.toArray.size) →
      decide (n < first rows.toArray[a]) → decide (n < first rows.toArray[b]) := by
    intro a b hab hb h
    simp only [List.getElem_toArray, decide_eq_true_eq] at *
    rcases Nat.lt_or_eq_of_le hab with hab | rfl
    · exact Nat.lt_trans h (List.pairwise_iff_getElem.mp asc a b _ hb hab)
    · exact h
  obtain ⟨hf, hfound, hbehind⟩ :=
    bisect_spec (fun r => decide (n < first r)) rows.toArray mono (Nat.zero_lt_of_lt hi)
  generalize bisect (fun r => decide (n < first r)) rows.toArray = f at *
  have hif : i ≤ f := by
    by_contra h
    have habove := hbehind i (by omega) hi
    simp only [List.getElem_toArray, decide_eq_true_eq] at habove
    omega
  have hget : rows.toArray[f]? = some (rows.get ⟨f, hf⟩) := by
    rw [List.getElem?_toArray, List.getElem?_eq_getElem hf, List.get_eq_getElem]
  refine ⟨rows.get ⟨f, hf⟩, hget, ?_, ?_⟩
  · obtain rfl | ⟨_, h⟩ := hfound
    · obtain rfl : i = 0 := Nat.le_zero.mp hif
      exact hle
    · simpa using h
  · rcases Nat.lt_or_eq_of_le hif with h | rfl
    · exact .inr (List.pairwise_iff_getElem.mp hrelated i f hi hf h)
    · exact .inl rfl

end lookup

/-- Rows of which neighbours are in order are all in order, if none ends before it begins. -/
theorem pairwise_of_isChain {α : Type} {first last : α → Nat} {rows : List α}
    (h : rows.IsChain fun x y => last x < first y) (hvalid : ∀ row ∈ rows, first row ≤ last row) :
    rows.Pairwise fun x y => last x < first y := by
  induction rows with
  | nil => exact .nil
  | cons x rows ih =>
    cases rows with
    | nil => exact List.pairwise_singleton _ _
    | cons y rows =>
      obtain ⟨hxy, hchain⟩ := List.isChain_cons_cons.mp h
      have hrest := ih hchain fun row hrow => hvalid row (List.mem_cons_of_mem x hrow)
      refine List.pairwise_cons.mpr ⟨fun z hz => ?_, hrest⟩
      rcases List.mem_cons.mp hz with rfl | hz
      · exact hxy
      · have hy := hvalid y (List.mem_cons_of_mem x List.mem_cons_self)
        exact Nat.lt_trans (Nat.lt_of_lt_of_le hxy hy) ((List.pairwise_cons.mp hrest).1 z hz)

/-- Ranges in ascending order: none is empty, and each ends before the next one begins. -/
def IsAscending (rows : List (Nat × Nat)) : Prop :=
  (∀ row ∈ rows, row.1 ≤ row.2) ∧ rows.Pairwise fun x y => x.2 < y.1

theorem contains_iff {r : Ranges} {n : Nat} :
    r.contains n ↔ ∃ row ∈ r.rows, row.1 ≤ n ∧ n ≤ row.2 := by
  simp [Ranges.contains]

/-- A look-up in ascending ranges finds what lies in them. -/
theorem contains_toTable {r : Ranges} (asc : IsAscending r.rows) (n : Nat) :
    r.toTable.contains n = r.contains n := by
  have hfirst : r.rows.Pairwise fun x y => x.1 < y.1 :=
    asc.2.imp_of_mem fun {x y} hx _ h => Nat.lt_of_le_of_lt (asc.1 x hx) h
  rw [Bool.eq_iff_iff, contains_iff]
  constructor
  · intro h
    rw [RangeTable.contains, Ranges.toTable] at h
    split at h
    · next row hrow => exact ⟨row, mem_of_getElem?_bisect hrow, by simpa using h⟩
    · cases h
  · rintro ⟨row, hrow, hle, hge⟩
    obtain ⟨found, hget, hfound, rfl | hlt⟩ := exists_getElem?_bisect hfirst hrow hle asc.2
    · rw [RangeTable.contains, Ranges.toTable, hget]
      simpa using ⟨hle, hge⟩
    · omega

/-- A look-up in a table with ascending keys finds its entries. -/
theorem entryAt?_eq_some_iff {α : Type} {table : List (Nat × α)}
    (asc : table.Pairwise fun x y => x.1 < y.1) {n : Nat} {a : α} :
    entryAt? table.toArray n = some a ↔ (n, a) ∈ table := by
  constructor
  · intro h
    rw [entryAt?] at h
    split at h
    · next key value hrow =>
      split at h
      · next hk =>
        cases h
        exact hk ▸ mem_of_getElem?_bisect hrow
      · cases h
    · cases h
  · intro h
    obtain ⟨found, hget, hfound, rfl | hlt⟩ := exists_getElem?_bisect asc h (Nat.le_refl n) asc
    · rw [entryAt?, hget]
      exact if_pos rfl
    · exact absurd hfound (Nat.not_le.mpr hlt)

end RegistrySearch.Unicode
