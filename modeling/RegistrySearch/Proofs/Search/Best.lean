import RegistrySearch.Proofs.Numeral.TotalOrder
import RegistrySearch.Proofs.Search.Ranking
import RegistrySearch.Search.Evaluation

/-!
# The best hits

No two different hits are of one place in the order of hits, so hits have one order only, and a
limit cuts it off (`Ranks`). In whatever order the hits come the same ones are kept (`rank_congr`),
and a higher limit only adds to them.
-/

namespace RegistrySearch

open Numeral (Binary64)

namespace Hit

variable {a b c : Hit}

/-- A hit comes first by its higher score, and among those of one score by its lower ordinal. -/
theorem compare_eq_lt_iff :
    a.compare b = .lt ↔ b.score.Below a.score ∨ a.score = b.score ∧ a.doc < b.doc := by
  rw [Hit.compare, Ordering.then_eq_lt, Int.compare_eq_lt, Int.compare_eq_eq, Nat.compare_eq_lt,
    Binary64.below_iff, UInt32.lt_iff_toNat_lt, Binary64.orderKey_injective.eq_iff, eq_comm]

/-- Hits of one place are equal. -/
theorem compare_eq_eq_iff : a.compare b = .eq ↔ a = b := by
  rw [Hit.compare, Ordering.then_eq_eq, Int.compare_eq_eq, Nat.compare_eq_eq,
    Binary64.orderKey_injective.eq_iff, UInt32.toNat_inj, eq_comm, and_comm, ← Hit.mk.injEq]

theorem compare_swap (a b : Hit) : b.compare a = (a.compare b).swap := by
  rw [Hit.compare, Hit.compare, Ordering.swap_then, Int.compare_swap, Nat.compare_swap]

theorem precedes_iff_compare : a.precedes b ↔ a.compare b ≠ .gt := by
  rw [precedes, decide_eq_true_iff]

/-- Hits that may stand in front of each other are equal. -/
theorem eq_of_precedes (hab : a.precedes b) (hba : b.precedes a) : a = b := by
  rw [precedes_iff_compare] at hab hba
  rw [compare_swap] at hba
  rw [← compare_eq_eq_iff]
  cases hcompare : a.compare b with
  | eq => rfl
  | lt => rw [hcompare] at hba; exact absurd rfl hba
  | gt => exact absurd hcompare hab

end Hit

/-! ### Ranking -/

/-- Of all hits the best ones, up to a limit, and those that are left out: together they are the hits
in their order. -/
structure Ranks (hits best rest : List Hit) (limit : Nat) : Prop where
  perm : (best ++ rest).Perm hits
  sorted : (best ++ rest).Pairwise fun a b => a.compare b ≠ .gt
  length_eq : best.length = min limit hits.length

section ranking

variable {hits hits' best best' rest rest' : List Hit} {limit : Nat}

theorem ranks_rank (hits : List Hit) (limit : Nat) :
    Ranks hits (rank hits limit) ((sortBy Hit.precedes hits).drop limit) limit where
  perm := by
    rw [rank, List.take_append_drop]
    exact sortBy_perm _ _
  sorted := by
    rw [rank, List.take_append_drop]
    exact (pairwise_precedes_sortBy hits).imp Hit.precedes_iff_compare.mp
  length_eq := by rw [rank, List.length_take, (sortBy_perm _ _).length_eq]

/-- The best hits do not depend on the order in which the hits come. -/
theorem Ranks.eq (h : Ranks hits best rest limit) (h' : Ranks hits' best' rest' limit)
    (hperm : hits.Perm hits') : best = best' := by
  have hsorted : best ++ rest = best' ++ rest' := by
    refine List.Perm.eq_of_pairwise (fun a b _ _ hab hba => ?_) h.sorted h'.sorted
      (h.perm.trans (hperm.trans h'.perm.symm))
    exact Hit.eq_of_precedes (Hit.precedes_iff_compare.mpr hab) (Hit.precedes_iff_compare.mpr hba)
  refine (List.append_inj hsorted ?_).1
  rw [h.length_eq, h'.length_eq, hperm.length_eq]

/-- The best hits are those that are kept. -/
theorem ranks_iff : (∃ rest, Ranks hits best rest limit) ↔ rank hits limit = best := by
  constructor
  · rintro ⟨rest, h⟩
    exact (ranks_rank hits limit).eq h (.refl hits)
  · rintro rfl
    exact ⟨_, ranks_rank hits limit⟩

theorem rank_congr (h : hits.Perm hits') : rank hits limit = rank hits' limit :=
  (ranks_rank hits limit).eq (ranks_rank hits' limit) h

/-- A hit that is left out is not better than one that is kept. -/
theorem Ranks.not_lt (h : Ranks hits best rest limit) {kept dropped : Hit} (hkept : kept ∈ best)
    (hdropped : dropped ∈ rest) : dropped.compare kept ≠ .lt := by
  have hle := (List.pairwise_append.mp h.sorted).2.2 kept hkept dropped hdropped
  rw [Hit.compare_swap]
  intro hlt
  exact hle (Ordering.swap_inj.mp hlt)

theorem rank_eq_take {k m : Nat} (h : k ≤ m) (hits : List Hit) :
    rank hits k = (rank hits m).take k := by
  rw [rank, rank, List.take_take, Nat.min_eq_left h]

/-- A lower limit keeps the first of the hits. -/
theorem Index.evaluate_eq_take {k m : Nat} (h : k ≤ m) (index : Index) (clause : Query.Clause) :
    index.evaluate clause k = (index.evaluate clause m).map (List.take k) := by
  rw [evaluate, evaluate]
  cases index.scores clause with
  | error e => rfl
  | ok scores => exact congrArg Except.ok (rank_eq_take h _)

end ranking

/-- **Ranking.** Hits stand in a total order, by descending score and then by ascending ordinal, in
which no two hits are of one place. The best hits are the first ones in this order, whatever the order
in which they come; none that is left out is better than one that is kept; and evaluation with a lower
limit gives the first of the hits that it gives with a higher one. -/
theorem ranking_laws (a b c : Hit) (hits hits' : List Hit) (index : Index) (clause : Query.Clause)
    (k m : Nat) :
    ((a.compare b = .lt ↔ b.score.Below a.score ∨ a.score = b.score ∧ a.doc < b.doc) ∧
      (a.compare b = .eq ↔ a = b) ∧ b.compare a = (a.compare b).swap ∧
      (a.compare b ≠ .gt → b.compare c ≠ .gt → a.compare c ≠ .gt)) ∧
    (∃ rest, Ranks hits (rank hits k) rest k ∧
      ∀ kept ∈ rank hits k, ∀ dropped ∈ rest, dropped.compare kept ≠ .lt) ∧
    (∀ best rest, Ranks hits best rest k → rank hits k = best) ∧
    (hits.Perm hits' → rank hits k = rank hits' k) ∧
    (k ≤ m → index.evaluate clause k = (index.evaluate clause m).map (List.take k)) := by
  refine ⟨⟨Hit.compare_eq_lt_iff, Hit.compare_eq_eq_iff, Hit.compare_swap a b, ?_⟩, ?_, ?_, ?_, ?_⟩
  · simp only [← Hit.precedes_iff_compare]
    exact Hit.precedes_trans a b c
  · exact ⟨_, ranks_rank hits k, fun kept hkept dropped => (ranks_rank hits k).not_lt hkept⟩
  · exact fun best rest h => ranks_iff.mp ⟨rest, h⟩
  · exact rank_congr
  · exact fun h => Index.evaluate_eq_take h index clause

/-- A number between two undefined scores of different signs. -/
theorem ranking_laws_undefined :
    (⟨2, ⟨0x7FF8000000000000⟩⟩ : Hit).compare ⟨0, ⟨0x8000000000000000⟩⟩ ≠ .gt ∧
      (⟨0, ⟨0x8000000000000000⟩⟩ : Hit).compare ⟨1, ⟨0xFFF8000000000000⟩⟩ ≠ .gt ∧
      (⟨2, ⟨0x7FF8000000000000⟩⟩ : Hit).compare ⟨1, ⟨0xFFF8000000000000⟩⟩ ≠ .gt ∧
      rank [⟨1, ⟨0xFFF8000000000000⟩⟩, ⟨2, ⟨0x7FF8000000000000⟩⟩] 1 =
        rank [⟨2, ⟨0x7FF8000000000000⟩⟩, ⟨1, ⟨0xFFF8000000000000⟩⟩] 1 ∧
      (⟨#[7], .empty⟩ : Index).evaluate (.term "name" "portal") 1 =
        ((⟨#[7], .empty⟩ : Index).evaluate (.term "name" "portal") 2).map (List.take 1) := by
  obtain ⟨⟨-, -, -, htrans⟩, -, -, hperm, hlimit⟩ :=
    ranking_laws ⟨2, ⟨0x7FF8000000000000⟩⟩ ⟨0, ⟨0x8000000000000000⟩⟩ ⟨1, ⟨0xFFF8000000000000⟩⟩
      [⟨1, ⟨0xFFF8000000000000⟩⟩, ⟨2, ⟨0x7FF8000000000000⟩⟩]
      [⟨2, ⟨0x7FF8000000000000⟩⟩, ⟨1, ⟨0xFFF8000000000000⟩⟩] ⟨#[7], .empty⟩
      (.term "name" "portal") 1 2
  have hab : (⟨2, ⟨0x7FF8000000000000⟩⟩ : Hit).compare ⟨0, ⟨0x8000000000000000⟩⟩ ≠ .gt := by decide
  have hbc : (⟨0, ⟨0x8000000000000000⟩⟩ : Hit).compare ⟨1, ⟨0xFFF8000000000000⟩⟩ ≠ .gt := by decide
  exact ⟨hab, hbc, htrans hab hbc, hperm (.swap _ _ _), hlimit (by decide)⟩

end RegistrySearch
