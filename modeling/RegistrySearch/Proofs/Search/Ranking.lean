import RegistrySearch.Proofs.Sorting
import RegistrySearch.Search.Ranking

/-!
# The order of hits

Hits stand in a total order: by descending score, and those of one score by ascending ordinals. No
two scores are of one place in the order of words (`Numeral.Binary64.orderKey_injective`), so scores
alone determine the order in which they come, whatever the ordinals; and the ordinals only decide
among hits of the same score.
-/

namespace RegistrySearch

theorem Numeral.Binary64.orderKey_injective : Function.Injective orderKey := by
  intro x y h
  have hx := x.bits.toNat_lt
  have hy := y.bits.toNat_lt
  have hbits : x.bits.toNat = y.bits.toNat := by
    simp only [orderKey, isNegative, magnitudeBits, decide_eq_true_eq] at h
    split at h <;> split at h <;> omega
  cases x
  cases y
  exact congrArg Binary64.mk (UInt64.toNat_inj.mp hbits)

namespace Hit

variable {a b : Hit}

/-- A hit may stand in front of one with a lower score, and of one with the same score and no lower
ordinal. -/
theorem precedes_iff :
    a.precedes b ↔ b.score.orderKey < a.score.orderKey ∨
      a.score.orderKey = b.score.orderKey ∧ a.doc ≤ b.doc := by
  rw [precedes, decide_eq_true_iff, Hit.compare, UInt32.le_iff_toNat_le]
  simp only [compareOfLessAndEq, Ord.compare, Ordering.then]
  grind

theorem precedes_trans (a b c : Hit) (hab : a.precedes b) (hbc : b.precedes c) : a.precedes c := by
  rw [precedes_iff, UInt32.le_iff_toNat_le] at *
  omega

theorem precedes_total (a b : Hit) : a.precedes b ∨ b.precedes a := by
  rw [precedes_iff, precedes_iff, UInt32.le_iff_toNat_le, UInt32.le_iff_toNat_le]
  omega

end Hit

variable {hits hits' : List Hit}

theorem pairwise_precedes_sortBy (hits : List Hit) :
    (sortBy Hit.precedes hits).Pairwise fun a b => a.precedes b :=
  pairwise_sortBy Hit.precedes_trans Hit.precedes_total hits

/-- **Scores.** The scores of ranked hits come in one order, whatever ordinals have them. -/
theorem map_score_sortBy_congr (h : (hits.map (·.score)).Perm (hits'.map (·.score))) :
    (sortBy Hit.precedes hits).map (·.score) = (sortBy Hit.precedes hits').map (·.score) := by
  have hdescending : ∀ hits : List Hit, ((sortBy Hit.precedes hits).map (·.score)).Pairwise
      fun x y => y.orderKey ≤ x.orderKey := by
    refine fun hits => List.pairwise_map.mpr ((pairwise_precedes_sortBy hits).imp fun hab => ?_)
    rw [Hit.precedes_iff] at hab
    omega
  have hperm : ∀ hits : List Hit,
      ((sortBy Hit.precedes hits).map (·.score)).Perm (hits.map (·.score)) := fun hits =>
    (sortBy_perm Hit.precedes hits).map _
  refine List.Perm.eq_of_pairwise (fun x y _ _ hxy hyx => ?_) (hdescending hits)
    (hdescending hits') ((hperm hits).trans (h.trans (hperm hits').symm))
  exact Numeral.Binary64.orderKey_injective (Int.le_antisymm hyx hxy)

/-- **Ties.** Among ranked hits of different documents those of one score have ascending
ordinals. -/
theorem pairwise_doc_sortBy (h : (hits.map (·.doc)).Nodup) :
    (sortBy Hit.precedes hits).Pairwise fun a b => a.score = b.score → a.doc < b.doc := by
  have hdocs : ((sortBy Hit.precedes hits).map (·.doc)).Nodup :=
    ((sortBy_perm Hit.precedes hits).map _).nodup_iff.mpr h
  refine ((pairwise_precedes_sortBy hits).and (List.pairwise_map.mp hdocs)).imp ?_
  rintro a b ⟨hab, hne⟩ hscore
  rw [Hit.precedes_iff, hscore] at hab
  have hle : a.doc ≤ b.doc := by simpa using hab
  exact UInt32.lt_of_le_of_ne hle hne

end RegistrySearch
