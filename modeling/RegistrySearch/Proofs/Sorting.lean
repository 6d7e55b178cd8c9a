import Mathlib.Tactic.Basic
import RegistrySearch.Sorting

/-!
# Stability of sorting

A class of elements that are all related to each other keeps its order. The class is given by a
predicate, so that the elements of one key can be read off before or after sorting
(`filter_sortBy`).
-/

namespace RegistrySearch

variable {α : Type} {le : α → α → Bool}

theorem mem_sortBy {xs : List α} {x : α} : x ∈ sortBy le xs ↔ x ∈ xs :=
  (sortBy_perm le xs).mem_iff

section stability

variable {p : α → Bool} (trans : ∀ a b c, le a b → le b c → le a c)
  (related : ∀ a b, p a → p b → le a b)

include trans related in
/-- Of two ascending runs the elements of the class stand in the order of the runs. -/
private theorem filter_merge {xs : List α} (hx : xs.Pairwise fun a b => le a b) (ys : List α) :
    (merge le xs ys).filter p = xs.filter p ++ ys.filter p := by
  induction xs generalizing ys with
  | nil => rfl
  | cons x xs ih =>
    have hx' := List.pairwise_cons.mp hx
    rw [merge]
    induction ys with
    | nil =>
      rw [mergeInto, List.filter_cons, ih hx'.2, List.filter_cons]
      cases p x <;> rfl
    | cons y ys ihy =>
      rw [mergeInto]
      split
      · rw [List.filter_cons, ih hx'.2, List.filter_cons (x := x)]
        cases p x <;> rfl
      · next hxy =>
        rw [List.filter_cons, ihy, List.filter_cons (x := y)]
        split
        · next hy =>
          -- an element of the class in front of `y` would have to be taken before `y`
          have hnone : (x :: xs).filter p = [] := by
            refine List.filter_eq_nil_iff.mpr fun z hz hpz => hxy ?_
            rcases List.mem_cons.mp hz with rfl | hz
            · exact related z y hpz hy
            · exact trans x z y (hx'.1 z hz) (related z y hpz hy)
          rw [hnone, List.nil_append, List.nil_append]
        · rfl

include trans related in
private theorem filter_mergePairs {runs : List (List α)}
    (h : ∀ run ∈ runs, run.Pairwise fun a b => le a b) :
    (mergePairs le runs).flatten.filter p = runs.flatten.filter p := by
  induction runs using mergePairs.induct with
  | case1 => rfl
  | case2 => rfl
  | case3 first second rest ih =>
    have hrest := ih fun run hr => h run (List.mem_cons_of_mem _ (List.mem_cons_of_mem _ hr))
    have hfirst := h first List.mem_cons_self
    simp only [mergePairs, List.flatten_cons, List.filter_append, hrest,
      filter_merge trans related hfirst second, List.append_assoc]

variable (total : ∀ a b, le a b ∨ le b a)

include trans related total in
private theorem filter_mergeAll {rounds : Nat} {runs : List (List α)}
    (h : ∀ run ∈ runs, run.Pairwise fun a b => le a b) :
    (mergeAll le rounds runs).filter p = runs.flatten.filter p := by
  fun_induction mergeAll le rounds runs with
  | case1 runs =>
    -- no rounds are left, so the runs are merged one after the other
    induction runs with
    | nil => rfl
    | cons run runs ih =>
      rw [List.foldr_cons, filter_merge trans related (h run List.mem_cons_self),
        ih fun r hr => h r (List.mem_cons_of_mem _ hr), List.flatten_cons, List.filter_append]
  | case2 => rfl
  | case3 _ run => simp
  | case4 rounds runs _ _ ih =>
    rw [ih (pairwise_mergePairs trans total h), filter_mergePairs trans related h]

include trans related total in
/-- **Stability.** Elements that are all related to each other keep their order. -/
theorem filter_sortBy (xs : List α) : (sortBy le xs).filter p = xs.filter p := by
  have hruns : ∀ run ∈ xs.map fun x => [x], run.Pairwise fun a b => le a b := by
    intro run hr
    obtain ⟨x, _, rfl⟩ := List.mem_map.mp hr
    exact List.pairwise_singleton _ _
  rw [sortBy, filter_mergeAll trans related total hruns, ← List.flatMap_def,
    List.flatMap_singleton']

end stability

end RegistrySearch
