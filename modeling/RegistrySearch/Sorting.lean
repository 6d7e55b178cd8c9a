/-!
# Sorting

A stable merge sort: neighbouring runs are merged until one is left, and of equal elements those of
the earlier run come first. Both the merging of two runs and the rounds recurse on data, so a sorted
list can be computed by evaluation anywhere. It is an ascending permutation (`sortBy_perm`,
`pairwise_sortBy`).
-/

namespace RegistrySearch

variable {α : Type}

/-- Merges `x` in front of what `next` makes of the rest into an ascending list. -/
def mergeInto (le : α → α → Bool) (x : α) (next : List α → List α) : List α → List α
  | [] => x :: next []
  | y :: ys => if le x y then x :: next (y :: ys) else y :: mergeInto le x next ys

/-- Merges two ascending lists; of equal elements those of the first list come first. -/
def merge (le : α → α → Bool) : List α → List α → List α
  | [], ys => ys
  | x :: xs, ys => mergeInto le x (merge le xs) ys

/-- Merges the runs of a list in pairs. -/
def mergePairs (le : α → α → Bool) : List (List α) → List (List α)
  | [] => []
  | [run] => [run]
  | first :: second :: rest => merge le first second :: mergePairs le rest

/-- Merges runs until one is left: `rounds` rounds in pairs, then one after the other. -/
def mergeAll (le : α → α → Bool) : Nat → List (List α) → List α
  | 0, runs => runs.foldr (merge le) []
  | _ + 1, [] => []
  | _ + 1, [run] => run
  | rounds + 1, runs => mergeAll le rounds (mergePairs le runs)

/-- The elements of a list in ascending order, equal ones in the order of the list. -/
def sortBy (le : α → α → Bool) (xs : List α) : List α :=
  mergeAll le xs.length (xs.map fun x => [x])

/-! ### The sorted list is a permutation -/

theorem mergeInto_perm (le : α → α → Bool) (x : α) (next : List α → List α) (xs ys : List α)
    (h : ∀ zs, (next zs).Perm (xs ++ zs)) : (mergeInto le x next ys).Perm (x :: xs ++ ys) := by
  induction ys with
  | nil => exact (h []).cons x
  | cons y ys ih =>
    simp only [mergeInto]
    split
    · exact (h (y :: ys)).cons x
    · exact (ih.cons y).trans (List.perm_middle.symm)

theorem merge_perm (le : α → α → Bool) (xs ys : List α) :
    (merge le xs ys).Perm (xs ++ ys) := by
  induction xs generalizing ys with
  | nil => exact .refl _
  | cons x xs ih => exact mergeInto_perm le x (merge le xs) xs ys fun zs => ih zs

theorem mergePairs_perm (le : α → α → Bool) (runs : List (List α)) :
    (mergePairs le runs).flatten.Perm runs.flatten := by
  induction runs using mergePairs.induct with
  | case1 => exact .refl _
  | case2 => exact .refl _
  | case3 first second rest ih =>
    simp only [mergePairs, List.flatten_cons, ← List.append_assoc]
    exact (merge_perm le first second).append ih

theorem mergeAll_perm (le : α → α → Bool) (rounds : Nat) (runs : List (List α)) :
    (mergeAll le rounds runs).Perm runs.flatten := by
  fun_induction mergeAll le rounds runs with
  | case1 runs =>
    induction runs with
    | nil => exact .refl _
    | cons run runs ih =>
      rw [List.foldr_cons, List.flatten_cons]
      exact (merge_perm le _ _).trans (ih.append_left run)
  | case2 => exact .refl _
  | case3 => simp
  | case4 rounds runs _ _ ih => exact ih.trans (mergePairs_perm le runs)

/-- The sorted list has the elements of the list. -/
theorem sortBy_perm (le : α → α → Bool) (xs : List α) : (sortBy le xs).Perm xs := by
  have := mergeAll_perm le xs.length (xs.map fun x => [x])
  rwa [← List.flatMap_def, List.flatMap_singleton'] at this

/-! ### The sorted list is ascending -/

section ascending

variable {le : α → α → Bool} (trans : ∀ a b c, le a b → le b c → le a c)
  (total : ∀ a b, le a b ∨ le b a)

include trans total

theorem pairwise_merge {xs ys : List α} (hx : xs.Pairwise fun a b => le a b)
    (hy : ys.Pairwise fun a b => le a b) : (merge le xs ys).Pairwise fun a b => le a b := by
  induction xs generalizing ys with
  | nil => exact hy
  | cons x xs ih =>
    rw [List.pairwise_cons] at hx
    rw [merge]
    induction ys with
    | nil =>
      rw [mergeInto, List.pairwise_cons]
      refine ⟨fun z hz => ?_, ih hx.2 .nil⟩
      rcases List.mem_append.1 ((merge_perm le xs []).mem_iff.1 hz) with h | h
      · exact hx.1 z h
      · cases h
    | cons y ys ihy =>
      have hy' := List.pairwise_cons.1 hy
      rw [mergeInto]
      split
      · next hxy =>
        rw [List.pairwise_cons]
        refine ⟨fun z hz => ?_, ih hx.2 hy⟩
        rcases List.mem_append.1 ((merge_perm le xs (y :: ys)).mem_iff.1 hz) with h | h
        · exact hx.1 z h
        · rcases List.mem_cons.1 h with rfl | h
          · exact hxy
          · exact trans _ _ _ hxy (hy'.1 z h)
      · next hxy =>
        have hyx : le y x = true := (total y x).resolve_right hxy
        rw [List.pairwise_cons]
        refine ⟨fun z hz => ?_, ihy hy'.2⟩
        have hm := (mergeInto_perm le x (merge le xs) xs ys fun zs => merge_perm le xs zs).mem_iff.1 hz
        rcases List.mem_append.1 hm with h | h
        · rcases List.mem_cons.1 h with rfl | h
          · exact hyx
          · exact trans _ _ _ hyx (hx.1 z h)
        · exact hy'.1 z h

theorem pairwise_mergePairs {runs : List (List α)}
    (h : ∀ run ∈ runs, run.Pairwise fun a b => le a b) :
    ∀ run ∈ mergePairs le runs, run.Pairwise fun a b => le a b := by
  induction runs using mergePairs.induct with
  | case1 => simp [mergePairs]
  | case2 run => simpa [mergePairs] using h
  | case3 first second rest ih =>
    simp only [mergePairs, List.mem_cons, forall_eq_or_imp] at h ⊢
    exact ⟨pairwise_merge trans total h.1 h.2.1, ih h.2.2⟩

theorem pairwise_mergeAll {rounds : Nat} {runs : List (List α)}
    (h : ∀ run ∈ runs, run.Pairwise fun a b => le a b) :
    (mergeAll le rounds runs).Pairwise fun a b => le a b := by
  fun_induction mergeAll le rounds runs with
  | case1 runs =>
    induction runs with
    | nil => exact .nil
    | cons run runs ih =>
      rw [List.foldr_cons]
      exact pairwise_merge trans total (h run List.mem_cons_self)
        (ih fun r hr => h r (List.mem_cons_of_mem _ hr))
  | case2 => exact .nil
  | case3 _ run => exact h run List.mem_cons_self
  | case4 rounds runs _ _ ih => exact ih (pairwise_mergePairs trans total h)

/-- The sorted list is ascending. -/
theorem pairwise_sortBy (xs : List α) : (sortBy le xs).Pairwise fun a b => le a b := by
  refine pairwise_mergeAll trans total fun run hr => ?_
  obtain ⟨x, _, rfl⟩ := List.mem_map.1 hr
  exact List.pairwise_singleton _ _

end ascending

end RegistrySearch
