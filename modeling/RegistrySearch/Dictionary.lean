import RegistrySearch.Sorting

/-!
# Dictionaries

A dictionary maps keys of a linear order to values and holds its entries in ascending order, so that
walking through it is the same for everybody and two dictionaries with the same entries are equal.

Dictionaries come from lists of pairs. The values of equal keys are combined in the order of the
list (`ofListWith`), so that `ofList` keeps the last one and `group` all of them. A value is looked
up with `get?`; `update` changes it where it stands, or puts one in where there was none.
-/

namespace RegistrySearch

/-- Puts a pair in front of ascending entries; the value at an equal key is combined with it. -/
def addFront {κ α : Type} [DecidableEq κ] (combine : α → α → α) (entry : κ × α) :
    List (κ × α) → List (κ × α)
  | [] => [entry]
  | (k, b) :: rest =>
    if entry.1 = k then (k, combine entry.2 b) :: rest else entry :: (k, b) :: rest

/-- Combines the values of neighbours with equal keys. -/
def mergeRuns {κ α : Type} [DecidableEq κ] (combine : α → α → α) (entries : List (κ × α)) :
    List (κ × α) :=
  entries.foldr (addFront combine) []

/-- The entries in the order of their keys; entries of one key keep their order. -/
def sortByKey {κ α : Type} [LE κ] [DecidableLE κ] (entries : List (κ × α)) : List (κ × α) :=
  sortBy (fun x y => x.1 ≤ y.1) entries

theorem pairwise_sortByKey {κ α : Type} [LE κ] [DecidableLE κ] [Std.IsLinearOrder κ]
    (entries : List (κ × α)) : (sortByKey entries).Pairwise fun x y => x.1 ≤ y.1 := by
  refine (pairwise_sortBy (fun a b c hab hbc => ?_) (fun a b => ?_) entries).imp fun h => ?_
  · simp only [decide_eq_true_eq] at *; exact Std.le_trans hab hbc
  · simpa using Std.le_total
  · simpa using h

theorem head_addFront_le {κ α : Type} [LE κ] [DecidableEq κ] [Std.IsLinearOrder κ]
    (combine : α → α → α) (entry : κ × α) (rest : List (κ × α))
    (h : ∀ x ∈ rest, entry.1 ≤ x.1) : ∀ x ∈ addFront combine entry rest, entry.1 ≤ x.1 := by
  intro x hx
  cases rest with
  | nil => simp only [addFront, List.mem_singleton] at hx; subst hx; exact Std.le_refl _
  | cons y rest =>
    simp only [addFront] at hx
    split at hx
    · next he =>
      rcases List.mem_cons.1 hx with rfl | hx
      · exact he ▸ Std.le_refl _
      · exact h x (List.mem_cons_of_mem _ hx)
    · rcases List.mem_cons.1 hx with rfl | hx
      · exact Std.le_refl _
      · exact h x hx

theorem pairwise_addFront {κ α : Type} [LE κ] [LT κ] [DecidableEq κ] [Std.IsLinearOrder κ]
    [Std.LawfulOrderLT κ] (combine : α → α → α) (entry : κ × α) (rest : List (κ × α))
    (hr : rest.Pairwise fun x y => x.1 < y.1) (h : ∀ x ∈ rest, entry.1 ≤ x.1) :
    (addFront combine entry rest).Pairwise fun x y => x.1 < y.1 := by
  cases rest with
  | nil => simp [addFront]
  | cons y rest =>
    simp only [addFront]
    split
    · rw [List.pairwise_cons] at hr ⊢; exact hr
    · next hne =>
      rw [List.pairwise_cons]
      refine ⟨fun x hx => ?_, hr⟩
      have hy : entry.1 < y.1 := Std.lt_of_le_of_ne (h y List.mem_cons_self) hne
      rcases List.mem_cons.1 hx with rfl | hx
      · exact hy
      · exact Std.lt_trans hy ((List.pairwise_cons.1 hr).1 x hx)

theorem pairwise_mergeRuns {κ α : Type} [LE κ] [LT κ] [DecidableEq κ] [Std.IsLinearOrder κ]
    [Std.LawfulOrderLT κ] (combine : α → α → α) (entries : List (κ × α))
    (h : entries.Pairwise fun x y => x.1 ≤ y.1) :
    (mergeRuns combine entries).Pairwise (fun x y => x.1 < y.1) ∧
      ∀ k, (∀ x ∈ entries, k ≤ x.1) → ∀ x ∈ mergeRuns combine entries, k ≤ x.1 := by
  induction entries with
  | nil => simp [mergeRuns]
  | cons e rest ih =>
    rw [List.pairwise_cons] at h
    obtain ⟨hp, hle⟩ := ih h.2
    have hb := hle e.1 h.1
    refine ⟨pairwise_addFront combine e _ hp hb, fun k hk x hx => ?_⟩
    exact Std.le_trans (hk e List.mem_cons_self) (head_addFront_le combine e _ hb x hx)

/-- Puts at a key of ascending entries what a function makes of the value there, if there is one. -/
def updateEntries {κ α : Type} [LT κ] [DecidableLT κ] [DecidableEq κ] (key : κ)
    (f : Option α → α) : List (κ × α) → List (κ × α)
  | [] => [(key, f none)]
  | (k, a) :: rest =>
    if k = key then (k, f (some a)) :: rest
    else if key < k then (key, f none) :: (k, a) :: rest
    else (k, a) :: updateEntries key f rest

theorem mem_keys_updateEntries {κ α : Type} [LT κ] [DecidableLT κ] [DecidableEq κ] {key : κ}
    {f : Option α → α} {entries : List (κ × α)} {x : κ × α}
    (h : x ∈ updateEntries key f entries) : x.1 = key ∨ ∃ y ∈ entries, y.1 = x.1 := by
  induction entries with
  | nil => exact .inl (by simp_all [updateEntries])
  | cons e rest ih =>
    simp only [updateEntries] at h
    split at h
    · rcases List.mem_cons.1 h with rfl | h
      · exact .inr ⟨e, List.mem_cons_self, rfl⟩
      · exact .inr ⟨x, List.mem_cons_of_mem _ h, rfl⟩
    · split at h
      · rcases List.mem_cons.1 h with rfl | h
        · exact .inl rfl
        · exact .inr ⟨x, h, rfl⟩
      · rcases List.mem_cons.1 h with rfl | h
        · exact .inr ⟨e, List.mem_cons_self, rfl⟩
        · exact (ih h).imp_right fun ⟨y, hy, he⟩ => ⟨y, List.mem_cons_of_mem _ hy, he⟩

theorem pairwise_updateEntries {κ α : Type} [LE κ] [LT κ] [DecidableLT κ] [DecidableEq κ]
    [Std.IsLinearOrder κ] [Std.LawfulOrderLT κ] (key : κ) (f : Option α → α)
    (entries : List (κ × α)) (h : entries.Pairwise fun x y => x.1 < y.1) :
    (updateEntries key f entries).Pairwise fun x y => x.1 < y.1 := by
  induction entries with
  | nil => exact List.pairwise_singleton _ _
  | cons e rest ih =>
    have h' := List.pairwise_cons.1 h
    simp only [updateEntries]
    split
    · exact List.pairwise_cons.2 h'
    · next hne =>
      split
      · next hlt =>
        refine List.pairwise_cons.2 ⟨fun x hx => ?_, h⟩
        rcases List.mem_cons.1 hx with rfl | hx
        · exact hlt
        · exact Std.lt_trans hlt (h'.1 x hx)
      · next hle =>
        refine List.pairwise_cons.2 ⟨fun x hx => ?_, ih h'.2⟩
        rcases mem_keys_updateEntries hx with he | ⟨y, hy, he⟩
        · exact he ▸ Std.lt_of_le_of_ne (Std.not_lt.1 hle) hne
        · exact he ▸ h'.1 y hy

/-- A dictionary: entries in ascending order of their keys. -/
structure Dictionary (κ α : Type) [LT κ] where
  entries : List (κ × α)
  ascending : entries.Pairwise fun x y => x.1 < y.1

namespace Dictionary

variable {κ α β : Type} [LT κ]

/-- The dictionary without entries. -/
def empty : Dictionary κ α := ⟨[], .nil⟩

instance : Inhabited (Dictionary κ α) := ⟨empty⟩

/-- The value at a key. -/
def get? [DecidableEq κ] (d : Dictionary κ α) (key : κ) : Option α := d.entries.lookup key

/-- The keys, in ascending order. -/
def keys (d : Dictionary κ α) : List κ := d.entries.map (·.1)

/-- The values, in the order of their keys. -/
def values (d : Dictionary κ α) : List α := d.entries.map (·.2)

/-- The dictionary with every value computed anew from its key and itself. -/
def mapEntries (f : κ → α → β) (d : Dictionary κ α) : Dictionary κ β :=
  ⟨d.entries.map fun (k, a) => (k, f k a), List.pairwise_map.2 d.ascending⟩

/-- The dictionary with every value changed. -/
def map (f : α → β) (d : Dictionary κ α) : Dictionary κ β := d.mapEntries fun _ a => f a

/-- The dictionary of the entries that satisfy a predicate. -/
def filter (p : κ → α → Bool) (d : Dictionary κ α) : Dictionary κ α :=
  ⟨d.entries.filter fun (k, a) => p k a, d.ascending.filter _⟩

/-- The dictionary of what a function makes of the values, where it makes something. -/
def filterMap (f : α → Option β) (d : Dictionary κ α) : Dictionary κ β :=
  ⟨d.entries.filterMap fun (k, a) => (f a).map fun b => (k, b),
    d.ascending.filterMap _ fun x y h a ha b hb => by
      obtain ⟨_, _, rfl⟩ := Option.map_eq_some_iff.1 ha
      obtain ⟨_, _, rfl⟩ := Option.map_eq_some_iff.1 hb
      exact h⟩

variable [LE κ] [DecidableLE κ] [DecidableEq κ] [Std.IsLinearOrder κ] [Std.LawfulOrderLT κ]

/-- The dictionary with what a function makes of the value at a key, if there is one, in its
place. -/
def update [DecidableLT κ] (key : κ) (f : Option α → α) (d : Dictionary κ α) : Dictionary κ α :=
  ⟨updateEntries key f d.entries, pairwise_updateEntries key f d.entries d.ascending⟩

/-- The dictionary of a list of pairs; the values of equal keys are combined in order. -/
def ofListWith (combine : α → α → α) (entries : List (κ × α)) : Dictionary κ α :=
  ⟨mergeRuns combine (sortByKey entries), (pairwise_mergeRuns _ _ (pairwise_sortByKey entries)).1⟩

/-- The dictionary of a list of pairs; of equal keys the last one counts. -/
def ofList (entries : List (κ × α)) : Dictionary κ α := ofListWith (fun _ b => b) entries

/-- The dictionary that holds a value of each key of a list. -/
def ofKeys (f : κ → α) (keys : List κ) : Dictionary κ α :=
  (ofList (keys.map fun k => (k, ()))).mapEntries fun k _ => f k

/-- The dictionary that holds at each key of a list of pairs all its values, in order. -/
def group (entries : List (κ × α)) : Dictionary κ (List α) :=
  ofListWith (· ++ ·) (entries.map fun (k, a) => (k, [a]))

end Dictionary

end RegistrySearch
