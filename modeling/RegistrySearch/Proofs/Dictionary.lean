import Mathlib.Data.List.Nodup
import RegistrySearch.Dictionary
import RegistrySearch.Proofs.Sorting

/-!
# What is in a dictionary

A dictionary is known by its look-ups: an entry is the same as a look-up that succeeds
(`Dictionary.get?_eq_some_iff`), and two dictionaries with the same look-ups are equal
(`Dictionary.ext_get?`), so that a dictionary is that of its own entries in any order.

Dictionaries of lists of pairs are described by `valuesAt key`, the values that the list has at a
key: the last of them for `ofList`, all of them for `group`, and for `ofListWith` what they are
combined to. Pairs that come in the order of their keys are grouped as they come, each in the last
group or in a new one behind it.
-/

namespace RegistrySearch

/-- Of elements with different keys there is one with the key of an element, namely itself. -/
theorem filter_key_eq_singleton {α κ : Type} [DecidableEq κ] {key : α → κ} {xs : List α}
    (hn : (xs.map key).Nodup) {x : α} (h : x ∈ xs) : xs.filter (key · = key x) = [x] := by
  induction xs with
  | nil => cases h
  | cons y xs ih =>
    rw [List.map_cons, List.nodup_cons] at hn
    rw [List.filter_cons]
    rcases List.mem_cons.mp h with rfl | h
    · have hnone : xs.filter (key · = key x) = [] := by
        refine List.filter_eq_nil_iff.mpr fun y hy hk => hn.1 ?_
        exact List.mem_map.mpr ⟨y, hy, of_decide_eq_true hk⟩
      rw [if_pos (by simp), hnone]
    · have hne : key y ≠ key x := fun he => hn.1 (List.mem_map.mpr ⟨x, h, he.symm⟩)
      rw [if_neg (by simpa using hne), ih hn.2 h]

/-- The values of a list of pairs at a key, in their order. -/
def valuesAt {κ α : Type} [DecidableEq κ] (key : κ) (entries : List (κ × α)) : List α :=
  (entries.filter fun e => e.1 = key).map (·.2)

section pairs

variable {κ α β : Type} [DecidableEq κ] {key : κ}

@[simp]
theorem valuesAt_nil : valuesAt key ([] : List (κ × α)) = [] := rfl

theorem valuesAt_cons {e : κ × α} {entries : List (κ × α)} :
    valuesAt key (e :: entries) =
      if e.1 = key then e.2 :: valuesAt key entries else valuesAt key entries := by
  rw [valuesAt, List.filter_cons]
  split <;> simp_all [valuesAt]

@[simp]
theorem mem_valuesAt {entries : List (κ × α)} {a : α} :
    a ∈ valuesAt key entries ↔ (key, a) ∈ entries := by
  simp only [valuesAt, List.mem_map, List.mem_filter, decide_eq_true_eq]
  constructor
  · rintro ⟨⟨k, b⟩, ⟨h, rfl⟩, rfl⟩
    exact h
  · exact fun h => ⟨(key, a), ⟨h, rfl⟩, rfl⟩

theorem valuesAt_append {xs ys : List (κ × α)} :
    valuesAt key (xs ++ ys) = valuesAt key xs ++ valuesAt key ys := by
  simp [valuesAt]

theorem valuesAt_map {f : α → β} {entries : List (κ × α)} :
    valuesAt key (entries.map fun e => (e.1, f e.2)) = (valuesAt key entries).map f := by
  induction entries with
  | nil => rfl
  | cons e entries ih =>
    rw [List.map_cons, valuesAt_cons, valuesAt_cons, ih]
    split <;> rfl

theorem valuesAt_flatMap {γ : Type} {f : γ → List (κ × α)} {xs : List γ} :
    valuesAt key (xs.flatMap f) = xs.flatMap fun x => valuesAt key (f x) := by
  induction xs with
  | nil => rfl
  | cons x xs ih => rw [List.flatMap_cons, valuesAt_append, ih, List.flatMap_cons]

/-- The values at a key of what a function makes of the elements of a list, each under its key. -/
theorem valuesAt_filterMap {γ : Type} {k : γ → κ} {f : γ → Option α} {xs : List γ} :
    valuesAt key (xs.filterMap fun x => (f x).map fun a => (k x, a)) =
      (xs.filter (k · = key)).filterMap f := by
  induction xs with
  | nil => rfl
  | cons x xs ih =>
    rw [List.filterMap_cons, List.filter_cons]
    by_cases hk : k x = key
    · cases hf : f x <;> simp [hf, hk, ih, valuesAt_cons]
    · cases hf : f x <;> simp [hk, ih, valuesAt_cons]

/-- Sorting by key keeps the values at each key in order. -/
theorem valuesAt_sortByKey [LE κ] [DecidableLE κ] [Std.IsLinearOrder κ]
    {entries : List (κ × α)} : valuesAt key (sortByKey entries) = valuesAt key entries := by
  refine congrArg (List.map _) (filter_sortBy ?_ ?_ ?_ entries)
  · intro a b c hab hbc
    simp only [decide_eq_true_eq] at *
    exact Std.le_trans hab hbc
  · intro a b ha hb
    simp only [decide_eq_true_eq] at *
    rw [ha, hb]
    exact Std.le_refl _
  · intro a b
    simpa using Std.le_total

/-- A look-up decides at each entry whether to go on. -/
theorem lookup_cons_ite {k : κ} {a : α} {entries : List (κ × α)} :
    ((k, a) :: entries).lookup key = if k = key then some a else entries.lookup key := by
  rw [List.lookup_cons]
  by_cases hk : k = key
  · simp [hk]
  · have hne : (key == k) = false := by simpa using Ne.symm hk
    rw [hne, if_neg hk]

end pairs

namespace Dictionary

variable {κ α β : Type} [LT κ]

@[simp]
theorem entries_empty : (empty : Dictionary κ α).entries = [] := rfl

@[simp]
theorem entries_mapEntries {f : κ → α → β} {d : Dictionary κ α} :
    (d.mapEntries f).entries = d.entries.map fun e => (e.1, f e.1 e.2) := rfl

@[simp]
theorem entries_map {f : α → β} {d : Dictionary κ α} :
    (d.map f).entries = d.entries.map fun e => (e.1, f e.2) := rfl

/-- The values at a key as one, combined from the last one on. -/
def combined? (combine : α → α → α) (values : List α) : Option α :=
  values.foldr (fun a rest => some (rest.elim a (combine a))) none

section order

variable [LE κ] [Std.LawfulOrderLT κ]

theorem nodup_keys (d : Dictionary κ α) : d.keys.Nodup := by
  refine List.pairwise_map.mpr (d.ascending.imp fun h he => ?_)
  rw [he] at h
  exact Std.lt_irrefl h

theorem nodup_entries (d : Dictionary κ α) : d.entries.Nodup :=
  d.nodup_keys.of_map _

variable [DecidableEq κ]

/-- Of entries in ascending order a look-up finds every one. -/
private theorem lookup_eq_some_iff {entries : List (κ × α)}
    (h : entries.Pairwise fun x y => x.1 < y.1) {key : κ} {a : α} :
    entries.lookup key = some a ↔ (key, a) ∈ entries := by
  induction entries with
  | nil => simp
  | cons e entries ih =>
    obtain ⟨k, b⟩ := e
    have h' := List.pairwise_cons.mp h
    rw [lookup_cons_ite, List.mem_cons, Prod.mk.injEq, ← ih h'.2]
    by_cases hk : k = key
    · subst hk
      rw [if_pos rfl, Option.some.injEq]
      refine ⟨fun hb => .inl ⟨rfl, hb.symm⟩, ?_⟩
      rintro (⟨-, rfl⟩ | hm)
      · rfl
      · exact absurd (h'.1 _ ((ih h'.2).mp hm)) Std.lt_irrefl
    · rw [if_neg hk, or_iff_right fun he => hk he.1.symm]

/-- In ascending entries there is one value at a key at most, the one that a look-up finds. -/
private theorem valuesAt_eq_toList_lookup {entries : List (κ × α)}
    (h : entries.Pairwise fun x y => x.1 < y.1) {key : κ} :
    valuesAt key entries = (entries.lookup key).toList := by
  induction entries with
  | nil => rfl
  | cons e entries ih =>
    obtain ⟨k, a⟩ := e
    have h' := List.pairwise_cons.mp h
    rw [valuesAt_cons, lookup_cons_ite]
    by_cases hk : k = key
    · subst hk
      have hnone : valuesAt k entries = [] := by
        refine List.eq_nil_iff_forall_not_mem.mpr fun b hb => ?_
        exact absurd (h'.1 (k, b) (mem_valuesAt.mp hb)) Std.lt_irrefl
      rw [if_pos rfl, if_pos rfl, hnone, Option.toList_some]
    · rw [if_neg hk, if_neg hk, ih h'.2]

theorem valuesAt_entries {d : Dictionary κ α} {key : κ} :
    valuesAt key d.entries = (d.get? key).toList :=
  valuesAt_eq_toList_lookup d.ascending

theorem get?_eq_some_iff {d : Dictionary κ α} {key : κ} {a : α} :
    d.get? key = some a ↔ (key, a) ∈ d.entries :=
  lookup_eq_some_iff d.ascending

theorem mem_keys_iff {d : Dictionary κ α} {key : κ} :
    key ∈ d.keys ↔ ∃ a, d.get? key = some a := by
  simp only [keys, List.mem_map, get?_eq_some_iff]
  constructor
  · rintro ⟨⟨k, a⟩, h, rfl⟩
    exact ⟨a, h⟩
  · rintro ⟨a, h⟩
    exact ⟨(key, a), h, rfl⟩

theorem get?_eq_none_iff {d : Dictionary κ α} {key : κ} : d.get? key = none ↔ key ∉ d.keys := by
  rw [mem_keys_iff, Option.eq_none_iff_forall_ne_some, not_exists]

theorem get?_mapEntries {f : κ → α → β} {d : Dictionary κ α} {key : κ} :
    (d.mapEntries f).get? key = (d.get? key).map (f key) := by
  ext b
  rw [get?_eq_some_iff, entries_mapEntries, List.mem_map, Option.map_eq_some_iff]
  constructor
  · rintro ⟨⟨k, a⟩, h, he⟩
    obtain ⟨rfl, rfl⟩ := Prod.mk.inj he
    exact ⟨a, get?_eq_some_iff.mpr h, rfl⟩
  · rintro ⟨a, h, rfl⟩
    exact ⟨(key, a), get?_eq_some_iff.mp h, rfl⟩

theorem get?_map {f : α → β} {d : Dictionary κ α} {key : κ} :
    (d.map f).get? key = (d.get? key).map f :=
  get?_mapEntries

theorem get?_filterMap {f : α → Option β} {d : Dictionary κ α} {key : κ} :
    (d.filterMap f).get? key = (d.get? key).bind f := by
  ext b
  rw [get?_eq_some_iff, Option.bind_eq_some_iff]
  simp only [filterMap, List.mem_filterMap, Option.map_eq_some_iff, get?_eq_some_iff]
  constructor
  · rintro ⟨⟨k, a⟩, h, _, hb, he⟩
    obtain ⟨rfl, rfl⟩ := Prod.mk.inj he
    exact ⟨a, h, hb⟩
  · rintro ⟨a, h, hb⟩
    exact ⟨(key, a), h, b, hb, rfl⟩

variable [Std.IsLinearOrder κ]

/-- Below the first of ascending entries nothing is found. -/
private theorem lookup_eq_none_of_lt {key k : κ} {a : α} {entries : List (κ × α)}
    (h : ((k, a) :: entries).Pairwise fun x y => x.1 < y.1) (hlt : key < k) :
    ((k, a) :: entries).lookup key = none := by
  rw [Option.eq_none_iff_forall_ne_some]
  intro b hb
  obtain he | hm := List.mem_cons.mp ((lookup_eq_some_iff h).mp hb)
  · rw [(Prod.mk.inj he).1] at hlt
    exact Std.lt_irrefl hlt
  · exact Std.lt_irrefl (Std.lt_trans hlt ((List.pairwise_cons.mp h).1 _ hm))

private theorem lookup_updateEntries [DecidableLT κ] {f : Option α → α} {entries : List (κ × α)}
    (h : entries.Pairwise fun x y => x.1 < y.1) {key key' : κ} :
    (updateEntries key f entries).lookup key' =
      if key = key' then some (f (entries.lookup key)) else entries.lookup key' := by
  induction entries with
  | nil => rw [updateEntries, lookup_cons_ite, List.lookup_nil, List.lookup_nil]
  | cons e entries ih =>
    obtain ⟨k, a⟩ := e
    have h' := List.pairwise_cons.mp h
    rw [updateEntries]
    by_cases hk : k = key
    · subst hk
      rw [if_pos rfl, lookup_cons_ite, lookup_cons_ite, lookup_cons_ite, if_pos rfl]
      split <;> rfl
    · rw [if_neg hk]
      by_cases hlt : key < k
      · rw [if_pos hlt, lookup_cons_ite, lookup_eq_none_of_lt h hlt]
      · have hkeep : ((k, a) :: entries).lookup key = entries.lookup key := by
          rw [lookup_cons_ite, if_neg hk]
        rw [if_neg hlt, lookup_cons_ite, ih h'.2, hkeep, lookup_cons_ite]
        by_cases hk' : k = key'
        · rw [if_pos hk', if_pos hk', if_neg fun he => hk (hk'.trans he.symm)]
        · rw [if_neg hk', if_neg hk']

/-- An update is found at its key; elsewhere nothing changes. -/
theorem get?_update [DecidableLT κ] [DecidableLE κ] {f : Option α → α} {d : Dictionary κ α}
    {key key' : κ} :
    (d.update key f).get? key' = if key = key' then some (f (d.get? key)) else d.get? key' :=
  lookup_updateEntries d.ascending

/-- Two dictionaries with the same look-ups are equal. -/
theorem ext_get? {d d' : Dictionary κ α} (h : ∀ key, d.get? key = d'.get? key) : d = d' := by
  have hmem : ∀ e, e ∈ d.entries ↔ e ∈ d'.entries := by
    rintro ⟨k, a⟩
    rw [← get?_eq_some_iff, ← get?_eq_some_iff, h]
  have hperm : d.entries.Perm d'.entries :=
    (List.perm_ext_iff_of_nodup (nodup_entries d) (nodup_entries d')).mpr hmem
  -- there is one ascending list of given elements
  have he : d.entries = d'.entries :=
    List.Perm.eq_of_pairwise (fun a b _ _ hab hba => absurd (Std.lt_trans hab hba) Std.lt_irrefl)
      d.ascending d'.ascending hperm
  cases d
  cases d'
  cases he
  rfl

/-- Ascending entries with the look-ups of a dictionary are its entries. -/
theorem entries_eq_of_lookup {d : Dictionary κ α} {entries : List (κ × α)}
    (ascending : entries.Pairwise fun x y => x.1 < y.1)
    (h : ∀ key, d.get? key = entries.lookup key) : d.entries = entries :=
  congrArg Dictionary.entries (ext_get? h : d = ⟨entries, ascending⟩)

/-! ### Dictionaries of lists -/

/-- A pair put in front of ascending entries is found at its key, combined with what was there. -/
private theorem lookup_addFront {combine : α → α → α} {e : κ × α} {entries : List (κ × α)}
    (h : entries.Pairwise fun x y => x.1 < y.1) (hle : ∀ x ∈ entries, e.1 ≤ x.1) {key : κ} :
    (addFront combine e entries).lookup key =
      if e.1 = key then some ((entries.lookup key).elim e.2 (combine e.2))
      else entries.lookup key := by
  obtain ⟨k, a⟩ := e
  cases entries with
  | nil => rw [addFront, lookup_cons_ite, List.lookup_nil, Option.elim_none]
  | cons x rest =>
    obtain ⟨k', b⟩ := x
    rw [addFront]
    by_cases hkk : k = k'
    · subst hkk
      rw [if_pos rfl, lookup_cons_ite, lookup_cons_ite]
      by_cases hk : k = key
      · rw [if_pos hk, if_pos hk, if_pos hk, Option.elim_some]
      · rw [if_neg hk, if_neg hk, if_neg hk]
    · rw [if_neg hkk, lookup_cons_ite]
      by_cases hk : k = key
      · subst hk
        -- every entry has a greater key
        have hlt : k < k' := Std.lt_of_le_of_ne (hle _ List.mem_cons_self) hkk
        rw [lookup_eq_none_of_lt h hlt, Option.elim_none]
      · rw [if_neg hk, if_neg hk]

private theorem lookup_mergeRuns {combine : α → α → α} {entries : List (κ × α)}
    (h : entries.Pairwise fun x y => x.1 ≤ y.1) {key : κ} :
    (mergeRuns combine entries).lookup key = combined? combine (valuesAt key entries) := by
  induction entries with
  | nil => rfl
  | cons e entries ih =>
    have h' := List.pairwise_cons.mp h
    -- what is merged already is ascending, and not below the pair in front
    obtain ⟨hp, hle⟩ := pairwise_mergeRuns combine entries h'.2
    rw [mergeRuns, List.foldr_cons, ← mergeRuns, lookup_addFront hp (hle e.1 h'.1), ih h'.2,
      valuesAt_cons]
    split <;> rfl

variable [DecidableLE κ]

theorem get?_ofListWith {combine : α → α → α} {entries : List (κ × α)} {key : κ} :
    (ofListWith combine entries).get? key = combined? combine (valuesAt key entries) := by
  rw [← valuesAt_sortByKey]
  exact lookup_mergeRuns (pairwise_sortByKey entries)

/-- Of the values at a key the last one is kept. -/
theorem get?_ofList {entries : List (κ × α)} {key : κ} :
    (ofList entries).get? key = (valuesAt key entries).getLast? := by
  rw [ofList, get?_ofListWith]
  induction valuesAt key entries with
  | nil => rfl
  | cons a values ih =>
    rw [combined?, List.foldr_cons, ← combined?, ih, List.getLast?_cons]
    cases values.getLast? <;> rfl

/-- All values at a key are kept. -/
theorem get?_group {entries : List (κ × α)} {key : κ} :
    (group entries).get? key =
      if valuesAt key entries = [] then none else some (valuesAt key entries) := by
  rw [group, get?_ofListWith, valuesAt_map (f := fun a => [a])]
  induction valuesAt key entries with
  | nil => rfl
  | cons a values ih =>
    rw [List.map_cons, combined?, List.foldr_cons, ← combined?, ih]
    cases values <;> simp

theorem get?_group_eq_some_iff {entries : List (κ × α)} {key : κ} {values : List α} :
    (group entries).get? key = some values ↔ values = valuesAt key entries ∧ values ≠ [] := by
  rw [get?_group]
  split
  · next h => simp [h]
  · next h =>
    simp only [Option.some.injEq]
    exact ⟨fun he => ⟨he.symm, he ▸ h⟩, fun he => he.1.symm⟩

theorem mem_keys_group {entries : List (κ × α)} {key : κ} :
    key ∈ (group entries).keys ↔ ∃ a, (key, a) ∈ entries := by
  simp only [mem_keys_iff, get?_group_eq_some_iff, exists_eq_left, ← mem_valuesAt]
  exact ⟨List.exists_mem_of_ne_nil _, fun ⟨_, h⟩ => List.ne_nil_of_mem h⟩

/-! ### Pairs as they come -/

/-- A pair with a new greatest key comes last. -/
theorem entries_group_append_new {entries : List (κ × α)} {key : κ} (a : α)
    (h : ∀ e ∈ entries, e.1 < key) :
    (group (entries ++ [(key, a)])).entries = (group entries).entries ++ [(key, [a])] := by
  have hkeys : ∀ e ∈ (group entries).entries, e.1 < key := by
    intro e he
    obtain ⟨b, hb⟩ := mem_keys_group.mp (List.mem_map_of_mem he)
    exact h (e.1, b) hb
  refine entries_eq_of_lookup ?_ fun key' => ?_
  · refine List.pairwise_append.mpr ⟨ascending _, List.pairwise_singleton _ _, fun e he x hx => ?_⟩
    rw [List.mem_singleton.mp hx]
    exact hkeys e he
  · have hget : (group entries).entries.lookup key' = (group entries).get? key' := rfl
    rw [List.lookup_append, hget, lookup_cons_ite, get?_group, get?_group, valuesAt_append,
      valuesAt_cons]
    by_cases hk : key = key'
    · subst hk
      have hnone : valuesAt key entries = [] := by
        refine List.eq_nil_iff_forall_not_mem.mpr fun b hb => ?_
        exact Std.lt_irrefl (h (key, b) (mem_valuesAt.mp hb))
      simp [hnone]
    · simp [hk]

/-- A pair with the greatest key adds to the last values. -/
theorem entries_group_append_last {entries : List (κ × α)} {key : κ} {values : List α} (a : α)
    {front : List (κ × List α)} (h : (group entries).entries = front ++ [(key, values)]) :
    (group (entries ++ [(key, a)])).entries = front ++ [(key, values ++ [a])] := by
  have hascending := (group entries).ascending
  rw [h, List.pairwise_append] at hascending
  obtain ⟨hfront, -, hlast⟩ := hascending
  have hlast : ∀ e ∈ front, e.1 < key := fun e he => hlast e he _ (List.mem_singleton_self _)
  have hvalues : values = valuesAt key entries := by
    refine (get?_group_eq_some_iff.mp (get?_eq_some_iff.mpr ?_)).1
    rw [h]
    exact List.mem_append_right _ (List.mem_singleton_self _)
  refine entries_eq_of_lookup ?_ fun key' => ?_
  · refine List.pairwise_append.mpr ⟨hfront, List.pairwise_singleton _ _, fun e he x hx => ?_⟩
    rw [List.mem_singleton.mp hx]
    exact hlast e he
  · have hget : (group entries).get? key' = (front ++ [(key, values)]).lookup key' := by
      rw [← h]
      rfl
    rw [List.lookup_append, lookup_cons_ite, get?_group, valuesAt_append, valuesAt_cons]
    rw [List.lookup_append, lookup_cons_ite, get?_group] at hget
    by_cases hk : key = key'
    · subst hk
      have hnone : front.lookup key = none := by
        rw [Option.eq_none_iff_forall_ne_some]
        intro b hb
        exact Std.lt_irrefl (hlast _ ((lookup_eq_some_iff hfront).mp hb))
      simp [hnone, hvalues]
    · simpa [hk] using hget

theorem mem_keys_ofList {entries : List (κ × α)} {key : κ} :
    key ∈ (ofList entries).keys ↔ ∃ a, (key, a) ∈ entries := by
  simp only [mem_keys_iff, get?_ofList, ← mem_valuesAt]
  constructor
  · rintro ⟨a, h⟩
    exact ⟨a, List.mem_of_getLast? h⟩
  · rintro ⟨a, h⟩
    exact ⟨_, List.getLast?_eq_some_getLast (List.ne_nil_of_mem h)⟩

/-- The entries of the dictionary of a list are in the list. -/
theorem mem_of_mem_entries_ofList {entries : List (κ × α)} {e : κ × α}
    (h : e ∈ (ofList entries).entries) : e ∈ entries := by
  have hget : (ofList entries).get? e.1 = some e.2 := get?_eq_some_iff.mpr h
  rw [get?_ofList] at hget
  exact mem_valuesAt.mp (List.mem_of_getLast? hget)

/-- A dictionary is that of its own entries, whatever their order. -/
theorem ofList_of_perm {d : Dictionary κ α} {entries : List (κ × α)}
    (h : entries.Perm d.entries) : ofList entries = d := by
  refine ext_get? fun key => ?_
  have hvalues : (valuesAt key entries).Perm (d.get? key).toList := by
    rw [← valuesAt_entries]
    exact (h.filter _).map _
  rw [get?_ofList]
  cases hget : d.get? key with
  | none =>
    rw [hget, Option.toList_none, List.perm_nil] at hvalues
    rw [hvalues, List.getLast?_nil]
  | some a =>
    rw [hget, Option.toList_some, List.perm_singleton] at hvalues
    rw [hvalues, List.getLast?_singleton]

theorem get?_ofKeys {f : κ → α} {keys : List κ} {key : κ} :
    (ofKeys f keys).get? key = if key ∈ keys then some (f key) else none := by
  have hmem : key ∈ (ofList (keys.map fun k => (k, ()))).keys ↔ key ∈ keys := by
    simp [mem_keys_ofList]
  rw [ofKeys, get?_mapEntries]
  split
  · next h =>
    obtain ⟨_, hu⟩ := mem_keys_iff.mp (hmem.mpr h)
    rw [hu, Option.map_some]
  · next h => rw [get?_eq_none_iff.mpr (mt hmem.mp h), Option.map_none]

theorem mem_keys_ofKeys {f : κ → α} {keys : List κ} {key : κ} :
    key ∈ (ofKeys f keys).keys ↔ key ∈ keys := by
  rw [mem_keys_iff]
  simp only [get?_ofKeys]
  split <;> simp_all

end order

end Dictionary

end RegistrySearch
