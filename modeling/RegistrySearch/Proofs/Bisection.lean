import Mathlib.Tactic.ByContra
import Mathlib.Tactic.Set
import RegistrySearch.Bisection

/-!
# What bisection finds

On an array whose elements above the sought one come last, bisection ends on the last element that
is not above, and at the front if there is none. In ascending keys this is the place of the sought
key (`bisect_eq`), and of a predicate that holds of the leading elements it is their number
(`lt_partitionPoint_iff`).
-/

namespace RegistrySearch

variable {α : Type}

/-- The walk stays in its window; behind the index on which it ends all is above, and that element
is not above unless the walk never moved. -/
private theorem bisectFrom_spec (above : α → Bool) (xs : Array α)
    (mono : ∀ i j, (hij : i ≤ j) → (hj : j < xs.size) → above xs[i] → above xs[j])
    {base size : Nat} (hpos : 0 < size) (hsize : base + size ≤ xs.size) :
    let found := bisectFrom above xs base size
    base ≤ found ∧ found < base + size ∧
      (found = base ∨ ∃ h : found < xs.size, above xs[found] = false) ∧
      ∀ j, found < j → j < base + size → (hj : j < xs.size) → above xs[j] := by
  fun_induction bisectFrom above xs base size with
  | case1 base size small =>
    exact ⟨Nat.le_refl _, by omega, .inl rfl, fun j h₁ h₂ _ => by omega⟩
  | case2 base size small x hx hab ih =>
    obtain ⟨hmid, rfl⟩ := Array.getElem?_eq_some_iff.mp hx
    obtain ⟨h₁, h₂, h₃, h₄⟩ := ih (by omega) (by omega)
    -- the middle is above, and with it all that the window gives up
    refine ⟨h₁, by omega, h₃, fun j hj hlt hjs => ?_⟩
    rcases Nat.lt_or_ge j (base + (size - size / 2)) with h | h
    · exact h₄ j hj h hjs
    · exact mono (base + size / 2) j (by omega) hjs hab
  | case3 base size small x hx hab ih =>
    obtain ⟨hmid, rfl⟩ := Array.getElem?_eq_some_iff.mp hx
    obtain ⟨h₁, h₂, h₃, h₄⟩ := ih (by omega) (by omega)
    -- the window starts with the middle, which is not above
    refine ⟨by omega, by omega, .inr ?_, fun j hj hlt hjs => h₄ j hj (by omega) hjs⟩
    rcases h₃ with h | h
    · exact ⟨by omega, by simpa [h] using hab⟩
    · exact h
  | case4 base size small hx =>
    exact absurd (Array.getElem?_eq_none_iff.mp hx) (by omega)

/-- On a nonempty array with the elements above last, bisection ends on the last one that is not
above, or at the front. -/
theorem bisect_spec (above : α → Bool) (xs : Array α)
    (mono : ∀ i j, (hij : i ≤ j) → (hj : j < xs.size) → above xs[i] → above xs[j])
    (hpos : 0 < xs.size) :
    bisect above xs < xs.size ∧
      (bisect above xs = 0 ∨ ∃ h : bisect above xs < xs.size, above xs[bisect above xs] = false) ∧
      ∀ j, bisect above xs < j → (hj : j < xs.size) → above xs[j] := by
  obtain ⟨-, h₂, h₃, h₄⟩ := bisectFrom_spec above xs mono hpos (Nat.le_of_eq (Nat.zero_add _))
  rw [bisect]
  exact ⟨by omega, h₃, fun j hj hjs => h₄ j hj (by omega) hjs⟩

/-- **Bisection.** Among strictly ascending keys the walk ends on the place of the sought one. -/
theorem bisect_eq {κ : Type} [LT κ] [LE κ] [DecidableLT κ] [Std.IsLinearOrder κ]
    [Std.LawfulOrderLT κ] {key : α → κ} {xs : Array α}
    (asc : xs.toList.Pairwise fun x y => key x < key y) {i : Nat} (hi : i < xs.size) :
    bisect (fun x => decide (key xs[i] < key x)) xs = i := by
  have hlt : ∀ a b, (hab : a < b) → (hb : b < xs.size) → key xs[a] < key xs[b] :=
    fun a b hab hb => List.pairwise_iff_getElem.mp asc a b (by simp; omega) (by simpa) hab
  have mono : ∀ a b, (hab : a ≤ b) → (hb : b < xs.size) →
      decide (key xs[i] < key xs[a]) → decide (key xs[i] < key xs[b]) := by
    intro a b hab hb h
    simp only [decide_eq_true_eq] at *
    rcases Nat.lt_or_eq_of_le hab with hab | rfl
    · exact Std.lt_trans h (hlt a b hab hb)
    · exact h
  obtain ⟨h₂, h₃, h₄⟩ :=
    bisect_spec (fun x => decide (key xs[i] < key x)) xs mono (Nat.zero_lt_of_lt hi)
  set found := bisect (fun x => decide (key xs[i] < key x)) xs
  rcases Nat.lt_trichotomy found i with h | h | h
  · have := h₄ i h hi
    simp only [decide_eq_true_eq] at this
    exact absurd this Std.lt_irrefl
  · exact h
  · obtain h₃ | ⟨hf, h₃⟩ := h₃
    · omega
    · simp only [decide_eq_false_iff_not] at h₃
      exact absurd (hlt i found h hf) h₃

/-- **Partition point.** On an array that has the elements with a property in front, those are the
elements in front of the partition point. -/
theorem lt_partitionPoint_iff {holds : α → Bool} {xs : Array α}
    (mono : ∀ i j, (hij : i ≤ j) → (hj : j < xs.size) → holds xs[j] → holds xs[i])
    {i : Nat} (hi : i < xs.size) : i < partitionPoint holds xs ↔ holds xs[i] := by
  have mono' : ∀ a b, (hab : a ≤ b) → (hb : b < xs.size) → !holds xs[a] → !holds xs[b] := by
    intro a b hab hb h
    have := mono a b hab hb
    simp only [Bool.not_eq_true'] at *
    exact Bool.eq_false_iff.mpr fun h' => by simp [this h'] at h
  obtain ⟨hfound, h₃, h₄⟩ := bisect_spec (fun x => !holds x) xs mono' (Nat.zero_lt_of_lt hi)
  simp only [partitionPoint, Array.getElem?_eq_getElem hfound]
  set found := bisect (fun x => !holds x) xs
  have hbehind : ∀ j, found < j → (hj : j < xs.size) → holds xs[j] = false := fun j h hj => by
    simpa using h₄ j h hj
  by_cases hf : holds xs[found]
  · rw [if_pos hf]
    refine ⟨fun h => mono i found (by omega) hfound hf, fun h => ?_⟩
    by_contra hlt
    simp [hbehind i (by omega) hi] at h
  · rw [if_neg hf]
    have hzero : found = 0 := by
      obtain h₃ | ⟨_, h₃⟩ := h₃
      · exact h₃
      · simp [Bool.not_eq_true] at hf h₃
        simp [hf] at h₃
    refine ⟨fun h => by omega, fun h => ?_⟩
    exact absurd (mono found i (by omega) hi h) hf

/-- What stands between two places. -/
theorem mem_slice_iff {xs : Array α} {start stop : Nat} {x : α} :
    x ∈ (xs.toList.take stop).drop start ↔
      ∃ i, ∃ h : i < xs.size, start ≤ i ∧ i < stop ∧ xs[i] = x := by
  rw [List.mem_drop_iff_getElem]
  constructor
  · rintro ⟨i, hlen, he⟩
    rw [List.length_take, Array.length_toList] at hlen
    rw [List.getElem_take, Array.getElem_toList] at he
    exact ⟨start + i, by omega, by omega, by omega, he⟩
  · rintro ⟨i, h, hge, hlt, he⟩
    refine ⟨i - start, ?_, ?_⟩
    · rw [List.length_take, Array.length_toList]
      omega
    · simp only [List.getElem_take, Array.getElem_toList, Nat.add_sub_cancel' hge, he]

end RegistrySearch
