import Mathlib.Logic.Function.Iterate
import RegistrySearch.Pattern.Moves

/-!
# Moves find what expressions match

An expression is a relation between the positions of a text, and its moves act on sets of positions.
The set that the moves lead to from a set of positions consists of the positions that the relation
connects with it (`Regex.follows_moves`).

**Repetitions are what takes an argument**: a relation that never leads backwards reaches, by any
number of steps, nothing that it does not reach by as many steps as there are positions. The bounds
of a repetition must be in order for this (`Regex.IsOrdered`).
-/

namespace RegistrySearch.Pattern

/-! ### Positions -/

theorem length_placesFrom (before : Option Char) (text : List Char) :
    (placesFrom before text).length = text.length + 1 := by
  induction text generalizing before with
  | nil => rfl
  | cons c rest ih => rw [placesFrom, List.length_cons, ih, List.length_cons]

theorem length_places (text : List Char) : (places text).length = text.length + 1 :=
  length_placesFrom none text

theorem getElem?_placesFrom_zero (before : Option Char) (text : List Char) :
    (placesFrom before text)[0]? = some ⟨before, text[0]?⟩ := by
  cases text <;> rfl

theorem getElem?_placesFrom_succ (before : Option Char) (text : List Char) (i : Nat) :
    (placesFrom before text)[i + 1]? =
      if i < text.length then some ⟨text[i]?, text[i + 1]?⟩ else none := by
  induction text generalizing before i with
  | nil => rfl
  | cons c rest ih =>
    cases i with
    | zero =>
      rw [if_pos (by rw [List.length_cons]; omega)]
      exact getElem?_placesFrom_zero (some c) rest
    | succ i =>
      simp only [placesFrom, List.getElem?_cons_succ, ih, List.length_cons,
        Nat.add_lt_add_iff_right]

theorem after_of_getElem?_places {text : List Char} {i : Nat} {p : Place}
    (h : (places text)[i]? = some p) : p.after = text[i]? := by
  cases i with
  | zero =>
    rw [places, getElem?_placesFrom_zero] at h
    cases h
    rfl
  | succ i =>
    rw [places, getElem?_placesFrom_succ] at h
    split at h
    · cases h
      rfl
    · cases h

theorem exists_getElem?_places {text : List Char} {i : Nat} (h : i ≤ text.length) :
    ∃ p, (places text)[i]? = some p :=
  ⟨_, List.getElem?_eq_getElem (by rw [length_places]; omega)⟩

theorem testBit_positionsWhere (holds : Place → Bool) (ps : List Place) (i : Nat) :
    (positionsWhere holds ps).testBit i ↔ ∃ p, ps[i]? = some p ∧ holds p := by
  induction ps generalizing i with
  | nil => simp [positionsWhere]
  | cons p rest ih =>
    cases i with
    | zero => cases h : holds p <;> simp [positionsWhere, h, Nat.testBit_zero]
    | succ i =>
      have hhalf : (2 * positionsWhere holds rest + (holds p).toNat) / 2 =
          positionsWhere holds rest := by
        have := Bool.toNat_le (holds p)
        omega
      rw [positionsWhere, Nat.testBit_succ, hhalf, ih, List.getElem?_cons_succ]

namespace Regex

/-! ### Steps -/

namespace Steps

variable {step : Nat → Nat → Prop} {i j l k k₁ k₂ n : Nat}

theorem zero_iff : Steps step 0 i j ↔ j = i := by
  constructor
  · intro h
    cases h
    rfl
  · rintro rfl
    exact .zero

theorem succ_iff : Steps step (k + 1) i l ↔ ∃ j, step i j ∧ Steps step k j l := by
  constructor
  · intro h
    cases h with
    | succ hstep h => exact ⟨_, hstep, h⟩
  · rintro ⟨j, hstep, h⟩
    exact .succ hstep h

theorem trans (h₁ : Steps step k₁ i j) (h₂ : Steps step k₂ j l) : Steps step (k₁ + k₂) i l := by
  induction h₁ with
  | zero => rwa [Nat.zero_add]
  | succ hstep _ ih =>
    rw [Nat.add_right_comm]
    exact .succ hstep (ih h₂)

theorem exists_of_add (h : Steps step (k₁ + k₂) i l) :
    ∃ j, Steps step k₁ i j ∧ Steps step k₂ j l := by
  induction k₁ generalizing i with
  | zero => exact ⟨i, .zero, by rwa [Nat.zero_add] at h⟩
  | succ k₁ ih =>
    rw [Nat.add_right_comm] at h
    cases h with
    | succ hstep h =>
      obtain ⟨j, h₁, h₂⟩ := ih h
      exact ⟨j, .succ hstep h₁, h₂⟩

theorem le (hmono : ∀ i j, step i j → i ≤ j) (h : Steps step k i j) : i ≤ j := by
  induction h with
  | zero => exact Nat.le_refl _
  | succ hstep _ ih => exact Nat.le_trans (hmono _ _ hstep) ih

theorem le_of_le (hbound : ∀ i j, step i j → i ≤ n → j ≤ n) (h : Steps step k i j) (hi : i ≤ n) :
    j ≤ n := by
  induction h with
  | zero => exact hi
  | succ hstep _ ih => exact ih (hbound _ _ hstep hi)

/-- Rounds that may be left out are steps of a smaller number. -/
theorem or_iff : Steps (fun i j => i = j ∨ step i j) n i j ↔ ∃ k, k ≤ n ∧ Steps step k i j := by
  constructor
  · intro h
    induction h with
    | zero => exact ⟨0, Nat.le_refl _, .zero⟩
    | succ hround _ ih =>
      obtain ⟨k, hk, hsteps⟩ := ih
      rcases hround with rfl | hstep
      · exact ⟨k, Nat.le_succ_of_le hk, hsteps⟩
      · exact ⟨k + 1, Nat.succ_le_succ hk, .succ hstep hsteps⟩
  · rintro ⟨k, hk, h⟩
    induction n generalizing k i with
    | zero =>
      obtain rfl := Nat.le_zero.mp hk
      cases h
      exact .zero
    | succ n ih =>
      cases h with
      | zero => exact .succ (.inl rfl) (ih 0 (Nat.zero_le n) .zero)
      | succ hstep h => exact .succ (.inr hstep) (ih _ (Nat.le_of_succ_le_succ hk) h)

/-- **Rest.** Steps that never lead backwards need not be more than the positions they pass: a step
that stays where it is can be left out. -/
theorem exists_short (hmono : ∀ i j, step i j → i ≤ j) (h : Steps step k i j) :
    ∃ k', k' ≤ j - i ∧ Steps step k' i j := by
  induction h with
  | zero => exact ⟨0, Nat.zero_le _, .zero⟩
  | @succ k i j l hstep hrest ih =>
    obtain ⟨k', hk, hsteps⟩ := ih
    have hij : i ≤ j := hmono i j hstep
    have hjl : j ≤ l := hrest.le hmono
    rcases Nat.eq_or_lt_of_le hij with rfl | hlt
    · exact ⟨k', hk, hsteps⟩
    · exact ⟨k' + 1, by omega, .succ hstep hsteps⟩

end Steps

/-! ### Expressions never lead backwards -/

theorem le_of_matches {text : List Char} {r : Regex} {i j : Nat} (h : r.Matches text i j) :
    i ≤ j := by
  induction r generalizing i j with
  | empty => exact Nat.le_of_eq h.symm
  | chars set => exact h.1 ▸ Nat.le_succ i
  | look assertion => exact Nat.le_of_eq h.1.symm
  | seq first second ih₁ ih₂ =>
    obtain ⟨k, h₁, h₂⟩ := h
    exact Nat.le_trans (ih₁ h₁) (ih₂ h₂)
  | alt first second ih₁ ih₂ => exact h.elim ih₁ ih₂
  | times body least most ih =>
    obtain ⟨k, -, -, hsteps⟩ := h
    exact hsteps.le fun _ _ => ih
  | capture body ih => exact ih h

theorem le_length_of_matches {text : List Char} {r : Regex} {i j : Nat} (h : r.Matches text i j)
    (hi : i ≤ text.length) : j ≤ text.length := by
  induction r generalizing i j with
  | empty => exact Nat.le_trans (Nat.le_of_eq h) hi
  | chars set =>
    obtain ⟨rfl, c, hc, -⟩ := h
    exact (List.getElem?_eq_some_iff.mp hc).1
  | look assertion => exact Nat.le_trans (Nat.le_of_eq h.1) hi
  | seq first second ih₁ ih₂ =>
    obtain ⟨k, h₁, h₂⟩ := h
    exact ih₂ h₂ (ih₁ h₁ hi)
  | alt first second ih₁ ih₂ => exact h.elim (ih₁ · hi) (ih₂ · hi)
  | times body least most ih =>
    obtain ⟨k, -, -, hsteps⟩ := h
    exact hsteps.le_of_le (fun _ _ => ih) hi
  | capture body ih => exact ih h hi

/-! ### Sets of positions -/

theorem settle_eq_iterate (f : Nat → Nat) (rounds m : Nat) : settle f rounds m = f^[rounds] m := by
  induction rounds generalizing m with
  | zero => rfl
  | succ rounds ih =>
    rw [settle]
    split
    · next h => exact (Function.iterate_fixed h (rounds + 1)).symm
    · exact ih (f m)

section repeated

variable {f g : Nat → Nat} {step step' : Nat → Nat → Prop} {n : Nat}

/-- The positions of a set are those of a text. -/
def IsWithin (n m : Nat) : Prop := ∀ i, m.testBit i → i ≤ n

/-- A map of sets of positions leads where a relation leads. -/
def Follows (n : Nat) (f : Nat → Nat) (step : Nat → Nat → Prop) : Prop :=
  ∀ m, IsWithin n m → ∀ j, (f m).testBit j ↔ ∃ i, m.testBit i ∧ step i j

theorem Follows.isWithin (hf : Follows n f step) (hbound : ∀ i j, step i j → i ≤ n → j ≤ n)
    {m : Nat} (hm : IsWithin n m) : IsWithin n (f m) := by
  intro j hj
  obtain ⟨i, hi, hstep⟩ := (hf m hm j).mp hj
  exact hbound i j hstep (hm i hi)

theorem Follows.congr (hf : Follows n f step) (h : ∀ i j, i ≤ n → (step i j ↔ step' i j)) :
    Follows n f step' := by
  intro m hm j
  rw [hf m hm]
  exact exists_congr fun i => and_congr_right fun hi => h i j (hm i hi)

/-- One map after another follows one relation after another. -/
theorem Follows.comp (hf : Follows n f step) (hg : Follows n g step')
    (hbound : ∀ i j, step i j → i ≤ n → j ≤ n) :
    Follows n (fun m => g (f m)) fun i j => ∃ k, step i k ∧ step' k j := by
  intro m hm j
  rw [hg (f m) (hf.isWithin hbound hm)]
  constructor
  · rintro ⟨k, hk, h₂⟩
    obtain ⟨i, hi, h₁⟩ := (hf m hm k).mp hk
    exact ⟨i, hi, k, h₁, h₂⟩
  · rintro ⟨i, hi, k, h₁, h₂⟩
    exact ⟨k, (hf m hm k).mpr ⟨i, hi, h₁⟩, h₂⟩

/-- The positions of two maps are those of one relation or the other. -/
theorem Follows.or (hf : Follows n f step) (hg : Follows n g step') :
    Follows n (fun m => f m ||| g m) fun i j => step i j ∨ step' i j := by
  intro m hm j
  rw [Nat.testBit_or, Bool.or_eq_true, hf m hm, hg m hm, ← exists_or]
  exact exists_congr fun i => and_or_left.symm

theorem follows_id : Follows n (fun m => m) fun i j => j = i := by
  intro m _ j
  simp

/-- As many rounds of the map as of the relation. -/
theorem Follows.iterate (hf : Follows n f step) (hbound : ∀ i j, step i j → i ≤ n → j ≤ n)
    (rounds : Nat) : Follows n f^[rounds] (Steps step rounds) := by
  induction rounds with
  | zero => exact follows_id.congr fun _ _ _ => Steps.zero_iff.symm
  | succ rounds ih => exact (hf.comp ih hbound).congr fun _ _ _ => Steps.succ_iff.symm

/-- A map that keeps the positions it starts from makes up to so many rounds. -/
theorem Follows.iterate_or (hf : Follows n f step) (hbound : ∀ i j, step i j → i ≤ n → j ≤ n)
    (rounds : Nat) : Follows n (fun m => m ||| f m)^[rounds] fun i j =>
      ∃ k, k ≤ rounds ∧ Steps step k i j := by
  have hrest : Follows n (fun m => m) fun i j => i = j := follows_id.congr fun _ _ _ => eq_comm
  have hkeep : Follows n (fun m => m ||| f m) fun i j => i = j ∨ step i j := hrest.or hf
  have hboundKeep : ∀ i j, i = j ∨ step i j → i ≤ n → j ≤ n := by
    rintro i j (rfl | hstep) hi
    · exact hi
    · exact hbound i j hstep hi
  intro m hm j
  rw [hkeep.iterate hboundKeep rounds m hm]
  exact exists_congr fun i => and_congr_right fun _ => Steps.or_iff

end repeated

/-! ### Moves -/

/-- No repetition demands more rounds than it allows. -/
def IsOrdered : Regex → Prop
  | empty => True
  | chars _ => True
  | look _ => True
  | seq first second => first.IsOrdered ∧ second.IsOrdered
  | alt first second => first.IsOrdered ∧ second.IsOrdered
  | times body least most => body.IsOrdered ∧ ∀ m ∈ most, least ≤ m
  | capture body => body.IsOrdered

/-- Of the rounds of a repetition the first are demanded, and of the others as many are enough as a
text has positions. -/
theorem matches_times_iff {text : List Char} {body : Regex} {least : Nat} {most : Option Nat}
    (hmost : ∀ m ∈ most, least ≤ m) {i j : Nat} (hi : i ≤ text.length) :
    (times body least most).Matches text i j ↔
      ∃ l, Steps (body.Matches text) least i l ∧
        ∃ k, k ≤ (most.map (· - least)).getD (text.length + 1) ∧
          Steps (body.Matches text) k l j := by
  constructor
  · rintro ⟨k, hleast, hk, hsteps⟩
    have hsum : Steps (body.Matches text) (least + (k - least)) i j := by
      rwa [Nat.add_sub_cancel' hleast]
    obtain ⟨l, h₁, h₂⟩ := hsum.exists_of_add
    refine ⟨l, h₁, ?_⟩
    cases most with
    | some m => exact ⟨k - least, Nat.sub_le_sub_right (hk m rfl) least, h₂⟩
    | none =>
      obtain ⟨k', hk', hshort⟩ := h₂.exists_short fun _ _ => le_of_matches
      have hl : l ≤ text.length := h₁.le_of_le (fun _ _ => le_length_of_matches) hi
      have hj : j ≤ text.length := h₂.le_of_le (fun _ _ => le_length_of_matches) hl
      refine ⟨k', ?_, hshort⟩
      change k' ≤ text.length + 1
      omega
  · rintro ⟨l, h₁, k, hk, h₂⟩
    refine ⟨least + k, Nat.le_add_right _ _, ?_, h₁.trans h₂⟩
    rintro m hm
    cases hm
    have hle : least ≤ m := hmost m rfl
    have hk : k ≤ m - least := hk
    omega

/-- One position on, where the character of a set stands. -/
theorem follows_advance {text : List Char} {set : Unicode.Ranges} :
    Follows text.length ((moves (places text) (chars set)).reach (text.length + 1))
      ((chars set).Matches text) := by
  intro m _ j
  simp only [moves, Moves.reach, Nat.testBit_shiftLeft, Nat.testBit_and, Bool.and_eq_true,
    decide_eq_true_eq, testBit_positionsWhere, Matches]
  constructor
  · rintro ⟨hj, hm, p, hp, hset⟩
    rw [after_of_getElem?_places hp, Option.any_eq_true] at hset
    obtain ⟨c, hc, hset⟩ := hset
    exact ⟨j - 1, hm, by omega, c, hc, hset⟩
  · rintro ⟨i, hm, rfl, c, hc, hset⟩
    obtain ⟨p, hp⟩ := exists_getElem?_places (Nat.le_of_lt (List.getElem?_eq_some_iff.mp hc).1)
    refine ⟨Nat.le_add_left 1 i, hm, p, hp, ?_⟩
    rw [after_of_getElem?_places hp, hc]
    exact hset

/-- No further, where what is demanded holds. -/
theorem follows_keep {text : List Char} {assertion : Assertion} :
    Follows text.length ((moves (places text) (look assertion)).reach (text.length + 1))
      ((look assertion).Matches text) := by
  intro m _ j
  simp only [moves, Moves.reach, Nat.testBit_and, Bool.and_eq_true, testBit_positionsWhere,
    Matches]
  constructor
  · rintro ⟨hm, hp⟩
    exact ⟨j, hm, rfl, hp⟩
  · rintro ⟨i, hm, rfl, hp⟩
    exact ⟨hm, hp⟩

/-- **Moves.** The moves of an expression lead from a set of positions to those that the expression
connects with it. -/
theorem follows_moves {text : List Char} {r : Regex} (hr : r.IsOrdered) :
    Follows text.length ((r.moves (places text)).reach (text.length + 1)) (r.Matches text) := by
  induction r with
  | empty => exact follows_id
  | chars set => exact follows_advance
  | look assertion => exact follows_keep
  | seq first second ih₁ ih₂ =>
    exact (ih₁ hr.1).comp (ih₂ hr.2) fun _ _ => le_length_of_matches
  | alt first second ih₁ ih₂ => exact (ih₁ hr.1).or (ih₂ hr.2)
  | times body least most ih =>
    have hbound : ∀ i j, body.Matches text i j → i ≤ text.length → j ≤ text.length :=
      fun _ _ => le_length_of_matches
    have hdemanded := (ih hr.1).iterate hbound least
    have hmore := (ih hr.1).iterate_or hbound ((most.map (· - least)).getD (text.length + 1))
    have hrounds := hdemanded.comp hmore fun _ _ hs => hs.le_of_le hbound
    simp only [moves, Moves.reach, settle_eq_iterate]
    exact hrounds.congr fun i j hi => (matches_times_iff hr.2 hi).symm
  | capture body ih => exact ih hr

/-- **Acceptance.** A text is accepted where the expression leads from one of its positions to one
of its positions. -/
theorem accepts_iff {r : Regex} (hr : r.IsOrdered) (text : List Char) :
    r.accepts text ↔ ∃ i j, i ≤ text.length ∧ r.Matches text i j := by
  have hall : ∀ i, (2 ^ (text.length + 1) - 1).testBit i ↔ i ≤ text.length := by
    intro i
    rw [Nat.testBit_two_pow_sub_one, decide_eq_true_iff, Nat.lt_succ_iff]
  have hfollows : Follows text.length ((r.moves (places text)).reach (text.length + 1))
      (r.Matches text) := follows_moves hr
  have hreach := hfollows _ fun i hi => (hall i).mp hi
  rw [accepts, decide_eq_true_iff, length_places]
  constructor
  · intro hne
    obtain ⟨j, hj⟩ := Nat.exists_testBit_of_ne_zero hne
    obtain ⟨i, hi, h⟩ := (hreach j).mp hj
    exact ⟨i, j, (hall i).mp hi, h⟩
  · rintro ⟨i, j, hi, h⟩ hzero
    have hj := (hreach j).mpr ⟨i, (hall i).mpr hi, h⟩
    rw [hzero, Nat.zero_testBit] at hj
    cases hj

/-! ### Ties -/

/-- An expression between its ties. -/
def tied (r : Regex) : Regex := .seq (.look .textStart) (.seq r (.look .textEnd))

theorem matches_textStart {text : List Char} {i j : Nat} :
    (look .textStart).Matches text i j ↔ i = 0 ∧ j = 0 := by
  constructor
  · rintro ⟨rfl, p, hp, hholds⟩
    cases j with
    | zero => exact ⟨rfl, rfl⟩
    | succ j =>
      rw [places, getElem?_placesFrom_succ] at hp
      split at hp
      · next hlt =>
        cases hp
        rw [Assertion.holds, List.getElem?_eq_getElem hlt] at hholds
        cases hholds
      · cases hp
  · rintro ⟨rfl, rfl⟩
    exact ⟨rfl, _, getElem?_placesFrom_zero none text, rfl⟩

theorem matches_textEnd {text : List Char} {i j : Nat} (hi : i ≤ text.length) :
    (look .textEnd).Matches text i j ↔ i = text.length ∧ j = text.length := by
  constructor
  · rintro ⟨rfl, p, hp, hholds⟩
    rw [Assertion.holds, after_of_getElem?_places hp, Option.isNone_iff_eq_none,
      List.getElem?_eq_none_iff] at hholds
    have hj : j = text.length := Nat.le_antisymm hi hholds
    exact ⟨hj, hj⟩
  · rintro ⟨rfl, rfl⟩
    obtain ⟨p, hp⟩ := exists_getElem?_places (Nat.le_refl text.length)
    refine ⟨rfl, p, hp, ?_⟩
    rw [Assertion.holds, after_of_getElem?_places hp, List.getElem?_eq_none (Nat.le_refl _)]
    rfl

/-- Between its ties an expression is accepted where it matches the text as a whole. -/
theorem accepts_tied {r : Regex} (hr : r.IsOrdered) (text : List Char) :
    r.tied.accepts text ↔ r.Matches text 0 text.length := by
  have htied : r.tied.IsOrdered := ⟨trivial, hr, trivial⟩
  rw [accepts_iff htied]
  constructor
  · rintro ⟨i, j, -, k, hstart, l, h, hend⟩
    obtain ⟨rfl, rfl⟩ := matches_textStart.mp hstart
    have hl : l ≤ text.length := le_length_of_matches h (Nat.zero_le _)
    obtain ⟨rfl, rfl⟩ := (matches_textEnd hl).mp hend
    exact h
  · intro h
    exact ⟨0, text.length, Nat.zero_le _, 0, matches_textStart.mpr ⟨rfl, rfl⟩, text.length, h,
      (matches_textEnd (Nat.le_refl _)).mpr ⟨rfl, rfl⟩⟩

end Regex

end RegistrySearch.Pattern
