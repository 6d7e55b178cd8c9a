import RegistrySearch.Proofs.Numeral.Decimal
import RegistrySearch.Proofs.Text.Stability

/-!
# Texts of integers

An integer is written with digits and a sign, and normalizing leaves these as they are. Analysis
does not: a sign is no part of a word, so the only term of an integer is that of its magnitude
(`Text.analyze_toString`).
-/

namespace RegistrySearch

namespace Numeral

/-! ### Digits -/

theorem isSome_digit?_iff {c : Char} : (digit? c).isSome ↔ 48 ≤ c.toNat ∧ c.toNat ≤ 57 := by
  have hbounds : ('0' ≤ c ∧ c ≤ '9') ↔ 48 ≤ c.toNat ∧ c.toNat ≤ 57 := by
    simp only [Char.le_def, UInt32.le_iff_toNat_le]
    rfl
  rw [← hbounds, digit?, Option.isSome_ite]

/-- Digits are read one by one, and nothing else is. -/
theorem mapM_digit? (s : List Char) : s.mapM digit? =
    if s.all fun c => (digit? c).isSome then some (s.filterMap digit?) else none := by
  induction s with
  | nil => rfl
  | cons c s ih =>
    rw [List.mapM_cons, ih, List.filterMap_cons, List.all_cons]
    cases digit? c with
    | none => rfl
    | some d =>
      simp only [Option.isSome_some, Bool.true_and]
      split <;> rfl

/-- A natural number is read off digits alone. -/
theorem natural?_eq_some_iff {s : List Char} {n : Nat} : natural? s = some n ↔
    s ≠ [] ∧ (∀ c ∈ s, (digit? c).isSome) ∧ ofDigits (s.filterMap digit?) = n := by
  rw [natural?, mapM_digit?, ← List.all_eq_true]
  cases s with
  | nil => simp
  | cons c s => simp

theorem natural?_toDigits (n : Nat) : natural? (Nat.toDigits 10 n) = some n := by
  refine natural?_eq_some_iff.mpr
    ⟨Nat.toDigits_ne_nil, fun _ hc => isSome_digit?_of_mem hc, ?_⟩
  rw [← decimal, ofDigits_decimal]

/-! ### Integers -/

/-- An integer is written as the digits of its magnitude, behind a minus if it is negative. -/
theorem toList_toString (n : Int) : (toString n).toList =
    if n < 0 then '-' :: Nat.toDigits 10 n.natAbs else Nat.toDigits 10 n.natAbs := by
  cases n with
  | ofNat n =>
    have hnot : ¬Int.ofNat n < 0 := Int.not_lt.mpr (Int.natCast_nonneg n)
    rw [if_neg hnot]
    exact Nat.toList_repr
  | negSucc n =>
    have happend : (toString (Int.negSucc n)).toList = '-' :: (Nat.repr (n + 1)).toList :=
      String.toList_append
    rw [if_pos (Int.negSucc_lt_zero n), happend, Nat.toList_repr]
    rfl

/-- The integers that are written with the digits of a number alone. -/
theorem ofList_toDigits_eq_iff {k : Nat} {n : Int} :
    String.ofList (Nat.toDigits 10 k) = toString n ↔ n = k := by
  rw [← String.toList_inj, String.toList_ofList, toList_toString]
  split
  · next hneg =>
    refine iff_of_false (fun h => ?_) (by omega)
    have hdigit : (digit? '-').isSome := isSome_digit?_of_mem (h ▸ List.mem_cons_self)
    exact absurd hdigit (by decide)
  · constructor
    · intro h
      have hread := congrArg natural? h
      rw [natural?_toDigits, natural?_toDigits, Option.some.injEq] at hread
      omega
    · rintro rfl
      rfl

/-- What begins with a digit is read without a sign. -/
theorem readInt64?_of_isSome {c : Char} {t : List Char} (hc : (digit? c).isSome) :
    readInt64? (String.ofList (c :: t)) = (natural? (c :: t)).bind fun n => int64? n := by
  have hsign : c ≠ '-' ∧ c ≠ '+' := by
    rw [isSome_digit?_iff] at hc
    constructor <;> (rintro rfl; exact absurd hc (by decide))
  rw [readInt64?, String.toList_ofList]
  split
  · next h => exact absurd (List.cons.inj h).1 hsign.1
  · next h => exact absurd (List.cons.inj h).1 hsign.2
  · rfl

/-- An integer is read back as it is written. -/
theorem readInt64?_toString (n : Int64) : readInt64? (toString n.toInt) = some n := by
  have hword : int64? n.toInt = some n := by
    rw [int64?, if_pos ⟨Int64.le_toInt n, Int64.toInt_lt n⟩, Int64.ofInt_toInt]
  rw [← String.ofList_toList (s := toString n.toInt), toList_toString]
  split
  · rw [readInt64?, String.toList_ofList]
    simp only [natural?_toDigits, Option.bind_some]
    rwa [show -(n.toInt.natAbs : Int) = n.toInt by omega]
  · obtain ⟨c, t, ht⟩ := List.exists_cons_of_ne_nil
      (Nat.toDigits_ne_nil (n := n.toInt.natAbs) (b := 10))
    have hc : (digit? c).isSome := isSome_digit?_of_mem (ht ▸ List.mem_cons_self)
    rw [ht, readInt64?_of_isSome hc, ← ht, natural?_toDigits, Option.bind_some]
    rwa [show (n.toInt.natAbs : Int) = n.toInt by omega]

/-- Whether a character is a digit or a sign. -/
def isNumeralChar (c : Char) : Bool := (digit? c).isSome || c = '+' || c = '-'

/-- What is read as an integer has digits, and no characters but those and signs. -/
theorem isNumeralChar_of_readInt64? {s : String} {n : Int64} (h : readInt64? s = some n) :
    (∃ c ∈ s.toList, (digit? c).isSome) ∧ ∀ c ∈ s.toList, isNumeralChar c := by
  have hdigits : ∀ {t : List Char} {k : Nat}, natural? t = some k →
      (∃ c ∈ t, (digit? c).isSome) ∧ ∀ c ∈ t, isNumeralChar c := by
    intro t k ht
    obtain ⟨hne, hall, -⟩ := natural?_eq_some_iff.mp ht
    obtain ⟨c, hc⟩ := List.exists_mem_of_ne_nil t hne
    refine ⟨⟨c, hc, hall c hc⟩, fun d hd => ?_⟩
    simp only [isNumeralChar, hall d hd, Bool.true_or]
  have hsigned : ∀ {c : Char} {t : List Char} {k : Nat}, isNumeralChar c → natural? t = some k →
      (∃ d ∈ c :: t, (digit? d).isSome) ∧ ∀ d ∈ c :: t, isNumeralChar d := by
    intro c t k hc ht
    obtain ⟨⟨d, hd, hdigit⟩, hall⟩ := hdigits ht
    exact ⟨⟨d, List.mem_cons_of_mem c hd, hdigit⟩, List.forall_mem_cons.mpr ⟨hc, hall⟩⟩
  rw [readInt64?] at h
  split at h
  · next t ht =>
    obtain ⟨k, hk, -⟩ := Option.bind_eq_some_iff.mp h
    exact ht ▸ hsigned rfl hk
  · next t ht =>
    obtain ⟨k, hk, -⟩ := Option.bind_eq_some_iff.mp h
    exact ht ▸ hsigned rfl hk
  · obtain ⟨k, hk, -⟩ := Option.bind_eq_some_iff.mp h
    exact hdigits hk

theorem isNumeralChar_of_mem_toString {n : Int} {c : Char} (h : c ∈ (toString n).toList) :
    isNumeralChar c := by
  have hdigit : c ∈ Nat.toDigits 10 n.natAbs → isNumeralChar c := fun h => by
    simp only [isNumeralChar, isSome_digit?_of_mem h, Bool.true_or]
  rw [toList_toString] at h
  split at h
  · obtain rfl | h := List.mem_cons.mp h
    · rfl
    · exact hdigit h
  · exact hdigit h

theorem toNat_of_isNumeralChar {c : Char} (h : isNumeralChar c) :
    43 ≤ c.toNat ∧ c.toNat ≤ 57 := by
  simp only [isNumeralChar, Bool.or_eq_true, decide_eq_true_eq, isSome_digit?_iff] at h
  obtain (h | rfl) | rfl := h
  · omega
  · decide
  · decide

end Numeral

namespace Text

open Numeral
open Unicode

/-! ### Normal forms -/

theorem not_isBlank_of_isNumeralChar {c : Char} (h : isNumeralChar c) : isBlank c = false := by
  have hbounds := toNat_of_isNumeralChar h
  rw [← Bool.not_eq_true, isBlank, contains_iff]
  simp only [blankRanges, List.exists_mem_cons_iff, List.not_mem_nil, false_and, exists_false,
    or_false]
  omega

/-- A text of digits and signs is its own normal form. -/
theorem normalizeChars_numeral {s : List Char} (h : ∀ c ∈ s, isNumeralChar c) :
    normalizeChars s = s := by
  have hsettled : IsSettled s := isSettled_of_lt fun c hc => by
    have hbounds := toNat_of_isNumeralChar (h c hc)
    omega
  exact hsettled.normalizeChars_eq_of_not_isBlank fun c hc => not_isBlank_of_isNumeralChar (h c hc)

theorem normalize_numeral {s : String} (h : ∀ c ∈ s.toList, isNumeralChar c) : normalize s = s := by
  rw [normalize, normalizeChars_numeral h, String.ofList_toList]

/-! ### Terms -/

/-- The digits of a number are a term. -/
theorem isTerm_toDigits (n : Nat) : IsTerm (String.ofList (Nat.toDigits 10 n)) := by
  have halnum : ∀ c ∈ Nat.toDigits 10 n, isAlphanumeric c := by
    intro c hc
    have hbounds := isSome_digit?_iff.mp (isSome_digit?_of_mem hc)
    have hdigit := Nat.isDigit_of_mem_toDigits (by decide) (by decide) hc
    rw [isAlphanumeric_of_lt (by omega), Char.isAlphanum, hdigit, Bool.or_true]
  have hnormal : normalizeChars (Nat.toDigits 10 n) = Nat.toDigits 10 n :=
    normalizeChars_numeral fun c hc => by
      simp only [isNumeralChar, isSome_digit?_of_mem hc, Bool.true_or]
  refine ⟨by rwa [String.toList_ofList], ?_⟩
  rw [analyze_word Nat.toDigits_ne_nil halnum (hnormal.symm ▸ Nat.toDigits_ne_nil), hnormal]

/-- The term of an integer is that of its magnitude. -/
theorem analyze_toString (n : Int) :
    analyze (toString n) = [String.ofList (Nat.toDigits 10 n.natAbs)] := by
  have hdigits := (isTerm_toDigits n.natAbs).analyze_eq
  rw [← String.ofList_toList (s := toString n), toList_toString]
  split
  · have hminus : isAlphanumeric '-' = false := isAlphanumeric_of_lt (by decide)
    have hcut : IsCut isAlphanumeric ['-'] (Nat.toDigits 10 n.natAbs) := by
      intro c hc d _ halnum
      have hc : c = '-' := (Option.some.inj hc).symm
      rw [hc, hminus] at halnum
      cases halnum
    have hnone : analyze (String.ofList ['-']) = [] := by
      rw [analyze, String.toList_ofList, analyzeChars, runs, runsFrom, hminus]
      rfl
    rw [← List.singleton_append, analyze_append hcut, hdigits, hnone, List.nil_append]
  · exact hdigits

end Text

end RegistrySearch
