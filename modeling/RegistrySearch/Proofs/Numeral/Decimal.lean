import RegistrySearch.Json.Number

/-!
# Decimal digits

The digits that a natural number is written with, as numbers (`decimal`). They denote it, and those
of a positive number begin with no zero.
-/

namespace RegistrySearch.Numeral

/-- The digits of a number, from the highest on. -/
def decimal (n : Nat) : List Nat := (Nat.toDigits 10 n).filterMap digit?

theorem digit?_digitChar {n : Nat} (h : n < 10) : digit? n.digitChar = some n := by
  match n with
  | 0 | 1 | 2 | 3 | 4 | 5 | 6 | 7 | 8 | 9 => rfl
  | _ + 10 => omega

theorem decimal_of_lt {n : Nat} (h : n < 10) : decimal n = [n] := by
  rw [decimal, Nat.toDigits_of_lt_base h, List.filterMap_cons, digit?_digitChar h,
    List.filterMap_nil]

theorem decimal_of_le {n : Nat} (h : 10 ≤ n) : decimal n = decimal (n / 10) ++ [n % 10] := by
  have hd : digit? (n % 10).digitChar = some (n % 10) :=
    digit?_digitChar (Nat.mod_lt n (by decide))
  rw [decimal, Nat.toDigits_of_base_le (by decide) h, List.filterMap_append, List.filterMap_cons,
    hd, List.filterMap_nil, decimal]

/-- **Digits.** The digits of a number denote it. -/
theorem ofDigits_decimal (n : Nat) : ofDigits (decimal n) = n := by
  induction n using Nat.strongRecOn with
  | ind n ih =>
    rcases Nat.lt_or_ge n 10 with h | h
    · rw [decimal_of_lt h, ofDigits, List.foldl_cons, List.foldl_nil]
      omega
    · have hq := ih (n / 10) (by omega)
      rw [ofDigits] at hq
      rw [decimal_of_le h, ofDigits, List.foldl_append, hq, List.foldl_cons, List.foldl_nil]
      exact Nat.div_add_mod n 10

theorem decimal_zero : decimal 0 = [0] := decimal_of_lt (by decide)

/-- The digits of a positive number have no leading zero. -/
theorem exists_cons_decimal {n : Nat} (h : 0 < n) :
    ∃ d rest, decimal n = (d + 1) :: rest := by
  induction n using Nat.strongRecOn with
  | ind n ih =>
    rcases Nat.lt_or_ge n 10 with hlt | hge
    · exact ⟨n - 1, [], by rw [decimal_of_lt hlt, Nat.sub_add_cancel h]⟩
    · obtain ⟨d, rest, hd⟩ := ih (n / 10) (by omega) (by omega)
      exact ⟨d, rest ++ [n % 10], by rw [decimal_of_le hge, hd, List.cons_append]⟩

/-- A number is written with digits alone. -/
theorem isSome_digit?_of_mem {n : Nat} {c : Char} (h : c ∈ Nat.toDigits 10 n) :
    (digit? c).isSome := by
  have hc := Nat.isDigit_of_mem_toDigits (by decide) (by decide) h
  rw [Char.isDigit, Bool.and_eq_true, decide_eq_true_iff, decide_eq_true_iff] at hc
  rw [digit?, if_pos ⟨hc.1, hc.2⟩]
  rfl

end RegistrySearch.Numeral
