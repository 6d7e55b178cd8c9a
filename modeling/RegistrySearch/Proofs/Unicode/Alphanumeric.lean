import RegistrySearch.Unicode.Alphanumeric
import RegistrySearch.Unicode.Blank

/-!
# Alphanumeric characters and blanks

Among the ASCII characters the letters and digits are alphanumeric, and no blank is. The tables are
gone through once, here.
-/

namespace RegistrySearch.Unicode

private theorem contains_alphanumericTable_ascii :
    ∀ n < 128, alphanumericTable.contains n = (Char.ofNat n).isAlphanum := by
  decide +kernel

private theorem contains_alphanumericTable_blank :
    ∀ row ∈ blankRanges.rows, ∀ n ∈ List.range' row.1 (row.2 - row.1 + 1),
      alphanumericTable.contains n = false := by
  decide +kernel

/-- The ASCII letters and digits are the alphanumeric ASCII characters. -/
theorem isAlphanumeric_of_lt {c : Char} (h : c.toNat < 128) : isAlphanumeric c = c.isAlphanum := by
  rw [isAlphanumeric, contains_alphanumericTable_ascii c.toNat h, Char.ofNat_toNat]

/-- An alphanumeric character is none of the other characters of ASCII. -/
theorem ne_of_isAlphanumeric {c d : Char} (h : isAlphanumeric c) (hlt : d.toNat < 128)
    (hd : d.isAlphanum = false) : c ≠ d := by
  rintro rfl
  rw [isAlphanumeric_of_lt hlt, hd] at h
  cases h

/-- An alphanumeric character is no blank. -/
theorem not_isBlank_of_isAlphanumeric {c : Char} (h : isAlphanumeric c) : isBlank c = false := by
  rw [← Bool.not_eq_true]
  intro hblank
  rw [isBlank, Ranges.contains, List.any_eq_true] at hblank
  obtain ⟨row, hrow, hbounds⟩ := hblank
  simp only [Bool.and_eq_true, decide_eq_true_eq] at hbounds
  have hmem : c.toNat ∈ List.range' row.1 (row.2 - row.1 + 1) := by
    rw [List.mem_range'_1]
    omega
  have hnot := contains_alphanumericTable_blank row hrow c.toNat hmem
  rw [isAlphanumeric, hnot] at h
  cases h

end RegistrySearch.Unicode
