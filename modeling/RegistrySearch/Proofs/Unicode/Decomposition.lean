import RegistrySearch.Proofs.Unicode.Alphanumeric
import RegistrySearch.Proofs.Unicode.CodePoints

/-!
# Decompositions and lower-case forms

What the decompositions and the lower-case forms of characters have in common, in every script. A
character decomposes to characters that decompose no further. An alphanumeric character decomposes
to itself or to characters with a letter or digit among them, any other to characters without one.
Decomposed characters have lower-case forms that are decomposed and lower case themselves
(`IsLower`), and alphanumeric if the character is.
-/

namespace RegistrySearch.Unicode

open Text (isDiacritic)

/-! ### Properties as sets -/

theorem isAlphanumeric_iff {c : Char} : isAlphanumeric c ↔ alphanumericBits.testBit c.toNat := by
  obtain ⟨hvalid, hchain⟩ := rowsFit.alphanumeric
  have hascending : IsAscending alphanumericRanges.rows :=
    ⟨hvalid, pairwise_of_isChain hchain hvalid⟩
  rw [isAlphanumeric, alphanumericTable, contains_toTable hascending, contains_iff,
    alphanumericBits, testBit_rangeBits]

theorem isDiacritic_iff {c : Char} : isDiacritic c ↔ diacriticBits.testBit c.toNat := by
  rw [diacriticBits, testBit_rangeBits]
  simp [isDiacritic, or_assoc]

theorem isBlank_iff {c : Char} : isBlank c ↔ blankBits.testBit c.toNat := by
  rw [isBlank, contains_iff, blankBits, testBit_rangeBits]

theorem combiningClass_ne_zero_iff {c : Char} :
    combiningClass c ≠ 0 ↔ combiningBits.testBit c.toNat := by
  obtain ⟨hvalid, hchain⟩ := rowsFit.combining
  have hpairwise : combiningRows.Pairwise fun x y => x.2.1 < y.1 :=
    pairwise_of_isChain hchain fun row hrow => (hvalid row hrow).1
  have hfirst : combiningRows.Pairwise fun x y => x.1 < y.1 :=
    hpairwise.imp_of_mem fun {x y} hx _ h => Nat.lt_of_le_of_lt (hvalid x hx).1 h
  rw [combiningBits, testBit_rangeBits]
  constructor
  · intro h
    rw [combiningClass] at h
    split at h
    · exact absurd rfl h
    · split at h
      · next first last k hrow =>
        have hmem : (first, last, k) ∈ combiningRows := mem_of_getElem?_bisect hrow
        split at h
        · next hin => exact ⟨(first, last), List.mem_map.mpr ⟨_, hmem, rfl⟩, by simpa using hin⟩
        · exact absurd rfl h
      · exact absurd rfl h
  · rintro ⟨_, hmem, hle, hge⟩
    obtain ⟨row, hrow, rfl⟩ := List.mem_map.mp hmem
    obtain ⟨-, hk, hlow⟩ := hvalid row hrow
    -- if bisection found a row behind this one, that row would begin behind the code point
    obtain ⟨found, hget, hfound, rfl | hlt⟩ :=
      exists_getElem?_bisect hfirst hrow hle hpairwise
    · rw [combiningClass, if_neg (by omega), combiningTable, hget]
      simpa [hle, hge] using hk
    · omega

/-! ### Entries -/

private theorem entryAt?_sequenceTable {n : Nat} {parts : List Nat} :
    entryAt? sequenceTable n = some parts ↔ (n, parts) ∈ sequenceTable.toList :=
  entryAt?_eq_some_iff (pairwise_of_isChain rowsFit.sequence fun _ _ => Nat.le_refl _)

private theorem entryAt?_singletonTable {n p : Nat} :
    entryAt? singletonTable n = some p ↔ (n, p) ∈ singletonTable.toList :=
  entryAt?_eq_some_iff (pairwise_of_isChain rowsFit.singleton fun _ _ => Nat.le_refl _)

private theorem mem_decompositions {n : Nat} {parts : List Nat} :
    (n, parts) ∈ decompositions ↔ entryAt? sequenceTable n = some parts ∨
      ∃ p, entryAt? singletonTable n = some p ∧ parts = [p] := by
  simp only [entryAt?_sequenceTable, entryAt?_singletonTable, decompositions, List.mem_append,
    List.mem_map, Prod.mk.injEq, Prod.exists]
  refine or_congr_right ⟨?_, ?_⟩
  · rintro ⟨_, p, h, rfl, rfl⟩
    exact ⟨p, h, rfl⟩
  · rintro ⟨p, h, rfl⟩
    exact ⟨n, p, h, rfl, rfl⟩

/-- No code point has an entry in both tables. -/
private theorem entryAt?_sequenceTable_eq_none {n p : Nat}
    (h : entryAt? singletonTable n = some p) : entryAt? sequenceTable n = none := by
  have hkey : n ∈ singletonTable.toList.map (·.1) :=
    List.mem_map_of_mem (entryAt?_singletonTable.mp h)
  rw [Option.eq_none_iff_forall_ne_some]
  intro parts hparts
  have hkey' : n ∈ sequenceTable.toList.map (·.1) :=
    List.mem_map_of_mem (entryAt?_sequenceTable.mp hparts)
  exact not_testBit_of_and_eq_zero rowsFit.disjoint.1 (testBit_bits.mpr hkey')
    (testBit_bits.mpr hkey)

theorem testBit_compositeBits {n : Nat} :
    compositeBits.testBit n ↔ ∃ parts, IsEntry n parts := by
  rw [compositeBits, Nat.testBit_or, Bool.or_eq_true, testBit_bits, List.mem_map]
  constructor
  · rintro (⟨⟨n, parts⟩, h, rfl⟩ | h)
    · exact ⟨parts, .table h⟩
    · exact ⟨_, .syllable h rfl⟩
  · rintro ⟨parts, h | ⟨h, -⟩⟩
    · exact .inl ⟨_, h, rfl⟩
    · exact .inr h

theorem testBit_syllableBits {n : Nat} :
    syllableBits.testBit n ↔ 0xAC00 ≤ n ∧ n ≤ 0xD7A3 := by
  simp [syllableBits, testBit_rangeBits]

/-- A character decomposes to the parts of its entry, if it has one. -/
theorem decompose_of_isEntry {c : Char} {parts : List Nat} (h : IsEntry c.toNat parts) :
    decompose c = parts.map Char.ofNat := by
  simp only [decompose]
  cases h with
  | table h =>
    have hkey : (bits (decompositions.map (·.1))).testBit c.toNat :=
      testBit_bits.mpr (List.mem_map.mpr ⟨_, h, rfl⟩)
    have hsyllable := mt testBit_syllableBits.mpr
      (not_testBit_of_and_eq_zero rowsFit.disjoint.2 hkey)
    rw [if_neg (Nat.not_lt.mpr (rowsFit.composite _ h)), if_neg hsyllable]
    obtain hsequence | ⟨p, hsingleton, rfl⟩ := mem_decompositions.mp h
    · simp only [hsequence]
    · simp only [entryAt?_sequenceTable_eq_none hsingleton, hsingleton, Option.elim_some,
        List.map_singleton]
  | syllable h he =>
    have hin := testBit_syllableBits.mp h
    rw [if_neg (by omega), if_pos hin, he]

/-- The characters in front of the first entry stay as they are. -/
theorem decompose_of_lt {c : Char} (h : c.toNat < 0xC0) : decompose c = [c] := by
  simp only [decompose, if_pos h]

/-- A character without an entry stays as it is. -/
theorem decompose_of_not_testBit {c : Char} (h : ¬compositeBits.testBit c.toNat) :
    decompose c = [c] := by
  rw [testBit_compositeBits, not_exists] at h
  simp only [decompose]
  split
  · rfl
  · split
    · next hin => exact absurd (.syllable (testBit_syllableBits.mpr hin) rfl) (h _)
    · split
      · next parts hsequence =>
        exact absurd (.table (mem_decompositions.mpr (.inl hsequence))) (h parts)
      · cases hsingleton : entryAt? singletonTable c.toNat with
        | none => rfl
        | some p =>
          exact absurd (.table (mem_decompositions.mpr (.inr ⟨p, hsingleton, rfl⟩))) (h [p])

/-! ### Parts -/

private theorem testBit_jamoBits {p index : Nat} (hindex : index < 11172)
    (h : p ∈ hangulLetters index) : jamoBits.testBit p := by
  simp only [jamoBits, testBit_rangeBits, List.exists_mem_cons_iff, List.not_mem_nil, false_and,
    exists_false, or_false]
  simp only [hangulLetters] at h
  split at h
  · simp only [List.mem_cons, List.not_mem_nil, or_false, hangulPerLead, hangulPerVowel] at h
    omega
  · next hrest =>
    simp only [List.mem_cons, List.not_mem_nil, or_false, hangulPerLead, hangulPerVowel] at h hrest
    omega

namespace IsEntry

variable {n p : Nat} {parts : List Nat}

/-- The parts of a syllable are letters. -/
private theorem testBit_jamoBits_of_syllable (h : syllableBits.testBit n)
    (hp : p ∈ hangulLetters (n - 0xAC00)) : jamoBits.testBit p := by
  have hin := testBit_syllableBits.mp h
  exact testBit_jamoBits (by omega) hp

theorem testBit_partBits (h : IsEntry n parts) (hp : p ∈ parts) : partBits.testBit p := by
  rw [partBits, Nat.testBit_or, Bool.or_eq_true]
  cases h with
  | table h => exact .inl (testBit_bits.mpr (List.mem_flatMap.mpr ⟨_, h, hp⟩))
  | syllable h he => exact .inr (testBit_jamoBits_of_syllable h (he ▸ hp))

theorem isValidChar (h : IsEntry n parts) (hp : p ∈ parts) : p.isValidChar := by
  have hchar := testBit_of_and_eq partsFit.parts.1 (h.testBit_partBits hp)
  rw [charBits, testBit_rangeBits] at hchar
  rw [Nat.isValidChar]
  simp only [List.exists_mem_cons_iff, List.not_mem_nil, false_and, exists_false, or_false] at hchar
  omega

theorem toNat_ofNat (h : IsEntry n parts) (hp : p ∈ parts) : (Char.ofNat p).toNat = p := by
  rw [Char.ofNat, dif_pos (h.isValidChar hp)]
  rfl

theorem ne_nil (h : IsEntry n parts) : parts ≠ [] := by
  cases h with
  | table h =>
    have hentry := List.all_eq_true.mp partsFit.entries _ h
    rw [Bool.and_eq_true] at hentry
    simpa using hentry.1
  | syllable h he =>
    rw [he, hangulLetters]
    split <;> exact List.cons_ne_nil _ _

/-- Among the parts of an alphanumeric character is a letter or digit that is no diacritic, and none
of them is blank. -/
theorem parts_of_alphanumeric (h : IsEntry n parts) (hn : alphanumericBits.testBit n) :
    (∃ p ∈ parts, alphanumericBits.testBit p ∧ ¬diacriticBits.testBit p) ∧
      ∀ p ∈ parts, ¬blankBits.testBit p := by
  have hne := h.ne_nil
  have hvalid : ∀ p ∈ parts, (Char.ofNat p).toNat = p := fun p hp => h.toNat_ofNat hp
  cases h with
  | table h =>
    have hentry := List.all_eq_true.mp partsFit.entries _ h
    simp only [hn, if_true, Bool.and_eq_true, List.all_eq_true, Bool.not_eq_true'] at hentry
    obtain ⟨-, ⟨hfirst, hdiacritic⟩, hblank⟩ := hentry
    refine ⟨⟨_, ?_, hfirst, by rw [hdiacritic]; decide⟩, fun p hp => by rw [hblank p hp]; decide⟩
    cases parts with
    | nil => exact absurd rfl hne
    | cons p parts => exact List.mem_cons_self
  | syllable h he =>
    have hjamo : ∀ p ∈ parts, jamoBits.testBit p := fun p hp =>
      testBit_jamoBits_of_syllable h (he ▸ hp)
    have hall : ∀ p ∈ parts, alphanumericBits.testBit p := fun p hp =>
      testBit_of_and_eq partsFit.jamo.1 (hjamo p hp)
    obtain ⟨p, hp⟩ := List.exists_mem_of_ne_nil _ hne
    have hdiacritic := not_testBit_of_and_eq_zero partsFit.jamo.2 (hjamo p hp)
    refine ⟨⟨p, hp, hall p hp, hdiacritic⟩, ?_⟩
    intro p hp
    have halnum := hall p hp
    rw [← hvalid p hp] at halnum ⊢
    rw [← isBlank_iff, not_isBlank_of_isAlphanumeric (isAlphanumeric_iff.mpr halnum)]
    decide

/-- No part of another character is alphanumeric. -/
theorem parts_of_not_alphanumeric (h : IsEntry n parts) (hn : ¬alphanumericBits.testBit n)
    (hp : p ∈ parts) : ¬alphanumericBits.testBit p := by
  cases h with
  | table h =>
    have hentry := List.all_eq_true.mp partsFit.entries _ h
    simp only [hn, if_false, Bool.and_eq_true, List.all_eq_true, Bool.not_eq_true',
      Bool.false_eq_true] at hentry
    rw [hentry.2 p hp]
    decide
  | syllable h he =>
    exact absurd (testBit_of_and_eq partsFit.syllable h) hn

end IsEntry

/-! ### Characters -/

variable {c e : Char}

/-- What a character decomposes to is itself or a part of its entry. -/
theorem mem_decompose (h : e ∈ decompose c) :
    e = c ∧ ¬compositeBits.testBit c.toNat ∨
      ∃ parts, IsEntry c.toNat parts ∧ e.toNat ∈ parts := by
  by_cases hc : compositeBits.testBit c.toNat
  · obtain ⟨parts, hentry⟩ := testBit_compositeBits.mp hc
    rw [decompose_of_isEntry hentry] at h
    obtain ⟨p, hp, rfl⟩ := List.mem_map.mp h
    exact .inr ⟨parts, hentry, (hentry.toNat_ofNat hp).symm ▸ hp⟩
  · rw [decompose_of_not_testBit hc] at h
    exact .inl ⟨List.mem_singleton.mp h, hc⟩

/-- A character that stays as it is has no entry. -/
theorem not_testBit_of_decompose_eq (h : decompose c = [c]) :
    ¬compositeBits.testBit c.toNat := by
  intro hc
  obtain ⟨parts, hentry⟩ := testBit_compositeBits.mp hc
  obtain ⟨p, hp⟩ := List.exists_mem_of_ne_nil _ hentry.ne_nil
  have hmem : Char.ofNat p ∈ decompose c := by
    rw [decompose_of_isEntry hentry]
    exact List.mem_map_of_mem hp
  rw [h, List.mem_singleton] at hmem
  have hpart := hentry.testBit_partBits hp
  rw [← hentry.toNat_ofNat hp, hmem] at hpart
  exact not_testBit_of_and_eq_zero partsFit.parts.2.1 hpart hc

/-- **Decompositions are full.** -/
theorem decompose_of_mem_decompose (h : e ∈ decompose c) : decompose e = [e] := by
  obtain ⟨rfl, hc⟩ | ⟨parts, hentry, he⟩ := mem_decompose h
  · exact decompose_of_not_testBit hc
  · exact decompose_of_not_testBit
      (not_testBit_of_and_eq_zero partsFit.parts.2.1 (hentry.testBit_partBits he))

theorem decompose_ne_nil (c : Char) : decompose c ≠ [] := by
  by_cases hc : compositeBits.testBit c.toNat
  · obtain ⟨parts, hentry⟩ := testBit_compositeBits.mp hc
    rw [decompose_of_isEntry hentry]
    simpa using hentry.ne_nil
  · rw [decompose_of_not_testBit hc]
    exact List.cons_ne_nil _ _

/-- **Alphanumeric characters.** What an alphanumeric character decomposes to has no blank, and if
something in it is not alphanumeric, then something else is, and no diacritic. -/
theorem decompose_of_isAlphanumeric (hc : isAlphanumeric c) (h : e ∈ decompose c) :
    isBlank e = false ∧
      (isAlphanumeric e = false →
        ∃ d ∈ decompose c, isAlphanumeric d ∧ isDiacritic d = false) := by
  obtain ⟨rfl, -⟩ | ⟨parts, hentry, he⟩ := mem_decompose h
  · exact ⟨not_isBlank_of_isAlphanumeric hc, fun hnot => absurd hc (by rw [hnot]; decide)⟩
  · obtain ⟨⟨p, hp, halnum, hdiacritic⟩, hblank⟩ :=
      hentry.parts_of_alphanumeric (isAlphanumeric_iff.mp hc)
    refine ⟨?_, fun _ => ⟨Char.ofNat p, ?_, ?_, ?_⟩⟩
    · rw [← Bool.not_eq_true, isBlank_iff]
      exact hblank _ he
    · rw [decompose_of_isEntry hentry]
      exact List.mem_map_of_mem hp
    · exact isAlphanumeric_iff.mpr ((hentry.toNat_ofNat hp).symm ▸ halnum)
    · rw [← Bool.not_eq_true, isDiacritic_iff, hentry.toNat_ofNat hp]
      exact hdiacritic

/-- What any other character decomposes to is not alphanumeric. -/
theorem not_isAlphanumeric_of_mem_decompose (hc : isAlphanumeric c = false) (h : e ∈ decompose c) :
    isAlphanumeric e = false := by
  rw [← Bool.not_eq_true] at hc ⊢
  obtain ⟨rfl, -⟩ | ⟨parts, hentry, he⟩ := mem_decompose h
  · exact hc
  · rw [isAlphanumeric_iff] at hc ⊢
    exact hentry.parts_of_not_alphanumeric hc he

/-- A diacritic that an alphanumeric character decomposes to has a combining class. -/
theorem combiningClass_ne_zero_of_mem_decompose (hc : isAlphanumeric c) (h : e ∈ decompose c)
    (he : isDiacritic e) : combiningClass e ≠ 0 := by
  have hand {s : Nat} (hs : s.testBit e.toNat) : (diacriticBits &&& s).testBit e.toNat := by
    rw [Nat.testBit_and, Bool.and_eq_true]
    exact ⟨isDiacritic_iff.mp he, hs⟩
  rw [combiningClass_ne_zero_iff]
  obtain ⟨rfl, -⟩ | ⟨parts, hentry, hmem⟩ := mem_decompose h
  · exact testBit_of_and_eq partsFit.diacritic (hand (isAlphanumeric_iff.mp hc))
  · exact testBit_of_and_eq partsFit.parts.2.2.1 (hand (hentry.testBit_partBits hmem))

theorem not_isAlphanumeric_of_mem_operators (h : c ∈ operators) : isAlphanumeric c = false := by
  simp only [operators, List.mem_cons, List.not_mem_nil, or_false] at h
  obtain rfl | rfl | rfl := h
  all_goals exact isAlphanumeric_of_lt (by decide)

/-- No other character decomposes to one that stands for something else in patterns. -/
theorem eq_of_mem_decompose (h : e ∈ decompose c) (hoperator : e ∈ operators) : e = c := by
  obtain ⟨rfl, -⟩ | ⟨parts, hentry, hmem⟩ := mem_decompose h
  · rfl
  · exfalso
    exact not_testBit_of_and_eq_zero partsFit.parts.2.2.2 (hentry.testBit_partBits hmem)
      (testBit_bits.mpr (List.mem_map_of_mem hoperator))

/-- An alphanumeric character decomposes to characters that stand for themselves in patterns. -/
theorem notMem_operators_of_mem_decompose (hc : isAlphanumeric c) (h : e ∈ decompose c) :
    e ∉ operators := by
  intro hoperator
  rw [← eq_of_mem_decompose h hoperator, not_isAlphanumeric_of_mem_operators hoperator] at hc
  cases hc

/-! ### Lower-case forms -/

/-- What a run moves is one of its members. -/
private theorem mem_members {r : Run} {n m : Nat}
    (h : r.shift? n = some m) : n ∈ r.members ∧ m = (n + r.offset).toNat := by
  rw [Run.shift?] at h
  split at h
  · next hin =>
    simp only [Bool.and_eq_true, decide_eq_true_eq, beq_iff_eq] at hin
    obtain ⟨⟨hle, hge⟩, hmod⟩ := hin
    refine ⟨List.mem_range'.mpr ⟨(n - r.first) / r.step, ?_, ?_⟩, (Option.some.inj h).symm⟩
    · exact Nat.lt_succ_of_le (Nat.div_le_div_right (by omega))
    · rw [Nat.mul_div_cancel' (Nat.dvd_of_mod_eq_zero hmod)]
      omega
  · cases h

/-- A character in lower case: its own lower-case form, or the final form of sigma. -/
def IsLower (c d : Char) : Prop := lowercase c = [d] ∨ c = 'Σ' ∧ d = 'ς'

/-- A character is mapped to itself, or a run moves it. -/
private theorem applyRuns_eq_or (n : Nat) : applyRuns lowercaseTable n = n ∨
    ∃ r ∈ lowercaseRuns, n ∈ r.members ∧ applyRuns lowercaseTable n = (n + r.offset).toNat ∧
      ((n + r.offset).toNat).isValidChar := by
  rw [applyRuns]
  split
  · next r hr =>
    have hmem : r ∈ lowercaseRuns := mem_of_getElem?_bisect hr
    have hvalid := List.all_eq_true.mp lettersFit.valid r hmem
    rw [List.all_eq_true] at hvalid
    cases hshift : r.shift? n with
    | none => exact .inl rfl
    | some m =>
      obtain ⟨hn, rfl⟩ := mem_members hshift
      exact .inr ⟨r, hmem, hn, rfl, by simpa [Nat.isValidChar] using hvalid n hn⟩
  · exact .inl rfl

/-- A character that no run moves is its own lower-case form. -/
private theorem lowercase_of_not_testBit (hc : decompose c = [c])
    (h : ¬capitalBits.testBit c.toNat) : lowercase c = [c] := by
  have hdot : c ≠ '\u0130' := fun he => lettersFit.dotted (he ▸ hc)
  rw [lowercase, if_neg hdot]
  obtain hsame | ⟨r, hr, hn, -⟩ := applyRuns_eq_or c.toNat
  · rw [hsame, Char.ofNat_toNat]
  · exact absurd (testBit_bits.mpr (List.mem_flatMap.mpr ⟨r, hr, hn⟩)) h

/-- A lower-case form is the character itself, or that of a capital. -/
private theorem IsLower.eq_or (hc : decompose c = [c]) {d : Char} (h : IsLower c d) :
    d = c ∧ lowercase c = [c] ∨ capitalBits.testBit c.toNat ∧ smallBits.testBit d.toNat := by
  obtain h | ⟨rfl, rfl⟩ := h
  · have hdot : c ≠ '\u0130' := fun he => lettersFit.dotted (he ▸ hc)
    have hlower := h
    rw [lowercase, if_neg hdot, List.cons.injEq, and_iff_left rfl] at h
    obtain hsame | ⟨r, hr, hn, happly, hvalid⟩ := applyRuns_eq_or c.toNat
    · rw [hsame, Char.ofNat_toNat] at h
      exact .inl ⟨h.symm, h ▸ hlower⟩
    · refine .inr ⟨testBit_bits.mpr (List.mem_flatMap.mpr ⟨r, hr, hn⟩), ?_⟩
      have hd : d.toNat = (c.toNat + r.offset).toNat := by
        rw [← h, happly, Char.ofNat, dif_pos hvalid]
        rfl
      rw [hd, smallBits, testBit_bits]
      refine List.mem_cons_of_mem _ (List.mem_flatMap.mpr ⟨r, hr, List.mem_map.mpr
        ⟨c.toNat, List.mem_filter.mpr ⟨hn, ?_⟩, rfl⟩⟩)
      simpa using not_testBit_of_decompose_eq hc
  · exact .inr ⟨lettersFit.sigma.2.1, testBit_bits.mpr List.mem_cons_self⟩

/-- **Lower-case forms.** The lower-case form of a decomposed character is decomposed and lower
case, and in all else like the character. -/
theorem IsLower.spec (hc : decompose c = [c]) {d : Char} (h : IsLower c d) :
    decompose d = [d] ∧ lowercase d = [d] ∧ d ≠ 'Σ' ∧ isAlphanumeric d = isAlphanumeric c ∧
      combiningClass d = combiningClass c ∧ (isDiacritic d → isDiacritic c) ∧
      (isBlank d → isBlank c) := by
  obtain ⟨rfl, hlower⟩ | ⟨hcapital, hsmall⟩ := h.eq_or hc
  · refine ⟨hc, hlower, ?_, rfl, rfl, id, id⟩
    rintro rfl
    rw [lettersFit.sigma.1] at hlower
    revert hlower
    decide
  · obtain ⟨hcapitalAlnum, hcapitalClass⟩ := lettersFit.capital
    obtain ⟨hsmallAlnum, hsmallClass, hsmallMark, hsmallComposite, hsmallCapital⟩ :=
      lettersFit.small
    have hd : decompose d = [d] :=
      decompose_of_not_testBit (not_testBit_of_and_eq_zero hsmallComposite hsmall)
    have hnot : ¬capitalBits.testBit d.toNat := not_testBit_of_and_eq_zero hsmallCapital hsmall
    have halnum : isAlphanumeric d :=
      isAlphanumeric_iff.mpr (testBit_of_and_eq hsmallAlnum hsmall)
    have halnum' : isAlphanumeric c :=
      isAlphanumeric_iff.mpr (testBit_of_and_eq hcapitalAlnum hcapital)
    have hclass {e : Char} (he : ¬combiningBits.testBit e.toNat) : combiningClass e = 0 := by
      by_contra h
      exact he (combiningClass_ne_zero_iff.mp h)
    have hlower := lowercase_of_not_testBit hd hnot
    refine ⟨hd, hlower, ?_, ?_, ?_, fun hdiacritic => ?_, fun hblank => ?_⟩
    · rintro rfl
      exact hnot lettersFit.sigma.2.1
    · rw [halnum, halnum']
    · rw [hclass (not_testBit_of_and_eq_zero hsmallClass hsmall),
        hclass (not_testBit_of_and_eq_zero hcapitalClass hcapital)]
    · exact absurd (isDiacritic_iff.mp hdiacritic)
        (not_testBit_of_and_eq_zero hsmallMark hsmall)
    · rw [not_isBlank_of_isAlphanumeric halnum] at hblank
      cases hblank

/-- A lower-case form that is not alphanumeric is the character itself. -/
theorem IsLower.eq_of_not_isAlphanumeric (hc : decompose c = [c]) {d : Char} (h : IsLower c d)
    (hd : isAlphanumeric d = false) : d = c := by
  obtain ⟨heq, -⟩ | ⟨-, hsmall⟩ := h.eq_or hc
  · exact heq
  · have halnum : isAlphanumeric d :=
      isAlphanumeric_iff.mpr (testBit_of_and_eq lettersFit.small.1 hsmall)
    rw [halnum] at hd
    cases hd

/-- The characters of ASCII but the capital letters are their own lower-case forms. -/
theorem lowercase_of_lt (hlt : c.toNat < 0x80) (h : c.toNat < 0x41 ∨ 0x5A < c.toNat) :
    lowercase c = [c] := by
  refine lowercase_of_not_testBit (decompose_of_lt (by omega)) ?_
  rw [lettersFit.ascii.1 c.toNat hlt h]
  decide

theorem lowercase_sigma : lowercase 'Σ' = ['σ'] := lettersFit.sigma.1

/-- A decomposed character has one lower-case form. -/
theorem exists_lowercase (hc : decompose c = [c]) : ∃ d, lowercase c = [d] := by
  have hdot : c ≠ '\u0130' := fun he => lettersFit.dotted (he ▸ hc)
  rw [lowercase, if_neg hdot]
  exact ⟨_, rfl⟩

end RegistrySearch.Unicode
