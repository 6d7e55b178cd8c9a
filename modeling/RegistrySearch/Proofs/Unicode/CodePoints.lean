import Mathlib.Tactic.MkIffOfInductiveProp
import RegistrySearch.Proofs.Unicode.Tables
import RegistrySearch.Text.Normal
import RegistrySearch.Unicode.Alphanumeric

/-!
# Properties of characters as sets of code points

The tables of characters, laid out as sets of bits, and what these sets have to do with each other.
What is proved of all characters rests on three comparisons, which are decided by evaluation: of the
tables by code point (`RowsFit`), of decompositions with their parts (`PartsFit`), and of letters
with their lower-case forms (`LettersFit`). When a table changes, they are what is decided anew.
Comparisons with one set are decided together, so that it is laid out once.
-/

namespace RegistrySearch.Unicode

/-! ### Sets -/

/-- The code points of alphanumeric characters. -/
def alphanumericBits : Nat := rangeBits alphanumericRanges.rows

/-- The code points of characters, without the surrogates. -/
def charBits : Nat := rangeBits [(0, 0xD7FF), (0xE000, 0x10FFFF)]

/-- The code points of blanks. -/
def blankBits : Nat := rangeBits blankRanges.rows

/-- The code points of diacritics. -/
def diacriticBits : Nat :=
  rangeBits [(0x0300, 0x036F), (0x1AB0, 0x1AFF), (0x1DC0, 0x1DFF), (0x20D0, 0x20FF),
    (0xFE20, 0xFE2F)]

/-- The code points with a combining class. -/
def combiningBits : Nat := rangeBits (combiningRows.map fun row => (row.1, row.2.1))

/-- The code points of Hangul syllables. -/
def syllableBits : Nat := rangeBits [(0xAC00, 0xD7A3)]

/-- The code points of the letters that Hangul syllables decompose to. -/
def jamoBits : Nat := rangeBits [(0x1100, 0x1112), (0x1161, 0x1175), (0x11A8, 0x11C2)]

/-- The code points with a decomposition in a table, each with its parts. -/
def decompositions : List (Nat × List Nat) :=
  sequenceTable.toList ++ singletonTable.toList.map fun entry => (entry.1, [entry.2])

/-- The code points that decompose. -/
def compositeBits : Nat := bits (decompositions.map (·.1)) ||| syllableBits

/-- The code points that stand in decompositions. -/
def partBits : Nat := bits (decompositions.flatMap (·.2)) ||| jamoBits

/-- The characters that stand for something else in a pattern. -/
def operators : List Char := ['*', '?', '\\']

/-- The code points of these characters. -/
def operatorBits : Nat := bits (operators.map Char.toNat)

/-- The code points that a run of the lower-case mapping moves. -/
def Run.members (r : Run) : List Nat :=
  List.range' r.first ((r.last - r.first) / r.step + 1) r.step

/-- The code points with another lower-case form. -/
def capitalBits : Nat := bits (lowercaseRuns.flatMap Run.members)

/-- The code points that are the lower-case form of a code point that does not decompose, and the
final form of sigma. -/
def smallBits : Nat :=
  bits (0x03C2 :: lowercaseRuns.flatMap fun r =>
    (r.members.filter fun n => !compositeBits.testBit n).map fun n : Nat => (n + r.offset).toNat)

/-! ### Tables -/

/-- The rows of all tables are in order, and no code point has an entry in two of them. -/
@[mk_iff]
structure RowsFit : Prop where
  alphanumeric : (∀ row ∈ alphanumericRanges.rows, row.1 ≤ row.2) ∧
    alphanumericRanges.rows.IsChain fun x y => x.2 < y.1
  combining : (∀ row ∈ combiningRows, row.1 ≤ row.2.1 ∧ row.2.2 ≠ 0 ∧ 0x300 ≤ row.1) ∧
    combiningRows.IsChain fun x y => x.2.1 < y.1
  sequence : sequenceTable.toList.IsChain fun x y => x.1 < y.1
  singleton : singletonTable.toList.IsChain fun x y => x.1 < y.1
  composite : ∀ entry ∈ decompositions, 0xC0 ≤ entry.1
  disjoint :
    bits (sequenceTable.toList.map (·.1)) &&& bits (singletonTable.toList.map (·.1)) = 0 ∧
      bits (decompositions.map (·.1)) &&& syllableBits = 0

theorem rowsFit : RowsFit := by
  rw [rowsFit_iff]
  decide +kernel

/-- What decompositions have in common. Every code point has parts, and these are characters that
decompose no further, and stand for themselves in patterns. Those of an alphanumeric character begin
with a letter or digit and have no blank, those of another one have neither letter nor digit. All
diacritics among the parts and among alphanumeric characters have a combining class. -/
@[mk_iff]
structure PartsFit : Prop where
  entries : decompositions.all fun entry =>
    !entry.2.isEmpty && if alphanumericBits.testBit entry.1 then
      (alphanumericBits.testBit (entry.2.headD 0) && !diacriticBits.testBit (entry.2.headD 0)) &&
        entry.2.all fun p => !blankBits.testBit p
    else entry.2.all fun p => !alphanumericBits.testBit p
  parts : partBits &&& charBits = partBits ∧ partBits &&& compositeBits = 0 ∧
    diacriticBits &&& partBits &&& combiningBits = diacriticBits &&& partBits ∧
    partBits &&& operatorBits = 0
  syllable : syllableBits &&& alphanumericBits = syllableBits
  jamo : jamoBits &&& alphanumericBits = jamoBits ∧ jamoBits &&& diacriticBits = 0
  diacritic : diacriticBits &&& alphanumericBits &&& combiningBits =
    diacriticBits &&& alphanumericBits

theorem partsFit : PartsFit := by
  rw [partsFit_iff]
  decide +kernel

/-- What capitals and their lower-case forms have in common. The dotted capital I, which alone has a
lower-case form of two characters, decomposes. The capitals of ASCII are its capital letters. Case
does not ignore the sigma, and has nothing to do with the star. -/
@[mk_iff]
structure LettersFit : Prop where
  capital : capitalBits &&& alphanumericBits = capitalBits ∧ capitalBits &&& combiningBits = 0
  small : smallBits &&& alphanumericBits = smallBits ∧ smallBits &&& combiningBits = 0 ∧
    smallBits &&& diacriticBits = 0 ∧ smallBits &&& compositeBits = 0 ∧
    smallBits &&& capitalBits = 0
  valid : lowercaseRuns.all fun r => r.members.all fun n =>
    (n + r.offset).toNat < 0xD800 || (0xDFFF < (n + r.offset).toNat &&
      (n + r.offset).toNat < 0x110000)
  sigma : lowercase 'Σ' = ['σ'] ∧ capitalBits.testBit ('Σ').toNat ∧ isCaseIgnorable 'Σ' = false
  dotted : decompose '\u0130' ≠ ['\u0130']
  ascii : (∀ n < 0x80, n < 0x41 ∨ 0x5A < n → capitalBits.testBit n = false) ∧
    isCased '*' = false ∧ isCaseIgnorable '*' = false

theorem lettersFit : LettersFit := by
  rw [lettersFit_iff]
  decide +kernel

/-- A character with the parts that it decomposes to: an entry of a table or a Hangul syllable. -/
inductive IsEntry (n : Nat) (parts : List Nat) : Prop
  | table (h : (n, parts) ∈ decompositions)
  | syllable (h : syllableBits.testBit n) (he : parts = hangulLetters (n - 0xAC00))

end RegistrySearch.Unicode
