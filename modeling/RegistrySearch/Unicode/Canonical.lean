import RegistrySearch.Unicode.Combining
import RegistrySearch.Unicode.Decomposition.Letters
import RegistrySearch.Unicode.Decomposition.Singletons

/-!
# Canonical decomposition

A text is brought into its canonically decomposed form in two steps: every character is replaced by
its full decomposition, Hangul syllables by arithmetic, and every run of combining marks is ordered
by combining class, marks of one class keeping their order. Texts that are canonically equivalent
have one decomposed form.
-/

namespace RegistrySearch.Unicode

/-- Characters with a decomposition of one character, ascending. -/
def singletonTable : Array (Nat × Nat) :=
  (singletonSigns ++ singletonIdeographs ++ singletonSupplement).toArray

/-- Characters with a decomposition of several characters, ascending. -/
def sequenceTable : Array (Nat × List Nat) :=
  (decomposedLatin ++ decomposedGreek ++ decomposedLatinAdditional ++ decomposedGreekExtended
    ++ decomposedSymbol).toArray

/-- The entry of an ascending table at the key `n`. -/
def entryAt? {α : Type} (table : Array (Nat × α)) (n : Nat) : Option α :=
  match table[bisect (fun row => decide (n < row.1)) table]? with
  | some (key, value) => if key = n then some value else none
  | none => none

/-- The number of Hangul syllables that share their leading consonant. -/
def hangulPerLead : Nat := 588

/-- The number of Hangul syllables that share their leading consonant and vowel. -/
def hangulPerVowel : Nat := 28

/-- The conjoining letters of the Hangul syllable at `index` in the block of syllables. -/
def hangulLetters (index : Nat) : List Nat :=
  let lead := 0x1100 + index / hangulPerLead
  let vowel := 0x1161 + index % hangulPerLead / hangulPerVowel
  if index % hangulPerVowel = 0 then [lead, vowel]
  else [lead, vowel, 0x11A7 + index % hangulPerVowel]

/-- The full canonical decomposition of a character. -/
def decompose (c : Char) : List Char :=
  let n := c.toNat
  if n < 0xC0 then [c]
  else if 0xAC00 ≤ n ∧ n ≤ 0xD7A3 then (hangulLetters (n - 0xAC00)).map Char.ofNat
  else
    match entryAt? sequenceTable n with
    | some letters => letters.map Char.ofNat
    | none => [(entryAt? singletonTable n).elim c Char.ofNat]

/-- Puts a character in front of ordered text: a mark moves behind the marks of lower class. -/
def insertMark (c : Char) : List Char → List Char
  | [] => [c]
  | d :: rest =>
    if combiningClass d ≠ 0 ∧ combiningClass d < combiningClass c then d :: insertMark c rest
    else c :: d :: rest

/-- Orders every run of combining marks by class, stably. -/
def orderMarks : List Char → List Char
  | [] => []
  | c :: rest => insertMark c (orderMarks rest)

/-- The canonically decomposed form of a text. -/
def decomposed (s : List Char) : List Char := orderMarks (s.flatMap decompose)

end RegistrySearch.Unicode
