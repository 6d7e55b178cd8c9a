import RegistrySearch.Unicode.Blank
import RegistrySearch.Unicode.Canonical
import RegistrySearch.Unicode.Casing
import RegistrySearch.Unicode.Lowercase

/-!
# The normal form of text

Records and queries meet in one normal form: accents are taken off, letters are lower case, and
blanks are single spaces between words. So `Café  Portal` and `cafe portal` are the same text.
`Text.normalize` decomposes, drops diacritics, lowers the case with the final form of sigma at the
end of words, and collapses blanks, in this order.
-/

namespace RegistrySearch.Text

open Unicode

/-- Whether a character is a diacritic: a mark of the five blocks of combining diacritical marks. -/
def isDiacritic (c : Char) : Bool :=
  let n := c.toNat
  (0x0300 ≤ n && n ≤ 0x036F) || (0x1AB0 ≤ n && n ≤ 0x1AFF) || (0x1DC0 ≤ n && n ≤ 0x1DFF)
    || (0x20D0 ≤ n && n ≤ 0x20FF) || (0xFE20 ≤ n && n ≤ 0xFE2F)

/-- Whether the first character that case does not ignore is cased. -/
def beginsCased (s : List Char) : Bool :=
  match s.dropWhile isCaseIgnorable with
  | c :: _ => isCased c
  | [] => false

/-- The lower-case form of the rest of a text. `afterCased` tells whether the last character before
it that case does not ignore is cased. -/
def lowerFrom (afterCased : Bool) : List Char → List Char
  | [] => []
  | c :: rest =>
    let letters :=
      if c = 'Σ' then [if afterCased && !beginsCased rest then 'ς' else 'σ'] else lowercase c
    letters ++ lowerFrom (if isCaseIgnorable c then afterCased else isCased c) rest

/-- The lower-case form of a text. -/
def lower (s : List Char) : List Char := lowerFrom false s

/-- Splits a text into the runs of characters that satisfy `inWord`, given the reversed beginning
of the current run. -/
def runsFrom (inWord : Char → Bool) (current : List Char) : List Char → List (List Char)
  | [] => if current.isEmpty then [] else [current.reverse]
  | c :: rest =>
    if inWord c then runsFrom inWord (c :: current) rest
    else if current.isEmpty then runsFrom inWord [] rest
    else current.reverse :: runsFrom inWord [] rest

/-- The maximal runs of characters that satisfy `inWord`, none of them empty. -/
def runs (inWord : Char → Bool) (s : List Char) : List (List Char) := runsFrom inWord [] s

/-- The runs of characters between blanks. -/
def words (s : List Char) : List (List Char) := runs (fun c => !isBlank c) s

/-- The normal form of a text, as characters. -/
def normalizeChars (s : List Char) : List Char :=
  let letters := (decomposed s).filter fun c => !isDiacritic c
  [' '].intercalate (words (lower letters))

/-- The normal form of a text. -/
def normalize (s : String) : String := String.ofList (normalizeChars s.toList)

/-- The lower-case form of a text. -/
def toLower (s : String) : String := String.ofList (lower s.toList)

end RegistrySearch.Text
