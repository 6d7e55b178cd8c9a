import RegistrySearch.Unicode.Category
import RegistrySearch.Unicode.Property.Derived
import RegistrySearch.Unicode.Property.Emoji
import RegistrySearch.Unicode.Property.Listed
import RegistrySearch.Unicode.Property.Sign
import RegistrySearch.Unicode.Script
import RegistrySearch.Unicode.Blank

/-!
# Where texts break

A text is cut into grapheme clusters, words and sentences by the classes of its characters, one
division into classes for each of the three. Hardly any class has code points of its own: classes are
made of general categories, other properties and scripts, with a few code points moved by hand, and
where two of them would overlap one gives way. So a class is defined here by its rule, from the tables
that are there already, and the lists in a rule are what is moved.

The class of all remaining code points is not among the named ones, in none of the divisions.
-/

namespace RegistrySearch.Unicode

/-- The code points of some scripts, by their names. -/
def ofScripts (names : List String) : Ranges :=
  .unions ((scripts.filter fun s => s.names.any names.contains).map (·.ranges))

/-- The marks that go with numbers and stand before them; the one that abbreviates goes with words. -/
def numberMarks : Ranges := Property.prependedConcatenationMark.diff (.single 0x070F 0x070F)

/-! ### Grapheme clusters -/

namespace GraphemeBreak

/-- What belongs to the cluster before it. -/
def extend : Ranges := Property.graphemeExtend.union Property.emojiModifier

/-- What belongs to the cluster after it. -/
def prepend : Ranges :=
  Property.prependedConcatenationMark.union
    ⟨[(0x0D4E, 0x0D4E), (0x111C2, 0x111C3), (0x113D1, 0x113D1), (0x1193F, 0x1193F),
      (0x11941, 0x11941), (0x11A3A, 0x11A3A), (0x11A84, 0x11A89), (0x11D46, 0x11D46),
      (0x11F02, 0x11F02)]⟩

/-- What stands alone. -/
def control : Ranges :=
  Ranges.diff
    (.unions [controls, formats, lineSeparators, paragraphSeparators,
      unassigned.inter Property.defaultIgnorableCodePoint])
    (.unions [extend, prepend, ⟨[(0x000A, 0x000A), (0x000D, 0x000D), (0x200D, 0x200D)]⟩])

/-- Marks that belong to the cluster before them, although they have a width. -/
def spacingMark : Ranges :=
  Ranges.diff (spacingMarks.union ⟨[(0x0E33, 0x0E33), (0x0EB3, 0x0EB3)]⟩)
    (extend.union
      ⟨[(0x102B, 0x102C), (0x1038, 0x1038), (0x1062, 0x1064), (0x1067, 0x106D), (0x1083, 0x1083),
        (0x1087, 0x108C), (0x108F, 0x108F), (0x109A, 0x109C), (0x1A61, 0x1A61), (0x1A63, 0x1A64),
        (0xAA7B, 0xAA7B), (0xAA7D, 0xAA7D), (0x11720, 0x11721)]⟩)

/-- Initial consonants of Hangul. -/
def leading : Ranges := ⟨[(0x1100, 0x115F), (0xA960, 0xA97C)]⟩

/-- Vowels of Hangul, and those of Kirat Rai that combine like them. -/
def vowel : Ranges := ⟨[(0x1160, 0x11A7), (0xD7B0, 0xD7C6), (0x16D63, 0x16D63), (0x16D67, 0x16D6A)]⟩

/-- Final consonants of Hangul. -/
def trailing : Ranges := ⟨[(0x11A8, 0x11FF), (0xD7CB, 0xD7FB)]⟩

/-- The syllables of Hangul without a final consonant: after each stand those with one, of which
there are 27. -/
def openSyllable : Ranges :=
  ⟨(List.range 399).map fun i => (0xAC00 + 28 * i, 0xAC00 + 28 * i)⟩

/-- The syllables of Hangul with a final consonant. -/
def closedSyllable : Ranges :=
  ⟨(List.range 399).map fun i => (0xAC01 + 28 * i, 0xAC1B + 28 * i)⟩

end GraphemeBreak

open GraphemeBreak in
/-- The classes for grapheme clusters with their names. -/
def graphemeBreaks : List (List String × Ranges) :=
  [(["CR"], .single 0x0D 0x0D),
    (["Control", "CN"], control),
    (["Extend", "EX"], extend),
    (["L"], leading),
    (["LF"], .single 0x0A 0x0A),
    (["LV"], openSyllable),
    (["LVT"], closedSyllable),
    (["Prepend", "PP"], prepend),
    (["Regional_Indicator", "RI"], Property.regionalIndicator),
    (["SpacingMark", "SM"], spacingMark),
    (["T"], trailing),
    (["V"], vowel),
    (["ZWJ"], .single 0x200D 0x200D)]

/-! ### Words -/

namespace WordBreak

/-- What belongs to the character before it. -/
def extend : Ranges :=
  .unions [Property.graphemeExtend, spacingMarks, Property.emojiModifier]

def numeric : Ranges :=
  .unions [decimalNumbers, numberMarks, ⟨[(0x066B, 0x066B), (0x19DA, 0x19DA)]⟩]

def format : Ranges :=
  formats.diff (.unions [extend, numeric, ⟨[(0x070F, 0x070F), (0x200B, 0x200D)]⟩])

def katakana : Ranges :=
  (ofScripts ["Katakana"]).union
    ⟨[(0x3031, 0x3035), (0x309B, 0x309C), (0x30A0, 0x30A0), (0x30FC, 0x30FC), (0xFF70, 0xFF70)]⟩

def hebrewLetter : Ranges := (ofScripts ["Hebrew"]).inter otherLetters

/-- Letters that words are made of, and signs that stand for letters or are written among them. It
takes a dictionary to find words in texts of some scripts: their letters are no such letters. -/
def letter : Ranges :=
  Ranges.diff
    (Property.alphabetic.union
      ⟨[(0x00B8, 0x00B8), (0x02C2, 0x02C5), (0x02D2, 0x02D7), (0x02DE, 0x02DF), (0x02E5, 0x02EB),
        (0x02ED, 0x02ED), (0x02EF, 0x02FF), (0x055A, 0x055C), (0x055E, 0x055E), (0x058A, 0x058A),
        (0x05F3, 0x05F3), (0x070F, 0x070F), (0xA708, 0xA716), (0xA720, 0xA721), (0xA789, 0xA78A),
        (0xAB5B, 0xAB5B)]⟩)
    (.unions [extend, numeric, katakana, hebrewLetter, Property.ideographic,
      ofScripts ["Hiragana", "Thai", "Lao", "Myanmar", "Khmer", "Tai_Le", "New_Tai_Lue",
        "Tai_Tham", "Tai_Viet", "Ahom"]])

def midLetter : Ranges :=
  ⟨[(0x003A, 0x003A), (0x00B7, 0x00B7), (0x0387, 0x0387), (0x055F, 0x055F), (0x05F4, 0x05F4),
    (0x2027, 0x2027), (0xFE13, 0xFE13), (0xFE55, 0xFE55), (0xFF1A, 0xFF1A)]⟩

def midNumber : Ranges :=
  ⟨[(0x002C, 0x002C), (0x003B, 0x003B), (0x037E, 0x037E), (0x0589, 0x0589), (0x060C, 0x060D),
    (0x066C, 0x066C), (0x07F8, 0x07F8), (0x2044, 0x2044), (0xFE10, 0xFE10), (0xFE14, 0xFE14),
    (0xFE50, 0xFE50), (0xFE54, 0xFE54), (0xFF0C, 0xFF0C), (0xFF1B, 0xFF1B)]⟩

/-- What can stand between letters and between numbers. -/
def midBoth : Ranges :=
  ⟨[(0x002E, 0x002E), (0x2018, 0x2019), (0x2024, 0x2024), (0xFE52, 0xFE52), (0xFF07, 0xFF07),
    (0xFF0E, 0xFF0E)]⟩

/-- What connects letters and numbers. -/
def connector : Ranges := connectorPunctuation.union (.single 0x202F 0x202F)

/-- The spaces at which a line may break. -/
def space : Ranges :=
  spaceSeparators.diff ⟨[(0x00A0, 0x00A0), (0x2007, 0x2007), (0x202F, 0x202F)]⟩

def newline : Ranges := ⟨[(0x000B, 0x000C), (0x0085, 0x0085), (0x2028, 0x2029)]⟩

end WordBreak

open WordBreak in
/-- The classes for words with their names. -/
def wordBreaks : List (List String × Ranges) :=
  [(["ALetter", "LE"], letter),
    (["CR"], .single 0x0D 0x0D),
    (["Double_Quote", "DQ"], .single 0x22 0x22),
    (["Extend"], extend),
    (["ExtendNumLet", "EX"], connector),
    (["Format", "FO"], format),
    (["Hebrew_Letter", "HL"], hebrewLetter),
    (["Katakana", "KA"], katakana),
    (["LF"], .single 0x0A 0x0A),
    (["MidLetter", "ML"], midLetter),
    (["MidNum", "MN"], midNumber),
    (["MidNumLet", "MB"], midBoth),
    (["Newline", "NL"], newline),
    (["Numeric", "NU"], numeric),
    (["Regional_Indicator", "RI"], Property.regionalIndicator),
    (["Single_Quote", "SQ"], .single 0x27 0x27),
    (["WSegSpace"], space),
    (["ZWJ"], .single 0x200D 0x200D)]

/-! ### Sentences -/

namespace SentenceBreak

/-- What belongs to the character before it. -/
def extend : Ranges :=
  .unions [Property.graphemeExtend, spacingMarks, .single 0x200D 0x200D]

/-- What separates paragraphs, the ends of lines aside. -/
def separator : Ranges := ⟨[(0x0085, 0x0085), (0x2028, 0x2029)]⟩

def numeric : Ranges :=
  .unions [decimalNumbers, numberMarks, ⟨[(0x066B, 0x066C), (0x19DA, 0x19DA)]⟩]

def format : Ranges := formats.diff (extend.union numeric)

def space : Ranges :=
  blankRanges.diff (separator.union ⟨[(0x000A, 0x000A), (0x000D, 0x000D)]⟩)

/-- Letters in lower case, but those of Georgian, with which sentences begin, too. -/
def lower : Ranges :=
  Property.lowercase.diff (extend.union ⟨[(0x10D0, 0x10FA), (0x10FD, 0x10FF)]⟩)

def upper : Ranges :=
  (Property.uppercase.union titlecaseLetters).diff ⟨[(0x1C90, 0x1CBA), (0x1CBD, 0x1CBF)]⟩

def otherLetter : Ranges :=
  (Property.alphabetic.union (.single 0x05F3 0x05F3)).diff (.unions [lower, upper, extend, numeric])

/-- Full stops that may belong to a number or an abbreviation. -/
def stop : Ranges :=
  ⟨[(0x002E, 0x002E), (0x2024, 0x2024), (0xFE52, 0xFE52), (0xFF0E, 0xFF0E)]⟩

/-- What ends a sentence in any case. -/
def terminal : Ranges := Property.sentenceTerminal.diff stop

/-- Brackets and quotation marks, opening ones, too. -/
def close : Ranges :=
  .unions [openPunctuation, closePunctuation, initialPunctuation, finalPunctuation,
    ⟨[(0x0022, 0x0022), (0x0027, 0x0027), (0x275B, 0x2760), (0x2E00, 0x2E01), (0x2E06, 0x2E08),
      (0x2E0B, 0x2E0B), (0x1F676, 0x1F678)]⟩]

/-- What shows that the sentence goes on. -/
def continuation : Ranges :=
  ⟨[(0x002C, 0x002D), (0x003A, 0x003B), (0x037E, 0x037E), (0x055D, 0x055D), (0x060C, 0x060D),
    (0x07F8, 0x07F8), (0x1802, 0x1802), (0x1808, 0x1808), (0x2013, 0x2014), (0x3001, 0x3001),
    (0xFE10, 0xFE11), (0xFE13, 0xFE14), (0xFE31, 0xFE32), (0xFE50, 0xFE51), (0xFE54, 0xFE55),
    (0xFE58, 0xFE58), (0xFE63, 0xFE63), (0xFF0C, 0xFF0D), (0xFF1A, 0xFF1B), (0xFF64, 0xFF64)]⟩

end SentenceBreak

open SentenceBreak in
/-- The classes for sentences with their names. -/
def sentenceBreaks : List (List String × Ranges) :=
  [(["ATerm", "AT"], stop),
    (["CR"], .single 0x0D 0x0D),
    (["Close", "CL"], close),
    (["Extend", "EX"], extend),
    (["Format", "FO"], format),
    (["LF"], .single 0x0A 0x0A),
    (["Lower", "LO"], lower),
    (["Numeric", "NU"], numeric),
    (["OLetter", "LE"], otherLetter),
    (["SContinue", "SC"], continuation),
    (["STerm", "ST"], terminal),
    (["Sep", "SE"], separator),
    (["Sp", "SP"], space),
    (["Upper", "UP"], upper)]

end RegistrySearch.Unicode
