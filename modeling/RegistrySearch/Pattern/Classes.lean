import RegistrySearch.Unicode.Age
import RegistrySearch.Unicode.Property
import RegistrySearch.Unicode.Script
import RegistrySearch.Unicode.Segmentation

/-!
# Named sets of characters

The sets that a pattern can name: the classes of a backslash and a letter, the classes in brackets
and colons, and the Unicode properties. Names of properties are compared loosely: letter case,
blanks, underscores, hyphens and a leading `is` do not count.

A property that a character has or has not, a category and a script stand alone (`propertySet?`).
Categories and scripts are also values of properties, and so are ages and the classes for breaking
texts; these need both names (`propertyValueSet?`). No other property has named values.
-/

namespace RegistrySearch.Pattern

open Unicode (Ranges)

/-! ### Classes of a backslash and a letter -/

/-- The decimal digits. -/
def digits : Ranges := Unicode.decimalNumbers

/-- The blanks. -/
def blanks : Ranges := Unicode.blankRanges

/-- The characters of words: letters, marks, decimal digits, connectors and joiners. -/
def wordChars : Ranges :=
  .unions [Unicode.Property.alphabetic, Unicode.marks, Unicode.decimalNumbers,
    Unicode.connectorPunctuation, Unicode.Property.joinControl]

/-- The decimal digits of ASCII. -/
def asciiDigits : Ranges := .single 0x30 0x39

/-- The blanks of ASCII. -/
def asciiBlanks : Ranges := ⟨[(0x09, 0x0D), (0x20, 0x20)]⟩

/-- The characters of words that are ASCII. -/
def asciiWordChars : Ranges := ⟨[(0x30, 0x39), (0x41, 0x5A), (0x5F, 0x5F), (0x61, 0x7A)]⟩

/-- The characters of words, laid out for bisection. -/
def wordTable : Unicode.RangeTable := wordChars.toTable

/-- Whether a character can be part of a word. -/
def isWordChar (ascii : Bool) (c : Char) : Bool :=
  if ascii then asciiWordChars.contains c.toNat else wordTable.contains c.toNat

/-! ### Classes in brackets and colons -/

/-- The classes in brackets and colons, by name. -/
def asciiClasses : List (String × Ranges) :=
  [("alnum", ⟨[(0x30, 0x39), (0x41, 0x5A), (0x61, 0x7A)]⟩),
    ("alpha", ⟨[(0x41, 0x5A), (0x61, 0x7A)]⟩),
    ("ascii", .single 0x00 0x7F),
    ("blank", ⟨[(0x09, 0x09), (0x20, 0x20)]⟩),
    ("cntrl", ⟨[(0x00, 0x1F), (0x7F, 0x7F)]⟩),
    ("digit", asciiDigits),
    ("graph", .single 0x21 0x7E),
    ("lower", .single 0x61 0x7A),
    ("print", .single 0x20 0x7E),
    ("punct", ⟨[(0x21, 0x2F), (0x3A, 0x40), (0x5B, 0x60), (0x7B, 0x7E)]⟩),
    ("space", asciiBlanks),
    ("upper", .single 0x41 0x5A),
    ("word", asciiWordChars),
    ("xdigit", ⟨[(0x30, 0x39), (0x41, 0x46), (0x61, 0x66)]⟩)]

/-! ### Unicode properties -/

/-- Drops a leading `is` of a name. -/
def dropIs : List Char → Bool × List Char
  | i :: s :: rest =>
    if (i = 'i' || i = 'I') && (s = 's' || s = 'S') then (true, rest) else (false, i :: s :: rest)
  | name => (false, name)

/-- The name of a property without what does not count in it. The name `isc` alone keeps its
beginning, for it is short for a property of its own and not for the category `c`. -/
def looseName (name : List Char) : List Char :=
  let (hadIs, name) := dropIs name
  let kept := name.filter fun c => c ≠ ' ' && c ≠ '_' && c ≠ '-' && c.toNat ≤ 0x7F
  let lower := kept.map Char.toLower
  if hadIs && lower = ['c'] then ['i', 's', 'c'] else lower

/-- The set with a name among named sets. -/
def namedSet? (sets : List (List String × Ranges)) (name : List Char) : Option Ranges :=
  (sets.find? fun (names, _) => names.any fun n => looseName n.toList = name).map (·.2)

/-- The script with a name. -/
def namedScript? (name : List Char) : Option Unicode.Script :=
  Unicode.scripts.find? fun s => s.names.any fun n => looseName n.toList = name

/-- The categories that can be named: all but that of code points which are no characters. -/
def namedCategory? (name : List Char) : Option Ranges :=
  if name = ['c', 's'] || name = "surrogate".toList then none
  else namedSet? Unicode.categories name

/-- The short names of categories that are short for other properties, too. -/
def ambiguousNames : List (List Char) := [['c', 'f'], ['s', 'c'], ['l', 'c']]

/-- The set of a property, a category or a script. -/
def propertySet? (name : List Char) : Option Ranges :=
  let name := looseName name
  let property? := if ambiguousNames.contains name then none
    else namedSet? Unicode.properties name
  property? <|> namedCategory? name <|> (namedScript? name).map (·.ranges)

/-- The code points that a version knows: those that it has added, and those of all versions before
it. -/
def namedAge? (name : List Char) : Option Ranges :=
  (Unicode.ages.findIdx? fun (names, _) => names.any fun n => looseName n.toList = name).map
    fun last => .unions ((Unicode.ages.take (last + 1)).map (·.2))

/-- The set of the characters that have a value at a property. -/
def propertyValueSet? (property value : List Char) : Option Ranges :=
  let value := looseName value
  match String.ofList (looseName property) with
  | "gc" | "generalcategory" => namedCategory? value
  | "sc" | "script" => (namedScript? value).map (·.ranges)
  | "scx" | "scriptextensions" => (namedScript? value).map (·.extension)
  | "age" => namedAge? value
  | "gcb" | "graphemeclusterbreak" => namedSet? Unicode.graphemeBreaks value
  | "wb" | "wordbreak" => namedSet? Unicode.wordBreaks value
  | "sb" | "sentencebreak" => namedSet? Unicode.sentenceBreaks value
  | _ => none

end RegistrySearch.Pattern
