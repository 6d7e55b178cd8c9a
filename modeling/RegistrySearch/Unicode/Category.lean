import RegistrySearch.Unicode.Category.Letter
import RegistrySearch.Unicode.Category.Mark
import RegistrySearch.Unicode.Category.Number
import RegistrySearch.Unicode.Category.Punctuation
import RegistrySearch.Unicode.Category.Separator
import RegistrySearch.Unicode.Category.Symbol

/-!
# General categories

Every code point has one general category. Categories have names of one or two letters and long
names, and groups of categories have names of their own; `categories` lists them all.
-/

namespace RegistrySearch.Unicode

/-- All letters. -/
def letters : Ranges :=
  .unions [uppercaseLetters, lowercaseLetters, titlecaseLetters, modifierLetters, otherLetters]

/-- The letters with case. -/
def casedLetters : Ranges :=
  .unions [uppercaseLetters, lowercaseLetters, titlecaseLetters]

/-- All combining marks. -/
def marks : Ranges :=
  .unions [nonspacingMarks, spacingMarks, enclosingMarks]

/-- All numbers. -/
def numbers : Ranges :=
  .unions [decimalNumbers, letterNumbers, otherNumbers]

/-- All punctuation. -/
def punctuation : Ranges :=
  .unions [connectorPunctuation, dashPunctuation, openPunctuation, closePunctuation,
    initialPunctuation, finalPunctuation, otherPunctuation]

/-- All symbols. -/
def symbols : Ranges :=
  .unions [mathSymbols, currencySymbols, modifierSymbols, otherSymbols]

/-- All separators. -/
def separators : Ranges :=
  .unions [spaceSeparators, lineSeparators, paragraphSeparators]

/-- The code points that are assigned to characters or to other uses. -/
def assigned : Ranges :=
  .unions [letters, marks, numbers, punctuation, symbols, separators, controls, formats, surrogates,
    privateUse]

/-- The code points that are not assigned. -/
def unassigned : Ranges := assigned.complement

/-- The code points of controls, formats, private use, surrogates and those that are not assigned. -/
def others : Ranges := .unions [controls, formats, surrogates, privateUse, unassigned]

/-- The categories and their groups with their names. -/
def categories : List (List String × Ranges) :=
  [(["C", "Other"], others),
    (["Cc", "Control", "cntrl"], controls),
    (["Cf", "Format"], formats),
    (["Cn", "Unassigned"], unassigned),
    (["Co", "Private_Use"], privateUse),
    (["L", "Letter"], letters),
    (["LC", "Cased_Letter"], casedLetters),
    (["Ll", "Lowercase_Letter"], lowercaseLetters),
    (["Lm", "Modifier_Letter"], modifierLetters),
    (["Lo", "Other_Letter"], otherLetters),
    (["Lt", "Titlecase_Letter"], titlecaseLetters),
    (["Lu", "Uppercase_Letter"], uppercaseLetters),
    (["M", "Mark", "Combining_Mark"], marks),
    (["Mc", "Spacing_Mark"], spacingMarks),
    (["Me", "Enclosing_Mark"], enclosingMarks),
    (["Mn", "Nonspacing_Mark"], nonspacingMarks),
    (["N", "Number"], numbers),
    (["Nd", "Decimal_Number", "digit"], decimalNumbers),
    (["Nl", "Letter_Number"], letterNumbers),
    (["No", "Other_Number"], otherNumbers),
    (["P", "Punctuation", "punct"], punctuation),
    (["Pc", "Connector_Punctuation"], connectorPunctuation),
    (["Pd", "Dash_Punctuation"], dashPunctuation),
    (["Pe", "Close_Punctuation"], closePunctuation),
    (["Pf", "Final_Punctuation"], finalPunctuation),
    (["Pi", "Initial_Punctuation"], initialPunctuation),
    (["Po", "Other_Punctuation"], otherPunctuation),
    (["Ps", "Open_Punctuation"], openPunctuation),
    (["S", "Symbol"], symbols),
    (["Sc", "Currency_Symbol"], currencySymbols),
    (["Sk", "Modifier_Symbol"], modifierSymbols),
    (["Sm", "Math_Symbol"], mathSymbols),
    (["So", "Other_Symbol"], otherSymbols),
    (["Z", "Separator"], separators),
    (["Zl", "Line_Separator"], lineSeparators),
    (["Zp", "Paragraph_Separator"], paragraphSeparators),
    (["Zs", "Space_Separator"], spaceSeparators),
    (["Any"], .all),
    (["Assigned"], assigned),
    (["ASCII"], .single 0x00 0x7F)]

end RegistrySearch.Unicode
