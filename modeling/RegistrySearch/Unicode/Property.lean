import RegistrySearch.Unicode.Casing
import RegistrySearch.Unicode.Blank
import RegistrySearch.Unicode.Property.Derived
import RegistrySearch.Unicode.Property.Emoji
import RegistrySearch.Unicode.Property.Listed
import RegistrySearch.Unicode.Property.Sign

/-!
# Named properties

Properties that a character has or has not, by their long and short names.
-/

namespace RegistrySearch.Unicode

open Property in
/-- The properties with their long and short names. -/
def properties : List (List String × Ranges) :=
  [(["ASCII_Hex_Digit", "AHex"], asciiHexDigit),
    (["Alphabetic", "Alpha"], alphabetic),
    (["Bidi_Control", "Bidi_C"], bidiControl),
    (["Bidi_Mirrored", "Bidi_M"], bidiMirrored),
    (["Case_Ignorable", "CI"], caseIgnorableRanges),
    (["Cased"], casedRanges),
    (["Changes_When_Casefolded", "CWCF"], changesWhenCasefolded),
    (["Changes_When_Casemapped", "CWCM"], changesWhenCasemapped),
    (["Changes_When_Lowercased", "CWL"], changesWhenLowercased),
    (["Changes_When_Titlecased", "CWT"], changesWhenTitlecased),
    (["Changes_When_Uppercased", "CWU"], changesWhenUppercased),
    (["Dash"], dash),
    (["Default_Ignorable_Code_Point", "DI"], defaultIgnorableCodePoint),
    (["Deprecated", "Dep"], deprecated),
    (["Diacritic", "Dia"], diacritic),
    (["Emoji"], emoji),
    (["Emoji_Component", "EComp"], emojiComponent),
    (["Emoji_Modifier", "EMod"], emojiModifier),
    (["Emoji_Modifier_Base", "EBase"], emojiModifierBase),
    (["Emoji_Presentation", "EPres"], emojiPresentation),
    (["Extended_Pictographic", "ExtPict"], extendedPictographic),
    (["Extender", "Ext"], extender),
    (["Grapheme_Base", "Gr_Base"], graphemeBase),
    (["Grapheme_Extend", "Gr_Ext"], graphemeExtend),
    (["Hex_Digit", "Hex"], hexDigit),
    (["Hyphen"], hyphen),
    (["IDS_Binary_Operator", "IDSB"], idsBinaryOperator),
    (["IDS_Trinary_Operator", "IDST"], idsTrinaryOperator),
    (["ID_Continue", "IDC"], idContinue),
    (["ID_Start", "IDS"], idstart),
    (["Ideographic", "Ideo"], ideographic),
    (["Join_Control", "Join_C"], joinControl),
    (["Logical_Order_Exception", "LOE"], logicalOrderException),
    (["Lowercase", "Lower"], lowercase),
    (["Math"], math),
    (["Noncharacter_Code_Point", "NChar"], noncharacterCodePoint),
    (["Pattern_Syntax", "Pat_Syn"], patternSyntax),
    (["Pattern_White_Space", "Pat_WS"], patternWhiteSpace),
    (["Prepended_Concatenation_Mark", "PCM"], prependedConcatenationMark),
    (["Quotation_Mark", "QMark"], quotationMark),
    (["Radical"], radical),
    (["Regional_Indicator", "RI"], regionalIndicator),
    (["Sentence_Terminal", "STerm"], sentenceTerminal),
    (["Soft_Dotted", "SD"], softDotted),
    (["Terminal_Punctuation", "Term"], terminalPunctuation),
    (["Unified_Ideograph", "UIdeo"], unifiedIdeograph),
    (["Uppercase", "Upper"], uppercase),
    (["Variation_Selector", "VS"], variationSelector),
    (["White_Space", "WSpace", "space"], blankRanges),
    (["XID_Continue", "XIDC"], xidContinue),
    (["XID_Start", "XIDS"], xidstart)]

end RegistrySearch.Unicode
