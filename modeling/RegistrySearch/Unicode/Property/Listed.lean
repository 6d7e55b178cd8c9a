import RegistrySearch.Unicode.Ranges

/-!
# Other properties

Properties of ideographs, digits and single code points.
-/

namespace RegistrySearch.Unicode

namespace Property

/-- Code points with the property ASCII_Hex_Digit. -/
def asciiHexDigit : Ranges :=
  ⟨[(0x0030, 0x0039), (0x0041, 0x0046), (0x0061, 0x0066)]⟩

/-- Code points with the property Default_Ignorable_Code_Point. -/
def defaultIgnorableCodePoint : Ranges :=
  ⟨[(0x00AD, 0x00AD), (0x034F, 0x034F), (0x061C, 0x061C), (0x115F, 0x1160), (0x17B4, 0x17B5),
    (0x180B, 0x180F), (0x200B, 0x200F), (0x202A, 0x202E), (0x2060, 0x206F), (0x3164, 0x3164),
    (0xFE00, 0xFE0F), (0xFEFF, 0xFEFF), (0xFFA0, 0xFFA0), (0xFFF0, 0xFFF8), (0x1BCA0, 0x1BCA3),
    (0x1D173, 0x1D17A), (0xE0000, 0xE0FFF)]⟩

/-- Code points with the property Deprecated. -/
def deprecated : Ranges :=
  ⟨[(0x0149, 0x0149), (0x0673, 0x0673), (0x0F77, 0x0F77), (0x0F79, 0x0F79), (0x17A3, 0x17A4),
    (0x206A, 0x206F), (0x2329, 0x232A), (0xE0001, 0xE0001)]⟩

/-- Code points with the property Hex_Digit. -/
def hexDigit : Ranges :=
  ⟨[(0x0030, 0x0039), (0x0041, 0x0046), (0x0061, 0x0066), (0xFF10, 0xFF19), (0xFF21, 0xFF26),
    (0xFF41, 0xFF46)]⟩

/-- Code points with the property IDS_Binary_Operator. -/
def idsBinaryOperator : Ranges :=
  ⟨[(0x2FF0, 0x2FF1), (0x2FF4, 0x2FFD), (0x31EF, 0x31EF)]⟩

/-- Code points with the property IDS_Trinary_Operator. -/
def idsTrinaryOperator : Ranges :=
  ⟨[(0x2FF2, 0x2FF3)]⟩

/-- Code points with the property Ideographic. -/
def ideographic : Ranges :=
  ⟨[(0x3006, 0x3007), (0x3021, 0x3029), (0x3038, 0x303A), (0x3400, 0x4DBF), (0x4E00, 0x9FFF),
    (0xF900, 0xFA6D), (0xFA70, 0xFAD9), (0x16FE4, 0x16FE4), (0x17000, 0x187F7),
    (0x18800, 0x18CD5), (0x18CFF, 0x18D08), (0x1B170, 0x1B2FB), (0x20000, 0x2A6DF),
    (0x2A700, 0x2B739), (0x2B740, 0x2B81D), (0x2B820, 0x2CEA1), (0x2CEB0, 0x2EBE0),
    (0x2EBF0, 0x2EE5D), (0x2F800, 0x2FA1D), (0x30000, 0x3134A), (0x31350, 0x323AF)]⟩

/-- Code points with the property Logical_Order_Exception. -/
def logicalOrderException : Ranges :=
  ⟨[(0x0E40, 0x0E44), (0x0EC0, 0x0EC4), (0x19B5, 0x19B7), (0x19BA, 0x19BA), (0xAAB5, 0xAAB6),
    (0xAAB9, 0xAAB9), (0xAABB, 0xAABC)]⟩

/-- Code points with the property Noncharacter_Code_Point. -/
def noncharacterCodePoint : Ranges :=
  ⟨[(0xFDD0, 0xFDEF), (0xFFFE, 0xFFFF), (0x1FFFE, 0x1FFFF), (0x2FFFE, 0x2FFFF),
    (0x3FFFE, 0x3FFFF), (0x4FFFE, 0x4FFFF), (0x5FFFE, 0x5FFFF), (0x6FFFE, 0x6FFFF),
    (0x7FFFE, 0x7FFFF), (0x8FFFE, 0x8FFFF), (0x9FFFE, 0x9FFFF), (0xAFFFE, 0xAFFFF),
    (0xBFFFE, 0xBFFFF), (0xCFFFE, 0xCFFFF), (0xDFFFE, 0xDFFFF), (0xEFFFE, 0xEFFFF),
    (0xFFFFE, 0xFFFFF), (0x10FFFE, 0x10FFFF)]⟩

/-- Code points with the property Radical. -/
def radical : Ranges :=
  ⟨[(0x2E80, 0x2E99), (0x2E9B, 0x2EF3), (0x2F00, 0x2FD5)]⟩

/-- Code points with the property Unified_Ideograph. -/
def unifiedIdeograph : Ranges :=
  ⟨[(0x3400, 0x4DBF), (0x4E00, 0x9FFF), (0xFA0E, 0xFA0F), (0xFA11, 0xFA11), (0xFA13, 0xFA14),
    (0xFA1F, 0xFA1F), (0xFA21, 0xFA21), (0xFA23, 0xFA24), (0xFA27, 0xFA29), (0x20000, 0x2A6DF),
    (0x2A700, 0x2B739), (0x2B740, 0x2B81D), (0x2B820, 0x2CEA1), (0x2CEB0, 0x2EBE0),
    (0x2EBF0, 0x2EE5D), (0x30000, 0x3134A), (0x31350, 0x323AF)]⟩

end Property

end RegistrySearch.Unicode
