import RegistrySearch.Unicode.Category

/-!
# Properties close to categories

Sets of code points that differ from unions of general categories by a few rows.
-/

namespace RegistrySearch.Unicode

namespace Property

/-- Code points with the property Alphabetic. -/
def alphabetic : Ranges :=
  Ranges.symmDiff (letters.union letterNumbers)
    ⟨[[(0x0345, 0x0345), (0x0363, 0x036F), (0x05B0, 0x05BD), (0x05BF, 0x05BF), (0x05C1, 0x05C2)],
      [(0x05C4, 0x05C5), (0x05C7, 0x05C7), (0x0610, 0x061A), (0x064B, 0x0657), (0x0659, 0x065F)],
      [(0x0670, 0x0670), (0x06D6, 0x06DC), (0x06E1, 0x06E4), (0x06E7, 0x06E8), (0x06ED, 0x06ED)],
      [(0x0711, 0x0711), (0x0730, 0x073F), (0x07A6, 0x07B0), (0x0816, 0x0817), (0x081B, 0x0823)],
      [(0x0825, 0x0827), (0x0829, 0x082C), (0x0897, 0x0897), (0x08D4, 0x08DF), (0x08E3, 0x08E9)],
      [(0x08F0, 0x0903), (0x093A, 0x093B), (0x093E, 0x094C), (0x094E, 0x094F), (0x0955, 0x0957)],
      [(0x0962, 0x0963), (0x0981, 0x0983), (0x09BE, 0x09C4), (0x09C7, 0x09C8), (0x09CB, 0x09CC)],
      [(0x09D7, 0x09D7), (0x09E2, 0x09E3), (0x0A01, 0x0A03), (0x0A3E, 0x0A42), (0x0A47, 0x0A48)],
      [(0x0A4B, 0x0A4C), (0x0A51, 0x0A51), (0x0A70, 0x0A71), (0x0A75, 0x0A75), (0x0A81, 0x0A83)],
      [(0x0ABE, 0x0AC5), (0x0AC7, 0x0AC9), (0x0ACB, 0x0ACC), (0x0AE2, 0x0AE3), (0x0AFA, 0x0AFC)],
      [(0x0B01, 0x0B03), (0x0B3E, 0x0B44), (0x0B47, 0x0B48), (0x0B4B, 0x0B4C), (0x0B56, 0x0B57)],
      [(0x0B62, 0x0B63), (0x0B82, 0x0B82), (0x0BBE, 0x0BC2), (0x0BC6, 0x0BC8), (0x0BCA, 0x0BCC)],
      [(0x0BD7, 0x0BD7), (0x0C00, 0x0C04), (0x0C3E, 0x0C44), (0x0C46, 0x0C48), (0x0C4A, 0x0C4C)],
      [(0x0C55, 0x0C56), (0x0C62, 0x0C63), (0x0C81, 0x0C83), (0x0CBE, 0x0CC4), (0x0CC6, 0x0CC8)],
      [(0x0CCA, 0x0CCC), (0x0CD5, 0x0CD6), (0x0CE2, 0x0CE3), (0x0CF3, 0x0CF3), (0x0D00, 0x0D03)],
      [(0x0D3E, 0x0D44), (0x0D46, 0x0D48), (0x0D4A, 0x0D4C), (0x0D57, 0x0D57), (0x0D62, 0x0D63)],
      [(0x0D81, 0x0D83), (0x0DCF, 0x0DD4), (0x0DD6, 0x0DD6), (0x0DD8, 0x0DDF), (0x0DF2, 0x0DF3)],
      [(0x0E31, 0x0E31), (0x0E34, 0x0E3A), (0x0E4D, 0x0E4D), (0x0EB1, 0x0EB1), (0x0EB4, 0x0EB9)],
      [(0x0EBB, 0x0EBC), (0x0ECD, 0x0ECD), (0x0F71, 0x0F83), (0x0F8D, 0x0F97), (0x0F99, 0x0FBC)],
      [(0x102B, 0x1036), (0x1038, 0x1038), (0x103B, 0x103E), (0x1056, 0x1059), (0x105E, 0x1060)],
      [(0x1062, 0x1064), (0x1067, 0x106D), (0x1071, 0x1074), (0x1082, 0x108D), (0x108F, 0x108F)],
      [(0x109A, 0x109D), (0x1712, 0x1713), (0x1732, 0x1733), (0x1752, 0x1753), (0x1772, 0x1773)],
      [(0x17B6, 0x17C8), (0x1885, 0x1886), (0x18A9, 0x18A9), (0x1920, 0x192B), (0x1930, 0x1938)],
      [(0x1A17, 0x1A1B), (0x1A55, 0x1A5E), (0x1A61, 0x1A74), (0x1ABF, 0x1AC0), (0x1ACC, 0x1ACE)],
      [(0x1B00, 0x1B04), (0x1B35, 0x1B43), (0x1B80, 0x1B82), (0x1BA1, 0x1BA9), (0x1BAC, 0x1BAD)],
      [(0x1BE7, 0x1BF1), (0x1C24, 0x1C36), (0x1DD3, 0x1DF4), (0x24B6, 0x24E9), (0x2DE0, 0x2DFF)],
      [(0xA674, 0xA67B), (0xA69E, 0xA69F), (0xA802, 0xA802), (0xA80B, 0xA80B), (0xA823, 0xA827)],
      [(0xA880, 0xA881), (0xA8B4, 0xA8C3), (0xA8C5, 0xA8C5), (0xA8FF, 0xA8FF), (0xA926, 0xA92A)],
      [(0xA947, 0xA952), (0xA980, 0xA983), (0xA9B4, 0xA9BF), (0xA9E5, 0xA9E5), (0xAA29, 0xAA36)],
      [(0xAA43, 0xAA43), (0xAA4C, 0xAA4D), (0xAA7B, 0xAA7D), (0xAAB0, 0xAAB0), (0xAAB2, 0xAAB4)],
      [(0xAAB7, 0xAAB8), (0xAABE, 0xAABE), (0xAAEB, 0xAAEF), (0xAAF5, 0xAAF5), (0xABE3, 0xABEA)],
      [(0xFB1E, 0xFB1E), (0x10376, 0x1037A), (0x10A01, 0x10A03), (0x10A05, 0x10A06)],
      [(0x10A0C, 0x10A0F), (0x10D24, 0x10D27), (0x10D69, 0x10D69), (0x10EAB, 0x10EAC)],
      [(0x10EFC, 0x10EFC), (0x11000, 0x11002), (0x11038, 0x11045), (0x11073, 0x11074)],
      [(0x11080, 0x11082), (0x110B0, 0x110B8), (0x110C2, 0x110C2), (0x11100, 0x11102)],
      [(0x11127, 0x11132), (0x11145, 0x11146), (0x11180, 0x11182), (0x111B3, 0x111BF)],
      [(0x111CE, 0x111CF), (0x1122C, 0x11234), (0x11237, 0x11237), (0x1123E, 0x1123E)],
      [(0x11241, 0x11241), (0x112DF, 0x112E8), (0x11300, 0x11303), (0x1133E, 0x11344)],
      [(0x11347, 0x11348), (0x1134B, 0x1134C), (0x11357, 0x11357), (0x11362, 0x11363)],
      [(0x113B8, 0x113C0), (0x113C2, 0x113C2), (0x113C5, 0x113C5), (0x113C7, 0x113CA)],
      [(0x113CC, 0x113CD), (0x11435, 0x11441), (0x11443, 0x11445), (0x114B0, 0x114C1)],
      [(0x115AF, 0x115B5), (0x115B8, 0x115BE), (0x115DC, 0x115DD), (0x11630, 0x1163E)],
      [(0x11640, 0x11640), (0x116AB, 0x116B5), (0x1171D, 0x1172A), (0x1182C, 0x11838)],
      [(0x11930, 0x11935), (0x11937, 0x11938), (0x1193B, 0x1193C), (0x11940, 0x11940)],
      [(0x11942, 0x11942), (0x119D1, 0x119D7), (0x119DA, 0x119DF), (0x119E4, 0x119E4)],
      [(0x11A01, 0x11A0A), (0x11A35, 0x11A39), (0x11A3B, 0x11A3E), (0x11A51, 0x11A5B)],
      [(0x11A8A, 0x11A97), (0x11C2F, 0x11C36), (0x11C38, 0x11C3E), (0x11C92, 0x11CA7)],
      [(0x11CA9, 0x11CB6), (0x11D31, 0x11D36), (0x11D3A, 0x11D3A), (0x11D3C, 0x11D3D)],
      [(0x11D3F, 0x11D41), (0x11D43, 0x11D43), (0x11D47, 0x11D47), (0x11D8A, 0x11D8E)],
      [(0x11D90, 0x11D91), (0x11D93, 0x11D96), (0x11EF3, 0x11EF6), (0x11F00, 0x11F01)],
      [(0x11F03, 0x11F03), (0x11F34, 0x11F3A), (0x11F3E, 0x11F40), (0x1611E, 0x1612E)],
      [(0x16F4F, 0x16F4F), (0x16F51, 0x16F87), (0x16F8F, 0x16F92), (0x16FF0, 0x16FF1)],
      [(0x1BC9E, 0x1BC9E), (0x1E000, 0x1E006), (0x1E008, 0x1E018), (0x1E01B, 0x1E021)],
      [(0x1E023, 0x1E024), (0x1E026, 0x1E02A), (0x1E08F, 0x1E08F), (0x1E947, 0x1E947)],
      [(0x1F130, 0x1F149), (0x1F150, 0x1F169), (0x1F170, 0x1F189)]].flatten⟩

/-- Code points with the property Lowercase. -/
def lowercase : Ranges :=
  Ranges.symmDiff lowercaseLetters
    ⟨[(0x00AA, 0x00AA), (0x00BA, 0x00BA), (0x02B0, 0x02B8), (0x02C0, 0x02C1), (0x02E0, 0x02E4),
      (0x0345, 0x0345), (0x037A, 0x037A), (0x10FC, 0x10FC), (0x1D2C, 0x1D6A), (0x1D78, 0x1D78),
      (0x1D9B, 0x1DBF), (0x2071, 0x2071), (0x207F, 0x207F), (0x2090, 0x209C), (0x2170, 0x217F),
      (0x24D0, 0x24E9), (0x2C7C, 0x2C7D), (0xA69C, 0xA69D), (0xA770, 0xA770), (0xA7F2, 0xA7F4),
      (0xA7F8, 0xA7F9), (0xAB5C, 0xAB5F), (0xAB69, 0xAB69), (0x10780, 0x10780),
      (0x10783, 0x10785), (0x10787, 0x107B0), (0x107B2, 0x107BA), (0x1E030, 0x1E06D)]⟩

/-- Code points with the property Uppercase. -/
def uppercase : Ranges :=
  Ranges.symmDiff uppercaseLetters
    ⟨[(0x2160, 0x216F), (0x24B6, 0x24CF), (0x1F130, 0x1F149), (0x1F150, 0x1F169),
      (0x1F170, 0x1F189)]⟩

/-- Code points with the property Math. -/
def math : Ranges :=
  Ranges.symmDiff mathSymbols
    ⟨[[(0x005E, 0x005E), (0x03D0, 0x03D2), (0x03D5, 0x03D5), (0x03F0, 0x03F1), (0x03F4, 0x03F5)],
      [(0x2016, 0x2016), (0x2032, 0x2034), (0x2040, 0x2040), (0x2061, 0x2064), (0x207D, 0x207E)],
      [(0x208D, 0x208E), (0x20D0, 0x20DC), (0x20E1, 0x20E1), (0x20E5, 0x20E6), (0x20EB, 0x20EF)],
      [(0x2102, 0x2102), (0x2107, 0x2107), (0x210A, 0x2113), (0x2115, 0x2115), (0x2119, 0x211D)],
      [(0x2124, 0x2124), (0x2128, 0x2129), (0x212C, 0x212D), (0x212F, 0x2131), (0x2133, 0x2138)],
      [(0x213C, 0x213F), (0x2145, 0x2149), (0x2195, 0x2199), (0x219C, 0x219F), (0x21A1, 0x21A2)],
      [(0x21A4, 0x21A5), (0x21A7, 0x21A7), (0x21A9, 0x21AD), (0x21B0, 0x21B1), (0x21B6, 0x21B7)],
      [(0x21BC, 0x21CD), (0x21D0, 0x21D1), (0x21D3, 0x21D3), (0x21D5, 0x21DB), (0x21DD, 0x21DD)],
      [(0x21E4, 0x21E5), (0x2308, 0x230B), (0x23B4, 0x23B5), (0x23B7, 0x23B7), (0x23D0, 0x23D0)],
      [(0x23E2, 0x23E2), (0x25A0, 0x25A1), (0x25AE, 0x25B6), (0x25BC, 0x25C0), (0x25C6, 0x25C7)],
      [(0x25CA, 0x25CB), (0x25CF, 0x25D3), (0x25E2, 0x25E2), (0x25E4, 0x25E4), (0x25E7, 0x25EC)],
      [(0x2605, 0x2606), (0x2640, 0x2640), (0x2642, 0x2642), (0x2660, 0x2663), (0x266D, 0x266E)],
      [(0x27C5, 0x27C6), (0x27E6, 0x27EF), (0x2983, 0x2998), (0x29D8, 0x29DB), (0x29FC, 0x29FD)],
      [(0xFE61, 0xFE61), (0xFE63, 0xFE63), (0xFE68, 0xFE68), (0xFF3C, 0xFF3C), (0xFF3E, 0xFF3E)],
      [(0x1D400, 0x1D454), (0x1D456, 0x1D49C), (0x1D49E, 0x1D49F), (0x1D4A2, 0x1D4A2)],
      [(0x1D4A5, 0x1D4A6), (0x1D4A9, 0x1D4AC), (0x1D4AE, 0x1D4B9), (0x1D4BB, 0x1D4BB)],
      [(0x1D4BD, 0x1D4C3), (0x1D4C5, 0x1D505), (0x1D507, 0x1D50A), (0x1D50D, 0x1D514)],
      [(0x1D516, 0x1D51C), (0x1D51E, 0x1D539), (0x1D53B, 0x1D53E), (0x1D540, 0x1D544)],
      [(0x1D546, 0x1D546), (0x1D54A, 0x1D550), (0x1D552, 0x1D6A5), (0x1D6A8, 0x1D6C0)],
      [(0x1D6C2, 0x1D6DA), (0x1D6DC, 0x1D6FA), (0x1D6FC, 0x1D714), (0x1D716, 0x1D734)],
      [(0x1D736, 0x1D74E), (0x1D750, 0x1D76E), (0x1D770, 0x1D788), (0x1D78A, 0x1D7A8)],
      [(0x1D7AA, 0x1D7C2), (0x1D7C4, 0x1D7CB), (0x1D7CE, 0x1D7FF), (0x1EE00, 0x1EE03)],
      [(0x1EE05, 0x1EE1F), (0x1EE21, 0x1EE22), (0x1EE24, 0x1EE24), (0x1EE27, 0x1EE27)],
      [(0x1EE29, 0x1EE32), (0x1EE34, 0x1EE37), (0x1EE39, 0x1EE39), (0x1EE3B, 0x1EE3B)],
      [(0x1EE42, 0x1EE42), (0x1EE47, 0x1EE47), (0x1EE49, 0x1EE49), (0x1EE4B, 0x1EE4B)],
      [(0x1EE4D, 0x1EE4F), (0x1EE51, 0x1EE52), (0x1EE54, 0x1EE54), (0x1EE57, 0x1EE57)],
      [(0x1EE59, 0x1EE59), (0x1EE5B, 0x1EE5B), (0x1EE5D, 0x1EE5D), (0x1EE5F, 0x1EE5F)],
      [(0x1EE61, 0x1EE62), (0x1EE64, 0x1EE64), (0x1EE67, 0x1EE6A), (0x1EE6C, 0x1EE72)],
      [(0x1EE74, 0x1EE77), (0x1EE79, 0x1EE7C), (0x1EE7E, 0x1EE7E), (0x1EE80, 0x1EE89)],
      [(0x1EE8B, 0x1EE9B), (0x1EEA1, 0x1EEA3), (0x1EEA5, 0x1EEA9), (0x1EEAB, 0x1EEBB)]].flatten⟩

/-- Code points with the property ID_Start. -/
def idstart : Ranges :=
  Ranges.symmDiff (letters.union letterNumbers)
    ⟨[(0x1885, 0x1886), (0x2118, 0x2118), (0x212E, 0x212E), (0x2E2F, 0x2E2F), (0x309B, 0x309C)]⟩

/-- Code points with the property ID_Continue. -/
def idContinue : Ranges :=
  Ranges.symmDiff (Ranges.unions [letters, letterNumbers, nonspacingMarks, spacingMarks, decimalNumbers,
    connectorPunctuation])
    ⟨[(0x00B7, 0x00B7), (0x0387, 0x0387), (0x1369, 0x1371), (0x19DA, 0x19DA), (0x200C, 0x200D),
      (0x2118, 0x2118), (0x212E, 0x212E), (0x2E2F, 0x2E2F), (0x309B, 0x309C), (0x30FB, 0x30FB),
      (0xFF65, 0xFF65)]⟩

/-- Code points with the property XID_Start. -/
def xidstart : Ranges :=
  Ranges.symmDiff (letters.union letterNumbers)
    ⟨[(0x037A, 0x037A), (0x0E33, 0x0E33), (0x0EB3, 0x0EB3), (0x1885, 0x1886), (0x2118, 0x2118),
      (0x212E, 0x212E), (0x2E2F, 0x2E2F), (0xFC5E, 0xFC63), (0xFDFA, 0xFDFB), (0xFE70, 0xFE70),
      (0xFE72, 0xFE72), (0xFE74, 0xFE74), (0xFE76, 0xFE76), (0xFE78, 0xFE78), (0xFE7A, 0xFE7A),
      (0xFE7C, 0xFE7C), (0xFE7E, 0xFE7E), (0xFF9E, 0xFF9F)]⟩

/-- Code points with the property XID_Continue. -/
def xidContinue : Ranges :=
  Ranges.symmDiff (Ranges.unions [letters, letterNumbers, nonspacingMarks, spacingMarks, decimalNumbers,
    connectorPunctuation])
    ⟨[(0x00B7, 0x00B7), (0x037A, 0x037A), (0x0387, 0x0387), (0x1369, 0x1371), (0x19DA, 0x19DA),
      (0x200C, 0x200D), (0x2118, 0x2118), (0x212E, 0x212E), (0x2E2F, 0x2E2F), (0x30FB, 0x30FB),
      (0xFC5E, 0xFC63), (0xFDFA, 0xFDFB), (0xFE70, 0xFE70), (0xFE72, 0xFE72), (0xFE74, 0xFE74),
      (0xFE76, 0xFE76), (0xFE78, 0xFE78), (0xFE7A, 0xFE7A), (0xFE7C, 0xFE7C), (0xFE7E, 0xFE7E),
      (0xFF65, 0xFF65)]⟩

/-- Code points with the property Grapheme_Extend. -/
def graphemeExtend : Ranges :=
  Ranges.symmDiff (nonspacingMarks.union enclosingMarks)
    ⟨[(0x09BE, 0x09BE), (0x09D7, 0x09D7), (0x0B3E, 0x0B3E), (0x0B57, 0x0B57), (0x0BBE, 0x0BBE),
      (0x0BD7, 0x0BD7), (0x0CC0, 0x0CC0), (0x0CC2, 0x0CC2), (0x0CC7, 0x0CC8), (0x0CCA, 0x0CCB),
      (0x0CD5, 0x0CD6), (0x0D3E, 0x0D3E), (0x0D57, 0x0D57), (0x0DCF, 0x0DCF), (0x0DDF, 0x0DDF),
      (0x1715, 0x1715), (0x1734, 0x1734), (0x1B35, 0x1B35), (0x1B3B, 0x1B3B), (0x1B3D, 0x1B3D),
      (0x1B43, 0x1B44), (0x1BAA, 0x1BAA), (0x1BF2, 0x1BF3), (0x200C, 0x200C), (0x302E, 0x302F),
      (0xA953, 0xA953), (0xA9C0, 0xA9C0), (0xFF9E, 0xFF9F), (0x111C0, 0x111C0),
      (0x11235, 0x11235), (0x1133E, 0x1133E), (0x1134D, 0x1134D), (0x11357, 0x11357),
      (0x113B8, 0x113B8), (0x113C2, 0x113C2), (0x113C5, 0x113C5), (0x113C7, 0x113C9),
      (0x113CF, 0x113CF), (0x114B0, 0x114B0), (0x114BD, 0x114BD), (0x115AF, 0x115AF),
      (0x116B6, 0x116B6), (0x11930, 0x11930), (0x1193D, 0x1193D), (0x11F41, 0x11F41),
      (0x16FF0, 0x16FF1), (0x1D165, 0x1D166), (0x1D16D, 0x1D172), (0xE0020, 0xE007F)]⟩

/-- Code points with the property Grapheme_Base. -/
def graphemeBase : Ranges :=
  Ranges.symmDiff (Ranges.complement (.unions [controls, formats, surrogates, privateUse, unassigned,
    lineSeparators, paragraphSeparators, nonspacingMarks, enclosingMarks]))
    ⟨[(0x09BE, 0x09BE), (0x09D7, 0x09D7), (0x0B3E, 0x0B3E), (0x0B57, 0x0B57), (0x0BBE, 0x0BBE),
      (0x0BD7, 0x0BD7), (0x0CC0, 0x0CC0), (0x0CC2, 0x0CC2), (0x0CC7, 0x0CC8), (0x0CCA, 0x0CCB),
      (0x0CD5, 0x0CD6), (0x0D3E, 0x0D3E), (0x0D57, 0x0D57), (0x0DCF, 0x0DCF), (0x0DDF, 0x0DDF),
      (0x1715, 0x1715), (0x1734, 0x1734), (0x1B35, 0x1B35), (0x1B3B, 0x1B3B), (0x1B3D, 0x1B3D),
      (0x1B43, 0x1B44), (0x1BAA, 0x1BAA), (0x1BF2, 0x1BF3), (0x302E, 0x302F), (0xA953, 0xA953),
      (0xA9C0, 0xA9C0), (0xFF9E, 0xFF9F), (0x111C0, 0x111C0), (0x11235, 0x11235),
      (0x1133E, 0x1133E), (0x1134D, 0x1134D), (0x11357, 0x11357), (0x113B8, 0x113B8),
      (0x113C2, 0x113C2), (0x113C5, 0x113C5), (0x113C7, 0x113C9), (0x113CF, 0x113CF),
      (0x114B0, 0x114B0), (0x114BD, 0x114BD), (0x115AF, 0x115AF), (0x116B6, 0x116B6),
      (0x11930, 0x11930), (0x1193D, 0x1193D), (0x11F41, 0x11F41), (0x16FF0, 0x16FF1),
      (0x1D165, 0x1D166), (0x1D16D, 0x1D172)]⟩

/-- Code points with the property Changes_When_Lowercased. -/
def changesWhenLowercased : Ranges :=
  Ranges.symmDiff uppercaseLetters
    ⟨[(0x01C5, 0x01C5), (0x01C8, 0x01C8), (0x01CB, 0x01CB), (0x01F2, 0x01F2), (0x03D2, 0x03D4),
      (0x1F88, 0x1F8F), (0x1F98, 0x1F9F), (0x1FA8, 0x1FAF), (0x1FBC, 0x1FBC), (0x1FCC, 0x1FCC),
      (0x1FFC, 0x1FFC), (0x2102, 0x2102), (0x2107, 0x2107), (0x210B, 0x210D), (0x2110, 0x2112),
      (0x2115, 0x2115), (0x2119, 0x211D), (0x2124, 0x2124), (0x2128, 0x2128), (0x212C, 0x212D),
      (0x2130, 0x2131), (0x2133, 0x2133), (0x213E, 0x213F), (0x2145, 0x2145), (0x2160, 0x216F),
      (0x24B6, 0x24CF), (0x1D400, 0x1D419), (0x1D434, 0x1D44D), (0x1D468, 0x1D481),
      (0x1D49C, 0x1D49C), (0x1D49E, 0x1D49F), (0x1D4A2, 0x1D4A2), (0x1D4A5, 0x1D4A6),
      (0x1D4A9, 0x1D4AC), (0x1D4AE, 0x1D4B5), (0x1D4D0, 0x1D4E9), (0x1D504, 0x1D505),
      (0x1D507, 0x1D50A), (0x1D50D, 0x1D514), (0x1D516, 0x1D51C), (0x1D538, 0x1D539),
      (0x1D53B, 0x1D53E), (0x1D540, 0x1D544), (0x1D546, 0x1D546), (0x1D54A, 0x1D550),
      (0x1D56C, 0x1D585), (0x1D5A0, 0x1D5B9), (0x1D5D4, 0x1D5ED), (0x1D608, 0x1D621),
      (0x1D63C, 0x1D655), (0x1D670, 0x1D689), (0x1D6A8, 0x1D6C0), (0x1D6E2, 0x1D6FA),
      (0x1D71C, 0x1D734), (0x1D756, 0x1D76E), (0x1D790, 0x1D7A8), (0x1D7CA, 0x1D7CA)]⟩

/-- Code points with the property Changes_When_Uppercased. -/
def changesWhenUppercased : Ranges :=
  Ranges.symmDiff lowercaseLetters
    ⟨[[(0x0138, 0x0138), (0x018D, 0x018D), (0x01AA, 0x01AB), (0x01BA, 0x01BA), (0x01BE, 0x01BE)],
      [(0x01C5, 0x01C5), (0x01C8, 0x01C8), (0x01CB, 0x01CB), (0x01F2, 0x01F2), (0x0221, 0x0221)],
      [(0x0234, 0x0239), (0x0255, 0x0255), (0x0258, 0x0258), (0x025A, 0x025A), (0x025D, 0x025F)],
      [(0x0262, 0x0262), (0x0267, 0x0267), (0x026D, 0x026E), (0x0270, 0x0270), (0x0273, 0x0274)],
      [(0x0276, 0x027C), (0x027E, 0x027F), (0x0281, 0x0281), (0x0284, 0x0286), (0x028D, 0x0291)],
      [(0x0293, 0x0293), (0x0295, 0x029C), (0x029F, 0x02AF), (0x0345, 0x0345), (0x03FC, 0x03FC)],
      [(0x0560, 0x0560), (0x0588, 0x0588), (0x1D00, 0x1D2B), (0x1D6B, 0x1D77), (0x1D7A, 0x1D7C)],
      [(0x1D7E, 0x1D8D), (0x1D8F, 0x1D9A), (0x1E9C, 0x1E9D), (0x1E9F, 0x1E9F), (0x1F88, 0x1F8F)],
      [(0x1F98, 0x1F9F), (0x1FA8, 0x1FAF), (0x1FBC, 0x1FBC), (0x1FCC, 0x1FCC), (0x1FFC, 0x1FFC)],
      [(0x210A, 0x210A), (0x210E, 0x210F), (0x2113, 0x2113), (0x212F, 0x212F), (0x2134, 0x2134)],
      [(0x2139, 0x2139), (0x213C, 0x213D), (0x2146, 0x2149), (0x2170, 0x217F), (0x24D0, 0x24E9)],
      [(0x2C71, 0x2C71), (0x2C74, 0x2C74), (0x2C77, 0x2C7B), (0x2CE4, 0x2CE4), (0xA730, 0xA731)],
      [(0xA771, 0xA778), (0xA78E, 0xA78E), (0xA795, 0xA795), (0xA7AF, 0xA7AF), (0xA7D3, 0xA7D3)],
      [(0xA7D5, 0xA7D5), (0xA7FA, 0xA7FA), (0xAB30, 0xAB52), (0xAB54, 0xAB5A), (0xAB60, 0xAB68)],
      [(0x1D41A, 0x1D433), (0x1D44E, 0x1D454), (0x1D456, 0x1D467), (0x1D482, 0x1D49B)],
      [(0x1D4B6, 0x1D4B9), (0x1D4BB, 0x1D4BB), (0x1D4BD, 0x1D4C3), (0x1D4C5, 0x1D4CF)],
      [(0x1D4EA, 0x1D503), (0x1D51E, 0x1D537), (0x1D552, 0x1D56B), (0x1D586, 0x1D59F)],
      [(0x1D5BA, 0x1D5D3), (0x1D5EE, 0x1D607), (0x1D622, 0x1D63B), (0x1D656, 0x1D66F)],
      [(0x1D68A, 0x1D6A5), (0x1D6C2, 0x1D6DA), (0x1D6DC, 0x1D6E1), (0x1D6FC, 0x1D714)],
      [(0x1D716, 0x1D71B), (0x1D736, 0x1D74E), (0x1D750, 0x1D755), (0x1D770, 0x1D788)],
      [(0x1D78A, 0x1D78F), (0x1D7AA, 0x1D7C2), (0x1D7C4, 0x1D7C9), (0x1D7CB, 0x1D7CB)],
      [(0x1DF00, 0x1DF09), (0x1DF0B, 0x1DF1E), (0x1DF25, 0x1DF2A)]].flatten⟩

/-- Code points with the property Changes_When_Titlecased. -/
def changesWhenTitlecased : Ranges :=
  Ranges.symmDiff lowercaseLetters
    ⟨[[(0x0138, 0x0138), (0x018D, 0x018D), (0x01AA, 0x01AB), (0x01BA, 0x01BA), (0x01BE, 0x01BE)],
      [(0x01C4, 0x01C4), (0x01C7, 0x01C7), (0x01CA, 0x01CA), (0x01F1, 0x01F1), (0x0221, 0x0221)],
      [(0x0234, 0x0239), (0x0255, 0x0255), (0x0258, 0x0258), (0x025A, 0x025A), (0x025D, 0x025F)],
      [(0x0262, 0x0262), (0x0267, 0x0267), (0x026D, 0x026E), (0x0270, 0x0270), (0x0273, 0x0274)],
      [(0x0276, 0x027C), (0x027E, 0x027F), (0x0281, 0x0281), (0x0284, 0x0286), (0x028D, 0x0291)],
      [(0x0293, 0x0293), (0x0295, 0x029C), (0x029F, 0x02AF), (0x0345, 0x0345), (0x03FC, 0x03FC)],
      [(0x0560, 0x0560), (0x0588, 0x0588), (0x10D0, 0x10FA), (0x10FD, 0x10FF), (0x1D00, 0x1D2B)],
      [(0x1D6B, 0x1D77), (0x1D7A, 0x1D7C), (0x1D7E, 0x1D8D), (0x1D8F, 0x1D9A), (0x1E9C, 0x1E9D)],
      [(0x1E9F, 0x1E9F), (0x210A, 0x210A), (0x210E, 0x210F), (0x2113, 0x2113), (0x212F, 0x212F)],
      [(0x2134, 0x2134), (0x2139, 0x2139), (0x213C, 0x213D), (0x2146, 0x2149), (0x2170, 0x217F)],
      [(0x24D0, 0x24E9), (0x2C71, 0x2C71), (0x2C74, 0x2C74), (0x2C77, 0x2C7B), (0x2CE4, 0x2CE4)],
      [(0xA730, 0xA731), (0xA771, 0xA778), (0xA78E, 0xA78E), (0xA795, 0xA795), (0xA7AF, 0xA7AF)],
      [(0xA7D3, 0xA7D3), (0xA7D5, 0xA7D5), (0xA7FA, 0xA7FA), (0xAB30, 0xAB52), (0xAB54, 0xAB5A)],
      [(0xAB60, 0xAB68), (0x1D41A, 0x1D433), (0x1D44E, 0x1D454), (0x1D456, 0x1D467)],
      [(0x1D482, 0x1D49B), (0x1D4B6, 0x1D4B9), (0x1D4BB, 0x1D4BB), (0x1D4BD, 0x1D4C3)],
      [(0x1D4C5, 0x1D4CF), (0x1D4EA, 0x1D503), (0x1D51E, 0x1D537), (0x1D552, 0x1D56B)],
      [(0x1D586, 0x1D59F), (0x1D5BA, 0x1D5D3), (0x1D5EE, 0x1D607), (0x1D622, 0x1D63B)],
      [(0x1D656, 0x1D66F), (0x1D68A, 0x1D6A5), (0x1D6C2, 0x1D6DA), (0x1D6DC, 0x1D6E1)],
      [(0x1D6FC, 0x1D714), (0x1D716, 0x1D71B), (0x1D736, 0x1D74E), (0x1D750, 0x1D755)],
      [(0x1D770, 0x1D788), (0x1D78A, 0x1D78F), (0x1D7AA, 0x1D7C2), (0x1D7C4, 0x1D7C9)],
      [(0x1D7CB, 0x1D7CB), (0x1DF00, 0x1DF09), (0x1DF0B, 0x1DF1E), (0x1DF25, 0x1DF2A)]].flatten⟩

/-- Code points with the property Changes_When_Casefolded. -/
def changesWhenCasefolded : Ranges :=
  Ranges.symmDiff uppercaseLetters
    ⟨[[(0x00B5, 0x00B5), (0x00DF, 0x00DF), (0x0149, 0x0149), (0x017F, 0x017F), (0x01C5, 0x01C5)],
      [(0x01C8, 0x01C8), (0x01CB, 0x01CB), (0x01F2, 0x01F2), (0x0345, 0x0345), (0x03C2, 0x03C2)],
      [(0x03D0, 0x03D6), (0x03F0, 0x03F1), (0x03F5, 0x03F5), (0x0587, 0x0587), (0x13A0, 0x13F5)],
      [(0x13F8, 0x13FD), (0x1C80, 0x1C88), (0x1E9A, 0x1E9B), (0x1F80, 0x1FAF), (0x1FB2, 0x1FB4)],
      [(0x1FB7, 0x1FB7), (0x1FBC, 0x1FBC), (0x1FC2, 0x1FC4), (0x1FC7, 0x1FC7), (0x1FCC, 0x1FCC)],
      [(0x1FF2, 0x1FF4), (0x1FF7, 0x1FF7), (0x1FFC, 0x1FFC), (0x2102, 0x2102), (0x2107, 0x2107)],
      [(0x210B, 0x210D), (0x2110, 0x2112), (0x2115, 0x2115), (0x2119, 0x211D), (0x2124, 0x2124)],
      [(0x2128, 0x2128), (0x212C, 0x212D), (0x2130, 0x2131), (0x2133, 0x2133), (0x213E, 0x213F)],
      [(0x2145, 0x2145), (0x2160, 0x216F), (0x24B6, 0x24CF), (0xAB70, 0xABBF), (0xFB00, 0xFB06)],
      [(0xFB13, 0xFB17), (0x1D400, 0x1D419), (0x1D434, 0x1D44D), (0x1D468, 0x1D481)],
      [(0x1D49C, 0x1D49C), (0x1D49E, 0x1D49F), (0x1D4A2, 0x1D4A2), (0x1D4A5, 0x1D4A6)],
      [(0x1D4A9, 0x1D4AC), (0x1D4AE, 0x1D4B5), (0x1D4D0, 0x1D4E9), (0x1D504, 0x1D505)],
      [(0x1D507, 0x1D50A), (0x1D50D, 0x1D514), (0x1D516, 0x1D51C), (0x1D538, 0x1D539)],
      [(0x1D53B, 0x1D53E), (0x1D540, 0x1D544), (0x1D546, 0x1D546), (0x1D54A, 0x1D550)],
      [(0x1D56C, 0x1D585), (0x1D5A0, 0x1D5B9), (0x1D5D4, 0x1D5ED), (0x1D608, 0x1D621)],
      [(0x1D63C, 0x1D655), (0x1D670, 0x1D689), (0x1D6A8, 0x1D6C0), (0x1D6E2, 0x1D6FA)],
      [(0x1D71C, 0x1D734), (0x1D756, 0x1D76E), (0x1D790, 0x1D7A8), (0x1D7CA, 0x1D7CA)]].flatten⟩

/-- Code points with the property Changes_When_Casemapped. -/
def changesWhenCasemapped : Ranges :=
  Ranges.symmDiff (Ranges.unions [uppercaseLetters, lowercaseLetters, titlecaseLetters])
    ⟨[[(0x0138, 0x0138), (0x018D, 0x018D), (0x01AA, 0x01AB), (0x01BA, 0x01BA), (0x01BE, 0x01BE)],
      [(0x0221, 0x0221), (0x0234, 0x0239), (0x0255, 0x0255), (0x0258, 0x0258), (0x025A, 0x025A)],
      [(0x025D, 0x025F), (0x0262, 0x0262), (0x0267, 0x0267), (0x026D, 0x026E), (0x0270, 0x0270)],
      [(0x0273, 0x0274), (0x0276, 0x027C), (0x027E, 0x027F), (0x0281, 0x0281), (0x0284, 0x0286)],
      [(0x028D, 0x0291), (0x0293, 0x0293), (0x0295, 0x029C), (0x029F, 0x02AF), (0x0345, 0x0345)],
      [(0x03D2, 0x03D4), (0x03FC, 0x03FC), (0x0560, 0x0560), (0x0588, 0x0588), (0x1D00, 0x1D2B)],
      [(0x1D6B, 0x1D77), (0x1D7A, 0x1D7C), (0x1D7E, 0x1D8D), (0x1D8F, 0x1D9A), (0x1E9C, 0x1E9D)],
      [(0x1E9F, 0x1E9F), (0x2102, 0x2102), (0x2107, 0x2107), (0x210A, 0x2113), (0x2115, 0x2115)],
      [(0x2119, 0x211D), (0x2124, 0x2124), (0x2128, 0x2128), (0x212C, 0x212D), (0x212F, 0x2131)],
      [(0x2133, 0x2134), (0x2139, 0x2139), (0x213C, 0x213F), (0x2145, 0x2149), (0x2160, 0x217F)],
      [(0x24B6, 0x24E9), (0x2C71, 0x2C71), (0x2C74, 0x2C74), (0x2C77, 0x2C7B), (0x2CE4, 0x2CE4)],
      [(0xA730, 0xA731), (0xA771, 0xA778), (0xA78E, 0xA78E), (0xA795, 0xA795), (0xA7AF, 0xA7AF)],
      [(0xA7D3, 0xA7D3), (0xA7D5, 0xA7D5), (0xA7FA, 0xA7FA), (0xAB30, 0xAB52), (0xAB54, 0xAB5A)],
      [(0xAB60, 0xAB68), (0x1D400, 0x1D454), (0x1D456, 0x1D49C), (0x1D49E, 0x1D49F)],
      [(0x1D4A2, 0x1D4A2), (0x1D4A5, 0x1D4A6), (0x1D4A9, 0x1D4AC), (0x1D4AE, 0x1D4B9)],
      [(0x1D4BB, 0x1D4BB), (0x1D4BD, 0x1D4C3), (0x1D4C5, 0x1D505), (0x1D507, 0x1D50A)],
      [(0x1D50D, 0x1D514), (0x1D516, 0x1D51C), (0x1D51E, 0x1D539), (0x1D53B, 0x1D53E)],
      [(0x1D540, 0x1D544), (0x1D546, 0x1D546), (0x1D54A, 0x1D550), (0x1D552, 0x1D6A5)],
      [(0x1D6A8, 0x1D6C0), (0x1D6C2, 0x1D6DA), (0x1D6DC, 0x1D6FA), (0x1D6FC, 0x1D714)],
      [(0x1D716, 0x1D734), (0x1D736, 0x1D74E), (0x1D750, 0x1D76E), (0x1D770, 0x1D788)],
      [(0x1D78A, 0x1D7A8), (0x1D7AA, 0x1D7C2), (0x1D7C4, 0x1D7CB), (0x1DF00, 0x1DF09)],
      [(0x1DF0B, 0x1DF1E), (0x1DF25, 0x1DF2A)]].flatten⟩

/-- Code points with the property Dash. -/
def dash : Ranges :=
  Ranges.symmDiff dashPunctuation
    ⟨[(0x2053, 0x2053), (0x207B, 0x207B), (0x208B, 0x208B), (0x2212, 0x2212)]⟩

end Property

end RegistrySearch.Unicode
