import RegistrySearch.Unicode.Ranges

/-!
# Properties of signs

Properties of punctuation, marks and control codes.
-/

namespace RegistrySearch.Unicode

namespace Property

/-- Code points with the property Bidi_Control. -/
def bidiControl : Ranges :=
  ⟨[(0x061C, 0x061C), (0x200E, 0x200F), (0x202A, 0x202E), (0x2066, 0x2069)]⟩

/-- Code points with the property Bidi_Mirrored. -/
def bidiMirrored : Ranges :=
  ⟨[[(0x0028, 0x0029), (0x003C, 0x003C), (0x003E, 0x003E), (0x005B, 0x005B), (0x005D, 0x005D)],
    [(0x007B, 0x007B), (0x007D, 0x007D), (0x00AB, 0x00AB), (0x00BB, 0x00BB), (0x0F3A, 0x0F3D)],
    [(0x169B, 0x169C), (0x2039, 0x203A), (0x2045, 0x2046), (0x207D, 0x207E), (0x208D, 0x208E)],
    [(0x2140, 0x2140), (0x2201, 0x2204), (0x2208, 0x220D), (0x2211, 0x2211), (0x2215, 0x2216)],
    [(0x221A, 0x221D), (0x221F, 0x2222), (0x2224, 0x2224), (0x2226, 0x2226), (0x222B, 0x2233)],
    [(0x2239, 0x2239), (0x223B, 0x224C), (0x2252, 0x2255), (0x225F, 0x2260), (0x2262, 0x2262)],
    [(0x2264, 0x226B), (0x226D, 0x228C), (0x228F, 0x2292), (0x2298, 0x2298), (0x22A2, 0x22A3)],
    [(0x22A6, 0x22B8), (0x22BE, 0x22BF), (0x22C9, 0x22CD), (0x22D0, 0x22D1), (0x22D6, 0x22ED)],
    [(0x22F0, 0x22FF), (0x2308, 0x230B), (0x2320, 0x2321), (0x2329, 0x232A), (0x2768, 0x2775)],
    [(0x27C0, 0x27C0), (0x27C3, 0x27C6), (0x27C8, 0x27C9), (0x27CB, 0x27CD), (0x27D3, 0x27D6)],
    [(0x27DC, 0x27DE), (0x27E2, 0x27EF), (0x2983, 0x2998), (0x299B, 0x29A0), (0x29A2, 0x29AF)],
    [(0x29B8, 0x29B8), (0x29C0, 0x29C5), (0x29C9, 0x29C9), (0x29CE, 0x29D2), (0x29D4, 0x29D5)],
    [(0x29D8, 0x29DC), (0x29E1, 0x29E1), (0x29E3, 0x29E5), (0x29E8, 0x29E9), (0x29F4, 0x29F9)],
    [(0x29FC, 0x29FD), (0x2A0A, 0x2A1C), (0x2A1E, 0x2A21), (0x2A24, 0x2A24), (0x2A26, 0x2A26)],
    [(0x2A29, 0x2A29), (0x2A2B, 0x2A2E), (0x2A34, 0x2A35), (0x2A3C, 0x2A3E), (0x2A57, 0x2A58)],
    [(0x2A64, 0x2A65), (0x2A6A, 0x2A6D), (0x2A6F, 0x2A70), (0x2A73, 0x2A74), (0x2A79, 0x2AA3)],
    [(0x2AA6, 0x2AAD), (0x2AAF, 0x2AD6), (0x2ADC, 0x2ADC), (0x2ADE, 0x2ADE), (0x2AE2, 0x2AE6)],
    [(0x2AEC, 0x2AEE), (0x2AF3, 0x2AF3), (0x2AF7, 0x2AFB), (0x2AFD, 0x2AFD), (0x2BFE, 0x2BFE)],
    [(0x2E02, 0x2E05), (0x2E09, 0x2E0A), (0x2E0C, 0x2E0D), (0x2E1C, 0x2E1D), (0x2E20, 0x2E29)],
    [(0x2E55, 0x2E5C), (0x3008, 0x3011), (0x3014, 0x301B), (0xFE59, 0xFE5E), (0xFE64, 0xFE65)],
    [(0xFF08, 0xFF09), (0xFF1C, 0xFF1C), (0xFF1E, 0xFF1E), (0xFF3B, 0xFF3B), (0xFF3D, 0xFF3D)],
    [(0xFF5B, 0xFF5B), (0xFF5D, 0xFF5D), (0xFF5F, 0xFF60), (0xFF62, 0xFF63), (0x1D6DB, 0x1D6DB)],
    [(0x1D715, 0x1D715), (0x1D74F, 0x1D74F), (0x1D789, 0x1D789), (0x1D7C3, 0x1D7C3)]].flatten⟩

/-- Code points with the property Diacritic. -/
def diacritic : Ranges :=
  ⟨[[(0x005E, 0x005E), (0x0060, 0x0060), (0x00A8, 0x00A8), (0x00AF, 0x00AF), (0x00B4, 0x00B4)],
    [(0x00B7, 0x00B8), (0x02B0, 0x034E), (0x0350, 0x0357), (0x035D, 0x0362), (0x0374, 0x0375)],
    [(0x037A, 0x037A), (0x0384, 0x0385), (0x0483, 0x0487), (0x0559, 0x0559), (0x0591, 0x05BD)],
    [(0x05BF, 0x05BF), (0x05C1, 0x05C2), (0x05C4, 0x05C5), (0x05C7, 0x05C7), (0x064B, 0x0652)],
    [(0x0657, 0x0658), (0x06DF, 0x06E0), (0x06E5, 0x06E6), (0x06EA, 0x06EC), (0x0730, 0x074A)],
    [(0x07A6, 0x07B0), (0x07EB, 0x07F5), (0x0818, 0x0819), (0x0898, 0x089F), (0x08C9, 0x08D2)],
    [(0x08E3, 0x08FE), (0x093C, 0x093C), (0x094D, 0x094D), (0x0951, 0x0954), (0x0971, 0x0971)],
    [(0x09BC, 0x09BC), (0x09CD, 0x09CD), (0x0A3C, 0x0A3C), (0x0A4D, 0x0A4D), (0x0ABC, 0x0ABC)],
    [(0x0ACD, 0x0ACD), (0x0AFD, 0x0AFF), (0x0B3C, 0x0B3C), (0x0B4D, 0x0B4D), (0x0B55, 0x0B55)],
    [(0x0BCD, 0x0BCD), (0x0C3C, 0x0C3C), (0x0C4D, 0x0C4D), (0x0CBC, 0x0CBC), (0x0CCD, 0x0CCD)],
    [(0x0D3B, 0x0D3C), (0x0D4D, 0x0D4D), (0x0DCA, 0x0DCA), (0x0E3A, 0x0E3A), (0x0E47, 0x0E4C)],
    [(0x0E4E, 0x0E4E), (0x0EBA, 0x0EBA), (0x0EC8, 0x0ECC), (0x0F18, 0x0F19), (0x0F35, 0x0F35)],
    [(0x0F37, 0x0F37), (0x0F39, 0x0F39), (0x0F3E, 0x0F3F), (0x0F82, 0x0F84), (0x0F86, 0x0F87)],
    [(0x0FC6, 0x0FC6), (0x1037, 0x1037), (0x1039, 0x103A), (0x1063, 0x1064), (0x1069, 0x106D)],
    [(0x1087, 0x108D), (0x108F, 0x108F), (0x109A, 0x109B), (0x135D, 0x135F), (0x1714, 0x1715)],
    [(0x1734, 0x1734), (0x17C9, 0x17D3), (0x17DD, 0x17DD), (0x1939, 0x193B), (0x1A60, 0x1A60)],
    [(0x1A75, 0x1A7C), (0x1A7F, 0x1A7F), (0x1AB0, 0x1ABE), (0x1AC1, 0x1ACB), (0x1B34, 0x1B34)],
    [(0x1B44, 0x1B44), (0x1B6B, 0x1B73), (0x1BAA, 0x1BAB), (0x1BE6, 0x1BE6), (0x1BF2, 0x1BF3)],
    [(0x1C36, 0x1C37), (0x1C78, 0x1C7D), (0x1CD0, 0x1CE8), (0x1CED, 0x1CED), (0x1CF4, 0x1CF4)],
    [(0x1CF7, 0x1CF9), (0x1D2C, 0x1D6A), (0x1D9B, 0x1DBE), (0x1DC4, 0x1DCF), (0x1DF5, 0x1DFF)],
    [(0x1FBD, 0x1FBD), (0x1FBF, 0x1FC1), (0x1FCD, 0x1FCF), (0x1FDD, 0x1FDF), (0x1FED, 0x1FEF)],
    [(0x1FFD, 0x1FFE), (0x2CEF, 0x2CF1), (0x2E2F, 0x2E2F), (0x302A, 0x302F), (0x3099, 0x309C)],
    [(0x30FC, 0x30FC), (0xA66F, 0xA66F), (0xA67C, 0xA67D), (0xA67F, 0xA67F), (0xA69C, 0xA69D)],
    [(0xA6F0, 0xA6F1), (0xA700, 0xA721), (0xA788, 0xA78A), (0xA7F8, 0xA7F9), (0xA806, 0xA806)],
    [(0xA82C, 0xA82C), (0xA8C4, 0xA8C4), (0xA8E0, 0xA8F1), (0xA92B, 0xA92E), (0xA953, 0xA953)],
    [(0xA9B3, 0xA9B3), (0xA9C0, 0xA9C0), (0xA9E5, 0xA9E5), (0xAA7B, 0xAA7D), (0xAABF, 0xAAC2)],
    [(0xAAF6, 0xAAF6), (0xAB5B, 0xAB5F), (0xAB69, 0xAB6B), (0xABEC, 0xABED), (0xFB1E, 0xFB1E)],
    [(0xFE20, 0xFE2F), (0xFF3E, 0xFF3E), (0xFF40, 0xFF40), (0xFF70, 0xFF70), (0xFF9E, 0xFF9F)],
    [(0xFFE3, 0xFFE3), (0x102E0, 0x102E0), (0x10780, 0x10785), (0x10787, 0x107B0)],
    [(0x107B2, 0x107BA), (0x10A38, 0x10A3A), (0x10A3F, 0x10A3F), (0x10AE5, 0x10AE6)],
    [(0x10D22, 0x10D27), (0x10D4E, 0x10D4E), (0x10D69, 0x10D6D), (0x10EFD, 0x10EFF)],
    [(0x10F46, 0x10F50), (0x10F82, 0x10F85), (0x11046, 0x11046), (0x11070, 0x11070)],
    [(0x110B9, 0x110BA), (0x11133, 0x11134), (0x11173, 0x11173), (0x111C0, 0x111C0)],
    [(0x111CA, 0x111CC), (0x11235, 0x11236), (0x112E9, 0x112EA), (0x1133B, 0x1133C)],
    [(0x1134D, 0x1134D), (0x11366, 0x1136C), (0x11370, 0x11374), (0x113CE, 0x113D0)],
    [(0x113D2, 0x113D3), (0x113E1, 0x113E2), (0x11442, 0x11442), (0x11446, 0x11446)],
    [(0x114C2, 0x114C3), (0x115BF, 0x115C0), (0x1163F, 0x1163F), (0x116B6, 0x116B7)],
    [(0x1172B, 0x1172B), (0x11839, 0x1183A), (0x1193D, 0x1193E), (0x11943, 0x11943)],
    [(0x119E0, 0x119E0), (0x11A34, 0x11A34), (0x11A47, 0x11A47), (0x11A99, 0x11A99)],
    [(0x11C3F, 0x11C3F), (0x11D42, 0x11D42), (0x11D44, 0x11D45), (0x11D97, 0x11D97)],
    [(0x11F41, 0x11F42), (0x11F5A, 0x11F5A), (0x13447, 0x13455), (0x1612F, 0x1612F)],
    [(0x16AF0, 0x16AF4), (0x16B30, 0x16B36), (0x16D6B, 0x16D6C), (0x16F8F, 0x16F9F)],
    [(0x16FF0, 0x16FF1), (0x1AFF0, 0x1AFF3), (0x1AFF5, 0x1AFFB), (0x1AFFD, 0x1AFFE)],
    [(0x1CF00, 0x1CF2D), (0x1CF30, 0x1CF46), (0x1D167, 0x1D169), (0x1D16D, 0x1D172)],
    [(0x1D17B, 0x1D182), (0x1D185, 0x1D18B), (0x1D1AA, 0x1D1AD), (0x1E030, 0x1E06D)],
    [(0x1E130, 0x1E136), (0x1E2AE, 0x1E2AE), (0x1E2EC, 0x1E2EF), (0x1E5EE, 0x1E5EF)],
    [(0x1E8D0, 0x1E8D6), (0x1E944, 0x1E946), (0x1E948, 0x1E94A)]].flatten⟩

/-- Code points with the property Extender. -/
def extender : Ranges :=
  ⟨[(0x00B7, 0x00B7), (0x02D0, 0x02D1), (0x0640, 0x0640), (0x07FA, 0x07FA), (0x0A71, 0x0A71),
    (0x0AFB, 0x0AFB), (0x0B55, 0x0B55), (0x0E46, 0x0E46), (0x0EC6, 0x0EC6), (0x180A, 0x180A),
    (0x1843, 0x1843), (0x1AA7, 0x1AA7), (0x1C36, 0x1C36), (0x1C7B, 0x1C7B), (0x3005, 0x3005),
    (0x3031, 0x3035), (0x309D, 0x309E), (0x30FC, 0x30FE), (0xA015, 0xA015), (0xA60C, 0xA60C),
    (0xA9CF, 0xA9CF), (0xA9E6, 0xA9E6), (0xAA70, 0xAA70), (0xAADD, 0xAADD), (0xAAF3, 0xAAF4),
    (0xFF70, 0xFF70), (0x10781, 0x10782), (0x10D4E, 0x10D4E), (0x10D6A, 0x10D6A),
    (0x10D6F, 0x10D6F), (0x11237, 0x11237), (0x1135D, 0x1135D), (0x113D2, 0x113D3),
    (0x115C6, 0x115C8), (0x11A98, 0x11A98), (0x16B42, 0x16B43), (0x16FE0, 0x16FE1),
    (0x16FE3, 0x16FE3), (0x1E13C, 0x1E13D), (0x1E5EF, 0x1E5EF), (0x1E944, 0x1E946)]⟩

/-- Code points with the property Hyphen. -/
def hyphen : Ranges :=
  ⟨[(0x002D, 0x002D), (0x00AD, 0x00AD), (0x058A, 0x058A), (0x1806, 0x1806), (0x2010, 0x2011),
    (0x2E17, 0x2E17), (0x30FB, 0x30FB), (0xFE63, 0xFE63), (0xFF0D, 0xFF0D), (0xFF65, 0xFF65)]⟩

/-- Code points with the property Join_Control. -/
def joinControl : Ranges :=
  ⟨[(0x200C, 0x200D)]⟩

/-- Code points with the property Pattern_Syntax. -/
def patternSyntax : Ranges :=
  ⟨[(0x0021, 0x002F), (0x003A, 0x0040), (0x005B, 0x005E), (0x0060, 0x0060), (0x007B, 0x007E),
    (0x00A1, 0x00A7), (0x00A9, 0x00A9), (0x00AB, 0x00AC), (0x00AE, 0x00AE), (0x00B0, 0x00B1),
    (0x00B6, 0x00B6), (0x00BB, 0x00BB), (0x00BF, 0x00BF), (0x00D7, 0x00D7), (0x00F7, 0x00F7),
    (0x2010, 0x2027), (0x2030, 0x203E), (0x2041, 0x2053), (0x2055, 0x205E), (0x2190, 0x245F),
    (0x2500, 0x2775), (0x2794, 0x2BFF), (0x2E00, 0x2E7F), (0x3001, 0x3003), (0x3008, 0x3020),
    (0x3030, 0x3030), (0xFD3E, 0xFD3F), (0xFE45, 0xFE46)]⟩

/-- Code points with the property Pattern_White_Space. -/
def patternWhiteSpace : Ranges :=
  ⟨[(0x0009, 0x000D), (0x0020, 0x0020), (0x0085, 0x0085), (0x200E, 0x200F), (0x2028, 0x2029)]⟩

/-- Code points with the property Prepended_Concatenation_Mark. -/
def prependedConcatenationMark : Ranges :=
  ⟨[(0x0600, 0x0605), (0x06DD, 0x06DD), (0x070F, 0x070F), (0x0890, 0x0891), (0x08E2, 0x08E2),
    (0x110BD, 0x110BD), (0x110CD, 0x110CD)]⟩

/-- Code points with the property Quotation_Mark. -/
def quotationMark : Ranges :=
  ⟨[(0x0022, 0x0022), (0x0027, 0x0027), (0x00AB, 0x00AB), (0x00BB, 0x00BB), (0x2018, 0x201F),
    (0x2039, 0x203A), (0x2E42, 0x2E42), (0x300C, 0x300F), (0x301D, 0x301F), (0xFE41, 0xFE44),
    (0xFF02, 0xFF02), (0xFF07, 0xFF07), (0xFF62, 0xFF63)]⟩

/-- Code points with the property Sentence_Terminal. -/
def sentenceTerminal : Ranges :=
  ⟨[[(0x0021, 0x0021), (0x002E, 0x002E), (0x003F, 0x003F), (0x0589, 0x0589), (0x061D, 0x061F)],
    [(0x06D4, 0x06D4), (0x0700, 0x0702), (0x07F9, 0x07F9), (0x0837, 0x0837), (0x0839, 0x0839)],
    [(0x083D, 0x083E), (0x0964, 0x0965), (0x104A, 0x104B), (0x1362, 0x1362), (0x1367, 0x1368)],
    [(0x166E, 0x166E), (0x1735, 0x1736), (0x17D4, 0x17D5), (0x1803, 0x1803), (0x1809, 0x1809)],
    [(0x1944, 0x1945), (0x1AA8, 0x1AAB), (0x1B4E, 0x1B4F), (0x1B5A, 0x1B5B), (0x1B5E, 0x1B5F)],
    [(0x1B7D, 0x1B7F), (0x1C3B, 0x1C3C), (0x1C7E, 0x1C7F), (0x2024, 0x2024), (0x203C, 0x203D)],
    [(0x2047, 0x2049), (0x2CF9, 0x2CFB), (0x2E2E, 0x2E2E), (0x2E3C, 0x2E3C), (0x2E53, 0x2E54)],
    [(0x3002, 0x3002), (0xA4FF, 0xA4FF), (0xA60E, 0xA60F), (0xA6F3, 0xA6F3), (0xA6F7, 0xA6F7)],
    [(0xA876, 0xA877), (0xA8CE, 0xA8CF), (0xA92F, 0xA92F), (0xA9C8, 0xA9C9), (0xAA5D, 0xAA5F)],
    [(0xAAF0, 0xAAF1), (0xABEB, 0xABEB), (0xFE12, 0xFE12), (0xFE15, 0xFE16), (0xFE52, 0xFE52)],
    [(0xFE56, 0xFE57), (0xFF01, 0xFF01), (0xFF0E, 0xFF0E), (0xFF1F, 0xFF1F), (0xFF61, 0xFF61)],
    [(0x10A56, 0x10A57), (0x10F55, 0x10F59), (0x10F86, 0x10F89), (0x11047, 0x11048)],
    [(0x110BE, 0x110C1), (0x11141, 0x11143), (0x111C5, 0x111C6), (0x111CD, 0x111CD)],
    [(0x111DE, 0x111DF), (0x11238, 0x11239), (0x1123B, 0x1123C), (0x112A9, 0x112A9)],
    [(0x113D4, 0x113D5), (0x1144B, 0x1144C), (0x115C2, 0x115C3), (0x115C9, 0x115D7)],
    [(0x11641, 0x11642), (0x1173C, 0x1173E), (0x11944, 0x11944), (0x11946, 0x11946)],
    [(0x11A42, 0x11A43), (0x11A9B, 0x11A9C), (0x11C41, 0x11C42), (0x11EF7, 0x11EF8)],
    [(0x11F43, 0x11F44), (0x16A6E, 0x16A6F), (0x16AF5, 0x16AF5), (0x16B37, 0x16B38)],
    [(0x16B44, 0x16B44), (0x16D6E, 0x16D6F), (0x16E98, 0x16E98), (0x1BC9F, 0x1BC9F)],
    [(0x1DA88, 0x1DA88)]].flatten⟩

/-- Code points with the property Soft_Dotted. -/
def softDotted : Ranges :=
  ⟨[(0x0069, 0x006A), (0x012F, 0x012F), (0x0249, 0x0249), (0x0268, 0x0268), (0x029D, 0x029D),
    (0x02B2, 0x02B2), (0x03F3, 0x03F3), (0x0456, 0x0456), (0x0458, 0x0458), (0x1D62, 0x1D62),
    (0x1D96, 0x1D96), (0x1DA4, 0x1DA4), (0x1DA8, 0x1DA8), (0x1E2D, 0x1E2D), (0x1ECB, 0x1ECB),
    (0x2071, 0x2071), (0x2148, 0x2149), (0x2C7C, 0x2C7C), (0x1D422, 0x1D423), (0x1D456, 0x1D457),
    (0x1D48A, 0x1D48B), (0x1D4BE, 0x1D4BF), (0x1D4F2, 0x1D4F3), (0x1D526, 0x1D527),
    (0x1D55A, 0x1D55B), (0x1D58E, 0x1D58F), (0x1D5C2, 0x1D5C3), (0x1D5F6, 0x1D5F7),
    (0x1D62A, 0x1D62B), (0x1D65E, 0x1D65F), (0x1D692, 0x1D693), (0x1DF1A, 0x1DF1A),
    (0x1E04C, 0x1E04D), (0x1E068, 0x1E068)]⟩

/-- Code points with the property Terminal_Punctuation. -/
def terminalPunctuation : Ranges :=
  ⟨[[(0x0021, 0x0021), (0x002C, 0x002C), (0x002E, 0x002E), (0x003A, 0x003B), (0x003F, 0x003F)],
    [(0x037E, 0x037E), (0x0387, 0x0387), (0x0589, 0x0589), (0x05C3, 0x05C3), (0x060C, 0x060C)],
    [(0x061B, 0x061B), (0x061D, 0x061F), (0x06D4, 0x06D4), (0x0700, 0x070A), (0x070C, 0x070C)],
    [(0x07F8, 0x07F9), (0x0830, 0x0835), (0x0837, 0x083E), (0x085E, 0x085E), (0x0964, 0x0965)],
    [(0x0E5A, 0x0E5B), (0x0F08, 0x0F08), (0x0F0D, 0x0F12), (0x104A, 0x104B), (0x1361, 0x1368)],
    [(0x166E, 0x166E), (0x16EB, 0x16ED), (0x1735, 0x1736), (0x17D4, 0x17D6), (0x17DA, 0x17DA)],
    [(0x1802, 0x1805), (0x1808, 0x1809), (0x1944, 0x1945), (0x1AA8, 0x1AAB), (0x1B4E, 0x1B4F)],
    [(0x1B5A, 0x1B5B), (0x1B5D, 0x1B5F), (0x1B7D, 0x1B7F), (0x1C3B, 0x1C3F), (0x1C7E, 0x1C7F)],
    [(0x2024, 0x2024), (0x203C, 0x203D), (0x2047, 0x2049), (0x2CF9, 0x2CFB), (0x2E2E, 0x2E2E)],
    [(0x2E3C, 0x2E3C), (0x2E41, 0x2E41), (0x2E4C, 0x2E4C), (0x2E4E, 0x2E4F), (0x2E53, 0x2E54)],
    [(0x3001, 0x3002), (0xA4FE, 0xA4FF), (0xA60D, 0xA60F), (0xA6F3, 0xA6F7), (0xA876, 0xA877)],
    [(0xA8CE, 0xA8CF), (0xA92F, 0xA92F), (0xA9C7, 0xA9C9), (0xAA5D, 0xAA5F), (0xAADF, 0xAADF)],
    [(0xAAF0, 0xAAF1), (0xABEB, 0xABEB), (0xFE12, 0xFE12), (0xFE15, 0xFE16), (0xFE50, 0xFE52)],
    [(0xFE54, 0xFE57), (0xFF01, 0xFF01), (0xFF0C, 0xFF0C), (0xFF0E, 0xFF0E), (0xFF1A, 0xFF1B)],
    [(0xFF1F, 0xFF1F), (0xFF61, 0xFF61), (0xFF64, 0xFF64), (0x1039F, 0x1039F)],
    [(0x103D0, 0x103D0), (0x10857, 0x10857), (0x1091F, 0x1091F), (0x10A56, 0x10A57)],
    [(0x10AF0, 0x10AF5), (0x10B3A, 0x10B3F), (0x10B99, 0x10B9C), (0x10F55, 0x10F59)],
    [(0x10F86, 0x10F89), (0x11047, 0x1104D), (0x110BE, 0x110C1), (0x11141, 0x11143)],
    [(0x111C5, 0x111C6), (0x111CD, 0x111CD), (0x111DE, 0x111DF), (0x11238, 0x1123C)],
    [(0x112A9, 0x112A9), (0x113D4, 0x113D5), (0x1144B, 0x1144D), (0x1145A, 0x1145B)],
    [(0x115C2, 0x115C5), (0x115C9, 0x115D7), (0x11641, 0x11642), (0x1173C, 0x1173E)],
    [(0x11944, 0x11944), (0x11946, 0x11946), (0x11A42, 0x11A43), (0x11A9B, 0x11A9C)],
    [(0x11AA1, 0x11AA2), (0x11C41, 0x11C43), (0x11C71, 0x11C71), (0x11EF7, 0x11EF8)],
    [(0x11F43, 0x11F44), (0x12470, 0x12474), (0x16A6E, 0x16A6F), (0x16AF5, 0x16AF5)],
    [(0x16B37, 0x16B39), (0x16B44, 0x16B44), (0x16D6E, 0x16D6F), (0x16E97, 0x16E98)],
    [(0x1BC9F, 0x1BC9F), (0x1DA87, 0x1DA8A)]].flatten⟩

end Property

end RegistrySearch.Unicode
