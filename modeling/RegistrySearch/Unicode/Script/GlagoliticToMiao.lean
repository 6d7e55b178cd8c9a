import RegistrySearch.Unicode.Script.Basic

/-!
# Scripts from Glagolitic to Miao

The code points of these scripts.
-/

namespace RegistrySearch.Unicode

/-- The scripts from Glagolitic to Miao. -/
def scriptsGlagoliticToMiao : List Script :=
  [[⟨["Glagolitic", "Glag"],
      [(0x2C00, 0x2C5F), (0x1E000, 0x1E006), (0x1E008, 0x1E018), (0x1E01B, 0x1E021),
       (0x1E023, 0x1E024), (0x1E026, 0x1E02A)],
      [(0x00B7, 0x00B7), (0x0303, 0x0303), (0x0305, 0x0305), (0x0484, 0x0484), (0x0487, 0x0487),
       (0x0589, 0x0589), (0x10FB, 0x10FB), (0x205A, 0x205A), (0x2E43, 0x2E43), (0xA66F, 0xA66F)]⟩,
    ⟨["Gothic", "Goth"],
      [(0x10330, 0x1034A)],
      [(0x00B7, 0x00B7), (0x0304, 0x0305), (0x0308, 0x0308), (0x0331, 0x0331)]⟩,
    ⟨["Grantha", "Gran"],
      [(0x11300, 0x11303), (0x11305, 0x1130C), (0x1130F, 0x11310), (0x11313, 0x11328),
       (0x1132A, 0x11330), (0x11332, 0x11333), (0x11335, 0x11339), (0x1133C, 0x11344),
       (0x11347, 0x11348), (0x1134B, 0x1134D), (0x11350, 0x11350), (0x11357, 0x11357),
       (0x1135D, 0x11363), (0x11366, 0x1136C), (0x11370, 0x11374)],
      [(0x0951, 0x0952), (0x0964, 0x0965), (0x0BE6, 0x0BF3), (0x1CD0, 0x1CD0), (0x1CD2, 0x1CD3),
       (0x1CF2, 0x1CF4), (0x1CF8, 0x1CF9), (0x20F0, 0x20F0), (0x1133B, 0x1133B),
       (0x11FD0, 0x11FD1), (0x11FD3, 0x11FD3)]⟩,
    ⟨["Greek", "Grek"],
      [(0x0370, 0x0373), (0x0375, 0x0377), (0x037A, 0x037D), (0x037F, 0x037F), (0x0384, 0x0384),
       (0x0386, 0x0386), (0x0388, 0x038A), (0x038C, 0x038C), (0x038E, 0x03A1), (0x03A3, 0x03E1),
       (0x03F0, 0x03FF), (0x1D26, 0x1D2A), (0x1D5D, 0x1D61), (0x1D66, 0x1D6A), (0x1DBF, 0x1DBF),
       (0x1F00, 0x1F15), (0x1F18, 0x1F1D), (0x1F20, 0x1F45), (0x1F48, 0x1F4D), (0x1F50, 0x1F57),
       (0x1F59, 0x1F59), (0x1F5B, 0x1F5B), (0x1F5D, 0x1F5D), (0x1F5F, 0x1F7D), (0x1F80, 0x1FB4),
       (0x1FB6, 0x1FC4), (0x1FC6, 0x1FD3), (0x1FD6, 0x1FDB), (0x1FDD, 0x1FEF), (0x1FF2, 0x1FF4),
       (0x1FF6, 0x1FFE), (0x2126, 0x2126), (0xAB65, 0xAB65), (0x10140, 0x1018E),
       (0x101A0, 0x101A0), (0x1D200, 0x1D245)],
      [(0x00B7, 0x00B7), (0x0300, 0x0301), (0x0304, 0x0304), (0x0306, 0x0306), (0x0308, 0x0308),
       (0x0313, 0x0313), (0x0342, 0x0342), (0x0345, 0x0345), (0x0374, 0x0374), (0x1DC0, 0x1DC1),
       (0x205D, 0x205D)]⟩,
    ⟨["Gujarati", "Gujr"],
      [(0x0A81, 0x0A83), (0x0A85, 0x0A8D), (0x0A8F, 0x0A91), (0x0A93, 0x0AA8), (0x0AAA, 0x0AB0),
       (0x0AB2, 0x0AB3), (0x0AB5, 0x0AB9), (0x0ABC, 0x0AC5), (0x0AC7, 0x0AC9), (0x0ACB, 0x0ACD),
       (0x0AD0, 0x0AD0), (0x0AE0, 0x0AE3), (0x0AE6, 0x0AF1), (0x0AF9, 0x0AFF)],
      [(0x0951, 0x0952), (0x0964, 0x0965), (0xA830, 0xA839)]⟩,
    ⟨["Gunjala_Gondi", "Gong"],
      [(0x11D60, 0x11D65), (0x11D67, 0x11D68), (0x11D6A, 0x11D8E), (0x11D90, 0x11D91),
       (0x11D93, 0x11D98), (0x11DA0, 0x11DA9)],
      [(0x00B7, 0x00B7), (0x0964, 0x0965)]⟩,
    ⟨["Gurmukhi", "Guru"],
      [(0x0A01, 0x0A03), (0x0A05, 0x0A0A), (0x0A0F, 0x0A10), (0x0A13, 0x0A28), (0x0A2A, 0x0A30),
       (0x0A32, 0x0A33), (0x0A35, 0x0A36), (0x0A38, 0x0A39), (0x0A3C, 0x0A3C), (0x0A3E, 0x0A42),
       (0x0A47, 0x0A48), (0x0A4B, 0x0A4D), (0x0A51, 0x0A51), (0x0A59, 0x0A5C), (0x0A5E, 0x0A5E),
       (0x0A66, 0x0A76)],
      [(0x0951, 0x0952), (0x0964, 0x0965), (0xA830, 0xA839)]⟩,
    ⟨["Gurung_Khema", "Gukh"],
      [(0x16100, 0x16139)],
      [(0x0965, 0x0965)]⟩],
   [⟨["Han", "Hani"],
      [(0x2E80, 0x2E99), (0x2E9B, 0x2EF3), (0x2F00, 0x2FD5), (0x3005, 0x3005), (0x3007, 0x3007),
       (0x3021, 0x3029), (0x3038, 0x303B), (0x3400, 0x4DBF), (0x4E00, 0x9FFF), (0xF900, 0xFA6D),
       (0xFA70, 0xFAD9), (0x16FE2, 0x16FE3), (0x16FF0, 0x16FF1), (0x20000, 0x2A6DF),
       (0x2A700, 0x2B739), (0x2B740, 0x2B81D), (0x2B820, 0x2CEA1), (0x2CEB0, 0x2EBE0),
       (0x2EBF0, 0x2EE5D), (0x2F800, 0x2FA1D), (0x30000, 0x3134A), (0x31350, 0x323AF)],
      [(0x00B7, 0x00B7), (0x2FF0, 0x2FFF), (0x3001, 0x3003), (0x3006, 0x3006), (0x3008, 0x3011),
       (0x3013, 0x301F), (0x302A, 0x302D), (0x3030, 0x3030), (0x3037, 0x3037), (0x303C, 0x303F),
       (0x30FB, 0x30FB), (0x3190, 0x319F), (0x31C0, 0x31E5), (0x31EF, 0x31EF), (0x3220, 0x3247),
       (0x3280, 0x32B0), (0x32C0, 0x32CB), (0x32FF, 0x32FF), (0x3358, 0x3370), (0x337B, 0x337F),
       (0x33E0, 0x33FE), (0xA700, 0xA707), (0xFE45, 0xFE46), (0xFF61, 0xFF65), (0x1D360, 0x1D371),
       (0x1F250, 0x1F251)]⟩,
    ⟨["Hangul", "Hang"],
      [(0x1100, 0x11FF), (0x302E, 0x302F), (0x3131, 0x318E), (0x3200, 0x321E), (0x3260, 0x327E),
       (0xA960, 0xA97C), (0xAC00, 0xD7A3), (0xD7B0, 0xD7C6), (0xD7CB, 0xD7FB), (0xFFA0, 0xFFBE),
       (0xFFC2, 0xFFC7), (0xFFCA, 0xFFCF), (0xFFD2, 0xFFD7), (0xFFDA, 0xFFDC)],
      [(0x3001, 0x3003), (0x3008, 0x3011), (0x3013, 0x301F), (0x3030, 0x3030), (0x3037, 0x3037),
       (0x30FB, 0x30FB), (0xFE45, 0xFE46), (0xFF61, 0xFF65)]⟩,
    ⟨["Hanifi_Rohingya", "Rohg"],
      [(0x10D00, 0x10D27), (0x10D30, 0x10D39)],
      [(0x060C, 0x060C), (0x061B, 0x061B), (0x061F, 0x061F), (0x0640, 0x0640), (0x06D4, 0x06D4)]⟩,
    ⟨["Hanunoo", "Hano"],
      [(0x1720, 0x1734)],
      [(0x1735, 0x1736)]⟩,
    ⟨["Hatran", "Hatr"],
      [(0x108E0, 0x108F2), (0x108F4, 0x108F5), (0x108FB, 0x108FF)],
      []⟩,
    ⟨["Hebrew", "Hebr"],
      [(0x0591, 0x05C7), (0x05D0, 0x05EA), (0x05EF, 0x05F4), (0xFB1D, 0xFB36), (0xFB38, 0xFB3C),
       (0xFB3E, 0xFB3E), (0xFB40, 0xFB41), (0xFB43, 0xFB44), (0xFB46, 0xFB4F)],
      [(0x0307, 0x0308)]⟩,
    ⟨["Hiragana", "Hira"],
      [(0x3041, 0x3096), (0x309D, 0x309F), (0x1B001, 0x1B11F), (0x1B132, 0x1B132),
       (0x1B150, 0x1B152), (0x1F200, 0x1F200)],
      [(0x3001, 0x3003), (0x3008, 0x3011), (0x3013, 0x301F), (0x3030, 0x3035), (0x3037, 0x3037),
       (0x303C, 0x303D), (0x3099, 0x309C), (0x30A0, 0x30A0), (0x30FB, 0x30FC), (0xFE45, 0xFE46),
       (0xFF61, 0xFF65), (0xFF70, 0xFF70), (0xFF9E, 0xFF9F)]⟩,
    ⟨["Imperial_Aramaic", "Armi"],
      [(0x10840, 0x10855), (0x10857, 0x1085F)],
      []⟩],
   [⟨["Inherited", "Zinh", "Qaai"],
      [(0x0300, 0x036F), (0x0485, 0x0486), (0x064B, 0x0655), (0x0670, 0x0670), (0x0951, 0x0954),
       (0x1AB0, 0x1ACE), (0x1CD0, 0x1CD2), (0x1CD4, 0x1CE0), (0x1CE2, 0x1CE8), (0x1CED, 0x1CED),
       (0x1CF4, 0x1CF4), (0x1CF8, 0x1CF9), (0x1DC0, 0x1DFF), (0x200C, 0x200D), (0x20D0, 0x20F0),
       (0x302A, 0x302D), (0x3099, 0x309A), (0xFE00, 0xFE0F), (0xFE20, 0xFE2D), (0x101FD, 0x101FD),
       (0x102E0, 0x102E0), (0x1133B, 0x1133B), (0x1CF00, 0x1CF2D), (0x1CF30, 0x1CF46),
       (0x1D167, 0x1D169), (0x1D17B, 0x1D182), (0x1D185, 0x1D18B), (0x1D1AA, 0x1D1AD),
       (0xE0100, 0xE01EF)],
      [(0x0300, 0x030E), (0x0310, 0x0311), (0x0313, 0x0313), (0x0323, 0x0325), (0x032D, 0x032E),
       (0x0330, 0x0331), (0x0342, 0x0342), (0x0345, 0x0345), (0x0358, 0x0358), (0x035E, 0x035E),
       (0x0363, 0x036F), (0x0485, 0x0486), (0x064B, 0x0655), (0x0670, 0x0670), (0x0951, 0x0952),
       (0x1CD0, 0x1CD2), (0x1CD4, 0x1CE0), (0x1CE2, 0x1CE8), (0x1CED, 0x1CED), (0x1CF4, 0x1CF4),
       (0x1CF8, 0x1CF9), (0x1DC0, 0x1DC1), (0x1DF8, 0x1DF8), (0x1DFA, 0x1DFA), (0x20F0, 0x20F0),
       (0x302A, 0x302D), (0x3099, 0x309A), (0x102E0, 0x102E0), (0x1133B, 0x1133B)]⟩,
    ⟨["Inscriptional_Pahlavi", "Phli"],
      [(0x10B60, 0x10B72), (0x10B78, 0x10B7F)],
      []⟩,
    ⟨["Inscriptional_Parthian", "Prti"],
      [(0x10B40, 0x10B55), (0x10B58, 0x10B5F)],
      []⟩,
    ⟨["Javanese", "Java"],
      [(0xA980, 0xA9CD), (0xA9D0, 0xA9D9), (0xA9DE, 0xA9DF)],
      [(0xA9CF, 0xA9CF)]⟩,
    ⟨["Kaithi", "Kthi"],
      [(0x11080, 0x110C2), (0x110CD, 0x110CD)],
      [(0x0966, 0x096F), (0x2E31, 0x2E31), (0xA830, 0xA839)]⟩,
    ⟨["Kannada", "Knda"],
      [(0x0C80, 0x0C8C), (0x0C8E, 0x0C90), (0x0C92, 0x0CA8), (0x0CAA, 0x0CB3), (0x0CB5, 0x0CB9),
       (0x0CBC, 0x0CC4), (0x0CC6, 0x0CC8), (0x0CCA, 0x0CCD), (0x0CD5, 0x0CD6), (0x0CDD, 0x0CDE),
       (0x0CE0, 0x0CE3), (0x0CE6, 0x0CEF), (0x0CF1, 0x0CF3)],
      [(0x0951, 0x0952), (0x0964, 0x0965), (0x1CD0, 0x1CD0), (0x1CD2, 0x1CD3), (0x1CDA, 0x1CDA),
       (0x1CF2, 0x1CF2), (0x1CF4, 0x1CF4), (0xA830, 0xA835)]⟩,
    ⟨["Katakana", "Kana"],
      [(0x30A1, 0x30FA), (0x30FD, 0x30FF), (0x31F0, 0x31FF), (0x32D0, 0x32FE), (0x3300, 0x3357),
       (0xFF66, 0xFF6F), (0xFF71, 0xFF9D), (0x1AFF0, 0x1AFF3), (0x1AFF5, 0x1AFFB),
       (0x1AFFD, 0x1AFFE), (0x1B000, 0x1B000), (0x1B120, 0x1B122), (0x1B155, 0x1B155),
       (0x1B164, 0x1B167)],
      [(0x0305, 0x0305), (0x0323, 0x0323), (0x3001, 0x3003), (0x3008, 0x3011), (0x3013, 0x301F),
       (0x3030, 0x3035), (0x3037, 0x3037), (0x303C, 0x303D), (0x3099, 0x309C), (0x30A0, 0x30A0),
       (0x30FB, 0x30FC), (0xFE45, 0xFE46), (0xFF61, 0xFF65), (0xFF70, 0xFF70), (0xFF9E, 0xFF9F)]⟩,
    ⟨["Kawi"],
      [(0x11F00, 0x11F10), (0x11F12, 0x11F3A), (0x11F3E, 0x11F5A)],
      []⟩],
   [⟨["Kayah_Li", "Kali"],
      [(0xA900, 0xA92D), (0xA92F, 0xA92F)],
      [(0xA92E, 0xA92E)]⟩,
    ⟨["Kharoshthi", "Khar"],
      [(0x10A00, 0x10A03), (0x10A05, 0x10A06), (0x10A0C, 0x10A13), (0x10A15, 0x10A17),
       (0x10A19, 0x10A35), (0x10A38, 0x10A3A), (0x10A3F, 0x10A48), (0x10A50, 0x10A58)],
      []⟩,
    ⟨["Khitan_Small_Script", "Kits"],
      [(0x16FE4, 0x16FE4), (0x18B00, 0x18CD5), (0x18CFF, 0x18CFF)],
      []⟩,
    ⟨["Khmer", "Khmr"],
      [(0x1780, 0x17DD), (0x17E0, 0x17E9), (0x17F0, 0x17F9), (0x19E0, 0x19FF)],
      []⟩,
    ⟨["Khojki", "Khoj"],
      [(0x11200, 0x11211), (0x11213, 0x11241)],
      [(0x0AE6, 0x0AEF), (0xA830, 0xA839)]⟩,
    ⟨["Khudawadi", "Sind"],
      [(0x112B0, 0x112EA), (0x112F0, 0x112F9)],
      [(0x0964, 0x0965), (0xA830, 0xA839)]⟩,
    ⟨["Kirat_Rai", "Krai"],
      [(0x16D40, 0x16D79)],
      []⟩,
    ⟨["Lao", "Laoo"],
      [(0x0E81, 0x0E82), (0x0E84, 0x0E84), (0x0E86, 0x0E8A), (0x0E8C, 0x0EA3), (0x0EA5, 0x0EA5),
       (0x0EA7, 0x0EBD), (0x0EC0, 0x0EC4), (0x0EC6, 0x0EC6), (0x0EC8, 0x0ECE), (0x0ED0, 0x0ED9),
       (0x0EDC, 0x0EDF)],
      []⟩],
   [⟨["Latin", "Latn"],
      [(0x0041, 0x005A), (0x0061, 0x007A), (0x00AA, 0x00AA), (0x00BA, 0x00BA), (0x00C0, 0x00D6),
       (0x00D8, 0x00F6), (0x00F8, 0x02B8), (0x02E0, 0x02E4), (0x1D00, 0x1D25), (0x1D2C, 0x1D5C),
       (0x1D62, 0x1D65), (0x1D6B, 0x1D77), (0x1D79, 0x1DBE), (0x1E00, 0x1EFF), (0x2071, 0x2071),
       (0x207F, 0x207F), (0x2090, 0x209C), (0x212A, 0x212B), (0x2132, 0x2132), (0x214E, 0x214E),
       (0x2160, 0x2188), (0x2C60, 0x2C7F), (0xA722, 0xA787), (0xA78B, 0xA7CD), (0xA7D0, 0xA7D1),
       (0xA7D3, 0xA7D3), (0xA7D5, 0xA7DC), (0xA7F2, 0xA7FF), (0xAB30, 0xAB5A), (0xAB5C, 0xAB64),
       (0xAB66, 0xAB69), (0xFB00, 0xFB06), (0xFF21, 0xFF3A), (0xFF41, 0xFF5A), (0x10780, 0x10785),
       (0x10787, 0x107B0), (0x107B2, 0x107BA), (0x1DF00, 0x1DF1E), (0x1DF25, 0x1DF2A)],
      [(0x00B7, 0x00B7), (0x02BC, 0x02BC), (0x02C7, 0x02C7), (0x02C9, 0x02CB), (0x02CD, 0x02CD),
       (0x02D7, 0x02D7), (0x02D9, 0x02D9), (0x0300, 0x030E), (0x0310, 0x0311), (0x0313, 0x0313),
       (0x0323, 0x0325), (0x032D, 0x032E), (0x0330, 0x0331), (0x0358, 0x0358), (0x035E, 0x035E),
       (0x0363, 0x036F), (0x0485, 0x0486), (0x0951, 0x0952), (0x10FB, 0x10FB), (0x1DF8, 0x1DF8),
       (0x202F, 0x202F), (0x20F0, 0x20F0), (0x2E17, 0x2E17), (0xA700, 0xA707), (0xA92E, 0xA92E)]⟩,
    ⟨["Lepcha", "Lepc"],
      [(0x1C00, 0x1C37), (0x1C3B, 0x1C49), (0x1C4D, 0x1C4F)],
      []⟩,
    ⟨["Limbu", "Limb"],
      [(0x1900, 0x191E), (0x1920, 0x192B), (0x1930, 0x193B), (0x1940, 0x1940), (0x1944, 0x194F)],
      [(0x0965, 0x0965)]⟩,
    ⟨["Linear_A", "Lina"],
      [(0x10600, 0x10736), (0x10740, 0x10755), (0x10760, 0x10767)],
      [(0x10107, 0x10133)]⟩,
    ⟨["Linear_B", "Linb"],
      [(0x10000, 0x1000B), (0x1000D, 0x10026), (0x10028, 0x1003A), (0x1003C, 0x1003D),
       (0x1003F, 0x1004D), (0x10050, 0x1005D), (0x10080, 0x100FA)],
      [(0x10100, 0x10102), (0x10107, 0x10133), (0x10137, 0x1013F)]⟩,
    ⟨["Lisu"],
      [(0xA4D0, 0xA4FF), (0x11FB0, 0x11FB0)],
      [(0x02BC, 0x02BC), (0x02CD, 0x02CD), (0x300A, 0x300B)]⟩,
    ⟨["Lycian", "Lyci"],
      [(0x10280, 0x1029C)],
      [(0x205A, 0x205A)]⟩,
    ⟨["Lydian", "Lydi"],
      [(0x10920, 0x10939), (0x1093F, 0x1093F)],
      [(0x00B7, 0x00B7), (0x2E31, 0x2E31)]⟩],
   [⟨["Mahajani", "Mahj"],
      [(0x11150, 0x11176)],
      [(0x00B7, 0x00B7), (0x0964, 0x096F), (0xA830, 0xA839)]⟩,
    ⟨["Makasar", "Maka"],
      [(0x11EE0, 0x11EF8)],
      []⟩,
    ⟨["Malayalam", "Mlym"],
      [(0x0D00, 0x0D0C), (0x0D0E, 0x0D10), (0x0D12, 0x0D44), (0x0D46, 0x0D48), (0x0D4A, 0x0D4F),
       (0x0D54, 0x0D63), (0x0D66, 0x0D7F)],
      [(0x0951, 0x0952), (0x0964, 0x0965), (0x1CDA, 0x1CDA), (0x1CF2, 0x1CF2), (0xA830, 0xA832)]⟩,
    ⟨["Mandaic", "Mand"],
      [(0x0840, 0x085B), (0x085E, 0x085E)],
      [(0x0640, 0x0640)]⟩,
    ⟨["Manichaean", "Mani"],
      [(0x10AC0, 0x10AE6), (0x10AEB, 0x10AF6)],
      [(0x0640, 0x0640)]⟩,
    ⟨["Marchen", "Marc"],
      [(0x11C70, 0x11C8F), (0x11C92, 0x11CA7), (0x11CA9, 0x11CB6)],
      []⟩,
    ⟨["Masaram_Gondi", "Gonm"],
      [(0x11D00, 0x11D06), (0x11D08, 0x11D09), (0x11D0B, 0x11D36), (0x11D3A, 0x11D3A),
       (0x11D3C, 0x11D3D), (0x11D3F, 0x11D47), (0x11D50, 0x11D59)],
      [(0x0964, 0x0965)]⟩,
    ⟨["Medefaidrin", "Medf"],
      [(0x16E40, 0x16E9A)],
      []⟩],
   [⟨["Meetei_Mayek", "Mtei"],
      [(0xAAE0, 0xAAF6), (0xABC0, 0xABED), (0xABF0, 0xABF9)],
      []⟩,
    ⟨["Mende_Kikakui", "Mend"],
      [(0x1E800, 0x1E8C4), (0x1E8C7, 0x1E8D6)],
      []⟩,
    ⟨["Meroitic_Cursive", "Merc"],
      [(0x109A0, 0x109B7), (0x109BC, 0x109CF), (0x109D2, 0x109FF)],
      []⟩,
    ⟨["Meroitic_Hieroglyphs", "Mero"],
      [(0x10980, 0x1099F)],
      [(0x205D, 0x205D)]⟩,
    ⟨["Miao", "Plrd"],
      [(0x16F00, 0x16F4A), (0x16F4F, 0x16F87), (0x16F8F, 0x16F9F)],
      []⟩]].flatten

end RegistrySearch.Unicode
