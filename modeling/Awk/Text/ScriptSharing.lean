import Awk.Text.ScriptRanges

/-!
# Characters that several scripts share

Some characters are in use with more scripts than their own, and some that belong to
no script in particular are in use with a few only.
-/

namespace Awk
namespace Text
namespace Script

/-- Characters in use with other scripts than their own alone, and all scripts that
use them. -/
def shared : List (CodeRange × List Script) := [
  ((0xb7, 0xb7), [.avestan, .carian, .coptic, .duployan, .elbasan, .georgian, .glagolitic,
    .gothic, .greek, .gunjalaGondi, .han, .latin, .lydian, .mahajani, .oldPermic, .shavian]),
  ((0x2bc, 0x2bc), [.bengali, .cyrillic, .devanagari, .latin, .lisu, .thai, .toto]),
  ((0x2c7, 0x2c7), [.bopomofo, .latin]),
  ((0x2c9, 0x2cb), [.bopomofo, .latin]),
  ((0x2cd, 0x2cd), [.latin, .lisu]),
  ((0x2d7, 0x2d7), [.latin, .thai]),
  ((0x2d9, 0x2d9), [.bopomofo, .latin]),
  ((0x300, 0x300), [.cherokee, .coptic, .cyrillic, .greek, .latin, .oldPermic, .sunuwar, .taiLe]),
  ((0x301, 0x301), [.cherokee, .cyrillic, .greek, .latin, .osage, .sunuwar, .taiLe, .todhri]),
  ((0x302, 0x302), [.cherokee, .cyrillic, .latin, .tifinagh]),
  ((0x303, 0x303), [.glagolitic, .latin, .sunuwar, .syriac, .thai]),
  ((0x304, 0x304), [.caucasianAlbanian, .cherokee, .coptic, .cyrillic, .gothic, .greek, .latin,
    .osage, .syriac, .tifinagh, .todhri]),
  ((0x305, 0x305), [.coptic, .elbasan, .glagolitic, .gothic, .katakana, .latin]),
  ((0x306, 0x306), [.cyrillic, .greek, .latin, .oldPermic]),
  ((0x307, 0x307), [.coptic, .duployan, .hebrew, .latin, .oldPermic, .syriac, .taiLe, .tifinagh,
    .todhri]),
  ((0x308, 0x308), [.armenian, .cyrillic, .duployan, .gothic, .greek, .hebrew, .latin, .oldPermic,
    .syriac, .taiLe]),
  ((0x309, 0x309), [.latin, .tifinagh]),
  ((0x30a, 0x30a), [.duployan, .latin, .syriac]),
  ((0x30b, 0x30b), [.cherokee, .cyrillic, .latin, .osage]),
  ((0x30c, 0x30c), [.cherokee, .latin, .taiLe]),
  ((0x30d, 0x30d), [.latin, .sunuwar]),
  ((0x30e, 0x30e), [.ethiopic, .latin]),
  ((0x310, 0x310), [.latin, .sunuwar]),
  ((0x311, 0x311), [.cyrillic, .latin, .todhri]),
  ((0x313, 0x313), [.greek, .latin, .oldPermic, .todhri]),
  ((0x320, 0x320), [.latin, .syriac]),
  ((0x323, 0x323), [.cherokee, .duployan, .katakana, .latin, .syriac]),
  ((0x324, 0x324), [.cherokee, .duployan, .latin, .syriac]),
  ((0x325, 0x325), [.latin, .syriac]),
  ((0x32d, 0x32d), [.latin, .sunuwar, .syriac]),
  ((0x32e, 0x32e), [.latin, .syriac]),
  ((0x330, 0x330), [.cherokee, .latin, .syriac]),
  ((0x331, 0x331), [.caucasianAlbanian, .cherokee, .gothic, .latin, .sunuwar, .thai]),
  ((0x342, 0x342), [.greek]),
  ((0x345, 0x345), [.greek]),
  ((0x358, 0x358), [.latin, .osage]),
  ((0x35e, 0x35e), [.caucasianAlbanian, .latin, .todhri]),
  ((0x363, 0x36f), [.latin]),
  ((0x374, 0x375), [.coptic, .greek]),
  ((0x483, 0x483), [.cyrillic, .oldPermic]),
  ((0x484, 0x484), [.cyrillic, .glagolitic]),
  ((0x485, 0x486), [.cyrillic, .latin]),
  ((0x487, 0x487), [.cyrillic, .glagolitic]),
  ((0x589, 0x589), [.armenian, .georgian, .glagolitic]),
  ((0x60c, 0x60c), [.arabic, .garay, .hanifiRohingya, .nko, .syriac, .thaana, .yezidi]),
  ((0x61b, 0x61b), [.arabic, .garay, .hanifiRohingya, .nko, .syriac, .thaana, .yezidi]),
  ((0x61c, 0x61c), [.arabic, .syriac, .thaana]),
  ((0x61f, 0x61f), [.adlam, .arabic, .garay, .hanifiRohingya, .nko, .syriac, .thaana, .yezidi]),
  ((0x640, 0x640), [.adlam, .arabic, .hanifiRohingya, .mandaic, .manichaean, .oldUyghur,
    .psalterPahlavi, .sogdian, .syriac]),
  ((0x64b, 0x655), [.arabic, .syriac]),
  ((0x660, 0x669), [.arabic, .thaana, .yezidi]),
  ((0x670, 0x670), [.arabic, .syriac]),
  ((0x6d4, 0x6d4), [.arabic, .hanifiRohingya]),
  ((0x951, 0x951), [.bengali, .devanagari, .grantha, .gujarati, .gurmukhi, .kannada, .latin,
    .malayalam, .oriya, .sharada, .tamil, .telugu, .tirhuta]),
  ((0x952, 0x952), [.bengali, .devanagari, .grantha, .gujarati, .gurmukhi, .kannada, .latin,
    .malayalam, .oriya, .tamil, .telugu, .tirhuta]),
  ((0x964, 0x964), [.bengali, .devanagari, .dogra, .grantha, .gujarati, .gunjalaGondi, .gurmukhi,
    .kannada, .khudawadi, .mahajani, .malayalam, .masaramGondi, .nandinagari, .olOnal, .oriya,
    .sinhala, .sylotiNagri, .takri, .tamil, .telugu, .tirhuta]),
  ((0x965, 0x965), [.bengali, .devanagari, .dogra, .grantha, .gujarati, .gunjalaGondi, .gurmukhi,
    .gurungKhema, .kannada, .khudawadi, .limbu, .mahajani, .malayalam, .masaramGondi,
    .nandinagari, .olOnal, .oriya, .sinhala, .sylotiNagri, .takri, .tamil, .telugu, .tirhuta]),
  ((0x966, 0x96f), [.devanagari, .dogra, .kaithi, .mahajani]),
  ((0x9e6, 0x9ef), [.bengali, .chakma, .sylotiNagri]),
  ((0xa66, 0xa6f), [.gurmukhi, .multani]),
  ((0xae6, 0xaef), [.gujarati, .khojki]),
  ((0xbe6, 0xbf3), [.grantha, .tamil]),
  ((0xce6, 0xcef), [.kannada, .nandinagari, .tuluTigalari]),
  ((0x1040, 0x1049), [.chakma, .myanmar, .taiLe]),
  ((0x10fb, 0x10fb), [.georgian, .glagolitic, .latin]),
  ((0x16eb, 0x16ed), [.runic]),
  ((0x1735, 0x1736), [.buhid, .hanunoo, .tagalog, .tagbanwa]),
  ((0x1802, 0x1803), [.mongolian, .phagsPa]),
  ((0x1805, 0x1805), [.mongolian, .phagsPa]),
  ((0x1cd0, 0x1cd0), [.bengali, .devanagari, .grantha, .kannada]),
  ((0x1cd1, 0x1cd1), [.devanagari]),
  ((0x1cd2, 0x1cd2), [.bengali, .devanagari, .grantha, .kannada]),
  ((0x1cd3, 0x1cd3), [.devanagari, .grantha, .kannada]),
  ((0x1cd4, 0x1cd4), [.devanagari]),
  ((0x1cd5, 0x1cd6), [.bengali, .devanagari]),
  ((0x1cd7, 0x1cd7), [.devanagari, .sharada]),
  ((0x1cd8, 0x1cd8), [.bengali, .devanagari]),
  ((0x1cd9, 0x1cd9), [.devanagari, .sharada]),
  ((0x1cda, 0x1cda), [.devanagari, .kannada, .malayalam, .oriya, .tamil, .telugu]),
  ((0x1cdb, 0x1cdb), [.devanagari]),
  ((0x1cdc, 0x1cdd), [.devanagari, .sharada]),
  ((0x1cde, 0x1cdf), [.devanagari]),
  ((0x1ce0, 0x1ce0), [.devanagari, .sharada]),
  ((0x1ce1, 0x1ce1), [.bengali, .devanagari]),
  ((0x1ce2, 0x1ce8), [.devanagari]),
  ((0x1ce9, 0x1ce9), [.devanagari, .nandinagari]),
  ((0x1cea, 0x1cea), [.bengali, .devanagari]),
  ((0x1ceb, 0x1cec), [.devanagari]),
  ((0x1ced, 0x1ced), [.bengali, .devanagari]),
  ((0x1cee, 0x1cf1), [.devanagari]),
  ((0x1cf2, 0x1cf2), [.bengali, .devanagari, .grantha, .kannada, .malayalam, .nandinagari, .oriya,
    .sinhala, .telugu, .tirhuta, .tuluTigalari]),
  ((0x1cf3, 0x1cf3), [.devanagari, .grantha]),
  ((0x1cf4, 0x1cf4), [.devanagari, .grantha, .kannada, .tuluTigalari]),
  ((0x1cf5, 0x1cf6), [.bengali, .devanagari]),
  ((0x1cf7, 0x1cf7), [.bengali]),
  ((0x1cf8, 0x1cf9), [.devanagari, .grantha]),
  ((0x1cfa, 0x1cfa), [.nandinagari]),
  ((0x1dc0, 0x1dc1), [.greek]),
  ((0x1df8, 0x1df8), [.cyrillic, .latin, .syriac]),
  ((0x1dfa, 0x1dfa), [.syriac]),
  ((0x202f, 0x202f), [.latin, .mongolian, .phagsPa]),
  ((0x204f, 0x204f), [.adlam, .arabic]),
  ((0x205a, 0x205a), [.carian, .georgian, .glagolitic, .lycian, .oldHungarian, .oldTurkic]),
  ((0x205d, 0x205d), [.carian, .greek, .meroiticHieroglyphs, .oldHungarian]),
  ((0x20f0, 0x20f0), [.devanagari, .grantha, .latin]),
  ((0x2e17, 0x2e17), [.coptic, .latin]),
  ((0x2e30, 0x2e30), [.avestan, .oldTurkic]),
  ((0x2e31, 0x2e31), [.avestan, .carian, .georgian, .kaithi, .lydian, .oldHungarian, .samaritan]),
  ((0x2e3c, 0x2e3c), [.duployan]),
  ((0x2e41, 0x2e41), [.adlam, .arabic, .oldHungarian]),
  ((0x2e43, 0x2e43), [.cyrillic, .glagolitic]),
  ((0x2ff0, 0x2fff), [.han, .tangut]),
  ((0x3001, 0x3001), [.bopomofo, .han, .hangul, .hiragana, .katakana, .mongolian, .yi]),
  ((0x3002, 0x3002), [.bopomofo, .han, .hangul, .hiragana, .katakana, .mongolian, .phagsPa, .yi]),
  ((0x3003, 0x3003), [.bopomofo, .han, .hangul, .hiragana, .katakana]),
  ((0x3006, 0x3006), [.han]),
  ((0x3008, 0x3009), [.bopomofo, .han, .hangul, .hiragana, .katakana, .mongolian, .tibetan, .yi]),
  ((0x300a, 0x300b), [.bopomofo, .han, .hangul, .hiragana, .katakana, .lisu, .mongolian, .tibetan,
    .yi]),
  ((0x300c, 0x3011), [.bopomofo, .han, .hangul, .hiragana, .katakana, .yi]),
  ((0x3013, 0x3013), [.bopomofo, .han, .hangul, .hiragana, .katakana]),
  ((0x3014, 0x301b), [.bopomofo, .han, .hangul, .hiragana, .katakana, .yi]),
  ((0x301c, 0x301f), [.bopomofo, .han, .hangul, .hiragana, .katakana]),
  ((0x302a, 0x302d), [.bopomofo, .han]),
  ((0x3030, 0x3030), [.bopomofo, .han, .hangul, .hiragana, .katakana]),
  ((0x3031, 0x3035), [.hiragana, .katakana]),
  ((0x3037, 0x3037), [.bopomofo, .han, .hangul, .hiragana, .katakana]),
  ((0x303c, 0x303d), [.han, .hiragana, .katakana]),
  ((0x303e, 0x303f), [.han]),
  ((0x3099, 0x309c), [.hiragana, .katakana]),
  ((0x30a0, 0x30a0), [.hiragana, .katakana]),
  ((0x30fb, 0x30fb), [.bopomofo, .han, .hangul, .hiragana, .katakana, .yi]),
  ((0x30fc, 0x30fc), [.hiragana, .katakana]),
  ((0x3190, 0x319f), [.han]),
  ((0x31c0, 0x31e5), [.han]),
  ((0x31ef, 0x31ef), [.han, .tangut]),
  ((0x3220, 0x3247), [.han]),
  ((0x3280, 0x32b0), [.han]),
  ((0x32c0, 0x32cb), [.han]),
  ((0x32ff, 0x32ff), [.han]),
  ((0x3358, 0x3370), [.han]),
  ((0x337b, 0x337f), [.han]),
  ((0x33e0, 0x33fe), [.han]),
  ((0xa66f, 0xa66f), [.cyrillic, .glagolitic]),
  ((0xa700, 0xa707), [.han, .latin]),
  ((0xa830, 0xa832), [.devanagari, .dogra, .gujarati, .gurmukhi, .kaithi, .kannada, .khojki,
    .khudawadi, .mahajani, .malayalam, .modi, .nandinagari, .sharada, .takri, .tirhuta,
    .tuluTigalari]),
  ((0xa833, 0xa835), [.devanagari, .dogra, .gujarati, .gurmukhi, .kaithi, .kannada, .khojki,
    .khudawadi, .mahajani, .modi, .nandinagari, .sharada, .takri, .tirhuta, .tuluTigalari]),
  ((0xa836, 0xa837), [.devanagari, .dogra, .gujarati, .gurmukhi, .kaithi, .khojki, .khudawadi,
    .mahajani, .modi, .takri, .tirhuta]),
  ((0xa838, 0xa838), [.devanagari, .dogra, .gujarati, .gurmukhi, .kaithi, .khojki, .khudawadi,
    .mahajani, .modi, .sharada, .takri, .tirhuta]),
  ((0xa839, 0xa839), [.devanagari, .dogra, .gujarati, .gurmukhi, .kaithi, .khojki, .khudawadi,
    .mahajani, .modi, .takri, .tirhuta]),
  ((0xa8f1, 0xa8f1), [.bengali, .devanagari, .tuluTigalari]),
  ((0xa8f3, 0xa8f3), [.devanagari, .tamil]),
  ((0xa92e, 0xa92e), [.kayahLi, .latin, .myanmar]),
  ((0xa9cf, 0xa9cf), [.buginese, .javanese]),
  ((0xfd3e, 0xfd3f), [.arabic, .nko]),
  ((0xfdf2, 0xfdf2), [.arabic, .thaana]),
  ((0xfdfd, 0xfdfd), [.arabic, .thaana]),
  ((0xfe45, 0xfe46), [.bopomofo, .han, .hangul, .hiragana, .katakana]),
  ((0xff61, 0xff65), [.bopomofo, .han, .hangul, .hiragana, .katakana, .yi]),
  ((0xff70, 0xff70), [.hiragana, .katakana]),
  ((0xff9e, 0xff9f), [.hiragana, .katakana]),
  ((0x10100, 0x10101), [.cypriot, .cyproMinoan, .linearB]),
  ((0x10102, 0x10102), [.cypriot, .linearB]),
  ((0x10107, 0x10133), [.cypriot, .linearA, .linearB]),
  ((0x10137, 0x1013f), [.cypriot, .linearB]),
  ((0x102e0, 0x102fb), [.arabic, .coptic]),
  ((0x10af2, 0x10af2), [.manichaean, .oldUyghur]),
  ((0x11301, 0x11301), [.grantha, .tamil]),
  ((0x11303, 0x11303), [.grantha, .tamil]),
  ((0x1133b, 0x1133c), [.grantha, .tamil]),
  ((0x11fd0, 0x11fd1), [.grantha, .tamil]),
  ((0x11fd3, 0x11fd3), [.grantha, .tamil]),
  ((0x1bca0, 0x1bca3), [.duployan]),
  ((0x1d360, 0x1d371), [.han]),
  ((0x1f250, 0x1f251), [.han])]

/-- Characters that are in use with a script. -/
def usedChars (s : Script) : CharSet :=
  let others := CharSet.ofRanges (shared.map (·.1))
  let here := CharSet.ofRanges ((shared.filter fun e => e.2.contains s).map (·.1))
  (s.chars.diff others).union here

end Script
end Text
end Awk
