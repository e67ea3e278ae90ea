/-!
# Scripts

The scripts of version 16 of the Unicode standard.
-/

namespace Awk
namespace Text

/-- A writing system, or one of the two stand-ins for characters of many systems. -/
inductive Script where
  | adlam | ahom | anatolianHieroglyphs | arabic | armenian | avestan | balinese | bamum
  | bassaVah | batak | bengali | bhaiksuki | bopomofo | brahmi | braille | buginese | buhid
  | canadianAboriginal | carian | caucasianAlbanian | chakma | cham | cherokee | chorasmian
  | common | coptic | cuneiform | cypriot | cyproMinoan | cyrillic | deseret | devanagari
  | divesAkuru | dogra | duployan | egyptianHieroglyphs | elbasan | elymaic | ethiopic | garay
  | georgian | glagolitic | gothic | grantha | greek | gujarati | gunjalaGondi | gurmukhi
  | gurungKhema | han | hangul | hanifiRohingya | hanunoo | hatran | hebrew | hiragana
  | imperialAramaic | inherited | inscriptionalPahlavi | inscriptionalParthian | javanese
  | kaithi | kannada | katakana | kawi | kayahLi | kharoshthi | khitanSmallScript | khmer
  | khojki | khudawadi | kiratRai | lao | latin | lepcha | limbu | linearA | linearB | lisu
  | lycian | lydian | mahajani | makasar | malayalam | mandaic | manichaean | marchen
  | masaramGondi | medefaidrin | meeteiMayek | mendeKikakui | meroiticCursive
  | meroiticHieroglyphs | miao | modi | mongolian | mro | multani | myanmar | nabataean
  | nagMundari | nandinagari | newTaiLue | newa | nko | nushu | nyiakengPuachueHmong | ogham
  | olChiki | olOnal | oldHungarian | oldItalic | oldNorthArabian | oldPermic | oldPersian
  | oldSogdian | oldSouthArabian | oldTurkic | oldUyghur | oriya | osage | osmanya | pahawhHmong
  | palmyrene | pauCinHau | phagsPa | phoenician | psalterPahlavi | rejang | runic | samaritan
  | saurashtra | sharada | shavian | siddham | signWriting | sinhala | sogdian | soraSompeng
  | soyombo | sundanese | sunuwar | sylotiNagri | syriac | tagalog | tagbanwa | taiLe | taiTham
  | taiViet | takri | tamil | tangsa | tangut | telugu | thaana | thai | tibetan | tifinagh
  | tirhuta | todhri | toto | tuluTigalari | ugaritic | vai | vithkuqi | wancho | warangCiti
  | yezidi | yi | zanabazarSquare
deriving DecidableEq

namespace Script

/-- Short and long names of the scripts, without case and separators. -/
def names : List (String × Script) := [
  ("adlam", .adlam), ("adlm", .adlam), ("aghb", .caucasianAlbanian), ("ahom", .ahom),
  ("anatolianhieroglyphs", .anatolianHieroglyphs), ("arab", .arabic), ("arabic", .arabic),
  ("armenian", .armenian), ("armi", .imperialAramaic), ("armn", .armenian), ("avestan", .avestan),
  ("avst", .avestan), ("bali", .balinese), ("balinese", .balinese), ("bamu", .bamum),
  ("bamum", .bamum), ("bass", .bassaVah), ("bassavah", .bassaVah), ("batak", .batak),
  ("batk", .batak), ("beng", .bengali), ("bengali", .bengali), ("bhaiksuki", .bhaiksuki),
  ("bhks", .bhaiksuki), ("bopo", .bopomofo), ("bopomofo", .bopomofo), ("brah", .brahmi),
  ("brahmi", .brahmi), ("brai", .braille), ("braille", .braille), ("bugi", .buginese),
  ("buginese", .buginese), ("buhd", .buhid), ("buhid", .buhid), ("cakm", .chakma),
  ("canadianaboriginal", .canadianAboriginal), ("cans", .canadianAboriginal), ("cari", .carian),
  ("carian", .carian), ("caucasianalbanian", .caucasianAlbanian), ("chakma", .chakma),
  ("cham", .cham), ("cher", .cherokee), ("cherokee", .cherokee), ("chorasmian", .chorasmian),
  ("chrs", .chorasmian), ("common", .common), ("copt", .coptic), ("coptic", .coptic),
  ("cpmn", .cyproMinoan), ("cprt", .cypriot), ("cuneiform", .cuneiform), ("cypriot", .cypriot),
  ("cyprominoan", .cyproMinoan), ("cyrillic", .cyrillic), ("cyrl", .cyrillic),
  ("deseret", .deseret), ("deva", .devanagari), ("devanagari", .devanagari),
  ("diak", .divesAkuru), ("divesakuru", .divesAkuru), ("dogr", .dogra), ("dogra", .dogra),
  ("dsrt", .deseret), ("dupl", .duployan), ("duployan", .duployan),
  ("egyp", .egyptianHieroglyphs), ("egyptianhieroglyphs", .egyptianHieroglyphs),
  ("elba", .elbasan), ("elbasan", .elbasan), ("elym", .elymaic), ("elymaic", .elymaic),
  ("ethi", .ethiopic), ("ethiopic", .ethiopic), ("gara", .garay), ("garay", .garay),
  ("geor", .georgian), ("georgian", .georgian), ("glag", .glagolitic),
  ("glagolitic", .glagolitic), ("gong", .gunjalaGondi), ("gonm", .masaramGondi),
  ("goth", .gothic), ("gothic", .gothic), ("gran", .grantha), ("grantha", .grantha),
  ("greek", .greek), ("grek", .greek), ("gujarati", .gujarati), ("gujr", .gujarati),
  ("gukh", .gurungKhema), ("gunjalagondi", .gunjalaGondi), ("gurmukhi", .gurmukhi),
  ("guru", .gurmukhi), ("gurungkhema", .gurungKhema), ("han", .han), ("hang", .hangul),
  ("hangul", .hangul), ("hani", .han), ("hanifirohingya", .hanifiRohingya), ("hano", .hanunoo),
  ("hanunoo", .hanunoo), ("hatr", .hatran), ("hatran", .hatran), ("hebr", .hebrew),
  ("hebrew", .hebrew), ("hira", .hiragana), ("hiragana", .hiragana),
  ("hluw", .anatolianHieroglyphs), ("hmng", .pahawhHmong), ("hmnp", .nyiakengPuachueHmong),
  ("hung", .oldHungarian), ("imperialaramaic", .imperialAramaic), ("inherited", .inherited),
  ("inscriptionalpahlavi", .inscriptionalPahlavi),
  ("inscriptionalparthian", .inscriptionalParthian), ("ital", .oldItalic), ("java", .javanese),
  ("javanese", .javanese), ("kaithi", .kaithi), ("kali", .kayahLi), ("kana", .katakana),
  ("kannada", .kannada), ("katakana", .katakana), ("kawi", .kawi), ("kayahli", .kayahLi),
  ("khar", .kharoshthi), ("kharoshthi", .kharoshthi), ("khitansmallscript", .khitanSmallScript),
  ("khmer", .khmer), ("khmr", .khmer), ("khoj", .khojki), ("khojki", .khojki),
  ("khudawadi", .khudawadi), ("kiratrai", .kiratRai), ("kits", .khitanSmallScript),
  ("knda", .kannada), ("krai", .kiratRai), ("kthi", .kaithi), ("lana", .taiTham), ("lao", .lao),
  ("laoo", .lao), ("latin", .latin), ("latn", .latin), ("lepc", .lepcha), ("lepcha", .lepcha),
  ("limb", .limbu), ("limbu", .limbu), ("lina", .linearA), ("linb", .linearB),
  ("lineara", .linearA), ("linearb", .linearB), ("lisu", .lisu), ("lyci", .lycian),
  ("lycian", .lycian), ("lydi", .lydian), ("lydian", .lydian), ("mahajani", .mahajani),
  ("mahj", .mahajani), ("maka", .makasar), ("makasar", .makasar), ("malayalam", .malayalam),
  ("mand", .mandaic), ("mandaic", .mandaic), ("mani", .manichaean), ("manichaean", .manichaean),
  ("marc", .marchen), ("marchen", .marchen), ("masaramgondi", .masaramGondi),
  ("medefaidrin", .medefaidrin), ("medf", .medefaidrin), ("meeteimayek", .meeteiMayek),
  ("mend", .mendeKikakui), ("mendekikakui", .mendeKikakui), ("merc", .meroiticCursive),
  ("mero", .meroiticHieroglyphs), ("meroiticcursive", .meroiticCursive),
  ("meroitichieroglyphs", .meroiticHieroglyphs), ("miao", .miao), ("mlym", .malayalam),
  ("modi", .modi), ("mong", .mongolian), ("mongolian", .mongolian), ("mro", .mro), ("mroo", .mro),
  ("mtei", .meeteiMayek), ("mult", .multani), ("multani", .multani), ("myanmar", .myanmar),
  ("mymr", .myanmar), ("nabataean", .nabataean), ("nagm", .nagMundari),
  ("nagmundari", .nagMundari), ("nand", .nandinagari), ("nandinagari", .nandinagari),
  ("narb", .oldNorthArabian), ("nbat", .nabataean), ("newa", .newa), ("newtailue", .newTaiLue),
  ("nko", .nko), ("nkoo", .nko), ("nshu", .nushu), ("nushu", .nushu),
  ("nyiakengpuachuehmong", .nyiakengPuachueHmong), ("ogam", .ogham), ("ogham", .ogham),
  ("olchiki", .olChiki), ("olck", .olChiki), ("oldhungarian", .oldHungarian),
  ("olditalic", .oldItalic), ("oldnortharabian", .oldNorthArabian), ("oldpermic", .oldPermic),
  ("oldpersian", .oldPersian), ("oldsogdian", .oldSogdian), ("oldsoutharabian", .oldSouthArabian),
  ("oldturkic", .oldTurkic), ("olduyghur", .oldUyghur), ("olonal", .olOnal), ("onao", .olOnal),
  ("oriya", .oriya), ("orkh", .oldTurkic), ("orya", .oriya), ("osage", .osage), ("osge", .osage),
  ("osma", .osmanya), ("osmanya", .osmanya), ("ougr", .oldUyghur), ("pahawhhmong", .pahawhHmong),
  ("palm", .palmyrene), ("palmyrene", .palmyrene), ("pauc", .pauCinHau),
  ("paucinhau", .pauCinHau), ("perm", .oldPermic), ("phag", .phagsPa), ("phagspa", .phagsPa),
  ("phli", .inscriptionalPahlavi), ("phlp", .psalterPahlavi), ("phnx", .phoenician),
  ("phoenician", .phoenician), ("plrd", .miao), ("prti", .inscriptionalParthian),
  ("psalterpahlavi", .psalterPahlavi), ("qaac", .coptic), ("qaai", .inherited),
  ("rejang", .rejang), ("rjng", .rejang), ("rohg", .hanifiRohingya), ("runic", .runic),
  ("runr", .runic), ("samaritan", .samaritan), ("samr", .samaritan), ("sarb", .oldSouthArabian),
  ("saur", .saurashtra), ("saurashtra", .saurashtra), ("sgnw", .signWriting),
  ("sharada", .sharada), ("shavian", .shavian), ("shaw", .shavian), ("shrd", .sharada),
  ("sidd", .siddham), ("siddham", .siddham), ("signwriting", .signWriting), ("sind", .khudawadi),
  ("sinh", .sinhala), ("sinhala", .sinhala), ("sogd", .sogdian), ("sogdian", .sogdian),
  ("sogo", .oldSogdian), ("sora", .soraSompeng), ("sorasompeng", .soraSompeng),
  ("soyo", .soyombo), ("soyombo", .soyombo), ("sund", .sundanese), ("sundanese", .sundanese),
  ("sunu", .sunuwar), ("sunuwar", .sunuwar), ("sylo", .sylotiNagri),
  ("sylotinagri", .sylotiNagri), ("syrc", .syriac), ("syriac", .syriac), ("tagalog", .tagalog),
  ("tagb", .tagbanwa), ("tagbanwa", .tagbanwa), ("taile", .taiLe), ("taitham", .taiTham),
  ("taiviet", .taiViet), ("takr", .takri), ("takri", .takri), ("tale", .taiLe),
  ("talu", .newTaiLue), ("tamil", .tamil), ("taml", .tamil), ("tang", .tangut),
  ("tangsa", .tangsa), ("tangut", .tangut), ("tavt", .taiViet), ("telu", .telugu),
  ("telugu", .telugu), ("tfng", .tifinagh), ("tglg", .tagalog), ("thaa", .thaana),
  ("thaana", .thaana), ("thai", .thai), ("tibetan", .tibetan), ("tibt", .tibetan),
  ("tifinagh", .tifinagh), ("tirh", .tirhuta), ("tirhuta", .tirhuta), ("tnsa", .tangsa),
  ("todhri", .todhri), ("todr", .todhri), ("toto", .toto), ("tulutigalari", .tuluTigalari),
  ("tutg", .tuluTigalari), ("ugar", .ugaritic), ("ugaritic", .ugaritic), ("vai", .vai),
  ("vaii", .vai), ("vith", .vithkuqi), ("vithkuqi", .vithkuqi), ("wancho", .wancho),
  ("wara", .warangCiti), ("warangciti", .warangCiti), ("wcho", .wancho), ("xpeo", .oldPersian),
  ("xsux", .cuneiform), ("yezi", .yezidi), ("yezidi", .yezidi), ("yi", .yi), ("yiii", .yi),
  ("zanabazarsquare", .zanabazarSquare), ("zanb", .zanabazarSquare), ("zinh", .inherited),
  ("zyyy", .common)]

def ofName? (name : String) : Option Script := names.lookup name

end Script
end Text
end Awk
