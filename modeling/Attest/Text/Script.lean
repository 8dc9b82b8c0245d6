import Attest.Text.Runs

/-!
# Unicode scripts

Every code point belongs to one script (Unicode Character Database, version
16.0).  Scripts are numbered by their place in `scriptNames`, which holds the
loose forms of each script's names (its long name and its four-letter code);
`scriptRuns` gives where each run of one script begins, in increasing order.
Code points of no script belong to `Unknown`, which no name names.

A character may also be used with scripts other than its own: its *script
extensions* (`Script_Extensions`) are the scripts it is used with, which is
its own script alone unless the database lists more.  `scriptExtensionRuns`
gives where each run of one set of extensions begins.
-/

namespace Attest

namespace Text

/-- The loose names of each script, in the order that numbers them. -/
def scriptNames : Array (List String) := #[
  ["adlm", "adlam"], ["ahom"], ["hluw", "anatolianhieroglyphs"], ["arab", "arabic"],
  ["armn", "armenian"], ["avst", "avestan"], ["bali", "balinese"], ["bamu", "bamum"],
  ["bass", "bassavah"], ["batk", "batak"], ["beng", "bengali"], ["bhks", "bhaiksuki"],
  ["bopo", "bopomofo"], ["brah", "brahmi"], ["brai", "braille"], ["bugi", "buginese"],
  ["buhd", "buhid"], ["cans", "canadianaboriginal"], ["cari", "carian"],
  ["aghb", "caucasianalbanian"], ["cakm", "chakma"], ["cham"], ["cher", "cherokee"],
  ["chrs", "chorasmian"], ["zyyy", "common"], ["copt", "coptic", "qaac"],
  ["xsux", "cuneiform"], ["cprt", "cypriot"], ["cpmn", "cyprominoan"], ["cyrl", "cyrillic"],
  ["dsrt", "deseret"], ["deva", "devanagari"], ["diak", "divesakuru"], ["dogr", "dogra"],
  ["dupl", "duployan"], ["egyp", "egyptianhieroglyphs"], ["elba", "elbasan"],
  ["elym", "elymaic"], ["ethi", "ethiopic"], ["gara", "garay"], ["geor", "georgian"],
  ["glag", "glagolitic"], ["goth", "gothic"], ["gran", "grantha"], ["grek", "greek"],
  ["gujr", "gujarati"], ["gong", "gunjalagondi"], ["guru", "gurmukhi"],
  ["gukh", "gurungkhema"], ["hani", "han"], ["hang", "hangul"], ["rohg", "hanifirohingya"],
  ["hano", "hanunoo"], ["hatr", "hatran"], ["hebr", "hebrew"], ["hira", "hiragana"],
  ["armi", "imperialaramaic"], ["zinh", "inherited", "qaai"], ["phli", "inscriptionalpahlavi"],
  ["prti", "inscriptionalparthian"], ["java", "javanese"], ["kthi", "kaithi"],
  ["knda", "kannada"], ["kana", "katakana"], ["kawi"], ["kali", "kayahli"],
  ["khar", "kharoshthi"], ["kits", "khitansmallscript"], ["khmr", "khmer"], ["khoj", "khojki"],
  ["sind", "khudawadi"], ["krai", "kiratrai"], ["laoo", "lao"], ["latn", "latin"],
  ["lepc", "lepcha"], ["limb", "limbu"], ["lina", "lineara"], ["linb", "linearb"], ["lisu"],
  ["lyci", "lycian"], ["lydi", "lydian"], ["mahj", "mahajani"], ["maka", "makasar"],
  ["mlym", "malayalam"], ["mand", "mandaic"], ["mani", "manichaean"], ["marc", "marchen"],
  ["gonm", "masaramgondi"], ["medf", "medefaidrin"], ["mtei", "meeteimayek"],
  ["mend", "mendekikakui"], ["merc", "meroiticcursive"], ["mero", "meroitichieroglyphs"],
  ["plrd", "miao"], ["modi"], ["mong", "mongolian"], ["mroo", "mro"], ["mult", "multani"],
  ["mymr", "myanmar"], ["nbat", "nabataean"], ["nagm", "nagmundari"], ["nand", "nandinagari"],
  ["talu", "newtailue"], ["newa"], ["nkoo", "nko"], ["nshu", "nushu"],
  ["hmnp", "nyiakengpuachuehmong"], ["ogam", "ogham"], ["olck", "olchiki"], ["onao", "olonal"],
  ["hung", "oldhungarian"], ["ital", "olditalic"], ["narb", "oldnortharabian"],
  ["perm", "oldpermic"], ["xpeo", "oldpersian"], ["sogo", "oldsogdian"],
  ["sarb", "oldsoutharabian"], ["orkh", "oldturkic"], ["ougr", "olduyghur"], ["orya", "oriya"],
  ["osge", "osage"], ["osma", "osmanya"], ["hmng", "pahawhhmong"], ["palm", "palmyrene"],
  ["pauc", "paucinhau"], ["phag", "phagspa"], ["phnx", "phoenician"],
  ["phlp", "psalterpahlavi"], ["rjng", "rejang"], ["runr", "runic"], ["samr", "samaritan"],
  ["saur", "saurashtra"], ["shrd", "sharada"], ["shaw", "shavian"], ["sidd", "siddham"],
  ["sgnw", "signwriting"], ["sinh", "sinhala"], ["sogd", "sogdian"], ["sora", "sorasompeng"],
  ["soyo", "soyombo"], ["sund", "sundanese"], ["sunu", "sunuwar"], ["sylo", "sylotinagri"],
  ["syrc", "syriac"], ["tglg", "tagalog"], ["tagb", "tagbanwa"], ["tale", "taile"],
  ["lana", "taitham"], ["tavt", "taiviet"], ["takr", "takri"], ["taml", "tamil"],
  ["tnsa", "tangsa"], ["tang", "tangut"], ["telu", "telugu"], ["thaa", "thaana"], ["thai"],
  ["tibt", "tibetan"], ["tfng", "tifinagh"], ["tirh", "tirhuta"], ["todr", "todhri"], ["toto"],
  ["tutg", "tulutigalari"], ["ugar", "ugaritic"], [], ["vaii", "vai"], ["vith", "vithkuqi"],
  ["wcho", "wancho"], ["wara", "warangciti"], ["yezi", "yezidi"], ["yiii", "yi"],
  ["zanb", "zanabazarsquare"]
]

/-- Part 1 of `scriptRuns`. -/
def scriptRunsPart1 : Array (Nat × Nat) := #[
  (0x0, 24), (0x41, 73), (0x5B, 24), (0x61, 73), (0x7B, 24), (0xAA, 73), (0xAB, 24),
  (0xBA, 73), (0xBB, 24), (0xC0, 73), (0xD7, 24), (0xD8, 73), (0xF7, 24), (0xF8, 73),
  (0x2B9, 24), (0x2E0, 73), (0x2E5, 24), (0x2EA, 12), (0x2EC, 24), (0x300, 57), (0x370, 44),
  (0x374, 24), (0x375, 44), (0x378, 163), (0x37A, 44), (0x37E, 24), (0x37F, 44), (0x380, 163),
  (0x384, 44), (0x385, 24), (0x386, 44), (0x387, 24), (0x388, 44), (0x38B, 163), (0x38C, 44),
  (0x38D, 163), (0x38E, 44), (0x3A2, 163), (0x3A3, 44), (0x3E2, 25), (0x3F0, 44), (0x400, 29),
  (0x485, 57), (0x487, 29), (0x530, 163), (0x531, 4), (0x557, 163), (0x559, 4), (0x58B, 163),
  (0x58D, 4), (0x590, 163), (0x591, 54), (0x5C8, 163), (0x5D0, 54), (0x5EB, 163), (0x5EF, 54),
  (0x5F5, 163), (0x600, 3), (0x605, 24), (0x606, 3), (0x60C, 24), (0x60D, 3), (0x61B, 24),
  (0x61C, 3), (0x61F, 24), (0x620, 3), (0x640, 24), (0x641, 3), (0x64B, 57), (0x656, 3),
  (0x670, 57), (0x671, 3), (0x6DD, 24), (0x6DE, 3), (0x700, 143), (0x70E, 163), (0x70F, 143),
  (0x74B, 163), (0x74D, 143), (0x750, 3), (0x780, 154), (0x7B2, 163), (0x7C0, 104),
  (0x7FB, 163), (0x7FD, 104), (0x800, 130), (0x82E, 163), (0x830, 130), (0x83F, 163),
  (0x840, 84), (0x85C, 163), (0x85E, 84), (0x85F, 163), (0x860, 143), (0x86B, 163), (0x870, 3),
  (0x88F, 163), (0x890, 3), (0x892, 163), (0x897, 3), (0x8E2, 24), (0x8E3, 3), (0x900, 31),
  (0x951, 57), (0x955, 31), (0x964, 24), (0x966, 31), (0x980, 10), (0x984, 163), (0x985, 10),
  (0x98D, 163), (0x98F, 10), (0x991, 163), (0x993, 10), (0x9A9, 163), (0x9AA, 10),
  (0x9B1, 163), (0x9B2, 10), (0x9B3, 163), (0x9B6, 10), (0x9BA, 163), (0x9BC, 10),
  (0x9C5, 163), (0x9C7, 10), (0x9C9, 163), (0x9CB, 10), (0x9CF, 163), (0x9D7, 10),
  (0x9D8, 163), (0x9DC, 10), (0x9DE, 163), (0x9DF, 10), (0x9E4, 163), (0x9E6, 10),
  (0x9FF, 163), (0xA01, 47), (0xA04, 163), (0xA05, 47), (0xA0B, 163), (0xA0F, 47),
  (0xA11, 163), (0xA13, 47), (0xA29, 163), (0xA2A, 47), (0xA31, 163), (0xA32, 47),
  (0xA34, 163), (0xA35, 47), (0xA37, 163), (0xA38, 47), (0xA3A, 163), (0xA3C, 47),
  (0xA3D, 163), (0xA3E, 47), (0xA43, 163), (0xA47, 47), (0xA49, 163), (0xA4B, 47),
  (0xA4E, 163), (0xA51, 47), (0xA52, 163), (0xA59, 47), (0xA5D, 163), (0xA5E, 47),
  (0xA5F, 163), (0xA66, 47), (0xA77, 163), (0xA81, 45), (0xA84, 163), (0xA85, 45),
  (0xA8E, 163), (0xA8F, 45), (0xA92, 163), (0xA93, 45), (0xAA9, 163), (0xAAA, 45),
  (0xAB1, 163), (0xAB2, 45), (0xAB4, 163), (0xAB5, 45), (0xABA, 163), (0xABC, 45),
  (0xAC6, 163), (0xAC7, 45), (0xACA, 163), (0xACB, 45), (0xACE, 163), (0xAD0, 45),
  (0xAD1, 163), (0xAE0, 45), (0xAE4, 163), (0xAE6, 45), (0xAF2, 163), (0xAF9, 45),
  (0xB00, 163), (0xB01, 119), (0xB04, 163), (0xB05, 119), (0xB0D, 163), (0xB0F, 119),
  (0xB11, 163), (0xB13, 119), (0xB29, 163), (0xB2A, 119), (0xB31, 163), (0xB32, 119),
  (0xB34, 163), (0xB35, 119), (0xB3A, 163), (0xB3C, 119), (0xB45, 163), (0xB47, 119),
  (0xB49, 163), (0xB4B, 119), (0xB4E, 163), (0xB55, 119), (0xB58, 163), (0xB5C, 119),
  (0xB5E, 163), (0xB5F, 119), (0xB64, 163), (0xB66, 119), (0xB78, 163), (0xB82, 150),
  (0xB84, 163), (0xB85, 150), (0xB8B, 163), (0xB8E, 150), (0xB91, 163), (0xB92, 150),
  (0xB96, 163), (0xB99, 150), (0xB9B, 163), (0xB9C, 150), (0xB9D, 163), (0xB9E, 150),
  (0xBA0, 163), (0xBA3, 150), (0xBA5, 163), (0xBA8, 150), (0xBAB, 163), (0xBAE, 150),
  (0xBBA, 163), (0xBBE, 150), (0xBC3, 163), (0xBC6, 150), (0xBC9, 163), (0xBCA, 150),
  (0xBCE, 163), (0xBD0, 150), (0xBD1, 163), (0xBD7, 150), (0xBD8, 163), (0xBE6, 150),
  (0xBFB, 163), (0xC00, 153), (0xC0D, 163), (0xC0E, 153), (0xC11, 163), (0xC12, 153),
  (0xC29, 163), (0xC2A, 153), (0xC3A, 163), (0xC3C, 153), (0xC45, 163), (0xC46, 153),
  (0xC49, 163), (0xC4A, 153), (0xC4E, 163), (0xC55, 153), (0xC57, 163), (0xC58, 153),
  (0xC5B, 163), (0xC5D, 153), (0xC5E, 163), (0xC60, 153), (0xC64, 163), (0xC66, 153),
  (0xC70, 163), (0xC77, 153), (0xC80, 62), (0xC8D, 163), (0xC8E, 62), (0xC91, 163),
  (0xC92, 62), (0xCA9, 163), (0xCAA, 62), (0xCB4, 163), (0xCB5, 62), (0xCBA, 163), (0xCBC, 62),
  (0xCC5, 163), (0xCC6, 62), (0xCC9, 163), (0xCCA, 62), (0xCCE, 163), (0xCD5, 62),
  (0xCD7, 163), (0xCDD, 62), (0xCDF, 163), (0xCE0, 62), (0xCE4, 163), (0xCE6, 62),
  (0xCF0, 163), (0xCF1, 62), (0xCF4, 163), (0xD00, 83), (0xD0D, 163), (0xD0E, 83),
  (0xD11, 163), (0xD12, 83), (0xD45, 163), (0xD46, 83), (0xD49, 163), (0xD4A, 83),
  (0xD50, 163), (0xD54, 83), (0xD64, 163), (0xD66, 83), (0xD80, 163), (0xD81, 136),
  (0xD84, 163), (0xD85, 136), (0xD97, 163), (0xD9A, 136), (0xDB2, 163), (0xDB3, 136),
  (0xDBC, 163), (0xDBD, 136), (0xDBE, 163), (0xDC0, 136), (0xDC7, 163), (0xDCA, 136),
  (0xDCB, 163), (0xDCF, 136), (0xDD5, 163), (0xDD6, 136), (0xDD7, 163), (0xDD8, 136),
  (0xDE0, 163), (0xDE6, 136), (0xDF0, 163), (0xDF2, 136), (0xDF5, 163), (0xE01, 155),
  (0xE3B, 163), (0xE3F, 24), (0xE40, 155), (0xE5C, 163), (0xE81, 72), (0xE83, 163),
  (0xE84, 72), (0xE85, 163), (0xE86, 72), (0xE8B, 163), (0xE8C, 72), (0xEA4, 163), (0xEA5, 72),
  (0xEA6, 163), (0xEA7, 72), (0xEBE, 163), (0xEC0, 72), (0xEC5, 163), (0xEC6, 72),
  (0xEC7, 163), (0xEC8, 72), (0xECF, 163), (0xED0, 72), (0xEDA, 163), (0xEDC, 72),
  (0xEE0, 163), (0xF00, 156), (0xF48, 163), (0xF49, 156), (0xF6D, 163), (0xF71, 156),
  (0xF98, 163), (0xF99, 156), (0xFBD, 163), (0xFBE, 156), (0xFCD, 163), (0xFCE, 156),
  (0xFD5, 24), (0xFD9, 156), (0xFDB, 163), (0x1000, 98), (0x10A0, 40), (0x10C6, 163),
  (0x10C7, 40), (0x10C8, 163), (0x10CD, 40), (0x10CE, 163), (0x10D0, 40), (0x10FB, 24),
  (0x10FC, 40), (0x1100, 50), (0x1200, 38), (0x1249, 163), (0x124A, 38), (0x124E, 163),
  (0x1250, 38), (0x1257, 163), (0x1258, 38), (0x1259, 163), (0x125A, 38), (0x125E, 163),
  (0x1260, 38), (0x1289, 163), (0x128A, 38), (0x128E, 163), (0x1290, 38), (0x12B1, 163),
  (0x12B2, 38), (0x12B6, 163), (0x12B8, 38), (0x12BF, 163), (0x12C0, 38), (0x12C1, 163),
  (0x12C2, 38), (0x12C6, 163), (0x12C8, 38), (0x12D7, 163), (0x12D8, 38), (0x1311, 163),
  (0x1312, 38), (0x1316, 163), (0x1318, 38), (0x135B, 163), (0x135D, 38), (0x137D, 163),
  (0x1380, 38), (0x139A, 163), (0x13A0, 22), (0x13F6, 163), (0x13F8, 22), (0x13FE, 163),
  (0x1400, 17), (0x1680, 107), (0x169D, 163), (0x16A0, 129), (0x16EB, 24), (0x16EE, 129),
  (0x16F9, 163), (0x1700, 144), (0x1716, 163), (0x171F, 144), (0x1720, 52), (0x1735, 24),
  (0x1737, 163), (0x1740, 16), (0x1754, 163), (0x1760, 145), (0x176D, 163), (0x176E, 145),
  (0x1771, 163), (0x1772, 145), (0x1774, 163), (0x1780, 68), (0x17DE, 163), (0x17E0, 68),
  (0x17EA, 163), (0x17F0, 68), (0x17FA, 163), (0x1800, 95), (0x1802, 24), (0x1804, 95),
  (0x1805, 24), (0x1806, 95), (0x181A, 163), (0x1820, 95), (0x1879, 163), (0x1880, 95),
  (0x18AB, 163), (0x18B0, 17), (0x18F6, 163), (0x1900, 75), (0x191F, 163), (0x1920, 75),
  (0x192C, 163), (0x1930, 75), (0x193C, 163), (0x1940, 75), (0x1941, 163), (0x1944, 75),
  (0x1950, 146), (0x196E, 163), (0x1970, 146), (0x1975, 163), (0x1980, 102), (0x19AC, 163),
  (0x19B0, 102), (0x19CA, 163), (0x19D0, 102), (0x19DB, 163), (0x19DE, 102), (0x19E0, 68),
  (0x1A00, 15), (0x1A1C, 163), (0x1A1E, 15), (0x1A20, 147)
]

/-- Part 2 of `scriptRuns`. -/
def scriptRunsPart2 : Array (Nat × Nat) := #[
  (0x1A5F, 163), (0x1A60, 147), (0x1A7D, 163), (0x1A7F, 147), (0x1A8A, 163), (0x1A90, 147),
  (0x1A9A, 163), (0x1AA0, 147), (0x1AAE, 163), (0x1AB0, 57), (0x1ACF, 163), (0x1B00, 6),
  (0x1B4D, 163), (0x1B4E, 6), (0x1B80, 140), (0x1BC0, 9), (0x1BF4, 163), (0x1BFC, 9),
  (0x1C00, 74), (0x1C38, 163), (0x1C3B, 74), (0x1C4A, 163), (0x1C4D, 74), (0x1C50, 108),
  (0x1C80, 29), (0x1C8B, 163), (0x1C90, 40), (0x1CBB, 163), (0x1CBD, 40), (0x1CC0, 140),
  (0x1CC8, 163), (0x1CD0, 57), (0x1CD3, 24), (0x1CD4, 57), (0x1CE1, 24), (0x1CE2, 57),
  (0x1CE9, 24), (0x1CED, 57), (0x1CEE, 24), (0x1CF4, 57), (0x1CF5, 24), (0x1CF8, 57),
  (0x1CFA, 24), (0x1CFB, 163), (0x1D00, 73), (0x1D26, 44), (0x1D2B, 29), (0x1D2C, 73),
  (0x1D5D, 44), (0x1D62, 73), (0x1D66, 44), (0x1D6B, 73), (0x1D78, 29), (0x1D79, 73),
  (0x1DBF, 44), (0x1DC0, 57), (0x1E00, 73), (0x1F00, 44), (0x1F16, 163), (0x1F18, 44),
  (0x1F1E, 163), (0x1F20, 44), (0x1F46, 163), (0x1F48, 44), (0x1F4E, 163), (0x1F50, 44),
  (0x1F58, 163), (0x1F59, 44), (0x1F5A, 163), (0x1F5B, 44), (0x1F5C, 163), (0x1F5D, 44),
  (0x1F5E, 163), (0x1F5F, 44), (0x1F7E, 163), (0x1F80, 44), (0x1FB5, 163), (0x1FB6, 44),
  (0x1FC5, 163), (0x1FC6, 44), (0x1FD4, 163), (0x1FD6, 44), (0x1FDC, 163), (0x1FDD, 44),
  (0x1FF0, 163), (0x1FF2, 44), (0x1FF5, 163), (0x1FF6, 44), (0x1FFF, 163), (0x2000, 24),
  (0x200C, 57), (0x200E, 24), (0x2065, 163), (0x2066, 24), (0x2071, 73), (0x2072, 163),
  (0x2074, 24), (0x207F, 73), (0x2080, 24), (0x208F, 163), (0x2090, 73), (0x209D, 163),
  (0x20A0, 24), (0x20C1, 163), (0x20D0, 57), (0x20F1, 163), (0x2100, 24), (0x2126, 44),
  (0x2127, 24), (0x212A, 73), (0x212C, 24), (0x2132, 73), (0x2133, 24), (0x214E, 73),
  (0x214F, 24), (0x2160, 73), (0x2189, 24), (0x218C, 163), (0x2190, 24), (0x242A, 163),
  (0x2440, 24), (0x244B, 163), (0x2460, 24), (0x2800, 14), (0x2900, 24), (0x2B74, 163),
  (0x2B76, 24), (0x2B96, 163), (0x2B97, 24), (0x2C00, 41), (0x2C60, 73), (0x2C80, 25),
  (0x2CF4, 163), (0x2CF9, 25), (0x2D00, 40), (0x2D26, 163), (0x2D27, 40), (0x2D28, 163),
  (0x2D2D, 40), (0x2D2E, 163), (0x2D30, 157), (0x2D68, 163), (0x2D6F, 157), (0x2D71, 163),
  (0x2D7F, 157), (0x2D80, 38), (0x2D97, 163), (0x2DA0, 38), (0x2DA7, 163), (0x2DA8, 38),
  (0x2DAF, 163), (0x2DB0, 38), (0x2DB7, 163), (0x2DB8, 38), (0x2DBF, 163), (0x2DC0, 38),
  (0x2DC7, 163), (0x2DC8, 38), (0x2DCF, 163), (0x2DD0, 38), (0x2DD7, 163), (0x2DD8, 38),
  (0x2DDF, 163), (0x2DE0, 29), (0x2E00, 24), (0x2E5E, 163), (0x2E80, 49), (0x2E9A, 163),
  (0x2E9B, 49), (0x2EF4, 163), (0x2F00, 49), (0x2FD6, 163), (0x2FF0, 24), (0x3005, 49),
  (0x3006, 24), (0x3007, 49), (0x3008, 24), (0x3021, 49), (0x302A, 57), (0x302E, 50),
  (0x3030, 24), (0x3038, 49), (0x303C, 24), (0x3040, 163), (0x3041, 55), (0x3097, 163),
  (0x3099, 57), (0x309B, 24), (0x309D, 55), (0x30A0, 24), (0x30A1, 63), (0x30FB, 24),
  (0x30FD, 63), (0x3100, 163), (0x3105, 12), (0x3130, 163), (0x3131, 50), (0x318F, 163),
  (0x3190, 24), (0x31A0, 12), (0x31C0, 24), (0x31E6, 163), (0x31EF, 24), (0x31F0, 63),
  (0x3200, 50), (0x321F, 163), (0x3220, 24), (0x3260, 50), (0x327F, 24), (0x32D0, 63),
  (0x32FF, 24), (0x3300, 63), (0x3358, 24), (0x3400, 49), (0x4DC0, 24), (0x4E00, 49),
  (0xA000, 169), (0xA48D, 163), (0xA490, 169), (0xA4C7, 163), (0xA4D0, 78), (0xA500, 164),
  (0xA62C, 163), (0xA640, 29), (0xA6A0, 7), (0xA6F8, 163), (0xA700, 24), (0xA722, 73),
  (0xA788, 24), (0xA78B, 73), (0xA7CE, 163), (0xA7D0, 73), (0xA7D2, 163), (0xA7D3, 73),
  (0xA7D4, 163), (0xA7D5, 73), (0xA7DD, 163), (0xA7F2, 73), (0xA800, 142), (0xA82D, 163),
  (0xA830, 24), (0xA83A, 163), (0xA840, 125), (0xA878, 163), (0xA880, 131), (0xA8C6, 163),
  (0xA8CE, 131), (0xA8DA, 163), (0xA8E0, 31), (0xA900, 65), (0xA92E, 24), (0xA92F, 65),
  (0xA930, 128), (0xA954, 163), (0xA95F, 128), (0xA960, 50), (0xA97D, 163), (0xA980, 60),
  (0xA9CE, 163), (0xA9CF, 24), (0xA9D0, 60), (0xA9DA, 163), (0xA9DE, 60), (0xA9E0, 98),
  (0xA9FF, 163), (0xAA00, 21), (0xAA37, 163), (0xAA40, 21), (0xAA4E, 163), (0xAA50, 21),
  (0xAA5A, 163), (0xAA5C, 21), (0xAA60, 98), (0xAA80, 148), (0xAAC3, 163), (0xAADB, 148),
  (0xAAE0, 89), (0xAAF7, 163), (0xAB01, 38), (0xAB07, 163), (0xAB09, 38), (0xAB0F, 163),
  (0xAB11, 38), (0xAB17, 163), (0xAB20, 38), (0xAB27, 163), (0xAB28, 38), (0xAB2F, 163),
  (0xAB30, 73), (0xAB5B, 24), (0xAB5C, 73), (0xAB65, 44), (0xAB66, 73), (0xAB6A, 24),
  (0xAB6C, 163), (0xAB70, 22), (0xABC0, 89), (0xABEE, 163), (0xABF0, 89), (0xABFA, 163),
  (0xAC00, 50), (0xD7A4, 163), (0xD7B0, 50), (0xD7C7, 163), (0xD7CB, 50), (0xD7FC, 163),
  (0xF900, 49), (0xFA6E, 163), (0xFA70, 49), (0xFADA, 163), (0xFB00, 73), (0xFB07, 163),
  (0xFB13, 4), (0xFB18, 163), (0xFB1D, 54), (0xFB37, 163), (0xFB38, 54), (0xFB3D, 163),
  (0xFB3E, 54), (0xFB3F, 163), (0xFB40, 54), (0xFB42, 163), (0xFB43, 54), (0xFB45, 163),
  (0xFB46, 54), (0xFB50, 3), (0xFBC3, 163), (0xFBD3, 3), (0xFD3E, 24), (0xFD40, 3),
  (0xFD90, 163), (0xFD92, 3), (0xFDC8, 163), (0xFDCF, 3), (0xFDD0, 163), (0xFDF0, 3),
  (0xFE00, 57), (0xFE10, 24), (0xFE1A, 163), (0xFE20, 57), (0xFE2E, 29), (0xFE30, 24),
  (0xFE53, 163), (0xFE54, 24), (0xFE67, 163), (0xFE68, 24), (0xFE6C, 163), (0xFE70, 3),
  (0xFE75, 163), (0xFE76, 3), (0xFEFD, 163), (0xFEFF, 24), (0xFF00, 163), (0xFF01, 24),
  (0xFF21, 73), (0xFF3B, 24), (0xFF41, 73), (0xFF5B, 24), (0xFF66, 63), (0xFF70, 24),
  (0xFF71, 63), (0xFF9E, 24), (0xFFA0, 50), (0xFFBF, 163), (0xFFC2, 50), (0xFFC8, 163),
  (0xFFCA, 50), (0xFFD0, 163), (0xFFD2, 50), (0xFFD8, 163), (0xFFDA, 50), (0xFFDD, 163),
  (0xFFE0, 24), (0xFFE7, 163), (0xFFE8, 24), (0xFFEF, 163), (0xFFF9, 24), (0xFFFE, 163),
  (0x10000, 77), (0x1000C, 163), (0x1000D, 77), (0x10027, 163), (0x10028, 77), (0x1003B, 163),
  (0x1003C, 77), (0x1003E, 163), (0x1003F, 77), (0x1004E, 163), (0x10050, 77), (0x1005E, 163),
  (0x10080, 77), (0x100FB, 163), (0x10100, 24), (0x10103, 163), (0x10107, 24), (0x10134, 163),
  (0x10137, 24), (0x10140, 44), (0x1018F, 163), (0x10190, 24), (0x1019D, 163), (0x101A0, 44),
  (0x101A1, 163), (0x101D0, 24), (0x101FD, 57), (0x101FE, 163), (0x10280, 79), (0x1029D, 163),
  (0x102A0, 18), (0x102D1, 163), (0x102E0, 57), (0x102E1, 24), (0x102FC, 163), (0x10300, 111),
  (0x10324, 163), (0x1032D, 111), (0x10330, 42), (0x1034B, 163), (0x10350, 113),
  (0x1037B, 163), (0x10380, 162), (0x1039E, 163), (0x1039F, 162), (0x103A0, 114),
  (0x103C4, 163), (0x103C8, 114), (0x103D6, 163), (0x10400, 30), (0x10450, 133),
  (0x10480, 121), (0x1049E, 163), (0x104A0, 121), (0x104AA, 163), (0x104B0, 120),
  (0x104D4, 163), (0x104D8, 120), (0x104FC, 163), (0x10500, 36), (0x10528, 163), (0x10530, 19),
  (0x10564, 163), (0x1056F, 19), (0x10570, 165), (0x1057B, 163), (0x1057C, 165),
  (0x1058B, 163), (0x1058C, 165), (0x10593, 163), (0x10594, 165), (0x10596, 163),
  (0x10597, 165), (0x105A2, 163), (0x105A3, 165), (0x105B2, 163), (0x105B3, 165),
  (0x105BA, 163), (0x105BB, 165), (0x105BD, 163), (0x105C0, 159), (0x105F4, 163),
  (0x10600, 76), (0x10737, 163), (0x10740, 76), (0x10756, 163), (0x10760, 76), (0x10768, 163),
  (0x10780, 73), (0x10786, 163), (0x10787, 73), (0x107B1, 163), (0x107B2, 73), (0x107BB, 163),
  (0x10800, 27), (0x10806, 163), (0x10808, 27), (0x10809, 163), (0x1080A, 27), (0x10836, 163),
  (0x10837, 27), (0x10839, 163), (0x1083C, 27), (0x1083D, 163), (0x1083F, 27), (0x10840, 56),
  (0x10856, 163), (0x10857, 56), (0x10860, 123), (0x10880, 99), (0x1089F, 163), (0x108A7, 99),
  (0x108B0, 163), (0x108E0, 53), (0x108F3, 163), (0x108F4, 53), (0x108F6, 163), (0x108FB, 53),
  (0x10900, 126), (0x1091C, 163), (0x1091F, 126), (0x10920, 80)
]

/-- Part 3 of `scriptRuns`. -/
def scriptRunsPart3 : Array (Nat × Nat) := #[
  (0x1093A, 163), (0x1093F, 80), (0x10940, 163), (0x10980, 92), (0x109A0, 91), (0x109B8, 163),
  (0x109BC, 91), (0x109D0, 163), (0x109D2, 91), (0x10A00, 66), (0x10A04, 163), (0x10A05, 66),
  (0x10A07, 163), (0x10A0C, 66), (0x10A14, 163), (0x10A15, 66), (0x10A18, 163), (0x10A19, 66),
  (0x10A36, 163), (0x10A38, 66), (0x10A3B, 163), (0x10A3F, 66), (0x10A49, 163), (0x10A50, 66),
  (0x10A59, 163), (0x10A60, 116), (0x10A80, 112), (0x10AA0, 163), (0x10AC0, 85),
  (0x10AE7, 163), (0x10AEB, 85), (0x10AF7, 163), (0x10B00, 5), (0x10B36, 163), (0x10B39, 5),
  (0x10B40, 59), (0x10B56, 163), (0x10B58, 59), (0x10B60, 58), (0x10B73, 163), (0x10B78, 58),
  (0x10B80, 127), (0x10B92, 163), (0x10B99, 127), (0x10B9D, 163), (0x10BA9, 127),
  (0x10BB0, 163), (0x10C00, 117), (0x10C49, 163), (0x10C80, 110), (0x10CB3, 163),
  (0x10CC0, 110), (0x10CF3, 163), (0x10CFA, 110), (0x10D00, 51), (0x10D28, 163), (0x10D30, 51),
  (0x10D3A, 163), (0x10D40, 39), (0x10D66, 163), (0x10D69, 39), (0x10D86, 163), (0x10D8E, 39),
  (0x10D90, 163), (0x10E60, 3), (0x10E7F, 163), (0x10E80, 168), (0x10EAA, 163), (0x10EAB, 168),
  (0x10EAE, 163), (0x10EB0, 168), (0x10EB2, 163), (0x10EC2, 3), (0x10EC5, 163), (0x10EFC, 3),
  (0x10F00, 115), (0x10F28, 163), (0x10F30, 137), (0x10F5A, 163), (0x10F70, 118),
  (0x10F8A, 163), (0x10FB0, 23), (0x10FCC, 163), (0x10FE0, 37), (0x10FF7, 163), (0x11000, 13),
  (0x1104E, 163), (0x11052, 13), (0x11076, 163), (0x1107F, 13), (0x11080, 61), (0x110C3, 163),
  (0x110CD, 61), (0x110CE, 163), (0x110D0, 138), (0x110E9, 163), (0x110F0, 138),
  (0x110FA, 163), (0x11100, 20), (0x11135, 163), (0x11136, 20), (0x11148, 163), (0x11150, 81),
  (0x11177, 163), (0x11180, 132), (0x111E0, 163), (0x111E1, 136), (0x111F5, 163),
  (0x11200, 69), (0x11212, 163), (0x11213, 69), (0x11242, 163), (0x11280, 97), (0x11287, 163),
  (0x11288, 97), (0x11289, 163), (0x1128A, 97), (0x1128E, 163), (0x1128F, 97), (0x1129E, 163),
  (0x1129F, 97), (0x112AA, 163), (0x112B0, 70), (0x112EB, 163), (0x112F0, 70), (0x112FA, 163),
  (0x11300, 43), (0x11304, 163), (0x11305, 43), (0x1130D, 163), (0x1130F, 43), (0x11311, 163),
  (0x11313, 43), (0x11329, 163), (0x1132A, 43), (0x11331, 163), (0x11332, 43), (0x11334, 163),
  (0x11335, 43), (0x1133A, 163), (0x1133B, 57), (0x1133C, 43), (0x11345, 163), (0x11347, 43),
  (0x11349, 163), (0x1134B, 43), (0x1134E, 163), (0x11350, 43), (0x11351, 163), (0x11357, 43),
  (0x11358, 163), (0x1135D, 43), (0x11364, 163), (0x11366, 43), (0x1136D, 163), (0x11370, 43),
  (0x11375, 163), (0x11380, 161), (0x1138A, 163), (0x1138B, 161), (0x1138C, 163),
  (0x1138E, 161), (0x1138F, 163), (0x11390, 161), (0x113B6, 163), (0x113B7, 161),
  (0x113C1, 163), (0x113C2, 161), (0x113C3, 163), (0x113C5, 161), (0x113C6, 163),
  (0x113C7, 161), (0x113CB, 163), (0x113CC, 161), (0x113D6, 163), (0x113D7, 161),
  (0x113D9, 163), (0x113E1, 161), (0x113E3, 163), (0x11400, 103), (0x1145C, 163),
  (0x1145D, 103), (0x11462, 163), (0x11480, 158), (0x114C8, 163), (0x114D0, 158),
  (0x114DA, 163), (0x11580, 134), (0x115B6, 163), (0x115B8, 134), (0x115DE, 163),
  (0x11600, 94), (0x11645, 163), (0x11650, 94), (0x1165A, 163), (0x11660, 95), (0x1166D, 163),
  (0x11680, 149), (0x116BA, 163), (0x116C0, 149), (0x116CA, 163), (0x116D0, 98),
  (0x116E4, 163), (0x11700, 1), (0x1171B, 163), (0x1171D, 1), (0x1172C, 163), (0x11730, 1),
  (0x11747, 163), (0x11800, 33), (0x1183C, 163), (0x118A0, 167), (0x118F3, 163),
  (0x118FF, 167), (0x11900, 32), (0x11907, 163), (0x11909, 32), (0x1190A, 163), (0x1190C, 32),
  (0x11914, 163), (0x11915, 32), (0x11917, 163), (0x11918, 32), (0x11936, 163), (0x11937, 32),
  (0x11939, 163), (0x1193B, 32), (0x11947, 163), (0x11950, 32), (0x1195A, 163), (0x119A0, 101),
  (0x119A8, 163), (0x119AA, 101), (0x119D8, 163), (0x119DA, 101), (0x119E5, 163),
  (0x11A00, 170), (0x11A48, 163), (0x11A50, 139), (0x11AA3, 163), (0x11AB0, 17),
  (0x11AC0, 124), (0x11AF9, 163), (0x11B00, 31), (0x11B0A, 163), (0x11BC0, 141),
  (0x11BE2, 163), (0x11BF0, 141), (0x11BFA, 163), (0x11C00, 11), (0x11C09, 163), (0x11C0A, 11),
  (0x11C37, 163), (0x11C38, 11), (0x11C46, 163), (0x11C50, 11), (0x11C6D, 163), (0x11C70, 86),
  (0x11C90, 163), (0x11C92, 86), (0x11CA8, 163), (0x11CA9, 86), (0x11CB7, 163), (0x11D00, 87),
  (0x11D07, 163), (0x11D08, 87), (0x11D0A, 163), (0x11D0B, 87), (0x11D37, 163), (0x11D3A, 87),
  (0x11D3B, 163), (0x11D3C, 87), (0x11D3E, 163), (0x11D3F, 87), (0x11D48, 163), (0x11D50, 87),
  (0x11D5A, 163), (0x11D60, 46), (0x11D66, 163), (0x11D67, 46), (0x11D69, 163), (0x11D6A, 46),
  (0x11D8F, 163), (0x11D90, 46), (0x11D92, 163), (0x11D93, 46), (0x11D99, 163), (0x11DA0, 46),
  (0x11DAA, 163), (0x11EE0, 82), (0x11EF9, 163), (0x11F00, 64), (0x11F11, 163), (0x11F12, 64),
  (0x11F3B, 163), (0x11F3E, 64), (0x11F5B, 163), (0x11FB0, 78), (0x11FB1, 163), (0x11FC0, 150),
  (0x11FF2, 163), (0x11FFF, 150), (0x12000, 26), (0x1239A, 163), (0x12400, 26), (0x1246F, 163),
  (0x12470, 26), (0x12475, 163), (0x12480, 26), (0x12544, 163), (0x12F90, 28), (0x12FF3, 163),
  (0x13000, 35), (0x13456, 163), (0x13460, 35), (0x143FB, 163), (0x14400, 2), (0x14647, 163),
  (0x16100, 48), (0x1613A, 163), (0x16800, 7), (0x16A39, 163), (0x16A40, 96), (0x16A5F, 163),
  (0x16A60, 96), (0x16A6A, 163), (0x16A6E, 96), (0x16A70, 151), (0x16ABF, 163), (0x16AC0, 151),
  (0x16ACA, 163), (0x16AD0, 8), (0x16AEE, 163), (0x16AF0, 8), (0x16AF6, 163), (0x16B00, 122),
  (0x16B46, 163), (0x16B50, 122), (0x16B5A, 163), (0x16B5B, 122), (0x16B62, 163),
  (0x16B63, 122), (0x16B78, 163), (0x16B7D, 122), (0x16B90, 163), (0x16D40, 71),
  (0x16D7A, 163), (0x16E40, 88), (0x16E9B, 163), (0x16F00, 93), (0x16F4B, 163), (0x16F4F, 93),
  (0x16F88, 163), (0x16F8F, 93), (0x16FA0, 163), (0x16FE0, 152), (0x16FE1, 105), (0x16FE2, 49),
  (0x16FE4, 67), (0x16FE5, 163), (0x16FF0, 49), (0x16FF2, 163), (0x17000, 152), (0x187F8, 163),
  (0x18800, 152), (0x18B00, 67), (0x18CD6, 163), (0x18CFF, 67), (0x18D00, 152), (0x18D09, 163),
  (0x1AFF0, 63), (0x1AFF4, 163), (0x1AFF5, 63), (0x1AFFC, 163), (0x1AFFD, 63), (0x1AFFF, 163),
  (0x1B000, 63), (0x1B001, 55), (0x1B120, 63), (0x1B123, 163), (0x1B132, 55), (0x1B133, 163),
  (0x1B150, 55), (0x1B153, 163), (0x1B155, 63), (0x1B156, 163), (0x1B164, 63), (0x1B168, 163),
  (0x1B170, 105), (0x1B2FC, 163), (0x1BC00, 34), (0x1BC6B, 163), (0x1BC70, 34), (0x1BC7D, 163),
  (0x1BC80, 34), (0x1BC89, 163), (0x1BC90, 34), (0x1BC9A, 163), (0x1BC9C, 34), (0x1BCA0, 24),
  (0x1BCA4, 163), (0x1CC00, 24), (0x1CCFA, 163), (0x1CD00, 24), (0x1CEB4, 163), (0x1CF00, 57),
  (0x1CF2E, 163), (0x1CF30, 57), (0x1CF47, 163), (0x1CF50, 24), (0x1CFC4, 163), (0x1D000, 24),
  (0x1D0F6, 163), (0x1D100, 24), (0x1D127, 163), (0x1D129, 24), (0x1D167, 57), (0x1D16A, 24),
  (0x1D17B, 57), (0x1D183, 24), (0x1D185, 57), (0x1D18C, 24), (0x1D1AA, 57), (0x1D1AE, 24),
  (0x1D1EB, 163), (0x1D200, 44), (0x1D246, 163), (0x1D2C0, 24), (0x1D2D4, 163), (0x1D2E0, 24),
  (0x1D2F4, 163), (0x1D300, 24), (0x1D357, 163), (0x1D360, 24), (0x1D379, 163), (0x1D400, 24),
  (0x1D455, 163), (0x1D456, 24), (0x1D49D, 163), (0x1D49E, 24), (0x1D4A0, 163), (0x1D4A2, 24),
  (0x1D4A3, 163), (0x1D4A5, 24), (0x1D4A7, 163), (0x1D4A9, 24), (0x1D4AD, 163), (0x1D4AE, 24),
  (0x1D4BA, 163), (0x1D4BB, 24), (0x1D4BC, 163), (0x1D4BD, 24), (0x1D4C4, 163), (0x1D4C5, 24),
  (0x1D506, 163), (0x1D507, 24), (0x1D50B, 163), (0x1D50D, 24), (0x1D515, 163), (0x1D516, 24),
  (0x1D51D, 163), (0x1D51E, 24), (0x1D53A, 163), (0x1D53B, 24), (0x1D53F, 163), (0x1D540, 24),
  (0x1D545, 163), (0x1D546, 24), (0x1D547, 163), (0x1D54A, 24), (0x1D551, 163), (0x1D552, 24),
  (0x1D6A6, 163), (0x1D6A8, 24), (0x1D7CC, 163), (0x1D7CE, 24), (0x1D800, 135), (0x1DA8C, 163),
  (0x1DA9B, 135), (0x1DAA0, 163), (0x1DAA1, 135), (0x1DAB0, 163), (0x1DF00, 73),
  (0x1DF1F, 163), (0x1DF25, 73), (0x1DF2B, 163), (0x1E000, 41), (0x1E007, 163), (0x1E008, 41),
  (0x1E019, 163), (0x1E01B, 41), (0x1E022, 163), (0x1E023, 41), (0x1E025, 163), (0x1E026, 41),
  (0x1E02B, 163), (0x1E030, 29), (0x1E06E, 163), (0x1E08F, 29), (0x1E090, 163)
]

/-- Part 4 of `scriptRuns`. -/
def scriptRunsPart4 : Array (Nat × Nat) := #[
  (0x1E100, 106), (0x1E12D, 163), (0x1E130, 106), (0x1E13E, 163), (0x1E140, 106),
  (0x1E14A, 163), (0x1E14E, 106), (0x1E150, 163), (0x1E290, 160), (0x1E2AF, 163),
  (0x1E2C0, 166), (0x1E2FA, 163), (0x1E2FF, 166), (0x1E300, 163), (0x1E4D0, 100),
  (0x1E4FA, 163), (0x1E5D0, 109), (0x1E5FB, 163), (0x1E5FF, 109), (0x1E600, 163),
  (0x1E7E0, 38), (0x1E7E7, 163), (0x1E7E8, 38), (0x1E7EC, 163), (0x1E7ED, 38), (0x1E7EF, 163),
  (0x1E7F0, 38), (0x1E7FF, 163), (0x1E800, 90), (0x1E8C5, 163), (0x1E8C7, 90), (0x1E8D7, 163),
  (0x1E900, 0), (0x1E94C, 163), (0x1E950, 0), (0x1E95A, 163), (0x1E95E, 0), (0x1E960, 163),
  (0x1EC71, 24), (0x1ECB5, 163), (0x1ED01, 24), (0x1ED3E, 163), (0x1EE00, 3), (0x1EE04, 163),
  (0x1EE05, 3), (0x1EE20, 163), (0x1EE21, 3), (0x1EE23, 163), (0x1EE24, 3), (0x1EE25, 163),
  (0x1EE27, 3), (0x1EE28, 163), (0x1EE29, 3), (0x1EE33, 163), (0x1EE34, 3), (0x1EE38, 163),
  (0x1EE39, 3), (0x1EE3A, 163), (0x1EE3B, 3), (0x1EE3C, 163), (0x1EE42, 3), (0x1EE43, 163),
  (0x1EE47, 3), (0x1EE48, 163), (0x1EE49, 3), (0x1EE4A, 163), (0x1EE4B, 3), (0x1EE4C, 163),
  (0x1EE4D, 3), (0x1EE50, 163), (0x1EE51, 3), (0x1EE53, 163), (0x1EE54, 3), (0x1EE55, 163),
  (0x1EE57, 3), (0x1EE58, 163), (0x1EE59, 3), (0x1EE5A, 163), (0x1EE5B, 3), (0x1EE5C, 163),
  (0x1EE5D, 3), (0x1EE5E, 163), (0x1EE5F, 3), (0x1EE60, 163), (0x1EE61, 3), (0x1EE63, 163),
  (0x1EE64, 3), (0x1EE65, 163), (0x1EE67, 3), (0x1EE6B, 163), (0x1EE6C, 3), (0x1EE73, 163),
  (0x1EE74, 3), (0x1EE78, 163), (0x1EE79, 3), (0x1EE7D, 163), (0x1EE7E, 3), (0x1EE7F, 163),
  (0x1EE80, 3), (0x1EE8A, 163), (0x1EE8B, 3), (0x1EE9C, 163), (0x1EEA1, 3), (0x1EEA4, 163),
  (0x1EEA5, 3), (0x1EEAA, 163), (0x1EEAB, 3), (0x1EEBC, 163), (0x1EEF0, 3), (0x1EEF2, 163),
  (0x1F000, 24), (0x1F02C, 163), (0x1F030, 24), (0x1F094, 163), (0x1F0A0, 24), (0x1F0AF, 163),
  (0x1F0B1, 24), (0x1F0C0, 163), (0x1F0C1, 24), (0x1F0D0, 163), (0x1F0D1, 24), (0x1F0F6, 163),
  (0x1F100, 24), (0x1F1AE, 163), (0x1F1E6, 24), (0x1F200, 55), (0x1F201, 24), (0x1F203, 163),
  (0x1F210, 24), (0x1F23C, 163), (0x1F240, 24), (0x1F249, 163), (0x1F250, 24), (0x1F252, 163),
  (0x1F260, 24), (0x1F266, 163), (0x1F300, 24), (0x1F6D8, 163), (0x1F6DC, 24), (0x1F6ED, 163),
  (0x1F6F0, 24), (0x1F6FD, 163), (0x1F700, 24), (0x1F777, 163), (0x1F77B, 24), (0x1F7DA, 163),
  (0x1F7E0, 24), (0x1F7EC, 163), (0x1F7F0, 24), (0x1F7F1, 163), (0x1F800, 24), (0x1F80C, 163),
  (0x1F810, 24), (0x1F848, 163), (0x1F850, 24), (0x1F85A, 163), (0x1F860, 24), (0x1F888, 163),
  (0x1F890, 24), (0x1F8AE, 163), (0x1F8B0, 24), (0x1F8BC, 163), (0x1F8C0, 24), (0x1F8C2, 163),
  (0x1F900, 24), (0x1FA54, 163), (0x1FA60, 24), (0x1FA6E, 163), (0x1FA70, 24), (0x1FA7D, 163),
  (0x1FA80, 24), (0x1FA8A, 163), (0x1FA8F, 24), (0x1FAC7, 163), (0x1FACE, 24), (0x1FADD, 163),
  (0x1FADF, 24), (0x1FAEA, 163), (0x1FAF0, 24), (0x1FAF9, 163), (0x1FB00, 24), (0x1FB93, 163),
  (0x1FB94, 24), (0x1FBFA, 163), (0x20000, 49), (0x2A6E0, 163), (0x2A700, 49), (0x2B73A, 163),
  (0x2B740, 49), (0x2B81E, 163), (0x2B820, 49), (0x2CEA2, 163), (0x2CEB0, 49), (0x2EBE1, 163),
  (0x2EBF0, 49), (0x2EE5E, 163), (0x2F800, 49), (0x2FA1E, 163), (0x30000, 49), (0x3134B, 163),
  (0x31350, 49), (0x323B0, 163), (0xE0001, 24), (0xE0002, 163), (0xE0020, 24), (0xE0080, 163),
  (0xE0100, 57), (0xE01F0, 163)
]

/-- Where each run of one script begins, with the script's number. The table is split into parts of at most 500 entries so that each
definition stays small. -/
def scriptRuns : Array (Nat × Nat) :=
  scriptRunsPart1 ++ scriptRunsPart2 ++ scriptRunsPart3 ++ scriptRunsPart4


/-- The number of the script of a code point. -/
def scriptOf (n : Nat) : Nat := runValue scriptRuns n

/-- The number of the script a loose name names. -/
def scriptNamed? (name : String) : Option Nat :=
  scriptNames.findIdx? (·.contains name)

/-- Part 1 of `scriptExtensionRuns`. -/
def scriptExtensionRunsPart1 : Array (Nat × List Nat) := #[
  (0x0, [24]), (0x41, [73]), (0x5B, [24]), (0x61, [73]), (0x7B, [24]), (0xAA, [73]),
  (0xAB, [24]), (0xB7, [5, 18, 25, 34, 36, 40, 41, 42, 44, 46, 49, 73, 80, 81, 113, 133]),
  (0xB8, [24]), (0xBA, [73]), (0xBB, [24]), (0xC0, [73]), (0xD7, [24]), (0xD8, [73]),
  (0xF7, [24]), (0xF8, [73]), (0x2B9, [24]), (0x2BC, [10, 29, 31, 73, 78, 155, 160]),
  (0x2BD, [24]), (0x2C7, [12, 73]), (0x2C8, [24]), (0x2C9, [12, 73]), (0x2CC, [24]),
  (0x2CD, [73, 78]), (0x2CE, [24]), (0x2D7, [73, 155]), (0x2D8, [24]), (0x2D9, [12, 73]),
  (0x2DA, [24]), (0x2E0, [73]), (0x2E5, [24]), (0x2EA, [12]), (0x2EC, [24]),
  (0x300, [22, 25, 29, 44, 73, 113, 141, 146]), (0x301, [22, 29, 44, 73, 120, 141, 146, 159]),
  (0x302, [22, 29, 73, 157]), (0x303, [41, 73, 141, 143, 155]),
  (0x304, [19, 22, 25, 29, 42, 44, 73, 120, 143, 157, 159]), (0x305, [25, 36, 41, 42, 63, 73]),
  (0x306, [29, 44, 73, 113, 157]), (0x307, [25, 34, 54, 73, 113, 143, 146, 157, 159]),
  (0x308, [4, 29, 34, 42, 44, 54, 73, 113, 143, 146, 157]), (0x309, [73, 157]),
  (0x30A, [34, 73, 143]), (0x30B, [22, 29, 73, 120]), (0x30C, [22, 73, 146]),
  (0x30D, [73, 141]), (0x30E, [38, 73]), (0x30F, [57]), (0x310, [73, 141]),
  (0x311, [29, 73, 159]), (0x312, [57]), (0x313, [44, 73, 113, 159]), (0x314, [57]),
  (0x323, [22, 34, 63, 73, 143, 157]), (0x324, [22, 34, 73, 143]), (0x325, [73, 143]),
  (0x326, [57]), (0x32D, [73, 141, 143]), (0x32E, [73, 143]), (0x32F, [57]),
  (0x330, [22, 73, 143]), (0x331, [19, 22, 42, 73, 141, 143, 155]), (0x332, [57]),
  (0x342, [44]), (0x343, [57]), (0x345, [44]), (0x346, [57]), (0x358, [73, 120]),
  (0x359, [57]), (0x35E, [19, 73, 159]), (0x35F, [57]), (0x363, [73]), (0x370, [44]),
  (0x374, [25, 44]), (0x376, [44]), (0x378, [163]), (0x37A, [44]), (0x37E, [24]),
  (0x37F, [44]), (0x380, [163]), (0x384, [44]), (0x385, [24]), (0x386, [44]), (0x387, [24]),
  (0x388, [44]), (0x38B, [163]), (0x38C, [44]), (0x38D, [163]), (0x38E, [44]), (0x3A2, [163]),
  (0x3A3, [44]), (0x3E2, [25]), (0x3F0, [44]), (0x400, [29]), (0x483, [29, 113]),
  (0x484, [29, 41]), (0x485, [29, 73]), (0x487, [29, 41]), (0x488, [29]), (0x530, [163]),
  (0x531, [4]), (0x557, [163]), (0x559, [4]), (0x589, [4, 40, 41]), (0x58A, [4]),
  (0x58B, [163]), (0x58D, [4]), (0x590, [163]), (0x591, [54]), (0x5C8, [163]), (0x5D0, [54]),
  (0x5EB, [163]), (0x5EF, [54]), (0x5F5, [163]), (0x600, [3]), (0x605, [24]), (0x606, [3]),
  (0x60C, [3, 39, 51, 104, 143, 154, 168]), (0x60D, [3]),
  (0x61B, [3, 39, 51, 104, 143, 154, 168]), (0x61C, [3, 143, 154]), (0x61D, [3]),
  (0x61F, [0, 3, 39, 51, 104, 143, 154, 168]), (0x620, [3]),
  (0x640, [0, 3, 51, 84, 85, 118, 127, 137, 143]), (0x641, [3]), (0x64B, [3, 143]),
  (0x656, [3]), (0x660, [3, 154, 168]), (0x66A, [3]), (0x670, [3, 143]), (0x671, [3]),
  (0x6D4, [3, 51]), (0x6D5, [3]), (0x6DD, [24]), (0x6DE, [3]), (0x700, [143]), (0x70E, [163]),
  (0x70F, [143]), (0x74B, [163]), (0x74D, [143]), (0x750, [3]), (0x780, [154]), (0x7B2, [163]),
  (0x7C0, [104]), (0x7FB, [163]), (0x7FD, [104]), (0x800, [130]), (0x82E, [163]),
  (0x830, [130]), (0x83F, [163]), (0x840, [84]), (0x85C, [163]), (0x85E, [84]), (0x85F, [163]),
  (0x860, [143]), (0x86B, [163]), (0x870, [3]), (0x88F, [163]), (0x890, [3]), (0x892, [163]),
  (0x897, [3]), (0x8E2, [24]), (0x8E3, [3]), (0x900, [31]),
  (0x951, [10, 31, 43, 45, 47, 62, 73, 83, 101, 103, 119, 132, 150, 153, 158]),
  (0x952, [10, 31, 43, 45, 47, 62, 73, 83, 103, 119, 150, 153, 158]), (0x953, [57]),
  (0x955, [31]),
  (0x964, [10, 31, 33, 43, 45, 46, 47, 62, 70, 81, 83, 87, 101, 109, 119, 136, 142, 149, 150, 153, 158]),
  (0x965, [10, 31, 33, 43, 45, 46, 47, 48, 62, 70, 75, 81, 83, 87, 101, 109, 119, 136, 142, 149, 150, 153, 158]),
  (0x966, [31, 33, 61, 81]), (0x970, [31]), (0x980, [10]), (0x984, [163]), (0x985, [10]),
  (0x98D, [163]), (0x98F, [10]), (0x991, [163]), (0x993, [10]), (0x9A9, [163]), (0x9AA, [10]),
  (0x9B1, [163]), (0x9B2, [10]), (0x9B3, [163]), (0x9B6, [10]), (0x9BA, [163]), (0x9BC, [10]),
  (0x9C5, [163]), (0x9C7, [10]), (0x9C9, [163]), (0x9CB, [10]), (0x9CF, [163]), (0x9D7, [10]),
  (0x9D8, [163]), (0x9DC, [10]), (0x9DE, [163]), (0x9DF, [10]), (0x9E4, [163]),
  (0x9E6, [10, 20, 142]), (0x9F0, [10]), (0x9FF, [163]), (0xA01, [47]), (0xA04, [163]),
  (0xA05, [47]), (0xA0B, [163]), (0xA0F, [47]), (0xA11, [163]), (0xA13, [47]), (0xA29, [163]),
  (0xA2A, [47]), (0xA31, [163]), (0xA32, [47]), (0xA34, [163]), (0xA35, [47]), (0xA37, [163]),
  (0xA38, [47]), (0xA3A, [163]), (0xA3C, [47]), (0xA3D, [163]), (0xA3E, [47]), (0xA43, [163]),
  (0xA47, [47]), (0xA49, [163]), (0xA4B, [47]), (0xA4E, [163]), (0xA51, [47]), (0xA52, [163]),
  (0xA59, [47]), (0xA5D, [163]), (0xA5E, [47]), (0xA5F, [163]), (0xA66, [47, 97]),
  (0xA70, [47]), (0xA77, [163]), (0xA81, [45]), (0xA84, [163]), (0xA85, [45]), (0xA8E, [163]),
  (0xA8F, [45]), (0xA92, [163]), (0xA93, [45]), (0xAA9, [163]), (0xAAA, [45]), (0xAB1, [163]),
  (0xAB2, [45]), (0xAB4, [163]), (0xAB5, [45]), (0xABA, [163]), (0xABC, [45]), (0xAC6, [163]),
  (0xAC7, [45]), (0xACA, [163]), (0xACB, [45]), (0xACE, [163]), (0xAD0, [45]), (0xAD1, [163]),
  (0xAE0, [45]), (0xAE4, [163]), (0xAE6, [45, 69]), (0xAF0, [45]), (0xAF2, [163]),
  (0xAF9, [45]), (0xB00, [163]), (0xB01, [119]), (0xB04, [163]), (0xB05, [119]),
  (0xB0D, [163]), (0xB0F, [119]), (0xB11, [163]), (0xB13, [119]), (0xB29, [163]),
  (0xB2A, [119]), (0xB31, [163]), (0xB32, [119]), (0xB34, [163]), (0xB35, [119]),
  (0xB3A, [163]), (0xB3C, [119]), (0xB45, [163]), (0xB47, [119]), (0xB49, [163]),
  (0xB4B, [119]), (0xB4E, [163]), (0xB55, [119]), (0xB58, [163]), (0xB5C, [119]),
  (0xB5E, [163]), (0xB5F, [119]), (0xB64, [163]), (0xB66, [119]), (0xB78, [163]),
  (0xB82, [150]), (0xB84, [163]), (0xB85, [150]), (0xB8B, [163]), (0xB8E, [150]),
  (0xB91, [163]), (0xB92, [150]), (0xB96, [163]), (0xB99, [150]), (0xB9B, [163]),
  (0xB9C, [150]), (0xB9D, [163]), (0xB9E, [150]), (0xBA0, [163]), (0xBA3, [150]),
  (0xBA5, [163]), (0xBA8, [150]), (0xBAB, [163]), (0xBAE, [150]), (0xBBA, [163]),
  (0xBBE, [150]), (0xBC3, [163]), (0xBC6, [150]), (0xBC9, [163]), (0xBCA, [150]),
  (0xBCE, [163]), (0xBD0, [150]), (0xBD1, [163]), (0xBD7, [150]), (0xBD8, [163]),
  (0xBE6, [43, 150]), (0xBF4, [150]), (0xBFB, [163]), (0xC00, [153]), (0xC0D, [163]),
  (0xC0E, [153]), (0xC11, [163]), (0xC12, [153]), (0xC29, [163]), (0xC2A, [153]),
  (0xC3A, [163]), (0xC3C, [153]), (0xC45, [163]), (0xC46, [153]), (0xC49, [163]),
  (0xC4A, [153]), (0xC4E, [163]), (0xC55, [153]), (0xC57, [163]), (0xC58, [153]),
  (0xC5B, [163]), (0xC5D, [153]), (0xC5E, [163]), (0xC60, [153]), (0xC64, [163]),
  (0xC66, [153]), (0xC70, [163]), (0xC77, [153]), (0xC80, [62]), (0xC8D, [163]), (0xC8E, [62]),
  (0xC91, [163]), (0xC92, [62]), (0xCA9, [163]), (0xCAA, [62]), (0xCB4, [163]), (0xCB5, [62]),
  (0xCBA, [163]), (0xCBC, [62]), (0xCC5, [163]), (0xCC6, [62]), (0xCC9, [163]), (0xCCA, [62]),
  (0xCCE, [163]), (0xCD5, [62]), (0xCD7, [163]), (0xCDD, [62]), (0xCDF, [163]), (0xCE0, [62]),
  (0xCE4, [163]), (0xCE6, [62, 101, 161]), (0xCF0, [163]), (0xCF1, [62]), (0xCF4, [163]),
  (0xD00, [83]), (0xD0D, [163]), (0xD0E, [83]), (0xD11, [163]), (0xD12, [83]), (0xD45, [163]),
  (0xD46, [83]), (0xD49, [163]), (0xD4A, [83]), (0xD50, [163]), (0xD54, [83]), (0xD64, [163]),
  (0xD66, [83]), (0xD80, [163]), (0xD81, [136]), (0xD84, [163]), (0xD85, [136]),
  (0xD97, [163]), (0xD9A, [136]), (0xDB2, [163]), (0xDB3, [136]), (0xDBC, [163]),
  (0xDBD, [136]), (0xDBE, [163]), (0xDC0, [136]), (0xDC7, [163]), (0xDCA, [136]),
  (0xDCB, [163]), (0xDCF, [136]), (0xDD5, [163]), (0xDD6, [136]), (0xDD7, [163]),
  (0xDD8, [136]), (0xDE0, [163]), (0xDE6, [136]), (0xDF0, [163]), (0xDF2, [136]),
  (0xDF5, [163]), (0xE01, [155]), (0xE3B, [163]), (0xE3F, [24]), (0xE40, [155]),
  (0xE5C, [163]), (0xE81, [72]), (0xE83, [163]), (0xE84, [72]), (0xE85, [163]), (0xE86, [72]),
  (0xE8B, [163]), (0xE8C, [72]), (0xEA4, [163]), (0xEA5, [72]), (0xEA6, [163]), (0xEA7, [72]),
  (0xEBE, [163]), (0xEC0, [72]), (0xEC5, [163]), (0xEC6, [72]), (0xEC7, [163]), (0xEC8, [72]),
  (0xECF, [163]), (0xED0, [72]), (0xEDA, [163]), (0xEDC, [72]), (0xEE0, [163]), (0xF00, [156]),
  (0xF48, [163]), (0xF49, [156]), (0xF6D, [163]), (0xF71, [156]), (0xF98, [163]),
  (0xF99, [156]), (0xFBD, [163]), (0xFBE, [156]), (0xFCD, [163]), (0xFCE, [156]),
  (0xFD5, [24]), (0xFD9, [156]), (0xFDB, [163]), (0x1000, [98]), (0x1040, [20, 98, 146]),
  (0x104A, [98]), (0x10A0, [40]), (0x10C6, [163]), (0x10C7, [40]), (0x10C8, [163]),
  (0x10CD, [40]), (0x10CE, [163]), (0x10D0, [40]), (0x10FB, [40, 41, 73]), (0x10FC, [40]),
  (0x1100, [50]), (0x1200, [38]), (0x1249, [163]), (0x124A, [38]), (0x124E, [163]),
  (0x1250, [38]), (0x1257, [163]), (0x1258, [38]), (0x1259, [163]), (0x125A, [38]),
  (0x125E, [163]), (0x1260, [38]), (0x1289, [163]), (0x128A, [38]), (0x128E, [163]),
  (0x1290, [38]), (0x12B1, [163]), (0x12B2, [38]), (0x12B6, [163]), (0x12B8, [38]),
  (0x12BF, [163]), (0x12C0, [38]), (0x12C1, [163]), (0x12C2, [38]), (0x12C6, [163]),
  (0x12C8, [38]), (0x12D7, [163]), (0x12D8, [38]), (0x1311, [163]), (0x1312, [38]),
  (0x1316, [163]), (0x1318, [38])
]

/-- Part 2 of `scriptExtensionRuns`. -/
def scriptExtensionRunsPart2 : Array (Nat × List Nat) := #[
  (0x135B, [163]), (0x135D, [38]), (0x137D, [163]), (0x1380, [38]), (0x139A, [163]),
  (0x13A0, [22]), (0x13F6, [163]), (0x13F8, [22]), (0x13FE, [163]), (0x1400, [17]),
  (0x1680, [107]), (0x169D, [163]), (0x16A0, [129]), (0x16F9, [163]), (0x1700, [144]),
  (0x1716, [163]), (0x171F, [144]), (0x1720, [52]), (0x1735, [16, 52, 144, 145]),
  (0x1737, [163]), (0x1740, [16]), (0x1754, [163]), (0x1760, [145]), (0x176D, [163]),
  (0x176E, [145]), (0x1771, [163]), (0x1772, [145]), (0x1774, [163]), (0x1780, [68]),
  (0x17DE, [163]), (0x17E0, [68]), (0x17EA, [163]), (0x17F0, [68]), (0x17FA, [163]),
  (0x1800, [95]), (0x1802, [95, 125]), (0x1804, [95]), (0x1805, [95, 125]), (0x1806, [95]),
  (0x181A, [163]), (0x1820, [95]), (0x1879, [163]), (0x1880, [95]), (0x18AB, [163]),
  (0x18B0, [17]), (0x18F6, [163]), (0x1900, [75]), (0x191F, [163]), (0x1920, [75]),
  (0x192C, [163]), (0x1930, [75]), (0x193C, [163]), (0x1940, [75]), (0x1941, [163]),
  (0x1944, [75]), (0x1950, [146]), (0x196E, [163]), (0x1970, [146]), (0x1975, [163]),
  (0x1980, [102]), (0x19AC, [163]), (0x19B0, [102]), (0x19CA, [163]), (0x19D0, [102]),
  (0x19DB, [163]), (0x19DE, [102]), (0x19E0, [68]), (0x1A00, [15]), (0x1A1C, [163]),
  (0x1A1E, [15]), (0x1A20, [147]), (0x1A5F, [163]), (0x1A60, [147]), (0x1A7D, [163]),
  (0x1A7F, [147]), (0x1A8A, [163]), (0x1A90, [147]), (0x1A9A, [163]), (0x1AA0, [147]),
  (0x1AAE, [163]), (0x1AB0, [57]), (0x1ACF, [163]), (0x1B00, [6]), (0x1B4D, [163]),
  (0x1B4E, [6]), (0x1B80, [140]), (0x1BC0, [9]), (0x1BF4, [163]), (0x1BFC, [9]),
  (0x1C00, [74]), (0x1C38, [163]), (0x1C3B, [74]), (0x1C4A, [163]), (0x1C4D, [74]),
  (0x1C50, [108]), (0x1C80, [29]), (0x1C8B, [163]), (0x1C90, [40]), (0x1CBB, [163]),
  (0x1CBD, [40]), (0x1CC0, [140]), (0x1CC8, [163]), (0x1CD0, [10, 31, 43, 62]), (0x1CD1, [31]),
  (0x1CD2, [10, 31, 43, 62]), (0x1CD3, [31, 43, 62]), (0x1CD4, [31]),
  (0x1CD5, [10, 31, 103, 153, 158]), (0x1CD6, [10, 31, 153]), (0x1CD7, [31, 103, 132]),
  (0x1CD8, [10, 31, 103, 153]), (0x1CD9, [31, 132]), (0x1CDA, [31, 62, 83, 119, 150, 153]),
  (0x1CDB, [31]), (0x1CDC, [31, 132]), (0x1CDE, [31]), (0x1CE0, [31, 132]), (0x1CE1, [10, 31]),
  (0x1CE2, [31, 103, 158]), (0x1CE3, [31]), (0x1CE9, [31, 101, 103]), (0x1CEA, [10, 31, 132]),
  (0x1CEB, [31, 103]), (0x1CEC, [31]), (0x1CED, [10, 31, 103, 132]), (0x1CEE, [31]),
  (0x1CF2, [10, 31, 43, 62, 83, 101, 119, 136, 153, 158, 161]), (0x1CF3, [31, 43]),
  (0x1CF4, [31, 43, 62, 161]), (0x1CF5, [10, 31]), (0x1CF7, [10]), (0x1CF8, [31, 43]),
  (0x1CFA, [101]), (0x1CFB, [163]), (0x1D00, [73]), (0x1D26, [44]), (0x1D2B, [29]),
  (0x1D2C, [73]), (0x1D5D, [44]), (0x1D62, [73]), (0x1D66, [44]), (0x1D6B, [73]),
  (0x1D78, [29]), (0x1D79, [73]), (0x1DBF, [44]), (0x1DC2, [57]), (0x1DF8, [29, 73, 143]),
  (0x1DF9, [57]), (0x1DFA, [143]), (0x1DFB, [57]), (0x1E00, [73]), (0x1F00, [44]),
  (0x1F16, [163]), (0x1F18, [44]), (0x1F1E, [163]), (0x1F20, [44]), (0x1F46, [163]),
  (0x1F48, [44]), (0x1F4E, [163]), (0x1F50, [44]), (0x1F58, [163]), (0x1F59, [44]),
  (0x1F5A, [163]), (0x1F5B, [44]), (0x1F5C, [163]), (0x1F5D, [44]), (0x1F5E, [163]),
  (0x1F5F, [44]), (0x1F7E, [163]), (0x1F80, [44]), (0x1FB5, [163]), (0x1FB6, [44]),
  (0x1FC5, [163]), (0x1FC6, [44]), (0x1FD4, [163]), (0x1FD6, [44]), (0x1FDC, [163]),
  (0x1FDD, [44]), (0x1FF0, [163]), (0x1FF2, [44]), (0x1FF5, [163]), (0x1FF6, [44]),
  (0x1FFF, [163]), (0x2000, [24]), (0x200C, [57]), (0x200E, [24]), (0x202F, [73, 95, 125]),
  (0x2030, [24]), (0x204F, [0, 3]), (0x2050, [24]), (0x205A, [18, 40, 41, 79, 110, 117]),
  (0x205B, [24]), (0x205D, [18, 44, 92, 110]), (0x205E, [24]), (0x2065, [163]), (0x2066, [24]),
  (0x2071, [73]), (0x2072, [163]), (0x2074, [24]), (0x207F, [73]), (0x2080, [24]),
  (0x208F, [163]), (0x2090, [73]), (0x209D, [163]), (0x20A0, [24]), (0x20C1, [163]),
  (0x20D0, [57]), (0x20F0, [31, 43, 73]), (0x20F1, [163]), (0x2100, [24]), (0x2126, [44]),
  (0x2127, [24]), (0x212A, [73]), (0x212C, [24]), (0x2132, [73]), (0x2133, [24]),
  (0x214E, [73]), (0x214F, [24]), (0x2160, [73]), (0x2189, [24]), (0x218C, [163]),
  (0x2190, [24]), (0x242A, [163]), (0x2440, [24]), (0x244B, [163]), (0x2460, [24]),
  (0x2800, [14]), (0x2900, [24]), (0x2B74, [163]), (0x2B76, [24]), (0x2B96, [163]),
  (0x2B97, [24]), (0x2C00, [41]), (0x2C60, [73]), (0x2C80, [25]), (0x2CF4, [163]),
  (0x2CF9, [25]), (0x2D00, [40]), (0x2D26, [163]), (0x2D27, [40]), (0x2D28, [163]),
  (0x2D2D, [40]), (0x2D2E, [163]), (0x2D30, [157]), (0x2D68, [163]), (0x2D6F, [157]),
  (0x2D71, [163]), (0x2D7F, [157]), (0x2D80, [38]), (0x2D97, [163]), (0x2DA0, [38]),
  (0x2DA7, [163]), (0x2DA8, [38]), (0x2DAF, [163]), (0x2DB0, [38]), (0x2DB7, [163]),
  (0x2DB8, [38]), (0x2DBF, [163]), (0x2DC0, [38]), (0x2DC7, [163]), (0x2DC8, [38]),
  (0x2DCF, [163]), (0x2DD0, [38]), (0x2DD7, [163]), (0x2DD8, [38]), (0x2DDF, [163]),
  (0x2DE0, [29]), (0x2E00, [24]), (0x2E17, [25, 73]), (0x2E18, [24]), (0x2E30, [5, 117]),
  (0x2E31, [5, 18, 40, 61, 80, 110, 130]), (0x2E32, [24]), (0x2E3C, [34]), (0x2E3D, [24]),
  (0x2E41, [0, 3, 110]), (0x2E42, [24]), (0x2E43, [29, 41]), (0x2E44, [24]), (0x2E5E, [163]),
  (0x2E80, [49]), (0x2E9A, [163]), (0x2E9B, [49]), (0x2EF4, [163]), (0x2F00, [49]),
  (0x2FD6, [163]), (0x2FF0, [49, 152]), (0x3000, [24]),
  (0x3001, [12, 49, 50, 55, 63, 95, 169]), (0x3002, [12, 49, 50, 55, 63, 95, 125, 169]),
  (0x3003, [12, 49, 50, 55, 63]), (0x3004, [24]), (0x3005, [49]),
  (0x3008, [12, 49, 50, 55, 63, 95, 156, 169]),
  (0x300A, [12, 49, 50, 55, 63, 78, 95, 156, 169]), (0x300C, [12, 49, 50, 55, 63, 169]),
  (0x3012, [24]), (0x3013, [12, 49, 50, 55, 63]), (0x3014, [12, 49, 50, 55, 63, 169]),
  (0x301C, [12, 49, 50, 55, 63]), (0x3020, [24]), (0x3021, [49]), (0x302A, [12, 49]),
  (0x302E, [50]), (0x3030, [12, 49, 50, 55, 63]), (0x3031, [55, 63]), (0x3036, [24]),
  (0x3037, [12, 49, 50, 55, 63]), (0x3038, [49]), (0x303C, [49, 55, 63]), (0x303E, [49]),
  (0x3040, [163]), (0x3041, [55]), (0x3097, [163]), (0x3099, [55, 63]), (0x309D, [55]),
  (0x30A0, [55, 63]), (0x30A1, [63]), (0x30FB, [12, 49, 50, 55, 63, 169]), (0x30FC, [55, 63]),
  (0x30FD, [63]), (0x3100, [163]), (0x3105, [12]), (0x3130, [163]), (0x3131, [50]),
  (0x318F, [163]), (0x3190, [49]), (0x31A0, [12]), (0x31C0, [49]), (0x31E6, [163]),
  (0x31EF, [49, 152]), (0x31F0, [63]), (0x3200, [50]), (0x321F, [163]), (0x3220, [49]),
  (0x3248, [24]), (0x3260, [50]), (0x327F, [24]), (0x3280, [49]), (0x32B1, [24]),
  (0x32C0, [49]), (0x32CC, [24]), (0x32D0, [63]), (0x32FF, [49]), (0x3300, [63]),
  (0x3358, [49]), (0x3371, [24]), (0x337B, [49]), (0x3380, [24]), (0x33E0, [49]),
  (0x33FF, [24]), (0x3400, [49]), (0x4DC0, [24]), (0x4E00, [49]), (0xA000, [169]),
  (0xA48D, [163]), (0xA490, [169]), (0xA4C7, [163]), (0xA4D0, [78]), (0xA500, [164]),
  (0xA62C, [163]), (0xA640, [29]), (0xA66F, [29, 41]), (0xA670, [29]), (0xA6A0, [7]),
  (0xA6F8, [163]), (0xA700, [49, 73]), (0xA708, [24]), (0xA722, [73]), (0xA788, [24]),
  (0xA78B, [73]), (0xA7CE, [163]), (0xA7D0, [73]), (0xA7D2, [163]), (0xA7D3, [73]),
  (0xA7D4, [163]), (0xA7D5, [73]), (0xA7DD, [163]), (0xA7F2, [73]), (0xA800, [142]),
  (0xA82D, [163]),
  (0xA830, [31, 33, 45, 47, 61, 62, 69, 70, 81, 83, 94, 101, 132, 149, 158, 161]),
  (0xA833, [31, 33, 45, 47, 61, 62, 69, 70, 81, 94, 101, 132, 149, 158, 161]),
  (0xA836, [31, 33, 45, 47, 61, 69, 70, 81, 94, 149, 158]),
  (0xA838, [31, 33, 45, 47, 61, 69, 70, 81, 94, 132, 149, 158]),
  (0xA839, [31, 33, 45, 47, 61, 69, 70, 81, 94, 149, 158]), (0xA83A, [163]), (0xA840, [125]),
  (0xA878, [163]), (0xA880, [131]), (0xA8C6, [163]), (0xA8CE, [131]), (0xA8DA, [163]),
  (0xA8E0, [31]), (0xA8F1, [10, 31, 161]), (0xA8F2, [31]), (0xA8F3, [31, 150]), (0xA8F4, [31]),
  (0xA900, [65]), (0xA92E, [65, 73, 98]), (0xA92F, [65]), (0xA930, [128]), (0xA954, [163]),
  (0xA95F, [128]), (0xA960, [50]), (0xA97D, [163]), (0xA980, [60]), (0xA9CE, [163]),
  (0xA9CF, [15, 60]), (0xA9D0, [60]), (0xA9DA, [163]), (0xA9DE, [60]), (0xA9E0, [98]),
  (0xA9FF, [163]), (0xAA00, [21]), (0xAA37, [163]), (0xAA40, [21]), (0xAA4E, [163]),
  (0xAA50, [21]), (0xAA5A, [163]), (0xAA5C, [21]), (0xAA60, [98]), (0xAA80, [148]),
  (0xAAC3, [163]), (0xAADB, [148]), (0xAAE0, [89]), (0xAAF7, [163]), (0xAB01, [38]),
  (0xAB07, [163]), (0xAB09, [38]), (0xAB0F, [163]), (0xAB11, [38]), (0xAB17, [163]),
  (0xAB20, [38]), (0xAB27, [163]), (0xAB28, [38]), (0xAB2F, [163]), (0xAB30, [73]),
  (0xAB5B, [24]), (0xAB5C, [73]), (0xAB65, [44]), (0xAB66, [73]), (0xAB6A, [24]),
  (0xAB6C, [163]), (0xAB70, [22]), (0xABC0, [89]), (0xABEE, [163]), (0xABF0, [89]),
  (0xABFA, [163]), (0xAC00, [50]), (0xD7A4, [163]), (0xD7B0, [50]), (0xD7C7, [163]),
  (0xD7CB, [50]), (0xD7FC, [163]), (0xF900, [49]), (0xFA6E, [163]), (0xFA70, [49]),
  (0xFADA, [163]), (0xFB00, [73]), (0xFB07, [163]), (0xFB13, [4]), (0xFB18, [163]),
  (0xFB1D, [54]), (0xFB37, [163]), (0xFB38, [54]), (0xFB3D, [163]), (0xFB3E, [54]),
  (0xFB3F, [163]), (0xFB40, [54]), (0xFB42, [163]), (0xFB43, [54]), (0xFB45, [163]),
  (0xFB46, [54]), (0xFB50, [3]), (0xFBC3, [163]), (0xFBD3, [3]), (0xFD3E, [3, 104]),
  (0xFD40, [3]), (0xFD90, [163]), (0xFD92, [3]), (0xFDC8, [163]), (0xFDCF, [3]),
  (0xFDD0, [163]), (0xFDF0, [3]), (0xFDF2, [3, 154]), (0xFDF3, [3]), (0xFDFD, [3, 154]),
  (0xFDFE, [3]), (0xFE00, [57]), (0xFE10, [24]), (0xFE1A, [163]), (0xFE20, [57]),
  (0xFE2E, [29]), (0xFE30, [24]), (0xFE45, [12, 49, 50, 55, 63]), (0xFE47, [24]),
  (0xFE53, [163]), (0xFE54, [24]), (0xFE67, [163])
]

/-- Part 3 of `scriptExtensionRuns`. -/
def scriptExtensionRunsPart3 : Array (Nat × List Nat) := #[
  (0xFE68, [24]), (0xFE6C, [163]), (0xFE70, [3]), (0xFE75, [163]), (0xFE76, [3]),
  (0xFEFD, [163]), (0xFEFF, [24]), (0xFF00, [163]), (0xFF01, [24]), (0xFF21, [73]),
  (0xFF3B, [24]), (0xFF41, [73]), (0xFF5B, [24]), (0xFF61, [12, 49, 50, 55, 63, 169]),
  (0xFF66, [63]), (0xFF70, [55, 63]), (0xFF71, [63]), (0xFF9E, [55, 63]), (0xFFA0, [50]),
  (0xFFBF, [163]), (0xFFC2, [50]), (0xFFC8, [163]), (0xFFCA, [50]), (0xFFD0, [163]),
  (0xFFD2, [50]), (0xFFD8, [163]), (0xFFDA, [50]), (0xFFDD, [163]), (0xFFE0, [24]),
  (0xFFE7, [163]), (0xFFE8, [24]), (0xFFEF, [163]), (0xFFF9, [24]), (0xFFFE, [163]),
  (0x10000, [77]), (0x1000C, [163]), (0x1000D, [77]), (0x10027, [163]), (0x10028, [77]),
  (0x1003B, [163]), (0x1003C, [77]), (0x1003E, [163]), (0x1003F, [77]), (0x1004E, [163]),
  (0x10050, [77]), (0x1005E, [163]), (0x10080, [77]), (0x100FB, [163]),
  (0x10100, [27, 28, 77]), (0x10102, [27, 77]), (0x10103, [163]), (0x10107, [27, 76, 77]),
  (0x10134, [163]), (0x10137, [27, 77]), (0x10140, [44]), (0x1018F, [163]), (0x10190, [24]),
  (0x1019D, [163]), (0x101A0, [44]), (0x101A1, [163]), (0x101D0, [24]), (0x101FD, [57]),
  (0x101FE, [163]), (0x10280, [79]), (0x1029D, [163]), (0x102A0, [18]), (0x102D1, [163]),
  (0x102E0, [3, 25]), (0x102FC, [163]), (0x10300, [111]), (0x10324, [163]), (0x1032D, [111]),
  (0x10330, [42]), (0x1034B, [163]), (0x10350, [113]), (0x1037B, [163]), (0x10380, [162]),
  (0x1039E, [163]), (0x1039F, [162]), (0x103A0, [114]), (0x103C4, [163]), (0x103C8, [114]),
  (0x103D6, [163]), (0x10400, [30]), (0x10450, [133]), (0x10480, [121]), (0x1049E, [163]),
  (0x104A0, [121]), (0x104AA, [163]), (0x104B0, [120]), (0x104D4, [163]), (0x104D8, [120]),
  (0x104FC, [163]), (0x10500, [36]), (0x10528, [163]), (0x10530, [19]), (0x10564, [163]),
  (0x1056F, [19]), (0x10570, [165]), (0x1057B, [163]), (0x1057C, [165]), (0x1058B, [163]),
  (0x1058C, [165]), (0x10593, [163]), (0x10594, [165]), (0x10596, [163]), (0x10597, [165]),
  (0x105A2, [163]), (0x105A3, [165]), (0x105B2, [163]), (0x105B3, [165]), (0x105BA, [163]),
  (0x105BB, [165]), (0x105BD, [163]), (0x105C0, [159]), (0x105F4, [163]), (0x10600, [76]),
  (0x10737, [163]), (0x10740, [76]), (0x10756, [163]), (0x10760, [76]), (0x10768, [163]),
  (0x10780, [73]), (0x10786, [163]), (0x10787, [73]), (0x107B1, [163]), (0x107B2, [73]),
  (0x107BB, [163]), (0x10800, [27]), (0x10806, [163]), (0x10808, [27]), (0x10809, [163]),
  (0x1080A, [27]), (0x10836, [163]), (0x10837, [27]), (0x10839, [163]), (0x1083C, [27]),
  (0x1083D, [163]), (0x1083F, [27]), (0x10840, [56]), (0x10856, [163]), (0x10857, [56]),
  (0x10860, [123]), (0x10880, [99]), (0x1089F, [163]), (0x108A7, [99]), (0x108B0, [163]),
  (0x108E0, [53]), (0x108F3, [163]), (0x108F4, [53]), (0x108F6, [163]), (0x108FB, [53]),
  (0x10900, [126]), (0x1091C, [163]), (0x1091F, [126]), (0x10920, [80]), (0x1093A, [163]),
  (0x1093F, [80]), (0x10940, [163]), (0x10980, [92]), (0x109A0, [91]), (0x109B8, [163]),
  (0x109BC, [91]), (0x109D0, [163]), (0x109D2, [91]), (0x10A00, [66]), (0x10A04, [163]),
  (0x10A05, [66]), (0x10A07, [163]), (0x10A0C, [66]), (0x10A14, [163]), (0x10A15, [66]),
  (0x10A18, [163]), (0x10A19, [66]), (0x10A36, [163]), (0x10A38, [66]), (0x10A3B, [163]),
  (0x10A3F, [66]), (0x10A49, [163]), (0x10A50, [66]), (0x10A59, [163]), (0x10A60, [116]),
  (0x10A80, [112]), (0x10AA0, [163]), (0x10AC0, [85]), (0x10AE7, [163]), (0x10AEB, [85]),
  (0x10AF2, [85, 118]), (0x10AF3, [85]), (0x10AF7, [163]), (0x10B00, [5]), (0x10B36, [163]),
  (0x10B39, [5]), (0x10B40, [59]), (0x10B56, [163]), (0x10B58, [59]), (0x10B60, [58]),
  (0x10B73, [163]), (0x10B78, [58]), (0x10B80, [127]), (0x10B92, [163]), (0x10B99, [127]),
  (0x10B9D, [163]), (0x10BA9, [127]), (0x10BB0, [163]), (0x10C00, [117]), (0x10C49, [163]),
  (0x10C80, [110]), (0x10CB3, [163]), (0x10CC0, [110]), (0x10CF3, [163]), (0x10CFA, [110]),
  (0x10D00, [51]), (0x10D28, [163]), (0x10D30, [51]), (0x10D3A, [163]), (0x10D40, [39]),
  (0x10D66, [163]), (0x10D69, [39]), (0x10D86, [163]), (0x10D8E, [39]), (0x10D90, [163]),
  (0x10E60, [3]), (0x10E7F, [163]), (0x10E80, [168]), (0x10EAA, [163]), (0x10EAB, [168]),
  (0x10EAE, [163]), (0x10EB0, [168]), (0x10EB2, [163]), (0x10EC2, [3]), (0x10EC5, [163]),
  (0x10EFC, [3]), (0x10F00, [115]), (0x10F28, [163]), (0x10F30, [137]), (0x10F5A, [163]),
  (0x10F70, [118]), (0x10F8A, [163]), (0x10FB0, [23]), (0x10FCC, [163]), (0x10FE0, [37]),
  (0x10FF7, [163]), (0x11000, [13]), (0x1104E, [163]), (0x11052, [13]), (0x11076, [163]),
  (0x1107F, [13]), (0x11080, [61]), (0x110C3, [163]), (0x110CD, [61]), (0x110CE, [163]),
  (0x110D0, [138]), (0x110E9, [163]), (0x110F0, [138]), (0x110FA, [163]), (0x11100, [20]),
  (0x11135, [163]), (0x11136, [20]), (0x11148, [163]), (0x11150, [81]), (0x11177, [163]),
  (0x11180, [132]), (0x111E0, [163]), (0x111E1, [136]), (0x111F5, [163]), (0x11200, [69]),
  (0x11212, [163]), (0x11213, [69]), (0x11242, [163]), (0x11280, [97]), (0x11287, [163]),
  (0x11288, [97]), (0x11289, [163]), (0x1128A, [97]), (0x1128E, [163]), (0x1128F, [97]),
  (0x1129E, [163]), (0x1129F, [97]), (0x112AA, [163]), (0x112B0, [70]), (0x112EB, [163]),
  (0x112F0, [70]), (0x112FA, [163]), (0x11300, [43]), (0x11301, [43, 150]), (0x11302, [43]),
  (0x11303, [43, 150]), (0x11304, [163]), (0x11305, [43]), (0x1130D, [163]), (0x1130F, [43]),
  (0x11311, [163]), (0x11313, [43]), (0x11329, [163]), (0x1132A, [43]), (0x11331, [163]),
  (0x11332, [43]), (0x11334, [163]), (0x11335, [43]), (0x1133A, [163]), (0x1133B, [43, 150]),
  (0x1133D, [43]), (0x11345, [163]), (0x11347, [43]), (0x11349, [163]), (0x1134B, [43]),
  (0x1134E, [163]), (0x11350, [43]), (0x11351, [163]), (0x11357, [43]), (0x11358, [163]),
  (0x1135D, [43]), (0x11364, [163]), (0x11366, [43]), (0x1136D, [163]), (0x11370, [43]),
  (0x11375, [163]), (0x11380, [161]), (0x1138A, [163]), (0x1138B, [161]), (0x1138C, [163]),
  (0x1138E, [161]), (0x1138F, [163]), (0x11390, [161]), (0x113B6, [163]), (0x113B7, [161]),
  (0x113C1, [163]), (0x113C2, [161]), (0x113C3, [163]), (0x113C5, [161]), (0x113C6, [163]),
  (0x113C7, [161]), (0x113CB, [163]), (0x113CC, [161]), (0x113D6, [163]), (0x113D7, [161]),
  (0x113D9, [163]), (0x113E1, [161]), (0x113E3, [163]), (0x11400, [103]), (0x1145C, [163]),
  (0x1145D, [103]), (0x11462, [163]), (0x11480, [158]), (0x114C8, [163]), (0x114D0, [158]),
  (0x114DA, [163]), (0x11580, [134]), (0x115B6, [163]), (0x115B8, [134]), (0x115DE, [163]),
  (0x11600, [94]), (0x11645, [163]), (0x11650, [94]), (0x1165A, [163]), (0x11660, [95]),
  (0x1166D, [163]), (0x11680, [149]), (0x116BA, [163]), (0x116C0, [149]), (0x116CA, [163]),
  (0x116D0, [98]), (0x116E4, [163]), (0x11700, [1]), (0x1171B, [163]), (0x1171D, [1]),
  (0x1172C, [163]), (0x11730, [1]), (0x11747, [163]), (0x11800, [33]), (0x1183C, [163]),
  (0x118A0, [167]), (0x118F3, [163]), (0x118FF, [167]), (0x11900, [32]), (0x11907, [163]),
  (0x11909, [32]), (0x1190A, [163]), (0x1190C, [32]), (0x11914, [163]), (0x11915, [32]),
  (0x11917, [163]), (0x11918, [32]), (0x11936, [163]), (0x11937, [32]), (0x11939, [163]),
  (0x1193B, [32]), (0x11947, [163]), (0x11950, [32]), (0x1195A, [163]), (0x119A0, [101]),
  (0x119A8, [163]), (0x119AA, [101]), (0x119D8, [163]), (0x119DA, [101]), (0x119E5, [163]),
  (0x11A00, [170]), (0x11A48, [163]), (0x11A50, [139]), (0x11AA3, [163]), (0x11AB0, [17]),
  (0x11AC0, [124]), (0x11AF9, [163]), (0x11B00, [31]), (0x11B0A, [163]), (0x11BC0, [141]),
  (0x11BE2, [163]), (0x11BF0, [141]), (0x11BFA, [163]), (0x11C00, [11]), (0x11C09, [163]),
  (0x11C0A, [11]), (0x11C37, [163]), (0x11C38, [11]), (0x11C46, [163]), (0x11C50, [11]),
  (0x11C6D, [163]), (0x11C70, [86]), (0x11C90, [163]), (0x11C92, [86]), (0x11CA8, [163]),
  (0x11CA9, [86]), (0x11CB7, [163]), (0x11D00, [87]), (0x11D07, [163]), (0x11D08, [87]),
  (0x11D0A, [163]), (0x11D0B, [87]), (0x11D37, [163]), (0x11D3A, [87]), (0x11D3B, [163]),
  (0x11D3C, [87]), (0x11D3E, [163]), (0x11D3F, [87]), (0x11D48, [163]), (0x11D50, [87]),
  (0x11D5A, [163]), (0x11D60, [46]), (0x11D66, [163]), (0x11D67, [46]), (0x11D69, [163]),
  (0x11D6A, [46]), (0x11D8F, [163]), (0x11D90, [46]), (0x11D92, [163]), (0x11D93, [46]),
  (0x11D99, [163]), (0x11DA0, [46]), (0x11DAA, [163]), (0x11EE0, [82]), (0x11EF9, [163]),
  (0x11F00, [64]), (0x11F11, [163]), (0x11F12, [64]), (0x11F3B, [163]), (0x11F3E, [64]),
  (0x11F5B, [163]), (0x11FB0, [78]), (0x11FB1, [163]), (0x11FC0, [150]), (0x11FD0, [43, 150]),
  (0x11FD2, [150]), (0x11FD3, [43, 150]), (0x11FD4, [150]), (0x11FF2, [163]), (0x11FFF, [150]),
  (0x12000, [26]), (0x1239A, [163]), (0x12400, [26]), (0x1246F, [163]), (0x12470, [26]),
  (0x12475, [163]), (0x12480, [26]), (0x12544, [163]), (0x12F90, [28]), (0x12FF3, [163]),
  (0x13000, [35]), (0x13456, [163]), (0x13460, [35]), (0x143FB, [163]), (0x14400, [2]),
  (0x14647, [163]), (0x16100, [48]), (0x1613A, [163]), (0x16800, [7]), (0x16A39, [163]),
  (0x16A40, [96]), (0x16A5F, [163]), (0x16A60, [96]), (0x16A6A, [163]), (0x16A6E, [96]),
  (0x16A70, [151]), (0x16ABF, [163]), (0x16AC0, [151]), (0x16ACA, [163]), (0x16AD0, [8]),
  (0x16AEE, [163]), (0x16AF0, [8]), (0x16AF6, [163])
]

/-- Part 4 of `scriptExtensionRuns`. -/
def scriptExtensionRunsPart4 : Array (Nat × List Nat) := #[
  (0x16B00, [122]), (0x16B46, [163]), (0x16B50, [122]), (0x16B5A, [163]), (0x16B5B, [122]),
  (0x16B62, [163]), (0x16B63, [122]), (0x16B78, [163]), (0x16B7D, [122]), (0x16B90, [163]),
  (0x16D40, [71]), (0x16D7A, [163]), (0x16E40, [88]), (0x16E9B, [163]), (0x16F00, [93]),
  (0x16F4B, [163]), (0x16F4F, [93]), (0x16F88, [163]), (0x16F8F, [93]), (0x16FA0, [163]),
  (0x16FE0, [152]), (0x16FE1, [105]), (0x16FE2, [49]), (0x16FE4, [67]), (0x16FE5, [163]),
  (0x16FF0, [49]), (0x16FF2, [163]), (0x17000, [152]), (0x187F8, [163]), (0x18800, [152]),
  (0x18B00, [67]), (0x18CD6, [163]), (0x18CFF, [67]), (0x18D00, [152]), (0x18D09, [163]),
  (0x1AFF0, [63]), (0x1AFF4, [163]), (0x1AFF5, [63]), (0x1AFFC, [163]), (0x1AFFD, [63]),
  (0x1AFFF, [163]), (0x1B000, [63]), (0x1B001, [55]), (0x1B120, [63]), (0x1B123, [163]),
  (0x1B132, [55]), (0x1B133, [163]), (0x1B150, [55]), (0x1B153, [163]), (0x1B155, [63]),
  (0x1B156, [163]), (0x1B164, [63]), (0x1B168, [163]), (0x1B170, [105]), (0x1B2FC, [163]),
  (0x1BC00, [34]), (0x1BC6B, [163]), (0x1BC70, [34]), (0x1BC7D, [163]), (0x1BC80, [34]),
  (0x1BC89, [163]), (0x1BC90, [34]), (0x1BC9A, [163]), (0x1BC9C, [34]), (0x1BCA4, [163]),
  (0x1CC00, [24]), (0x1CCFA, [163]), (0x1CD00, [24]), (0x1CEB4, [163]), (0x1CF00, [57]),
  (0x1CF2E, [163]), (0x1CF30, [57]), (0x1CF47, [163]), (0x1CF50, [24]), (0x1CFC4, [163]),
  (0x1D000, [24]), (0x1D0F6, [163]), (0x1D100, [24]), (0x1D127, [163]), (0x1D129, [24]),
  (0x1D167, [57]), (0x1D16A, [24]), (0x1D17B, [57]), (0x1D183, [24]), (0x1D185, [57]),
  (0x1D18C, [24]), (0x1D1AA, [57]), (0x1D1AE, [24]), (0x1D1EB, [163]), (0x1D200, [44]),
  (0x1D246, [163]), (0x1D2C0, [24]), (0x1D2D4, [163]), (0x1D2E0, [24]), (0x1D2F4, [163]),
  (0x1D300, [24]), (0x1D357, [163]), (0x1D360, [49]), (0x1D372, [24]), (0x1D379, [163]),
  (0x1D400, [24]), (0x1D455, [163]), (0x1D456, [24]), (0x1D49D, [163]), (0x1D49E, [24]),
  (0x1D4A0, [163]), (0x1D4A2, [24]), (0x1D4A3, [163]), (0x1D4A5, [24]), (0x1D4A7, [163]),
  (0x1D4A9, [24]), (0x1D4AD, [163]), (0x1D4AE, [24]), (0x1D4BA, [163]), (0x1D4BB, [24]),
  (0x1D4BC, [163]), (0x1D4BD, [24]), (0x1D4C4, [163]), (0x1D4C5, [24]), (0x1D506, [163]),
  (0x1D507, [24]), (0x1D50B, [163]), (0x1D50D, [24]), (0x1D515, [163]), (0x1D516, [24]),
  (0x1D51D, [163]), (0x1D51E, [24]), (0x1D53A, [163]), (0x1D53B, [24]), (0x1D53F, [163]),
  (0x1D540, [24]), (0x1D545, [163]), (0x1D546, [24]), (0x1D547, [163]), (0x1D54A, [24]),
  (0x1D551, [163]), (0x1D552, [24]), (0x1D6A6, [163]), (0x1D6A8, [24]), (0x1D7CC, [163]),
  (0x1D7CE, [24]), (0x1D800, [135]), (0x1DA8C, [163]), (0x1DA9B, [135]), (0x1DAA0, [163]),
  (0x1DAA1, [135]), (0x1DAB0, [163]), (0x1DF00, [73]), (0x1DF1F, [163]), (0x1DF25, [73]),
  (0x1DF2B, [163]), (0x1E000, [41]), (0x1E007, [163]), (0x1E008, [41]), (0x1E019, [163]),
  (0x1E01B, [41]), (0x1E022, [163]), (0x1E023, [41]), (0x1E025, [163]), (0x1E026, [41]),
  (0x1E02B, [163]), (0x1E030, [29]), (0x1E06E, [163]), (0x1E08F, [29]), (0x1E090, [163]),
  (0x1E100, [106]), (0x1E12D, [163]), (0x1E130, [106]), (0x1E13E, [163]), (0x1E140, [106]),
  (0x1E14A, [163]), (0x1E14E, [106]), (0x1E150, [163]), (0x1E290, [160]), (0x1E2AF, [163]),
  (0x1E2C0, [166]), (0x1E2FA, [163]), (0x1E2FF, [166]), (0x1E300, [163]), (0x1E4D0, [100]),
  (0x1E4FA, [163]), (0x1E5D0, [109]), (0x1E5FB, [163]), (0x1E5FF, [109]), (0x1E600, [163]),
  (0x1E7E0, [38]), (0x1E7E7, [163]), (0x1E7E8, [38]), (0x1E7EC, [163]), (0x1E7ED, [38]),
  (0x1E7EF, [163]), (0x1E7F0, [38]), (0x1E7FF, [163]), (0x1E800, [90]), (0x1E8C5, [163]),
  (0x1E8C7, [90]), (0x1E8D7, [163]), (0x1E900, [0]), (0x1E94C, [163]), (0x1E950, [0]),
  (0x1E95A, [163]), (0x1E95E, [0]), (0x1E960, [163]), (0x1EC71, [24]), (0x1ECB5, [163]),
  (0x1ED01, [24]), (0x1ED3E, [163]), (0x1EE00, [3]), (0x1EE04, [163]), (0x1EE05, [3]),
  (0x1EE20, [163]), (0x1EE21, [3]), (0x1EE23, [163]), (0x1EE24, [3]), (0x1EE25, [163]),
  (0x1EE27, [3]), (0x1EE28, [163]), (0x1EE29, [3]), (0x1EE33, [163]), (0x1EE34, [3]),
  (0x1EE38, [163]), (0x1EE39, [3]), (0x1EE3A, [163]), (0x1EE3B, [3]), (0x1EE3C, [163]),
  (0x1EE42, [3]), (0x1EE43, [163]), (0x1EE47, [3]), (0x1EE48, [163]), (0x1EE49, [3]),
  (0x1EE4A, [163]), (0x1EE4B, [3]), (0x1EE4C, [163]), (0x1EE4D, [3]), (0x1EE50, [163]),
  (0x1EE51, [3]), (0x1EE53, [163]), (0x1EE54, [3]), (0x1EE55, [163]), (0x1EE57, [3]),
  (0x1EE58, [163]), (0x1EE59, [3]), (0x1EE5A, [163]), (0x1EE5B, [3]), (0x1EE5C, [163]),
  (0x1EE5D, [3]), (0x1EE5E, [163]), (0x1EE5F, [3]), (0x1EE60, [163]), (0x1EE61, [3]),
  (0x1EE63, [163]), (0x1EE64, [3]), (0x1EE65, [163]), (0x1EE67, [3]), (0x1EE6B, [163]),
  (0x1EE6C, [3]), (0x1EE73, [163]), (0x1EE74, [3]), (0x1EE78, [163]), (0x1EE79, [3]),
  (0x1EE7D, [163]), (0x1EE7E, [3]), (0x1EE7F, [163]), (0x1EE80, [3]), (0x1EE8A, [163]),
  (0x1EE8B, [3]), (0x1EE9C, [163]), (0x1EEA1, [3]), (0x1EEA4, [163]), (0x1EEA5, [3]),
  (0x1EEAA, [163]), (0x1EEAB, [3]), (0x1EEBC, [163]), (0x1EEF0, [3]), (0x1EEF2, [163]),
  (0x1F000, [24]), (0x1F02C, [163]), (0x1F030, [24]), (0x1F094, [163]), (0x1F0A0, [24]),
  (0x1F0AF, [163]), (0x1F0B1, [24]), (0x1F0C0, [163]), (0x1F0C1, [24]), (0x1F0D0, [163]),
  (0x1F0D1, [24]), (0x1F0F6, [163]), (0x1F100, [24]), (0x1F1AE, [163]), (0x1F1E6, [24]),
  (0x1F200, [55]), (0x1F201, [24]), (0x1F203, [163]), (0x1F210, [24]), (0x1F23C, [163]),
  (0x1F240, [24]), (0x1F249, [163]), (0x1F250, [49]), (0x1F252, [163]), (0x1F260, [24]),
  (0x1F266, [163]), (0x1F300, [24]), (0x1F6D8, [163]), (0x1F6DC, [24]), (0x1F6ED, [163]),
  (0x1F6F0, [24]), (0x1F6FD, [163]), (0x1F700, [24]), (0x1F777, [163]), (0x1F77B, [24]),
  (0x1F7DA, [163]), (0x1F7E0, [24]), (0x1F7EC, [163]), (0x1F7F0, [24]), (0x1F7F1, [163]),
  (0x1F800, [24]), (0x1F80C, [163]), (0x1F810, [24]), (0x1F848, [163]), (0x1F850, [24]),
  (0x1F85A, [163]), (0x1F860, [24]), (0x1F888, [163]), (0x1F890, [24]), (0x1F8AE, [163]),
  (0x1F8B0, [24]), (0x1F8BC, [163]), (0x1F8C0, [24]), (0x1F8C2, [163]), (0x1F900, [24]),
  (0x1FA54, [163]), (0x1FA60, [24]), (0x1FA6E, [163]), (0x1FA70, [24]), (0x1FA7D, [163]),
  (0x1FA80, [24]), (0x1FA8A, [163]), (0x1FA8F, [24]), (0x1FAC7, [163]), (0x1FACE, [24]),
  (0x1FADD, [163]), (0x1FADF, [24]), (0x1FAEA, [163]), (0x1FAF0, [24]), (0x1FAF9, [163]),
  (0x1FB00, [24]), (0x1FB93, [163]), (0x1FB94, [24]), (0x1FBFA, [163]), (0x20000, [49]),
  (0x2A6E0, [163]), (0x2A700, [49]), (0x2B73A, [163]), (0x2B740, [49]), (0x2B81E, [163]),
  (0x2B820, [49]), (0x2CEA2, [163]), (0x2CEB0, [49]), (0x2EBE1, [163]), (0x2EBF0, [49]),
  (0x2EE5E, [163]), (0x2F800, [49]), (0x2FA1E, [163]), (0x30000, [49]), (0x3134B, [163]),
  (0x31350, [49]), (0x323B0, [163]), (0xE0001, [24]), (0xE0002, [163]), (0xE0020, [24]),
  (0xE0080, [163]), (0xE0100, [57]), (0xE01F0, [163])
]

/-- Where each run of code points with one set of script extensions begins,
with the numbers of the scripts in the set. The table is split into parts of at most 500 entries so that each
definition stays small. -/
def scriptExtensionRuns : Array (Nat × List Nat) :=
  scriptExtensionRunsPart1 ++ scriptExtensionRunsPart2 ++ scriptExtensionRunsPart3 ++ scriptExtensionRunsPart4

/-- The numbers of the scripts a code point is used with. -/
def scriptExtensionsOf (n : Nat) : List Nat := runValue scriptExtensionRuns n

end Text

end Attest
