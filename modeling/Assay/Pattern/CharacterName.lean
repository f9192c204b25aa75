/-! # Names of characters

The names by which a pattern may denote a character: those that Unicode gives to Latin, Greek
and Cyrillic letters, punctuation, currency signs, arrows, common symbols and faces, and the
aliases of the controls. Other names count as unknown. Case does not matter in a name.
-/

namespace Assay.Pattern

/-- Named characters from U+0000 to U+0119. -/
def namesFrom0000 : List (String × Nat) := [
  ("NULL", 0x0), ("NUL", 0x0), ("START OF HEADING", 0x1), ("ALERT", 0x7), ("BEL", 0x7),
  ("BACKSPACE", 0x8), ("BS", 0x8), ("CHARACTER TABULATION", 0x9),
  ("HORIZONTAL TABULATION", 0x9), ("HT", 0x9), ("TAB", 0x9), ("LINE FEED", 0xA),
  ("NEW LINE", 0xA), ("END OF LINE", 0xA), ("LF", 0xA), ("NL", 0xA), ("EOL", 0xA),
  ("LINE TABULATION", 0xB), ("VERTICAL TABULATION", 0xB), ("VT", 0xB), ("FORM FEED", 0xC),
  ("FF", 0xC), ("CARRIAGE RETURN", 0xD), ("CR", 0xD), ("ESCAPE", 0x1B), ("ESC", 0x1B),
  ("SPACE", 0x20), ("SP", 0x20), ("EXCLAMATION MARK", 0x21), ("QUOTATION MARK", 0x22),
  ("NUMBER SIGN", 0x23), ("DOLLAR SIGN", 0x24), ("PERCENT SIGN", 0x25), ("AMPERSAND", 0x26),
  ("APOSTROPHE", 0x27), ("LEFT PARENTHESIS", 0x28), ("RIGHT PARENTHESIS", 0x29),
  ("ASTERISK", 0x2A), ("PLUS SIGN", 0x2B), ("COMMA", 0x2C), ("HYPHEN-MINUS", 0x2D),
  ("FULL STOP", 0x2E), ("SOLIDUS", 0x2F), ("DIGIT ZERO", 0x30), ("DIGIT ONE", 0x31),
  ("DIGIT TWO", 0x32), ("DIGIT THREE", 0x33), ("DIGIT FOUR", 0x34), ("DIGIT FIVE", 0x35),
  ("DIGIT SIX", 0x36), ("DIGIT SEVEN", 0x37), ("DIGIT EIGHT", 0x38), ("DIGIT NINE", 0x39),
  ("COLON", 0x3A), ("SEMICOLON", 0x3B), ("LESS-THAN SIGN", 0x3C), ("EQUALS SIGN", 0x3D),
  ("GREATER-THAN SIGN", 0x3E), ("QUESTION MARK", 0x3F), ("COMMERCIAL AT", 0x40),
  ("LATIN CAPITAL LETTER A", 0x41), ("LATIN CAPITAL LETTER B", 0x42),
  ("LATIN CAPITAL LETTER C", 0x43), ("LATIN CAPITAL LETTER D", 0x44),
  ("LATIN CAPITAL LETTER E", 0x45), ("LATIN CAPITAL LETTER F", 0x46),
  ("LATIN CAPITAL LETTER G", 0x47), ("LATIN CAPITAL LETTER H", 0x48),
  ("LATIN CAPITAL LETTER I", 0x49), ("LATIN CAPITAL LETTER J", 0x4A),
  ("LATIN CAPITAL LETTER K", 0x4B), ("LATIN CAPITAL LETTER L", 0x4C),
  ("LATIN CAPITAL LETTER M", 0x4D), ("LATIN CAPITAL LETTER N", 0x4E),
  ("LATIN CAPITAL LETTER O", 0x4F), ("LATIN CAPITAL LETTER P", 0x50),
  ("LATIN CAPITAL LETTER Q", 0x51), ("LATIN CAPITAL LETTER R", 0x52),
  ("LATIN CAPITAL LETTER S", 0x53), ("LATIN CAPITAL LETTER T", 0x54),
  ("LATIN CAPITAL LETTER U", 0x55), ("LATIN CAPITAL LETTER V", 0x56),
  ("LATIN CAPITAL LETTER W", 0x57), ("LATIN CAPITAL LETTER X", 0x58),
  ("LATIN CAPITAL LETTER Y", 0x59), ("LATIN CAPITAL LETTER Z", 0x5A),
  ("LEFT SQUARE BRACKET", 0x5B), ("REVERSE SOLIDUS", 0x5C), ("RIGHT SQUARE BRACKET", 0x5D),
  ("CIRCUMFLEX ACCENT", 0x5E), ("LOW LINE", 0x5F), ("GRAVE ACCENT", 0x60),
  ("LATIN SMALL LETTER A", 0x61), ("LATIN SMALL LETTER B", 0x62),
  ("LATIN SMALL LETTER C", 0x63), ("LATIN SMALL LETTER D", 0x64),
  ("LATIN SMALL LETTER E", 0x65), ("LATIN SMALL LETTER F", 0x66),
  ("LATIN SMALL LETTER G", 0x67), ("LATIN SMALL LETTER H", 0x68),
  ("LATIN SMALL LETTER I", 0x69), ("LATIN SMALL LETTER J", 0x6A),
  ("LATIN SMALL LETTER K", 0x6B), ("LATIN SMALL LETTER L", 0x6C),
  ("LATIN SMALL LETTER M", 0x6D), ("LATIN SMALL LETTER N", 0x6E),
  ("LATIN SMALL LETTER O", 0x6F), ("LATIN SMALL LETTER P", 0x70),
  ("LATIN SMALL LETTER Q", 0x71), ("LATIN SMALL LETTER R", 0x72),
  ("LATIN SMALL LETTER S", 0x73), ("LATIN SMALL LETTER T", 0x74),
  ("LATIN SMALL LETTER U", 0x75), ("LATIN SMALL LETTER V", 0x76),
  ("LATIN SMALL LETTER W", 0x77), ("LATIN SMALL LETTER X", 0x78),
  ("LATIN SMALL LETTER Y", 0x79), ("LATIN SMALL LETTER Z", 0x7A), ("LEFT CURLY BRACKET", 0x7B),
  ("VERTICAL LINE", 0x7C), ("RIGHT CURLY BRACKET", 0x7D), ("TILDE", 0x7E), ("DELETE", 0x7F),
  ("DEL", 0x7F), ("NEXT LINE", 0x85), ("NEL", 0x85), ("NO-BREAK SPACE", 0xA0), ("NBSP", 0xA0),
  ("INVERTED EXCLAMATION MARK", 0xA1), ("CENT SIGN", 0xA2), ("POUND SIGN", 0xA3),
  ("CURRENCY SIGN", 0xA4), ("YEN SIGN", 0xA5), ("BROKEN BAR", 0xA6), ("SECTION SIGN", 0xA7),
  ("DIAERESIS", 0xA8), ("COPYRIGHT SIGN", 0xA9), ("FEMININE ORDINAL INDICATOR", 0xAA),
  ("LEFT-POINTING DOUBLE ANGLE QUOTATION MARK", 0xAB), ("NOT SIGN", 0xAC),
  ("SOFT HYPHEN", 0xAD), ("SHY", 0xAD), ("REGISTERED SIGN", 0xAE), ("MACRON", 0xAF),
  ("DEGREE SIGN", 0xB0), ("PLUS-MINUS SIGN", 0xB1), ("SUPERSCRIPT TWO", 0xB2),
  ("SUPERSCRIPT THREE", 0xB3), ("ACUTE ACCENT", 0xB4), ("MICRO SIGN", 0xB5),
  ("PILCROW SIGN", 0xB6), ("MIDDLE DOT", 0xB7), ("CEDILLA", 0xB8), ("SUPERSCRIPT ONE", 0xB9),
  ("MASCULINE ORDINAL INDICATOR", 0xBA), ("RIGHT-POINTING DOUBLE ANGLE QUOTATION MARK", 0xBB),
  ("VULGAR FRACTION ONE QUARTER", 0xBC), ("VULGAR FRACTION ONE HALF", 0xBD),
  ("VULGAR FRACTION THREE QUARTERS", 0xBE), ("INVERTED QUESTION MARK", 0xBF),
  ("LATIN CAPITAL LETTER A WITH GRAVE", 0xC0), ("LATIN CAPITAL LETTER A WITH ACUTE", 0xC1),
  ("LATIN CAPITAL LETTER A WITH CIRCUMFLEX", 0xC2), ("LATIN CAPITAL LETTER A WITH TILDE", 0xC3),
  ("LATIN CAPITAL LETTER A WITH DIAERESIS", 0xC4),
  ("LATIN CAPITAL LETTER A WITH RING ABOVE", 0xC5), ("LATIN CAPITAL LETTER AE", 0xC6),
  ("LATIN CAPITAL LETTER C WITH CEDILLA", 0xC7), ("LATIN CAPITAL LETTER E WITH GRAVE", 0xC8),
  ("LATIN CAPITAL LETTER E WITH ACUTE", 0xC9), ("LATIN CAPITAL LETTER E WITH CIRCUMFLEX", 0xCA),
  ("LATIN CAPITAL LETTER E WITH DIAERESIS", 0xCB), ("LATIN CAPITAL LETTER I WITH GRAVE", 0xCC),
  ("LATIN CAPITAL LETTER I WITH ACUTE", 0xCD), ("LATIN CAPITAL LETTER I WITH CIRCUMFLEX", 0xCE),
  ("LATIN CAPITAL LETTER I WITH DIAERESIS", 0xCF), ("LATIN CAPITAL LETTER ETH", 0xD0),
  ("LATIN CAPITAL LETTER N WITH TILDE", 0xD1), ("LATIN CAPITAL LETTER O WITH GRAVE", 0xD2),
  ("LATIN CAPITAL LETTER O WITH ACUTE", 0xD3), ("LATIN CAPITAL LETTER O WITH CIRCUMFLEX", 0xD4),
  ("LATIN CAPITAL LETTER O WITH TILDE", 0xD5), ("LATIN CAPITAL LETTER O WITH DIAERESIS", 0xD6),
  ("MULTIPLICATION SIGN", 0xD7), ("LATIN CAPITAL LETTER O WITH STROKE", 0xD8),
  ("LATIN CAPITAL LETTER U WITH GRAVE", 0xD9), ("LATIN CAPITAL LETTER U WITH ACUTE", 0xDA),
  ("LATIN CAPITAL LETTER U WITH CIRCUMFLEX", 0xDB),
  ("LATIN CAPITAL LETTER U WITH DIAERESIS", 0xDC), ("LATIN CAPITAL LETTER Y WITH ACUTE", 0xDD),
  ("LATIN CAPITAL LETTER THORN", 0xDE), ("LATIN SMALL LETTER SHARP S", 0xDF),
  ("LATIN SMALL LETTER A WITH GRAVE", 0xE0), ("LATIN SMALL LETTER A WITH ACUTE", 0xE1),
  ("LATIN SMALL LETTER A WITH CIRCUMFLEX", 0xE2), ("LATIN SMALL LETTER A WITH TILDE", 0xE3),
  ("LATIN SMALL LETTER A WITH DIAERESIS", 0xE4), ("LATIN SMALL LETTER A WITH RING ABOVE", 0xE5),
  ("LATIN SMALL LETTER AE", 0xE6), ("LATIN SMALL LETTER C WITH CEDILLA", 0xE7),
  ("LATIN SMALL LETTER E WITH GRAVE", 0xE8), ("LATIN SMALL LETTER E WITH ACUTE", 0xE9),
  ("LATIN SMALL LETTER E WITH CIRCUMFLEX", 0xEA), ("LATIN SMALL LETTER E WITH DIAERESIS", 0xEB),
  ("LATIN SMALL LETTER I WITH GRAVE", 0xEC), ("LATIN SMALL LETTER I WITH ACUTE", 0xED),
  ("LATIN SMALL LETTER I WITH CIRCUMFLEX", 0xEE), ("LATIN SMALL LETTER I WITH DIAERESIS", 0xEF),
  ("LATIN SMALL LETTER ETH", 0xF0), ("LATIN SMALL LETTER N WITH TILDE", 0xF1),
  ("LATIN SMALL LETTER O WITH GRAVE", 0xF2), ("LATIN SMALL LETTER O WITH ACUTE", 0xF3),
  ("LATIN SMALL LETTER O WITH CIRCUMFLEX", 0xF4), ("LATIN SMALL LETTER O WITH TILDE", 0xF5),
  ("LATIN SMALL LETTER O WITH DIAERESIS", 0xF6), ("DIVISION SIGN", 0xF7),
  ("LATIN SMALL LETTER O WITH STROKE", 0xF8), ("LATIN SMALL LETTER U WITH GRAVE", 0xF9),
  ("LATIN SMALL LETTER U WITH ACUTE", 0xFA), ("LATIN SMALL LETTER U WITH CIRCUMFLEX", 0xFB),
  ("LATIN SMALL LETTER U WITH DIAERESIS", 0xFC), ("LATIN SMALL LETTER Y WITH ACUTE", 0xFD),
  ("LATIN SMALL LETTER THORN", 0xFE), ("LATIN SMALL LETTER Y WITH DIAERESIS", 0xFF),
  ("LATIN CAPITAL LETTER A WITH MACRON", 0x100), ("LATIN SMALL LETTER A WITH MACRON", 0x101),
  ("LATIN CAPITAL LETTER A WITH BREVE", 0x102), ("LATIN SMALL LETTER A WITH BREVE", 0x103),
  ("LATIN CAPITAL LETTER A WITH OGONEK", 0x104), ("LATIN SMALL LETTER A WITH OGONEK", 0x105),
  ("LATIN CAPITAL LETTER C WITH ACUTE", 0x106), ("LATIN SMALL LETTER C WITH ACUTE", 0x107),
  ("LATIN CAPITAL LETTER C WITH CIRCUMFLEX", 0x108),
  ("LATIN SMALL LETTER C WITH CIRCUMFLEX", 0x109),
  ("LATIN CAPITAL LETTER C WITH DOT ABOVE", 0x10A),
  ("LATIN SMALL LETTER C WITH DOT ABOVE", 0x10B), ("LATIN CAPITAL LETTER C WITH CARON", 0x10C),
  ("LATIN SMALL LETTER C WITH CARON", 0x10D), ("LATIN CAPITAL LETTER D WITH CARON", 0x10E),
  ("LATIN SMALL LETTER D WITH CARON", 0x10F), ("LATIN CAPITAL LETTER D WITH STROKE", 0x110),
  ("LATIN SMALL LETTER D WITH STROKE", 0x111), ("LATIN CAPITAL LETTER E WITH MACRON", 0x112),
  ("LATIN SMALL LETTER E WITH MACRON", 0x113), ("LATIN CAPITAL LETTER E WITH BREVE", 0x114),
  ("LATIN SMALL LETTER E WITH BREVE", 0x115), ("LATIN CAPITAL LETTER E WITH DOT ABOVE", 0x116),
  ("LATIN SMALL LETTER E WITH DOT ABOVE", 0x117), ("LATIN CAPITAL LETTER E WITH OGONEK", 0x118),
  ("LATIN SMALL LETTER E WITH OGONEK", 0x119)]

/-- Named characters from U+011A to U+0428. -/
def namesFrom011A : List (String × Nat) := [
  ("LATIN CAPITAL LETTER E WITH CARON", 0x11A), ("LATIN SMALL LETTER E WITH CARON", 0x11B),
  ("LATIN CAPITAL LETTER G WITH CIRCUMFLEX", 0x11C),
  ("LATIN SMALL LETTER G WITH CIRCUMFLEX", 0x11D), ("LATIN CAPITAL LETTER G WITH BREVE", 0x11E),
  ("LATIN SMALL LETTER G WITH BREVE", 0x11F), ("LATIN CAPITAL LETTER G WITH DOT ABOVE", 0x120),
  ("LATIN SMALL LETTER G WITH DOT ABOVE", 0x121),
  ("LATIN CAPITAL LETTER G WITH CEDILLA", 0x122), ("LATIN SMALL LETTER G WITH CEDILLA", 0x123),
  ("LATIN CAPITAL LETTER H WITH CIRCUMFLEX", 0x124),
  ("LATIN SMALL LETTER H WITH CIRCUMFLEX", 0x125),
  ("LATIN CAPITAL LETTER H WITH STROKE", 0x126), ("LATIN SMALL LETTER H WITH STROKE", 0x127),
  ("LATIN CAPITAL LETTER I WITH TILDE", 0x128), ("LATIN SMALL LETTER I WITH TILDE", 0x129),
  ("LATIN CAPITAL LETTER I WITH MACRON", 0x12A), ("LATIN SMALL LETTER I WITH MACRON", 0x12B),
  ("LATIN CAPITAL LETTER I WITH BREVE", 0x12C), ("LATIN SMALL LETTER I WITH BREVE", 0x12D),
  ("LATIN CAPITAL LETTER I WITH OGONEK", 0x12E), ("LATIN SMALL LETTER I WITH OGONEK", 0x12F),
  ("LATIN CAPITAL LETTER I WITH DOT ABOVE", 0x130), ("LATIN SMALL LETTER DOTLESS I", 0x131),
  ("LATIN CAPITAL LIGATURE IJ", 0x132), ("LATIN SMALL LIGATURE IJ", 0x133),
  ("LATIN CAPITAL LETTER J WITH CIRCUMFLEX", 0x134),
  ("LATIN SMALL LETTER J WITH CIRCUMFLEX", 0x135),
  ("LATIN CAPITAL LETTER K WITH CEDILLA", 0x136), ("LATIN SMALL LETTER K WITH CEDILLA", 0x137),
  ("LATIN SMALL LETTER KRA", 0x138), ("LATIN CAPITAL LETTER L WITH ACUTE", 0x139),
  ("LATIN SMALL LETTER L WITH ACUTE", 0x13A), ("LATIN CAPITAL LETTER L WITH CEDILLA", 0x13B),
  ("LATIN SMALL LETTER L WITH CEDILLA", 0x13C), ("LATIN CAPITAL LETTER L WITH CARON", 0x13D),
  ("LATIN SMALL LETTER L WITH CARON", 0x13E), ("LATIN CAPITAL LETTER L WITH MIDDLE DOT", 0x13F),
  ("LATIN SMALL LETTER L WITH MIDDLE DOT", 0x140),
  ("LATIN CAPITAL LETTER L WITH STROKE", 0x141), ("LATIN SMALL LETTER L WITH STROKE", 0x142),
  ("LATIN CAPITAL LETTER N WITH ACUTE", 0x143), ("LATIN SMALL LETTER N WITH ACUTE", 0x144),
  ("LATIN CAPITAL LETTER N WITH CEDILLA", 0x145), ("LATIN SMALL LETTER N WITH CEDILLA", 0x146),
  ("LATIN CAPITAL LETTER N WITH CARON", 0x147), ("LATIN SMALL LETTER N WITH CARON", 0x148),
  ("LATIN SMALL LETTER N PRECEDED BY APOSTROPHE", 0x149), ("LATIN CAPITAL LETTER ENG", 0x14A),
  ("LATIN SMALL LETTER ENG", 0x14B), ("LATIN CAPITAL LETTER O WITH MACRON", 0x14C),
  ("LATIN SMALL LETTER O WITH MACRON", 0x14D), ("LATIN CAPITAL LETTER O WITH BREVE", 0x14E),
  ("LATIN SMALL LETTER O WITH BREVE", 0x14F),
  ("LATIN CAPITAL LETTER O WITH DOUBLE ACUTE", 0x150),
  ("LATIN SMALL LETTER O WITH DOUBLE ACUTE", 0x151), ("LATIN CAPITAL LIGATURE OE", 0x152),
  ("LATIN SMALL LIGATURE OE", 0x153), ("LATIN CAPITAL LETTER R WITH ACUTE", 0x154),
  ("LATIN SMALL LETTER R WITH ACUTE", 0x155), ("LATIN CAPITAL LETTER R WITH CEDILLA", 0x156),
  ("LATIN SMALL LETTER R WITH CEDILLA", 0x157), ("LATIN CAPITAL LETTER R WITH CARON", 0x158),
  ("LATIN SMALL LETTER R WITH CARON", 0x159), ("LATIN CAPITAL LETTER S WITH ACUTE", 0x15A),
  ("LATIN SMALL LETTER S WITH ACUTE", 0x15B), ("LATIN CAPITAL LETTER S WITH CIRCUMFLEX", 0x15C),
  ("LATIN SMALL LETTER S WITH CIRCUMFLEX", 0x15D),
  ("LATIN CAPITAL LETTER S WITH CEDILLA", 0x15E), ("LATIN SMALL LETTER S WITH CEDILLA", 0x15F),
  ("LATIN CAPITAL LETTER S WITH CARON", 0x160), ("LATIN SMALL LETTER S WITH CARON", 0x161),
  ("LATIN CAPITAL LETTER T WITH CEDILLA", 0x162), ("LATIN SMALL LETTER T WITH CEDILLA", 0x163),
  ("LATIN CAPITAL LETTER T WITH CARON", 0x164), ("LATIN SMALL LETTER T WITH CARON", 0x165),
  ("LATIN CAPITAL LETTER T WITH STROKE", 0x166), ("LATIN SMALL LETTER T WITH STROKE", 0x167),
  ("LATIN CAPITAL LETTER U WITH TILDE", 0x168), ("LATIN SMALL LETTER U WITH TILDE", 0x169),
  ("LATIN CAPITAL LETTER U WITH MACRON", 0x16A), ("LATIN SMALL LETTER U WITH MACRON", 0x16B),
  ("LATIN CAPITAL LETTER U WITH BREVE", 0x16C), ("LATIN SMALL LETTER U WITH BREVE", 0x16D),
  ("LATIN CAPITAL LETTER U WITH RING ABOVE", 0x16E),
  ("LATIN SMALL LETTER U WITH RING ABOVE", 0x16F),
  ("LATIN CAPITAL LETTER U WITH DOUBLE ACUTE", 0x170),
  ("LATIN SMALL LETTER U WITH DOUBLE ACUTE", 0x171),
  ("LATIN CAPITAL LETTER U WITH OGONEK", 0x172), ("LATIN SMALL LETTER U WITH OGONEK", 0x173),
  ("LATIN CAPITAL LETTER W WITH CIRCUMFLEX", 0x174),
  ("LATIN SMALL LETTER W WITH CIRCUMFLEX", 0x175),
  ("LATIN CAPITAL LETTER Y WITH CIRCUMFLEX", 0x176),
  ("LATIN SMALL LETTER Y WITH CIRCUMFLEX", 0x177),
  ("LATIN CAPITAL LETTER Y WITH DIAERESIS", 0x178),
  ("LATIN CAPITAL LETTER Z WITH ACUTE", 0x179), ("LATIN SMALL LETTER Z WITH ACUTE", 0x17A),
  ("LATIN CAPITAL LETTER Z WITH DOT ABOVE", 0x17B),
  ("LATIN SMALL LETTER Z WITH DOT ABOVE", 0x17C), ("LATIN CAPITAL LETTER Z WITH CARON", 0x17D),
  ("LATIN SMALL LETTER Z WITH CARON", 0x17E), ("LATIN SMALL LETTER LONG S", 0x17F),
  ("MODIFIER LETTER CIRCUMFLEX ACCENT", 0x2C6), ("CARON", 0x2C7),
  ("MODIFIER LETTER VERTICAL LINE", 0x2C8), ("MODIFIER LETTER MACRON", 0x2C9),
  ("MODIFIER LETTER ACUTE ACCENT", 0x2CA), ("MODIFIER LETTER GRAVE ACCENT", 0x2CB),
  ("MODIFIER LETTER LOW VERTICAL LINE", 0x2CC), ("MODIFIER LETTER LOW MACRON", 0x2CD),
  ("MODIFIER LETTER LOW GRAVE ACCENT", 0x2CE), ("MODIFIER LETTER LOW ACUTE ACCENT", 0x2CF),
  ("MODIFIER LETTER TRIANGULAR COLON", 0x2D0), ("MODIFIER LETTER HALF TRIANGULAR COLON", 0x2D1),
  ("MODIFIER LETTER CENTRED RIGHT HALF RING", 0x2D2),
  ("MODIFIER LETTER CENTRED LEFT HALF RING", 0x2D3), ("MODIFIER LETTER UP TACK", 0x2D4),
  ("MODIFIER LETTER DOWN TACK", 0x2D5), ("MODIFIER LETTER PLUS SIGN", 0x2D6),
  ("MODIFIER LETTER MINUS SIGN", 0x2D7), ("BREVE", 0x2D8), ("DOT ABOVE", 0x2D9),
  ("RING ABOVE", 0x2DA), ("OGONEK", 0x2DB), ("SMALL TILDE", 0x2DC),
  ("DOUBLE ACUTE ACCENT", 0x2DD), ("COMBINING GRAVE ACCENT", 0x300),
  ("COMBINING ACUTE ACCENT", 0x301), ("COMBINING CIRCUMFLEX ACCENT", 0x302),
  ("COMBINING TILDE", 0x303), ("COMBINING MACRON", 0x304), ("COMBINING OVERLINE", 0x305),
  ("COMBINING BREVE", 0x306), ("COMBINING DOT ABOVE", 0x307), ("COMBINING DIAERESIS", 0x308),
  ("COMBINING HOOK ABOVE", 0x309), ("COMBINING RING ABOVE", 0x30A),
  ("COMBINING DOUBLE ACUTE ACCENT", 0x30B), ("COMBINING CARON", 0x30C),
  ("GREEK CAPITAL LETTER ALPHA WITH TONOS", 0x386), ("GREEK ANO TELEIA", 0x387),
  ("GREEK CAPITAL LETTER EPSILON WITH TONOS", 0x388),
  ("GREEK CAPITAL LETTER ETA WITH TONOS", 0x389),
  ("GREEK CAPITAL LETTER IOTA WITH TONOS", 0x38A),
  ("GREEK CAPITAL LETTER OMICRON WITH TONOS", 0x38C),
  ("GREEK CAPITAL LETTER UPSILON WITH TONOS", 0x38E),
  ("GREEK CAPITAL LETTER OMEGA WITH TONOS", 0x38F),
  ("GREEK SMALL LETTER IOTA WITH DIALYTIKA AND TONOS", 0x390),
  ("GREEK CAPITAL LETTER ALPHA", 0x391), ("GREEK CAPITAL LETTER BETA", 0x392),
  ("GREEK CAPITAL LETTER GAMMA", 0x393), ("GREEK CAPITAL LETTER DELTA", 0x394),
  ("GREEK CAPITAL LETTER EPSILON", 0x395), ("GREEK CAPITAL LETTER ZETA", 0x396),
  ("GREEK CAPITAL LETTER ETA", 0x397), ("GREEK CAPITAL LETTER THETA", 0x398),
  ("GREEK CAPITAL LETTER IOTA", 0x399), ("GREEK CAPITAL LETTER KAPPA", 0x39A),
  ("GREEK CAPITAL LETTER LAMDA", 0x39B), ("GREEK CAPITAL LETTER MU", 0x39C),
  ("GREEK CAPITAL LETTER NU", 0x39D), ("GREEK CAPITAL LETTER XI", 0x39E),
  ("GREEK CAPITAL LETTER OMICRON", 0x39F), ("GREEK CAPITAL LETTER PI", 0x3A0),
  ("GREEK CAPITAL LETTER RHO", 0x3A1), ("GREEK CAPITAL LETTER SIGMA", 0x3A3),
  ("GREEK CAPITAL LETTER TAU", 0x3A4), ("GREEK CAPITAL LETTER UPSILON", 0x3A5),
  ("GREEK CAPITAL LETTER PHI", 0x3A6), ("GREEK CAPITAL LETTER CHI", 0x3A7),
  ("GREEK CAPITAL LETTER PSI", 0x3A8), ("GREEK CAPITAL LETTER OMEGA", 0x3A9),
  ("GREEK CAPITAL LETTER IOTA WITH DIALYTIKA", 0x3AA),
  ("GREEK CAPITAL LETTER UPSILON WITH DIALYTIKA", 0x3AB),
  ("GREEK SMALL LETTER ALPHA WITH TONOS", 0x3AC),
  ("GREEK SMALL LETTER EPSILON WITH TONOS", 0x3AD),
  ("GREEK SMALL LETTER ETA WITH TONOS", 0x3AE), ("GREEK SMALL LETTER IOTA WITH TONOS", 0x3AF),
  ("GREEK SMALL LETTER UPSILON WITH DIALYTIKA AND TONOS", 0x3B0),
  ("GREEK SMALL LETTER ALPHA", 0x3B1), ("GREEK SMALL LETTER BETA", 0x3B2),
  ("GREEK SMALL LETTER GAMMA", 0x3B3), ("GREEK SMALL LETTER DELTA", 0x3B4),
  ("GREEK SMALL LETTER EPSILON", 0x3B5), ("GREEK SMALL LETTER ZETA", 0x3B6),
  ("GREEK SMALL LETTER ETA", 0x3B7), ("GREEK SMALL LETTER THETA", 0x3B8),
  ("GREEK SMALL LETTER IOTA", 0x3B9), ("GREEK SMALL LETTER KAPPA", 0x3BA),
  ("GREEK SMALL LETTER LAMDA", 0x3BB), ("GREEK SMALL LETTER MU", 0x3BC),
  ("GREEK SMALL LETTER NU", 0x3BD), ("GREEK SMALL LETTER XI", 0x3BE),
  ("GREEK SMALL LETTER OMICRON", 0x3BF), ("GREEK SMALL LETTER PI", 0x3C0),
  ("GREEK SMALL LETTER RHO", 0x3C1), ("GREEK SMALL LETTER FINAL SIGMA", 0x3C2),
  ("GREEK SMALL LETTER SIGMA", 0x3C3), ("GREEK SMALL LETTER TAU", 0x3C4),
  ("GREEK SMALL LETTER UPSILON", 0x3C5), ("GREEK SMALL LETTER PHI", 0x3C6),
  ("GREEK SMALL LETTER CHI", 0x3C7), ("GREEK SMALL LETTER PSI", 0x3C8),
  ("GREEK SMALL LETTER OMEGA", 0x3C9), ("GREEK SMALL LETTER IOTA WITH DIALYTIKA", 0x3CA),
  ("GREEK SMALL LETTER UPSILON WITH DIALYTIKA", 0x3CB),
  ("GREEK SMALL LETTER OMICRON WITH TONOS", 0x3CC),
  ("GREEK SMALL LETTER UPSILON WITH TONOS", 0x3CD),
  ("GREEK SMALL LETTER OMEGA WITH TONOS", 0x3CE),
  ("CYRILLIC CAPITAL LETTER IE WITH GRAVE", 0x400), ("CYRILLIC CAPITAL LETTER IO", 0x401),
  ("CYRILLIC CAPITAL LETTER DJE", 0x402), ("CYRILLIC CAPITAL LETTER GJE", 0x403),
  ("CYRILLIC CAPITAL LETTER UKRAINIAN IE", 0x404), ("CYRILLIC CAPITAL LETTER DZE", 0x405),
  ("CYRILLIC CAPITAL LETTER BYELORUSSIAN-UKRAINIAN I", 0x406),
  ("CYRILLIC CAPITAL LETTER YI", 0x407), ("CYRILLIC CAPITAL LETTER JE", 0x408),
  ("CYRILLIC CAPITAL LETTER LJE", 0x409), ("CYRILLIC CAPITAL LETTER NJE", 0x40A),
  ("CYRILLIC CAPITAL LETTER TSHE", 0x40B), ("CYRILLIC CAPITAL LETTER KJE", 0x40C),
  ("CYRILLIC CAPITAL LETTER I WITH GRAVE", 0x40D), ("CYRILLIC CAPITAL LETTER SHORT U", 0x40E),
  ("CYRILLIC CAPITAL LETTER DZHE", 0x40F), ("CYRILLIC CAPITAL LETTER A", 0x410),
  ("CYRILLIC CAPITAL LETTER BE", 0x411), ("CYRILLIC CAPITAL LETTER VE", 0x412),
  ("CYRILLIC CAPITAL LETTER GHE", 0x413), ("CYRILLIC CAPITAL LETTER DE", 0x414),
  ("CYRILLIC CAPITAL LETTER IE", 0x415), ("CYRILLIC CAPITAL LETTER ZHE", 0x416),
  ("CYRILLIC CAPITAL LETTER ZE", 0x417), ("CYRILLIC CAPITAL LETTER I", 0x418),
  ("CYRILLIC CAPITAL LETTER SHORT I", 0x419), ("CYRILLIC CAPITAL LETTER KA", 0x41A),
  ("CYRILLIC CAPITAL LETTER EL", 0x41B), ("CYRILLIC CAPITAL LETTER EM", 0x41C),
  ("CYRILLIC CAPITAL LETTER EN", 0x41D), ("CYRILLIC CAPITAL LETTER O", 0x41E),
  ("CYRILLIC CAPITAL LETTER PE", 0x41F), ("CYRILLIC CAPITAL LETTER ER", 0x420),
  ("CYRILLIC CAPITAL LETTER ES", 0x421), ("CYRILLIC CAPITAL LETTER TE", 0x422),
  ("CYRILLIC CAPITAL LETTER U", 0x423), ("CYRILLIC CAPITAL LETTER EF", 0x424),
  ("CYRILLIC CAPITAL LETTER HA", 0x425), ("CYRILLIC CAPITAL LETTER TSE", 0x426),
  ("CYRILLIC CAPITAL LETTER CHE", 0x427), ("CYRILLIC CAPITAL LETTER SHA", 0x428)]

/-- Named characters from U+0429 to U+2192. -/
def namesFrom0429 : List (String × Nat) := [
  ("CYRILLIC CAPITAL LETTER SHCHA", 0x429), ("CYRILLIC CAPITAL LETTER HARD SIGN", 0x42A),
  ("CYRILLIC CAPITAL LETTER YERU", 0x42B), ("CYRILLIC CAPITAL LETTER SOFT SIGN", 0x42C),
  ("CYRILLIC CAPITAL LETTER E", 0x42D), ("CYRILLIC CAPITAL LETTER YU", 0x42E),
  ("CYRILLIC CAPITAL LETTER YA", 0x42F), ("CYRILLIC SMALL LETTER A", 0x430),
  ("CYRILLIC SMALL LETTER BE", 0x431), ("CYRILLIC SMALL LETTER VE", 0x432),
  ("CYRILLIC SMALL LETTER GHE", 0x433), ("CYRILLIC SMALL LETTER DE", 0x434),
  ("CYRILLIC SMALL LETTER IE", 0x435), ("CYRILLIC SMALL LETTER ZHE", 0x436),
  ("CYRILLIC SMALL LETTER ZE", 0x437), ("CYRILLIC SMALL LETTER I", 0x438),
  ("CYRILLIC SMALL LETTER SHORT I", 0x439), ("CYRILLIC SMALL LETTER KA", 0x43A),
  ("CYRILLIC SMALL LETTER EL", 0x43B), ("CYRILLIC SMALL LETTER EM", 0x43C),
  ("CYRILLIC SMALL LETTER EN", 0x43D), ("CYRILLIC SMALL LETTER O", 0x43E),
  ("CYRILLIC SMALL LETTER PE", 0x43F), ("CYRILLIC SMALL LETTER ER", 0x440),
  ("CYRILLIC SMALL LETTER ES", 0x441), ("CYRILLIC SMALL LETTER TE", 0x442),
  ("CYRILLIC SMALL LETTER U", 0x443), ("CYRILLIC SMALL LETTER EF", 0x444),
  ("CYRILLIC SMALL LETTER HA", 0x445), ("CYRILLIC SMALL LETTER TSE", 0x446),
  ("CYRILLIC SMALL LETTER CHE", 0x447), ("CYRILLIC SMALL LETTER SHA", 0x448),
  ("CYRILLIC SMALL LETTER SHCHA", 0x449), ("CYRILLIC SMALL LETTER HARD SIGN", 0x44A),
  ("CYRILLIC SMALL LETTER YERU", 0x44B), ("CYRILLIC SMALL LETTER SOFT SIGN", 0x44C),
  ("CYRILLIC SMALL LETTER E", 0x44D), ("CYRILLIC SMALL LETTER YU", 0x44E),
  ("CYRILLIC SMALL LETTER YA", 0x44F), ("CYRILLIC SMALL LETTER IE WITH GRAVE", 0x450),
  ("CYRILLIC SMALL LETTER IO", 0x451), ("CYRILLIC SMALL LETTER DJE", 0x452),
  ("CYRILLIC SMALL LETTER GJE", 0x453), ("CYRILLIC SMALL LETTER UKRAINIAN IE", 0x454),
  ("CYRILLIC SMALL LETTER DZE", 0x455),
  ("CYRILLIC SMALL LETTER BYELORUSSIAN-UKRAINIAN I", 0x456),
  ("CYRILLIC SMALL LETTER YI", 0x457), ("CYRILLIC SMALL LETTER JE", 0x458),
  ("CYRILLIC SMALL LETTER LJE", 0x459), ("CYRILLIC SMALL LETTER NJE", 0x45A),
  ("CYRILLIC SMALL LETTER TSHE", 0x45B), ("CYRILLIC SMALL LETTER KJE", 0x45C),
  ("CYRILLIC SMALL LETTER I WITH GRAVE", 0x45D), ("CYRILLIC SMALL LETTER SHORT U", 0x45E),
  ("CYRILLIC SMALL LETTER DZHE", 0x45F), ("EN QUAD", 0x2000), ("EM QUAD", 0x2001),
  ("EN SPACE", 0x2002), ("EM SPACE", 0x2003), ("THREE-PER-EM SPACE", 0x2004),
  ("FOUR-PER-EM SPACE", 0x2005), ("SIX-PER-EM SPACE", 0x2006), ("FIGURE SPACE", 0x2007),
  ("PUNCTUATION SPACE", 0x2008), ("THIN SPACE", 0x2009), ("HAIR SPACE", 0x200A),
  ("ZERO WIDTH SPACE", 0x200B), ("ZWSP", 0x200B), ("ZERO WIDTH NON-JOINER", 0x200C),
  ("ZWNJ", 0x200C), ("ZERO WIDTH JOINER", 0x200D), ("ZWJ", 0x200D),
  ("LEFT-TO-RIGHT MARK", 0x200E), ("LRM", 0x200E), ("RIGHT-TO-LEFT MARK", 0x200F),
  ("RLM", 0x200F), ("HYPHEN", 0x2010), ("NON-BREAKING HYPHEN", 0x2011), ("FIGURE DASH", 0x2012),
  ("EN DASH", 0x2013), ("EM DASH", 0x2014), ("HORIZONTAL BAR", 0x2015),
  ("DOUBLE VERTICAL LINE", 0x2016), ("DOUBLE LOW LINE", 0x2017),
  ("LEFT SINGLE QUOTATION MARK", 0x2018), ("RIGHT SINGLE QUOTATION MARK", 0x2019),
  ("SINGLE LOW-9 QUOTATION MARK", 0x201A), ("SINGLE HIGH-REVERSED-9 QUOTATION MARK", 0x201B),
  ("LEFT DOUBLE QUOTATION MARK", 0x201C), ("RIGHT DOUBLE QUOTATION MARK", 0x201D),
  ("DOUBLE LOW-9 QUOTATION MARK", 0x201E), ("DOUBLE HIGH-REVERSED-9 QUOTATION MARK", 0x201F),
  ("DAGGER", 0x2020), ("DOUBLE DAGGER", 0x2021), ("BULLET", 0x2022),
  ("TRIANGULAR BULLET", 0x2023), ("ONE DOT LEADER", 0x2024), ("TWO DOT LEADER", 0x2025),
  ("HORIZONTAL ELLIPSIS", 0x2026), ("HYPHENATION POINT", 0x2027), ("LINE SEPARATOR", 0x2028),
  ("PARAGRAPH SEPARATOR", 0x2029), ("LEFT-TO-RIGHT EMBEDDING", 0x202A),
  ("RIGHT-TO-LEFT EMBEDDING", 0x202B), ("POP DIRECTIONAL FORMATTING", 0x202C),
  ("LEFT-TO-RIGHT OVERRIDE", 0x202D), ("RIGHT-TO-LEFT OVERRIDE", 0x202E),
  ("NARROW NO-BREAK SPACE", 0x202F), ("PER MILLE SIGN", 0x2030),
  ("PER TEN THOUSAND SIGN", 0x2031), ("PRIME", 0x2032), ("DOUBLE PRIME", 0x2033),
  ("TRIPLE PRIME", 0x2034), ("REVERSED PRIME", 0x2035), ("REVERSED DOUBLE PRIME", 0x2036),
  ("REVERSED TRIPLE PRIME", 0x2037), ("CARET", 0x2038),
  ("SINGLE LEFT-POINTING ANGLE QUOTATION MARK", 0x2039),
  ("SINGLE RIGHT-POINTING ANGLE QUOTATION MARK", 0x203A), ("REFERENCE MARK", 0x203B),
  ("DOUBLE EXCLAMATION MARK", 0x203C), ("INTERROBANG", 0x203D), ("OVERLINE", 0x203E),
  ("UNDERTIE", 0x203F), ("CHARACTER TIE", 0x2040), ("CARET INSERTION POINT", 0x2041),
  ("ASTERISM", 0x2042), ("HYPHEN BULLET", 0x2043), ("FRACTION SLASH", 0x2044),
  ("LEFT SQUARE BRACKET WITH QUILL", 0x2045), ("RIGHT SQUARE BRACKET WITH QUILL", 0x2046),
  ("DOUBLE QUESTION MARK", 0x2047), ("QUESTION EXCLAMATION MARK", 0x2048),
  ("EXCLAMATION QUESTION MARK", 0x2049), ("TIRONIAN SIGN ET", 0x204A),
  ("REVERSED PILCROW SIGN", 0x204B), ("BLACK LEFTWARDS BULLET", 0x204C),
  ("BLACK RIGHTWARDS BULLET", 0x204D), ("LOW ASTERISK", 0x204E), ("REVERSED SEMICOLON", 0x204F),
  ("CLOSE UP", 0x2050), ("TWO ASTERISKS ALIGNED VERTICALLY", 0x2051),
  ("COMMERCIAL MINUS SIGN", 0x2052), ("SWUNG DASH", 0x2053), ("INVERTED UNDERTIE", 0x2054),
  ("FLOWER PUNCTUATION MARK", 0x2055), ("THREE DOT PUNCTUATION", 0x2056),
  ("QUADRUPLE PRIME", 0x2057), ("FOUR DOT PUNCTUATION", 0x2058),
  ("FIVE DOT PUNCTUATION", 0x2059), ("TWO DOT PUNCTUATION", 0x205A), ("FOUR DOT MARK", 0x205B),
  ("DOTTED CROSS", 0x205C), ("TRICOLON", 0x205D), ("VERTICAL FOUR DOTS", 0x205E),
  ("EURO-CURRENCY SIGN", 0x20A0), ("COLON SIGN", 0x20A1), ("CRUZEIRO SIGN", 0x20A2),
  ("FRENCH FRANC SIGN", 0x20A3), ("LIRA SIGN", 0x20A4), ("MILL SIGN", 0x20A5),
  ("NAIRA SIGN", 0x20A6), ("PESETA SIGN", 0x20A7), ("RUPEE SIGN", 0x20A8), ("WON SIGN", 0x20A9),
  ("NEW SHEQEL SIGN", 0x20AA), ("DONG SIGN", 0x20AB), ("EURO SIGN", 0x20AC),
  ("KIP SIGN", 0x20AD), ("TUGRIK SIGN", 0x20AE), ("DRACHMA SIGN", 0x20AF),
  ("GERMAN PENNY SIGN", 0x20B0), ("PESO SIGN", 0x20B1), ("GUARANI SIGN", 0x20B2),
  ("AUSTRAL SIGN", 0x20B3), ("HRYVNIA SIGN", 0x20B4), ("CEDI SIGN", 0x20B5),
  ("LIVRE TOURNOIS SIGN", 0x20B6), ("SPESMILO SIGN", 0x20B7), ("TENGE SIGN", 0x20B8),
  ("INDIAN RUPEE SIGN", 0x20B9), ("TURKISH LIRA SIGN", 0x20BA), ("NORDIC MARK SIGN", 0x20BB),
  ("MANAT SIGN", 0x20BC), ("RUBLE SIGN", 0x20BD), ("LARI SIGN", 0x20BE),
  ("BITCOIN SIGN", 0x20BF), ("SOM SIGN", 0x20C0), ("ACCOUNT OF", 0x2100),
  ("ADDRESSED TO THE SUBJECT", 0x2101), ("DOUBLE-STRUCK CAPITAL C", 0x2102),
  ("DEGREE CELSIUS", 0x2103), ("CENTRE LINE SYMBOL", 0x2104), ("CARE OF", 0x2105),
  ("CADA UNA", 0x2106), ("EULER CONSTANT", 0x2107), ("SCRUPLE", 0x2108),
  ("DEGREE FAHRENHEIT", 0x2109), ("SCRIPT SMALL G", 0x210A), ("SCRIPT CAPITAL H", 0x210B),
  ("BLACK-LETTER CAPITAL H", 0x210C), ("DOUBLE-STRUCK CAPITAL H", 0x210D),
  ("PLANCK CONSTANT", 0x210E), ("PLANCK CONSTANT OVER TWO PI", 0x210F),
  ("SCRIPT CAPITAL I", 0x2110), ("BLACK-LETTER CAPITAL I", 0x2111),
  ("SCRIPT CAPITAL L", 0x2112), ("SCRIPT SMALL L", 0x2113), ("L B BAR SYMBOL", 0x2114),
  ("DOUBLE-STRUCK CAPITAL N", 0x2115), ("NUMERO SIGN", 0x2116),
  ("SOUND RECORDING COPYRIGHT", 0x2117), ("SCRIPT CAPITAL P", 0x2118),
  ("DOUBLE-STRUCK CAPITAL P", 0x2119), ("DOUBLE-STRUCK CAPITAL Q", 0x211A),
  ("SCRIPT CAPITAL R", 0x211B), ("BLACK-LETTER CAPITAL R", 0x211C),
  ("DOUBLE-STRUCK CAPITAL R", 0x211D), ("PRESCRIPTION TAKE", 0x211E), ("RESPONSE", 0x211F),
  ("SERVICE MARK", 0x2120), ("TELEPHONE SIGN", 0x2121), ("TRADE MARK SIGN", 0x2122),
  ("VERSICLE", 0x2123), ("DOUBLE-STRUCK CAPITAL Z", 0x2124), ("OUNCE SIGN", 0x2125),
  ("OHM SIGN", 0x2126), ("INVERTED OHM SIGN", 0x2127), ("BLACK-LETTER CAPITAL Z", 0x2128),
  ("TURNED GREEK SMALL LETTER IOTA", 0x2129), ("KELVIN SIGN", 0x212A),
  ("ANGSTROM SIGN", 0x212B), ("VULGAR FRACTION ONE SEVENTH", 0x2150),
  ("VULGAR FRACTION ONE NINTH", 0x2151), ("VULGAR FRACTION ONE TENTH", 0x2152),
  ("VULGAR FRACTION ONE THIRD", 0x2153), ("VULGAR FRACTION TWO THIRDS", 0x2154),
  ("VULGAR FRACTION ONE FIFTH", 0x2155), ("VULGAR FRACTION TWO FIFTHS", 0x2156),
  ("VULGAR FRACTION THREE FIFTHS", 0x2157), ("VULGAR FRACTION FOUR FIFTHS", 0x2158),
  ("VULGAR FRACTION ONE SIXTH", 0x2159), ("VULGAR FRACTION FIVE SIXTHS", 0x215A),
  ("VULGAR FRACTION ONE EIGHTH", 0x215B), ("VULGAR FRACTION THREE EIGHTHS", 0x215C),
  ("VULGAR FRACTION FIVE EIGHTHS", 0x215D), ("VULGAR FRACTION SEVEN EIGHTHS", 0x215E),
  ("LEFTWARDS ARROW", 0x2190), ("UPWARDS ARROW", 0x2191), ("RIGHTWARDS ARROW", 0x2192)]

/-- Named characters from U+2193 to U+1F680. -/
def namesFrom2193 : List (String × Nat) := [
  ("DOWNWARDS ARROW", 0x2193), ("LEFT RIGHT ARROW", 0x2194), ("UP DOWN ARROW", 0x2195),
  ("NORTH WEST ARROW", 0x2196), ("NORTH EAST ARROW", 0x2197), ("SOUTH EAST ARROW", 0x2198),
  ("SOUTH WEST ARROW", 0x2199), ("LEFTWARDS ARROW WITH STROKE", 0x219A),
  ("RIGHTWARDS ARROW WITH STROKE", 0x219B), ("LEFTWARDS DOUBLE ARROW", 0x21D0),
  ("UPWARDS DOUBLE ARROW", 0x21D1), ("RIGHTWARDS DOUBLE ARROW", 0x21D2),
  ("DOWNWARDS DOUBLE ARROW", 0x21D3), ("LEFT RIGHT DOUBLE ARROW", 0x21D4), ("FOR ALL", 0x2200),
  ("COMPLEMENT", 0x2201), ("PARTIAL DIFFERENTIAL", 0x2202), ("THERE EXISTS", 0x2203),
  ("THERE DOES NOT EXIST", 0x2204), ("EMPTY SET", 0x2205), ("INCREMENT", 0x2206),
  ("NABLA", 0x2207), ("ELEMENT OF", 0x2208), ("NOT AN ELEMENT OF", 0x2209),
  ("SMALL ELEMENT OF", 0x220A), ("CONTAINS AS MEMBER", 0x220B),
  ("DOES NOT CONTAIN AS MEMBER", 0x220C), ("SMALL CONTAINS AS MEMBER", 0x220D),
  ("END OF PROOF", 0x220E), ("N-ARY PRODUCT", 0x220F), ("N-ARY COPRODUCT", 0x2210),
  ("N-ARY SUMMATION", 0x2211), ("MINUS SIGN", 0x2212), ("MINUS-OR-PLUS SIGN", 0x2213),
  ("DOT PLUS", 0x2214), ("DIVISION SLASH", 0x2215), ("SET MINUS", 0x2216),
  ("ASTERISK OPERATOR", 0x2217), ("RING OPERATOR", 0x2218), ("BULLET OPERATOR", 0x2219),
  ("SQUARE ROOT", 0x221A), ("CUBE ROOT", 0x221B), ("FOURTH ROOT", 0x221C),
  ("PROPORTIONAL TO", 0x221D), ("INFINITY", 0x221E), ("LOGICAL AND", 0x2227),
  ("LOGICAL OR", 0x2228), ("INTERSECTION", 0x2229), ("UNION", 0x222A), ("INTEGRAL", 0x222B),
  ("ALMOST EQUAL TO", 0x2248), ("NOT EQUAL TO", 0x2260), ("IDENTICAL TO", 0x2261),
  ("NOT IDENTICAL TO", 0x2262), ("STRICTLY EQUIVALENT TO", 0x2263),
  ("LESS-THAN OR EQUAL TO", 0x2264), ("GREATER-THAN OR EQUAL TO", 0x2265),
  ("CIRCLED DIGIT ONE", 0x2460), ("CIRCLED DIGIT TWO", 0x2461), ("CIRCLED DIGIT THREE", 0x2462),
  ("CIRCLED DIGIT FOUR", 0x2463), ("CIRCLED DIGIT FIVE", 0x2464), ("CIRCLED DIGIT SIX", 0x2465),
  ("CIRCLED DIGIT SEVEN", 0x2466), ("CIRCLED DIGIT EIGHT", 0x2467),
  ("CIRCLED DIGIT NINE", 0x2468), ("CIRCLED NUMBER TEN", 0x2469),
  ("BOX DRAWINGS LIGHT HORIZONTAL", 0x2500), ("BOX DRAWINGS HEAVY HORIZONTAL", 0x2501),
  ("BOX DRAWINGS LIGHT VERTICAL", 0x2502), ("FULL BLOCK", 0x2588), ("BLACK SQUARE", 0x25A0),
  ("WHITE SQUARE", 0x25A1), ("WHITE CIRCLE", 0x25CB), ("DOTTED CIRCLE", 0x25CC),
  ("CIRCLE WITH VERTICAL FILL", 0x25CD), ("BULLSEYE", 0x25CE), ("BLACK CIRCLE", 0x25CF),
  ("BLACK SUN WITH RAYS", 0x2600), ("CLOUD", 0x2601), ("UMBRELLA", 0x2602), ("SNOWMAN", 0x2603),
  ("COMET", 0x2604), ("BLACK STAR", 0x2605), ("WHITE STAR", 0x2606),
  ("BLACK TELEPHONE", 0x260E), ("BALLOT BOX", 0x2610), ("BALLOT BOX WITH CHECK", 0x2611),
  ("BALLOT BOX WITH X", 0x2612), ("SKULL AND CROSSBONES", 0x2620),
  ("WHITE SMILING FACE", 0x263A), ("BLACK SPADE SUIT", 0x2660), ("WHITE HEART SUIT", 0x2661),
  ("WHITE DIAMOND SUIT", 0x2662), ("BLACK CLUB SUIT", 0x2663), ("WHITE SPADE SUIT", 0x2664),
  ("BLACK HEART SUIT", 0x2665), ("BLACK DIAMOND SUIT", 0x2666), ("WHITE CLUB SUIT", 0x2667),
  ("HOT SPRINGS", 0x2668), ("QUARTER NOTE", 0x2669), ("EIGHTH NOTE", 0x266A),
  ("BEAMED EIGHTH NOTES", 0x266B), ("BEAMED SIXTEENTH NOTES", 0x266C),
  ("MUSIC FLAT SIGN", 0x266D), ("MUSIC NATURAL SIGN", 0x266E), ("MUSIC SHARP SIGN", 0x266F),
  ("WARNING SIGN", 0x26A0), ("HIGH VOLTAGE SIGN", 0x26A1), ("WHITE HEAVY CHECK MARK", 0x2705),
  ("CHECK MARK", 0x2713), ("HEAVY CHECK MARK", 0x2714), ("MULTIPLICATION X", 0x2715),
  ("HEAVY MULTIPLICATION X", 0x2716), ("BALLOT X", 0x2717), ("CROSS MARK", 0x274C),
  ("HEAVY BLACK HEART", 0x2764), ("IDEOGRAPHIC SPACE", 0x3000), ("IDEOGRAPHIC COMMA", 0x3001),
  ("IDEOGRAPHIC FULL STOP", 0x3002), ("HIRAGANA LETTER A", 0x3042),
  ("KATAKANA LETTER A", 0x30A2), ("ZERO WIDTH NO-BREAK SPACE", 0xFEFF),
  ("BYTE ORDER MARK", 0xFEFF), ("BOM", 0xFEFF), ("ZWNBSP", 0xFEFF),
  ("REPLACEMENT CHARACTER", 0xFFFD), ("PARTY POPPER", 0x1F389), ("THUMBS UP SIGN", 0x1F44D),
  ("BELL", 0x1F514), ("GRINNING FACE", 0x1F600), ("GRINNING FACE WITH SMILING EYES", 0x1F601),
  ("FACE WITH TEARS OF JOY", 0x1F602), ("SMILING FACE WITH OPEN MOUTH", 0x1F603),
  ("SMILING FACE WITH OPEN MOUTH AND SMILING EYES", 0x1F604),
  ("SMILING FACE WITH OPEN MOUTH AND COLD SWEAT", 0x1F605),
  ("SMILING FACE WITH OPEN MOUTH AND TIGHTLY-CLOSED EYES", 0x1F606),
  ("SMILING FACE WITH HALO", 0x1F607), ("SMILING FACE WITH HORNS", 0x1F608),
  ("WINKING FACE", 0x1F609), ("SMILING FACE WITH SMILING EYES", 0x1F60A),
  ("FACE SAVOURING DELICIOUS FOOD", 0x1F60B), ("RELIEVED FACE", 0x1F60C),
  ("SMILING FACE WITH HEART-SHAPED EYES", 0x1F60D), ("SMILING FACE WITH SUNGLASSES", 0x1F60E),
  ("SMIRKING FACE", 0x1F60F), ("NEUTRAL FACE", 0x1F610), ("EXPRESSIONLESS FACE", 0x1F611),
  ("UNAMUSED FACE", 0x1F612), ("FACE WITH COLD SWEAT", 0x1F613), ("PENSIVE FACE", 0x1F614),
  ("CONFUSED FACE", 0x1F615), ("CONFOUNDED FACE", 0x1F616), ("KISSING FACE", 0x1F617),
  ("FACE THROWING A KISS", 0x1F618), ("KISSING FACE WITH SMILING EYES", 0x1F619),
  ("KISSING FACE WITH CLOSED EYES", 0x1F61A), ("FACE WITH STUCK-OUT TONGUE", 0x1F61B),
  ("FACE WITH STUCK-OUT TONGUE AND WINKING EYE", 0x1F61C),
  ("FACE WITH STUCK-OUT TONGUE AND TIGHTLY-CLOSED EYES", 0x1F61D),
  ("DISAPPOINTED FACE", 0x1F61E), ("WORRIED FACE", 0x1F61F), ("ANGRY FACE", 0x1F620),
  ("POUTING FACE", 0x1F621), ("CRYING FACE", 0x1F622), ("PERSEVERING FACE", 0x1F623),
  ("FACE WITH LOOK OF TRIUMPH", 0x1F624), ("DISAPPOINTED BUT RELIEVED FACE", 0x1F625),
  ("FROWNING FACE WITH OPEN MOUTH", 0x1F626), ("ANGUISHED FACE", 0x1F627),
  ("FEARFUL FACE", 0x1F628), ("WEARY FACE", 0x1F629), ("SLEEPY FACE", 0x1F62A),
  ("TIRED FACE", 0x1F62B), ("GRIMACING FACE", 0x1F62C), ("LOUDLY CRYING FACE", 0x1F62D),
  ("FACE WITH OPEN MOUTH", 0x1F62E), ("HUSHED FACE", 0x1F62F),
  ("FACE WITH OPEN MOUTH AND COLD SWEAT", 0x1F630), ("FACE SCREAMING IN FEAR", 0x1F631),
  ("ASTONISHED FACE", 0x1F632), ("FLUSHED FACE", 0x1F633), ("SLEEPING FACE", 0x1F634),
  ("DIZZY FACE", 0x1F635), ("FACE WITHOUT MOUTH", 0x1F636), ("FACE WITH MEDICAL MASK", 0x1F637),
  ("GRINNING CAT FACE WITH SMILING EYES", 0x1F638), ("CAT FACE WITH TEARS OF JOY", 0x1F639),
  ("SMILING CAT FACE WITH OPEN MOUTH", 0x1F63A),
  ("SMILING CAT FACE WITH HEART-SHAPED EYES", 0x1F63B), ("CAT FACE WITH WRY SMILE", 0x1F63C),
  ("KISSING CAT FACE WITH CLOSED EYES", 0x1F63D), ("POUTING CAT FACE", 0x1F63E),
  ("CRYING CAT FACE", 0x1F63F), ("WEARY CAT FACE", 0x1F640),
  ("SLIGHTLY FROWNING FACE", 0x1F641), ("SLIGHTLY SMILING FACE", 0x1F642),
  ("UPSIDE-DOWN FACE", 0x1F643), ("FACE WITH ROLLING EYES", 0x1F644),
  ("FACE WITH NO GOOD GESTURE", 0x1F645), ("FACE WITH OK GESTURE", 0x1F646),
  ("PERSON BOWING DEEPLY", 0x1F647), ("SEE-NO-EVIL MONKEY", 0x1F648),
  ("HEAR-NO-EVIL MONKEY", 0x1F649), ("SPEAK-NO-EVIL MONKEY", 0x1F64A),
  ("HAPPY PERSON RAISING ONE HAND", 0x1F64B),
  ("PERSON RAISING BOTH HANDS IN CELEBRATION", 0x1F64C), ("PERSON FROWNING", 0x1F64D),
  ("PERSON WITH POUTING FACE", 0x1F64E), ("PERSON WITH FOLDED HANDS", 0x1F64F),
  ("ROCKET", 0x1F680)]

def codeOfName? (name : List Char) : Option Nat :=
  let wanted := String.ofList (name.map Char.toUpper)
  [namesFrom0000, namesFrom011A, namesFrom0429, namesFrom2193].findSome? fun table =>
    (table.find? fun entry => entry.1 = wanted).map Prod.snd

end Assay.Pattern
