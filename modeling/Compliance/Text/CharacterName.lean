/-!
# Names of characters

The names by which a search pattern can call characters: those of the Latin, Greek and punctuation
blocks, and the usual names of control characters (`unicodedata.lookup`, in part).
-/
namespace Compliance.Text

/-- Names with their code points. -/
def characterNames : List (String × Nat) := [
    ("SPACE", 32), ("EXCLAMATION MARK", 33), ("QUOTATION MARK", 34), ("NUMBER SIGN", 35),
    ("DOLLAR SIGN", 36), ("PERCENT SIGN", 37), ("AMPERSAND", 38), ("APOSTROPHE", 39),
    ("LEFT PARENTHESIS", 40), ("RIGHT PARENTHESIS", 41), ("ASTERISK", 42), ("PLUS SIGN", 43),
    ("COMMA", 44), ("HYPHEN-MINUS", 45), ("FULL STOP", 46), ("SOLIDUS", 47), ("DIGIT ZERO", 48),
    ("DIGIT ONE", 49), ("DIGIT TWO", 50), ("DIGIT THREE", 51), ("DIGIT FOUR", 52),
    ("DIGIT FIVE", 53), ("DIGIT SIX", 54), ("DIGIT SEVEN", 55), ("DIGIT EIGHT", 56),
    ("DIGIT NINE", 57), ("COLON", 58), ("SEMICOLON", 59), ("LESS-THAN SIGN", 60),
    ("EQUALS SIGN", 61), ("GREATER-THAN SIGN", 62), ("QUESTION MARK", 63), ("COMMERCIAL AT", 64),
    ("LATIN CAPITAL LETTER A", 65), ("LATIN CAPITAL LETTER B", 66), ("LATIN CAPITAL LETTER C", 67),
    ("LATIN CAPITAL LETTER D", 68), ("LATIN CAPITAL LETTER E", 69), ("LATIN CAPITAL LETTER F", 70),
    ("LATIN CAPITAL LETTER G", 71), ("LATIN CAPITAL LETTER H", 72), ("LATIN CAPITAL LETTER I", 73),
    ("LATIN CAPITAL LETTER J", 74), ("LATIN CAPITAL LETTER K", 75), ("LATIN CAPITAL LETTER L", 76),
    ("LATIN CAPITAL LETTER M", 77), ("LATIN CAPITAL LETTER N", 78), ("LATIN CAPITAL LETTER O", 79),
    ("LATIN CAPITAL LETTER P", 80), ("LATIN CAPITAL LETTER Q", 81), ("LATIN CAPITAL LETTER R", 82),
    ("LATIN CAPITAL LETTER S", 83), ("LATIN CAPITAL LETTER T", 84), ("LATIN CAPITAL LETTER U", 85),
    ("LATIN CAPITAL LETTER V", 86), ("LATIN CAPITAL LETTER W", 87), ("LATIN CAPITAL LETTER X", 88),
    ("LATIN CAPITAL LETTER Y", 89), ("LATIN CAPITAL LETTER Z", 90), ("LEFT SQUARE BRACKET", 91),
    ("REVERSE SOLIDUS", 92), ("RIGHT SQUARE BRACKET", 93), ("CIRCUMFLEX ACCENT", 94),
    ("LOW LINE", 95), ("GRAVE ACCENT", 96), ("LATIN SMALL LETTER A", 97),
    ("LATIN SMALL LETTER B", 98), ("LATIN SMALL LETTER C", 99), ("LATIN SMALL LETTER D", 100),
    ("LATIN SMALL LETTER E", 101), ("LATIN SMALL LETTER F", 102), ("LATIN SMALL LETTER G", 103),
    ("LATIN SMALL LETTER H", 104), ("LATIN SMALL LETTER I", 105), ("LATIN SMALL LETTER J", 106),
    ("LATIN SMALL LETTER K", 107), ("LATIN SMALL LETTER L", 108), ("LATIN SMALL LETTER M", 109),
    ("LATIN SMALL LETTER N", 110), ("LATIN SMALL LETTER O", 111), ("LATIN SMALL LETTER P", 112),
    ("LATIN SMALL LETTER Q", 113), ("LATIN SMALL LETTER R", 114), ("LATIN SMALL LETTER S", 115),
    ("LATIN SMALL LETTER T", 116), ("LATIN SMALL LETTER U", 117), ("LATIN SMALL LETTER V", 118),
    ("LATIN SMALL LETTER W", 119), ("LATIN SMALL LETTER X", 120), ("LATIN SMALL LETTER Y", 121),
    ("LATIN SMALL LETTER Z", 122), ("LEFT CURLY BRACKET", 123), ("VERTICAL LINE", 124),
    ("RIGHT CURLY BRACKET", 125), ("TILDE", 126), ("NO-BREAK SPACE", 160),
    ("INVERTED EXCLAMATION MARK", 161), ("CENT SIGN", 162), ("POUND SIGN", 163),
    ("CURRENCY SIGN", 164), ("YEN SIGN", 165), ("BROKEN BAR", 166), ("SECTION SIGN", 167),
    ("DIAERESIS", 168), ("COPYRIGHT SIGN", 169), ("FEMININE ORDINAL INDICATOR", 170),
    ("LEFT-POINTING DOUBLE ANGLE QUOTATION MARK", 171), ("NOT SIGN", 172), ("SOFT HYPHEN", 173),
    ("REGISTERED SIGN", 174), ("MACRON", 175), ("DEGREE SIGN", 176), ("PLUS-MINUS SIGN", 177),
    ("SUPERSCRIPT TWO", 178), ("SUPERSCRIPT THREE", 179), ("ACUTE ACCENT", 180),
    ("MICRO SIGN", 181), ("PILCROW SIGN", 182), ("MIDDLE DOT", 183), ("CEDILLA", 184),
    ("SUPERSCRIPT ONE", 185), ("MASCULINE ORDINAL INDICATOR", 186),
    ("RIGHT-POINTING DOUBLE ANGLE QUOTATION MARK", 187), ("VULGAR FRACTION ONE QUARTER", 188),
    ("VULGAR FRACTION ONE HALF", 189), ("VULGAR FRACTION THREE QUARTERS", 190),
    ("INVERTED QUESTION MARK", 191), ("LATIN CAPITAL LETTER A WITH GRAVE", 192),
    ("LATIN CAPITAL LETTER A WITH ACUTE", 193), ("LATIN CAPITAL LETTER A WITH CIRCUMFLEX", 194),
    ("LATIN CAPITAL LETTER A WITH TILDE", 195), ("LATIN CAPITAL LETTER A WITH DIAERESIS", 196),
    ("LATIN CAPITAL LETTER A WITH RING ABOVE", 197), ("LATIN CAPITAL LETTER AE", 198),
    ("LATIN CAPITAL LETTER C WITH CEDILLA", 199), ("LATIN CAPITAL LETTER E WITH GRAVE", 200),
    ("LATIN CAPITAL LETTER E WITH ACUTE", 201), ("LATIN CAPITAL LETTER E WITH CIRCUMFLEX", 202),
    ("LATIN CAPITAL LETTER E WITH DIAERESIS", 203), ("LATIN CAPITAL LETTER I WITH GRAVE", 204),
    ("LATIN CAPITAL LETTER I WITH ACUTE", 205), ("LATIN CAPITAL LETTER I WITH CIRCUMFLEX", 206),
    ("LATIN CAPITAL LETTER I WITH DIAERESIS", 207), ("LATIN CAPITAL LETTER ETH", 208),
    ("LATIN CAPITAL LETTER N WITH TILDE", 209), ("LATIN CAPITAL LETTER O WITH GRAVE", 210),
    ("LATIN CAPITAL LETTER O WITH ACUTE", 211), ("LATIN CAPITAL LETTER O WITH CIRCUMFLEX", 212),
    ("LATIN CAPITAL LETTER O WITH TILDE", 213), ("LATIN CAPITAL LETTER O WITH DIAERESIS", 214),
    ("MULTIPLICATION SIGN", 215), ("LATIN CAPITAL LETTER O WITH STROKE", 216),
    ("LATIN CAPITAL LETTER U WITH GRAVE", 217), ("LATIN CAPITAL LETTER U WITH ACUTE", 218),
    ("LATIN CAPITAL LETTER U WITH CIRCUMFLEX", 219),
    ("LATIN CAPITAL LETTER U WITH DIAERESIS", 220), ("LATIN CAPITAL LETTER Y WITH ACUTE", 221),
    ("LATIN CAPITAL LETTER THORN", 222), ("LATIN SMALL LETTER SHARP S", 223),
    ("LATIN SMALL LETTER A WITH GRAVE", 224), ("LATIN SMALL LETTER A WITH ACUTE", 225),
    ("LATIN SMALL LETTER A WITH CIRCUMFLEX", 226), ("LATIN SMALL LETTER A WITH TILDE", 227),
    ("LATIN SMALL LETTER A WITH DIAERESIS", 228), ("LATIN SMALL LETTER A WITH RING ABOVE", 229),
    ("LATIN SMALL LETTER AE", 230), ("LATIN SMALL LETTER C WITH CEDILLA", 231),
    ("LATIN SMALL LETTER E WITH GRAVE", 232), ("LATIN SMALL LETTER E WITH ACUTE", 233),
    ("LATIN SMALL LETTER E WITH CIRCUMFLEX", 234), ("LATIN SMALL LETTER E WITH DIAERESIS", 235),
    ("LATIN SMALL LETTER I WITH GRAVE", 236), ("LATIN SMALL LETTER I WITH ACUTE", 237),
    ("LATIN SMALL LETTER I WITH CIRCUMFLEX", 238), ("LATIN SMALL LETTER I WITH DIAERESIS", 239),
    ("LATIN SMALL LETTER ETH", 240), ("LATIN SMALL LETTER N WITH TILDE", 241),
    ("LATIN SMALL LETTER O WITH GRAVE", 242), ("LATIN SMALL LETTER O WITH ACUTE", 243),
    ("LATIN SMALL LETTER O WITH CIRCUMFLEX", 244), ("LATIN SMALL LETTER O WITH TILDE", 245),
    ("LATIN SMALL LETTER O WITH DIAERESIS", 246), ("DIVISION SIGN", 247),
    ("LATIN SMALL LETTER O WITH STROKE", 248), ("LATIN SMALL LETTER U WITH GRAVE", 249),
    ("LATIN SMALL LETTER U WITH ACUTE", 250), ("LATIN SMALL LETTER U WITH CIRCUMFLEX", 251),
    ("LATIN SMALL LETTER U WITH DIAERESIS", 252), ("LATIN SMALL LETTER Y WITH ACUTE", 253),
    ("LATIN SMALL LETTER THORN", 254), ("LATIN SMALL LETTER Y WITH DIAERESIS", 255),
    ("GREEK CAPITAL LETTER HETA", 880), ("GREEK SMALL LETTER HETA", 881),
    ("GREEK CAPITAL LETTER ARCHAIC SAMPI", 882), ("GREEK SMALL LETTER ARCHAIC SAMPI", 883),
    ("GREEK NUMERAL SIGN", 884), ("GREEK LOWER NUMERAL SIGN", 885),
    ("GREEK CAPITAL LETTER PAMPHYLIAN DIGAMMA", 886),
    ("GREEK SMALL LETTER PAMPHYLIAN DIGAMMA", 887), ("GREEK YPOGEGRAMMENI", 890),
    ("GREEK SMALL REVERSED LUNATE SIGMA SYMBOL", 891),
    ("GREEK SMALL DOTTED LUNATE SIGMA SYMBOL", 892),
    ("GREEK SMALL REVERSED DOTTED LUNATE SIGMA SYMBOL", 893), ("GREEK QUESTION MARK", 894),
    ("GREEK CAPITAL LETTER YOT", 895), ("GREEK TONOS", 900), ("GREEK DIALYTIKA TONOS", 901),
    ("GREEK CAPITAL LETTER ALPHA WITH TONOS", 902), ("GREEK ANO TELEIA", 903),
    ("GREEK CAPITAL LETTER EPSILON WITH TONOS", 904), ("GREEK CAPITAL LETTER ETA WITH TONOS", 905),
    ("GREEK CAPITAL LETTER IOTA WITH TONOS", 906),
    ("GREEK CAPITAL LETTER OMICRON WITH TONOS", 908),
    ("GREEK CAPITAL LETTER UPSILON WITH TONOS", 910),
    ("GREEK CAPITAL LETTER OMEGA WITH TONOS", 911),
    ("GREEK SMALL LETTER IOTA WITH DIALYTIKA AND TONOS", 912), ("GREEK CAPITAL LETTER ALPHA", 913),
    ("GREEK CAPITAL LETTER BETA", 914), ("GREEK CAPITAL LETTER GAMMA", 915),
    ("GREEK CAPITAL LETTER DELTA", 916), ("GREEK CAPITAL LETTER EPSILON", 917),
    ("GREEK CAPITAL LETTER ZETA", 918), ("GREEK CAPITAL LETTER ETA", 919),
    ("GREEK CAPITAL LETTER THETA", 920), ("GREEK CAPITAL LETTER IOTA", 921),
    ("GREEK CAPITAL LETTER KAPPA", 922), ("GREEK CAPITAL LETTER LAMDA", 923),
    ("GREEK CAPITAL LETTER MU", 924), ("GREEK CAPITAL LETTER NU", 925),
    ("GREEK CAPITAL LETTER XI", 926), ("GREEK CAPITAL LETTER OMICRON", 927),
    ("GREEK CAPITAL LETTER PI", 928), ("GREEK CAPITAL LETTER RHO", 929),
    ("GREEK CAPITAL LETTER SIGMA", 931), ("GREEK CAPITAL LETTER TAU", 932),
    ("GREEK CAPITAL LETTER UPSILON", 933), ("GREEK CAPITAL LETTER PHI", 934),
    ("GREEK CAPITAL LETTER CHI", 935), ("GREEK CAPITAL LETTER PSI", 936),
    ("GREEK CAPITAL LETTER OMEGA", 937), ("GREEK CAPITAL LETTER IOTA WITH DIALYTIKA", 938),
    ("GREEK CAPITAL LETTER UPSILON WITH DIALYTIKA", 939),
    ("GREEK SMALL LETTER ALPHA WITH TONOS", 940), ("GREEK SMALL LETTER EPSILON WITH TONOS", 941),
    ("GREEK SMALL LETTER ETA WITH TONOS", 942), ("GREEK SMALL LETTER IOTA WITH TONOS", 943),
    ("GREEK SMALL LETTER UPSILON WITH DIALYTIKA AND TONOS", 944),
    ("GREEK SMALL LETTER ALPHA", 945), ("GREEK SMALL LETTER BETA", 946),
    ("GREEK SMALL LETTER GAMMA", 947), ("GREEK SMALL LETTER DELTA", 948),
    ("GREEK SMALL LETTER EPSILON", 949), ("GREEK SMALL LETTER ZETA", 950),
    ("GREEK SMALL LETTER ETA", 951), ("GREEK SMALL LETTER THETA", 952),
    ("GREEK SMALL LETTER IOTA", 953), ("GREEK SMALL LETTER KAPPA", 954),
    ("GREEK SMALL LETTER LAMDA", 955), ("GREEK SMALL LETTER MU", 956),
    ("GREEK SMALL LETTER NU", 957), ("GREEK SMALL LETTER XI", 958),
    ("GREEK SMALL LETTER OMICRON", 959), ("GREEK SMALL LETTER PI", 960),
    ("GREEK SMALL LETTER RHO", 961), ("GREEK SMALL LETTER FINAL SIGMA", 962),
    ("GREEK SMALL LETTER SIGMA", 963), ("GREEK SMALL LETTER TAU", 964),
    ("GREEK SMALL LETTER UPSILON", 965), ("GREEK SMALL LETTER PHI", 966),
    ("GREEK SMALL LETTER CHI", 967), ("GREEK SMALL LETTER PSI", 968),
    ("GREEK SMALL LETTER OMEGA", 969), ("GREEK SMALL LETTER IOTA WITH DIALYTIKA", 970),
    ("GREEK SMALL LETTER UPSILON WITH DIALYTIKA", 971),
    ("GREEK SMALL LETTER OMICRON WITH TONOS", 972), ("GREEK SMALL LETTER UPSILON WITH TONOS", 973),
    ("GREEK SMALL LETTER OMEGA WITH TONOS", 974), ("GREEK CAPITAL KAI SYMBOL", 975),
    ("GREEK BETA SYMBOL", 976), ("GREEK THETA SYMBOL", 977),
    ("GREEK UPSILON WITH HOOK SYMBOL", 978), ("GREEK UPSILON WITH ACUTE AND HOOK SYMBOL", 979),
    ("GREEK UPSILON WITH DIAERESIS AND HOOK SYMBOL", 980), ("GREEK PHI SYMBOL", 981),
    ("GREEK PI SYMBOL", 982), ("GREEK KAI SYMBOL", 983), ("GREEK LETTER ARCHAIC KOPPA", 984),
    ("GREEK SMALL LETTER ARCHAIC KOPPA", 985), ("GREEK LETTER STIGMA", 986),
    ("GREEK SMALL LETTER STIGMA", 987), ("GREEK LETTER DIGAMMA", 988),
    ("GREEK SMALL LETTER DIGAMMA", 989), ("GREEK LETTER KOPPA", 990),
    ("GREEK SMALL LETTER KOPPA", 991), ("GREEK LETTER SAMPI", 992),
    ("GREEK SMALL LETTER SAMPI", 993), ("COPTIC CAPITAL LETTER SHEI", 994),
    ("COPTIC SMALL LETTER SHEI", 995), ("COPTIC CAPITAL LETTER FEI", 996),
    ("COPTIC SMALL LETTER FEI", 997), ("COPTIC CAPITAL LETTER KHEI", 998),
    ("COPTIC SMALL LETTER KHEI", 999), ("COPTIC CAPITAL LETTER HORI", 1000),
    ("COPTIC SMALL LETTER HORI", 1001), ("COPTIC CAPITAL LETTER GANGIA", 1002),
    ("COPTIC SMALL LETTER GANGIA", 1003), ("COPTIC CAPITAL LETTER SHIMA", 1004),
    ("COPTIC SMALL LETTER SHIMA", 1005), ("COPTIC CAPITAL LETTER DEI", 1006),
    ("COPTIC SMALL LETTER DEI", 1007), ("GREEK KAPPA SYMBOL", 1008), ("GREEK RHO SYMBOL", 1009),
    ("GREEK LUNATE SIGMA SYMBOL", 1010), ("GREEK LETTER YOT", 1011),
    ("GREEK CAPITAL THETA SYMBOL", 1012), ("GREEK LUNATE EPSILON SYMBOL", 1013),
    ("GREEK REVERSED LUNATE EPSILON SYMBOL", 1014), ("GREEK CAPITAL LETTER SHO", 1015),
    ("GREEK SMALL LETTER SHO", 1016), ("GREEK CAPITAL LUNATE SIGMA SYMBOL", 1017),
    ("GREEK CAPITAL LETTER SAN", 1018), ("GREEK SMALL LETTER SAN", 1019),
    ("GREEK RHO WITH STROKE SYMBOL", 1020), ("GREEK CAPITAL REVERSED LUNATE SIGMA SYMBOL", 1021),
    ("GREEK CAPITAL DOTTED LUNATE SIGMA SYMBOL", 1022),
    ("GREEK CAPITAL REVERSED DOTTED LUNATE SIGMA SYMBOL", 1023), ("HYPHEN", 8208),
    ("NON-BREAKING HYPHEN", 8209), ("FIGURE DASH", 8210), ("EN DASH", 8211), ("EM DASH", 8212),
    ("HORIZONTAL BAR", 8213), ("DOUBLE VERTICAL LINE", 8214), ("DOUBLE LOW LINE", 8215),
    ("LEFT SINGLE QUOTATION MARK", 8216), ("RIGHT SINGLE QUOTATION MARK", 8217),
    ("SINGLE LOW-9 QUOTATION MARK", 8218), ("SINGLE HIGH-REVERSED-9 QUOTATION MARK", 8219),
    ("LEFT DOUBLE QUOTATION MARK", 8220), ("RIGHT DOUBLE QUOTATION MARK", 8221),
    ("DOUBLE LOW-9 QUOTATION MARK", 8222), ("DOUBLE HIGH-REVERSED-9 QUOTATION MARK", 8223),
    ("DAGGER", 8224), ("DOUBLE DAGGER", 8225), ("BULLET", 8226), ("TRIANGULAR BULLET", 8227),
    ("ONE DOT LEADER", 8228), ("TWO DOT LEADER", 8229), ("HORIZONTAL ELLIPSIS", 8230),
    ("HYPHENATION POINT", 8231), ("LINE SEPARATOR", 8232), ("PARAGRAPH SEPARATOR", 8233),
    ("LEFT-TO-RIGHT EMBEDDING", 8234), ("RIGHT-TO-LEFT EMBEDDING", 8235),
    ("POP DIRECTIONAL FORMATTING", 8236), ("LEFT-TO-RIGHT OVERRIDE", 8237),
    ("RIGHT-TO-LEFT OVERRIDE", 8238), ("NARROW NO-BREAK SPACE", 8239), ("PER MILLE SIGN", 8240),
    ("PER TEN THOUSAND SIGN", 8241), ("PRIME", 8242), ("DOUBLE PRIME", 8243),
    ("TRIPLE PRIME", 8244), ("REVERSED PRIME", 8245), ("REVERSED DOUBLE PRIME", 8246),
    ("REVERSED TRIPLE PRIME", 8247), ("CARET", 8248),
    ("SINGLE LEFT-POINTING ANGLE QUOTATION MARK", 8249),
    ("SINGLE RIGHT-POINTING ANGLE QUOTATION MARK", 8250), ("REFERENCE MARK", 8251),
    ("DOUBLE EXCLAMATION MARK", 8252), ("INTERROBANG", 8253), ("OVERLINE", 8254),
    ("UNDERTIE", 8255), ("CHARACTER TIE", 8256), ("CARET INSERTION POINT", 8257),
    ("ASTERISM", 8258), ("HYPHEN BULLET", 8259), ("FRACTION SLASH", 8260),
    ("LEFT SQUARE BRACKET WITH QUILL", 8261), ("RIGHT SQUARE BRACKET WITH QUILL", 8262),
    ("DOUBLE QUESTION MARK", 8263), ("QUESTION EXCLAMATION MARK", 8264),
    ("EXCLAMATION QUESTION MARK", 8265), ("TIRONIAN SIGN ET", 8266),
    ("REVERSED PILCROW SIGN", 8267), ("BLACK LEFTWARDS BULLET", 8268),
    ("BLACK RIGHTWARDS BULLET", 8269), ("LOW ASTERISK", 8270), ("REVERSED SEMICOLON", 8271),
    ("CLOSE UP", 8272), ("TWO ASTERISKS ALIGNED VERTICALLY", 8273),
    ("COMMERCIAL MINUS SIGN", 8274), ("SWUNG DASH", 8275), ("INVERTED UNDERTIE", 8276),
    ("FLOWER PUNCTUATION MARK", 8277), ("THREE DOT PUNCTUATION", 8278), ("QUADRUPLE PRIME", 8279),
    ("FOUR DOT PUNCTUATION", 8280), ("FIVE DOT PUNCTUATION", 8281), ("TWO DOT PUNCTUATION", 8282),
    ("FOUR DOT MARK", 8283), ("DOTTED CROSS", 8284), ("TRICOLON", 8285),
    ("VERTICAL FOUR DOTS", 8286), ("MEDIUM MATHEMATICAL SPACE", 8287), ("WORD JOINER", 8288),
    ("FUNCTION APPLICATION", 8289), ("INVISIBLE TIMES", 8290), ("INVISIBLE SEPARATOR", 8291),
    ("EURO SIGN", 8364), ("TRADE MARK SIGN", 8482), ("OHM SIGN", 8486), ("KELVIN SIGN", 8490),
    ("ANGSTROM SIGN", 8491), ("ZERO WIDTH NO-BREAK SPACE", 65279), ("ZERO WIDTH SPACE", 8203),
    ("ZERO WIDTH NON-JOINER", 8204), ("ZERO WIDTH JOINER", 8205), ("LEFT-TO-RIGHT MARK", 8206),
    ("RIGHT-TO-LEFT MARK", 8207), ("NULL", 0), ("START OF HEADING", 1), ("START OF TEXT", 2),
    ("END OF TEXT", 3), ("END OF TRANSMISSION", 4), ("ENQUIRY", 5), ("ACKNOWLEDGE", 6),
    ("ALERT", 7), ("BACKSPACE", 8), ("CHARACTER TABULATION", 9), ("HORIZONTAL TABULATION", 9),
    ("TAB", 9), ("LF", 10), ("LINE FEED", 10), ("NEW LINE", 10), ("END OF LINE", 10), ("EOL", 10),
    ("NL", 10), ("LINE TABULATION", 11), ("VERTICAL TABULATION", 11), ("FORM FEED", 12),
    ("FF", 12), ("CR", 13), ("CARRIAGE RETURN", 13), ("SHIFT OUT", 14), ("SHIFT IN", 15),
    ("ESCAPE", 27), ("ESC", 27), ("DELETE", 127), ("DEL", 127), ("NEXT LINE", 133), ("NEL", 133),
    ("NBSP", 160), ("SHY", 173), ("SP", 32), ("NUL", 0), ("BEL", 7), ("BS", 8), ("HT", 9),
    ("VT", 11), ("ZWSP", 8203), ("ZWNJ", 8204), ("ZWJ", 8205), ("BOM", 65279)]

/-- The code point of the character with a name, in letters of either case. -/
def named? (name : List Char) : Option Nat :=
  characterNames.lookup (String.ofList (name.map Char.toUpper))

example : named? "Tab".toList = some 9 := by decide +kernel

end Compliance.Text
