/-! # Names of characters: the table

The names of the characters of the common blocks: ASCII, Latin, Greek, punctuation, currencies,
arrows, signs, boxes, shapes and symbols. A row starts at a code point and gives the names of the
characters from there on.
-/
namespace GlueCode.Text

def charNameRows : List (Nat × String) :=
  [(0x20, "SPACE;EXCLAMATION MARK;QUOTATION MARK;NUMBER SIGN;DOLLAR SIGN;PERCENT SIGN"),
    (0x26, "AMPERSAND;APOSTROPHE;LEFT PARENTHESIS;RIGHT PARENTHESIS;ASTERISK;PLUS SIGN;COMMA"),
    (0x2D, "HYPHEN-MINUS;FULL STOP;SOLIDUS;DIGIT ZERO;DIGIT ONE;DIGIT TWO;DIGIT THREE"),
    (0x34, "DIGIT FOUR;DIGIT FIVE;DIGIT SIX;DIGIT SEVEN;DIGIT EIGHT;DIGIT NINE;COLON;SEMICOLON"),
    (0x3C, "LESS-THAN SIGN;EQUALS SIGN;GREATER-THAN SIGN;QUESTION MARK;COMMERCIAL AT"),
    (0x41, "LATIN CAPITAL LETTER A;LATIN CAPITAL LETTER B;LATIN CAPITAL LETTER C"),
    (0x44, "LATIN CAPITAL LETTER D;LATIN CAPITAL LETTER E;LATIN CAPITAL LETTER F"),
    (0x47, "LATIN CAPITAL LETTER G;LATIN CAPITAL LETTER H;LATIN CAPITAL LETTER I"),
    (0x4A, "LATIN CAPITAL LETTER J;LATIN CAPITAL LETTER K;LATIN CAPITAL LETTER L"),
    (0x4D, "LATIN CAPITAL LETTER M;LATIN CAPITAL LETTER N;LATIN CAPITAL LETTER O"),
    (0x50, "LATIN CAPITAL LETTER P;LATIN CAPITAL LETTER Q;LATIN CAPITAL LETTER R"),
    (0x53, "LATIN CAPITAL LETTER S;LATIN CAPITAL LETTER T;LATIN CAPITAL LETTER U"),
    (0x56, "LATIN CAPITAL LETTER V;LATIN CAPITAL LETTER W;LATIN CAPITAL LETTER X"),
    (0x59, "LATIN CAPITAL LETTER Y;LATIN CAPITAL LETTER Z;LEFT SQUARE BRACKET;REVERSE SOLIDUS"),
    (0x5D, "RIGHT SQUARE BRACKET;CIRCUMFLEX ACCENT;LOW LINE;GRAVE ACCENT;LATIN SMALL LETTER A"),
    (0x62, "LATIN SMALL LETTER B;LATIN SMALL LETTER C;LATIN SMALL LETTER D;LATIN SMALL LETTER E"),
    (0x66, "LATIN SMALL LETTER F;LATIN SMALL LETTER G;LATIN SMALL LETTER H;LATIN SMALL LETTER I"),
    (0x6A, "LATIN SMALL LETTER J;LATIN SMALL LETTER K;LATIN SMALL LETTER L;LATIN SMALL LETTER M"),
    (0x6E, "LATIN SMALL LETTER N;LATIN SMALL LETTER O;LATIN SMALL LETTER P;LATIN SMALL LETTER Q"),
    (0x72, "LATIN SMALL LETTER R;LATIN SMALL LETTER S;LATIN SMALL LETTER T;LATIN SMALL LETTER U"),
    (0x76, "LATIN SMALL LETTER V;LATIN SMALL LETTER W;LATIN SMALL LETTER X;LATIN SMALL LETTER Y"),
    (0x7A, "LATIN SMALL LETTER Z;LEFT CURLY BRACKET;VERTICAL LINE;RIGHT CURLY BRACKET;TILDE"),
    (0xA0, "NO-BREAK SPACE;INVERTED EXCLAMATION MARK;CENT SIGN;POUND SIGN;CURRENCY SIGN"),
    (0xA5, "YEN SIGN;BROKEN BAR;SECTION SIGN;DIAERESIS;COPYRIGHT SIGN"),
    (0xAA, "FEMININE ORDINAL INDICATOR;LEFT-POINTING DOUBLE ANGLE QUOTATION MARK;NOT SIGN"),
    (0xAD, "SOFT HYPHEN;REGISTERED SIGN;MACRON;DEGREE SIGN;PLUS-MINUS SIGN;SUPERSCRIPT TWO"),
    (0xB3, "SUPERSCRIPT THREE;ACUTE ACCENT;MICRO SIGN;PILCROW SIGN;MIDDLE DOT;CEDILLA"),
    (0xB9, "SUPERSCRIPT ONE;MASCULINE ORDINAL INDICATOR"),
    (0xBB, "RIGHT-POINTING DOUBLE ANGLE QUOTATION MARK;VULGAR FRACTION ONE QUARTER"),
    (0xBD, "VULGAR FRACTION ONE HALF;VULGAR FRACTION THREE QUARTERS;INVERTED QUESTION MARK"),
    (0xC0, "LATIN CAPITAL LETTER A WITH GRAVE;LATIN CAPITAL LETTER A WITH ACUTE"),
    (0xC2, "LATIN CAPITAL LETTER A WITH CIRCUMFLEX;LATIN CAPITAL LETTER A WITH TILDE"),
    (0xC4, "LATIN CAPITAL LETTER A WITH DIAERESIS;LATIN CAPITAL LETTER A WITH RING ABOVE"),
    (0xC6, "LATIN CAPITAL LETTER AE;LATIN CAPITAL LETTER C WITH CEDILLA"),
    (0xC8, "LATIN CAPITAL LETTER E WITH GRAVE;LATIN CAPITAL LETTER E WITH ACUTE"),
    (0xCA, "LATIN CAPITAL LETTER E WITH CIRCUMFLEX;LATIN CAPITAL LETTER E WITH DIAERESIS"),
    (0xCC, "LATIN CAPITAL LETTER I WITH GRAVE;LATIN CAPITAL LETTER I WITH ACUTE"),
    (0xCE, "LATIN CAPITAL LETTER I WITH CIRCUMFLEX;LATIN CAPITAL LETTER I WITH DIAERESIS"),
    (0xD0, "LATIN CAPITAL LETTER ETH;LATIN CAPITAL LETTER N WITH TILDE"),
    (0xD2, "LATIN CAPITAL LETTER O WITH GRAVE;LATIN CAPITAL LETTER O WITH ACUTE"),
    (0xD4, "LATIN CAPITAL LETTER O WITH CIRCUMFLEX;LATIN CAPITAL LETTER O WITH TILDE"),
    (0xD6, "LATIN CAPITAL LETTER O WITH DIAERESIS;MULTIPLICATION SIGN"),
    (0xD8, "LATIN CAPITAL LETTER O WITH STROKE;LATIN CAPITAL LETTER U WITH GRAVE"),
    (0xDA, "LATIN CAPITAL LETTER U WITH ACUTE;LATIN CAPITAL LETTER U WITH CIRCUMFLEX"),
    (0xDC, "LATIN CAPITAL LETTER U WITH DIAERESIS;LATIN CAPITAL LETTER Y WITH ACUTE"),
    (0xDE, "LATIN CAPITAL LETTER THORN;LATIN SMALL LETTER SHARP S"),
    (0xE0, "LATIN SMALL LETTER A WITH GRAVE;LATIN SMALL LETTER A WITH ACUTE"),
    (0xE2, "LATIN SMALL LETTER A WITH CIRCUMFLEX;LATIN SMALL LETTER A WITH TILDE"),
    (0xE4, "LATIN SMALL LETTER A WITH DIAERESIS;LATIN SMALL LETTER A WITH RING ABOVE"),
    (0xE6, "LATIN SMALL LETTER AE;LATIN SMALL LETTER C WITH CEDILLA"),
    (0xE8, "LATIN SMALL LETTER E WITH GRAVE;LATIN SMALL LETTER E WITH ACUTE"),
    (0xEA, "LATIN SMALL LETTER E WITH CIRCUMFLEX;LATIN SMALL LETTER E WITH DIAERESIS"),
    (0xEC, "LATIN SMALL LETTER I WITH GRAVE;LATIN SMALL LETTER I WITH ACUTE"),
    (0xEE, "LATIN SMALL LETTER I WITH CIRCUMFLEX;LATIN SMALL LETTER I WITH DIAERESIS"),
    (0xF0, "LATIN SMALL LETTER ETH;LATIN SMALL LETTER N WITH TILDE"),
    (0xF2, "LATIN SMALL LETTER O WITH GRAVE;LATIN SMALL LETTER O WITH ACUTE"),
    (0xF4, "LATIN SMALL LETTER O WITH CIRCUMFLEX;LATIN SMALL LETTER O WITH TILDE"),
    (0xF6, "LATIN SMALL LETTER O WITH DIAERESIS;DIVISION SIGN;LATIN SMALL LETTER O WITH STROKE"),
    (0xF9, "LATIN SMALL LETTER U WITH GRAVE;LATIN SMALL LETTER U WITH ACUTE"),
    (0xFB, "LATIN SMALL LETTER U WITH CIRCUMFLEX;LATIN SMALL LETTER U WITH DIAERESIS"),
    (0xFD, "LATIN SMALL LETTER Y WITH ACUTE;LATIN SMALL LETTER THORN"),
    (0xFF, "LATIN SMALL LETTER Y WITH DIAERESIS;LATIN CAPITAL LETTER A WITH MACRON"),
    (0x101, "LATIN SMALL LETTER A WITH MACRON;LATIN CAPITAL LETTER A WITH BREVE"),
    (0x103, "LATIN SMALL LETTER A WITH BREVE;LATIN CAPITAL LETTER A WITH OGONEK"),
    (0x105, "LATIN SMALL LETTER A WITH OGONEK;LATIN CAPITAL LETTER C WITH ACUTE"),
    (0x107, "LATIN SMALL LETTER C WITH ACUTE;LATIN CAPITAL LETTER C WITH CIRCUMFLEX"),
    (0x109, "LATIN SMALL LETTER C WITH CIRCUMFLEX;LATIN CAPITAL LETTER C WITH DOT ABOVE"),
    (0x10B, "LATIN SMALL LETTER C WITH DOT ABOVE;LATIN CAPITAL LETTER C WITH CARON"),
    (0x10D, "LATIN SMALL LETTER C WITH CARON;LATIN CAPITAL LETTER D WITH CARON"),
    (0x10F, "LATIN SMALL LETTER D WITH CARON;LATIN CAPITAL LETTER D WITH STROKE"),
    (0x111, "LATIN SMALL LETTER D WITH STROKE;LATIN CAPITAL LETTER E WITH MACRON"),
    (0x113, "LATIN SMALL LETTER E WITH MACRON;LATIN CAPITAL LETTER E WITH BREVE"),
    (0x115, "LATIN SMALL LETTER E WITH BREVE;LATIN CAPITAL LETTER E WITH DOT ABOVE"),
    (0x117, "LATIN SMALL LETTER E WITH DOT ABOVE;LATIN CAPITAL LETTER E WITH OGONEK"),
    (0x119, "LATIN SMALL LETTER E WITH OGONEK;LATIN CAPITAL LETTER E WITH CARON"),
    (0x11B, "LATIN SMALL LETTER E WITH CARON;LATIN CAPITAL LETTER G WITH CIRCUMFLEX"),
    (0x11D, "LATIN SMALL LETTER G WITH CIRCUMFLEX;LATIN CAPITAL LETTER G WITH BREVE"),
    (0x11F, "LATIN SMALL LETTER G WITH BREVE;LATIN CAPITAL LETTER G WITH DOT ABOVE"),
    (0x121, "LATIN SMALL LETTER G WITH DOT ABOVE;LATIN CAPITAL LETTER G WITH CEDILLA"),
    (0x123, "LATIN SMALL LETTER G WITH CEDILLA;LATIN CAPITAL LETTER H WITH CIRCUMFLEX"),
    (0x125, "LATIN SMALL LETTER H WITH CIRCUMFLEX;LATIN CAPITAL LETTER H WITH STROKE"),
    (0x127, "LATIN SMALL LETTER H WITH STROKE;LATIN CAPITAL LETTER I WITH TILDE"),
    (0x129, "LATIN SMALL LETTER I WITH TILDE;LATIN CAPITAL LETTER I WITH MACRON"),
    (0x12B, "LATIN SMALL LETTER I WITH MACRON;LATIN CAPITAL LETTER I WITH BREVE"),
    (0x12D, "LATIN SMALL LETTER I WITH BREVE;LATIN CAPITAL LETTER I WITH OGONEK"),
    (0x12F, "LATIN SMALL LETTER I WITH OGONEK;LATIN CAPITAL LETTER I WITH DOT ABOVE"),
    (0x131, "LATIN SMALL LETTER DOTLESS I;LATIN CAPITAL LIGATURE IJ;LATIN SMALL LIGATURE IJ"),
    (0x134, "LATIN CAPITAL LETTER J WITH CIRCUMFLEX;LATIN SMALL LETTER J WITH CIRCUMFLEX"),
    (0x136, "LATIN CAPITAL LETTER K WITH CEDILLA;LATIN SMALL LETTER K WITH CEDILLA"),
    (0x138, "LATIN SMALL LETTER KRA;LATIN CAPITAL LETTER L WITH ACUTE"),
    (0x13A, "LATIN SMALL LETTER L WITH ACUTE;LATIN CAPITAL LETTER L WITH CEDILLA"),
    (0x13C, "LATIN SMALL LETTER L WITH CEDILLA;LATIN CAPITAL LETTER L WITH CARON"),
    (0x13E, "LATIN SMALL LETTER L WITH CARON;LATIN CAPITAL LETTER L WITH MIDDLE DOT"),
    (0x140, "LATIN SMALL LETTER L WITH MIDDLE DOT;LATIN CAPITAL LETTER L WITH STROKE"),
    (0x142, "LATIN SMALL LETTER L WITH STROKE;LATIN CAPITAL LETTER N WITH ACUTE"),
    (0x144, "LATIN SMALL LETTER N WITH ACUTE;LATIN CAPITAL LETTER N WITH CEDILLA"),
    (0x146, "LATIN SMALL LETTER N WITH CEDILLA;LATIN CAPITAL LETTER N WITH CARON"),
    (0x148, "LATIN SMALL LETTER N WITH CARON;LATIN SMALL LETTER N PRECEDED BY APOSTROPHE"),
    (0x14A, "LATIN CAPITAL LETTER ENG;LATIN SMALL LETTER ENG;LATIN CAPITAL LETTER O WITH MACRON"),
    (0x14D, "LATIN SMALL LETTER O WITH MACRON;LATIN CAPITAL LETTER O WITH BREVE"),
    (0x14F, "LATIN SMALL LETTER O WITH BREVE;LATIN CAPITAL LETTER O WITH DOUBLE ACUTE"),
    (0x151, "LATIN SMALL LETTER O WITH DOUBLE ACUTE;LATIN CAPITAL LIGATURE OE"),
    (0x153, "LATIN SMALL LIGATURE OE;LATIN CAPITAL LETTER R WITH ACUTE"),
    (0x155, "LATIN SMALL LETTER R WITH ACUTE;LATIN CAPITAL LETTER R WITH CEDILLA"),
    (0x157, "LATIN SMALL LETTER R WITH CEDILLA;LATIN CAPITAL LETTER R WITH CARON"),
    (0x159, "LATIN SMALL LETTER R WITH CARON;LATIN CAPITAL LETTER S WITH ACUTE"),
    (0x15B, "LATIN SMALL LETTER S WITH ACUTE;LATIN CAPITAL LETTER S WITH CIRCUMFLEX"),
    (0x15D, "LATIN SMALL LETTER S WITH CIRCUMFLEX;LATIN CAPITAL LETTER S WITH CEDILLA"),
    (0x15F, "LATIN SMALL LETTER S WITH CEDILLA;LATIN CAPITAL LETTER S WITH CARON"),
    (0x161, "LATIN SMALL LETTER S WITH CARON;LATIN CAPITAL LETTER T WITH CEDILLA"),
    (0x163, "LATIN SMALL LETTER T WITH CEDILLA;LATIN CAPITAL LETTER T WITH CARON"),
    (0x165, "LATIN SMALL LETTER T WITH CARON;LATIN CAPITAL LETTER T WITH STROKE"),
    (0x167, "LATIN SMALL LETTER T WITH STROKE;LATIN CAPITAL LETTER U WITH TILDE"),
    (0x169, "LATIN SMALL LETTER U WITH TILDE;LATIN CAPITAL LETTER U WITH MACRON"),
    (0x16B, "LATIN SMALL LETTER U WITH MACRON;LATIN CAPITAL LETTER U WITH BREVE"),
    (0x16D, "LATIN SMALL LETTER U WITH BREVE;LATIN CAPITAL LETTER U WITH RING ABOVE"),
    (0x16F, "LATIN SMALL LETTER U WITH RING ABOVE;LATIN CAPITAL LETTER U WITH DOUBLE ACUTE"),
    (0x171, "LATIN SMALL LETTER U WITH DOUBLE ACUTE;LATIN CAPITAL LETTER U WITH OGONEK"),
    (0x173, "LATIN SMALL LETTER U WITH OGONEK;LATIN CAPITAL LETTER W WITH CIRCUMFLEX"),
    (0x175, "LATIN SMALL LETTER W WITH CIRCUMFLEX;LATIN CAPITAL LETTER Y WITH CIRCUMFLEX"),
    (0x177, "LATIN SMALL LETTER Y WITH CIRCUMFLEX;LATIN CAPITAL LETTER Y WITH DIAERESIS"),
    (0x179, "LATIN CAPITAL LETTER Z WITH ACUTE;LATIN SMALL LETTER Z WITH ACUTE"),
    (0x17B, "LATIN CAPITAL LETTER Z WITH DOT ABOVE;LATIN SMALL LETTER Z WITH DOT ABOVE"),
    (0x17D, "LATIN CAPITAL LETTER Z WITH CARON;LATIN SMALL LETTER Z WITH CARON"),
    (0x17F, "LATIN SMALL LETTER LONG S"),
    (0x391, "GREEK CAPITAL LETTER ALPHA;GREEK CAPITAL LETTER BETA;GREEK CAPITAL LETTER GAMMA"),
    (0x394, "GREEK CAPITAL LETTER DELTA;GREEK CAPITAL LETTER EPSILON;GREEK CAPITAL LETTER ZETA"),
    (0x397, "GREEK CAPITAL LETTER ETA;GREEK CAPITAL LETTER THETA;GREEK CAPITAL LETTER IOTA"),
    (0x39A, "GREEK CAPITAL LETTER KAPPA;GREEK CAPITAL LETTER LAMDA;GREEK CAPITAL LETTER MU"),
    (0x39D, "GREEK CAPITAL LETTER NU;GREEK CAPITAL LETTER XI;GREEK CAPITAL LETTER OMICRON"),
    (0x3A0, "GREEK CAPITAL LETTER PI;GREEK CAPITAL LETTER RHO;;GREEK CAPITAL LETTER SIGMA"),
    (0x3A4, "GREEK CAPITAL LETTER TAU;GREEK CAPITAL LETTER UPSILON;GREEK CAPITAL LETTER PHI"),
    (0x3A7, "GREEK CAPITAL LETTER CHI;GREEK CAPITAL LETTER PSI;GREEK CAPITAL LETTER OMEGA"),
    (0x3AA, "GREEK CAPITAL LETTER IOTA WITH DIALYTIKA"),
    (0x3AB, "GREEK CAPITAL LETTER UPSILON WITH DIALYTIKA;GREEK SMALL LETTER ALPHA WITH TONOS"),
    (0x3AD, "GREEK SMALL LETTER EPSILON WITH TONOS;GREEK SMALL LETTER ETA WITH TONOS"),
    (0x3AF, "GREEK SMALL LETTER IOTA WITH TONOS"),
    (0x3B0, "GREEK SMALL LETTER UPSILON WITH DIALYTIKA AND TONOS;GREEK SMALL LETTER ALPHA"),
    (0x3B2, "GREEK SMALL LETTER BETA;GREEK SMALL LETTER GAMMA;GREEK SMALL LETTER DELTA"),
    (0x3B5, "GREEK SMALL LETTER EPSILON;GREEK SMALL LETTER ZETA;GREEK SMALL LETTER ETA"),
    (0x3B8, "GREEK SMALL LETTER THETA;GREEK SMALL LETTER IOTA;GREEK SMALL LETTER KAPPA"),
    (0x3BB, "GREEK SMALL LETTER LAMDA;GREEK SMALL LETTER MU;GREEK SMALL LETTER NU"),
    (0x3BE, "GREEK SMALL LETTER XI;GREEK SMALL LETTER OMICRON;GREEK SMALL LETTER PI"),
    (0x3C1, "GREEK SMALL LETTER RHO;GREEK SMALL LETTER FINAL SIGMA;GREEK SMALL LETTER SIGMA"),
    (0x3C4, "GREEK SMALL LETTER TAU;GREEK SMALL LETTER UPSILON;GREEK SMALL LETTER PHI"),
    (0x3C7, "GREEK SMALL LETTER CHI;GREEK SMALL LETTER PSI;GREEK SMALL LETTER OMEGA"),
    (0x2000, "EN QUAD;EM QUAD;EN SPACE;EM SPACE;THREE-PER-EM SPACE;FOUR-PER-EM SPACE"),
    (0x2006, "SIX-PER-EM SPACE;FIGURE SPACE;PUNCTUATION SPACE;THIN SPACE;HAIR SPACE"),
    (0x200B, "ZERO WIDTH SPACE;ZERO WIDTH NON-JOINER;ZERO WIDTH JOINER;LEFT-TO-RIGHT MARK"),
    (0x200F, "RIGHT-TO-LEFT MARK;HYPHEN;NON-BREAKING HYPHEN;FIGURE DASH;EN DASH;EM DASH"),
    (0x2015, "HORIZONTAL BAR;DOUBLE VERTICAL LINE;DOUBLE LOW LINE;LEFT SINGLE QUOTATION MARK"),
    (0x2019, "RIGHT SINGLE QUOTATION MARK;SINGLE LOW-9 QUOTATION MARK"),
    (0x201B, "SINGLE HIGH-REVERSED-9 QUOTATION MARK;LEFT DOUBLE QUOTATION MARK"),
    (0x201D, "RIGHT DOUBLE QUOTATION MARK;DOUBLE LOW-9 QUOTATION MARK"),
    (0x201F, "DOUBLE HIGH-REVERSED-9 QUOTATION MARK;DAGGER;DOUBLE DAGGER;BULLET"),
    (0x2023, "TRIANGULAR BULLET;ONE DOT LEADER;TWO DOT LEADER;HORIZONTAL ELLIPSIS"),
    (0x2027, "HYPHENATION POINT;LINE SEPARATOR;PARAGRAPH SEPARATOR;LEFT-TO-RIGHT EMBEDDING"),
    (0x202B, "RIGHT-TO-LEFT EMBEDDING;POP DIRECTIONAL FORMATTING;LEFT-TO-RIGHT OVERRIDE"),
    (0x202E, "RIGHT-TO-LEFT OVERRIDE;NARROW NO-BREAK SPACE;PER MILLE SIGN;PER TEN THOUSAND SIGN"),
    (0x2032, "PRIME;DOUBLE PRIME;TRIPLE PRIME;REVERSED PRIME;REVERSED DOUBLE PRIME"),
    (0x2037, "REVERSED TRIPLE PRIME;CARET;SINGLE LEFT-POINTING ANGLE QUOTATION MARK"),
    (0x203A, "SINGLE RIGHT-POINTING ANGLE QUOTATION MARK;REFERENCE MARK;DOUBLE EXCLAMATION MARK"),
    (0x203D, "INTERROBANG;OVERLINE;UNDERTIE;CHARACTER TIE;CARET INSERTION POINT;ASTERISM"),
    (0x2043, "HYPHEN BULLET;FRACTION SLASH;LEFT SQUARE BRACKET WITH QUILL"),
    (0x2046, "RIGHT SQUARE BRACKET WITH QUILL;DOUBLE QUESTION MARK;QUESTION EXCLAMATION MARK"),
    (0x2049, "EXCLAMATION QUESTION MARK;TIRONIAN SIGN ET;REVERSED PILCROW SIGN"),
    (0x204C, "BLACK LEFTWARDS BULLET;BLACK RIGHTWARDS BULLET;LOW ASTERISK;REVERSED SEMICOLON"),
    (0x2050, "CLOSE UP;TWO ASTERISKS ALIGNED VERTICALLY;COMMERCIAL MINUS SIGN;SWUNG DASH"),
    (0x2054, "INVERTED UNDERTIE;FLOWER PUNCTUATION MARK;THREE DOT PUNCTUATION;QUADRUPLE PRIME"),
    (0x2058, "FOUR DOT PUNCTUATION;FIVE DOT PUNCTUATION;TWO DOT PUNCTUATION;FOUR DOT MARK"),
    (0x205C, "DOTTED CROSS;TRICOLON;VERTICAL FOUR DOTS;MEDIUM MATHEMATICAL SPACE"),
    (0x20A0, "EURO-CURRENCY SIGN;COLON SIGN;CRUZEIRO SIGN;FRENCH FRANC SIGN;LIRA SIGN;MILL SIGN"),
    (0x20A6, "NAIRA SIGN;PESETA SIGN;RUPEE SIGN;WON SIGN;NEW SHEQEL SIGN;DONG SIGN;EURO SIGN"),
    (0x20AD, "KIP SIGN;TUGRIK SIGN;DRACHMA SIGN;GERMAN PENNY SIGN;PESO SIGN;GUARANI SIGN"),
    (0x20B3, "AUSTRAL SIGN;HRYVNIA SIGN;CEDI SIGN;LIVRE TOURNOIS SIGN;SPESMILO SIGN;TENGE SIGN"),
    (0x20B9, "INDIAN RUPEE SIGN;TURKISH LIRA SIGN;NORDIC MARK SIGN;MANAT SIGN;RUBLE SIGN"),
    (0x20BE, "LARI SIGN;BITCOIN SIGN"),
    (0x2100, "ACCOUNT OF;ADDRESSED TO THE SUBJECT;DOUBLE-STRUCK CAPITAL C;DEGREE CELSIUS"),
    (0x2104, "CENTRE LINE SYMBOL;CARE OF;CADA UNA;EULER CONSTANT;SCRUPLE;DEGREE FAHRENHEIT"),
    (0x210A, "SCRIPT SMALL G;SCRIPT CAPITAL H;BLACK-LETTER CAPITAL H;DOUBLE-STRUCK CAPITAL H"),
    (0x210E, "PLANCK CONSTANT;PLANCK CONSTANT OVER TWO PI;SCRIPT CAPITAL I"),
    (0x2111, "BLACK-LETTER CAPITAL I;SCRIPT CAPITAL L;SCRIPT SMALL L;L B BAR SYMBOL"),
    (0x2115, "DOUBLE-STRUCK CAPITAL N;NUMERO SIGN;SOUND RECORDING COPYRIGHT;SCRIPT CAPITAL P"),
    (0x2119, "DOUBLE-STRUCK CAPITAL P;DOUBLE-STRUCK CAPITAL Q;SCRIPT CAPITAL R"),
    (0x211C, "BLACK-LETTER CAPITAL R;DOUBLE-STRUCK CAPITAL R;PRESCRIPTION TAKE;RESPONSE"),
    (0x2120, "SERVICE MARK;TELEPHONE SIGN;TRADE MARK SIGN;VERSICLE;DOUBLE-STRUCK CAPITAL Z"),
    (0x2125, "OUNCE SIGN;OHM SIGN;INVERTED OHM SIGN;BLACK-LETTER CAPITAL Z"),
    (0x2129, "TURNED GREEK SMALL LETTER IOTA;KELVIN SIGN;ANGSTROM SIGN;SCRIPT CAPITAL B"),
    (0x212D, "BLACK-LETTER CAPITAL C;ESTIMATED SYMBOL;SCRIPT SMALL E;SCRIPT CAPITAL E"),
    (0x2131, "SCRIPT CAPITAL F;TURNED CAPITAL F;SCRIPT CAPITAL M;SCRIPT SMALL O;ALEF SYMBOL"),
    (0x2136, "BET SYMBOL;GIMEL SYMBOL;DALET SYMBOL;INFORMATION SOURCE;ROTATED CAPITAL Q"),
    (0x213B, "FACSIMILE SIGN;DOUBLE-STRUCK SMALL PI;DOUBLE-STRUCK SMALL GAMMA"),
    (0x213E, "DOUBLE-STRUCK CAPITAL GAMMA;DOUBLE-STRUCK CAPITAL PI"),
    (0x2140, "DOUBLE-STRUCK N-ARY SUMMATION;TURNED SANS-SERIF CAPITAL G"),
    (0x2142, "TURNED SANS-SERIF CAPITAL L;REVERSED SANS-SERIF CAPITAL L"),
    (0x2144, "TURNED SANS-SERIF CAPITAL Y;DOUBLE-STRUCK ITALIC CAPITAL D"),
    (0x2146, "DOUBLE-STRUCK ITALIC SMALL D;DOUBLE-STRUCK ITALIC SMALL E"),
    (0x2148, "DOUBLE-STRUCK ITALIC SMALL I;DOUBLE-STRUCK ITALIC SMALL J;PROPERTY LINE"),
    (0x214B, "TURNED AMPERSAND;PER SIGN;AKTIESELSKAB;TURNED SMALL F;SYMBOL FOR SAMARITAN SOURCE"),
    (0x2190, "LEFTWARDS ARROW;UPWARDS ARROW;RIGHTWARDS ARROW;DOWNWARDS ARROW;LEFT RIGHT ARROW"),
    (0x2195, "UP DOWN ARROW;NORTH WEST ARROW;NORTH EAST ARROW;SOUTH EAST ARROW;SOUTH WEST ARROW"),
    (0x219A, "LEFTWARDS ARROW WITH STROKE;RIGHTWARDS ARROW WITH STROKE;LEFTWARDS WAVE ARROW"),
    (0x219D, "RIGHTWARDS WAVE ARROW;LEFTWARDS TWO HEADED ARROW;UPWARDS TWO HEADED ARROW"),
    (0x21A0, "RIGHTWARDS TWO HEADED ARROW;DOWNWARDS TWO HEADED ARROW;LEFTWARDS ARROW WITH TAIL"),
    (0x21A3, "RIGHTWARDS ARROW WITH TAIL;LEFTWARDS ARROW FROM BAR;UPWARDS ARROW FROM BAR"),
    (0x21A6, "RIGHTWARDS ARROW FROM BAR;DOWNWARDS ARROW FROM BAR;UP DOWN ARROW WITH BASE"),
    (0x21A9, "LEFTWARDS ARROW WITH HOOK;RIGHTWARDS ARROW WITH HOOK;LEFTWARDS ARROW WITH LOOP"),
    (0x21AC, "RIGHTWARDS ARROW WITH LOOP;LEFT RIGHT WAVE ARROW;LEFT RIGHT ARROW WITH STROKE"),
    (0x21AF, "DOWNWARDS ZIGZAG ARROW;UPWARDS ARROW WITH TIP LEFTWARDS"),
    (0x21B1, "UPWARDS ARROW WITH TIP RIGHTWARDS;DOWNWARDS ARROW WITH TIP LEFTWARDS"),
    (0x21B3, "DOWNWARDS ARROW WITH TIP RIGHTWARDS;RIGHTWARDS ARROW WITH CORNER DOWNWARDS"),
    (0x21B5, "DOWNWARDS ARROW WITH CORNER LEFTWARDS;ANTICLOCKWISE TOP SEMICIRCLE ARROW"),
    (0x21B7, "CLOCKWISE TOP SEMICIRCLE ARROW;NORTH WEST ARROW TO LONG BAR"),
    (0x21B9, "LEFTWARDS ARROW TO BAR OVER RIGHTWARDS ARROW TO BAR"),
    (0x21BA, "ANTICLOCKWISE OPEN CIRCLE ARROW;CLOCKWISE OPEN CIRCLE ARROW"),
    (0x21BC, "LEFTWARDS HARPOON WITH BARB UPWARDS;LEFTWARDS HARPOON WITH BARB DOWNWARDS"),
    (0x21BE, "UPWARDS HARPOON WITH BARB RIGHTWARDS;UPWARDS HARPOON WITH BARB LEFTWARDS"),
    (0x21C0, "RIGHTWARDS HARPOON WITH BARB UPWARDS;RIGHTWARDS HARPOON WITH BARB DOWNWARDS"),
    (0x21C2, "DOWNWARDS HARPOON WITH BARB RIGHTWARDS;DOWNWARDS HARPOON WITH BARB LEFTWARDS"),
    (0x21C4, "RIGHTWARDS ARROW OVER LEFTWARDS ARROW;UPWARDS ARROW LEFTWARDS OF DOWNWARDS ARROW"),
    (0x21C6, "LEFTWARDS ARROW OVER RIGHTWARDS ARROW;LEFTWARDS PAIRED ARROWS"),
    (0x21C8, "UPWARDS PAIRED ARROWS;RIGHTWARDS PAIRED ARROWS;DOWNWARDS PAIRED ARROWS"),
    (0x21CB, "LEFTWARDS HARPOON OVER RIGHTWARDS HARPOON"),
    (0x21CC, "RIGHTWARDS HARPOON OVER LEFTWARDS HARPOON;LEFTWARDS DOUBLE ARROW WITH STROKE"),
    (0x21CE, "LEFT RIGHT DOUBLE ARROW WITH STROKE;RIGHTWARDS DOUBLE ARROW WITH STROKE"),
    (0x21D0, "LEFTWARDS DOUBLE ARROW;UPWARDS DOUBLE ARROW;RIGHTWARDS DOUBLE ARROW"),
    (0x21D3, "DOWNWARDS DOUBLE ARROW;LEFT RIGHT DOUBLE ARROW;UP DOWN DOUBLE ARROW"),
    (0x21D6, "NORTH WEST DOUBLE ARROW;NORTH EAST DOUBLE ARROW;SOUTH EAST DOUBLE ARROW"),
    (0x21D9, "SOUTH WEST DOUBLE ARROW;LEFTWARDS TRIPLE ARROW;RIGHTWARDS TRIPLE ARROW"),
    (0x21DC, "LEFTWARDS SQUIGGLE ARROW;RIGHTWARDS SQUIGGLE ARROW"),
    (0x21DE, "UPWARDS ARROW WITH DOUBLE STROKE;DOWNWARDS ARROW WITH DOUBLE STROKE"),
    (0x21E0, "LEFTWARDS DASHED ARROW;UPWARDS DASHED ARROW;RIGHTWARDS DASHED ARROW"),
    (0x21E3, "DOWNWARDS DASHED ARROW;LEFTWARDS ARROW TO BAR;RIGHTWARDS ARROW TO BAR"),
    (0x21E6, "LEFTWARDS WHITE ARROW;UPWARDS WHITE ARROW;RIGHTWARDS WHITE ARROW"),
    (0x21E9, "DOWNWARDS WHITE ARROW;UPWARDS WHITE ARROW FROM BAR"),
    (0x21EB, "UPWARDS WHITE ARROW ON PEDESTAL"),
    (0x21EC, "UPWARDS WHITE ARROW ON PEDESTAL WITH HORIZONTAL BAR"),
    (0x21ED, "UPWARDS WHITE ARROW ON PEDESTAL WITH VERTICAL BAR;UPWARDS WHITE DOUBLE ARROW"),
    (0x21EF, "UPWARDS WHITE DOUBLE ARROW ON PEDESTAL;RIGHTWARDS WHITE ARROW FROM WALL"),
    (0x21F1, "NORTH WEST ARROW TO CORNER;SOUTH EAST ARROW TO CORNER;UP DOWN WHITE ARROW"),
    (0x21F4, "RIGHT ARROW WITH SMALL CIRCLE;DOWNWARDS ARROW LEFTWARDS OF UPWARDS ARROW"),
    (0x21F6, "THREE RIGHTWARDS ARROWS;LEFTWARDS ARROW WITH VERTICAL STROKE"),
    (0x21F8, "RIGHTWARDS ARROW WITH VERTICAL STROKE;LEFT RIGHT ARROW WITH VERTICAL STROKE"),
    (0x21FA, "LEFTWARDS ARROW WITH DOUBLE VERTICAL STROKE"),
    (0x21FB, "RIGHTWARDS ARROW WITH DOUBLE VERTICAL STROKE"),
    (0x21FC, "LEFT RIGHT ARROW WITH DOUBLE VERTICAL STROKE;LEFTWARDS OPEN-HEADED ARROW"),
    (0x21FE, "RIGHTWARDS OPEN-HEADED ARROW;LEFT RIGHT OPEN-HEADED ARROW"),
    (0x2200, "FOR ALL;COMPLEMENT;PARTIAL DIFFERENTIAL;THERE EXISTS;THERE DOES NOT EXIST"),
    (0x2205, "EMPTY SET;INCREMENT;NABLA;ELEMENT OF;NOT AN ELEMENT OF;SMALL ELEMENT OF"),
    (0x220B, "CONTAINS AS MEMBER;DOES NOT CONTAIN AS MEMBER;SMALL CONTAINS AS MEMBER"),
    (0x220E, "END OF PROOF;N-ARY PRODUCT;N-ARY COPRODUCT;N-ARY SUMMATION;MINUS SIGN"),
    (0x2213, "MINUS-OR-PLUS SIGN;DOT PLUS;DIVISION SLASH;SET MINUS;ASTERISK OPERATOR"),
    (0x2218, "RING OPERATOR;BULLET OPERATOR;SQUARE ROOT;CUBE ROOT;FOURTH ROOT;PROPORTIONAL TO"),
    (0x221E, "INFINITY;RIGHT ANGLE;ANGLE;MEASURED ANGLE;SPHERICAL ANGLE;DIVIDES;DOES NOT DIVIDE"),
    (0x2225, "PARALLEL TO;NOT PARALLEL TO;LOGICAL AND;LOGICAL OR;INTERSECTION;UNION;INTEGRAL"),
    (0x222C, "DOUBLE INTEGRAL;TRIPLE INTEGRAL;CONTOUR INTEGRAL;SURFACE INTEGRAL;VOLUME INTEGRAL"),
    (0x2231, "CLOCKWISE INTEGRAL;CLOCKWISE CONTOUR INTEGRAL;ANTICLOCKWISE CONTOUR INTEGRAL"),
    (0x2234, "THEREFORE;BECAUSE;RATIO;PROPORTION;DOT MINUS;EXCESS;GEOMETRIC PROPORTION"),
    (0x223B, "HOMOTHETIC;TILDE OPERATOR;REVERSED TILDE;INVERTED LAZY S;SINE WAVE;WREATH PRODUCT"),
    (0x2241, "NOT TILDE;MINUS TILDE;ASYMPTOTICALLY EQUAL TO;NOT ASYMPTOTICALLY EQUAL TO"),
    (0x2245, "APPROXIMATELY EQUAL TO;APPROXIMATELY BUT NOT ACTUALLY EQUAL TO"),
    (0x2247, "NEITHER APPROXIMATELY NOR ACTUALLY EQUAL TO;ALMOST EQUAL TO;NOT ALMOST EQUAL TO"),
    (0x224A, "ALMOST EQUAL OR EQUAL TO;TRIPLE TILDE;ALL EQUAL TO;EQUIVALENT TO"),
    (0x224E, "GEOMETRICALLY EQUIVALENT TO;DIFFERENCE BETWEEN;APPROACHES THE LIMIT"),
    (0x2251, "GEOMETRICALLY EQUAL TO;APPROXIMATELY EQUAL TO OR THE IMAGE OF"),
    (0x2253, "IMAGE OF OR APPROXIMATELY EQUAL TO;COLON EQUALS;EQUALS COLON;RING IN EQUAL TO"),
    (0x2257, "RING EQUAL TO;CORRESPONDS TO;ESTIMATES;EQUIANGULAR TO;STAR EQUALS;DELTA EQUAL TO"),
    (0x225D, "EQUAL TO BY DEFINITION;MEASURED BY;QUESTIONED EQUAL TO;NOT EQUAL TO;IDENTICAL TO"),
    (0x2262, "NOT IDENTICAL TO;STRICTLY EQUIVALENT TO;LESS-THAN OR EQUAL TO"),
    (0x2265, "GREATER-THAN OR EQUAL TO;LESS-THAN OVER EQUAL TO;GREATER-THAN OVER EQUAL TO"),
    (0x2268, "LESS-THAN BUT NOT EQUAL TO;GREATER-THAN BUT NOT EQUAL TO;MUCH LESS-THAN"),
    (0x226B, "MUCH GREATER-THAN;BETWEEN;NOT EQUIVALENT TO;NOT LESS-THAN;NOT GREATER-THAN"),
    (0x2270, "NEITHER LESS-THAN NOR EQUAL TO;NEITHER GREATER-THAN NOR EQUAL TO"),
    (0x2272, "LESS-THAN OR EQUIVALENT TO;GREATER-THAN OR EQUIVALENT TO"),
    (0x2274, "NEITHER LESS-THAN NOR EQUIVALENT TO;NEITHER GREATER-THAN NOR EQUIVALENT TO"),
    (0x2276, "LESS-THAN OR GREATER-THAN;GREATER-THAN OR LESS-THAN"),
    (0x2278, "NEITHER LESS-THAN NOR GREATER-THAN;NEITHER GREATER-THAN NOR LESS-THAN;PRECEDES"),
    (0x227B, "SUCCEEDS;PRECEDES OR EQUAL TO;SUCCEEDS OR EQUAL TO;PRECEDES OR EQUIVALENT TO"),
    (0x227F, "SUCCEEDS OR EQUIVALENT TO;DOES NOT PRECEDE;DOES NOT SUCCEED;SUBSET OF;SUPERSET OF"),
    (0x2284, "NOT A SUBSET OF;NOT A SUPERSET OF;SUBSET OF OR EQUAL TO;SUPERSET OF OR EQUAL TO"),
    (0x2288, "NEITHER A SUBSET OF NOR EQUAL TO;NEITHER A SUPERSET OF NOR EQUAL TO"),
    (0x228A, "SUBSET OF WITH NOT EQUAL TO;SUPERSET OF WITH NOT EQUAL TO;MULTISET"),
    (0x228D, "MULTISET MULTIPLICATION;MULTISET UNION;SQUARE IMAGE OF;SQUARE ORIGINAL OF"),
    (0x2291, "SQUARE IMAGE OF OR EQUAL TO;SQUARE ORIGINAL OF OR EQUAL TO;SQUARE CAP;SQUARE CUP"),
    (0x2295, "CIRCLED PLUS;CIRCLED MINUS;CIRCLED TIMES;CIRCLED DIVISION SLASH"),
    (0x2299, "CIRCLED DOT OPERATOR;CIRCLED RING OPERATOR;CIRCLED ASTERISK OPERATOR"),
    (0x229C, "CIRCLED EQUALS;CIRCLED DASH;SQUARED PLUS;SQUARED MINUS;SQUARED TIMES"),
    (0x22A1, "SQUARED DOT OPERATOR;RIGHT TACK;LEFT TACK;DOWN TACK;UP TACK;ASSERTION;MODELS;TRUE"),
    (0x22A9, "FORCES;TRIPLE VERTICAL BAR RIGHT TURNSTILE"),
    (0x22AB, "DOUBLE VERTICAL BAR DOUBLE RIGHT TURNSTILE;DOES NOT PROVE;NOT TRUE;DOES NOT FORCE"),
    (0x22AF, "NEGATED DOUBLE VERTICAL BAR DOUBLE RIGHT TURNSTILE;PRECEDES UNDER RELATION"),
    (0x22B1, "SUCCEEDS UNDER RELATION;NORMAL SUBGROUP OF;CONTAINS AS NORMAL SUBGROUP"),
    (0x22B4, "NORMAL SUBGROUP OF OR EQUAL TO;CONTAINS AS NORMAL SUBGROUP OR EQUAL TO"),
    (0x22B6, "ORIGINAL OF;IMAGE OF;MULTIMAP;HERMITIAN CONJUGATE MATRIX;INTERCALATE;XOR;NAND;NOR"),
    (0x22BE, "RIGHT ANGLE WITH ARC;RIGHT TRIANGLE;N-ARY LOGICAL AND;N-ARY LOGICAL OR"),
    (0x22C2, "N-ARY INTERSECTION;N-ARY UNION;DIAMOND OPERATOR;DOT OPERATOR;STAR OPERATOR"),
    (0x22C7, "DIVISION TIMES;BOWTIE;LEFT NORMAL FACTOR SEMIDIRECT PRODUCT"),
    (0x22CA, "RIGHT NORMAL FACTOR SEMIDIRECT PRODUCT;LEFT SEMIDIRECT PRODUCT"),
    (0x22CC, "RIGHT SEMIDIRECT PRODUCT;REVERSED TILDE EQUALS;CURLY LOGICAL OR;CURLY LOGICAL AND"),
    (0x22D0, "DOUBLE SUBSET;DOUBLE SUPERSET;DOUBLE INTERSECTION;DOUBLE UNION;PITCHFORK"),
    (0x22D5, "EQUAL AND PARALLEL TO;LESS-THAN WITH DOT;GREATER-THAN WITH DOT"),
    (0x22D8, "VERY MUCH LESS-THAN;VERY MUCH GREATER-THAN;LESS-THAN EQUAL TO OR GREATER-THAN"),
    (0x22DB, "GREATER-THAN EQUAL TO OR LESS-THAN;EQUAL TO OR LESS-THAN;EQUAL TO OR GREATER-THAN"),
    (0x22DE, "EQUAL TO OR PRECEDES;EQUAL TO OR SUCCEEDS;DOES NOT PRECEDE OR EQUAL"),
    (0x22E1, "DOES NOT SUCCEED OR EQUAL;NOT SQUARE IMAGE OF OR EQUAL TO"),
    (0x22E3, "NOT SQUARE ORIGINAL OF OR EQUAL TO;SQUARE IMAGE OF OR NOT EQUAL TO"),
    (0x22E5, "SQUARE ORIGINAL OF OR NOT EQUAL TO;LESS-THAN BUT NOT EQUIVALENT TO"),
    (0x22E7, "GREATER-THAN BUT NOT EQUIVALENT TO;PRECEDES BUT NOT EQUIVALENT TO"),
    (0x22E9, "SUCCEEDS BUT NOT EQUIVALENT TO;NOT NORMAL SUBGROUP OF"),
    (0x22EB, "DOES NOT CONTAIN AS NORMAL SUBGROUP;NOT NORMAL SUBGROUP OF OR EQUAL TO"),
    (0x22ED, "DOES NOT CONTAIN AS NORMAL SUBGROUP OR EQUAL;VERTICAL ELLIPSIS"),
    (0x22EF, "MIDLINE HORIZONTAL ELLIPSIS;UP RIGHT DIAGONAL ELLIPSIS"),
    (0x22F1, "DOWN RIGHT DIAGONAL ELLIPSIS;ELEMENT OF WITH LONG HORIZONTAL STROKE"),
    (0x22F3, "ELEMENT OF WITH VERTICAL BAR AT END OF HORIZONTAL STROKE"),
    (0x22F4, "SMALL ELEMENT OF WITH VERTICAL BAR AT END OF HORIZONTAL STROKE"),
    (0x22F5, "ELEMENT OF WITH DOT ABOVE;ELEMENT OF WITH OVERBAR;SMALL ELEMENT OF WITH OVERBAR"),
    (0x22F8, "ELEMENT OF WITH UNDERBAR;ELEMENT OF WITH TWO HORIZONTAL STROKES"),
    (0x22FA, "CONTAINS WITH LONG HORIZONTAL STROKE"),
    (0x22FB, "CONTAINS WITH VERTICAL BAR AT END OF HORIZONTAL STROKE"),
    (0x22FC, "SMALL CONTAINS WITH VERTICAL BAR AT END OF HORIZONTAL STROKE"),
    (0x22FD, "CONTAINS WITH OVERBAR;SMALL CONTAINS WITH OVERBAR;Z NOTATION BAG MEMBERSHIP"),
    (0x2300, "DIAMETER SIGN;ELECTRIC ARROW;HOUSE;UP ARROWHEAD;DOWN ARROWHEAD;PROJECTIVE"),
    (0x2306, "PERSPECTIVE;WAVY LINE;LEFT CEILING;RIGHT CEILING;LEFT FLOOR;RIGHT FLOOR"),
    (0x230C, "BOTTOM RIGHT CROP;BOTTOM LEFT CROP;TOP RIGHT CROP;TOP LEFT CROP;REVERSED NOT SIGN"),
    (0x2311, "SQUARE LOZENGE;ARC;SEGMENT;SECTOR;TELEPHONE RECORDER;POSITION INDICATOR"),
    (0x2317, "VIEWDATA SQUARE;PLACE OF INTEREST SIGN;TURNED NOT SIGN;WATCH;HOURGLASS"),
    (0x231C, "TOP LEFT CORNER;TOP RIGHT CORNER;BOTTOM LEFT CORNER;BOTTOM RIGHT CORNER"),
    (0x2320, "TOP HALF INTEGRAL;BOTTOM HALF INTEGRAL;FROWN;SMILE"),
    (0x2324, "UP ARROWHEAD BETWEEN TWO HORIZONTAL BARS;OPTION KEY;ERASE TO THE RIGHT"),
    (0x2327, "X IN A RECTANGLE BOX;KEYBOARD;LEFT-POINTING ANGLE BRACKET"),
    (0x232A, "RIGHT-POINTING ANGLE BRACKET;ERASE TO THE LEFT;BENZENE RING;CYLINDRICITY"),
    (0x232E, "ALL AROUND-PROFILE;SYMMETRY"),
    (0x2500, "BOX DRAWINGS LIGHT HORIZONTAL;BOX DRAWINGS HEAVY HORIZONTAL"),
    (0x2502, "BOX DRAWINGS LIGHT VERTICAL;BOX DRAWINGS HEAVY VERTICAL"),
    (0x2504, "BOX DRAWINGS LIGHT TRIPLE DASH HORIZONTAL"),
    (0x2505, "BOX DRAWINGS HEAVY TRIPLE DASH HORIZONTAL;BOX DRAWINGS LIGHT TRIPLE DASH VERTICAL"),
    (0x2507, "BOX DRAWINGS HEAVY TRIPLE DASH VERTICAL"),
    (0x2508, "BOX DRAWINGS LIGHT QUADRUPLE DASH HORIZONTAL"),
    (0x2509, "BOX DRAWINGS HEAVY QUADRUPLE DASH HORIZONTAL"),
    (0x250A, "BOX DRAWINGS LIGHT QUADRUPLE DASH VERTICAL"),
    (0x250B, "BOX DRAWINGS HEAVY QUADRUPLE DASH VERTICAL;BOX DRAWINGS LIGHT DOWN AND RIGHT"),
    (0x250D, "BOX DRAWINGS DOWN LIGHT AND RIGHT HEAVY;BOX DRAWINGS DOWN HEAVY AND RIGHT LIGHT"),
    (0x250F, "BOX DRAWINGS HEAVY DOWN AND RIGHT;BOX DRAWINGS LIGHT DOWN AND LEFT"),
    (0x2511, "BOX DRAWINGS DOWN LIGHT AND LEFT HEAVY;BOX DRAWINGS DOWN HEAVY AND LEFT LIGHT"),
    (0x2513, "BOX DRAWINGS HEAVY DOWN AND LEFT;BOX DRAWINGS LIGHT UP AND RIGHT"),
    (0x2515, "BOX DRAWINGS UP LIGHT AND RIGHT HEAVY;BOX DRAWINGS UP HEAVY AND RIGHT LIGHT"),
    (0x2517, "BOX DRAWINGS HEAVY UP AND RIGHT;BOX DRAWINGS LIGHT UP AND LEFT"),
    (0x2519, "BOX DRAWINGS UP LIGHT AND LEFT HEAVY;BOX DRAWINGS UP HEAVY AND LEFT LIGHT"),
    (0x251B, "BOX DRAWINGS HEAVY UP AND LEFT;BOX DRAWINGS LIGHT VERTICAL AND RIGHT"),
    (0x251D, "BOX DRAWINGS VERTICAL LIGHT AND RIGHT HEAVY"),
    (0x251E, "BOX DRAWINGS UP HEAVY AND RIGHT DOWN LIGHT"),
    (0x251F, "BOX DRAWINGS DOWN HEAVY AND RIGHT UP LIGHT"),
    (0x2520, "BOX DRAWINGS VERTICAL HEAVY AND RIGHT LIGHT"),
    (0x2521, "BOX DRAWINGS DOWN LIGHT AND RIGHT UP HEAVY"),
    (0x2522, "BOX DRAWINGS UP LIGHT AND RIGHT DOWN HEAVY;BOX DRAWINGS HEAVY VERTICAL AND RIGHT"),
    (0x2524, "BOX DRAWINGS LIGHT VERTICAL AND LEFT;BOX DRAWINGS VERTICAL LIGHT AND LEFT HEAVY"),
    (0x2526, "BOX DRAWINGS UP HEAVY AND LEFT DOWN LIGHT"),
    (0x2527, "BOX DRAWINGS DOWN HEAVY AND LEFT UP LIGHT"),
    (0x2528, "BOX DRAWINGS VERTICAL HEAVY AND LEFT LIGHT"),
    (0x2529, "BOX DRAWINGS DOWN LIGHT AND LEFT UP HEAVY"),
    (0x252A, "BOX DRAWINGS UP LIGHT AND LEFT DOWN HEAVY;BOX DRAWINGS HEAVY VERTICAL AND LEFT"),
    (0x252C, "BOX DRAWINGS LIGHT DOWN AND HORIZONTAL"),
    (0x252D, "BOX DRAWINGS LEFT HEAVY AND RIGHT DOWN LIGHT"),
    (0x252E, "BOX DRAWINGS RIGHT HEAVY AND LEFT DOWN LIGHT"),
    (0x252F, "BOX DRAWINGS DOWN LIGHT AND HORIZONTAL HEAVY"),
    (0x2530, "BOX DRAWINGS DOWN HEAVY AND HORIZONTAL LIGHT"),
    (0x2531, "BOX DRAWINGS RIGHT LIGHT AND LEFT DOWN HEAVY"),
    (0x2532, "BOX DRAWINGS LEFT LIGHT AND RIGHT DOWN HEAVY"),
    (0x2533, "BOX DRAWINGS HEAVY DOWN AND HORIZONTAL;BOX DRAWINGS LIGHT UP AND HORIZONTAL"),
    (0x2535, "BOX DRAWINGS LEFT HEAVY AND RIGHT UP LIGHT"),
    (0x2536, "BOX DRAWINGS RIGHT HEAVY AND LEFT UP LIGHT"),
    (0x2537, "BOX DRAWINGS UP LIGHT AND HORIZONTAL HEAVY"),
    (0x2538, "BOX DRAWINGS UP HEAVY AND HORIZONTAL LIGHT"),
    (0x2539, "BOX DRAWINGS RIGHT LIGHT AND LEFT UP HEAVY"),
    (0x253A, "BOX DRAWINGS LEFT LIGHT AND RIGHT UP HEAVY;BOX DRAWINGS HEAVY UP AND HORIZONTAL"),
    (0x253C, "BOX DRAWINGS LIGHT VERTICAL AND HORIZONTAL"),
    (0x253D, "BOX DRAWINGS LEFT HEAVY AND RIGHT VERTICAL LIGHT"),
    (0x253E, "BOX DRAWINGS RIGHT HEAVY AND LEFT VERTICAL LIGHT"),
    (0x253F, "BOX DRAWINGS VERTICAL LIGHT AND HORIZONTAL HEAVY"),
    (0x2540, "BOX DRAWINGS UP HEAVY AND DOWN HORIZONTAL LIGHT"),
    (0x2541, "BOX DRAWINGS DOWN HEAVY AND UP HORIZONTAL LIGHT"),
    (0x2542, "BOX DRAWINGS VERTICAL HEAVY AND HORIZONTAL LIGHT"),
    (0x2543, "BOX DRAWINGS LEFT UP HEAVY AND RIGHT DOWN LIGHT"),
    (0x2544, "BOX DRAWINGS RIGHT UP HEAVY AND LEFT DOWN LIGHT"),
    (0x2545, "BOX DRAWINGS LEFT DOWN HEAVY AND RIGHT UP LIGHT"),
    (0x2546, "BOX DRAWINGS RIGHT DOWN HEAVY AND LEFT UP LIGHT"),
    (0x2547, "BOX DRAWINGS DOWN LIGHT AND UP HORIZONTAL HEAVY"),
    (0x2548, "BOX DRAWINGS UP LIGHT AND DOWN HORIZONTAL HEAVY"),
    (0x2549, "BOX DRAWINGS RIGHT LIGHT AND LEFT VERTICAL HEAVY"),
    (0x254A, "BOX DRAWINGS LEFT LIGHT AND RIGHT VERTICAL HEAVY"),
    (0x254B, "BOX DRAWINGS HEAVY VERTICAL AND HORIZONTAL"),
    (0x254C, "BOX DRAWINGS LIGHT DOUBLE DASH HORIZONTAL"),
    (0x254D, "BOX DRAWINGS HEAVY DOUBLE DASH HORIZONTAL;BOX DRAWINGS LIGHT DOUBLE DASH VERTICAL"),
    (0x254F, "BOX DRAWINGS HEAVY DOUBLE DASH VERTICAL;BOX DRAWINGS DOUBLE HORIZONTAL"),
    (0x2551, "BOX DRAWINGS DOUBLE VERTICAL;BOX DRAWINGS DOWN SINGLE AND RIGHT DOUBLE"),
    (0x2553, "BOX DRAWINGS DOWN DOUBLE AND RIGHT SINGLE;BOX DRAWINGS DOUBLE DOWN AND RIGHT"),
    (0x2555, "BOX DRAWINGS DOWN SINGLE AND LEFT DOUBLE;BOX DRAWINGS DOWN DOUBLE AND LEFT SINGLE"),
    (0x2557, "BOX DRAWINGS DOUBLE DOWN AND LEFT;BOX DRAWINGS UP SINGLE AND RIGHT DOUBLE"),
    (0x2559, "BOX DRAWINGS UP DOUBLE AND RIGHT SINGLE;BOX DRAWINGS DOUBLE UP AND RIGHT"),
    (0x255B, "BOX DRAWINGS UP SINGLE AND LEFT DOUBLE;BOX DRAWINGS UP DOUBLE AND LEFT SINGLE"),
    (0x255D, "BOX DRAWINGS DOUBLE UP AND LEFT;BOX DRAWINGS VERTICAL SINGLE AND RIGHT DOUBLE"),
    (0x255F, "BOX DRAWINGS VERTICAL DOUBLE AND RIGHT SINGLE"),
    (0x2560, "BOX DRAWINGS DOUBLE VERTICAL AND RIGHT"),
    (0x2561, "BOX DRAWINGS VERTICAL SINGLE AND LEFT DOUBLE"),
    (0x2562, "BOX DRAWINGS VERTICAL DOUBLE AND LEFT SINGLE"),
    (0x2563, "BOX DRAWINGS DOUBLE VERTICAL AND LEFT"),
    (0x2564, "BOX DRAWINGS DOWN SINGLE AND HORIZONTAL DOUBLE"),
    (0x2565, "BOX DRAWINGS DOWN DOUBLE AND HORIZONTAL SINGLE"),
    (0x2566, "BOX DRAWINGS DOUBLE DOWN AND HORIZONTAL"),
    (0x2567, "BOX DRAWINGS UP SINGLE AND HORIZONTAL DOUBLE"),
    (0x2568, "BOX DRAWINGS UP DOUBLE AND HORIZONTAL SINGLE"),
    (0x2569, "BOX DRAWINGS DOUBLE UP AND HORIZONTAL"),
    (0x256A, "BOX DRAWINGS VERTICAL SINGLE AND HORIZONTAL DOUBLE"),
    (0x256B, "BOX DRAWINGS VERTICAL DOUBLE AND HORIZONTAL SINGLE"),
    (0x256C, "BOX DRAWINGS DOUBLE VERTICAL AND HORIZONTAL;BOX DRAWINGS LIGHT ARC DOWN AND RIGHT"),
    (0x256E, "BOX DRAWINGS LIGHT ARC DOWN AND LEFT;BOX DRAWINGS LIGHT ARC UP AND LEFT"),
    (0x2570, "BOX DRAWINGS LIGHT ARC UP AND RIGHT"),
    (0x2571, "BOX DRAWINGS LIGHT DIAGONAL UPPER RIGHT TO LOWER LEFT"),
    (0x2572, "BOX DRAWINGS LIGHT DIAGONAL UPPER LEFT TO LOWER RIGHT"),
    (0x2573, "BOX DRAWINGS LIGHT DIAGONAL CROSS;BOX DRAWINGS LIGHT LEFT;BOX DRAWINGS LIGHT UP"),
    (0x2576, "BOX DRAWINGS LIGHT RIGHT;BOX DRAWINGS LIGHT DOWN;BOX DRAWINGS HEAVY LEFT"),
    (0x2579, "BOX DRAWINGS HEAVY UP;BOX DRAWINGS HEAVY RIGHT;BOX DRAWINGS HEAVY DOWN"),
    (0x257C, "BOX DRAWINGS LIGHT LEFT AND HEAVY RIGHT;BOX DRAWINGS LIGHT UP AND HEAVY DOWN"),
    (0x257E, "BOX DRAWINGS HEAVY LEFT AND LIGHT RIGHT;BOX DRAWINGS HEAVY UP AND LIGHT DOWN"),
    (0x2580, "UPPER HALF BLOCK;LOWER ONE EIGHTH BLOCK;LOWER ONE QUARTER BLOCK"),
    (0x2583, "LOWER THREE EIGHTHS BLOCK;LOWER HALF BLOCK;LOWER FIVE EIGHTHS BLOCK"),
    (0x2586, "LOWER THREE QUARTERS BLOCK;LOWER SEVEN EIGHTHS BLOCK;FULL BLOCK"),
    (0x2589, "LEFT SEVEN EIGHTHS BLOCK;LEFT THREE QUARTERS BLOCK;LEFT FIVE EIGHTHS BLOCK"),
    (0x258C, "LEFT HALF BLOCK;LEFT THREE EIGHTHS BLOCK;LEFT ONE QUARTER BLOCK"),
    (0x258F, "LEFT ONE EIGHTH BLOCK;RIGHT HALF BLOCK;LIGHT SHADE;MEDIUM SHADE;DARK SHADE"),
    (0x2594, "UPPER ONE EIGHTH BLOCK;RIGHT ONE EIGHTH BLOCK;QUADRANT LOWER LEFT"),
    (0x2597, "QUADRANT LOWER RIGHT;QUADRANT UPPER LEFT"),
    (0x2599, "QUADRANT UPPER LEFT AND LOWER LEFT AND LOWER RIGHT"),
    (0x259A, "QUADRANT UPPER LEFT AND LOWER RIGHT"),
    (0x259B, "QUADRANT UPPER LEFT AND UPPER RIGHT AND LOWER LEFT"),
    (0x259C, "QUADRANT UPPER LEFT AND UPPER RIGHT AND LOWER RIGHT;QUADRANT UPPER RIGHT"),
    (0x259E, "QUADRANT UPPER RIGHT AND LOWER LEFT"),
    (0x259F, "QUADRANT UPPER RIGHT AND LOWER LEFT AND LOWER RIGHT;BLACK SQUARE;WHITE SQUARE"),
    (0x25A2, "WHITE SQUARE WITH ROUNDED CORNERS;WHITE SQUARE CONTAINING BLACK SMALL SQUARE"),
    (0x25A4, "SQUARE WITH HORIZONTAL FILL;SQUARE WITH VERTICAL FILL"),
    (0x25A6, "SQUARE WITH ORTHOGONAL CROSSHATCH FILL;SQUARE WITH UPPER LEFT TO LOWER RIGHT FILL"),
    (0x25A8, "SQUARE WITH UPPER RIGHT TO LOWER LEFT FILL;SQUARE WITH DIAGONAL CROSSHATCH FILL"),
    (0x25AA, "BLACK SMALL SQUARE;WHITE SMALL SQUARE;BLACK RECTANGLE;WHITE RECTANGLE"),
    (0x25AE, "BLACK VERTICAL RECTANGLE;WHITE VERTICAL RECTANGLE;BLACK PARALLELOGRAM"),
    (0x25B1, "WHITE PARALLELOGRAM;BLACK UP-POINTING TRIANGLE;WHITE UP-POINTING TRIANGLE"),
    (0x25B4, "BLACK UP-POINTING SMALL TRIANGLE;WHITE UP-POINTING SMALL TRIANGLE"),
    (0x25B6, "BLACK RIGHT-POINTING TRIANGLE;WHITE RIGHT-POINTING TRIANGLE"),
    (0x25B8, "BLACK RIGHT-POINTING SMALL TRIANGLE;WHITE RIGHT-POINTING SMALL TRIANGLE"),
    (0x25BA, "BLACK RIGHT-POINTING POINTER;WHITE RIGHT-POINTING POINTER"),
    (0x25BC, "BLACK DOWN-POINTING TRIANGLE;WHITE DOWN-POINTING TRIANGLE"),
    (0x25BE, "BLACK DOWN-POINTING SMALL TRIANGLE;WHITE DOWN-POINTING SMALL TRIANGLE"),
    (0x25C0, "BLACK LEFT-POINTING TRIANGLE;WHITE LEFT-POINTING TRIANGLE"),
    (0x25C2, "BLACK LEFT-POINTING SMALL TRIANGLE;WHITE LEFT-POINTING SMALL TRIANGLE"),
    (0x25C4, "BLACK LEFT-POINTING POINTER;WHITE LEFT-POINTING POINTER;BLACK DIAMOND"),
    (0x25C7, "WHITE DIAMOND;WHITE DIAMOND CONTAINING BLACK SMALL DIAMOND;FISHEYE;LOZENGE"),
    (0x25CB, "WHITE CIRCLE;DOTTED CIRCLE;CIRCLE WITH VERTICAL FILL;BULLSEYE;BLACK CIRCLE"),
    (0x25D0, "CIRCLE WITH LEFT HALF BLACK;CIRCLE WITH RIGHT HALF BLACK"),
    (0x25D2, "CIRCLE WITH LOWER HALF BLACK;CIRCLE WITH UPPER HALF BLACK"),
    (0x25D4, "CIRCLE WITH UPPER RIGHT QUADRANT BLACK"),
    (0x25D5, "CIRCLE WITH ALL BUT UPPER LEFT QUADRANT BLACK;LEFT HALF BLACK CIRCLE"),
    (0x25D7, "RIGHT HALF BLACK CIRCLE;INVERSE BULLET;INVERSE WHITE CIRCLE"),
    (0x25DA, "UPPER HALF INVERSE WHITE CIRCLE;LOWER HALF INVERSE WHITE CIRCLE"),
    (0x25DC, "UPPER LEFT QUADRANT CIRCULAR ARC;UPPER RIGHT QUADRANT CIRCULAR ARC"),
    (0x25DE, "LOWER RIGHT QUADRANT CIRCULAR ARC;LOWER LEFT QUADRANT CIRCULAR ARC"),
    (0x25E0, "UPPER HALF CIRCLE;LOWER HALF CIRCLE;BLACK LOWER RIGHT TRIANGLE"),
    (0x25E3, "BLACK LOWER LEFT TRIANGLE;BLACK UPPER LEFT TRIANGLE;BLACK UPPER RIGHT TRIANGLE"),
    (0x25E6, "WHITE BULLET;SQUARE WITH LEFT HALF BLACK;SQUARE WITH RIGHT HALF BLACK"),
    (0x25E9, "SQUARE WITH UPPER LEFT DIAGONAL HALF BLACK"),
    (0x25EA, "SQUARE WITH LOWER RIGHT DIAGONAL HALF BLACK"),
    (0x25EB, "WHITE SQUARE WITH VERTICAL BISECTING LINE;WHITE UP-POINTING TRIANGLE WITH DOT"),
    (0x25ED, "UP-POINTING TRIANGLE WITH LEFT HALF BLACK"),
    (0x25EE, "UP-POINTING TRIANGLE WITH RIGHT HALF BLACK;LARGE CIRCLE"),
    (0x25F0, "WHITE SQUARE WITH UPPER LEFT QUADRANT;WHITE SQUARE WITH LOWER LEFT QUADRANT"),
    (0x25F2, "WHITE SQUARE WITH LOWER RIGHT QUADRANT;WHITE SQUARE WITH UPPER RIGHT QUADRANT"),
    (0x25F4, "WHITE CIRCLE WITH UPPER LEFT QUADRANT;WHITE CIRCLE WITH LOWER LEFT QUADRANT"),
    (0x25F6, "WHITE CIRCLE WITH LOWER RIGHT QUADRANT;WHITE CIRCLE WITH UPPER RIGHT QUADRANT"),
    (0x25F8, "UPPER LEFT TRIANGLE;UPPER RIGHT TRIANGLE;LOWER LEFT TRIANGLE;WHITE MEDIUM SQUARE"),
    (0x25FC, "BLACK MEDIUM SQUARE;WHITE MEDIUM SMALL SQUARE;BLACK MEDIUM SMALL SQUARE"),
    (0x25FF, "LOWER RIGHT TRIANGLE"),
    (0x2600, "BLACK SUN WITH RAYS;CLOUD;UMBRELLA;SNOWMAN;COMET;BLACK STAR;WHITE STAR;LIGHTNING"),
    (0x2608, "THUNDERSTORM;SUN;ASCENDING NODE;DESCENDING NODE;CONJUNCTION;OPPOSITION"),
    (0x260E, "BLACK TELEPHONE;WHITE TELEPHONE;BALLOT BOX;BALLOT BOX WITH CHECK"),
    (0x2612, "BALLOT BOX WITH X;SALTIRE;UMBRELLA WITH RAIN DROPS;HOT BEVERAGE;WHITE SHOGI PIECE"),
    (0x2617, "BLACK SHOGI PIECE;SHAMROCK;REVERSED ROTATED FLORAL HEART BULLET"),
    (0x261A, "BLACK LEFT POINTING INDEX;BLACK RIGHT POINTING INDEX;WHITE LEFT POINTING INDEX"),
    (0x261D, "WHITE UP POINTING INDEX;WHITE RIGHT POINTING INDEX;WHITE DOWN POINTING INDEX"),
    (0x2620, "SKULL AND CROSSBONES;CAUTION SIGN;RADIOACTIVE SIGN;BIOHAZARD SIGN;CADUCEUS;ANKH"),
    (0x2626, "ORTHODOX CROSS;CHI RHO;CROSS OF LORRAINE;CROSS OF JERUSALEM;STAR AND CRESCENT"),
    (0x262B, "FARSI SYMBOL;ADI SHAKTI;HAMMER AND SICKLE;PEACE SYMBOL;YIN YANG"),
    (0x2630, "TRIGRAM FOR HEAVEN;TRIGRAM FOR LAKE;TRIGRAM FOR FIRE;TRIGRAM FOR THUNDER"),
    (0x2634, "TRIGRAM FOR WIND;TRIGRAM FOR WATER;TRIGRAM FOR MOUNTAIN;TRIGRAM FOR EARTH"),
    (0x2638, "WHEEL OF DHARMA;WHITE FROWNING FACE;WHITE SMILING FACE;BLACK SMILING FACE"),
    (0x263C, "WHITE SUN WITH RAYS;FIRST QUARTER MOON;LAST QUARTER MOON;MERCURY;FEMALE SIGN"),
    (0x2641, "EARTH;MALE SIGN;JUPITER;SATURN;URANUS;NEPTUNE;PLUTO;ARIES;TAURUS;GEMINI;CANCER"),
    (0x264C, "LEO;VIRGO;LIBRA;SCORPIUS;SAGITTARIUS;CAPRICORN;AQUARIUS;PISCES;WHITE CHESS KING"),
    (0x2655, "WHITE CHESS QUEEN;WHITE CHESS ROOK;WHITE CHESS BISHOP;WHITE CHESS KNIGHT"),
    (0x2659, "WHITE CHESS PAWN;BLACK CHESS KING;BLACK CHESS QUEEN;BLACK CHESS ROOK"),
    (0x265D, "BLACK CHESS BISHOP;BLACK CHESS KNIGHT;BLACK CHESS PAWN;BLACK SPADE SUIT"),
    (0x2661, "WHITE HEART SUIT;WHITE DIAMOND SUIT;BLACK CLUB SUIT;WHITE SPADE SUIT"),
    (0x2665, "BLACK HEART SUIT;BLACK DIAMOND SUIT;WHITE CLUB SUIT;HOT SPRINGS;QUARTER NOTE"),
    (0x266A, "EIGHTH NOTE;BEAMED EIGHTH NOTES;BEAMED SIXTEENTH NOTES;MUSIC FLAT SIGN"),
    (0x266E, "MUSIC NATURAL SIGN;MUSIC SHARP SIGN;WEST SYRIAC CROSS;EAST SYRIAC CROSS"),
    (0x2672, "UNIVERSAL RECYCLING SYMBOL;RECYCLING SYMBOL FOR TYPE-1 PLASTICS"),
    (0x2674, "RECYCLING SYMBOL FOR TYPE-2 PLASTICS;RECYCLING SYMBOL FOR TYPE-3 PLASTICS"),
    (0x2676, "RECYCLING SYMBOL FOR TYPE-4 PLASTICS;RECYCLING SYMBOL FOR TYPE-5 PLASTICS"),
    (0x2678, "RECYCLING SYMBOL FOR TYPE-6 PLASTICS;RECYCLING SYMBOL FOR TYPE-7 PLASTICS"),
    (0x267A, "RECYCLING SYMBOL FOR GENERIC MATERIALS;BLACK UNIVERSAL RECYCLING SYMBOL"),
    (0x267C, "RECYCLED PAPER SYMBOL;PARTIALLY-RECYCLED PAPER SYMBOL;PERMANENT PAPER SIGN"),
    (0x267F, "WHEELCHAIR SYMBOL;DIE FACE-1;DIE FACE-2;DIE FACE-3;DIE FACE-4;DIE FACE-5"),
    (0x2685, "DIE FACE-6;WHITE CIRCLE WITH DOT RIGHT;WHITE CIRCLE WITH TWO DOTS"),
    (0x2688, "BLACK CIRCLE WITH WHITE DOT RIGHT;BLACK CIRCLE WITH TWO WHITE DOTS"),
    (0x268A, "MONOGRAM FOR YANG;MONOGRAM FOR YIN;DIGRAM FOR GREATER YANG;DIGRAM FOR LESSER YIN"),
    (0x268E, "DIGRAM FOR LESSER YANG;DIGRAM FOR GREATER YIN;WHITE FLAG;BLACK FLAG"),
    (0x2692, "HAMMER AND PICK;ANCHOR;CROSSED SWORDS;STAFF OF AESCULAPIUS;SCALES;ALEMBIC;FLOWER"),
    (0x2699, "GEAR;STAFF OF HERMES;ATOM SYMBOL;FLEUR-DE-LIS;OUTLINED WHITE STAR"),
    (0x269E, "THREE LINES CONVERGING RIGHT;THREE LINES CONVERGING LEFT;WARNING SIGN"),
    (0x26A1, "HIGH VOLTAGE SIGN;DOUBLED FEMALE SIGN;DOUBLED MALE SIGN"),
    (0x26A4, "INTERLOCKED FEMALE AND MALE SIGN;MALE AND FEMALE SIGN;MALE WITH STROKE SIGN"),
    (0x26A7, "MALE WITH STROKE AND MALE AND FEMALE SIGN;VERTICAL MALE WITH STROKE SIGN"),
    (0x26A9, "HORIZONTAL MALE WITH STROKE SIGN;MEDIUM WHITE CIRCLE;MEDIUM BLACK CIRCLE"),
    (0x26AC, "MEDIUM SMALL WHITE CIRCLE;MARRIAGE SYMBOL;DIVORCE SYMBOL"),
    (0x26AF, "UNMARRIED PARTNERSHIP SYMBOL;COFFIN;FUNERAL URN;NEUTER;CERES;PALLAS;JUNO;VESTA"),
    (0x26B7, "CHIRON;BLACK MOON LILITH;SEXTILE;SEMISEXTILE;QUINCUNX;SESQUIQUADRATE;SOCCER BALL"),
    (0x26BE, "BASEBALL;SQUARED KEY;WHITE DRAUGHTS MAN;WHITE DRAUGHTS KING;BLACK DRAUGHTS MAN"),
    (0x26C3, "BLACK DRAUGHTS KING;SNOWMAN WITHOUT SNOW;SUN BEHIND CLOUD;RAIN;BLACK SNOWMAN"),
    (0x26C8, "THUNDER CLOUD AND RAIN;TURNED WHITE SHOGI PIECE;TURNED BLACK SHOGI PIECE"),
    (0x26CB, "WHITE DIAMOND IN SQUARE;CROSSING LANES;DISABLED CAR;OPHIUCHUS;PICK;CAR SLIDING"),
    (0x26D1, "HELMET WITH WHITE CROSS;CIRCLED CROSSING LANES;CHAINS;NO ENTRY"),
    (0x26D5, "ALTERNATE ONE-WAY LEFT WAY TRAFFIC;BLACK TWO-WAY LEFT WAY TRAFFIC"),
    (0x26D7, "WHITE TWO-WAY LEFT WAY TRAFFIC;BLACK LEFT LANE MERGE;WHITE LEFT LANE MERGE"),
    (0x26DA, "DRIVE SLOW SIGN;HEAVY WHITE DOWN-POINTING TRIANGLE;LEFT CLOSED ENTRY"),
    (0x26DD, "SQUARED SALTIRE;FALLING DIAGONAL IN WHITE CIRCLE IN BLACK SQUARE;BLACK TRUCK"),
    (0x26E0, "RESTRICTED LEFT ENTRY-1;RESTRICTED LEFT ENTRY-2;ASTRONOMICAL SYMBOL FOR URANUS"),
    (0x26E3, "HEAVY CIRCLE WITH STROKE AND TWO DOTS ABOVE;PENTAGRAM"),
    (0x26E5, "RIGHT-HANDED INTERLACED PENTAGRAM;LEFT-HANDED INTERLACED PENTAGRAM"),
    (0x26E7, "INVERTED PENTAGRAM;BLACK CROSS ON SHIELD;SHINTO SHRINE;CHURCH;CASTLE"),
    (0x26EC, "HISTORIC SITE;GEAR WITHOUT HUB;GEAR WITH HANDLES;MAP SYMBOL FOR LIGHTHOUSE"),
    (0x26F0, "MOUNTAIN;UMBRELLA ON GROUND;FOUNTAIN;FLAG IN HOLE;FERRY;SAILBOAT"),
    (0x26F6, "SQUARE FOUR CORNERS;SKIER;ICE SKATE;PERSON WITH BALL;TENT;JAPANESE BANK SYMBOL"),
    (0x26FC, "HEADSTONE GRAVEYARD SYMBOL;FUEL PUMP;CUP ON BLACK SQUARE"),
    (0x26FF, "WHITE FLAG WITH HORIZONTAL MIDDLE BLACK STRIPE"),
    (0x2700, "BLACK SAFETY SCISSORS;UPPER BLADE SCISSORS;BLACK SCISSORS;LOWER BLADE SCISSORS"),
    (0x2704, "WHITE SCISSORS;WHITE HEAVY CHECK MARK;TELEPHONE LOCATION SIGN;TAPE DRIVE;AIRPLANE"),
    (0x2709, "ENVELOPE;RAISED FIST;RAISED HAND;VICTORY HAND;WRITING HAND;LOWER RIGHT PENCIL"),
    (0x270F, "PENCIL;UPPER RIGHT PENCIL;WHITE NIB;BLACK NIB;CHECK MARK;HEAVY CHECK MARK"),
    (0x2715, "MULTIPLICATION X;HEAVY MULTIPLICATION X;BALLOT X;HEAVY BALLOT X"),
    (0x2719, "OUTLINED GREEK CROSS;HEAVY GREEK CROSS;OPEN CENTRE CROSS;HEAVY OPEN CENTRE CROSS"),
    (0x271D, "LATIN CROSS;SHADOWED WHITE LATIN CROSS;OUTLINED LATIN CROSS;MALTESE CROSS"),
    (0x2721, "STAR OF DAVID;FOUR TEARDROP-SPOKED ASTERISK;FOUR BALLOON-SPOKED ASTERISK"),
    (0x2724, "HEAVY FOUR BALLOON-SPOKED ASTERISK;FOUR CLUB-SPOKED ASTERISK"),
    (0x2726, "BLACK FOUR POINTED STAR;WHITE FOUR POINTED STAR;SPARKLES"),
    (0x2729, "STRESS OUTLINED WHITE STAR;CIRCLED WHITE STAR;OPEN CENTRE BLACK STAR"),
    (0x272C, "BLACK CENTRE WHITE STAR;OUTLINED BLACK STAR;HEAVY OUTLINED BLACK STAR"),
    (0x272F, "PINWHEEL STAR;SHADOWED WHITE STAR;HEAVY ASTERISK;OPEN CENTRE ASTERISK"),
    (0x2733, "EIGHT SPOKED ASTERISK;EIGHT POINTED BLACK STAR;EIGHT POINTED PINWHEEL STAR"),
    (0x2736, "SIX POINTED BLACK STAR;EIGHT POINTED RECTILINEAR BLACK STAR"),
    (0x2738, "HEAVY EIGHT POINTED RECTILINEAR BLACK STAR;TWELVE POINTED BLACK STAR"),
    (0x273A, "SIXTEEN POINTED ASTERISK;TEARDROP-SPOKED ASTERISK"),
    (0x273C, "OPEN CENTRE TEARDROP-SPOKED ASTERISK;HEAVY TEARDROP-SPOKED ASTERISK"),
    (0x273E, "SIX PETALLED BLACK AND WHITE FLORETTE;BLACK FLORETTE;WHITE FLORETTE"),
    (0x2741, "EIGHT PETALLED OUTLINED BLACK FLORETTE;CIRCLED OPEN CENTRE EIGHT POINTED STAR"),
    (0x2743, "HEAVY TEARDROP-SPOKED PINWHEEL ASTERISK;SNOWFLAKE;TIGHT TRIFOLIATE SNOWFLAKE"),
    (0x2746, "HEAVY CHEVRON SNOWFLAKE;SPARKLE;HEAVY SPARKLE;BALLOON-SPOKED ASTERISK"),
    (0x274A, "EIGHT TEARDROP-SPOKED PROPELLER ASTERISK"),
    (0x274B, "HEAVY EIGHT TEARDROP-SPOKED PROPELLER ASTERISK;CROSS MARK;SHADOWED WHITE CIRCLE"),
    (0x274E, "NEGATIVE SQUARED CROSS MARK;LOWER RIGHT DROP-SHADOWED WHITE SQUARE"),
    (0x2750, "UPPER RIGHT DROP-SHADOWED WHITE SQUARE;LOWER RIGHT SHADOWED WHITE SQUARE"),
    (0x2752, "UPPER RIGHT SHADOWED WHITE SQUARE;BLACK QUESTION MARK ORNAMENT"),
    (0x2754, "WHITE QUESTION MARK ORNAMENT;WHITE EXCLAMATION MARK ORNAMENT"),
    (0x2756, "BLACK DIAMOND MINUS WHITE X;HEAVY EXCLAMATION MARK SYMBOL;LIGHT VERTICAL BAR"),
    (0x2759, "MEDIUM VERTICAL BAR;HEAVY VERTICAL BAR"),
    (0x275B, "HEAVY SINGLE TURNED COMMA QUOTATION MARK ORNAMENT"),
    (0x275C, "HEAVY SINGLE COMMA QUOTATION MARK ORNAMENT"),
    (0x275D, "HEAVY DOUBLE TURNED COMMA QUOTATION MARK ORNAMENT"),
    (0x275E, "HEAVY DOUBLE COMMA QUOTATION MARK ORNAMENT"),
    (0x275F, "HEAVY LOW SINGLE COMMA QUOTATION MARK ORNAMENT"),
    (0x2760, "HEAVY LOW DOUBLE COMMA QUOTATION MARK ORNAMENT"),
    (0x2761, "CURVED STEM PARAGRAPH SIGN ORNAMENT;HEAVY EXCLAMATION MARK ORNAMENT"),
    (0x2763, "HEAVY HEART EXCLAMATION MARK ORNAMENT;HEAVY BLACK HEART"),
    (0x2765, "ROTATED HEAVY BLACK HEART BULLET;FLORAL HEART;ROTATED FLORAL HEART BULLET"),
    (0x2768, "MEDIUM LEFT PARENTHESIS ORNAMENT;MEDIUM RIGHT PARENTHESIS ORNAMENT"),
    (0x276A, "MEDIUM FLATTENED LEFT PARENTHESIS ORNAMENT"),
    (0x276B, "MEDIUM FLATTENED RIGHT PARENTHESIS ORNAMENT"),
    (0x276C, "MEDIUM LEFT-POINTING ANGLE BRACKET ORNAMENT"),
    (0x276D, "MEDIUM RIGHT-POINTING ANGLE BRACKET ORNAMENT"),
    (0x276E, "HEAVY LEFT-POINTING ANGLE QUOTATION MARK ORNAMENT"),
    (0x276F, "HEAVY RIGHT-POINTING ANGLE QUOTATION MARK ORNAMENT"),
    (0x2770, "HEAVY LEFT-POINTING ANGLE BRACKET ORNAMENT"),
    (0x2771, "HEAVY RIGHT-POINTING ANGLE BRACKET ORNAMENT"),
    (0x2772, "LIGHT LEFT TORTOISE SHELL BRACKET ORNAMENT"),
    (0x2773, "LIGHT RIGHT TORTOISE SHELL BRACKET ORNAMENT;MEDIUM LEFT CURLY BRACKET ORNAMENT"),
    (0x2775, "MEDIUM RIGHT CURLY BRACKET ORNAMENT;DINGBAT NEGATIVE CIRCLED DIGIT ONE"),
    (0x2777, "DINGBAT NEGATIVE CIRCLED DIGIT TWO;DINGBAT NEGATIVE CIRCLED DIGIT THREE"),
    (0x2779, "DINGBAT NEGATIVE CIRCLED DIGIT FOUR;DINGBAT NEGATIVE CIRCLED DIGIT FIVE"),
    (0x277B, "DINGBAT NEGATIVE CIRCLED DIGIT SIX;DINGBAT NEGATIVE CIRCLED DIGIT SEVEN"),
    (0x277D, "DINGBAT NEGATIVE CIRCLED DIGIT EIGHT;DINGBAT NEGATIVE CIRCLED DIGIT NINE"),
    (0x277F, "DINGBAT NEGATIVE CIRCLED NUMBER TEN;DINGBAT CIRCLED SANS-SERIF DIGIT ONE"),
    (0x2781, "DINGBAT CIRCLED SANS-SERIF DIGIT TWO;DINGBAT CIRCLED SANS-SERIF DIGIT THREE"),
    (0x2783, "DINGBAT CIRCLED SANS-SERIF DIGIT FOUR;DINGBAT CIRCLED SANS-SERIF DIGIT FIVE"),
    (0x2785, "DINGBAT CIRCLED SANS-SERIF DIGIT SIX;DINGBAT CIRCLED SANS-SERIF DIGIT SEVEN"),
    (0x2787, "DINGBAT CIRCLED SANS-SERIF DIGIT EIGHT;DINGBAT CIRCLED SANS-SERIF DIGIT NINE"),
    (0x2789, "DINGBAT CIRCLED SANS-SERIF NUMBER TEN"),
    (0x278A, "DINGBAT NEGATIVE CIRCLED SANS-SERIF DIGIT ONE"),
    (0x278B, "DINGBAT NEGATIVE CIRCLED SANS-SERIF DIGIT TWO"),
    (0x278C, "DINGBAT NEGATIVE CIRCLED SANS-SERIF DIGIT THREE"),
    (0x278D, "DINGBAT NEGATIVE CIRCLED SANS-SERIF DIGIT FOUR"),
    (0x278E, "DINGBAT NEGATIVE CIRCLED SANS-SERIF DIGIT FIVE"),
    (0x278F, "DINGBAT NEGATIVE CIRCLED SANS-SERIF DIGIT SIX"),
    (0x2790, "DINGBAT NEGATIVE CIRCLED SANS-SERIF DIGIT SEVEN"),
    (0x2791, "DINGBAT NEGATIVE CIRCLED SANS-SERIF DIGIT EIGHT"),
    (0x2792, "DINGBAT NEGATIVE CIRCLED SANS-SERIF DIGIT NINE"),
    (0x2793, "DINGBAT NEGATIVE CIRCLED SANS-SERIF NUMBER TEN;HEAVY WIDE-HEADED RIGHTWARDS ARROW"),
    (0x2795, "HEAVY PLUS SIGN;HEAVY MINUS SIGN;HEAVY DIVISION SIGN;HEAVY SOUTH EAST ARROW"),
    (0x2799, "HEAVY RIGHTWARDS ARROW;HEAVY NORTH EAST ARROW;DRAFTING POINT RIGHTWARDS ARROW"),
    (0x279C, "HEAVY ROUND-TIPPED RIGHTWARDS ARROW;TRIANGLE-HEADED RIGHTWARDS ARROW"),
    (0x279E, "HEAVY TRIANGLE-HEADED RIGHTWARDS ARROW;DASHED TRIANGLE-HEADED RIGHTWARDS ARROW"),
    (0x27A0, "HEAVY DASHED TRIANGLE-HEADED RIGHTWARDS ARROW;BLACK RIGHTWARDS ARROW"),
    (0x27A2, "THREE-D TOP-LIGHTED RIGHTWARDS ARROWHEAD"),
    (0x27A3, "THREE-D BOTTOM-LIGHTED RIGHTWARDS ARROWHEAD;BLACK RIGHTWARDS ARROWHEAD"),
    (0x27A5, "HEAVY BLACK CURVED DOWNWARDS AND RIGHTWARDS ARROW"),
    (0x27A6, "HEAVY BLACK CURVED UPWARDS AND RIGHTWARDS ARROW;SQUAT BLACK RIGHTWARDS ARROW"),
    (0x27A8, "HEAVY CONCAVE-POINTED BLACK RIGHTWARDS ARROW;RIGHT-SHADED WHITE RIGHTWARDS ARROW"),
    (0x27AA, "LEFT-SHADED WHITE RIGHTWARDS ARROW;BACK-TILTED SHADOWED WHITE RIGHTWARDS ARROW"),
    (0x27AC, "FRONT-TILTED SHADOWED WHITE RIGHTWARDS ARROW"),
    (0x27AD, "HEAVY LOWER RIGHT-SHADOWED WHITE RIGHTWARDS ARROW"),
    (0x27AE, "HEAVY UPPER RIGHT-SHADOWED WHITE RIGHTWARDS ARROW"),
    (0x27AF, "NOTCHED LOWER RIGHT-SHADOWED WHITE RIGHTWARDS ARROW;CURLY LOOP"),
    (0x27B1, "NOTCHED UPPER RIGHT-SHADOWED WHITE RIGHTWARDS ARROW"),
    (0x27B2, "CIRCLED HEAVY WHITE RIGHTWARDS ARROW;WHITE-FEATHERED RIGHTWARDS ARROW"),
    (0x27B4, "BLACK-FEATHERED SOUTH EAST ARROW;BLACK-FEATHERED RIGHTWARDS ARROW"),
    (0x27B6, "BLACK-FEATHERED NORTH EAST ARROW;HEAVY BLACK-FEATHERED SOUTH EAST ARROW"),
    (0x27B8, "HEAVY BLACK-FEATHERED RIGHTWARDS ARROW;HEAVY BLACK-FEATHERED NORTH EAST ARROW"),
    (0x27BA, "TEARDROP-BARBED RIGHTWARDS ARROW;HEAVY TEARDROP-SHANKED RIGHTWARDS ARROW"),
    (0x27BC, "WEDGE-TAILED RIGHTWARDS ARROW;HEAVY WEDGE-TAILED RIGHTWARDS ARROW"),
    (0x27BE, "OPEN-OUTLINED RIGHTWARDS ARROW;DOUBLE CURLY LOOP"),
    (0x1F600, "GRINNING FACE;GRINNING FACE WITH SMILING EYES;FACE WITH TEARS OF JOY"),
    (0x1F603, "SMILING FACE WITH OPEN MOUTH;SMILING FACE WITH OPEN MOUTH AND SMILING EYES"),
    (0x1F605, "SMILING FACE WITH OPEN MOUTH AND COLD SWEAT"),
    (0x1F606, "SMILING FACE WITH OPEN MOUTH AND TIGHTLY-CLOSED EYES;SMILING FACE WITH HALO"),
    (0x1F608, "SMILING FACE WITH HORNS;WINKING FACE;SMILING FACE WITH SMILING EYES"),
    (0x1F60B, "FACE SAVOURING DELICIOUS FOOD;RELIEVED FACE;SMILING FACE WITH HEART-SHAPED EYES"),
    (0x1F60E, "SMILING FACE WITH SUNGLASSES;SMIRKING FACE;NEUTRAL FACE;EXPRESSIONLESS FACE"),
    (0x1F612, "UNAMUSED FACE;FACE WITH COLD SWEAT;PENSIVE FACE;CONFUSED FACE;CONFOUNDED FACE"),
    (0x1F617, "KISSING FACE;FACE THROWING A KISS;KISSING FACE WITH SMILING EYES"),
    (0x1F61A, "KISSING FACE WITH CLOSED EYES;FACE WITH STUCK-OUT TONGUE"),
    (0x1F61C, "FACE WITH STUCK-OUT TONGUE AND WINKING EYE"),
    (0x1F61D, "FACE WITH STUCK-OUT TONGUE AND TIGHTLY-CLOSED EYES;DISAPPOINTED FACE"),
    (0x1F61F, "WORRIED FACE;ANGRY FACE;POUTING FACE;CRYING FACE;PERSEVERING FACE"),
    (0x1F624, "FACE WITH LOOK OF TRIUMPH;DISAPPOINTED BUT RELIEVED FACE"),
    (0x1F626, "FROWNING FACE WITH OPEN MOUTH;ANGUISHED FACE;FEARFUL FACE;WEARY FACE;SLEEPY FACE"),
    (0x1F62B, "TIRED FACE;GRIMACING FACE;LOUDLY CRYING FACE;FACE WITH OPEN MOUTH;HUSHED FACE"),
    (0x1F630, "FACE WITH OPEN MOUTH AND COLD SWEAT;FACE SCREAMING IN FEAR;ASTONISHED FACE"),
    (0x1F633, "FLUSHED FACE;SLEEPING FACE;DIZZY FACE;FACE WITHOUT MOUTH;FACE WITH MEDICAL MASK"),
    (0x1F638, "GRINNING CAT FACE WITH SMILING EYES;CAT FACE WITH TEARS OF JOY"),
    (0x1F63A, "SMILING CAT FACE WITH OPEN MOUTH;SMILING CAT FACE WITH HEART-SHAPED EYES"),
    (0x1F63C, "CAT FACE WITH WRY SMILE;KISSING CAT FACE WITH CLOSED EYES;POUTING CAT FACE"),
    (0x1F63F, "CRYING CAT FACE;WEARY CAT FACE;SLIGHTLY FROWNING FACE;SLIGHTLY SMILING FACE"),
    (0x1F643, "UPSIDE-DOWN FACE;FACE WITH ROLLING EYES;FACE WITH NO GOOD GESTURE"),
    (0x1F646, "FACE WITH OK GESTURE;PERSON BOWING DEEPLY;SEE-NO-EVIL MONKEY;HEAR-NO-EVIL MONKEY"),
    (0x1F64A, "SPEAK-NO-EVIL MONKEY;HAPPY PERSON RAISING ONE HAND"),
    (0x1F64C, "PERSON RAISING BOTH HANDS IN CELEBRATION;PERSON FROWNING"),
    (0x1F64E, "PERSON WITH POUTING FACE;PERSON WITH FOLDED HANDS")]

def charAliases : List (Nat × String) :=
  [(0x0, "NULL"), (0x7, "ALERT"), (0x7, "BEL"), (0x8, "BACKSPACE"), (0x8, "BS"),
    (0x9, "CHARACTER TABULATION"), (0x9, "HORIZONTAL TABULATION"), (0x9, "TAB"), (0x9, "HT"),
    (0xA, "LINE FEED"), (0xA, "NEW LINE"), (0xA, "END OF LINE"), (0xA, "LF"), (0xA, "NL"),
    (0xA, "EOL"), (0xB, "LINE TABULATION"), (0xB, "VERTICAL TABULATION"), (0xB, "VT"),
    (0xC, "FORM FEED"), (0xC, "FF"), (0xD, "CARRIAGE RETURN"), (0xD, "CR"), (0x1B, "ESCAPE"),
    (0x1B, "ESC"), (0x20, "SP"), (0x7F, "DELETE"), (0x7F, "DEL"), (0x85, "NEXT LINE"),
    (0x85, "NEL"), (0xA0, "NBSP"), (0xAD, "SHY"), (0x200B, "ZWSP"), (0x200C, "ZWNJ"),
    (0x200D, "ZWJ"), (0xFEFF, "ZERO WIDTH NO-BREAK SPACE"), (0xFEFF, "BYTE ORDER MARK"),
    (0xFEFF, "BOM"), (0xFEFF, "ZWNBSP"), (0xFFFD, "REPLACEMENT CHARACTER")]

end GlueCode.Text
