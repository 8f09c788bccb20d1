/-!
# Character names, part 1

The formal names of the named code points from U+0020 to U+1CB0, by blocks of consecutive
code points: a block gives its first code point and the names of it and of the code points after
it, in lines of names separated by `;` (the lines joined by `;` too), an empty name standing
for a code point without one. A name written `k:rest` is the first `k` characters of the name
before it followed by `rest`.
-/

namespace LocationDrift

namespace CharacterNames

/-- The names of the code points from U+0020 to U+1CB0. -/
def part1 : List (Nat × List String) := [
  (0x0020, [
    "SPACE;EXCLAMATION MARK;QUOTATION MARK;NUMBER SIGN;DOLLAR SIGN;PERCENT SIGN;AMPERSAND",
    "APOSTROPHE;LEFT PARENTHESIS;RIGHT PARENTHESIS;ASTERISK;PLUS SIGN;COMMA;HYPHEN-MINUS",
    "FULL STOP;SOLIDUS;DIGIT ZERO;6:ONE;6:TWO;7:HREE;6:FOUR;7:IVE;6:SIX;7:EVEN;6:EIGHT;6:NINE",
    "COLON;SEMICOLON;LESS-THAN SIGN;EQUALS SIGN;GREATER-THAN SIGN;QUESTION MARK;COMMERCIAL AT",
    "LATIN CAPITAL LETTER A;21:B;21:C;21:D;21:E;21:F;21:G;21:H;21:I;21:J;21:K;21:L;21:M;21:N;21:O",
    "21:P;21:Q;21:R;21:S;21:T;21:U;21:V;21:W;21:X;21:Y;21:Z;LEFT SQUARE BRACKET;REVERSE SOLIDUS",
    "RIGHT SQUARE BRACKET;CIRCUMFLEX ACCENT;LOW LINE;GRAVE ACCENT;LATIN SMALL LETTER A;19:B;19:C",
    "19:D;19:E;19:F;19:G;19:H;19:I;19:J;19:K;19:L;19:M;19:N;19:O;19:P;19:Q;19:R;19:S;19:T;19:U",
    "19:V;19:W;19:X;19:Y;19:Z;LEFT CURLY BRACKET;VERTICAL LINE;RIGHT CURLY BRACKET;TILDE;;;;;;;;;",
    ";;;;;;;;;;;;;;;;;;;;;;;;NO-BREAK SPACE;INVERTED EXCLAMATION MARK;CENT SIGN;POUND SIGN",
    "CURRENCY SIGN;YEN SIGN;BROKEN BAR;SECTION SIGN;DIAERESIS;COPYRIGHT SIGN",
    "FEMININE ORDINAL INDICATOR;LEFT-POINTING DOUBLE ANGLE QUOTATION MARK;NOT SIGN;SOFT HYPHEN",
    "REGISTERED SIGN;MACRON;DEGREE SIGN;PLUS-MINUS SIGN;SUPERSCRIPT TWO;13:HREE;ACUTE ACCENT",
    "MICRO SIGN;PILCROW SIGN;MIDDLE DOT;CEDILLA;SUPERSCRIPT ONE;MASCULINE ORDINAL INDICATOR",
    "RIGHT-POINTING DOUBLE ANGLE QUOTATION MARK;VULGAR FRACTION ONE QUARTER;20:HALF",
    "16:THREE QUARTERS;INVERTED QUESTION MARK;LATIN CAPITAL LETTER A WITH GRAVE;28:ACUTE",
    "28:CIRCUMFLEX;28:TILDE;28:DIAERESIS;28:RING ABOVE;22:E;21:C WITH CEDILLA;21:E WITH GRAVE",
    "28:ACUTE;28:CIRCUMFLEX;28:DIAERESIS;21:I WITH GRAVE;28:ACUTE;28:CIRCUMFLEX;28:DIAERESIS",
    "21:ETH;21:N WITH TILDE;21:O WITH GRAVE;28:ACUTE;28:CIRCUMFLEX;28:TILDE;28:DIAERESIS",
    "MULTIPLICATION SIGN;LATIN CAPITAL LETTER O WITH STROKE;21:U WITH GRAVE;28:ACUTE",
    "28:CIRCUMFLEX;28:DIAERESIS;21:Y WITH ACUTE;21:THORN;6:SMALL LETTER SHARP S;19:A WITH GRAVE",
    "26:ACUTE;26:CIRCUMFLEX;26:TILDE;26:DIAERESIS;26:RING ABOVE;20:E;19:C WITH CEDILLA",
    "19:E WITH GRAVE;26:ACUTE;26:CIRCUMFLEX;26:DIAERESIS;19:I WITH GRAVE;26:ACUTE;26:CIRCUMFLEX",
    "26:DIAERESIS;19:ETH;19:N WITH TILDE;19:O WITH GRAVE;26:ACUTE;26:CIRCUMFLEX;26:TILDE",
    "26:DIAERESIS;DIVISION SIGN;LATIN SMALL LETTER O WITH STROKE;19:U WITH GRAVE;26:ACUTE",
    "26:CIRCUMFLEX;26:DIAERESIS;19:Y WITH ACUTE;19:THORN;19:Y WITH DIAERESIS",
    "6:CAPITAL LETTER A WITH MACRON;6:SMALL LETTER A WITH MACRON;6:CAPITAL LETTER A WITH BREVE",
    "6:SMALL LETTER A WITH BREVE;6:CAPITAL LETTER A WITH OGONEK;6:SMALL LETTER A WITH OGONEK",
    "6:CAPITAL LETTER C WITH ACUTE;6:SMALL LETTER C WITH ACUTE;6:CAPITAL LETTER C WITH CIRCUMFLEX",
    "6:SMALL LETTER C WITH CIRCUMFLEX;6:CAPITAL LETTER C WITH DOT ABOVE",
    "6:SMALL LETTER C WITH DOT ABOVE;6:CAPITAL LETTER C WITH CARON;6:SMALL LETTER C WITH CARON",
    "6:CAPITAL LETTER D WITH CARON;6:SMALL LETTER D WITH CARON;6:CAPITAL LETTER D WITH STROKE",
    "6:SMALL LETTER D WITH STROKE;6:CAPITAL LETTER E WITH MACRON;6:SMALL LETTER E WITH MACRON",
    "6:CAPITAL LETTER E WITH BREVE;6:SMALL LETTER E WITH BREVE;6:CAPITAL LETTER E WITH DOT ABOVE",
    "6:SMALL LETTER E WITH DOT ABOVE;6:CAPITAL LETTER E WITH OGONEK;6:SMALL LETTER E WITH OGONEK",
    "6:CAPITAL LETTER E WITH CARON;6:SMALL LETTER E WITH CARON;6:CAPITAL LETTER G WITH CIRCUMFLEX",
    "6:SMALL LETTER G WITH CIRCUMFLEX;6:CAPITAL LETTER G WITH BREVE;6:SMALL LETTER G WITH BREVE",
    "6:CAPITAL LETTER G WITH DOT ABOVE;6:SMALL LETTER G WITH DOT ABOVE",
    "6:CAPITAL LETTER G WITH CEDILLA;6:SMALL LETTER G WITH CEDILLA",
    "6:CAPITAL LETTER H WITH CIRCUMFLEX;6:SMALL LETTER H WITH CIRCUMFLEX",
    "6:CAPITAL LETTER H WITH STROKE;6:SMALL LETTER H WITH STROKE;6:CAPITAL LETTER I WITH TILDE",
    "6:SMALL LETTER I WITH TILDE;6:CAPITAL LETTER I WITH MACRON;6:SMALL LETTER I WITH MACRON",
    "6:CAPITAL LETTER I WITH BREVE;6:SMALL LETTER I WITH BREVE;6:CAPITAL LETTER I WITH OGONEK",
    "6:SMALL LETTER I WITH OGONEK;6:CAPITAL LETTER I WITH DOT ABOVE;6:SMALL LETTER DOTLESS I",
    "6:CAPITAL LIGATURE IJ;6:SMALL LIGATURE IJ;6:CAPITAL LETTER J WITH CIRCUMFLEX",
    "6:SMALL LETTER J WITH CIRCUMFLEX;6:CAPITAL LETTER K WITH CEDILLA",
    "6:SMALL LETTER K WITH CEDILLA;20:RA;6:CAPITAL LETTER L WITH ACUTE",
    "6:SMALL LETTER L WITH ACUTE;6:CAPITAL LETTER L WITH CEDILLA;6:SMALL LETTER L WITH CEDILLA",
    "6:CAPITAL LETTER L WITH CARON;6:SMALL LETTER L WITH CARON;6:CAPITAL LETTER L WITH MIDDLE DOT",
    "6:SMALL LETTER L WITH MIDDLE DOT;6:CAPITAL LETTER L WITH STROKE;6:SMALL LETTER L WITH STROKE",
    "6:CAPITAL LETTER N WITH ACUTE;6:SMALL LETTER N WITH ACUTE;6:CAPITAL LETTER N WITH CEDILLA",
    "6:SMALL LETTER N WITH CEDILLA;6:CAPITAL LETTER N WITH CARON;6:SMALL LETTER N WITH CARON",
    "21:PRECEDED BY APOSTROPHE;6:CAPITAL LETTER ENG;6:SMALL LETTER ENG",
    "6:CAPITAL LETTER O WITH MACRON;6:SMALL LETTER O WITH MACRON;6:CAPITAL LETTER O WITH BREVE",
    "6:SMALL LETTER O WITH BREVE;6:CAPITAL LETTER O WITH DOUBLE ACUTE",
    "6:SMALL LETTER O WITH DOUBLE ACUTE;6:CAPITAL LIGATURE OE;6:SMALL LIGATURE OE",
    "6:CAPITAL LETTER R WITH ACUTE;6:SMALL LETTER R WITH ACUTE;6:CAPITAL LETTER R WITH CEDILLA",
    "6:SMALL LETTER R WITH CEDILLA;6:CAPITAL LETTER R WITH CARON;6:SMALL LETTER R WITH CARON",
    "6:CAPITAL LETTER S WITH ACUTE;6:SMALL LETTER S WITH ACUTE;6:CAPITAL LETTER S WITH CIRCUMFLEX",
    "6:SMALL LETTER S WITH CIRCUMFLEX;6:CAPITAL LETTER S WITH CEDILLA",
    "6:SMALL LETTER S WITH CEDILLA;6:CAPITAL LETTER S WITH CARON;6:SMALL LETTER S WITH CARON",
    "6:CAPITAL LETTER T WITH CEDILLA;6:SMALL LETTER T WITH CEDILLA;6:CAPITAL LETTER T WITH CARON",
    "6:SMALL LETTER T WITH CARON;6:CAPITAL LETTER T WITH STROKE;6:SMALL LETTER T WITH STROKE",
    "6:CAPITAL LETTER U WITH TILDE;6:SMALL LETTER U WITH TILDE;6:CAPITAL LETTER U WITH MACRON",
    "6:SMALL LETTER U WITH MACRON;6:CAPITAL LETTER U WITH BREVE;6:SMALL LETTER U WITH BREVE",
    "6:CAPITAL LETTER U WITH RING ABOVE;6:SMALL LETTER U WITH RING ABOVE",
    "6:CAPITAL LETTER U WITH DOUBLE ACUTE;6:SMALL LETTER U WITH DOUBLE ACUTE",
    "6:CAPITAL LETTER U WITH OGONEK;6:SMALL LETTER U WITH OGONEK",
    "6:CAPITAL LETTER W WITH CIRCUMFLEX;6:SMALL LETTER W WITH CIRCUMFLEX",
    "6:CAPITAL LETTER Y WITH CIRCUMFLEX;6:SMALL LETTER Y WITH CIRCUMFLEX",
    "6:CAPITAL LETTER Y WITH DIAERESIS;21:Z WITH ACUTE;6:SMALL LETTER Z WITH ACUTE",
    "6:CAPITAL LETTER Z WITH DOT ABOVE;6:SMALL LETTER Z WITH DOT ABOVE",
    "6:CAPITAL LETTER Z WITH CARON;6:SMALL LETTER Z WITH CARON;19:LONG S;19:B WITH STROKE",
    "6:CAPITAL LETTER B WITH HOOK;28:TOPBAR;6:SMALL LETTER B WITH TOPBAR",
    "6:CAPITAL LETTER TONE SIX;6:SMALL LETTER TONE SIX;6:CAPITAL LETTER OPEN O;21:C WITH HOOK",
    "6:SMALL LETTER C WITH HOOK;6:CAPITAL LETTER AFRICAN D;21:D WITH HOOK;28:TOPBAR",
    "6:SMALL LETTER D WITH TOPBAR;19:TURNED DELTA;6:CAPITAL LETTER REVERSED E;21:SCHWA;21:OPEN E",
    "21:F WITH HOOK;6:SMALL LETTER F WITH HOOK;6:CAPITAL LETTER G WITH HOOK;22:AMMA",
    "6:SMALL LETTER HV;6:CAPITAL LETTER IOTA;22: WITH STROKE;21:K WITH HOOK",
    "6:SMALL LETTER K WITH HOOK;19:L WITH BAR;20:AMBDA WITH STROKE;6:CAPITAL LETTER TURNED M",
    "21:N WITH LEFT HOOK;6:SMALL LETTER N WITH LONG RIGHT LEG",
    "6:CAPITAL LETTER O WITH MIDDLE TILDE;28:HORN;6:SMALL LETTER O WITH HORN;6:CAPITAL LETTER OI",
    "6:SMALL LETTER OI;6:CAPITAL LETTER P WITH HOOK;6:SMALL LETTER P WITH HOOK;6:LETTER YR",
    "6:CAPITAL LETTER TONE TWO;6:SMALL LETTER TONE TWO;6:CAPITAL LETTER ESH",
    "6:LETTER REVERSED ESH LOOP;6:SMALL LETTER T WITH PALATAL HOOK;6:CAPITAL LETTER T WITH HOOK",
    "6:SMALL LETTER T WITH HOOK;6:CAPITAL LETTER T WITH RETROFLEX HOOK;21:U WITH HORN",
    "6:SMALL LETTER U WITH HORN;6:CAPITAL LETTER UPSILON;21:V WITH HOOK;21:Y WITH HOOK",
    "6:SMALL LETTER Y WITH HOOK;6:CAPITAL LETTER Z WITH STROKE;6:SMALL LETTER Z WITH STROKE",
    "6:CAPITAL LETTER EZH;24: REVERSED;6:SMALL LETTER EZH REVERSED;23:WITH TAIL",
    "6:LETTER TWO WITH STROKE;6:CAPITAL LETTER TONE FIVE;6:SMALL LETTER TONE FIVE",
    "6:LETTER INVERTED GLOTTAL STOP WITH STROKE;13:WYNN;13:DENTAL CLICK;13:LATERAL CLICK",
    "13:ALVEOLAR CLICK;13:RETROFLEX CLICK;6:CAPITAL LETTER DZ WITH CARON",
    "22: WITH SMALL LETTER Z WITH CARON;6:SMALL LETTER DZ WITH CARON;6:CAPITAL LETTER LJ",
    "22: WITH SMALL LETTER J;6:SMALL LETTER LJ;6:CAPITAL LETTER NJ;22: WITH SMALL LETTER J",
    "6:SMALL LETTER NJ;6:CAPITAL LETTER A WITH CARON;6:SMALL LETTER A WITH CARON",
    "6:CAPITAL LETTER I WITH CARON;6:SMALL LETTER I WITH CARON;6:CAPITAL LETTER O WITH CARON",
    "6:SMALL LETTER O WITH CARON;6:CAPITAL LETTER U WITH CARON;6:SMALL LETTER U WITH CARON",
    "6:CAPITAL LETTER U WITH DIAERESIS AND MACRON;6:SMALL LETTER U WITH DIAERESIS AND MACRON",
    "6:CAPITAL LETTER U WITH DIAERESIS AND ACUTE;6:SMALL LETTER U WITH DIAERESIS AND ACUTE",
    "6:CAPITAL LETTER U WITH DIAERESIS AND CARON;6:SMALL LETTER U WITH DIAERESIS AND CARON",
    "6:CAPITAL LETTER U WITH DIAERESIS AND GRAVE;6:SMALL LETTER U WITH DIAERESIS AND GRAVE",
    "19:TURNED E;6:CAPITAL LETTER A WITH DIAERESIS AND MACRON",
    "6:SMALL LETTER A WITH DIAERESIS AND MACRON;6:CAPITAL LETTER A WITH DOT ABOVE AND MACRON",
    "6:SMALL LETTER A WITH DOT ABOVE AND MACRON;6:CAPITAL LETTER AE WITH MACRON",
    "6:SMALL LETTER AE WITH MACRON;6:CAPITAL LETTER G WITH STROKE;6:SMALL LETTER G WITH STROKE",
    "6:CAPITAL LETTER G WITH CARON;6:SMALL LETTER G WITH CARON;6:CAPITAL LETTER K WITH CARON",
    "6:SMALL LETTER K WITH CARON;6:CAPITAL LETTER O WITH OGONEK;6:SMALL LETTER O WITH OGONEK",
    "6:CAPITAL LETTER O WITH OGONEK AND MACRON;6:SMALL LETTER O WITH OGONEK AND MACRON",
    "6:CAPITAL LETTER EZH WITH CARON;6:SMALL LETTER EZH WITH CARON;19:J WITH CARON",
    "6:CAPITAL LETTER DZ;22: WITH SMALL LETTER Z;6:SMALL LETTER DZ;6:CAPITAL LETTER G WITH ACUTE",
    "6:SMALL LETTER G WITH ACUTE;6:CAPITAL LETTER HWAIR;21:WYNN;21:N WITH GRAVE",
    "6:SMALL LETTER N WITH GRAVE;6:CAPITAL LETTER A WITH RING ABOVE AND ACUTE",
    "6:SMALL LETTER A WITH RING ABOVE AND ACUTE;6:CAPITAL LETTER AE WITH ACUTE",
    "6:SMALL LETTER AE WITH ACUTE;6:CAPITAL LETTER O WITH STROKE AND ACUTE",
    "6:SMALL LETTER O WITH STROKE AND ACUTE;6:CAPITAL LETTER A WITH DOUBLE GRAVE",
    "6:SMALL LETTER A WITH DOUBLE GRAVE;6:CAPITAL LETTER A WITH INVERTED BREVE",
    "6:SMALL LETTER A WITH INVERTED BREVE;6:CAPITAL LETTER E WITH DOUBLE GRAVE",
    "6:SMALL LETTER E WITH DOUBLE GRAVE;6:CAPITAL LETTER E WITH INVERTED BREVE",
    "6:SMALL LETTER E WITH INVERTED BREVE;6:CAPITAL LETTER I WITH DOUBLE GRAVE",
    "6:SMALL LETTER I WITH DOUBLE GRAVE;6:CAPITAL LETTER I WITH INVERTED BREVE",
    "6:SMALL LETTER I WITH INVERTED BREVE;6:CAPITAL LETTER O WITH DOUBLE GRAVE",
    "6:SMALL LETTER O WITH DOUBLE GRAVE;6:CAPITAL LETTER O WITH INVERTED BREVE",
    "6:SMALL LETTER O WITH INVERTED BREVE;6:CAPITAL LETTER R WITH DOUBLE GRAVE",
    "6:SMALL LETTER R WITH DOUBLE GRAVE;6:CAPITAL LETTER R WITH INVERTED BREVE",
    "6:SMALL LETTER R WITH INVERTED BREVE;6:CAPITAL LETTER U WITH DOUBLE GRAVE",
    "6:SMALL LETTER U WITH DOUBLE GRAVE;6:CAPITAL LETTER U WITH INVERTED BREVE",
    "6:SMALL LETTER U WITH INVERTED BREVE;6:CAPITAL LETTER S WITH COMMA BELOW",
    "6:SMALL LETTER S WITH COMMA BELOW;6:CAPITAL LETTER T WITH COMMA BELOW",
    "6:SMALL LETTER T WITH COMMA BELOW;6:CAPITAL LETTER YOGH;6:SMALL LETTER YOGH",
    "6:CAPITAL LETTER H WITH CARON;6:SMALL LETTER H WITH CARON",
    "6:CAPITAL LETTER N WITH LONG RIGHT LEG;6:SMALL LETTER D WITH CURL;6:CAPITAL LETTER OU",
    "6:SMALL LETTER OU;6:CAPITAL LETTER Z WITH HOOK;6:SMALL LETTER Z WITH HOOK",
    "6:CAPITAL LETTER A WITH DOT ABOVE;6:SMALL LETTER A WITH DOT ABOVE",
    "6:CAPITAL LETTER E WITH CEDILLA;6:SMALL LETTER E WITH CEDILLA",
    "6:CAPITAL LETTER O WITH DIAERESIS AND MACRON;6:SMALL LETTER O WITH DIAERESIS AND MACRON",
    "6:CAPITAL LETTER O WITH TILDE AND MACRON;6:SMALL LETTER O WITH TILDE AND MACRON",
    "6:CAPITAL LETTER O WITH DOT ABOVE;6:SMALL LETTER O WITH DOT ABOVE",
    "6:CAPITAL LETTER O WITH DOT ABOVE AND MACRON;6:SMALL LETTER O WITH DOT ABOVE AND MACRON",
    "6:CAPITAL LETTER Y WITH MACRON;6:SMALL LETTER Y WITH MACRON;19:L WITH CURL;19:N WITH CURL",
    "19:T WITH CURL;19:DOTLESS J;20:B DIGRAPH;19:QP DIGRAPH;6:CAPITAL LETTER A WITH STROKE",
    "21:C WITH STROKE;6:SMALL LETTER C WITH STROKE;6:CAPITAL LETTER L WITH BAR",
    "21:T WITH DIAGONAL STROKE;6:SMALL LETTER S WITH SWASH TAIL;19:Z WITH SWASH TAIL",
    "6:CAPITAL LETTER GLOTTAL STOP;6:SMALL LETTER GLOTTAL STOP;6:CAPITAL LETTER B WITH STROKE",
    "21:U BAR;21:TURNED V;21:E WITH STROKE;6:SMALL LETTER E WITH STROKE",
    "6:CAPITAL LETTER J WITH STROKE;6:SMALL LETTER J WITH STROKE",
    "6:CAPITAL LETTER SMALL Q WITH HOOK TAIL;6:SMALL LETTER Q WITH HOOK TAIL",
    "6:CAPITAL LETTER R WITH STROKE;6:SMALL LETTER R WITH STROKE;6:CAPITAL LETTER Y WITH STROKE",
    "6:SMALL LETTER Y WITH STROKE;19:TURNED A;19:ALPHA;19:TURNED ALPHA;19:B WITH HOOK;19:OPEN O",
    "19:C WITH CURL;19:D WITH TAIL;26:HOOK;19:REVERSED E;19:SCHWA;24: WITH HOOK;19:OPEN E",
    "19:REVERSED OPEN E;34: WITH HOOK;19:CLOSED REVERSED OPEN E;19:DOTLESS J WITH STROKE",
    "19:G WITH HOOK;19:SCRIPT G;6:LETTER SMALL CAPITAL G;6:SMALL LETTER GAMMA;19:RAMS HORN",
    "19:TURNED H;19:H WITH HOOK;20:ENG WITH HOOK;19:I WITH STROKE;20:OTA;6:LETTER SMALL CAPITAL I",
    "6:SMALL LETTER L WITH MIDDLE TILDE;26:BELT;26:RETROFLEX HOOK;20:EZH;19:TURNED M",
    "27: WITH LONG LEG;19:M WITH HOOK;19:N WITH LEFT HOOK;26:RETROFLEX HOOK",
    "6:LETTER SMALL CAPITAL N;6:SMALL LETTER BARRED O;6:LETTER SMALL CAPITAL OE",
    "6:SMALL LETTER CLOSED OMEGA;19:PHI;19:TURNED R;27: WITH LONG LEG;33:HOOK;19:R WITH LONG LEG",
    "26:TAIL;26:FISHHOOK;20:EVERSED R WITH FISHHOOK;6:LETTER SMALL CAPITAL R;27:INVERTED R",
    "6:SMALL LETTER S WITH HOOK;19:ESH;19:DOTLESS J WITH STROKE AND HOOK;19:SQUAT REVERSED ESH",
    "19:ESH WITH CURL;19:TURNED T;20: WITH RETROFLEX HOOK;19:U BAR;20:PSILON;19:V WITH HOOK",
    "19:TURNED V;26:W;26:Y;6:LETTER SMALL CAPITAL Y;6:SMALL LETTER Z WITH RETROFLEX HOOK;26:CURL",
    "19:EZH;22: WITH CURL;6:LETTER GLOTTAL STOP;13:PHARYNGEAL VOICED FRICATIVE",
    "13:INVERTED GLOTTAL STOP;13:STRETCHED C;13:BILABIAL CLICK;13:SMALL CAPITAL B",
    "6:SMALL LETTER CLOSED OPEN E;6:LETTER SMALL CAPITAL G WITH HOOK;27:H",
    "6:SMALL LETTER J WITH CROSSED-TAIL;19:TURNED K;6:LETTER SMALL CAPITAL L",
    "6:SMALL LETTER Q WITH HOOK;6:LETTER GLOTTAL STOP WITH STROKE",
    "13:REVERSED GLOTTAL STOP WITH STROKE;6:SMALL LETTER DZ DIGRAPH;20:EZH DIGRAPH",
    "20:Z DIGRAPH WITH CURL;19:TS DIGRAPH;20:ESH DIGRAPH;20:C DIGRAPH WITH CURL;19:FENG DIGRAPH",
    "19:LS DIGRAPH;20:Z DIGRAPH;6:LETTER BILABIAL PERCUSSIVE;15:DENTAL PERCUSSIVE",
    "6:SMALL LETTER TURNED H WITH FISHHOOK;41: AND TAIL;MODIFIER LETTER SMALL H;23: WITH HOOK",
    "22:J;22:R;22:TURNED R;30: WITH HOOK;22:CAPITAL INVERTED R;22:W;22:Y;16:PRIME;16:DOUBLE PRIME",
    "16:TURNED COMMA;16:APOSTROPHE;16:REVERSED COMMA;17:IGHT HALF RING;16:LEFT HALF RING",
    "16:GLOTTAL STOP;16:REVERSED GLOTTAL STOP;16:LEFT ARROWHEAD;16:RIGHT ARROWHEAD",
    "16:UP ARROWHEAD;16:DOWN ARROWHEAD;16:CIRCUMFLEX ACCENT;CARON;MODIFIER LETTER VERTICAL LINE",
    "16:MACRON;16:ACUTE ACCENT;16:GRAVE ACCENT;16:LOW VERTICAL LINE;20:MACRON;20:GRAVE ACCENT",
    "20:ACUTE ACCENT;16:TRIANGULAR COLON;16:HALF TRIANGULAR COLON;16:CENTRED RIGHT HALF RING",
    "24:LEFT HALF RING;16:UP TACK;16:DOWN TACK;16:PLUS SIGN;16:MINUS SIGN;BREVE;DOT ABOVE",
    "RING ABOVE;OGONEK;SMALL TILDE;DOUBLE ACUTE ACCENT;MODIFIER LETTER RHOTIC HOOK",
    "16:CROSS ACCENT;16:SMALL GAMMA;22:L;22:S;22:X;22:REVERSED GLOTTAL STOP",
    "16:EXTRA-HIGH TONE BAR;16:HIGH TONE BAR;16:MID TONE BAR;16:LOW TONE BAR",
    "16:EXTRA-LOW TONE BAR;16:YIN DEPARTING TONE MARK;17:ANG DEPARTING TONE MARK;16:VOICING",
    "16:UNASPIRATED;16:DOUBLE APOSTROPHE;16:LOW DOWN ARROWHEAD;20:UP ARROWHEAD;20:LEFT ARROWHEAD",
    "20:RIGHT ARROWHEAD;22:NG;16:MIDDLE GRAVE ACCENT;23:DOUBLE GRAVE ACCENT;30:ACUTE ACCENT",
    "16:LOW TILDE;16:RAISED COLON;16:BEGIN HIGH TONE;16:END HIGH TONE;16:BEGIN LOW TONE",
    "16:END LOW TONE;16:SHELF;16:OPEN SHELF;16:LOW LEFT ARROW;COMBINING GRAVE ACCENT",
    "10:ACUTE ACCENT;10:CIRCUMFLEX ACCENT;10:TILDE;10:MACRON;10:OVERLINE;10:BREVE;10:DOT ABOVE",
    "11:IAERESIS;10:HOOK ABOVE;10:RING ABOVE;10:DOUBLE ACUTE ACCENT;10:CARON",
    "10:VERTICAL LINE ABOVE;10:DOUBLE VERTICAL LINE ABOVE;17:GRAVE ACCENT;10:CANDRABINDU",
    "10:INVERTED BREVE;10:TURNED COMMA ABOVE;10:COMMA ABOVE;10:REVERSED COMMA ABOVE",
    "10:COMMA ABOVE RIGHT;10:GRAVE ACCENT BELOW;10:ACUTE ACCENT BELOW;10:LEFT TACK BELOW",
    "10:RIGHT TACK BELOW;10:LEFT ANGLE ABOVE;10:HORN;10:LEFT HALF RING BELOW;10:UP TACK BELOW",
    "10:DOWN TACK BELOW;10:PLUS SIGN BELOW;10:MINUS SIGN BELOW;10:PALATALIZED HOOK BELOW",
    "10:RETROFLEX HOOK BELOW;10:DOT BELOW;11:IAERESIS BELOW;10:RING BELOW;10:COMMA BELOW",
    "11:EDILLA;10:OGONEK;10:VERTICAL LINE BELOW;10:BRIDGE BELOW;10:INVERTED DOUBLE ARCH BELOW",
    "10:CARON BELOW;11:IRCUMFLEX ACCENT BELOW;10:BREVE BELOW;10:INVERTED BREVE BELOW",
    "10:TILDE BELOW;10:MACRON BELOW;10:LOW LINE;10:DOUBLE LOW LINE;10:TILDE OVERLAY",
    "10:SHORT STROKE OVERLAY;10:LONG STROKE OVERLAY;10:SHORT SOLIDUS OVERLAY",
    "10:LONG SOLIDUS OVERLAY;10:RIGHT HALF RING BELOW;10:INVERTED BRIDGE BELOW;10:SQUARE BELOW",
    "11:EAGULL BELOW;10:X ABOVE;10:VERTICAL TILDE;10:DOUBLE OVERLINE;10:GRAVE TONE MARK",
    "10:ACUTE TONE MARK;10:GREEK PERISPOMENI;16:KORONIS;16:DIALYTIKA TONOS;16:YPOGEGRAMMENI",
    "10:BRIDGE ABOVE;10:EQUALS SIGN BELOW;10:DOUBLE VERTICAL LINE BELOW;10:LEFT ANGLE BELOW",
    "10:NOT TILDE ABOVE;10:HOMOTHETIC ABOVE;10:ALMOST EQUAL TO ABOVE;10:LEFT RIGHT ARROW BELOW",
    "10:UPWARDS ARROW BELOW;10:GRAPHEME JOINER;10:RIGHT ARROWHEAD ABOVE;10:LEFT HALF RING ABOVE",
    "10:FERMATA;10:X BELOW;10:LEFT ARROWHEAD BELOW;10:RIGHT ARROWHEAD BELOW",
    "26:AND UP ARROWHEAD BELOW;16:HALF RING ABOVE;10:DOT ABOVE RIGHT;10:ASTERISK BELOW",
    "10:DOUBLE RING BELOW;10:ZIGZAG ABOVE;10:DOUBLE BREVE BELOW;22:;17:MACRON"]),
  (0x035F, [
    "COMBINING DOUBLE MACRON BELOW;17:TILDE;17:INVERTED BREVE;17:RIGHTWARDS ARROW BELOW",
    "10:LATIN SMALL LETTER A;29:E;29:I;29:O;29:U;29:C;29:D;29:H;29:M;29:R;29:T;29:V;29:X",
    "GREEK CAPITAL LETTER HETA;6:SMALL LETTER HETA;6:CAPITAL LETTER ARCHAIC SAMPI",
    "6:SMALL LETTER ARCHAIC SAMPI;6:NUMERAL SIGN;6:LOWER NUMERAL SIGN",
    "6:CAPITAL LETTER PAMPHYLIAN DIGAMMA;6:SMALL LETTER PAMPHYLIAN DIGAMMA;;;GREEK YPOGEGRAMMENI",
    "6:SMALL REVERSED LUNATE SIGMA SYMBOL;12:DOTTED LUNATE SIGMA SYMBOL",
    "12:REVERSED DOTTED LUNATE SIGMA SYMBOL;6:QUESTION MARK;6:CAPITAL LETTER YOT;;;;;GREEK TONOS",
    "6:DIALYTIKA TONOS;6:CAPITAL LETTER ALPHA WITH TONOS;6:ANO TELEIA",
    "6:CAPITAL LETTER EPSILON WITH TONOS;22:TA WITH TONOS;21:IOTA WITH TONOS;",
    "GREEK CAPITAL LETTER OMICRON WITH TONOS;;GREEK CAPITAL LETTER UPSILON WITH TONOS",
    "21:OMEGA WITH TONOS;6:SMALL LETTER IOTA WITH DIALYTIKA AND TONOS;6:CAPITAL LETTER ALPHA",
    "21:BETA;21:GAMMA;21:DELTA;21:EPSILON;21:ZETA;21:ETA;21:THETA;21:IOTA;21:KAPPA;21:LAMDA;21:MU",
    "21:NU;21:XI;21:OMICRON;21:PI;21:RHO;;GREEK CAPITAL LETTER SIGMA;21:TAU;21:UPSILON;21:PHI",
    "21:CHI;21:PSI;21:OMEGA;21:IOTA WITH DIALYTIKA;21:UPSILON WITH DIALYTIKA",
    "6:SMALL LETTER ALPHA WITH TONOS;19:EPSILON WITH TONOS;20:TA WITH TONOS;19:IOTA WITH TONOS",
    "19:UPSILON WITH DIALYTIKA AND TONOS;19:ALPHA;19:BETA;19:GAMMA;19:DELTA;19:EPSILON;19:ZETA",
    "19:ETA;19:THETA;19:IOTA;19:KAPPA;19:LAMDA;19:MU;19:NU;19:XI;19:OMICRON;19:PI;19:RHO",
    "19:FINAL SIGMA;19:SIGMA;19:TAU;19:UPSILON;19:PHI;19:CHI;19:PSI;19:OMEGA",
    "19:IOTA WITH DIALYTIKA;19:UPSILON WITH DIALYTIKA;19:OMICRON WITH TONOS;19:UPSILON WITH TONOS",
    "19:OMEGA WITH TONOS;6:CAPITAL KAI SYMBOL;6:BETA SYMBOL;6:THETA SYMBOL",
    "6:UPSILON WITH HOOK SYMBOL;19:ACUTE AND HOOK SYMBOL;19:DIAERESIS AND HOOK SYMBOL",
    "6:PHI SYMBOL;7:I SYMBOL;6:KAI SYMBOL;6:LETTER ARCHAIC KOPPA;6:SMALL LETTER ARCHAIC KOPPA",
    "6:LETTER STIGMA;6:SMALL LETTER STIGMA;6:LETTER DIGAMMA;6:SMALL LETTER DIGAMMA;6:LETTER KOPPA",
    "6:SMALL LETTER KOPPA;6:LETTER SAMPI;6:SMALL LETTER SAMPI;COPTIC CAPITAL LETTER SHEI",
    "7:SMALL LETTER SHEI;7:CAPITAL LETTER FEI;7:SMALL LETTER FEI;7:CAPITAL LETTER KHEI",
    "7:SMALL LETTER KHEI;7:CAPITAL LETTER HORI;7:SMALL LETTER HORI;7:CAPITAL LETTER GANGIA",
    "7:SMALL LETTER GANGIA;7:CAPITAL LETTER SHIMA;7:SMALL LETTER SHIMA;7:CAPITAL LETTER DEI",
    "7:SMALL LETTER DEI;GREEK KAPPA SYMBOL;6:RHO SYMBOL;6:LUNATE SIGMA SYMBOL;7:ETTER YOT",
    "6:CAPITAL THETA SYMBOL;6:LUNATE EPSILON SYMBOL;6:REVERSED LUNATE EPSILON SYMBOL",
    "6:CAPITAL LETTER SHO;6:SMALL LETTER SHO;6:CAPITAL LUNATE SIGMA SYMBOL;15:ETTER SAN",
    "6:SMALL LETTER SAN;6:RHO WITH STROKE SYMBOL;6:CAPITAL REVERSED LUNATE SIGMA SYMBOL",
    "14:DOTTED LUNATE SIGMA SYMBOL;14:REVERSED DOTTED LUNATE SIGMA SYMBOL",
    "CYRILLIC CAPITAL LETTER IE WITH GRAVE;25:O;24:DJE;24:GJE;24:UKRAINIAN IE;24:DZE",
    "24:BYELORUSSIAN-UKRAINIAN I;24:YI;24:JE;24:LJE;24:NJE;24:TSHE;24:KJE;24:I WITH GRAVE",
    "24:SHORT U;24:DZHE;24:A;24:BE;24:VE;24:GHE;24:DE;24:IE;24:ZHE;25:E;24:I;24:SHORT I;24:KA",
    "24:EL;25:M;25:N;24:O;24:PE;24:ER;25:S;24:TE;24:U;24:EF;24:HA;24:TSE;24:CHE;24:SHA;26:CHA",
    "24:HARD SIGN;24:YERU;24:SOFT SIGN;24:E;24:YU;25:A;9:SMALL LETTER A;22:BE;22:VE;22:GHE;22:DE",
    "22:IE;22:ZHE;23:E;22:I;22:SHORT I;22:KA;22:EL;23:M;23:N;22:O;22:PE;22:ER;23:S;22:TE;22:U",
    "22:EF;22:HA;22:TSE;22:CHE;22:SHA;24:CHA;22:HARD SIGN;22:YERU;22:SOFT SIGN;22:E;22:YU;23:A",
    "22:IE WITH GRAVE;23:O;22:DJE;22:GJE;22:UKRAINIAN IE;22:DZE;22:BYELORUSSIAN-UKRAINIAN I;22:YI",
    "22:JE;22:LJE;22:NJE;22:TSHE;22:KJE;22:I WITH GRAVE;22:SHORT U;22:DZHE;9:CAPITAL LETTER OMEGA",
    "9:SMALL LETTER OMEGA;9:CAPITAL LETTER YAT;9:SMALL LETTER YAT;9:CAPITAL LETTER IOTIFIED E",
    "9:SMALL LETTER IOTIFIED E;9:CAPITAL LETTER LITTLE YUS;9:SMALL LETTER LITTLE YUS",
    "9:CAPITAL LETTER IOTIFIED LITTLE YUS;9:SMALL LETTER IOTIFIED LITTLE YUS",
    "9:CAPITAL LETTER BIG YUS;9:SMALL LETTER BIG YUS;9:CAPITAL LETTER IOTIFIED BIG YUS",
    "9:SMALL LETTER IOTIFIED BIG YUS;9:CAPITAL LETTER KSI;9:SMALL LETTER KSI;9:CAPITAL LETTER PSI",
    "9:SMALL LETTER PSI;9:CAPITAL LETTER FITA;9:SMALL LETTER FITA;9:CAPITAL LETTER IZHITSA",
    "9:SMALL LETTER IZHITSA;9:CAPITAL LETTER IZHITSA WITH DOUBLE GRAVE ACCENT",
    "9:SMALL LETTER IZHITSA WITH DOUBLE GRAVE ACCENT;9:CAPITAL LETTER UK;9:SMALL LETTER UK",
    "9:CAPITAL LETTER ROUND OMEGA;9:SMALL LETTER ROUND OMEGA;9:CAPITAL LETTER OMEGA WITH TITLO",
    "9:SMALL LETTER OMEGA WITH TITLO;9:CAPITAL LETTER OT;9:SMALL LETTER OT;9:CAPITAL LETTER KOPPA",
    "9:SMALL LETTER KOPPA;9:THOUSANDS SIGN;COMBINING CYRILLIC TITLO;19:PALATALIZATION",
    "19:DASIA PNEUMATA;19:PSILI PNEUMATA;20:OKRYTIE;19:HUNDRED THOUSANDS SIGN;19:MILLIONS SIGN",
    "CYRILLIC CAPITAL LETTER SHORT I WITH TAIL;9:SMALL LETTER SHORT I WITH TAIL",
    "9:CAPITAL LETTER SEMISOFT SIGN;9:SMALL LETTER SEMISOFT SIGN;9:CAPITAL LETTER ER WITH TICK",
    "9:SMALL LETTER ER WITH TICK;9:CAPITAL LETTER GHE WITH UPTURN;9:SMALL LETTER GHE WITH UPTURN",
    "9:CAPITAL LETTER GHE WITH STROKE;9:SMALL LETTER GHE WITH STROKE",
    "9:CAPITAL LETTER GHE WITH MIDDLE HOOK;9:SMALL LETTER GHE WITH MIDDLE HOOK",
    "9:CAPITAL LETTER ZHE WITH DESCENDER;9:SMALL LETTER ZHE WITH DESCENDER",
    "9:CAPITAL LETTER ZE WITH DESCENDER;9:SMALL LETTER ZE WITH DESCENDER",
    "9:CAPITAL LETTER KA WITH DESCENDER;9:SMALL LETTER KA WITH DESCENDER",
    "9:CAPITAL LETTER KA WITH VERTICAL STROKE;9:SMALL LETTER KA WITH VERTICAL STROKE",
    "9:CAPITAL LETTER KA WITH STROKE;9:SMALL LETTER KA WITH STROKE;9:CAPITAL LETTER BASHKIR KA",
    "9:SMALL LETTER BASHKIR KA;9:CAPITAL LETTER EN WITH DESCENDER",
    "9:SMALL LETTER EN WITH DESCENDER;9:CAPITAL LIGATURE EN GHE;9:SMALL LIGATURE EN GHE",
    "9:CAPITAL LETTER PE WITH MIDDLE HOOK;9:SMALL LETTER PE WITH MIDDLE HOOK",
    "9:CAPITAL LETTER ABKHASIAN HA;9:SMALL LETTER ABKHASIAN HA;9:CAPITAL LETTER ES WITH DESCENDER",
    "9:SMALL LETTER ES WITH DESCENDER;9:CAPITAL LETTER TE WITH DESCENDER",
    "9:SMALL LETTER TE WITH DESCENDER;9:CAPITAL LETTER STRAIGHT U;9:SMALL LETTER STRAIGHT U",
    "9:CAPITAL LETTER STRAIGHT U WITH STROKE;9:SMALL LETTER STRAIGHT U WITH STROKE",
    "9:CAPITAL LETTER HA WITH DESCENDER;9:SMALL LETTER HA WITH DESCENDER",
    "9:CAPITAL LIGATURE TE TSE;9:SMALL LIGATURE TE TSE;9:CAPITAL LETTER CHE WITH DESCENDER",
    "9:SMALL LETTER CHE WITH DESCENDER;9:CAPITAL LETTER CHE WITH VERTICAL STROKE",
    "9:SMALL LETTER CHE WITH VERTICAL STROKE;9:CAPITAL LETTER SHHA;9:SMALL LETTER SHHA",
    "9:CAPITAL LETTER ABKHASIAN CHE;9:SMALL LETTER ABKHASIAN CHE",
    "9:CAPITAL LETTER ABKHASIAN CHE WITH DESCENDER;9:SMALL LETTER ABKHASIAN CHE WITH DESCENDER",
    "9:LETTER PALOCHKA;9:CAPITAL LETTER ZHE WITH BREVE;9:SMALL LETTER ZHE WITH BREVE",
    "9:CAPITAL LETTER KA WITH HOOK;9:SMALL LETTER KA WITH HOOK;9:CAPITAL LETTER EL WITH TAIL",
    "9:SMALL LETTER EL WITH TAIL;9:CAPITAL LETTER EN WITH HOOK;9:SMALL LETTER EN WITH HOOK",
    "9:CAPITAL LETTER EN WITH TAIL;9:SMALL LETTER EN WITH TAIL;9:CAPITAL LETTER KHAKASSIAN CHE",
    "9:SMALL LETTER KHAKASSIAN CHE;9:CAPITAL LETTER EM WITH TAIL;9:SMALL LETTER EM WITH TAIL",
    "22:PALOCHKA;9:CAPITAL LETTER A WITH BREVE;9:SMALL LETTER A WITH BREVE",
    "9:CAPITAL LETTER A WITH DIAERESIS;9:SMALL LETTER A WITH DIAERESIS;9:CAPITAL LIGATURE A IE",
    "9:SMALL LIGATURE A IE;9:CAPITAL LETTER IE WITH BREVE;9:SMALL LETTER IE WITH BREVE",
    "9:CAPITAL LETTER SCHWA;9:SMALL LETTER SCHWA;9:CAPITAL LETTER SCHWA WITH DIAERESIS",
    "9:SMALL LETTER SCHWA WITH DIAERESIS;9:CAPITAL LETTER ZHE WITH DIAERESIS",
    "9:SMALL LETTER ZHE WITH DIAERESIS;9:CAPITAL LETTER ZE WITH DIAERESIS",
    "9:SMALL LETTER ZE WITH DIAERESIS;9:CAPITAL LETTER ABKHASIAN DZE;9:SMALL LETTER ABKHASIAN DZE",
    "9:CAPITAL LETTER I WITH MACRON;9:SMALL LETTER I WITH MACRON",
    "9:CAPITAL LETTER I WITH DIAERESIS;9:SMALL LETTER I WITH DIAERESIS",
    "9:CAPITAL LETTER O WITH DIAERESIS;9:SMALL LETTER O WITH DIAERESIS;9:CAPITAL LETTER BARRED O",
    "9:SMALL LETTER BARRED O;9:CAPITAL LETTER BARRED O WITH DIAERESIS",
    "9:SMALL LETTER BARRED O WITH DIAERESIS;9:CAPITAL LETTER E WITH DIAERESIS",
    "9:SMALL LETTER E WITH DIAERESIS;9:CAPITAL LETTER U WITH MACRON;9:SMALL LETTER U WITH MACRON",
    "9:CAPITAL LETTER U WITH DIAERESIS;9:SMALL LETTER U WITH DIAERESIS",
    "9:CAPITAL LETTER U WITH DOUBLE ACUTE;9:SMALL LETTER U WITH DOUBLE ACUTE",
    "9:CAPITAL LETTER CHE WITH DIAERESIS;9:SMALL LETTER CHE WITH DIAERESIS",
    "9:CAPITAL LETTER GHE WITH DESCENDER;9:SMALL LETTER GHE WITH DESCENDER",
    "9:CAPITAL LETTER YERU WITH DIAERESIS;9:SMALL LETTER YERU WITH DIAERESIS",
    "9:CAPITAL LETTER GHE WITH STROKE AND HOOK;9:SMALL LETTER GHE WITH STROKE AND HOOK",
    "9:CAPITAL LETTER HA WITH HOOK;9:SMALL LETTER HA WITH HOOK;9:CAPITAL LETTER HA WITH STROKE",
    "9:SMALL LETTER HA WITH STROKE;9:CAPITAL LETTER KOMI DE;9:SMALL LETTER KOMI DE",
    "9:CAPITAL LETTER KOMI DJE;9:SMALL LETTER KOMI DJE;9:CAPITAL LETTER KOMI ZJE",
    "9:SMALL LETTER KOMI ZJE;9:CAPITAL LETTER KOMI DZJE;9:SMALL LETTER KOMI DZJE",
    "9:CAPITAL LETTER KOMI LJE;9:SMALL LETTER KOMI LJE;9:CAPITAL LETTER KOMI NJE",
    "9:SMALL LETTER KOMI NJE;9:CAPITAL LETTER KOMI SJE;9:SMALL LETTER KOMI SJE",
    "9:CAPITAL LETTER KOMI TJE;9:SMALL LETTER KOMI TJE;9:CAPITAL LETTER REVERSED ZE",
    "9:SMALL LETTER REVERSED ZE;9:CAPITAL LETTER EL WITH HOOK;9:SMALL LETTER EL WITH HOOK",
    "9:CAPITAL LETTER LHA;9:SMALL LETTER LHA;9:CAPITAL LETTER RHA;9:SMALL LETTER RHA",
    "9:CAPITAL LETTER YAE;9:SMALL LETTER YAE;9:CAPITAL LETTER QA;9:SMALL LETTER QA",
    "9:CAPITAL LETTER WE;9:SMALL LETTER WE;9:CAPITAL LETTER ALEUT KA;9:SMALL LETTER ALEUT KA",
    "9:CAPITAL LETTER EL WITH MIDDLE HOOK;9:SMALL LETTER EL WITH MIDDLE HOOK",
    "9:CAPITAL LETTER EN WITH MIDDLE HOOK;9:SMALL LETTER EN WITH MIDDLE HOOK",
    "9:CAPITAL LETTER PE WITH DESCENDER;9:SMALL LETTER PE WITH DESCENDER",
    "9:CAPITAL LETTER SHHA WITH DESCENDER;9:SMALL LETTER SHHA WITH DESCENDER",
    "9:CAPITAL LETTER EN WITH LEFT HOOK;9:SMALL LETTER EN WITH LEFT HOOK;9:CAPITAL LETTER DZZHE",
    "9:SMALL LETTER DZZHE;9:CAPITAL LETTER DCHE;9:SMALL LETTER DCHE",
    "9:CAPITAL LETTER EL WITH DESCENDER;9:SMALL LETTER EL WITH DESCENDER;",
    "ARMENIAN CAPITAL LETTER AYB;24:BEN;24:GIM;24:DA;24:ECH;24:ZA;24:EH;25:T;24:TO;24:ZHE;24:INI",
    "24:LIWN;24:XEH;24:CA;24:KEN;24:HO;24:JA;24:GHAD;24:CHEH;24:MEN;24:YI;24:NOW;24:SHA;24:VO",
    "24:CHA;24:PEH;24:JHEH;24:RA;24:SEH;24:VEW;24:TIWN;24:REH;24:CO;24:YIWN;24:PIWR;24:KEH;24:OH",
    "24:FEH;;;ARMENIAN MODIFIER LETTER LEFT HALF RING;9:APOSTROPHE;9:EMPHASIS MARK",
    "10:XCLAMATION MARK;9:COMMA;9:QUESTION MARK;9:ABBREVIATION MARK;9:SMALL LETTER TURNED AYB",
    "22:AYB;22:BEN;22:GIM;22:DA;22:ECH;22:ZA;22:EH;23:T;22:TO;22:ZHE;22:INI;22:LIWN;22:XEH;22:CA",
    "22:KEN;22:HO;22:JA;22:GHAD;22:CHEH;22:MEN;22:YI;22:NOW;22:SHA;22:VO;22:CHA;22:PEH;22:JHEH",
    "22:RA;22:SEH;22:VEW;22:TIWN;22:REH;22:CO;22:YIWN;22:PIWR;22:KEH;22:OH;22:FEH",
    "16:IGATURE ECH YIWN;16:ETTER YI WITH STROKE;9:FULL STOP;9:HYPHEN;;",
    "RIGHT-FACING ARMENIAN ETERNITY SIGN;LEFT-FACING ARMENIAN ETERNITY SIGN;ARMENIAN DRAM SIGN;",
    "HEBREW ACCENT ETNAHTA;14:SEGOL;15:HALSHELET;14:ZAQEF QATAN;20:GADOL;14:TIPEHA;14:REVIA",
    "14:ZARQA;14:PASHTA;14:YETIV;14:TEVIR;14:GERESH;20: MUQDAM;17:SHAYIM;14:QARNEY PARA",
    "14:TELISHA GEDOLA;14:PAZER;14:ATNAH HAFUKH;14:MUNAH;15:AHAPAKH;15:ERKHA;20: KEFULA;14:DARGA",
    "14:QADMA;14:TELISHA QETANA;14:YERAH BEN YOMO;14:OLE;14:ILUY;14:DEHI;14:ZINOR",
    "7:MARK MASORA CIRCLE;7:POINT SHEVA;13:HATAF SEGOL;19:PATAH;19:QAMATS;14:IRIQ;13:TSERE",
    "13:SEGOL;13:PATAH;13:QAMATS;13:HOLAM;18: HASER FOR VAV;13:QUBUTS;13:DAGESH OR MAPIQ;13:METEG",
    "8:UNCTUATION MAQAF;8:OINT RAFE;8:UNCTUATION PASEQ;8:OINT SHIN DOT;14:IN DOT",
    "8:UNCTUATION SOF PASUQ;7:MARK UPPER DOT;12:LOWER DOT;7:PUNCTUATION NUN HAFUKHA",
    "8:OINT QAMATS QATAN;;;;;;;;;HEBREW LETTER ALEF;14:BET;14:GIMEL;14:DALET;14:HE;14:VAV",
    "14:ZAYIN;14:HET;14:TET;14:YOD;14:FINAL KAF;14:KAF;14:LAMED;14:FINAL MEM;14:MEM;14:FINAL NUN",
    "14:NUN;14:SAMEKH;14:AYIN;14:FINAL PE;14:PE;14:FINAL TSADI;14:TSADI;14:QOF;14:RESH;14:SHIN",
    "14:TAV;;;;;HEBREW YOD TRIANGLE;7:LIGATURE YIDDISH DOUBLE VAV;24:VAV YOD;24:DOUBLE YOD",
    "7:PUNCTUATION GERESH;22:SHAYIM;;;;;;;;;;;;ARABIC NUMBER SIGN;7:SIGN SANAH;7:FOOTNOTE MARKER",
    "7:SIGN SAFHA;14:MVAT;7:NUMBER MARK ABOVE;6:-INDIC CUBE ROOT;13:FOURTH ROOT;6: RAY",
    "6:-INDIC PER MILLE SIGN;17:TEN THOUSAND SIGN;AFGHANI SIGN;ARABIC COMMA;7:DATE SEPARATOR",
    "7:POETIC VERSE SIGN;7:SIGN MISRA;12:SALLALLAHOU ALAYHE WASSALLAM;12:ALAYHE ASSALLAM",
    "12:RAHMATULLAH ALAYHE;14:DI ALLAHOU ANHU;12:TAKHALLUS;8:MALL HIGH TAH",
    "18:LIGATURE ALEF WITH LAM WITH YEH;18:ZAIN;13:FATHA;13:DAMMA;13:KASRA;8:EMICOLON",
    "7:LETTER MARK;7:END OF TEXT MARK;7:TRIPLE DOT PUNCTUATION MARK;7:QUESTION MARK",
    "7:LETTER KASHMIRI YEH;14:HAMZA;14:ALEF WITH MADDA ABOVE;24:HAMZA ABOVE",
    "14:WAW WITH HAMZA ABOVE;14:ALEF WITH HAMZA BELOW;14:YEH WITH HAMZA ABOVE;14:ALEF;14:BEH",
    "14:TEH MARBUTA;17:;15:HEH;14:JEEM;14:HAH;14:KHAH;14:DAL;14:THAL;14:REH;14:ZAIN;14:SEEN",
    "15:HEEN;15:AD;14:DAD;14:TAH;14:ZAH;14:AIN;14:GHAIN;14:KEHEH WITH TWO DOTS ABOVE",
    "26:HREE DOTS BELOW;14:FARSI YEH WITH INVERTED V;29:TWO DOTS ABOVE;30:HREE DOTS ABOVE",
    "7:TATWEEL;7:LETTER FEH;14:QAF;14:KAF;14:LAM;14:MEEM;14:NOON;14:HEH;14:WAW;14:ALEF MAKSURA",
    "14:YEH;7:FATHATAN;7:DAMMATAN;7:KASRATAN;7:FATHA;7:DAMMA;7:KASRA;7:SHADDA;8:UKUN",
    "7:MADDAH ABOVE;7:HAMZA ABOVE;13:BELOW;7:SUBSCRIPT ALEF;7:INVERTED DAMMA;7:MARK NOON GHUNNA",
    "7:ZWARAKAY;7:VOWEL SIGN SMALL V ABOVE;18:INVERTED SMALL V ABOVE;18:DOT BELOW",
    "7:REVERSED DAMMA;7:FATHA WITH TWO DOTS;7:WAVY HAMZA BELOW;6:-INDIC DIGIT ZERO;19:ONE;19:TWO",
    "20:HREE;19:FOUR;20:IVE;19:SIX;20:EVEN;19:EIGHT;19:NINE;6: PERCENT SIGN;7:DECIMAL SEPARATOR",
    "7:THOUSANDS SEPARATOR;7:FIVE POINTED STAR;7:LETTER DOTLESS BEH;22:QAF;14:SUPERSCRIPT ALEF",
    "14:ALEF WASLA;20:ITH WAVY HAMZA ABOVE;35:BELOW;14:HIGH HAMZA;24: ALEF;25:WAW",
    "14:U WITH HAMZA ABOVE;14:HIGH HAMZA YEH;14:TTEH;18:EH;14:BEEH;14:TEH WITH RING",
    "23:THREE DOTS ABOVE DOWNWARDS;14:PEH;14:TEHEH;14:BEHEH;14:HAH WITH HAMZA ABOVE",
    "23:TWO DOTS VERTICAL ABOVE;14:NYEH;14:DYEH;14:HAH WITH THREE DOTS ABOVE;14:TCHEH;19:EH",
    "14:DDAL;15:AL WITH RING;23:DOT BELOW;32: AND SMALL TAH;16:HAL;15:DAHAL;15:UL",
    "15:AL WITH THREE DOTS ABOVE DOWNWARDS;23:FOUR DOTS ABOVE;14:RREH;15:EH WITH SMALL V;23:RING",
    "23:DOT BELOW;23:SMALL V BELOW;23:DOT BELOW AND DOT ABOVE;23:TWO DOTS ABOVE;14:JEH",
    "14:REH WITH FOUR DOTS ABOVE;14:SEEN WITH DOT BELOW AND DOT ABOVE;24:THREE DOTS BELOW",
    "40: AND THREE DOTS ABOVE;15:AD WITH TWO DOTS BELOW;24:HREE DOTS ABOVE",
    "14:TAH WITH THREE DOTS ABOVE;14:AIN WITH THREE DOTS ABOVE;14:DOTLESS FEH",
    "14:FEH WITH DOT MOVED BELOW;27:BELOW;14:VEH;14:FEH WITH THREE DOTS BELOW;14:PEHEH",
    "14:QAF WITH DOT ABOVE;23:THREE DOTS ABOVE;14:KEHEH;14:SWASH KAF;14:KAF WITH RING",
    "23:DOT ABOVE;14:NG;14:KAF WITH THREE DOTS BELOW;14:GAF;17: WITH RING;14:NGOEH",
    "14:GAF WITH TWO DOTS BELOW;15:UEH;15:AF WITH THREE DOTS ABOVE;14:LAM WITH SMALL V",
    "23:DOT ABOVE;23:THREE DOTS ABOVE;34:BELOW;14:NOON WITH DOT BELOW;19:GHUNNA;14:RNOON",
    "14:NOON WITH RING"]),
  (0x06BD, [
    "ARABIC LETTER NOON WITH THREE DOTS ABOVE;14:HEH DOACHASHMEE;14:TCHEH WITH DOT ABOVE",
    "14:HEH WITH YEH ABOVE;18:GOAL;22: WITH HAMZA ABOVE;14:TEH MARBUTA GOAL;14:WAW WITH RING",
    "14:KIRGHIZ OE;14:OE;14:U;14:YU;14:KIRGHIZ YU;14:WAW WITH TWO DOTS ABOVE;14:VE;14:FARSI YEH",
    "14:YEH WITH TAIL;23:SMALL V;14:WAW WITH DOT ABOVE;14:E;14:YEH WITH THREE DOTS BELOW",
    "18:BARREE;24: WITH HAMZA ABOVE;7:FULL STOP;7:LETTER AE",
    "7:SMALL HIGH LIGATURE SAD WITH LAM WITH ALEF MAKSURA;27:QAF WITH LAM WITH ALEF MAKSURA",
    "18:MEEM INITIAL FORM;18:LAM ALEF;18:JEEM;18:THREE DOTS;18:SEEN;7:END OF AYAH",
    "7:START OF RUB EL HIZB;8:MALL HIGH ROUNDED ZERO;18:UPRIGHT RECTANGULAR ZERO",
    "18:DOTLESS HEAD OF KHAH;18:MEEM ISOLATED FORM;13:LOW SEEN;13:HIGH MADDA;13:WAW;13:YEH",
    "13:HIGH YEH;18:NOON;7:PLACE OF SAJDAH;7:EMPTY CENTRE LOW STOP;20:HIGH STOP",
    "7:ROUNDED HIGH STOP WITH FILLED CENTRE;7:SMALL LOW MEEM;7:LETTER DAL WITH INVERTED V",
    "14:REH WITH INVERTED V;EXTENDED ARABIC-INDIC DIGIT ZERO;28:ONE;28:TWO;29:HREE;28:FOUR;29:IVE",
    "28:SIX;29:EVEN;28:EIGHT;28:NINE;ARABIC LETTER SHEEN WITH DOT BELOW;14:DAD WITH DOT BELOW",
    "14:GHAIN WITH DOT BELOW;7:SIGN SINDHI AMPERSAND;19:POSTPOSITION MEN",
    "7:LETTER HEH WITH INVERTED V;SYRIAC END OF PARAGRAPH;7:SUPRALINEAR FULL STOP",
    "9:BLINEAR FULL STOP;9:PRALINEAR COLON;9:BLINEAR COLON;7:HORIZONTAL COLON;7:COLON SKEWED LEFT",
    "20:RIGHT;7:SUPRALINEAR COLON SKEWED LEFT;9:BLINEAR COLON SKEWED RIGHT;7:CONTRACTION",
    "7:HARKLEAN OBELUS;16:METOBELUS;16:ASTERISCUS;;SYRIAC ABBREVIATION MARK;7:LETTER ALAPH",
    "14:SUPERSCRIPT ALAPH;14:BETH;14:GAMAL;19: GARSHUNI;14:DALATH;15:OTLESS DALATH RISH;14:HE",
    "14:WAW;14:ZAIN;14:HETH;14:TETH;18: GARSHUNI;14:YUDH;18: HE;14:KAPH;14:LAMADH;14:MIM;14:NUN",
    "14:SEMKATH;14:FINAL SEMKATH;14:E;14:PE;14:REVERSED PE;14:SADHE;14:QAPH;14:RISH;14:SHIN",
    "14:TAW;14:PERSIAN BHETH;22:GHAMAL;22:DHALATH;7:PTHAHA ABOVE;14:BELOW;14:DOTTED",
    "7:ZQAPHA ABOVE;14:BELOW;14:DOTTED;7:RBASA ABOVE;13:BELOW;7:DOTTED ZLAMA HORIZONTAL",
    "20:ANGULAR;7:HBASA ABOVE;13:BELOW;12:-ESASA DOTTED;7:ESASA ABOVE;13:BELOW;7:RWAHA",
    "7:FEMININE DOT;7:QUSHSHAYA;7:RUKKAKHA;7:TWO VERTICAL DOTS ABOVE;25:BELOW;8:HREE DOTS ABOVE",
    "18:BELOW;7:OBLIQUE LINE ABOVE;20:BELOW;7:MUSIC;7:BARREKH;;;SYRIAC LETTER SOGDIAN ZHAIN",
    "22:KHAPH;22:FE;ARABIC LETTER BEH WITH THREE DOTS HORIZONTALLY BELOW",
    "23:DOT BELOW AND THREE DOTS ABOVE;23:THREE DOTS POINTING UPWARDS BELOW",
    "56: AND TWO DOTS ABOVE;24:WO DOTS BELOW AND DOT ABOVE;23:INVERTED SMALL V BELOW;23:SMALL V",
    "14:HAH WITH TWO DOTS ABOVE;24:HREE DOTS POINTING UPWARDS BELOW",
    "14:DAL WITH TWO DOTS VERTICALLY BELOW AND SMALL TAH;23:INVERTED SMALL V BELOW",
    "14:REH WITH STROKE;14:SEEN WITH FOUR DOTS ABOVE;14:AIN WITH TWO DOTS ABOVE",
    "24:HREE DOTS POINTING DOWNWARDS ABOVE;24:WO DOTS VERTICALLY ABOVE;14:FEH WITH TWO DOTS BELOW",
    "24:HREE DOTS POINTING UPWARDS BELOW;14:KEHEH WITH DOT ABOVE;25:THREE DOTS ABOVE",
    "36:POINTING UPWARDS BELOW;14:MEEM WITH DOT ABOVE;28:BELOW;14:NOON WITH TWO DOTS BELOW",
    "24:SMALL TAH;30:V;14:LAM WITH BAR;14:REH WITH TWO DOTS VERTICALLY ABOVE;23:HAMZA ABOVE",
    "14:SEEN WITH TWO DOTS VERTICALLY ABOVE;14:HAH WITH SMALL ARABIC LETTER TAH BELOW",
    "47:AND TWO DOTS;14:SEEN WITH SMALL ARABIC LETTER TAH AND TWO DOTS",
    "14:REH WITH SMALL ARABIC LETTER TAH AND TWO DOTS;14:HAH WITH SMALL ARABIC LETTER TAH ABOVE",
    "14:ALEF WITH EXTENDED ARABIC-INDIC DIGIT TWO ABOVE;53:HREE ABOVE",
    "14:FARSI YEH WITH EXTENDED ARABIC-INDIC DIGIT TWO ABOVE;58:HREE ABOVE;57:FOUR BELOW",
    "14:WAW WITH EXTENDED ARABIC-INDIC DIGIT TWO ABOVE;52:HREE ABOVE",
    "14:YEH BARREE WITH EXTENDED ARABIC-INDIC DIGIT TWO ABOVE;59:HREE ABOVE",
    "14:HAH WITH EXTENDED ARABIC-INDIC DIGIT FOUR BELOW",
    "14:SEEN WITH EXTENDED ARABIC-INDIC DIGIT FOUR ABOVE;24:INVERTED V;14:KAF WITH TWO DOTS ABOVE",
    "THAANA LETTER HAA;14:SHAVIYANI;14:NOONU;14:RAA;14:BAA;14:LHAVIYANI;14:KAAFU;14:ALIFU",
    "14:VAAVU;14:MEEMU;14:FAAFU;14:DHAALU;14:THAA;14:LAAMU;14:GAAFU;15:NAVIYANI;14:SEENU",
    "14:DAVIYANI;14:ZAVIYANI;14:TAVIYANI;14:YAA;14:PAVIYANI;14:JAVIYANI;14:CHAVIYANI;14:TTAA",
    "14:HHAA;14:KHAA;14:THAALU;14:ZAA;14:SHEENU;15:AADHU;14:DAADHU;14:TO;14:ZO;14:AINU;14:GHAINU",
    "14:QAAFU;14:WAAVU;7:ABAFILI;8:ABAAFILI;7:IBIFILI;7:EEBEEFILI;7:UBUFILI;7:OOBOOFILI;7:EBEFILI",
    "8:YBEYFILI;7:OBOFILI;8:ABOAFILI;7:SUKUN;7:LETTER NAA;;;;;;;;;;;;;;;NKO DIGIT ZERO;10:ONE",
    "10:TWO;11:HREE;10:FOUR;11:IVE;10:SIX;11:EVEN;10:EIGHT;10:NINE;4:LETTER A;11:EE;11:I;11:E",
    "11:U;11:OO;12:;11:DAGBASINNA;11:N;11:BA;11:PA;11:TA;11:JA;11:CHA;11:DA;11:RA;12:RA;11:SA",
    "11:GBA;11:FA;11:KA;11:LA;11:NA WOLOSO;11:MA;11:NYA;12:A;11:HA;11:WA;11:YA;11:NYA WOLOSO",
    "11:JONA JA;16:CHA;16:RA;4:COMBINING SHORT HIGH TONE;20:LOW TONE;20:RISING TONE",
    "14:LONG DESCENDING TONE;19:HIGH TONE;19:LOW TONE;19:RISING TONE;14:NASALIZATION MARK",
    "14:DOUBLE DOT ABOVE;4:HIGH TONE APOSTROPHE;4:LOW TONE APOSTROPHE;4:SYMBOL OO DENNEN",
    "11:GBAKURUNEN;4:COMMA;4:EXCLAMATION MARK;4:LAJANYALAN;;;NKO DANTAYALAN;5:OROME SIGN",
    "4:TAMAN SIGN;SAMARITAN LETTER ALAF;17:BIT;17:GAMAN;17:DALAT;17:IY;17:BAA;17:ZEN;17:IT;17:TIT",
    "17:YUT;17:KAAF;17:LABAT;17:MIM;17:NUN;17:SINGAAT;17:IN;17:FI;17:TSAADIY;17:QUF;17:RISH",
    "17:SHAN;17:TAAF;10:MARK IN;17:-ALAF;15:OCCLUSION;15:DAGESH;11:ODIFIER LETTER EPENTHETIC YUT",
    "11:ARK EPENTHETIC YUT;10:VOWEL SIGN LONG E;21:E;21:OVERLONG AA;21:LONG AA;21:AA",
    "21:OVERLONG A;21:LONG A;21:A;10:MODIFIER LETTER SHORT A;10:VOWEL SIGN SHORT A;21:LONG U;21:U",
    "10:MODIFIER LETTER I;10:VOWEL SIGN LONG I;21:I;21:O;21:SUKUN;10:MARK NEQUDAA;;",
    "SAMARITAN PUNCTUATION NEQUDAA;22:AFSAAQ;23:NGED;22:BAU;22:ATMAAU;22:SHIYYAALAA",
    "10:ABBREVIATION MARK;10:PUNCTUATION MELODIC QITSA;22:ZIQAA;22:QITSA;22:ZAEF;22:TURU",
    "22:ARKAANU;22:SOF MASHFAAT;22:ANNAAU;;MANDAIC LETTER HALQA;15:AB;16:G;16:D;16:H;15:USHENNA",
    "15:AZ;15:IT;15:ATT;16:KSA;17:;16:L;16:M;16:N;16:S;15:IN;15:AP;16:SZ;16:Q;16:R;16:SH;16:T",
    "15:DUSHENNA;15:KAD;15:AIN;8:AFFRICATION MARK;8:VOCALIZATION MARK;8:GEMINATION MARK;;",
    "MANDAIC PUNCTUATION;;SYRIAC LETTER MALAYALAM NGA;24:JA;24:NYA;24:TTA;24:NNA;26:NA;24:BHA",
    "24:RA;24:LLA;26:LA;24:SSA;;;;;;ARABIC LETTER ALEF WITH ATTACHED FATHA;33:TOP RIGHT FATHA",
    "24:RIGHT MIDDLE STROKE;24:LEFT MIDDLE STROKE;24:ATTACHED KASRA;33:BOTTOM RIGHT KASRA",
    "33:ROUND DOT ABOVE;34:IGHT ROUND DOT;33:LEFT ROUND DOT;33:ROUND DOT BELOW;24:DOT ABOVE",
    "24:ATTACHED TOP RIGHT FATHA AND DOT ABOVE;24:RIGHT MIDDLE STROKE AND DOT ABOVE",
    "24:ATTACHED BOTTOM RIGHT KASRA AND DOT ABOVE;33:TOP RIGHT FATHA AND LEFT RING",
    "24:RIGHT MIDDLE STROKE AND LEFT RING;24:ATTACHED BOTTOM RIGHT KASRA AND LEFT RING",
    "33:RIGHT HAMZA;33:LEFT HAMZA;7:TATWEEL WITH OVERSTRUCK HAMZA;31:WAW;20:TWO DOTS BELOW",
    "7:LETTER THIN YEH;7:BASELINE ROUND DOT;7:RAISED ROUND DOT",
    "7:LETTER NOON WITH INVERTED SMALL V;14:HAH WITH INVERTED SMALL V BELOW;14:TAH WITH DOT BELOW",
    "23:THREE DOTS BELOW;14:KEHEH WITH TWO DOTS VERTICALLY BELOW;7:VERTICAL TAIL;",
    "ARABIC POUND MARK ABOVE;8:IASTRE MARK ABOVE;;;;;;;ARABIC SMALL HIGH WORD AL-JUZ",
    "13:LOW WORD ISHMAAM;23:MAALA;22:TASHEEL;7:MADDA WAAJIB;7:SUPERSCRIPT ALEF MOKHASSAS",
    "7:DOUBLED MADDA;7:HALF MADDA OVER MADDA;7:LETTER BEH WITH SMALL V BELOW;23:HAMZA ABOVE",
    "14:JEEM WITH TWO DOTS ABOVE;14:TAH WITH TWO DOTS ABOVE",
    "14:FEH WITH DOT BELOW AND THREE DOTS ABOVE;14:QAF WITH DOT BELOW;14:LAM WITH DOUBLE BAR",
    "14:MEEM WITH THREE DOTS ABOVE;14:YEH WITH TWO DOTS BELOW AND HAMZA ABOVE;42:DOT ABOVE",
    "14:REH WITH LOOP;14:WAW WITH DOT WITHIN;14:ROHINGYA YEH;14:LOW ALEF",
    "14:DAL WITH THREE DOTS BELOW;14:SAD WITH THREE DOTS BELOW;14:GAF WITH INVERTED STROKE",
    "14:STRAIGHT WAW;14:ZAIN WITH INVERTED V ABOVE;14:AIN WITH THREE DOTS BELOW",
    "14:KAF WITH DOT BELOW;14:QAF WITH DOT BELOW AND NO DOTS ABOVE;14:BEH WITH SMALL MEEM ABOVE",
    "14:PEH WITH SMALL MEEM ABOVE;14:TEH WITH SMALL TEH ABOVE;14:REH WITH SMALL NOON ABOVE",
    "14:YEH WITH TWO DOTS BELOW AND SMALL NOON ABOVE;14:AFRICAN FEH;22:QAF;22:NOON",
    "14:PEH WITH SMALL V;14:TEH WITH SMALL V;15:TEH WITH SMALL V;15:CHEH WITH SMALL V",
    "14:KEHEH WITH SMALL V;14:GHAIN WITH THREE DOTS ABOVE;14:AFRICAN QAF WITH THREE DOTS ABOVE",
    "14:JEEM WITH THREE DOTS ABOVE;35:BELOW;14:LAM WITH SMALL ARABIC LETTER TAH ABOVE;14:GRAF",
    "7:SMALL FARSI YEH;13:HIGH FARSI YEH;18:YEH BARREE WITH TWO DOTS BELOW;18:WORD SAH;18:ZAH",
    "7:LARGE ROUND DOT ABOVE;23:BELOW;7:SUKUN BELOW;7:LARGE CIRCLE BELOW",
    "13:ROUND DOT INSIDE CIRCLE BELOW;7:SMALL LOW WAW;13:HIGH WORD AR-RUB;18:SAD;18:AIN;18:QAF",
    "18:NOON WITH KASRA;13:LOW NOON WITH KASRA;13:HIGH WORD ATH-THALATHA;24:S-SAJDA;24:N-NISF",
    "23:SAKTA;23:QIF;23:WAQFA;18:FOOTNOTE MARKER;18:SIGN SAFHA;7:DISPUTED END OF AYAH",
    "7:TURNED DAMMA BELOW;7:CURLY FATHA;13:DAMMA;13:KASRA;13:FATHATAN;13:DAMMATAN;13:KASRATAN",
    "7:TONE ONE DOT ABOVE;12:TWO DOTS ABOVE;12:LOOP ABOVE;12:ONE DOT BELOW;12:TWO DOTS BELOW",
    "12:LOOP BELOW;7:OPEN FATHATAN;12:DAMMATAN;12:KASRATAN;7:SMALL HIGH WAW;7:FATHA WITH RING",
    "18:DOT ABOVE;7:KASRA WITH DOT BELOW;7:LEFT ARROWHEAD ABOVE;7:RIGHT ARROWHEAD ABOVE",
    "7:LEFT ARROWHEAD BELOW;7:RIGHT ARROWHEAD BELOW;7:DOUBLE RIGHT ARROWHEAD ABOVE;35: WITH DOT",
    "7:RIGHT ARROWHEAD ABOVE WITH DOT;7:DAMMA WITH DOT;7:MARK SIDEWAYS NOON GHUNNA",
    "DEVANAGARI SIGN INVERTED CANDRABINDU;16:CANDRABINDU;16:ANUSVARA;16:VISARGA;11:LETTER SHORT A",
    "18:A;19:A;18:I;19:I;18:U;19:U;18:VOCALIC R;26:L;18:CANDRA E;18:SHORT E;18:E;18:AI",
    "18:CANDRA O;18:SHORT O;18:O;18:AU;18:KA;19:HA;18:GA;19:HA;18:NGA;18:CA;19:HA;18:JA;19:HA",
    "18:NYA;18:TTA;20:HA;18:DDA;20:HA;18:NNA;18:TA;19:HA;18:DA;19:HA;18:NA;19:NNA;18:PA;19:HA",
    "18:BA;19:HA;18:MA;18:YA;18:RA;19:RA;18:LA;19:LA;20:LA;18:VA;18:SHA;19:SA;19:A;18:HA",
    "11:VOWEL SIGN OE;23:OE;11:SIGN NUKTA;16:AVAGRAHA;11:VOWEL SIGN AA;22:I;23:I;22:U;23:U",
    "22:VOCALIC R;31:R;22:CANDRA E;22:SHORT E;22:E;22:AI;22:CANDRA O;22:SHORT O;22:O;22:AU",
    "11:SIGN VIRAMA;11:VOWEL SIGN PRISHTHAMATRA E;22:AW;11:OM;11:STRESS SIGN UDATTA;23:ANUDATTA",
    "11:GRAVE ACCENT;11:ACUTE ACCENT;11:VOWEL SIGN CANDRA LONG E;22:UE;23:UE;11:LETTER QA;18:KHHA",
    "18:GHHA;18:ZA;18:DDDHA;18:RHA;18:FA;18:YYA;18:VOCALIC RR;26:LL;11:VOWEL SIGN VOCALIC L;31:L",
    "11:DANDA;12:OUBLE DANDA;12:IGIT ZERO;17:ONE;17:TWO;18:HREE;17:FOUR;18:IVE;17:SIX;18:EVEN",
    "17:EIGHT;17:NINE;11:ABBREVIATION SIGN;11:SIGN HIGH SPACING DOT;11:LETTER CANDRA A;18:OE",
    "19:OE;18:AW;18:UE;19:UE;18:MARWARI DDA;18:ZHA;18:HEAVY YA;18:GGA;18:JJA;18:GLOTTAL STOP",
    "18:DDDA;18:BBA;BENGALI ANJI;8:SIGN CANDRABINDU;13:ANUSVARA;13:VISARGA;;BENGALI LETTER A;16:A",
    "15:I;16:I;15:U;16:U;15:VOCALIC R;23:L;;;BENGALI LETTER E;15:AI;;;BENGALI LETTER O;15:AU",
    "15:KA;16:HA;15:GA;16:HA;15:NGA;15:CA;16:HA;15:JA;16:HA;15:NYA;15:TTA;17:HA;15:DDA;17:HA",
    "15:NNA;15:TA;16:HA;15:DA;16:HA;15:NA;;BENGALI LETTER PA;16:HA;15:BA;16:HA;15:MA;15:YA;15:RA;",
    "BENGALI LETTER LA;;;;BENGALI LETTER SHA;16:SA;16:A;15:HA;;;BENGALI SIGN NUKTA;13:AVAGRAHA",
    "8:VOWEL SIGN AA;19:I;20:I;19:U;20:U;19:VOCALIC R;28:R;;;BENGALI VOWEL SIGN E;19:AI;;",
    "BENGALI VOWEL SIGN O;19:AU;8:SIGN VIRAMA;8:LETTER KHANDA TA;;;;;;;;;BENGALI AU LENGTH MARK;;",
    ";;BENGALI LETTER RRA;16:HA;;BENGALI LETTER YYA;15:VOCALIC RR;23:LL;8:VOWEL SIGN VOCALIC L",
    "28:L;;;BENGALI DIGIT ZERO;14:ONE;14:TWO;15:HREE;14:FOUR;15:IVE;14:SIX;15:EVEN;14:EIGHT",
    "14:NINE;8:LETTER RA WITH MIDDLE DIAGONAL;23:LOWER DIAGONAL;8:RUPEE MARK;14:SIGN",
    "8:CURRENCY NUMERATOR ONE;27:TWO;28:HREE;27:FOUR;27:ONE LESS THAN THE DENOMINATOR",
    "17:DENOMINATOR SIXTEEN;8:ISSHAR;8:GANDA MARK;8:LETTER VEDIC ANUSVARA;8:ABBREVIATION SIGN",
    "8:SANDHI MARK;;;GURMUKHI SIGN ADAK BINDI;14:BINDI;14:VISARGA;;GURMUKHI LETTER A;17:A;16:I",
    "17:I;16:U;17:U;;;;;GURMUKHI LETTER EE;16:AI;;;GURMUKHI LETTER OO;16:AU;16:KA;17:HA;16:GA",
    "17:HA;16:NGA;16:CA;17:HA;16:JA;17:HA;16:NYA;16:TTA;18:HA;16:DDA;18:HA;16:NNA;16:TA;17:HA",
    "16:DA;17:HA;16:NA;;GURMUKHI LETTER PA;17:HA;16:BA;17:HA;16:MA;16:YA;16:RA;",
    "GURMUKHI LETTER LA;17:LA;;GURMUKHI LETTER VA;16:SHA;;GURMUKHI LETTER SA;16:HA;;",
    "GURMUKHI SIGN NUKTA;;GURMUKHI VOWEL SIGN AA;20:I;21:I;20:U;21:U;;;;;GURMUKHI VOWEL SIGN EE",
    "20:AI;;;GURMUKHI VOWEL SIGN OO;20:AU;9:SIGN VIRAMA;;;;GURMUKHI SIGN UDAAT;;;;;;;",
    "GURMUKHI LETTER KHHA;16:GHHA;16:ZA;16:RRA;;GURMUKHI LETTER FA;;;;;;;;GURMUKHI DIGIT ZERO",
    "15:ONE;15:TWO;16:HREE;15:FOUR;16:IVE;15:SIX;16:EVEN;15:EIGHT;15:NINE;9:TIPPI;9:ADDAK;9:IRI",
    "9:URA;9:EK ONKAR;9:SIGN YAKASH;9:ABBREVIATION SIGN;;;;;;;;;;;GUJARATI SIGN CANDRABINDU",
    "14:ANUSVARA;14:VISARGA;;GUJARATI LETTER A;17:A;16:I;17:I;16:U;17:U;16:VOCALIC R;24:L",
    "9:VOWEL CANDRA E;;GUJARATI LETTER E;16:AI;9:VOWEL CANDRA O;;GUJARATI LETTER O;16:AU;16:KA",
    "17:HA;16:GA;17:HA;16:NGA;16:CA;17:HA;16:JA;17:HA;16:NYA;16:TTA;18:HA;16:DDA;18:HA;16:NNA",
    "16:TA;17:HA;16:DA;17:HA;16:NA;;GUJARATI LETTER PA;17:HA;16:BA;17:HA;16:MA;16:YA;16:RA;",
    "GUJARATI LETTER LA;17:LA;;GUJARATI LETTER VA;16:SHA;17:SA;17:A;16:HA;;;GUJARATI SIGN NUKTA",
    "14:AVAGRAHA;9:VOWEL SIGN AA;20:I;21:I;20:U;21:U;20:VOCALIC R;29:R;20:CANDRA E;",
    "GUJARATI VOWEL SIGN E;20:AI;20:CANDRA O;;GUJARATI VOWEL SIGN O;20:AU;9:SIGN VIRAMA;;",
    "GUJARATI OM;;;;;;;;;;;;;;;;GUJARATI LETTER VOCALIC RR;24:LL;9:VOWEL SIGN VOCALIC L;29:L;;",
    "GUJARATI DIGIT ZERO;15:ONE;15:TWO;16:HREE;15:FOUR;16:IVE;15:SIX;16:EVEN;15:EIGHT;15:NINE"]),
  (0x0AF0, [
    "GUJARATI ABBREVIATION SIGN;9:RUPEE SIGN;;;;;;;;GUJARATI LETTER ZHA;9:SIGN SUKUN;15:HADDA",
    "14:MADDAH;14:THREE-DOT NUKTA ABOVE;14:CIRCLE NUKTA ABOVE;14:TWO-CIRCLE NUKTA ABOVE;",
    "ORIYA SIGN CANDRABINDU;11:ANUSVARA;11:VISARGA;;ORIYA LETTER A;14:A;13:I;14:I;13:U;14:U",
    "13:VOCALIC R;21:L;;;ORIYA LETTER E;13:AI;;;ORIYA LETTER O;13:AU;13:KA;14:HA;13:GA;14:HA",
    "13:NGA;13:CA;14:HA;13:JA;14:HA;13:NYA;13:TTA;15:HA;13:DDA;15:HA;13:NNA;13:TA;14:HA;13:DA",
    "14:HA;13:NA;;ORIYA LETTER PA;14:HA;13:BA;14:HA;13:MA;13:YA;13:RA;;ORIYA LETTER LA;14:LA;",
    "ORIYA LETTER VA;13:SHA;14:SA;14:A;13:HA;;;ORIYA SIGN NUKTA;11:AVAGRAHA;6:VOWEL SIGN AA;17:I",
    "18:I;17:U;18:U;17:VOCALIC R;26:R;;;ORIYA VOWEL SIGN E;17:AI;;;ORIYA VOWEL SIGN O;17:AU",
    "6:SIGN VIRAMA;;;;;;;;ORIYA SIGN OVERLINE;6:AI LENGTH MARK;7:U LENGTH MARK;;;;",
    "ORIYA LETTER RRA;14:HA;;ORIYA LETTER YYA;13:VOCALIC RR;21:LL;6:VOWEL SIGN VOCALIC L;26:L;;",
    "ORIYA DIGIT ZERO;12:ONE;12:TWO;13:HREE;12:FOUR;13:IVE;12:SIX;13:EVEN;12:EIGHT;12:NINE",
    "6:ISSHAR;6:LETTER WA;6:FRACTION ONE QUARTER;19:HALF;15:THREE QUARTERS;15:ONE SIXTEENTH",
    "19:EIGHTH;15:THREE SIXTEENTHS;;;;;;;;;;;TAMIL SIGN ANUSVARA;11:VISARGA;;TAMIL LETTER A;14:A",
    "13:I;14:I;13:U;14:U;;;;TAMIL LETTER E;14:E;13:AI;;TAMIL LETTER O;14:O;13:AU;13:KA;;;",
    "TAMIL LETTER NGA;13:CA;;TAMIL LETTER JA;;TAMIL LETTER NYA;13:TTA;;;;TAMIL LETTER NNA;13:TA;;",
    ";TAMIL LETTER NA;14:NNA;13:PA;;;;TAMIL LETTER MA;13:YA;13:RA;14:RA;13:LA;14:LA;15:LA;13:VA",
    "13:SHA;14:SA;14:A;13:HA;;;;;TAMIL VOWEL SIGN AA;17:I;18:I;17:U;18:U;;;;TAMIL VOWEL SIGN E",
    "18:E;17:AI;;TAMIL VOWEL SIGN O;18:O;17:AU;6:SIGN VIRAMA;;;TAMIL OM;;;;;;",
    "TAMIL AU LENGTH MARK;;;;;;;;;;;;;;;TAMIL DIGIT ZERO;12:ONE;12:TWO;13:HREE;12:FOUR;13:IVE",
    "12:SIX;13:EVEN;12:EIGHT;12:NINE;6:NUMBER TEN;13:ONE HUNDRED;17:THOUSAND;6:DAY SIGN",
    "6:MONTH SIGN;6:YEAR SIGN;6:DEBIT SIGN;6:CREDIT SIGN;6:AS ABOVE SIGN;6:RUPEE SIGN",
    "6:NUMBER SIGN;;;;;;TELUGU SIGN COMBINING CANDRABINDU ABOVE;13:ANDRABINDU;12:ANUSVARA",
    "12:VISARGA;12:COMBINING ANUSVARA ABOVE;7:LETTER A;15:A;14:I;15:I;14:U;15:U;14:VOCALIC R;22:L",
    ";TELUGU LETTER E;15:E;14:AI;;TELUGU LETTER O;15:O;14:AU;14:KA;15:HA;14:GA;15:HA;14:NGA;14:CA",
    "15:HA;14:JA;15:HA;14:NYA;14:TTA;16:HA;14:DDA;16:HA;14:NNA;14:TA;15:HA;14:DA;15:HA;14:NA;",
    "TELUGU LETTER PA;15:HA;14:BA;15:HA;14:MA;14:YA;14:RA;15:RA;14:LA;15:LA;16:LA;14:VA;14:SHA",
    "15:SA;15:A;14:HA;;;TELUGU SIGN NUKTA;12:AVAGRAHA;7:VOWEL SIGN AA;18:I;19:I;18:U;19:U",
    "18:VOCALIC R;27:R;;TELUGU VOWEL SIGN E;19:E;18:AI;;TELUGU VOWEL SIGN O;19:O;18:AU",
    "7:SIGN VIRAMA;;;;;;;;TELUGU LENGTH MARK;7:AI LENGTH MARK;;TELUGU LETTER TSA;14:DZA;14:RRRA;;",
    "TELUGU LETTER NAKAARA POLLU;;;TELUGU LETTER VOCALIC RR;22:LL;7:VOWEL SIGN VOCALIC L;27:L;;",
    "TELUGU DIGIT ZERO;13:ONE;13:TWO;14:HREE;13:FOUR;14:IVE;13:SIX;14:EVEN;13:EIGHT;13:NINE;;;;;;",
    ";TELUGU SIGN SIDDHAM;7:FRACTION DIGIT ZERO FOR ODD POWERS OF FOUR",
    "22:ONE FOR ODD POWERS OF FOUR;22:TWO FOR ODD POWERS OF FOUR;23:HREE FOR ODD POWERS OF FOUR",
    "22:ONE FOR EVEN POWERS OF FOUR;22:TWO FOR EVEN POWERS OF FOUR",
    "23:HREE FOR EVEN POWERS OF FOUR;7:SIGN TUUMU;KANNADA SIGN SPACING CANDRABINDU;13:CANDRABINDU",
    "13:ANUSVARA;13:VISARGA;13:SIDDHAM;8:LETTER A;16:A;15:I;16:I;15:U;16:U;15:VOCALIC R;23:L;",
    "KANNADA LETTER E;16:E;15:AI;;KANNADA LETTER O;16:O;15:AU;15:KA;16:HA;15:GA;16:HA;15:NGA",
    "15:CA;16:HA;15:JA;16:HA;15:NYA;15:TTA;17:HA;15:DDA;17:HA;15:NNA;15:TA;16:HA;15:DA;16:HA",
    "15:NA;;KANNADA LETTER PA;16:HA;15:BA;16:HA;15:MA;15:YA;15:RA;16:RA;15:LA;16:LA;",
    "KANNADA LETTER VA;15:SHA;16:SA;16:A;15:HA;;;KANNADA SIGN NUKTA;13:AVAGRAHA;8:VOWEL SIGN AA",
    "19:I;20:I;19:U;20:U;19:VOCALIC R;28:R;;KANNADA VOWEL SIGN E;20:E;19:AI;;KANNADA VOWEL SIGN O",
    "20:O;19:AU;8:SIGN VIRAMA;;;;;;;;KANNADA LENGTH MARK;8:AI LENGTH MARK;;;;;;",
    "KANNADA LETTER NAKAARA POLLU;15:FA;;KANNADA LETTER VOCALIC RR;23:LL;8:VOWEL SIGN VOCALIC L",
    "28:L;;;KANNADA DIGIT ZERO;14:ONE;14:TWO;15:HREE;14:FOUR;15:IVE;14:SIX;15:EVEN;14:EIGHT",
    "14:NINE;;KANNADA SIGN JIHVAMULIYA;13:UPADHMANIYA;13:COMBINING ANUSVARA ABOVE RIGHT;;;;;;;;;;",
    ";;MALAYALAM SIGN COMBINING ANUSVARA ABOVE;16:ANDRABINDU;15:ANUSVARA;15:VISARGA",
    "10:LETTER VEDIC ANUSVARA;17:A;18:A;17:I;18:I;17:U;18:U;17:VOCALIC R;25:L;;MALAYALAM LETTER E",
    "18:E;17:AI;;MALAYALAM LETTER O;18:O;17:AU;17:KA;18:HA;17:GA;18:HA;17:NGA;17:CA;18:HA;17:JA",
    "18:HA;17:NYA;17:TTA;19:HA;17:DDA;19:HA;17:NNA;17:TA;18:HA;17:DA;18:HA;17:NA;18:NNA;17:PA",
    "18:HA;17:BA;18:HA;17:MA;17:YA;17:RA;18:RA;17:LA;18:LA;19:LA;17:VA;17:SHA;18:SA;18:A;17:HA",
    "17:TTTA;10:SIGN VERTICAL BAR VIRAMA;15:CIRCULAR VIRAMA;15:AVAGRAHA;10:VOWEL SIGN AA;21:I",
    "22:I;21:U;22:U;21:VOCALIC R;30:R;;MALAYALAM VOWEL SIGN E;22:E;21:AI;;MALAYALAM VOWEL SIGN O",
    "22:O;21:AU;10:SIGN VIRAMA;10:LETTER DOT REPH;10:SIGN PARA;;;;;MALAYALAM LETTER CHILLU M;24:Y",
    "24:LLL;10:AU LENGTH MARK;10:FRACTION ONE ONE-HUNDRED-AND-SIXTIETH;23:FORTIETH",
    "19:THREE EIGHTIETHS;19:ONE TWENTIETH;24:ENTH;19:THREE TWENTIETHS;19:ONE FIFTH",
    "10:LETTER ARCHAIC II;17:VOCALIC RR;25:LL;10:VOWEL SIGN VOCALIC L;30:L;;;MALAYALAM DIGIT ZERO",
    "16:ONE;16:TWO;17:HREE;16:FOUR;17:IVE;16:SIX;17:EVEN;16:EIGHT;16:NINE;10:NUMBER TEN",
    "17:ONE HUNDRED;21:THOUSAND;10:FRACTION ONE QUARTER;23:HALF;19:THREE QUARTERS",
    "19:ONE SIXTEENTH;23:EIGHTH;19:THREE SIXTEENTHS;10:DATE MARK;10:LETTER CHILLU NN;25:;24:RR",
    "24:L;25:L;24:K;;SINHALA SIGN CANDRABINDU;13:ANUSVARAYA;13:VISARGAYA;;SINHALA LETTER AYANNA",
    "16:AYANNA;16:EYANNA;17:EYANNA;15:IYANNA;16:IYANNA;15:UYANNA;16:UYANNA;15:IRUYANNA;18:UYANNA",
    "16:LUYANNA;18:UYANNA;15:EYANNA;16:EYANNA;15:AIYANNA;15:OYANNA;16:OYANNA;15:AUYANNA;;;",
    "SINHALA LETTER ALPAPRAANA KAYANNA;15:MAHAAPRAANA KAYANNA;15:ALPAPRAANA GAYANNA",
    "15:MAHAAPRAANA GAYANNA;15:KANTAJA NAASIKYAYA;15:SANYAKA GAYANNA;15:ALPAPRAANA CAYANNA",
    "15:MAHAAPRAANA CAYANNA;15:ALPAPRAANA JAYANNA;15:MAHAAPRAANA JAYANNA;15:TAALUJA NAASIKYAYA",
    "23:SANYOOGA NAAKSIKYAYA;15:SANYAKA JAYANNA;15:ALPAPRAANA TTAYANNA;15:MAHAAPRAANA TTAYANNA",
    "15:ALPAPRAANA DDAYANNA;15:MAHAAPRAANA DDAYANNA;16:UURDHAJA NAYANNA;15:SANYAKA DDAYANNA",
    "15:ALPAPRAANA TAYANNA;15:MAHAAPRAANA TAYANNA;15:ALPAPRAANA DAYANNA;15:MAHAAPRAANA DAYANNA",
    "15:DANTAJA NAYANNA;;SINHALA LETTER SANYAKA DAYANNA;15:ALPAPRAANA PAYANNA",
    "15:MAHAAPRAANA PAYANNA;15:ALPAPRAANA BAYANNA;15:MAHAAPRAANA BAYANNA;17:YANNA;15:AMBA BAYANNA",
    "15:YAYANNA;15:RAYANNA;;SINHALA LETTER DANTAJA LAYANNA;;;SINHALA LETTER VAYANNA",
    "15:TAALUJA SAYANNA;15:MUURDHAJA SAYANNA;15:DANTAJA SAYANNA;15:HAYANNA;15:MUURDHAJA LAYANNA",
    "15:FAYANNA;;;;SINHALA SIGN AL-LAKUNA;;;;;SINHALA VOWEL SIGN AELA-PILLA;19:KETTI AEDA-PILLA",
    "19:DIGA AEDA-PILLA;19:KETTI IS-PILLA;19:DIGA IS-PILLA;19:KETTI PAA-PILLA;",
    "SINHALA VOWEL SIGN DIGA PAA-PILLA;;SINHALA VOWEL SIGN GAETTA-PILLA;19:KOMBUVA",
    "19:DIGA KOMBUVA;19:KOMBU DEKA;24:VA HAA AELA-PILLA;31:DIGA AELA-PILLA;31:GAYANUKITTA",
    "19:GAYANUKITTA;;;;;;;SINHALA LITH DIGIT ZERO;19:ONE;19:TWO;20:HREE;19:FOUR;20:IVE;19:SIX",
    "20:EVEN;19:EIGHT;19:NINE;;;SINHALA VOWEL SIGN DIGA GAETTA-PILLA;26:YANUKITTA",
    "8:PUNCTUATION KUNDDALIYA;;;;;;;;;;;;;THAI CHARACTER KO KAI;16:HO KHAI;21:UAT;21:WAI;21:ON",
    "19:RAKHANG;15:NGO NGU;15:CHO CHAN;21:ING;21:ANG;15:SO SO;15:CHO CHOE;15:YO YING;15:DO CHADA",
    "15:TO PATAK;16:HO THAN;19:NANGMONTHO;19:PHUTHAO;15:NO NEN;15:DO DEK;15:TO TAO;16:HO THUNG",
    "21:AHAN;21:ONG;15:NO NU;15:BO BAIMAI;15:PO PLA;16:HO PHUNG;15:FO FA;15:PHO PHAN;15:FO FAN",
    "15:PHO SAMPHAO;15:MO MA;15:YO YAK;15:RO RUA;16:U;15:LO LING;16:U;15:WO WAEN;15:SO SALA",
    "18:RUSI;18:SUA;15:HO HIP;15:LO CHULA;15:O ANG;15:HO NOKHUK;15:PAIYANNOI;15:SARA A",
    "15:MAI HAN-AKAT;15:SARA AA;21:M;20:I;21:I;20:UE;22:E;21:;21:U;15:PHINTHU;;;;",
    "THAI CURRENCY SYMBOL BAHT;6:HARACTER SARA E;20:AE;20:O;20:AI MAIMUAN;27:ALAI;15:LAKKHANGYAO",
    "15:MAIYAMOK;18:TAIKHU;18: EK;19:THO;20:RI;19:CHATTAWA;15:THANTHAKHAT;15:NIKHAHIT;15:YAMAKKAN",
    "15:FONGMAN;5:DIGIT ZERO;11:ONE;11:TWO;12:HREE;11:FOUR;12:IVE;11:SIX;12:EVEN;11:EIGHT;11:NINE",
    "5:CHARACTER ANGKHANKHU;15:KHOMUT;;;;;;;;;;;;;;;;;;;;;;;;;;;;;;;;;;;;;;LAO LETTER KO",
    "12:HO SUNG;;LAO LETTER KHO TAM;;LAO LETTER PALI GHA;11:NGO;11:CO;11:PALI CHA;11:SO TAM;",
    "LAO LETTER PALI JHA;11:NYO;11:PALI NYA;16:TTA;18:HA;16:DDA;18:HA;16:NNA;11:DO;11:TO",
    "12:HO SUNG;15:TAM;11:PALI DHA;11:NO;11:BO;11:PO;12:HO SUNG;11:FO TAM;11:PHO TAM;11:FO SUNG",
    "11:PALI BHA;11:MO;11:YO;11:LO LING;;LAO LETTER LO LOOT;;LAO LETTER WO;11:SANSKRIT SHA;21:SA",
    "12:O SUNG;11:HO SUNG;11:PALI LLA;11:O;11:HO TAM;4:ELLIPSIS;4:VOWEL SIGN A;15:MAI KAN;15:AA",
    "16:M;15:I;16:I;15:Y;16:Y;15:U;16:U;4:SIGN PALI VIRAMA;4:VOWEL SIGN MAI KON",
    "4:SEMIVOWEL SIGN LO;19:NYO;;;LAO VOWEL SIGN E;16:I;15:O;15:AY;16:I;;LAO KO LA;",
    "LAO TONE MAI EK;13:THO;14:I;13:CATAWA;4:CANCELLATION MARK;4:NIGGAHITA;4:YAMAKKAN;",
    "LAO DIGIT ZERO;10:ONE;10:TWO;11:HREE;10:FOUR;11:IVE;10:SIX;11:EVEN;10:EIGHT;10:NINE;;",
    "LAO HO NO;7:MO;4:LETTER KHMU GO;16:NYO;;;;;;;;;;;;;;;;;;;;;;;;;;;;;;;;;TIBETAN SYLLABLE OM",
    "8:MARK GTER YIG MGO TRUNCATED A;26:-UM RNAM BCAD MA;30:GTER TSHEG MA",
    "13:INITIAL YIG MGO MDUN MA;13:CLOSING YIG MGO SGAB MA;14:ARET YIG MGO PHUR SHAD MA",
    "13:YIG MGO TSHEG SHAD MA;13:SBRUL SHAD;13:BSKUR YIG MGO;14:KA- SHOG YIG MGO",
    "13:INTERSYLLABIC TSHEG;13:DELIMITER TSHEG BSTAR;13:SHAD;13:NYIS SHAD;13:TSHEG SHAD",
    "13:NYIS TSHEG SHAD;13:RIN CHEN SPUNGS SHAD;14:GYA GRAM SHAD;13:CARET -DZUD RTAGS ME LONG CAN",
    "13:GTER TSHEG;8:LOGOTYPE SIGN CHAD RTAGS;22:LHAG RTAGS",
    "8:ASTROLOGICAL SIGN SGRA GCAN -CHAR RTAGS;26:-KHYUD PA;26:SDONG TSHUGS;8:SIGN RDEL DKAR GCIG",
    "24:NYIS;24:SUM;18:NAG GCIG;23:NYIS;18:DKAR RDEL NAG;8:DIGIT ZERO;14:ONE;14:TWO;15:HREE",
    "14:FOUR;15:IVE;14:SIX;15:EVEN;14:EIGHT;14:NINE;14:HALF ONE;19:TWO;20:HREE;19:FOUR;20:IVE",
    "19:SIX;20:EVEN;19:EIGHT;19:NINE;19:ZERO;8:MARK BSDUS RTAGS;13:NGAS BZUNG NYI ZLA",
    "13:CARET -DZUD RTAGS BZHI MIG CAN;13:NGAS BZUNG SGOR RTAGS;13:CHE MGO;13:TSA -PHRU",
    "13:GUG RTAGS GYON;25:AS;13:ANG KHANG GYON;25:AS;8:SIGN YAR TSHES;13:MAR TSHES;8:LETTER KA",
    "16:HA;15:GA;16:HA;15:NGA;15:CA;16:HA;15:JA;;TIBETAN LETTER NYA;15:TTA;17:HA;15:DDA;17:HA",
    "15:NNA;15:TA;16:HA;15:DA;16:HA;15:NA;15:PA;16:HA;15:BA;16:HA;15:MA;15:TSA;17:HA;15:DZA;17:HA",
    "15:WA;15:ZHA;16:A;15:-A;15:YA;15:RA;15:LA;15:SHA;16:SA;16:A;15:HA;15:A;15:KSSA",
    "15:FIXED-FORM RA;15:KKA;15:RRA;;;;;TIBETAN VOWEL SIGN AA;19:I;20:I;19:U;20:U;19:VOCALIC R",
    "28:R;27:L;28:L;19:E;20:E;19:O;20:O;8:SIGN RJES SU NGA RO;14:NAM BCAD;8:VOWEL SIGN REVERSED I",
    "29:I;8:SIGN NYI ZLA NAA DA;13:SNA LDAN;8:MARK HALANTA;13:PALUTA;8:SIGN LCI RTAGS",
    "13:YANG RTAGS;13:LCE TSA CAN;13:MCHU CAN;13:GRU CAN RGYINGS;17:MED RGYINGS",
    "13:INVERTED MCHU CAN;9:UBJOINED SIGN LCE TSA CAN;23:MCHU CAN;23:INVERTED MCHU CAN",
    "18:LETTER KA;26:HA;25:GA;26:HA;25:NGA;25:CA;26:HA;25:JA;;TIBETAN SUBJOINED LETTER NYA;25:TTA",
    "27:HA;25:DDA;27:HA;25:NNA;25:TA;26:HA;25:DA;26:HA;25:NA;25:PA;26:HA;25:BA;26:HA;25:MA;25:TSA",
    "27:HA;25:DZA;27:HA;25:WA;25:ZHA;26:A;25:-A;25:YA;25:RA;25:LA;25:SHA;26:SA;26:A;25:HA;25:A",
    "25:KSSA;25:FIXED-FORM WA;36:YA;36:RA;;TIBETAN KU RU KHA;17: BZHI MIG CAN",
    "8:CANTILLATION SIGN HEAVY BEAT;26:LIGHT BEAT;26:CANG TE-U;26:SBUB -CHAL;8:SYMBOL DRIL BU",
    "15:RDO RJE;15:PADMA GDAN;15:RDO RJE RGYA GRAM;15:PHUR PA;15:NOR BU;21: NYIS -KHYIL",
    "22:GSUM -KHYIL;22:BZHI -KHYIL;;TIBETAN SIGN RDEL NAG RDEL DKAR;22:GSUM",
    "8:MARK BSKA- SHOG GI MGO RGYAN;13:MNYAM YIG GI MGO RGYAN;13:NYIS TSHEG",
    "13:INITIAL BRDA RNYING YIG MGO MDUN MA;13:CLOSING BRDA RNYING YIG MGO SGAB MA",
    "RIGHT-FACING SVASTI SIGN;LEFT-FACING SVASTI SIGN;RIGHT-FACING SVASTI SIGN WITH DOTS",
    "LEFT-FACING SVASTI SIGN WITH DOTS;TIBETAN MARK LEADING MCHAN RTAGS;13:TRAILING MCHAN RTAGS;;",
    ";;;;;;;;;;;;;;;;;;;;;;;;;;;;;;;;;;;MYANMAR LETTER KA;16:HA;15:GA;16:HA;15:NGA;15:CA;16:HA",
    "15:JA;16:HA;15:NYA;16:NYA;15:TTA;17:HA;15:DDA;17:HA;15:NNA;15:TA;16:HA;15:DA;16:HA;15:NA",
    "15:PA;16:HA;15:BA;16:HA;15:MA;15:YA;15:RA;15:LA;15:WA;15:SA;15:HA;15:LLA;15:A;15:SHAN A;15:I",
    "16:I;15:U;16:U;15:E;15:MON E;15:O;15:AU;8:VOWEL SIGN TALL AA;19:AA;19:I;20:I;19:U;20:U;19:E",
    "19:AI;19:MON II;23:O;19:E ABOVE;8:SIGN ANUSVARA;13:DOT BELOW;13:VISARGA;15:RAMA;13:ASAT",
    "8:CONSONANT SIGN MEDIAL YA;30:RA;30:WA;30:HA;8:LETTER GREAT SA;8:DIGIT ZERO;14:ONE;14:TWO",
    "15:HREE;14:FOUR;15:IVE;14:SIX;15:EVEN;14:EIGHT;14:NINE;8:SIGN LITTLE SECTION;13:SECTION",
    "9:YMBOL LOCATIVE;15:COMPLETED;15:AFOREMENTIONED;15:GENITIVE;8:LETTER SHA;16:SA;15:VOCALIC R",
    "24:R;23:L;24:L;8:VOWEL SIGN VOCALIC R;28:R"]),
  (0x1058, [
    "MYANMAR VOWEL SIGN VOCALIC L;28:L;8:LETTER MON NGA;19:JHA;19:BBA;21:E",
    "8:CONSONANT SIGN MON MEDIAL NA;34:MA;34:LA;8:LETTER SGAW KAREN SHA",
    "8:VOWEL SIGN SGAW KAREN EU;8:TONE MARK SGAW KAREN HATHI;29:KE PHO",
    "8:LETTER WESTERN PWO KAREN THA;33:PWA;8:VOWEL SIGN WESTERN PWO KAREN EU;37:UE",
    "8:SIGN WESTERN PWO KAREN TONE-1;36:2;36:3;36:4;36:5;8:LETTER EASTERN PWO KAREN NNA;33:YWA",
    "33:GHWA;8:VOWEL SIGN GEBA KAREN I;19:KAYAH OE;25:U;25:EE;8:LETTER SHAN KA;21:HA;20:GA;20:CA",
    "20:ZA;20:NYA;20:DA;20:NA;20:PHA;20:FA;20:BA;20:THA;20:HA;8:CONSONANT SIGN SHAN MEDIAL WA",
    "8:VOWEL SIGN SHAN AA;24:E;25: ABOVE;24:FINAL Y;8:SIGN SHAN TONE-2;23:3;23:5;23:6",
    "18:COUNCIL TONE-2;31:3;26:EMPHATIC TONE;8:LETTER RUMAI PALAUNG FA",
    "8:SIGN RUMAI PALAUNG TONE-5;9:HAN DIGIT ZERO;19:ONE;19:TWO;20:HREE;19:FOUR;20:IVE;19:SIX",
    "20:EVEN;19:EIGHT;19:NINE;9:IGN KHAMTI TONE-1;25:3;8:VOWEL SIGN AITON A;26:I",
    "8:SYMBOL SHAN ONE;20:EXCLAMATION;GEORGIAN CAPITAL LETTER AN;24:BAN;24:GAN;24:DON;24:EN",
    "24:VIN;24:ZEN;24:TAN;24:IN;24:KAN;24:LAS;24:MAN;24:NAR;24:ON;24:PAR;24:ZHAR;24:RAE;24:SAN",
    "24:TAR;24:UN;24:PHAR;24:KHAR;24:GHAN;24:QAR;24:SHIN;24:CHIN;25:AN;24:JIL;24:CIL;25:HAR",
    "24:XAN;24:JHAN;24:HAE;25:E;25:IE;24:WE;24:HAR;25:OE;;GEORGIAN CAPITAL LETTER YN;;;;;",
    "GEORGIAN CAPITAL LETTER AEN;;;GEORGIAN LETTER AN;16:BAN;16:GAN;16:DON;16:EN;16:VIN;16:ZEN",
    "16:TAN;16:IN;16:KAN;16:LAS;16:MAN;16:NAR;16:ON;16:PAR;16:ZHAR;16:RAE;16:SAN;16:TAR;16:UN",
    "16:PHAR;16:KHAR;16:GHAN;16:QAR;16:SHIN;16:CHIN;17:AN;16:JIL;16:CIL;17:HAR;16:XAN;16:JHAN",
    "16:HAE;17:E;17:IE;16:WE;16:HAR;17:OE;16:FI;16:YN;16:ELIFI;16:TURNED GAN;16:AIN",
    "9:PARAGRAPH SEPARATOR;MODIFIER LETTER GEORGIAN NAR;GEORGIAN LETTER AEN;16:HARD SIGN",
    "16:LABIAL SIGN;HANGUL CHOSEONG KIYEOK;16:SSANGKIYEOK;16:NIEUN;16:TIKEUT;16:SSANGTIKEUT",
    "16:RIEUL;16:MIEUM;16:PIEUP;16:SSANGPIEUP;17:IOS;17:SANGSIOS;16:IEUNG;16:CIEUC;16:SSANGCIEUC",
    "16:CHIEUCH;16:KHIEUKH;16:THIEUTH;16:PHIEUPH;16:HIEUH;16:NIEUN-KIYEOK;16:SSANGNIEUN",
    "16:NIEUN-TIKEUT;22:PIEUP;16:TIKEUT-KIYEOK;16:RIEUL-NIEUN;16:SSANGRIEUL;16:RIEUL-HIEUH",
    "16:KAPYEOUNRIEUL;16:MIEUM-PIEUP;16:KAPYEOUNMIEUM;16:PIEUP-KIYEOK;22:NIEUN;22:TIKEUT;22:SIOS",
    "26:-KIYEOK;27:TIKEUT;27:PIEUP;23:SANGSIOS;23:IOS-CIEUC;22:CIEUC;23:HIEUCH;22:THIEUTH",
    "22:PHIEUPH;16:KAPYEOUNPIEUP;24:SSANGPIEUP;16:SIOS-KIYEOK;21:NIEUN;21:TIKEUT;21:RIEUL",
    "21:MIEUM;21:PIEUP;26:-KIYEOK;21:SSANGSIOS;21:IEUNG;21:CIEUC;22:HIEUCH;21:KHIEUKH;21:THIEUTH",
    "21:PHIEUPH;21:HIEUH;16:CHITUEUMSIOS;25:SANGSIOS;17:EONGCHIEUMSIOS;28:SANGSIOS;16:PANSIOS",
    "16:IEUNG-KIYEOK;22:TIKEUT;22:MIEUM;22:PIEUP;22:SIOS;22:PANSIOS;16:SSANGIEUNG;16:IEUNG-CIEUC",
    "23:HIEUCH;22:THIEUTH;22:PHIEUPH;16:YESIEUNG;16:CIEUC-IEUNG;17:HITUEUMCIEUC;24:SSANGCIEUC",
    "17:EONGCHIEUMCIEUC;27:SSANGCIEUC;17:HIEUCH-KHIEUKH;24:HIEUH;19:TUEUMCHIEUCH",
    "17:EONGCHIEUMCHIEUCH;16:PHIEUPH-PIEUP;16:KAPYEOUNPHIEUPH;16:SSANGHIEUH;16:YEORINHIEUH",
    "16:KIYEOK-TIKEUT;16:NIEUN-SIOS;22:CIEUC;22:HIEUH;16:TIKEUT-RIEUL;16:FILLER",
    "7:JUNGSEONG FILLER;17:A;18:E;17:YA;19:E;17:EO;18:;17:YEO;19:;17:O;17:WA;19:E;17:OE;17:YO",
    "17:U;17:WEO;19:;18:I;17:YU;17:EU;17:YI;17:I;17:A-O;19:U;17:YA-O;20:YO;17:EO-O;20:U;20:EU",
    "17:YEO-O;21:U;17:O-EO;20:;19:YE;19:O;19:U;17:YO-YA;22:E;21:EO;20:O;20:I;17:U-A;20:E;19:EO-EU",
    "19:YE;19:U;17:YU-A;20:EO;21:;20:YEO;22:;20:U;20:I;17:EU-U;20:EU;17:YI-U;17:I-A;19:YA;19:O",
    "19:U;19:EU;19:ARAEA;17:ARAEA;22:-EO;23:U;23:I;17:SSANGARAEA;17:A-EU;17:YA-U;18:EO-YA;17:O-YA",
    "21:E;8:ONGSEONG KIYEOK;17:SSANGKIYEOK;17:KIYEOK-SIOS;17:NIEUN;22:-CIEUC;23:HIEUH;17:TIKEUT",
    "17:RIEUL;22:-KIYEOK;23:MIEUM;23:PIEUP;23:SIOS;23:THIEUTH;23:PHIEUPH;23:HIEUH;17:MIEUM",
    "17:PIEUP;22:-SIOS;17:SIOS;18:SANGSIOS;17:IEUNG;17:CIEUC;18:HIEUCH;17:KHIEUKH;17:THIEUTH",
    "17:PHIEUPH;17:HIEUH;17:KIYEOK-RIEUL;24:SIOS-KIYEOK;17:NIEUN-KIYEOK;23:TIKEUT;23:SIOS",
    "23:PANSIOS;23:THIEUTH;17:TIKEUT-KIYEOK;24:RIEUL;17:RIEUL-KIYEOK-SIOS;23:NIEUN;23:TIKEUT",
    "29:-HIEUH;17:SSANGRIEUL;17:RIEUL-MIEUM-KIYEOK;29:SIOS;23:PIEUP-SIOS;29:HIEUH",
    "23:KAPYEOUNPIEUP;23:SSANGSIOS;23:PANSIOS;23:KHIEUKH;23:YEORINHIEUH;17:MIEUM-KIYEOK;23:RIEUL",
    "23:PIEUP;23:SIOS;24:SANGSIOS;23:PANSIOS;23:CHIEUCH;23:HIEUH;17:KAPYEOUNMIEUM;17:PIEUP-RIEUL",
    "23:PHIEUPH;23:HIEUH;17:KAPYEOUNPIEUP;17:SIOS-KIYEOK;22:TIKEUT;22:RIEUL;22:PIEUP;17:PANSIOS",
    "17:IEUNG-KIYEOK;23:SSANGKIYEOK;17:SSANGIEUNG;17:IEUNG-KHIEUKH;17:YESIEUNG;25:-SIOS",
    "26:PANSIOS;17:PHIEUPH-PIEUP;17:KAPYEOUNPHIEUPH;17:HIEUH-NIEUN;23:RIEUL;23:MIEUM;23:PIEUP",
    "17:YEORINHIEUH;17:KIYEOK-NIEUN;24:PIEUP;24:CHIEUCH;24:KHIEUKH;24:HIEUH;17:SSANGNIEUN",
    "ETHIOPIC SYLLABLE HA;19:U;19:I;19:AA;19:EE;20:;19:O;20:A;18:LA;19:U;19:I;19:AA;19:EE;20:",
    "19:O;19:WA;18:HHA;20:U;20:I;20:AA;20:EE;21:;20:O;20:WA;18:MA;19:U;19:I;19:AA;19:EE;20:;19:O",
    "19:WA;18:SZA;20:U;20:I;20:AA;20:EE;21:;20:O;20:WA;18:RA;19:U;19:I;19:AA;19:EE;20:;19:O;19:WA",
    "18:SA;19:U;19:I;19:AA;19:EE;20:;19:O;19:WA;19:HA;20:U;20:I;20:AA;20:EE;21:;20:O;20:WA;18:QA",
    "19:U;19:I;19:AA;19:EE;20:;19:O;20:A;19:WA;;ETHIOPIC SYLLABLE QWI;20:AA;20:EE;21:;;",
    "ETHIOPIC SYLLABLE QHA;20:U;20:I;20:AA;20:EE;21:;20:O;;ETHIOPIC SYLLABLE QHWA;",
    "ETHIOPIC SYLLABLE QHWI;21:AA;21:EE;22:;;;ETHIOPIC SYLLABLE BA;19:U;19:I;19:AA;19:EE;20:;19:O",
    "19:WA;18:VA;19:U;19:I;19:AA;19:EE;20:;19:O;19:WA;18:TA;19:U;19:I;19:AA;19:EE;20:;19:O;19:WA",
    "18:CA;19:U;19:I;19:AA;19:EE;20:;19:O;19:WA;18:XA;19:U;19:I;19:AA;19:EE;20:;19:O;20:A;19:WA;",
    "ETHIOPIC SYLLABLE XWI;20:AA;20:EE;21:;;;ETHIOPIC SYLLABLE NA;19:U;19:I;19:AA;19:EE;20:;19:O",
    "19:WA;19:YA;20:U;20:I;20:AA;20:EE;21:;20:O;20:WA;18:GLOTTAL A;26:U;26:I;26:AA;26:EE;27:;26:O",
    "26:WA;18:KA;19:U;19:I;19:AA;19:EE;20:;19:O;20:A;19:WA;;ETHIOPIC SYLLABLE KWI;20:AA;20:EE;21:",
    ";;ETHIOPIC SYLLABLE KXA;20:U;20:I;20:AA;20:EE;21:;20:O;;ETHIOPIC SYLLABLE KXWA;",
    "ETHIOPIC SYLLABLE KXWI;21:AA;21:EE;22:;;;ETHIOPIC SYLLABLE WA;19:U;19:I;19:AA;19:EE;20:;19:O",
    "20:A;18:PHARYNGEAL A;29:U;29:I;29:AA;29:EE;30:;29:O;;ETHIOPIC SYLLABLE ZA;19:U;19:I;19:AA",
    "19:EE;20:;19:O;19:WA;19:HA;20:U;20:I;20:AA;20:EE;21:;20:O;20:WA;18:YA;19:U;19:I;19:AA;19:EE",
    "20:;19:O;20:A;18:DA;19:U;19:I;19:AA;19:EE;20:;19:O;19:WA;19:DA;20:U;20:I;20:AA;20:EE;21:",
    "20:O;20:WA;18:JA;19:U;19:I;19:AA;19:EE;20:;19:O;19:WA;18:GA;19:U;19:I;19:AA;19:EE;20:;19:O",
    "20:A;19:WA;;ETHIOPIC SYLLABLE GWI;20:AA;20:EE;21:;;;ETHIOPIC SYLLABLE GGA;20:U;20:I;20:AA",
    "20:EE;21:;20:O;20:WAA;18:THA;20:U;20:I;20:AA;20:EE;21:;20:O;20:WA;18:CHA;20:U;20:I;20:AA",
    "20:EE;21:;20:O;20:WA;18:PHA;20:U;20:I;20:AA;20:EE;21:;20:O;20:WA;18:TSA;20:U;20:I;20:AA",
    "20:EE;21:;20:O;20:WA;19:ZA;20:U;20:I;20:AA;20:EE;21:;20:O;21:A;18:FA;19:U;19:I;19:AA;19:EE",
    "20:;19:O;19:WA;18:PA;19:U;19:I;19:AA;19:EE;20:;19:O;19:WA;18:RYA;18:MYA;18:FYA;;",
    "ETHIOPIC COMBINING GEMINATION AND VOWEL LENGTH MARK;19:VOWEL LENGTH MARK;19:GEMINATION MARK",
    "9:SECTION MARK;9:WORDSPACE;9:FULL STOP;9:COMMA;9:SEMICOLON;9:COLON;9:PREFACE COLON",
    "9:QUESTION MARK;9:PARAGRAPH SEPARATOR;9:DIGIT ONE;15:TWO;16:HREE;15:FOUR;16:IVE;15:SIX",
    "16:EVEN;15:EIGHT;15:NINE;9:NUMBER TEN;17:WENTY;17:HIRTY;16:FORTY;17:IFTY;16:SIXTY;17:EVENTY",
    "16:EIGHTY;16:NINETY;16:HUNDRED;16:TEN THOUSAND;;;;ETHIOPIC SYLLABLE SEBATBEIT MWA;18:MWI",
    "20:EE;21:;18:SEBATBEIT BWA;18:BWI;20:EE;21:;18:SEBATBEIT FWA;18:FWI;20:EE;21:",
    "18:SEBATBEIT PWA;18:PWI;20:EE;21:;9:TONAL MARK YIZET;20:DERET;20:RIKRIK;20:SHORT RIKRIK",
    "20:DIFAT;20:KENAT;20:CHIRET;20:HIDET;20:DERET-HIDET;20:KURT;;;;;;;CHEROKEE LETTER A;16:E",
    "16:I;16:O;16:U;16:V;16:GA;16:KA;16:GE;17:I;17:O;17:U;17:V;16:HA;17:E;17:I;17:O;17:U;17:V",
    "16:LA;17:E;17:I;17:O;17:U;17:V;16:MA;17:E;17:I;17:O;17:U;16:NA;16:HNA;16:NAH;17:E;17:I;17:O",
    "17:U;17:V;16:QUA;18:E;18:I;18:O;18:U;18:V;16:SA;17:;17:E;17:I;17:O;17:U;17:V;16:DA;16:TA",
    "16:DE;16:TE;16:DI;16:TI;16:DO;17:U;17:V;17:LA;16:TLA;18:E;18:I;18:O;18:U;18:V;17:SA;18:E",
    "18:I;18:O;18:U;18:V;16:WA;17:E;17:I;17:O;17:U;17:V;16:YA;17:E;17:I;17:O;17:U;17:V;16:MV;;",
    "CHEROKEE SMALL LETTER YE;23:I;23:O;23:U;23:V;22:MV;;;CANADIAN SYLLABICS HYPHEN;19:E;19:AAI",
    "19:I;20:I;19:O;20:O;19:Y-CREE OO;19:CARRIER EE;27:I;19:A;20:A;19:WE;21:ST-CREE WE;20:I",
    "20:EST-CREE WI;20:II;20:EST-CREE WII;20:O;20:EST-CREE WO;20:OO;20:EST-CREE WOO",
    "19:NASKAPI WOO;19:WA;20:EST-CREE WA;20:AA;20:EST-CREE WAA;19:NASKAPI WAA;19:AI;19:Y-CREE W",
    "19:GLOTTAL STOP;19:FINAL ACUTE;25:GRAVE;25:BOTTOM HALF RING;25:TOP HALF RING",
    "25:RIGHT HALF RING;27:NG;25:DOUBLE ACUTE;32:SHORT VERTICAL STROKES;25:MIDDLE DOT",
    "25:SHORT HORIZONTAL STROKE;25:PLUS;25:DOWN TACK;19:EN;19:IN;19:ON;19:AN;19:PE;20:AAI;20:I",
    "21:I;20:O;21:O;19:Y-CREE POO;19:CARRIER HEE;28:I;19:PA;21:A;20:WE;19:WEST-CREE PWE;19:PWI",
    "19:WEST-CREE PWI;19:PWII;19:WEST-CREE PWII;19:PWO;19:WEST-CREE PWO;19:PWOO;19:WEST-CREE PWOO",
    "19:PWA;19:WEST-CREE PWA;19:PWAA;19:WEST-CREE PWAA;19:Y-CREE PWAA;19:P;19:WEST-CREE P",
    "19:CARRIER H;19:TE;20:AAI;20:I;21:I;20:O;21:O;19:Y-CREE TOO;19:CARRIER DEE;28:I;19:TA"]),
  (0x1456, [
    "CANADIAN SYLLABICS TAA;20:WE;19:WEST-CREE TWE;19:TWI;19:WEST-CREE TWI;19:TWII",
    "19:WEST-CREE TWII;19:TWO;19:WEST-CREE TWO;19:TWOO;19:WEST-CREE TWOO;19:TWA;19:WEST-CREE TWA",
    "19:TWAA;19:WEST-CREE TWAA;19:NASKAPI TWAA;19:T;20:TE;21:I;21:O;21:A;19:KE;20:AAI;20:I;21:I",
    "20:O;21:O;19:Y-CREE KOO;19:KA;21:A;20:WE;19:WEST-CREE KWE;19:KWI;19:WEST-CREE KWI;19:KWII",
    "19:WEST-CREE KWII;19:KWO;19:WEST-CREE KWO;19:KWOO;19:WEST-CREE KWOO;19:KWA;19:WEST-CREE KWA",
    "19:KWAA;19:WEST-CREE KWAA;19:NASKAPI KWAA;19:K;20:W;19:SOUTH-SLAVEY KEH;33:IH;33:OH;33:AH",
    "19:CE;20:AAI;20:I;21:I;20:O;21:O;19:Y-CREE COO;19:CA;21:A;20:WE;19:WEST-CREE CWE;19:CWI",
    "19:WEST-CREE CWI;19:CWII;19:WEST-CREE CWII;19:CWO;19:WEST-CREE CWO;19:CWOO;19:WEST-CREE CWOO",
    "19:CWA;19:WEST-CREE CWA;19:CWAA;19:WEST-CREE CWAA;19:NASKAPI CWAA;19:C;19:SAYISI TH;19:ME",
    "20:AAI;20:I;21:I;20:O;21:O;19:Y-CREE MOO;19:MA;21:A;20:WE;19:WEST-CREE MWE;19:MWI",
    "19:WEST-CREE MWI;19:MWII;19:WEST-CREE MWII;19:MWO;19:WEST-CREE MWO;19:MWOO;19:WEST-CREE MWOO",
    "19:MWA;19:WEST-CREE MWA;19:MWAA;19:WEST-CREE MWAA;19:NASKAPI MWAA;19:M;19:WEST-CREE M;19:MH",
    "19:ATHAPASCAN M;19:SAYISI M;19:NE;20:AAI;20:I;21:I;20:O;21:O;19:Y-CREE NOO;19:NA;21:A;20:WE",
    "19:WEST-CREE NWE;19:NWA;19:WEST-CREE NWA;19:NWAA;19:WEST-CREE NWAA;19:NASKAPI NWAA;20:",
    "19:CARRIER NG;19:NH;19:LE;20:AAI;20:I;21:I;20:O;21:O;19:Y-CREE LOO;19:LA;21:A;20:WE",
    "19:WEST-CREE LWE;19:LWI;19:WEST-CREE LWI;19:LWII;19:WEST-CREE LWII;19:LWO;19:WEST-CREE LWO",
    "19:LWOO;19:WEST-CREE LWOO;19:LWA;19:WEST-CREE LWA;19:LWAA;19:WEST-CREE LWAA;19:L",
    "19:WEST-CREE L;19:MEDIAL L;19:SE;20:AAI;20:I;21:I;20:O;21:O;19:Y-CREE SOO;19:SA;21:A;20:WE",
    "19:WEST-CREE SWE;19:SWI;19:WEST-CREE SWI;19:SWII;19:WEST-CREE SWII;19:SWO;19:WEST-CREE SWO",
    "19:SWOO;19:WEST-CREE SWOO;19:SWA;19:WEST-CREE SWA;19:SWAA;19:WEST-CREE SWAA;19:NASKAPI SWAA",
    "19:S;19:ATHAPASCAN S;19:SW;19:BLACKFOOT S;19:MOOSE-CREE SK;19:NASKAPI SKW;28:-W;28:PWA",
    "28:TWA;28:KWA;28:CWA;19:SHE;21:I;22:I;21:O;22:O;21:A;22:A;21:WE;19:WEST-CREE SHWE;19:SHWI",
    "19:WEST-CREE SHWI;19:SHWII;19:WEST-CREE SHWII;19:SHWO;19:WEST-CREE SHWO;19:SHWOO",
    "19:WEST-CREE SHWOO;19:SHWA;19:WEST-CREE SHWA;19:SHWAA;19:WEST-CREE SHWAA;19:SH;19:YE;20:AAI",
    "20:I;21:I;20:O;21:O;20:-CREE YOO;20:A;21:A;20:WE;19:WEST-CREE YWE;19:YWI;19:WEST-CREE YWI",
    "19:YWII;19:WEST-CREE YWII;19:YWO;19:WEST-CREE YWO;19:YWOO;19:WEST-CREE YWOO;19:YWA",
    "19:WEST-CREE YWA;19:YWAA;19:WEST-CREE YWAA;19:NASKAPI YWAA;19:Y;19:BIBLE-CREE Y",
    "19:WEST-CREE Y;19:SAYISI YI;19:RE;20:-CREE RE;19:WEST-CREE LE;19:RAAI;20:I;21:I;20:O;21:O",
    "19:WEST-CREE LO;19:RA;21:A;19:WEST-CREE LA;19:RWAA;19:WEST-CREE RWAA;19:R;19:WEST-CREE R",
    "19:MEDIAL R;19:FE;20:AAI;20:I;21:I;20:O;21:O;20:A;21:A;20:WAA;19:WEST-CREE FWAA;19:F;19:THE",
    "19:N-CREE THE;19:THI;19:N-CREE THI;19:THII;19:N-CREE THII;19:THO;22:O;21:A;22:A;21:WAA",
    "19:WEST-CREE THWAA;19:TH;20:THE;22:I;22:O;22:A;22:;20:YE;21:I;21:O;21:A;19:NUNAVIK HE;28:I",
    "29:I;28:O;29:O;28:A;29:A;28:;24:UT H;19:HK;19:QAAI;20:I;21:I;20:O;21:O;20:A;21:A;20:;19:TLHE",
    "22:I;22:O;22:A;19:WEST-CREE RE;30:I;30:O;30:A;19:NGAAI;21:I;22:I;21:O;22:O;21:A;22:A;21:",
    "20:NG;19:SAYISI SHE;28:I;28:O;28:A;19:WOODS-CREE THE;32:I;32:O;32:A;32:;19:LHI;22:I;21:O",
    "22:O;21:A;22:A;21:;19:TH-CREE THE;29:I;30:I;29:O;30:O;29:A;30:A;29:;19:AIVILIK B",
    "19:BLACKFOOT E;29:I;29:O;29:A;29:WE;30:I;30:O;30:A;29:NE;30:I;30:O;30:A;29:KE;30:I;30:O;30:A",
    "19:SAYISI HE;27:I;27:O;27:A;19:CARRIER GHU;29:O;29:E;30:E;29:I;29:A;27:RU;28:O;28:E;29:E",
    "28:I;28:A;27:WU;28:O;28:E;29:E;28:I;28:A;27:HWU;29:O;29:E;30:E;29:I;29:A;27:THU;29:O;29:E",
    "30:E;29:I;29:A;28:TU;29:O;29:E;30:E;29:I;29:A;27:PU;28:O;28:E;29:E;28:I;28:A;28:;27:GU;28:O",
    "28:E;29:E;28:I;28:A;27:KHU;29:O;29:E;30:E;29:I;29:A;28:KU;29:O;29:E;30:E;29:I;29:A;29:;27:NU",
    "28:O;28:E;29:E;28:I;28:A;27:MU;28:O;28:E;29:E;28:I;28:A;27:YU;28:O;28:E;29:E;28:I;28:A;27:JU",
    "19:SAYISI JU;19:CARRIER JO;28:E;29:E;28:I;19:SAYISI JI;19:CARRIER JA;28:JU;29:O;29:E;30:E",
    "29:I;29:A;27:LU;28:O;28:E;29:E;28:I;28:A;27:DLU;29:O;29:E;30:E;29:I;29:A;27:LHU;29:O;29:E",
    "30:E;29:I;29:A;27:TLHU;30:O;30:E;31:E;30:I;30:A;29:U;29:O;29:E;30:E;29:I;29:A;27:ZU;28:O",
    "28:E;29:E;28:I;28:A;28:;27:INITIAL Z;27:DZU;29:O;29:E;30:E;29:I;29:A;27:SU;28:O;28:E;29:E",
    "28:I;28:A;28:HU;29:O;29:E;30:E;29:I;29:A;29:;27:TSU;29:O;29:E;30:E;29:I;29:A;27:CHU;29:O",
    "29:E;30:E;29:I;29:A;27:TTSU;30:O;30:E;31:E;30:I;30:A;20:HI SIGN;19:FULL STOP;19:QAI;19:NGAI",
    "20:NGI;23:I;22:O;23:O;22:A;23:A;19:WOODS-CREE THWEE;33:I;34:I;33:O;34:O;33:A;34:A",
    "30:FINAL TH;19:BLACKFOOT W;OGHAM SPACE MARK;6:LETTER BEITH;13:LUIS;13:FEARN;13:SAIL;13:NION",
    "13:UATH;13:DAIR;13:TINNE;13:COLL;14:EIRT;13:MUIN;13:GORT;13:NGEADAL;13:STRAIF;13:RUIS",
    "13:AILM;13:ONN;13:UR;13:EADHADH;13:IODHADH;13:EABHADH;13:OR;13:UILLEANN;13:IFIN",
    "13:EAMHANCHOLL;13:PEITH;6:FEATHER MARK;6:REVERSED FEATHER MARK;;;",
    "RUNIC LETTER FEHU FEOH FE F;13:V;13:URUZ UR U;13:YR;14:;13:W;13:THURISAZ THURS THORN;13:ETH",
    "13:ANSUZ A;13:OS O;13:AC A;14:ESC;13:LONG-BRANCH-OSS O;13:SHORT-TWIG-OSS O;13:O;14:E;14:N",
    "13:RAIDO RAD REID R;13:KAUNA;13:CEN;13:KAUN K;13:G;13:ENG;13:GEBO GYFU G;14:AR",
    "13:WUNJO WYNN W;13:HAGLAZ H;15:EGL H;13:LONG-BRANCH-HAGALL H;13:SHORT-TWIG-HAGALL H",
    "13:NAUDIZ NYD NAUD N;13:SHORT-TWIG-NAUD N;13:DOTTED-N;13:ISAZ IS ISS I;13:E;13:JERAN J",
    "13:GER;13:LONG-BRANCH-AR AE;13:SHORT-TWIG-AR A;13:IWAZ EOH;13:PERTHO PEORTH P;13:ALGIZ EOLHX",
    "13:SOWILO S;14:IGEL LONG-BRANCH-SOL S;14:HORT-TWIG-SOL S;13:C;13:Z;13:TIWAZ TIR TYR T",
    "13:SHORT-TWIG-TYR T;13:D;13:BERKANAN BEORC BJARKAN B;13:SHORT-TWIG-BJARKAN B;13:DOTTED-P",
    "13:OPEN-P;13:EHWAZ EH E;13:MANNAZ MAN M;13:LONG-BRANCH-MADR M;13:SHORT-TWIG-MADR M",
    "13:LAUKAZ LAGU LOGR L;13:DOTTED-L;13:INGWAZ;16:;13:DAGAZ DAEG D;13:OTHALAN ETHEL O;13:EAR",
    "13:IOR;13:CWEORTH;14:ALC;14:EALC;13:STAN;13:LONG-BRANCH-YR;13:SHORT-TWIG-YR;13:ICELANDIC-YR",
    "13:Q;13:X;6:SINGLE PUNCTUATION;6:MULTIPLE PUNCTUATION;6:CROSS PUNCTUATION;6:ARLAUG SYMBOL",
    "6:TVIMADUR SYMBOL;6:BELGTHOR SYMBOL;6:LETTER K;13:SH;13:OO;13:FRANKS CASKET OS;27:IS;27:EH",
    "27:AC;28:ESC;;;;;;;;TAGALOG LETTER A;15:I;15:U;15:KA;15:GA;15:NGA;15:TA;15:DA;15:NA;15:PA",
    "15:BA;15:MA;15:YA;15:RA;15:LA;15:WA;15:SA;15:HA;8:VOWEL SIGN I;19:U;8:SIGN VIRAMA",
    "13:PAMUDPOD;;;;;;;;;;TAGALOG LETTER ARCHAIC RA;HANUNOO LETTER A;15:I;15:U;15:KA;15:GA;15:NGA",
    "15:TA;15:DA;15:NA;15:PA;15:BA;15:MA;15:YA;15:RA;15:LA;15:WA;15:SA;15:HA;8:VOWEL SIGN I;19:U",
    "8:SIGN PAMUDPOD;PHILIPPINE SINGLE PUNCTUATION;11:DOUBLE PUNCTUATION;;;;;;;;;;BUHID LETTER A",
    "13:I;13:U;13:KA;13:GA;13:NGA;13:TA;13:DA;13:NA;13:PA;13:BA;13:MA;13:YA;13:RA;13:LA;13:WA",
    "13:SA;13:HA;6:VOWEL SIGN I;17:U;;;;;;;;;;;;;TAGBANWA LETTER A;16:I;16:U;16:KA;16:GA;16:NGA",
    "16:TA;16:DA;16:NA;16:PA;16:BA;16:MA;16:YA;;TAGBANWA LETTER LA;16:WA;16:SA;",
    "TAGBANWA VOWEL SIGN I;20:U;;;;;;;;;;;;;KHMER LETTER KA;14:HA;14:O;14:HO;13:NGO;13:CA;14:HA",
    "14:O;14:HO;13:NYO;13:DA;13:TTHA;13:DO;13:TTHO;13:NNO;13:TA;14:HA;14:O;14:HO;13:NO;13:BA",
    "13:PHA;14:O;14:HO;13:MO;13:YO;13:RO;13:LO;13:VO;13:SHA;14:SO;14:A;13:HA;13:LA;13:QA",
    "6:INDEPENDENT VOWEL QAQ;26:A;25:I;26:I;25:U;26:K;26:U;27:V;24:RY;26:Y;24:LY;26:Y;24:QE;25:AI",
    "25:OO TYPE ONE;33:TWO;25:AU;6:VOWEL INHERENT AQ;22:A;12:SIGN AA;17:I;18:I;17:Y;18:Y;17:U",
    "18:U;18:A;17:OE;17:YA;17:IE;17:E;17:AE;18:I;17:OO;17:AU;6:SIGN NIKAHIT;11:REAHMUK",
    "11:YUUKALEAPINTU;11:MUUSIKATOAN;11:TRIISAP;11:BANTOC;11:ROBAT;11:TOANDAKHIAT;11:KAKABAT",
    "11:AHSDA;11:SAMYOK SANNYA;11:VIRIAM;11:COENG;11:BATHAMASAT;11:KHAN;11:BARIYOOSAN",
    "11:CAMNUC PII KUUH;11:LEK TOO;11:BEYYAL;11:PHNAEK MUAN;11:KOOMUUT;6:CURRENCY SYMBOL RIEL",
    "6:SIGN AVAKRAHASANYA;12:TTHACAN;;;KHMER DIGIT ZERO;12:ONE;12:TWO;13:HREE;12:FOUR;13:IVE",
    "12:SIX;13:EVEN;12:EIGHT;12:NINE;;;;;;;KHMER SYMBOL LEK ATTAK SON;23:MUOY;23:PII;23:BEI",
    "24:UON;23:PRAM;27:-MUOY;28:PII;28:BEI;29:UON;;;;;;;MONGOLIAN BIRGA;10:ELLIPSIS;10:COMMA",
    "10:FULL STOP;10:COLON;10:FOUR DOTS;10:TODO SOFT HYPHEN;10:SIBE SYLLABLE BOUNDARY MARKER",
    "10:MANCHU COMMA;17:FULL STOP;10:NIRUGU;10:FREE VARIATION SELECTOR ONE;34:TWO;35:HREE",
    "10:VOWEL SEPARATOR;10:FREE VARIATION SELECTOR FOUR;10:DIGIT ZERO;16:ONE;16:TWO;17:HREE",
    "16:FOUR;17:IVE;16:SIX;17:EVEN;16:EIGHT;16:NINE;;;;;;;MONGOLIAN LETTER A;17:E;17:I;17:O;17:U",
    "17:OE;17:UE;17:EE;17:NA;17:ANG;17:BA;17:PA;17:QA;17:GA;17:MA;17:LA;17:SA;18:HA;17:TA;17:DA",
    "17:CHA;17:JA;17:YA;17:RA;17:WA;17:FA;17:KA;18:HA;17:TSA;17:ZA;17:HAA;17:ZRA;17:LHA;17:ZHI",
    "17:CHI;17:TODO LONG VOWEL SIGN;22:E;22:I;22:O;22:U;22:OE;22:UE;22:ANG;22:BA;22:PA;22:QA",
    "22:GA;22:MA;22:TA;22:DA"]),
  (0x1852, [
    "MONGOLIAN LETTER TODO CHA;22:JA;22:TSA;22:YA;22:WA;22:KA;22:GAA;22:HAA;22:JIA;22:NIA;22:DZA",
    "17:SIBE E;22:I;23:Y;22:UE;23:;22:ANG;22:KA;22:GA;22:HA;22:PA;22:SHA;22:TA;22:DA;22:JA;22:FA",
    "22:GAA;22:HAA;22:TSA;22:ZA;22:RAA;22:CHA;22:ZHA;17:MANCHU I;24:KA;24:RA;24:FA;24:ZHA",
    "17:CHA WITH TWO DOTS;;;;;;;;MONGOLIAN LETTER ALI GALI ANUSVARA ONE;26:VISARGA ONE;26:DAMARU",
    "26:UBADAMA;26:INVERTED UBADAMA;26:BALUDA;26:THREE BALUDA;26:A;26:I;26:KA;26:NGA;26:CA;26:TTA",
    "28:HA;26:DDA;26:NNA;26:TA;26:DA;26:PA;27:HA;26:SSA;26:ZHA;27:A;26:AH;17:TODO ALI GALI TA",
    "31:ZHA;17:MANCHU ALI GALI GHA;33:NGA;33:CA;33:JHA;33:TTA;33:DDHA;33:TA;33:DHA;33:SSA;33:CYA",
    "33:ZHA;34:A;17:ALI GALI HALF U;31:YA;17:MANCHU ALI GALI BHA;17:ALI GALI DAGALGA",
    "17:MANCHU ALI GALI LHA;;;;;;CANADIAN SYLLABICS OY;19:AY;20:AY;19:WAY;19:POY;20:AY;20:WOY",
    "19:TAY;19:KAY;20:WAY;19:MAY;19:NOY;20:AY;19:LAY;19:SOY;20:AY;20:HOY;21:AY;21:WOY;19:YOY",
    "20:AY;19:RAY;19:NWI;19:OJIBWAY NWI;19:NWII;19:OJIBWAY NWII;19:NWO;19:OJIBWAY NWO;19:NWOO",
    "19:OJIBWAY NWOO;19:RWEE;21:I;22:I;21:O;22:O;21:A;19:OJIBWAY P;27:T;27:K;27:C;27:M;27:N;27:S",
    "28:H;19:EASTERN W;19:WESTERN W;19:FINAL SMALL RING;25:RAISED DOT;19:R-CREE RWE",
    "19:WEST-CREE LOO;30:AA;19:THWE;22:A;20:THWE;22:OO;22:AA;20:LHWE;22:OO;19:SAYISI SHWE;28:OO",
    "26:HOO;19:CARRIER GWU;27:DENE GEE;27:GAA;28:WA;19:SAYISI JUU;19:CARRIER JWA;19:BEAVER DENE L",
    "31:R;19:CARRIER DENTAL S;;;;;;;;;;;LIMBU VOWEL-CARRIER LETTER;6:LETTER KA;14:HA;13:GA;14:HA",
    "13:NGA;13:CA;14:HA;13:JA;14:HA;13:YAN;13:TA;14:HA;13:DA;14:HA;13:NA;13:PA;14:HA;13:BA;14:HA",
    "13:MA;13:YA;13:RA;13:LA;13:WA;13:SHA;14:SA;14:A;13:HA;13:GYAN;13:TRA;;LIMBU VOWEL SIGN A",
    "17:I;17:U;17:EE;17:AI;17:OO;17:AU;17:E;17:O;6:SUBJOINED LETTER YA;23:RA;23:WA;;;;",
    "LIMBU SMALL LETTER KA;19:NGA;19:ANUSVARA;19:TA;19:NA;19:PA;19:MA;19:RA;19:LA;7:IGN MUKPHRENG",
    "11:KEMPHRENG;11:SA-I;;;;;LIMBU SIGN LOO;;;;LIMBU EXCLAMATION MARK;6:QUESTION MARK",
    "6:DIGIT ZERO;12:ONE;12:TWO;13:HREE;12:FOUR;13:IVE;12:SIX;13:EVEN;12:EIGHT;12:NINE",
    "TAI LE LETTER KA;14:XA;14:NGA;14:TSA;14:SA;14:YA;14:TA;15:HA;14:LA;14:PA;15:HA;14:MA;14:FA",
    "14:VA;14:HA;14:QA;14:KHA;14:TSHA;14:NA;14:A;14:I;14:EE;15:H;14:U;14:OO;15:;14:UE;14:E;14:AUE",
    "15:I;;;TAI LE LETTER TONE-2;19:3;19:4;19:5;19:6;;;;;;;;;;;;NEW TAI LUE LETTER HIGH QA",
    "19:LOW QA;19:HIGH KA;24:XA;24:NGA;19:LOW KA;23:XA;23:NGA;19:HIGH TSA;24:SA;24:YA;19:LOW TSA",
    "23:SA;23:YA;19:HIGH TA;25:HA;24:NA;19:LOW TA;24:HA;23:NA;19:HIGH PA;25:HA;24:MA;19:LOW PA",
    "24:HA;23:MA;19:HIGH FA;24:VA;24:LA;19:LOW FA;23:VA;23:LA;19:HIGH HA;24:DA;24:BA;19:LOW HA",
    "23:DA;23:BA;19:HIGH KVA;24:XVA;19:LOW KVA;23:XVA;19:HIGH SUA;19:LOW SUA;;;;",
    "NEW TAI LUE VOWEL SIGN VOWEL SHORTENER;23:AA;23:II;23:U;24:U;23:E;23:AE;23:O;24:A;23:UE",
    "23:AY;24:AY;23:UY;23:OY;24:AY;23:UEY;23:IY;12:LETTER FINAL V;25:NG;26:;25:M;25:K;25:D;25:B",
    "12:TONE MARK-1;22:2;;;;;;;NEW TAI LUE DIGIT ZERO;18:ONE;18:TWO;19:HREE;18:FOUR;19:IVE;18:SIX",
    "19:EVEN;18:EIGHT;18:NINE;12:THAM DIGIT ONE;;;;NEW TAI LUE SIGN LAE;20:V",
    "KHMER SYMBOL PATHAMASAT;13:MUOY KOET;13:PII KOET;13:BEI KOET;14:UON KOET;13:PRAM KOET",
    "17:-MUOY KOET;18:PII KOET;18:BEI KOET;19:UON KOET;13:DAP KOET;16:-MUOY KOET;17:PII KOET",
    "17:BEI KOET;18:UON KOET;17:PRAM KOET;13:TUTEYASAT;13:MUOY ROC;13:PII ROC;13:BEI ROC",
    "14:UON ROC;13:PRAM ROC;17:-MUOY ROC;18:PII ROC;18:BEI ROC;19:UON ROC;13:DAP ROC;16:-MUOY ROC",
    "17:PII ROC;17:BEI ROC;18:UON ROC;17:PRAM ROC;BUGINESE LETTER KA;16:GA;16:NGA;18:KA;16:PA",
    "16:BA;16:MA;17:PA;16:TA;16:DA;16:NA;17:RA;16:CA;16:JA;16:NYA;18:CA;16:YA;16:RA;16:LA;16:VA",
    "16:SA;16:A;16:HA;9:VOWEL SIGN I;20:U;20:E;20:O;20:AE;;;BUGINESE PALLAWA;9:END OF SECTION",
    "TAI THAM LETTER HIGH KA;22:HA;22:XA;16:LOW KA;21:XA;21:HA;16:NGA;16:HIGH CA;22:HA;16:LOW CA",
    "20:SA;20:CHA;16:NYA;16:RATA;16:HIGH RATHA;16:DA;16:LOW RATHA;16:RANA;16:HIGH TA;22:HA",
    "16:LOW TA;21:HA;16:NA;16:BA;16:HIGH PA;22:HA;21:FA;16:LOW PA;20:FA;20:PHA;16:MA;16:LOW YA",
    "16:HIGH YA;16:RA;17:UE;16:LA;17:UE;16:WA;16:HIGH SHA;22:SA;22:A;21:HA;16:LLA;16:A;16:LOW HA",
    "16:I;17:I;16:U;17:U;16:EE;16:OO;16:LAE;16:GREAT SA;9:CONSONANT SIGN MEDIAL RA;31:LA",
    "24:LA TANG LAI;9:SIGN MAI KANG LAI;9:CONSONANT SIGN FINAL NGA;24:LOW PA",
    "24:HIGH RATHA OR LOW PA;24:MA;24:BA;24:SA;;TAI THAM SIGN SAKOT;9:VOWEL SIGN A;20:MAI SAT",
    "20:AA;20:TALL AA;20:I;21:I;20:UE;21:UE;21:;21:U;20:O;21:A BELOW;21:Y;20:E;20:AE;20:OO;20:AI",
    "20:THAM AI;20:OA ABOVE;9:SIGN MAI KANG;14:TONE-1;19:2;14:KHUEN TONE-3;25:4;25:5;14:RA HAAM",
    "14:MAI SAM;14:KHUEN-LUE KARAN;;;TAI THAM COMBINING CRYPTOGRAMMIC DOT;9:HORA DIGIT ZERO",
    "20:ONE;20:TWO;21:HREE;20:FOUR;21:IVE;20:SIX;21:EVEN;20:EIGHT;20:NINE;;;;;;",
    "TAI THAM THAM DIGIT ZERO;20:ONE;20:TWO;21:HREE;20:FOUR;21:IVE;20:SIX;21:EVEN;20:EIGHT",
    "20:NINE;;;;;;;TAI THAM SIGN WIANG;19:WAAK;14:SAWAN;14:KEOW;14:HOY;14:DOKMAI",
    "14:REVERSED ROTATED RANA;14:MAI YAMOK;14:KAAN;18:KUU;14:SATKAAN;21:KUU;14:HANG;14:CAANG;;",
    "COMBINING DOUBLED CIRCUMFLEX ACCENT;11:IAERESIS-RING;10:INFINITY;10:DOWNWARDS ARROW",
    "10:TRIPLE DOT;10:X-X BELOW;10:WIGGLY LINE BELOW;10:OPEN MARK BELOW;10:DOUBLE OPEN MARK BELOW",
    "10:LIGHT CENTRALIZATION STROKE BELOW;10:STRONG CENTRALIZATION STROKE BELOW",
    "10:PARENTHESES ABOVE;10:DOUBLE PARENTHESES ABOVE;10:PARENTHESES BELOW;22:OVERLAY",
    "10:LATIN SMALL LETTER W BELOW;29:TURNED W BELOW;11:EFT PARENTHESIS ABOVE LEFT",
    "10:RIGHT PARENTHESIS ABOVE RIGHT;10:LEFT PARENTHESIS BELOW LEFT",
    "10:RIGHT PARENTHESIS BELOW RIGHT;10:SQUARE BRACKETS ABOVE;10:NUMBER SIGN ABOVE",
    "10:INVERTED DOUBLE ARCH ABOVE;10:PLUS SIGN ABOVE;10:DOUBLE PLUS SIGN ABOVE;27:BELOW",
    "10:TRIPLE ACUTE ACCENT;10:LATIN SMALL LETTER INSULAR G;37:R;37:T;;;;;;;;;;;;;;;;;;;;;;;;;;;;",
    ";;;;;;;;;;;;;;;;;;;;;BALINESE SIGN ULU RICEM;18:CANDRA;14:CECEK;14:SURANG;14:BISAH",
    "9:LETTER AKARA;21: TEDUNG;16:IKARA;21: TEDUNG;16:UKARA;21: TEDUNG;16:RA REPA;23: TEDUNG",
    "16:LA LENGA;24: TEDUNG;16:EKARA;16:AIKARA;16:OKARA;21: TEDUNG;16:KA;18: MAHAPRANA;16:GA",
    "18: GORA;16:NGA;16:CA;18: LACA;16:JA;18: JERA;16:NYA;16:TA LATIK;19:MURDA MAHAPRANA",
    "16:DA MURDA ALPAPRANA;25:MAHAPRANA;16:NA RAMBAT;16:TA;18: TAWA;16:DA;18: MADU;16:NA;16:PA",
    "18: KAPAL;16:BA;18: KEMBANG;16:MA;16:YA;16:RA;16:LA;16:WA;16:SA SAGA;21:PA;18:;16:HA",
    "9:SIGN REREKAN;9:VOWEL SIGN TEDUNG;20:ULU;23: SARI;20:SUKU;24: ILUT;20:RA REPA;27: TEDUNG",
    "20:LA LENGA;28: TEDUNG;20:TALING;26: REPA;27:TEDUNG;27:REPA TEDUNG;20:PEPET;25: TEDUNG",
    "9:ADEG ADEG;9:LETTER KAF SASAK;17:HOT SASAK;16:TZIR SASAK;16:EF SASAK;16:VE SASAK",
    "16:ZAL SASAK;16:ASYURA SASAK;17:RCHAIC JNYA;;;;BALINESE DIGIT ZERO;15:ONE;15:TWO;16:HREE",
    "15:FOUR;16:IVE;15:SIX;16:EVEN;15:EIGHT;15:NINE;9:PANTI;11:MADA;9:WINDU;9:CARIK PAMUNGKAH",
    "15:SIKI;15:PAREREN;9:PAMENENG;9:MUSICAL SYMBOL DONG;25:ENG;25:UNG;25:ANG;28: SURANG;25:ING",
    "25:AENG;25:EUNG;25:AING;26:NG GEDE;24:COMBINING TEGEH;34:ENDEP;34:KEMPUL;38:LI;34:JEGOGAN",
    "34:KEMPUL WITH JEGOGAN;38:LI WITH JEGOGAN;34:BENDE;34:GONG;24:RIGHT-HAND OPEN DUG;41:AG",
    "35:CLOSED TUK;43:AK;24:LEFT-HAND OPEN PANG;40:UNG;34:CLOSED PLAK;43:UK;34:OPEN PING",
    "9:PANTI LANTANG;11:MADA LANTANG;;SUNDANESE SIGN PANYECEK;18:GLAYAR;19:WISAD;10:LETTER A;17:I",
    "17:U;17:AE;17:O;17:E;18:U;17:KA;17:QA;17:GA;17:NGA;17:CA;17:JA;17:ZA;17:NYA;17:TA;17:DA",
    "17:NA;17:PA;17:FA;17:VA;17:BA;17:MA;17:YA;17:RA;17:LA;17:WA;17:SA;17:XA;17:HA",
    "10:CONSONANT SIGN PAMINGKAL;27:NYAKRA;29:IKU;10:VOWEL SIGN PANGHULU;24:YUKU;24:AELAENG",
    "24:OLONG;23:MEPET;23:NEULEUNG;10:SIGN PAMAAEH;15:VIRAMA;10:CONSONANT SIGN PASANGAN MA;34:WA",
    "10:LETTER KHA;17:SYA;10:DIGIT ZERO;16:ONE;16:TWO;17:HREE;16:FOUR;17:IVE;16:SIX;17:EVEN",
    "16:EIGHT;16:NINE;10:AVAGRAHA;10:LETTER REU;17:LEU;17:BHA;17:FINAL K;23:M;BATAK LETTER A",
    "13:SIMALUNGUN A;13:HA;13:SIMALUNGUN HA;13:MANDAILING HA;13:BA;13:KARO BA;13:PA",
    "13:SIMALUNGUN PA;13:NA;13:MANDAILING NA;13:WA;13:SIMALUNGUN WA;13:PAKPAK WA;13:GA",
    "13:SIMALUNGUN GA;13:JA;13:DA;13:RA;13:SIMALUNGUN RA;13:MA;13:SIMALUNGUN MA;14:OUTHERN TA",
    "13:NORTHERN TA;13:SA;14:IMALUNGUN SA;13:MANDAILING SA;13:YA;13:SIMALUNGUN YA;13:NGA;13:LA",
    "13:SIMALUNGUN LA;13:NYA;13:CA;13:NDA;13:MBA;13:I;13:U;6:SIGN TOMPI;6:VOWEL SIGN E",
    "17:PAKPAK E;17:EE;17:I;17:KARO I;17:O;17:KARO O;17:U;18: FOR SIMALUNGUN SA",
    "6:CONSONANT SIGN NG;21:H;6:PANGOLAT;9:ONGONAN;;;;;;;;;BATAK SYMBOL BINDU NA METEK",
    "19:PINARBORAS;19:JUDUL;19:PANGOLAT;LEPCHA LETTER KA;15:LA;15:HA;14:GA;15:LA;14:NGA;14:CA",
    "15:HA;14:JA;14:NYA;14:TA;15:HA;14:DA;14:NA;14:PA;15:LA;15:HA;14:FA;15:LA;14:BA;15:LA;14:MA",
    "15:LA;14:TSA;16:HA;14:DZA;14:YA;14:RA;14:LA;14:HA;15:LA;14:VA;14:SA;15:HA;14:WA;14:A",
    "7:SUBJOINED LETTER YA;24:RA;7:VOWEL SIGN AA;18:I;18:O;19:O;18:U;19:U;18:E;7:CONSONANT SIGN K",
    "22:M;22:L;22:N;22:P;22:R;22:T;22:NYIN-DO;22:KANG;7:SIGN RAN;12:NUKTA;;;",
    "LEPCHA PUNCTUATION TA-ROL;19:NYET THYOOM TA-ROL;19:CER-WA;19:TSHOOK CER-WA;25:;7:DIGIT ZERO",
    "13:ONE;13:TWO;14:HREE;13:FOUR;14:IVE;13:SIX;14:EVEN;13:EIGHT;13:NINE;;;;LEPCHA LETTER TTA",
    "16:HA;14:DDA;OL CHIKI DIGIT ZERO;15:ONE;15:TWO;16:HREE;15:FOUR;16:IVE;15:SIX;16:EVEN",
    "15:EIGHT;15:NINE;9:LETTER LA;16:AT;17:G;17:NG;17:L;16:LAA;16:AAK;18:J;18:M;18:W;16:LI;16:IS",
    "17:H;17:NY;17:R;16:LU;16:UC;17:D;17:NN;17:Y;16:LE;16:EP;17:DD;17:N;17:RR;16:LO;16:OTT;17:B",
    "17:V;17:H;9:MU TTUDDAG;9:GAAHLAA TTUDDAAG;9:MU-GAAHLAA TTUDDAAG;9:RELAA;9:PHAARKAA;9:AHAD",
    "9:PUNCTUATION MUCAAD;21:DOUBLE MUCAAD;CYRILLIC SMALL LETTER ROUNDED VE;22:LONG-LEGGED DE",
    "22:NARROW O;22:WIDE ES;22:TALL TE;23:HREE-LEGGED TE;23:ALL HARD SIGN;27:YAT;22:UNBLENDED UK;",
    ";;;;;;GEORGIAN MTAVRULI CAPITAL LETTER AN;33:BAN;33:GAN;33:DON;33:EN;33:VIN;33:ZEN;33:TAN",
    "33:IN;33:KAN;33:LAS;33:MAN;33:NAR;33:ON;33:PAR;33:ZHAR;33:RAE;33:SAN;33:TAR;33:UN;33:PHAR",
    "33:KHAR;33:GHAN;33:QAR;33:SHIN;33:CHIN;34:AN;33:JIL;33:CIL;34:HAR;33:XAN;33:JHAN;33:HAE"])]

end CharacterNames

end LocationDrift
