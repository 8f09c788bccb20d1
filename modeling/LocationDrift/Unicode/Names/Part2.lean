/-!
# Character names, part 2

The formal names of the named code points from U+1CB1 to U+A5BB, by blocks of consecutive
code points: a block gives its first code point and the names of it and of the code points after
it, in lines of names separated by `;` (the lines joined by `;` too), an empty name standing
for a code point without one. A name written `k:rest` is the first `k` characters of the name
before it followed by `rest`.
-/

namespace LocationDrift

namespace CharacterNames

/-- The names of the code points from U+1CB1 to U+A5BB. -/
def part2 : List (Nat × List String) := [
  (0x1CB1, [
    "GEORGIAN MTAVRULI CAPITAL LETTER HE;34:IE;33:WE;33:HAR;34:OE;33:FI;33:YN;33:ELIFI",
    "33:TURNED GAN;33:AIN;;;GEORGIAN MTAVRULI CAPITAL LETTER AEN;33:HARD SIGN;33:LABIAL SIGN",
    "SUNDANESE PUNCTUATION BINDU SURYA;28:PANGLONG;29:URNAMA;28:CAKRA;28:LEU SATANGA",
    "28:KA SATANGA;28:DA SATANGA;28:BA SATANGA;;;;;;;;;VEDIC TONE KARSHANA;11:SHARA;11:PRENKHA",
    "6:SIGN NIHSHVASA;11:YAJURVEDIC MIDLINE SVARITA",
    "6:TONE YAJURVEDIC AGGRAVATED INDEPENDENT SVARITA;22:INDEPENDENT SVARITA",
    "22:KATHAKA INDEPENDENT SVARITA;11:CANDRA BELOW",
    "11:YAJURVEDIC KATHAKA INDEPENDENT SVARITA SCHROEDER;11:DOUBLE SVARITA;11:TRIPLE SVARITA",
    "11:KATHAKA ANUDATTA;11:DOT BELOW;11:TWO DOTS BELOW;12:HREE DOTS BELOW",
    "11:RIGVEDIC KASHMIRI INDEPENDENT SVARITA;11:ATHARVAVEDIC INDEPENDENT SVARITA",
    "6:SIGN VISARGA SVARITA;19:UDATTA;11:REVERSED VISARGA UDATTA;11:VISARGA ANUDATTA",
    "11:REVERSED VISARGA ANUDATTA;11:VISARGA UDATTA WITH TAIL;19:ANUDATTA WITH TAIL",
    "11:ANUSVARA ANTARGOMUKHA;20:BAHIRGOMUKHA;20:VAMAGOMUKHA;31: WITH TAIL;11:TIRYAK",
    "11:HEXIFORM LONG ANUSVARA;11:LONG ANUSVARA;11:RTHANG LONG ANUSVARA",
    "11:ANUSVARA UBHAYATO MUKHA;12:RDHAVISARGA;11:ROTATED ARDHAVISARGA;6:TONE CANDRA ABOVE",
    "6:SIGN JIHVAMULIYA;11:UPADHMANIYA;11:ATIKRAMA;6:TONE RING ABOVE;11:DOUBLE RING ABOVE",
    "6:SIGN DOUBLE ANUSVARA ANTARGOMUKHA;;;;;;LATIN LETTER SMALL CAPITAL A;28:E",
    "6:SMALL LETTER TURNED AE;6:LETTER SMALL CAPITAL BARRED B;27:C;27:D;27:ETH;28:",
    "6:SMALL LETTER TURNED OPEN E;26:I;6:LETTER SMALL CAPITAL J;27:K;27:L WITH STROKE;27:M",
    "27:REVERSED N;27:O;28:PEN O;6:SMALL LETTER SIDEWAYS O;29:PEN O;29: WITH STROKE;19:TURNED OE",
    "6:LETTER SMALL CAPITAL OU;6:SMALL LETTER TOP HALF O;19:BOTTOM HALF O",
    "6:LETTER SMALL CAPITAL P;27:REVERSED R;27:TURNED R;28:;27:U;6:SMALL LETTER SIDEWAYS U",
    "28:DIAERESIZED U;28:TURNED M;6:LETTER SMALL CAPITAL V;27:W;27:Z;27:EZH",
    "13:VOICED LARYNGEAL SPIRANT;13:AIN;GREEK LETTER SMALL CAPITAL GAMMA;27:LAMDA;27:PI;27:RHO",
    "27:PSI;CYRILLIC LETTER SMALL CAPITAL EL;MODIFIER LETTER CAPITAL A;25:E;24:B;25:ARRED B;24:D",
    "24:E;24:REVERSED E;24:G;24:H;24:I;24:J;24:K;24:L;24:M;24:N;24:REVERSED N;24:O;25:U;24:P;24:R",
    "24:T;24:U;24:W;16:SMALL A;22:TURNED A;22:ALPHA;22:TURNED AE;22:B;22:D;22:E;22:SCHWA",
    "22:OPEN E;22:TURNED OPEN E;22:G;22:TURNED I;22:K;22:M;22:ENG;22:O;23:PEN O;22:TOP HALF O",
    "22:BOTTOM HALF O;22:P;22:T;22:U;22:SIDEWAYS U;22:TURNED M;22:V;22:AIN;22:BETA;22:GREEK GAMMA",
    "22:DELTA;22:GREEK PHI;22:CHI;LATIN SUBSCRIPT SMALL LETTER I;29:R;29:U;29:V",
    "GREEK SUBSCRIPT SMALL LETTER BETA;29:GAMMA;29:RHO;29:PHI;29:CHI;LATIN SMALL LETTER UE",
    "19:B WITH MIDDLE TILDE;19:D WITH MIDDLE TILDE;19:F WITH MIDDLE TILDE;19:M WITH MIDDLE TILDE",
    "19:N WITH MIDDLE TILDE;19:P WITH MIDDLE TILDE;19:R WITH MIDDLE TILDE",
    "26:FISHHOOK AND MIDDLE TILDE;19:S WITH MIDDLE TILDE;19:T WITH MIDDLE TILDE",
    "19:Z WITH MIDDLE TILDE;19:TURNED G;MODIFIER LETTER CYRILLIC EN;LATIN SMALL LETTER INSULAR G",
    "19:TH WITH STRIKETHROUGH;12:CAPITAL LETTER I WITH STROKE;12:LETTER IOTA WITH STROKE",
    "19:P WITH STROKE;12:CAPITAL LETTER U WITH STROKE;12:LETTER UPSILON WITH STROKE",
    "19:B WITH PALATAL HOOK;19:D WITH PALATAL HOOK;19:F WITH PALATAL HOOK;19:G WITH PALATAL HOOK",
    "19:K WITH PALATAL HOOK;19:L WITH PALATAL HOOK;19:M WITH PALATAL HOOK;19:N WITH PALATAL HOOK",
    "19:P WITH PALATAL HOOK;19:R WITH PALATAL HOOK;19:S WITH PALATAL HOOK",
    "19:ESH WITH PALATAL HOOK;19:V WITH PALATAL HOOK;19:X WITH PALATAL HOOK",
    "19:Z WITH PALATAL HOOK;19:A WITH RETROFLEX HOOK;20:LPHA WITH RETROFLEX HOOK",
    "19:D WITH HOOK AND TAIL;19:E WITH RETROFLEX HOOK;19:OPEN E WITH RETROFLEX HOOK",
    "19:REVERSED OPEN E WITH RETROFLEX HOOK;19:SCHWA WITH RETROFLEX HOOK;19:I WITH RETROFLEX HOOK",
    "19:OPEN O WITH RETROFLEX HOOK;19:ESH WITH RETROFLEX HOOK;19:U WITH RETROFLEX HOOK",
    "19:EZH WITH RETROFLEX HOOK;MODIFIER LETTER SMALL TURNED ALPHA;22:C;23: WITH CURL;22:ETH",
    "22:REVERSED OPEN E;22:F;22:DOTLESS J WITH STROKE;22:SCRIPT G;22:TURNED H;22:I WITH STROKE",
    "23:OTA;22:CAPITAL I;31: WITH STROKE;22:J WITH CROSSED-TAIL;22:L WITH RETROFLEX HOOK",
    "29:PALATAL HOOK;22:CAPITAL L;22:M WITH HOOK;22:TURNED M WITH LONG LEG;22:N WITH LEFT HOOK",
    "29:RETROFLEX HOOK;22:CAPITAL N;22:BARRED O;22:PHI;22:S WITH HOOK;22:ESH",
    "22:T WITH PALATAL HOOK;22:U BAR;23:PSILON;22:CAPITAL U;22:V WITH HOOK;22:TURNED V;22:Z",
    "23: WITH RETROFLEX HOOK;29:CURL;22:EZH;22:THETA;COMBINING DOTTED GRAVE ACCENT",
    "17:ACUTE ACCENT;10:SNAKE BELOW;11:USPENSION MARK;10:MACRON-ACUTE;10:GRAVE-MACRON",
    "10:MACRON-GRAVE;10:ACUTE-MACRON;10:GRAVE-ACUTE-GRAVE;10:ACUTE-GRAVE-ACUTE",
    "10:LATIN SMALL LETTER R BELOW;10:BREVE-MACRON;10:MACRON-BREVE;10:DOUBLE CIRCUMFLEX ABOVE",
    "10:OGONEK ABOVE;10:ZIGZAG BELOW;10:IS BELOW;10:UR ABOVE;11:S ABOVE",
    "10:LATIN SMALL LETTER FLATTENED OPEN A ABOVE;29:AE;30:O;30:V;29:C CEDILLA;29:INSULAR D",
    "29:ETH;29:G;16:LETTER SMALL CAPITAL G;16:SMALL LETTER K;29:L;16:LETTER SMALL CAPITAL L;37:M",
    "16:SMALL LETTER N;16:LETTER SMALL CAPITAL N;37:R;16:SMALL LETTER R ROTUNDA;29:S;29:LONG S",
    "29:Z;29:ALPHA;29:B;30:ETA;29:SCHWA;29:F;29:L WITH DOUBLE MIDDLE TILDE",
    "29:O WITH LIGHT CENTRALIZATION STROKE;29:P;29:ESH;29:U WITH LIGHT CENTRALIZATION STROKE;29:W",
    "29:A WITH DIAERESIS;29:O WITH DIAERESIS;29:U WITH DIAERESIS;10:UP TACK ABOVE",
    "10:KAVYKA ABOVE RIGHT;23:LEFT;10:DOT ABOVE LEFT;10:WIDE INVERTED BRIDGE BELOW",
    "10:DOT BELOW LEFT;11:ELETION MARK;11:OUBLE INVERTED BREVE BELOW;10:ALMOST EQUAL TO BELOW",
    "10:LEFT ARROWHEAD ABOVE;10:RIGHT ARROWHEAD AND DOWN ARROWHEAD BELOW",
    "LATIN CAPITAL LETTER A WITH RING BELOW;6:SMALL LETTER A WITH RING BELOW",
    "6:CAPITAL LETTER B WITH DOT ABOVE;6:SMALL LETTER B WITH DOT ABOVE",
    "6:CAPITAL LETTER B WITH DOT BELOW;6:SMALL LETTER B WITH DOT BELOW",
    "6:CAPITAL LETTER B WITH LINE BELOW;6:SMALL LETTER B WITH LINE BELOW",
    "6:CAPITAL LETTER C WITH CEDILLA AND ACUTE;6:SMALL LETTER C WITH CEDILLA AND ACUTE",
    "6:CAPITAL LETTER D WITH DOT ABOVE;6:SMALL LETTER D WITH DOT ABOVE",
    "6:CAPITAL LETTER D WITH DOT BELOW;6:SMALL LETTER D WITH DOT BELOW",
    "6:CAPITAL LETTER D WITH LINE BELOW;6:SMALL LETTER D WITH LINE BELOW",
    "6:CAPITAL LETTER D WITH CEDILLA;6:SMALL LETTER D WITH CEDILLA",
    "6:CAPITAL LETTER D WITH CIRCUMFLEX BELOW;6:SMALL LETTER D WITH CIRCUMFLEX BELOW",
    "6:CAPITAL LETTER E WITH MACRON AND GRAVE;6:SMALL LETTER E WITH MACRON AND GRAVE",
    "6:CAPITAL LETTER E WITH MACRON AND ACUTE;6:SMALL LETTER E WITH MACRON AND ACUTE",
    "6:CAPITAL LETTER E WITH CIRCUMFLEX BELOW;6:SMALL LETTER E WITH CIRCUMFLEX BELOW",
    "6:CAPITAL LETTER E WITH TILDE BELOW;6:SMALL LETTER E WITH TILDE BELOW",
    "6:CAPITAL LETTER E WITH CEDILLA AND BREVE;6:SMALL LETTER E WITH CEDILLA AND BREVE",
    "6:CAPITAL LETTER F WITH DOT ABOVE;6:SMALL LETTER F WITH DOT ABOVE",
    "6:CAPITAL LETTER G WITH MACRON;6:SMALL LETTER G WITH MACRON",
    "6:CAPITAL LETTER H WITH DOT ABOVE;6:SMALL LETTER H WITH DOT ABOVE",
    "6:CAPITAL LETTER H WITH DOT BELOW;6:SMALL LETTER H WITH DOT BELOW",
    "6:CAPITAL LETTER H WITH DIAERESIS;6:SMALL LETTER H WITH DIAERESIS",
    "6:CAPITAL LETTER H WITH CEDILLA;6:SMALL LETTER H WITH CEDILLA",
    "6:CAPITAL LETTER H WITH BREVE BELOW;6:SMALL LETTER H WITH BREVE BELOW",
    "6:CAPITAL LETTER I WITH TILDE BELOW;6:SMALL LETTER I WITH TILDE BELOW",
    "6:CAPITAL LETTER I WITH DIAERESIS AND ACUTE;6:SMALL LETTER I WITH DIAERESIS AND ACUTE",
    "6:CAPITAL LETTER K WITH ACUTE;6:SMALL LETTER K WITH ACUTE;6:CAPITAL LETTER K WITH DOT BELOW",
    "6:SMALL LETTER K WITH DOT BELOW;6:CAPITAL LETTER K WITH LINE BELOW",
    "6:SMALL LETTER K WITH LINE BELOW;6:CAPITAL LETTER L WITH DOT BELOW",
    "6:SMALL LETTER L WITH DOT BELOW;6:CAPITAL LETTER L WITH DOT BELOW AND MACRON",
    "6:SMALL LETTER L WITH DOT BELOW AND MACRON;6:CAPITAL LETTER L WITH LINE BELOW",
    "6:SMALL LETTER L WITH LINE BELOW;6:CAPITAL LETTER L WITH CIRCUMFLEX BELOW",
    "6:SMALL LETTER L WITH CIRCUMFLEX BELOW;6:CAPITAL LETTER M WITH ACUTE",
    "6:SMALL LETTER M WITH ACUTE;6:CAPITAL LETTER M WITH DOT ABOVE",
    "6:SMALL LETTER M WITH DOT ABOVE;6:CAPITAL LETTER M WITH DOT BELOW",
    "6:SMALL LETTER M WITH DOT BELOW;6:CAPITAL LETTER N WITH DOT ABOVE",
    "6:SMALL LETTER N WITH DOT ABOVE;6:CAPITAL LETTER N WITH DOT BELOW",
    "6:SMALL LETTER N WITH DOT BELOW;6:CAPITAL LETTER N WITH LINE BELOW",
    "6:SMALL LETTER N WITH LINE BELOW;6:CAPITAL LETTER N WITH CIRCUMFLEX BELOW",
    "6:SMALL LETTER N WITH CIRCUMFLEX BELOW;6:CAPITAL LETTER O WITH TILDE AND ACUTE",
    "6:SMALL LETTER O WITH TILDE AND ACUTE;6:CAPITAL LETTER O WITH TILDE AND DIAERESIS",
    "6:SMALL LETTER O WITH TILDE AND DIAERESIS;6:CAPITAL LETTER O WITH MACRON AND GRAVE",
    "6:SMALL LETTER O WITH MACRON AND GRAVE;6:CAPITAL LETTER O WITH MACRON AND ACUTE",
    "6:SMALL LETTER O WITH MACRON AND ACUTE;6:CAPITAL LETTER P WITH ACUTE",
    "6:SMALL LETTER P WITH ACUTE;6:CAPITAL LETTER P WITH DOT ABOVE",
    "6:SMALL LETTER P WITH DOT ABOVE;6:CAPITAL LETTER R WITH DOT ABOVE",
    "6:SMALL LETTER R WITH DOT ABOVE;6:CAPITAL LETTER R WITH DOT BELOW",
    "6:SMALL LETTER R WITH DOT BELOW;6:CAPITAL LETTER R WITH DOT BELOW AND MACRON",
    "6:SMALL LETTER R WITH DOT BELOW AND MACRON;6:CAPITAL LETTER R WITH LINE BELOW",
    "6:SMALL LETTER R WITH LINE BELOW;6:CAPITAL LETTER S WITH DOT ABOVE",
    "6:SMALL LETTER S WITH DOT ABOVE;6:CAPITAL LETTER S WITH DOT BELOW",
    "6:SMALL LETTER S WITH DOT BELOW;6:CAPITAL LETTER S WITH ACUTE AND DOT ABOVE",
    "6:SMALL LETTER S WITH ACUTE AND DOT ABOVE;6:CAPITAL LETTER S WITH CARON AND DOT ABOVE",
    "6:SMALL LETTER S WITH CARON AND DOT ABOVE;6:CAPITAL LETTER S WITH DOT BELOW AND DOT ABOVE",
    "6:SMALL LETTER S WITH DOT BELOW AND DOT ABOVE;6:CAPITAL LETTER T WITH DOT ABOVE",
    "6:SMALL LETTER T WITH DOT ABOVE;6:CAPITAL LETTER T WITH DOT BELOW",
    "6:SMALL LETTER T WITH DOT BELOW;6:CAPITAL LETTER T WITH LINE BELOW",
    "6:SMALL LETTER T WITH LINE BELOW;6:CAPITAL LETTER T WITH CIRCUMFLEX BELOW",
    "6:SMALL LETTER T WITH CIRCUMFLEX BELOW;6:CAPITAL LETTER U WITH DIAERESIS BELOW",
    "6:SMALL LETTER U WITH DIAERESIS BELOW;6:CAPITAL LETTER U WITH TILDE BELOW",
    "6:SMALL LETTER U WITH TILDE BELOW;6:CAPITAL LETTER U WITH CIRCUMFLEX BELOW",
    "6:SMALL LETTER U WITH CIRCUMFLEX BELOW;6:CAPITAL LETTER U WITH TILDE AND ACUTE",
    "6:SMALL LETTER U WITH TILDE AND ACUTE;6:CAPITAL LETTER U WITH MACRON AND DIAERESIS",
    "6:SMALL LETTER U WITH MACRON AND DIAERESIS;6:CAPITAL LETTER V WITH TILDE",
    "6:SMALL LETTER V WITH TILDE;6:CAPITAL LETTER V WITH DOT BELOW",
    "6:SMALL LETTER V WITH DOT BELOW;6:CAPITAL LETTER W WITH GRAVE;6:SMALL LETTER W WITH GRAVE",
    "6:CAPITAL LETTER W WITH ACUTE;6:SMALL LETTER W WITH ACUTE;6:CAPITAL LETTER W WITH DIAERESIS",
    "6:SMALL LETTER W WITH DIAERESIS;6:CAPITAL LETTER W WITH DOT ABOVE",
    "6:SMALL LETTER W WITH DOT ABOVE;6:CAPITAL LETTER W WITH DOT BELOW",
    "6:SMALL LETTER W WITH DOT BELOW;6:CAPITAL LETTER X WITH DOT ABOVE",
    "6:SMALL LETTER X WITH DOT ABOVE;6:CAPITAL LETTER X WITH DIAERESIS",
    "6:SMALL LETTER X WITH DIAERESIS;6:CAPITAL LETTER Y WITH DOT ABOVE",
    "6:SMALL LETTER Y WITH DOT ABOVE;6:CAPITAL LETTER Z WITH CIRCUMFLEX",
    "6:SMALL LETTER Z WITH CIRCUMFLEX;6:CAPITAL LETTER Z WITH DOT BELOW",
    "6:SMALL LETTER Z WITH DOT BELOW;6:CAPITAL LETTER Z WITH LINE BELOW",
    "6:SMALL LETTER Z WITH LINE BELOW;19:H WITH LINE BELOW;19:T WITH DIAERESIS",
    "19:W WITH RING ABOVE;19:Y WITH RING ABOVE;19:A WITH RIGHT HALF RING;19:LONG S WITH DOT ABOVE",
    "32:IAGONAL STROKE;31:HIGH STROKE;6:CAPITAL LETTER SHARP S;6:SMALL LETTER DELTA",
    "6:CAPITAL LETTER A WITH DOT BELOW;6:SMALL LETTER A WITH DOT BELOW",
    "6:CAPITAL LETTER A WITH HOOK ABOVE;6:SMALL LETTER A WITH HOOK ABOVE",
    "6:CAPITAL LETTER A WITH CIRCUMFLEX AND ACUTE;6:SMALL LETTER A WITH CIRCUMFLEX AND ACUTE",
    "6:CAPITAL LETTER A WITH CIRCUMFLEX AND GRAVE;6:SMALL LETTER A WITH CIRCUMFLEX AND GRAVE",
    "6:CAPITAL LETTER A WITH CIRCUMFLEX AND HOOK ABOVE",
    "6:SMALL LETTER A WITH CIRCUMFLEX AND HOOK ABOVE;6:CAPITAL LETTER A WITH CIRCUMFLEX AND TILDE",
    "6:SMALL LETTER A WITH CIRCUMFLEX AND TILDE;6:CAPITAL LETTER A WITH CIRCUMFLEX AND DOT BELOW",
    "6:SMALL LETTER A WITH CIRCUMFLEX AND DOT BELOW;6:CAPITAL LETTER A WITH BREVE AND ACUTE",
    "6:SMALL LETTER A WITH BREVE AND ACUTE;6:CAPITAL LETTER A WITH BREVE AND GRAVE",
    "6:SMALL LETTER A WITH BREVE AND GRAVE;6:CAPITAL LETTER A WITH BREVE AND HOOK ABOVE",
    "6:SMALL LETTER A WITH BREVE AND HOOK ABOVE;6:CAPITAL LETTER A WITH BREVE AND TILDE",
    "6:SMALL LETTER A WITH BREVE AND TILDE;6:CAPITAL LETTER A WITH BREVE AND DOT BELOW",
    "6:SMALL LETTER A WITH BREVE AND DOT BELOW;6:CAPITAL LETTER E WITH DOT BELOW",
    "6:SMALL LETTER E WITH DOT BELOW;6:CAPITAL LETTER E WITH HOOK ABOVE",
    "6:SMALL LETTER E WITH HOOK ABOVE;6:CAPITAL LETTER E WITH TILDE;6:SMALL LETTER E WITH TILDE",
    "6:CAPITAL LETTER E WITH CIRCUMFLEX AND ACUTE;6:SMALL LETTER E WITH CIRCUMFLEX AND ACUTE",
    "6:CAPITAL LETTER E WITH CIRCUMFLEX AND GRAVE;6:SMALL LETTER E WITH CIRCUMFLEX AND GRAVE",
    "6:CAPITAL LETTER E WITH CIRCUMFLEX AND HOOK ABOVE",
    "6:SMALL LETTER E WITH CIRCUMFLEX AND HOOK ABOVE;6:CAPITAL LETTER E WITH CIRCUMFLEX AND TILDE",
    "6:SMALL LETTER E WITH CIRCUMFLEX AND TILDE;6:CAPITAL LETTER E WITH CIRCUMFLEX AND DOT BELOW",
    "6:SMALL LETTER E WITH CIRCUMFLEX AND DOT BELOW;6:CAPITAL LETTER I WITH HOOK ABOVE",
    "6:SMALL LETTER I WITH HOOK ABOVE;6:CAPITAL LETTER I WITH DOT BELOW",
    "6:SMALL LETTER I WITH DOT BELOW;6:CAPITAL LETTER O WITH DOT BELOW",
    "6:SMALL LETTER O WITH DOT BELOW;6:CAPITAL LETTER O WITH HOOK ABOVE",
    "6:SMALL LETTER O WITH HOOK ABOVE;6:CAPITAL LETTER O WITH CIRCUMFLEX AND ACUTE",
    "6:SMALL LETTER O WITH CIRCUMFLEX AND ACUTE;6:CAPITAL LETTER O WITH CIRCUMFLEX AND GRAVE",
    "6:SMALL LETTER O WITH CIRCUMFLEX AND GRAVE;6:CAPITAL LETTER O WITH CIRCUMFLEX AND HOOK ABOVE",
    "6:SMALL LETTER O WITH CIRCUMFLEX AND HOOK ABOVE;6:CAPITAL LETTER O WITH CIRCUMFLEX AND TILDE",
    "6:SMALL LETTER O WITH CIRCUMFLEX AND TILDE;6:CAPITAL LETTER O WITH CIRCUMFLEX AND DOT BELOW",
    "6:SMALL LETTER O WITH CIRCUMFLEX AND DOT BELOW;6:CAPITAL LETTER O WITH HORN AND ACUTE",
    "6:SMALL LETTER O WITH HORN AND ACUTE;6:CAPITAL LETTER O WITH HORN AND GRAVE",
    "6:SMALL LETTER O WITH HORN AND GRAVE;6:CAPITAL LETTER O WITH HORN AND HOOK ABOVE",
    "6:SMALL LETTER O WITH HORN AND HOOK ABOVE;6:CAPITAL LETTER O WITH HORN AND TILDE",
    "6:SMALL LETTER O WITH HORN AND TILDE;6:CAPITAL LETTER O WITH HORN AND DOT BELOW",
    "6:SMALL LETTER O WITH HORN AND DOT BELOW;6:CAPITAL LETTER U WITH DOT BELOW",
    "6:SMALL LETTER U WITH DOT BELOW;6:CAPITAL LETTER U WITH HOOK ABOVE",
    "6:SMALL LETTER U WITH HOOK ABOVE;6:CAPITAL LETTER U WITH HORN AND ACUTE",
    "6:SMALL LETTER U WITH HORN AND ACUTE;6:CAPITAL LETTER U WITH HORN AND GRAVE",
    "6:SMALL LETTER U WITH HORN AND GRAVE;6:CAPITAL LETTER U WITH HORN AND HOOK ABOVE",
    "6:SMALL LETTER U WITH HORN AND HOOK ABOVE;6:CAPITAL LETTER U WITH HORN AND TILDE",
    "6:SMALL LETTER U WITH HORN AND TILDE;6:CAPITAL LETTER U WITH HORN AND DOT BELOW",
    "6:SMALL LETTER U WITH HORN AND DOT BELOW;6:CAPITAL LETTER Y WITH GRAVE",
    "6:SMALL LETTER Y WITH GRAVE;6:CAPITAL LETTER Y WITH DOT BELOW",
    "6:SMALL LETTER Y WITH DOT BELOW;6:CAPITAL LETTER Y WITH HOOK ABOVE",
    "6:SMALL LETTER Y WITH HOOK ABOVE;6:CAPITAL LETTER Y WITH TILDE;6:SMALL LETTER Y WITH TILDE",
    "6:CAPITAL LETTER MIDDLE-WELSH LL;6:SMALL LETTER MIDDLE-WELSH LL",
    "6:CAPITAL LETTER MIDDLE-WELSH V;6:SMALL LETTER MIDDLE-WELSH V;6:CAPITAL LETTER Y WITH LOOP",
    "6:SMALL LETTER Y WITH LOOP;GREEK SMALL LETTER ALPHA WITH PSILI;30:DASIA;30:PSILI AND VARIA",
    "30:DASIA AND VARIA;30:PSILI AND OXIA;30:DASIA AND OXIA;30:PSILI AND PERISPOMENI",
    "30:DASIA AND PERISPOMENI;6:CAPITAL LETTER ALPHA WITH PSILI;32:DASIA;32:PSILI AND VARIA",
    "32:DASIA AND VARIA;32:PSILI AND OXIA;32:DASIA AND OXIA;32:PSILI AND PERISPOMENI",
    "32:DASIA AND PERISPOMENI;6:SMALL LETTER EPSILON WITH PSILI;32:DASIA;32:PSILI AND VARIA",
    "32:DASIA AND VARIA;32:PSILI AND OXIA;32:DASIA AND OXIA;;",
    "GREEK CAPITAL LETTER EPSILON WITH PSILI;34:DASIA;34:PSILI AND VARIA;34:DASIA AND VARIA",
    "34:PSILI AND OXIA;34:DASIA AND OXIA;;;GREEK SMALL LETTER ETA WITH PSILI;28:DASIA",
    "28:PSILI AND VARIA;28:DASIA AND VARIA;28:PSILI AND OXIA;28:DASIA AND OXIA",
    "28:PSILI AND PERISPOMENI;28:DASIA AND PERISPOMENI;6:CAPITAL LETTER ETA WITH PSILI;30:DASIA",
    "30:PSILI AND VARIA;30:DASIA AND VARIA;30:PSILI AND OXIA;30:DASIA AND OXIA",
    "30:PSILI AND PERISPOMENI;30:DASIA AND PERISPOMENI;6:SMALL LETTER IOTA WITH PSILI;29:DASIA",
    "29:PSILI AND VARIA;29:DASIA AND VARIA;29:PSILI AND OXIA;29:DASIA AND OXIA",
    "29:PSILI AND PERISPOMENI;29:DASIA AND PERISPOMENI;6:CAPITAL LETTER IOTA WITH PSILI;31:DASIA",
    "31:PSILI AND VARIA;31:DASIA AND VARIA;31:PSILI AND OXIA;31:DASIA AND OXIA",
    "31:PSILI AND PERISPOMENI;31:DASIA AND PERISPOMENI;6:SMALL LETTER OMICRON WITH PSILI;32:DASIA",
    "32:PSILI AND VARIA;32:DASIA AND VARIA;32:PSILI AND OXIA;32:DASIA AND OXIA;;",
    "GREEK CAPITAL LETTER OMICRON WITH PSILI;34:DASIA"]),
  (0x1F4A, [
    "GREEK CAPITAL LETTER OMICRON WITH PSILI AND VARIA;34:DASIA AND VARIA;34:PSILI AND OXIA",
    "34:DASIA AND OXIA;;;GREEK SMALL LETTER UPSILON WITH PSILI;32:DASIA;32:PSILI AND VARIA",
    "32:DASIA AND VARIA;32:PSILI AND OXIA;32:DASIA AND OXIA;32:PSILI AND PERISPOMENI",
    "32:DASIA AND PERISPOMENI;;GREEK CAPITAL LETTER UPSILON WITH DASIA;",
    "GREEK CAPITAL LETTER UPSILON WITH DASIA AND VARIA;",
    "GREEK CAPITAL LETTER UPSILON WITH DASIA AND OXIA;",
    "GREEK CAPITAL LETTER UPSILON WITH DASIA AND PERISPOMENI;6:SMALL LETTER OMEGA WITH PSILI",
    "30:DASIA;30:PSILI AND VARIA;30:DASIA AND VARIA;30:PSILI AND OXIA;30:DASIA AND OXIA",
    "30:PSILI AND PERISPOMENI;30:DASIA AND PERISPOMENI;6:CAPITAL LETTER OMEGA WITH PSILI;32:DASIA",
    "32:PSILI AND VARIA;32:DASIA AND VARIA;32:PSILI AND OXIA;32:DASIA AND OXIA",
    "32:PSILI AND PERISPOMENI;32:DASIA AND PERISPOMENI;6:SMALL LETTER ALPHA WITH VARIA;30:OXIA",
    "19:EPSILON WITH VARIA;32:OXIA;20:TA WITH VARIA;28:OXIA;19:IOTA WITH VARIA;29:OXIA",
    "19:OMICRON WITH VARIA;32:OXIA;19:UPSILON WITH VARIA;32:OXIA;19:OMEGA WITH VARIA;30:OXIA;;",
    "GREEK SMALL LETTER ALPHA WITH PSILI AND YPOGEGRAMMENI;30:DASIA AND YPOGEGRAMMENI",
    "30:PSILI AND VARIA AND YPOGEGRAMMENI;30:DASIA AND VARIA AND YPOGEGRAMMENI",
    "30:PSILI AND OXIA AND YPOGEGRAMMENI;30:DASIA AND OXIA AND YPOGEGRAMMENI",
    "30:PSILI AND PERISPOMENI AND YPOGEGRAMMENI;30:DASIA AND PERISPOMENI AND YPOGEGRAMMENI",
    "6:CAPITAL LETTER ALPHA WITH PSILI AND PROSGEGRAMMENI;32:DASIA AND PROSGEGRAMMENI",
    "32:PSILI AND VARIA AND PROSGEGRAMMENI;32:DASIA AND VARIA AND PROSGEGRAMMENI",
    "32:PSILI AND OXIA AND PROSGEGRAMMENI;32:DASIA AND OXIA AND PROSGEGRAMMENI",
    "32:PSILI AND PERISPOMENI AND PROSGEGRAMMENI;32:DASIA AND PERISPOMENI AND PROSGEGRAMMENI",
    "6:SMALL LETTER ETA WITH PSILI AND YPOGEGRAMMENI;28:DASIA AND YPOGEGRAMMENI",
    "28:PSILI AND VARIA AND YPOGEGRAMMENI;28:DASIA AND VARIA AND YPOGEGRAMMENI",
    "28:PSILI AND OXIA AND YPOGEGRAMMENI;28:DASIA AND OXIA AND YPOGEGRAMMENI",
    "28:PSILI AND PERISPOMENI AND YPOGEGRAMMENI;28:DASIA AND PERISPOMENI AND YPOGEGRAMMENI",
    "6:CAPITAL LETTER ETA WITH PSILI AND PROSGEGRAMMENI;30:DASIA AND PROSGEGRAMMENI",
    "30:PSILI AND VARIA AND PROSGEGRAMMENI;30:DASIA AND VARIA AND PROSGEGRAMMENI",
    "30:PSILI AND OXIA AND PROSGEGRAMMENI;30:DASIA AND OXIA AND PROSGEGRAMMENI",
    "30:PSILI AND PERISPOMENI AND PROSGEGRAMMENI;30:DASIA AND PERISPOMENI AND PROSGEGRAMMENI",
    "6:SMALL LETTER OMEGA WITH PSILI AND YPOGEGRAMMENI;30:DASIA AND YPOGEGRAMMENI",
    "30:PSILI AND VARIA AND YPOGEGRAMMENI;30:DASIA AND VARIA AND YPOGEGRAMMENI",
    "30:PSILI AND OXIA AND YPOGEGRAMMENI;30:DASIA AND OXIA AND YPOGEGRAMMENI",
    "30:PSILI AND PERISPOMENI AND YPOGEGRAMMENI;30:DASIA AND PERISPOMENI AND YPOGEGRAMMENI",
    "6:CAPITAL LETTER OMEGA WITH PSILI AND PROSGEGRAMMENI;32:DASIA AND PROSGEGRAMMENI",
    "32:PSILI AND VARIA AND PROSGEGRAMMENI;32:DASIA AND VARIA AND PROSGEGRAMMENI",
    "32:PSILI AND OXIA AND PROSGEGRAMMENI;32:DASIA AND OXIA AND PROSGEGRAMMENI",
    "32:PSILI AND PERISPOMENI AND PROSGEGRAMMENI;32:DASIA AND PERISPOMENI AND PROSGEGRAMMENI",
    "6:SMALL LETTER ALPHA WITH VRACHY;30:MACRON;30:VARIA AND YPOGEGRAMMENI;30:YPOGEGRAMMENI",
    "30:OXIA AND YPOGEGRAMMENI;;GREEK SMALL LETTER ALPHA WITH PERISPOMENI;41: AND YPOGEGRAMMENI",
    "6:CAPITAL LETTER ALPHA WITH VRACHY;32:MACRON;32:VARIA;32:OXIA;32:PROSGEGRAMMENI;6:KORONIS",
    "6:PROSGEGRAMMENI;7:SILI;7:ERISPOMENI;6:DIALYTIKA AND PERISPOMENI",
    "6:SMALL LETTER ETA WITH VARIA AND YPOGEGRAMMENI;28:YPOGEGRAMMENI;28:OXIA AND YPOGEGRAMMENI;",
    "GREEK SMALL LETTER ETA WITH PERISPOMENI;39: AND YPOGEGRAMMENI",
    "6:CAPITAL LETTER EPSILON WITH VARIA;34:OXIA;22:TA WITH VARIA;30:OXIA;30:PROSGEGRAMMENI",
    "6:PSILI AND VARIA;16:OXIA;16:PERISPOMENI;6:SMALL LETTER IOTA WITH VRACHY;29:MACRON",
    "29:DIALYTIKA AND VARIA;43:OXIA;;;GREEK SMALL LETTER IOTA WITH PERISPOMENI",
    "29:DIALYTIKA AND PERISPOMENI;6:CAPITAL LETTER IOTA WITH VRACHY;31:MACRON;31:VARIA;31:OXIA;",
    "GREEK DASIA AND VARIA;16:OXIA;16:PERISPOMENI;6:SMALL LETTER UPSILON WITH VRACHY;32:MACRON",
    "32:DIALYTIKA AND VARIA;46:OXIA;19:RHO WITH PSILI;28:DASIA;19:UPSILON WITH PERISPOMENI",
    "32:DIALYTIKA AND PERISPOMENI;6:CAPITAL LETTER UPSILON WITH VRACHY;34:MACRON;34:VARIA;34:OXIA",
    "21:RHO WITH DASIA;6:DIALYTIKA AND VARIA;20:OXIA;6:VARIA;;",
    "GREEK SMALL LETTER OMEGA WITH VARIA AND YPOGEGRAMMENI;30:YPOGEGRAMMENI",
    "30:OXIA AND YPOGEGRAMMENI;;GREEK SMALL LETTER OMEGA WITH PERISPOMENI;41: AND YPOGEGRAMMENI",
    "6:CAPITAL LETTER OMICRON WITH VARIA;34:OXIA;23:EGA WITH VARIA;32:OXIA;32:PROSGEGRAMMENI",
    "6:OXIA;6:DASIA;;EN QUAD;EM QUAD;EN SPACE;EM SPACE;THREE-PER-EM SPACE;FOUR-PER-EM SPACE",
    "SIX-PER-EM SPACE;FIGURE SPACE;PUNCTUATION SPACE;THIN SPACE;HAIR SPACE;ZERO WIDTH SPACE",
    "11:NON-JOINER;11:JOINER;LEFT-TO-RIGHT MARK;RIGHT-TO-LEFT MARK;HYPHEN;NON-BREAKING HYPHEN",
    "FIGURE DASH;EN DASH;EM DASH;HORIZONTAL BAR;DOUBLE VERTICAL LINE;7:LOW LINE",
    "LEFT SINGLE QUOTATION MARK;RIGHT SINGLE QUOTATION MARK;SINGLE LOW-9 QUOTATION MARK",
    "7:HIGH-REVERSED-9 QUOTATION MARK;LEFT DOUBLE QUOTATION MARK;RIGHT DOUBLE QUOTATION MARK",
    "DOUBLE LOW-9 QUOTATION MARK;7:HIGH-REVERSED-9 QUOTATION MARK;DAGGER;DOUBLE DAGGER;BULLET",
    "TRIANGULAR BULLET;ONE DOT LEADER;TWO DOT LEADER;HORIZONTAL ELLIPSIS;HYPHENATION POINT",
    "LINE SEPARATOR;PARAGRAPH SEPARATOR;LEFT-TO-RIGHT EMBEDDING;RIGHT-TO-LEFT EMBEDDING",
    "POP DIRECTIONAL FORMATTING;LEFT-TO-RIGHT OVERRIDE;RIGHT-TO-LEFT OVERRIDE",
    "NARROW NO-BREAK SPACE;PER MILLE SIGN;4:TEN THOUSAND SIGN;PRIME;DOUBLE PRIME;TRIPLE PRIME",
    "REVERSED PRIME;9:DOUBLE PRIME;9:TRIPLE PRIME;CARET;SINGLE LEFT-POINTING ANGLE QUOTATION MARK",
    "7:RIGHT-POINTING ANGLE QUOTATION MARK;REFERENCE MARK;DOUBLE EXCLAMATION MARK;INTERROBANG",
    "OVERLINE;UNDERTIE;CHARACTER TIE;CARET INSERTION POINT;ASTERISM;HYPHEN BULLET;FRACTION SLASH",
    "LEFT SQUARE BRACKET WITH QUILL;RIGHT SQUARE BRACKET WITH QUILL;DOUBLE QUESTION MARK",
    "QUESTION EXCLAMATION MARK;EXCLAMATION QUESTION MARK;TIRONIAN SIGN ET;REVERSED PILCROW SIGN",
    "BLACK LEFTWARDS BULLET;6:RIGHTWARDS BULLET;LOW ASTERISK;REVERSED SEMICOLON;CLOSE UP",
    "TWO ASTERISKS ALIGNED VERTICALLY;COMMERCIAL MINUS SIGN;SWUNG DASH;INVERTED UNDERTIE",
    "FLOWER PUNCTUATION MARK;THREE DOT PUNCTUATION;QUADRUPLE PRIME;FOUR DOT PUNCTUATION",
    "FIVE DOT PUNCTUATION;TWO DOT PUNCTUATION;FOUR DOT MARK;DOTTED CROSS;TRICOLON",
    "VERTICAL FOUR DOTS;MEDIUM MATHEMATICAL SPACE;WORD JOINER;FUNCTION APPLICATION",
    "INVISIBLE TIMES;10:SEPARATOR;10:PLUS;;LEFT-TO-RIGHT ISOLATE;RIGHT-TO-LEFT ISOLATE",
    "FIRST STRONG ISOLATE;POP DIRECTIONAL ISOLATE;INHIBIT SYMMETRIC SWAPPING",
    "ACTIVATE SYMMETRIC SWAPPING;INHIBIT ARABIC FORM SHAPING;ACTIVATE ARABIC FORM SHAPING",
    "NATIONAL DIGIT SHAPES;NOMINAL DIGIT SHAPES;SUPERSCRIPT ZERO;12:LATIN SMALL LETTER I;;",
    "SUPERSCRIPT FOUR;13:IVE;12:SIX;13:EVEN;12:EIGHT;12:NINE;12:PLUS SIGN;12:MINUS;12:EQUALS SIGN",
    "12:LEFT PARENTHESIS;12:RIGHT PARENTHESIS;12:LATIN SMALL LETTER N;SUBSCRIPT ZERO;10:ONE",
    "10:TWO;11:HREE;10:FOUR;11:IVE;10:SIX;11:EVEN;10:EIGHT;10:NINE;10:PLUS SIGN;10:MINUS",
    "10:EQUALS SIGN;10:LEFT PARENTHESIS;10:RIGHT PARENTHESIS;;LATIN SUBSCRIPT SMALL LETTER A;29:E",
    "29:O;29:X;29:SCHWA;29:H;29:K;29:L;29:M;29:N;29:P;29:S;29:T;;;;EURO-CURRENCY SIGN;COLON SIGN",
    "CRUZEIRO SIGN;FRENCH FRANC SIGN;LIRA SIGN;MILL SIGN;NAIRA SIGN;PESETA SIGN;RUPEE SIGN",
    "WON SIGN;NEW SHEQEL SIGN;DONG SIGN;EURO SIGN;KIP SIGN;TUGRIK SIGN;DRACHMA SIGN",
    "GERMAN PENNY SIGN;PESO SIGN;GUARANI SIGN;AUSTRAL SIGN;HRYVNIA SIGN;CEDI SIGN",
    "LIVRE TOURNOIS SIGN;SPESMILO SIGN;TENGE SIGN;INDIAN RUPEE SIGN;TURKISH LIRA SIGN",
    "NORDIC MARK SIGN;MANAT SIGN;RUBLE SIGN;LARI SIGN;BITCOIN SIGN;SOM SIGN;;;;;;;;;;;;;;;",
    "COMBINING LEFT HARPOON ABOVE;10:RIGHT HARPOON ABOVE;10:LONG VERTICAL LINE OVERLAY",
    "10:SHORT VERTICAL LINE OVERLAY;10:ANTICLOCKWISE ARROW ABOVE;10:CLOCKWISE ARROW ABOVE",
    "10:LEFT ARROW ABOVE;10:RIGHT ARROW ABOVE;12:NG OVERLAY;10:CLOCKWISE RING OVERLAY",
    "10:ANTICLOCKWISE RING OVERLAY;10:THREE DOTS ABOVE;10:FOUR DOTS ABOVE;10:ENCLOSING CIRCLE",
    "20:SQUARE;20:DIAMOND;20:CIRCLE BACKSLASH;10:LEFT RIGHT ARROW ABOVE;10:ENCLOSING SCREEN",
    "20:KEYCAP;20:UPWARD POINTING TRIANGLE;10:REVERSE SOLIDUS OVERLAY",
    "10:DOUBLE VERTICAL STROKE OVERLAY;10:ANNUITY SYMBOL;10:TRIPLE UNDERDOT;10:WIDE BRIDGE ABOVE",
    "10:LEFTWARDS ARROW OVERLAY;11:ONG DOUBLE SOLIDUS OVERLAY",
    "10:RIGHTWARDS HARPOON WITH BARB DOWNWARDS;10:LEFTWARDS HARPOON WITH BARB DOWNWARDS",
    "14: ARROW BELOW;10:RIGHT ARROW BELOW;10:ASTERISK ABOVE;;;;;;;;;;;;;;;;ACCOUNT OF",
    "ADDRESSED TO THE SUBJECT;DOUBLE-STRUCK CAPITAL C;DEGREE CELSIUS;CENTRE LINE SYMBOL;CARE OF",
    "CADA UNA;EULER CONSTANT;SCRUPLE;DEGREE FAHRENHEIT;SCRIPT SMALL G;7:CAPITAL H",
    "BLACK-LETTER CAPITAL H;DOUBLE-STRUCK CAPITAL H;PLANCK CONSTANT;15: OVER TWO PI",
    "SCRIPT CAPITAL I;BLACK-LETTER CAPITAL I;SCRIPT CAPITAL L;7:SMALL L;L B BAR SYMBOL",
    "DOUBLE-STRUCK CAPITAL N;NUMERO SIGN;SOUND RECORDING COPYRIGHT;SCRIPT CAPITAL P",
    "DOUBLE-STRUCK CAPITAL P;22:Q;SCRIPT CAPITAL R;BLACK-LETTER CAPITAL R;DOUBLE-STRUCK CAPITAL R",
    "PRESCRIPTION TAKE;RESPONSE;SERVICE MARK;TELEPHONE SIGN;TRADE MARK SIGN;VERSICLE",
    "DOUBLE-STRUCK CAPITAL Z;OUNCE SIGN;OHM SIGN;INVERTED OHM SIGN;BLACK-LETTER CAPITAL Z",
    "TURNED GREEK SMALL LETTER IOTA;KELVIN SIGN;ANGSTROM SIGN;SCRIPT CAPITAL B",
    "BLACK-LETTER CAPITAL C;ESTIMATED SYMBOL;SCRIPT SMALL E;7:CAPITAL E;15:F;TURNED CAPITAL F",
    "SCRIPT CAPITAL M;7:SMALL O;ALEF SYMBOL;BET SYMBOL;GIMEL SYMBOL;DALET SYMBOL",
    "INFORMATION SOURCE;ROTATED CAPITAL Q;FACSIMILE SIGN;DOUBLE-STRUCK SMALL PI;20:GAMMA",
    "14:CAPITAL GAMMA;22:PI;14:N-ARY SUMMATION;TURNED SANS-SERIF CAPITAL G;26:L",
    "REVERSED SANS-SERIF CAPITAL L;TURNED SANS-SERIF CAPITAL Y;DOUBLE-STRUCK ITALIC CAPITAL D",
    "21:SMALL D;27:E;27:I;27:J;PROPERTY LINE;TURNED AMPERSAND;PER SIGN;AKTIESELSKAB",
    "TURNED SMALL F;SYMBOL FOR SAMARITAN SOURCE;VULGAR FRACTION ONE SEVENTH;20:NINTH;20:TENTH",
    "21:HIRD;16:TWO THIRDS;16:ONE FIFTH;16:TWO FIFTHS;17:HREE FIFTHS;16:FOUR FIFTHS;16:ONE SIXTH",
    "16:FIVE SIXTHS;16:ONE EIGHTH;16:THREE EIGHTHS;16:FIVE EIGHTHS;16:SEVEN EIGHTHS",
    "FRACTION NUMERATOR ONE;ROMAN NUMERAL ONE;14:TWO;15:HREE;14:FOUR;15:IVE;14:SIX;15:EVEN",
    "14:EIGHT;14:NINE;14:TEN;14:ELEVEN;14:TWELVE;14:FIFTY;14:ONE HUNDRED;14:FIVE HUNDRED",
    "14:ONE THOUSAND;SMALL ROMAN NUMERAL ONE;20:TWO;21:HREE;20:FOUR;21:IVE;20:SIX;21:EVEN",
    "20:EIGHT;20:NINE;20:TEN;20:ELEVEN;20:TWELVE;20:FIFTY;20:ONE HUNDRED;20:FIVE HUNDRED",
    "20:ONE THOUSAND;ROMAN NUMERAL ONE THOUSAND C D;14:FIVE THOUSAND;14:TEN THOUSAND",
    "14:REVERSED ONE HUNDRED;LATIN SMALL LETTER REVERSED C;ROMAN NUMERAL SIX LATE FORM",
    "14:FIFTY EARLY FORM;20:THOUSAND;14:ONE HUNDRED THOUSAND;VULGAR FRACTION ZERO THIRDS",
    "TURNED DIGIT TWO;14:HREE;;;;;LEFTWARDS ARROW;UPWARDS ARROW;RIGHTWARDS ARROW;DOWNWARDS ARROW",
    "LEFT RIGHT ARROW;UP DOWN ARROW;NORTH WEST ARROW;6:EAST ARROW;SOUTH EAST ARROW;6:WEST ARROW",
    "LEFTWARDS ARROW WITH STROKE;RIGHTWARDS ARROW WITH STROKE;LEFTWARDS WAVE ARROW",
    "RIGHTWARDS WAVE ARROW;LEFTWARDS TWO HEADED ARROW;UPWARDS TWO HEADED ARROW",
    "RIGHTWARDS TWO HEADED ARROW;DOWNWARDS TWO HEADED ARROW;LEFTWARDS ARROW WITH TAIL",
    "RIGHTWARDS ARROW WITH TAIL;LEFTWARDS ARROW FROM BAR;UPWARDS ARROW FROM BAR",
    "RIGHTWARDS ARROW FROM BAR;DOWNWARDS ARROW FROM BAR;UP DOWN ARROW WITH BASE",
    "LEFTWARDS ARROW WITH HOOK;RIGHTWARDS ARROW WITH HOOK;LEFTWARDS ARROW WITH LOOP",
    "RIGHTWARDS ARROW WITH LOOP;LEFT RIGHT WAVE ARROW;11:ARROW WITH STROKE;DOWNWARDS ZIGZAG ARROW",
    "UPWARDS ARROW WITH TIP LEFTWARDS;23:RIGHTWARDS;DOWNWARDS ARROW WITH TIP LEFTWARDS",
    "25:RIGHTWARDS;RIGHTWARDS ARROW WITH CORNER DOWNWARDS;DOWNWARDS ARROW WITH CORNER LEFTWARDS",
    "ANTICLOCKWISE TOP SEMICIRCLE ARROW;CLOCKWISE TOP SEMICIRCLE ARROW",
    "NORTH WEST ARROW TO LONG BAR;LEFTWARDS ARROW TO BAR OVER RIGHTWARDS ARROW TO BAR",
    "ANTICLOCKWISE OPEN CIRCLE ARROW;CLOCKWISE OPEN CIRCLE ARROW",
    "LEFTWARDS HARPOON WITH BARB UPWARDS;28:DOWNWARDS;UPWARDS HARPOON WITH BARB RIGHTWARDS",
    "26:LEFTWARDS;RIGHTWARDS HARPOON WITH BARB UPWARDS;29:DOWNWARDS",
    "DOWNWARDS HARPOON WITH BARB RIGHTWARDS;28:LEFTWARDS;RIGHTWARDS ARROW OVER LEFTWARDS ARROW",
    "UPWARDS ARROW LEFTWARDS OF DOWNWARDS ARROW;LEFTWARDS ARROW OVER RIGHTWARDS ARROW",
    "10:PAIRED ARROWS;UPWARDS PAIRED ARROWS;RIGHTWARDS PAIRED ARROWS;DOWNWARDS PAIRED ARROWS",
    "LEFTWARDS HARPOON OVER RIGHTWARDS HARPOON;RIGHTWARDS HARPOON OVER LEFTWARDS HARPOON",
    "LEFTWARDS DOUBLE ARROW WITH STROKE;4: RIGHT DOUBLE ARROW WITH STROKE",
    "RIGHTWARDS DOUBLE ARROW WITH STROKE;LEFTWARDS DOUBLE ARROW;UPWARDS DOUBLE ARROW",
    "RIGHTWARDS DOUBLE ARROW;DOWNWARDS DOUBLE ARROW;LEFT RIGHT DOUBLE ARROW;UP DOWN DOUBLE ARROW",
    "NORTH WEST DOUBLE ARROW;6:EAST DOUBLE ARROW;SOUTH EAST DOUBLE ARROW;6:WEST DOUBLE ARROW",
    "LEFTWARDS TRIPLE ARROW;RIGHTWARDS TRIPLE ARROW;LEFTWARDS SQUIGGLE ARROW",
    "RIGHTWARDS SQUIGGLE ARROW;UPWARDS ARROW WITH DOUBLE STROKE",
    "DOWNWARDS ARROW WITH DOUBLE STROKE;LEFTWARDS DASHED ARROW;UPWARDS DASHED ARROW",
    "RIGHTWARDS DASHED ARROW;DOWNWARDS DASHED ARROW;LEFTWARDS ARROW TO BAR",
    "RIGHTWARDS ARROW TO BAR;LEFTWARDS WHITE ARROW;UPWARDS WHITE ARROW;RIGHTWARDS WHITE ARROW",
    "DOWNWARDS WHITE ARROW;UPWARDS WHITE ARROW FROM BAR;20:ON PEDESTAL;31: WITH HORIZONTAL BAR",
    "37:VERTICAL BAR;14:DOUBLE ARROW;26: ON PEDESTAL;RIGHTWARDS WHITE ARROW FROM WALL",
    "NORTH WEST ARROW TO CORNER;SOUTH EAST ARROW TO CORNER;UP DOWN WHITE ARROW",
    "RIGHT ARROW WITH SMALL CIRCLE;DOWNWARDS ARROW LEFTWARDS OF UPWARDS ARROW",
    "THREE RIGHTWARDS ARROWS;LEFTWARDS ARROW WITH VERTICAL STROKE",
    "RIGHTWARDS ARROW WITH VERTICAL STROKE;LEFT RIGHT ARROW WITH VERTICAL STROKE",
    "4:WARDS ARROW WITH DOUBLE VERTICAL STROKE;RIGHTWARDS ARROW WITH DOUBLE VERTICAL STROKE",
    "LEFT RIGHT ARROW WITH DOUBLE VERTICAL STROKE;4:WARDS OPEN-HEADED ARROW",
    "RIGHTWARDS OPEN-HEADED ARROW;LEFT RIGHT OPEN-HEADED ARROW;FOR ALL;COMPLEMENT",
    "PARTIAL DIFFERENTIAL;THERE EXISTS;6:DOES NOT EXIST;EMPTY SET;INCREMENT;NABLA;ELEMENT OF",
    "NOT AN ELEMENT OF;SMALL ELEMENT OF;CONTAINS AS MEMBER;DOES NOT CONTAIN AS MEMBER",
    "SMALL CONTAINS AS MEMBER;END OF PROOF;N-ARY PRODUCT;6:COPRODUCT;6:SUMMATION;MINUS SIGN",
    "5:-OR-PLUS SIGN;DOT PLUS;DIVISION SLASH;SET MINUS;ASTERISK OPERATOR;RING OPERATOR",
    "BULLET OPERATOR;SQUARE ROOT;CUBE ROOT;FOURTH ROOT;PROPORTIONAL TO;INFINITY;RIGHT ANGLE;ANGLE",
    "MEASURED ANGLE;SPHERICAL ANGLE;DIVIDES;DOES NOT DIVIDE;PARALLEL TO;NOT PARALLEL TO",
    "LOGICAL AND;8:OR;INTERSECTION;UNION;INTEGRAL;DOUBLE INTEGRAL;TRIPLE INTEGRAL",
    "CONTOUR INTEGRAL;SURFACE INTEGRAL;VOLUME INTEGRAL;CLOCKWISE INTEGRAL;10:CONTOUR INTEGRAL",
    "ANTICLOCKWISE CONTOUR INTEGRAL;THEREFORE;BECAUSE;RATIO;PROPORTION;DOT MINUS;EXCESS",
    "GEOMETRIC PROPORTION;HOMOTHETIC;TILDE OPERATOR;REVERSED TILDE;INVERTED LAZY S;SINE WAVE",
    "WREATH PRODUCT;NOT TILDE;MINUS TILDE;ASYMPTOTICALLY EQUAL TO;NOT ASYMPTOTICALLY EQUAL TO",
    "APPROXIMATELY EQUAL TO;14:BUT NOT ACTUALLY EQUAL TO",
    "NEITHER APPROXIMATELY NOR ACTUALLY EQUAL TO;ALMOST EQUAL TO;NOT ALMOST EQUAL TO",
    "ALMOST EQUAL OR EQUAL TO;TRIPLE TILDE;ALL EQUAL TO;EQUIVALENT TO;GEOMETRICALLY EQUIVALENT TO",
    "DIFFERENCE BETWEEN;APPROACHES THE LIMIT;GEOMETRICALLY EQUAL TO",
    "APPROXIMATELY EQUAL TO OR THE IMAGE OF;IMAGE OF OR APPROXIMATELY EQUAL TO;COLON EQUALS",
    "EQUALS COLON;RING IN EQUAL TO;5:EQUAL TO;CORRESPONDS TO;ESTIMATES;EQUIANGULAR TO;STAR EQUALS",
    "DELTA EQUAL TO;EQUAL TO BY DEFINITION;MEASURED BY;QUESTIONED EQUAL TO;NOT EQUAL TO",
    "IDENTICAL TO;NOT IDENTICAL TO;STRICTLY EQUIVALENT TO;LESS-THAN OR EQUAL TO",
    "GREATER-THAN OR EQUAL TO;LESS-THAN OVER EQUAL TO;GREATER-THAN OVER EQUAL TO",
    "LESS-THAN BUT NOT EQUAL TO;GREATER-THAN BUT NOT EQUAL TO;MUCH LESS-THAN;5:GREATER-THAN",
    "BETWEEN;NOT EQUIVALENT TO;4:LESS-THAN;4:GREATER-THAN;NEITHER LESS-THAN NOR EQUAL TO",
    "8:GREATER-THAN NOR EQUAL TO;LESS-THAN OR EQUIVALENT TO;GREATER-THAN OR EQUIVALENT TO",
    "NEITHER LESS-THAN NOR EQUIVALENT TO;8:GREATER-THAN NOR EQUIVALENT TO",
    "LESS-THAN OR GREATER-THAN;GREATER-THAN OR LESS-THAN;NEITHER LESS-THAN NOR GREATER-THAN",
    "8:GREATER-THAN NOR LESS-THAN;PRECEDES;SUCCEEDS;PRECEDES OR EQUAL TO;SUCCEEDS OR EQUAL TO",
    "PRECEDES OR EQUIVALENT TO;SUCCEEDS OR EQUIVALENT TO;DOES NOT PRECEDE;9:SUCCEED;SUBSET OF",
    "SUPERSET OF;NOT A SUBSET OF;8:PERSET OF;SUBSET OF OR EQUAL TO;SUPERSET OF OR EQUAL TO",
    "NEITHER A SUBSET OF NOR EQUAL TO;12:PERSET OF NOR EQUAL TO;SUBSET OF WITH NOT EQUAL TO",
    "SUPERSET OF WITH NOT EQUAL TO;MULTISET;8: MULTIPLICATION;9:UNION;SQUARE IMAGE OF",
    "7:ORIGINAL OF;7:IMAGE OF OR EQUAL TO;7:ORIGINAL OF OR EQUAL TO;7:CAP;8:UP;CIRCLED PLUS",
    "8:MINUS;8:TIMES;8:DIVISION SLASH;9:OT OPERATOR;8:RING OPERATOR;8:ASTERISK OPERATOR;8:EQUALS",
    "8:DASH;SQUARED PLUS;8:MINUS;8:TIMES;8:DOT OPERATOR;RIGHT TACK;LEFT TACK;DOWN TACK;UP TACK",
    "ASSERTION;MODELS;TRUE;FORCES;TRIPLE VERTICAL BAR RIGHT TURNSTILE",
    "DOUBLE VERTICAL BAR DOUBLE RIGHT TURNSTILE;DOES NOT PROVE;NOT TRUE;DOES NOT FORCE",
    "NEGATED DOUBLE VERTICAL BAR DOUBLE RIGHT TURNSTILE;PRECEDES UNDER RELATION",
    "SUCCEEDS UNDER RELATION;NORMAL SUBGROUP OF;CONTAINS AS NORMAL SUBGROUP",
    "NORMAL SUBGROUP OF OR EQUAL TO;CONTAINS AS NORMAL SUBGROUP OR EQUAL TO;ORIGINAL OF;IMAGE OF",
    "MULTIMAP;HERMITIAN CONJUGATE MATRIX;INTERCALATE;XOR;NAND;NOR;RIGHT ANGLE WITH ARC;6:TRIANGLE",
    "N-ARY LOGICAL AND;14:OR;6:INTERSECTION;6:UNION;DIAMOND OPERATOR;DOT OPERATOR;STAR OPERATOR",
    "DIVISION TIMES;BOWTIE;LEFT NORMAL FACTOR SEMIDIRECT PRODUCT",
    "RIGHT NORMAL FACTOR SEMIDIRECT PRODUCT;LEFT SEMIDIRECT PRODUCT;RIGHT SEMIDIRECT PRODUCT",
    "REVERSED TILDE EQUALS;CURLY LOGICAL OR;14:AND;DOUBLE SUBSET;9:PERSET;7:INTERSECTION;7:UNION",
    "PITCHFORK;EQUAL AND PARALLEL TO;LESS-THAN WITH DOT;GREATER-THAN WITH DOT;VERY MUCH LESS-THAN",
    "10:GREATER-THAN;LESS-THAN EQUAL TO OR GREATER-THAN;GREATER-THAN EQUAL TO OR LESS-THAN",
    "EQUAL TO OR LESS-THAN;12:GREATER-THAN;12:PRECEDES;12:SUCCEEDS;DOES NOT PRECEDE OR EQUAL",
    "9:SUCCEED OR EQUAL;NOT SQUARE IMAGE OF OR EQUAL TO;11:ORIGINAL OF OR EQUAL TO",
    "SQUARE IMAGE OF OR NOT EQUAL TO;7:ORIGINAL OF OR NOT EQUAL TO",
    "LESS-THAN BUT NOT EQUIVALENT TO;GREATER-THAN BUT NOT EQUIVALENT TO",
    "PRECEDES BUT NOT EQUIVALENT TO;SUCCEEDS BUT NOT EQUIVALENT TO;NOT NORMAL SUBGROUP OF",
    "DOES NOT CONTAIN AS NORMAL SUBGROUP;NOT NORMAL SUBGROUP OF OR EQUAL TO",
    "DOES NOT CONTAIN AS NORMAL SUBGROUP OR EQUAL;VERTICAL ELLIPSIS;MIDLINE HORIZONTAL ELLIPSIS",
    "UP RIGHT DIAGONAL ELLIPSIS;DOWN RIGHT DIAGONAL ELLIPSIS",
    "ELEMENT OF WITH LONG HORIZONTAL STROKE;16:VERTICAL BAR AT END OF HORIZONTAL STROKE",
    "SMALL ELEMENT OF WITH VERTICAL BAR AT END OF HORIZONTAL STROKE;ELEMENT OF WITH DOT ABOVE",
    "16:OVERBAR;SMALL ELEMENT OF WITH OVERBAR;ELEMENT OF WITH UNDERBAR;16:TWO HORIZONTAL STROKES",
    "CONTAINS WITH LONG HORIZONTAL STROKE;14:VERTICAL BAR AT END OF HORIZONTAL STROKE",
    "SMALL CONTAINS WITH VERTICAL BAR AT END OF HORIZONTAL STROKE;CONTAINS WITH OVERBAR",
    "SMALL CONTAINS WITH OVERBAR;Z NOTATION BAG MEMBERSHIP;DIAMETER SIGN;ELECTRIC ARROW;HOUSE",
    "UP ARROWHEAD;DOWN ARROWHEAD;PROJECTIVE;PERSPECTIVE;WAVY LINE;LEFT CEILING;RIGHT CEILING"]),
  (0x230A, [
    "LEFT FLOOR;RIGHT FLOOR;BOTTOM RIGHT CROP;7:LEFT CROP;TOP RIGHT CROP;4:LEFT CROP",
    "REVERSED NOT SIGN;SQUARE LOZENGE;ARC;SEGMENT;SECTOR;TELEPHONE RECORDER;POSITION INDICATOR",
    "VIEWDATA SQUARE;PLACE OF INTEREST SIGN;TURNED NOT SIGN;WATCH;HOURGLASS;TOP LEFT CORNER",
    "4:RIGHT CORNER;BOTTOM LEFT CORNER;7:RIGHT CORNER;TOP HALF INTEGRAL;BOTTOM HALF INTEGRAL",
    "FROWN;SMILE;UP ARROWHEAD BETWEEN TWO HORIZONTAL BARS;OPTION KEY;ERASE TO THE RIGHT",
    "X IN A RECTANGLE BOX;KEYBOARD;LEFT-POINTING ANGLE BRACKET;RIGHT-POINTING ANGLE BRACKET",
    "ERASE TO THE LEFT;BENZENE RING;CYLINDRICITY;ALL AROUND-PROFILE;SYMMETRY;TOTAL RUNOUT",
    "DIMENSION ORIGIN;CONICAL TAPER;SLOPE;COUNTERBORE;7:SINK;APL FUNCTIONAL SYMBOL I-BEAM",
    "22:SQUISH QUAD;22:QUAD EQUAL;27:DIVIDE;29:AMOND;27:JOT;27:CIRCLE;22:CIRCLE STILE;29:JOT",
    "22:SLASH BAR;22:BACKSLASH BAR;22:QUAD SLASH;27:BACKSLASH;27:LESS-THAN;27:GREATER-THAN",
    "22:LEFTWARDS VANE;22:RIGHTWARDS VANE;22:QUAD LEFTWARDS ARROW;27:RIGHTWARDS ARROW",
    "22:CIRCLE BACKSLASH;22:DOWN TACK UNDERBAR;23:ELTA STILE;22:QUAD DOWN CARET;28:ELTA",
    "22:DOWN TACK JOT;22:UPWARDS VANE;22:QUAD UPWARDS ARROW;22:UP TACK OVERBAR;22:DEL STILE",
    "22:QUAD UP CARET;27:DEL;22:UP TACK JOT;22:DOWNWARDS VANE;22:QUAD DOWNWARDS ARROW",
    "24:OTE UNDERBAR;22:DELTA UNDERBAR;23:IAMOND UNDERBAR;22:JOT UNDERBAR;22:CIRCLE UNDERBAR",
    "22:UP SHOE JOT;22:QUOTE QUAD;22:CIRCLE STAR;22:QUAD COLON;22:UP TACK DIAERESIS",
    "22:DEL DIAERESIS;22:STAR DIAERESIS;22:JOT DIAERESIS;22:CIRCLE DIAERESIS;22:DOWN SHOE STILE",
    "22:LEFT SHOE STILE;22:TILDE DIAERESIS;22:GREATER-THAN DIAERESIS;22:COMMA BAR;22:DEL TILDE",
    "22:ZILDE;22:STILE TILDE;23:EMICOLON UNDERBAR;22:QUAD NOT EQUAL;27:QUESTION",
    "22:DOWN CARET TILDE;22:UP CARET TILDE;22:IOTA;22:RHO;22:OMEGA;22:ALPHA UNDERBAR",
    "22:EPSILON UNDERBAR;22:IOTA UNDERBAR;22:OMEGA UNDERBAR;22:ALPHA;NOT CHECK MARK",
    "RIGHT ANGLE WITH DOWNWARDS ZIGZAG ARROW;SHOULDERED OPEN BOX;BELL SYMBOL",
    "VERTICAL LINE WITH MIDDLE DOT;INSERTION SYMBOL;CONTINUOUS UNDERLINE SYMBOL",
    "DISCONTINUOUS UNDERLINE SYMBOL;EMPHASIS SYMBOL;COMPOSITION SYMBOL",
    "WHITE SQUARE WITH CENTRE VERTICAL LINE;ENTER SYMBOL;ALTERNATIVE KEY SYMBOL;HELM SYMBOL",
    "CIRCLED HORIZONTAL BAR WITH NOTCH;8:TRIANGLE DOWN;BROKEN CIRCLE WITH NORTHWEST ARROW",
    "UNDO SYMBOL;MONOSTABLE SYMBOL;HYSTERESIS SYMBOL;OPEN-CIRCUIT-OUTPUT H-TYPE SYMBOL",
    "20:L-TYPE SYMBOL;PASSIVE-PULL-DOWN-OUTPUT SYMBOL;13:UP-OUTPUT SYMBOL",
    "DIRECT CURRENT SYMBOL FORM TWO;SOFTWARE-FUNCTION SYMBOL;APL FUNCTIONAL SYMBOL QUAD",
    "DECIMAL SEPARATOR KEY SYMBOL;PREVIOUS PAGE;NEXT PAGE;PRINT SCREEN SYMBOL;CLEAR SCREEN SYMBOL",
    "LEFT PARENTHESIS UPPER HOOK;17:EXTENSION;17:LOWER HOOK;RIGHT PARENTHESIS UPPER HOOK",
    "18:EXTENSION;18:LOWER HOOK;LEFT SQUARE BRACKET UPPER CORNER;20:EXTENSION;20:LOWER CORNER",
    "RIGHT SQUARE BRACKET UPPER CORNER;21:EXTENSION;21:LOWER CORNER;LEFT CURLY BRACKET UPPER HOOK",
    "19:MIDDLE PIECE;19:LOWER HOOK;CURLY BRACKET EXTENSION;RIGHT CURLY BRACKET UPPER HOOK",
    "20:MIDDLE PIECE;20:LOWER HOOK;INTEGRAL EXTENSION;HORIZONTAL LINE EXTENSION",
    "UPPER LEFT OR LOWER RIGHT CURLY BRACKET SECTION;6:RIGHT OR LOWER LEFT CURLY BRACKET SECTION",
    "SUMMATION TOP;10:BOTTOM;TOP SQUARE BRACKET;BOTTOM SQUARE BRACKET;21: OVER TOP SQUARE BRACKET",
    "RADICAL SYMBOL BOTTOM;LEFT VERTICAL BOX LINE;RIGHT VERTICAL BOX LINE;HORIZONTAL SCAN LINE-1",
    "21:3;21:7;21:9;DENTISTRY SYMBOL LIGHT VERTICAL AND TOP RIGHT;36:BOTTOM RIGHT;32:WITH CIRCLE",
    "23:DOWN AND HORIZONTAL WITH CIRCLE;23:UP AND HORIZONTAL WITH CIRCLE",
    "23:VERTICAL WITH TRIANGLE;23:DOWN AND HORIZONTAL WITH TRIANGLE",
    "23:UP AND HORIZONTAL WITH TRIANGLE;23:VERTICAL AND WAVE;23:DOWN AND HORIZONTAL WITH WAVE",
    "23:UP AND HORIZONTAL WITH WAVE;23:DOWN AND HORIZONTAL;23:UP AND HORIZONTAL",
    "23:VERTICAL AND TOP LEFT;36:BOTTOM LEFT;SQUARE FOOT;RETURN SYMBOL;EJECT SYMBOL",
    "VERTICAL LINE EXTENSION;METRICAL BREVE;9:LONG OVER SHORT;9:SHORT OVER LONG",
    "9:LONG OVER TWO SHORTS;9:TWO SHORTS OVER LONG;20:JOINED;10:RISEME;10:ETRASEME;9:PENTASEME",
    "EARTH GROUND;FUSE;TOP PARENTHESIS;BOTTOM PARENTHESIS;TOP CURLY BRACKET;BOTTOM CURLY BRACKET",
    "TOP TORTOISE SHELL BRACKET;BOTTOM TORTOISE SHELL BRACKET;WHITE TRAPEZIUM",
    "BENZENE RING WITH CIRCLE;STRAIGHTNESS;FLATNESS;AC CURRENT;ELECTRICAL INTERSECTION",
    "DECIMAL EXPONENT SYMBOL;BLACK RIGHT-POINTING DOUBLE TRIANGLE;6:LEFT-POINTING DOUBLE TRIANGLE",
    "6:UP-POINTING DOUBLE TRIANGLE;6:DOWN-POINTING DOUBLE TRIANGLE",
    "6:RIGHT-POINTING DOUBLE TRIANGLE WITH VERTICAL BAR",
    "6:LEFT-POINTING DOUBLE TRIANGLE WITH VERTICAL BAR",
    "6:RIGHT-POINTING TRIANGLE WITH DOUBLE VERTICAL BAR;ALARM CLOCK;STOPWATCH;TIMER CLOCK",
    "HOURGLASS WITH FLOWING SAND;BLACK MEDIUM LEFT-POINTING TRIANGLE;13:RIGHT-POINTING TRIANGLE",
    "13:UP-POINTING TRIANGLE;13:DOWN-POINTING TRIANGLE;DOUBLE VERTICAL BAR;BLACK SQUARE FOR STOP",
    "6:CIRCLE FOR RECORD;POWER SYMBOL;6:ON-OFF SYMBOL;8: SYMBOL;6:SLEEP SYMBOL",
    "OBSERVER EYE SYMBOL;SYMBOL FOR NULL;11:START OF HEADING;20:TEXT;11:END OF TEXT",
    "19:RANSMISSION;13:QUIRY;11:ACKNOWLEDGE;11:BELL;12:ACKSPACE;11:HORIZONTAL TABULATION",
    "11:LINE FEED;11:VERTICAL TABULATION;11:FORM FEED;11:CARRIAGE RETURN;11:SHIFT OUT;17:IN",
    "11:DATA LINK ESCAPE;12:EVICE CONTROL ONE;26:TWO;27:HREE;26:FOUR;11:NEGATIVE ACKNOWLEDGE",
    "11:SYNCHRONOUS IDLE;11:END OF TRANSMISSION BLOCK;11:CANCEL;11:END OF MEDIUM;11:SUBSTITUTE",
    "11:ESCAPE;11:FILE SEPARATOR;11:GROUP SEPARATOR;11:RECORD SEPARATOR;11:UNIT SEPARATOR",
    "11:SPACE;11:DELETE;BLANK SYMBOL;OPEN BOX;SYMBOL FOR NEWLINE;11:DELETE FORM TWO",
    "11:SUBSTITUTE FORM TWO;;;;;;;;;;;;;;;;;;;;;;;;;;OCR HOOK;4:CHAIR;4:FORK;4:INVERTED FORK",
    "4:BELT BUCKLE;5:OW TIE;5:RANCH BANK IDENTIFICATION;4:AMOUNT OF CHECK;4:DASH",
    "4:CUSTOMER ACCOUNT NUMBER;4:DOUBLE BACKSLASH;;;;;;;;;;;;;;;;;;;;;;CIRCLED DIGIT ONE;14:TWO",
    "15:HREE;14:FOUR;15:IVE;14:SIX;15:EVEN;14:EIGHT;14:NINE;8:NUMBER TEN;15:ELEVEN;15:TWELVE",
    "16:HIRTEEN;15:FOURTEEN;16:IFTEEN;15:SIXTEEN;16:EVENTEEN;15:EIGHTEEN;15:NINETEEN;15:TWENTY",
    "PARENTHESIZED DIGIT ONE;20:TWO;21:HREE;20:FOUR;21:IVE;20:SIX;21:EVEN;20:EIGHT;20:NINE",
    "14:NUMBER TEN;21:ELEVEN;21:TWELVE;22:HIRTEEN;21:FOURTEEN;22:IFTEEN;21:SIXTEEN;22:EVENTEEN",
    "21:EIGHTEEN;21:NINETEEN;21:TWENTY;DIGIT ONE FULL STOP;6:TWO FULL STOP;7:HREE FULL STOP",
    "6:FOUR FULL STOP;7:IVE FULL STOP;6:SIX FULL STOP;7:EVEN FULL STOP;6:EIGHT FULL STOP",
    "6:NINE FULL STOP;NUMBER TEN FULL STOP;7:ELEVEN FULL STOP;7:TWELVE FULL STOP",
    "8:HIRTEEN FULL STOP;7:FOURTEEN FULL STOP;8:IFTEEN FULL STOP;7:SIXTEEN FULL STOP",
    "8:EVENTEEN FULL STOP;7:EIGHTEEN FULL STOP;7:NINETEEN FULL STOP;7:TWENTY FULL STOP",
    "PARENTHESIZED LATIN SMALL LETTER A;33:B;33:C;33:D;33:E;33:F;33:G;33:H;33:I;33:J;33:K;33:L",
    "33:M;33:N;33:O;33:P;33:Q;33:R;33:S;33:T;33:U;33:V;33:W;33:X;33:Y;33:Z",
    "CIRCLED LATIN CAPITAL LETTER A;29:B;29:C;29:D;29:E;29:F;29:G;29:H;29:I;29:J;29:K;29:L;29:M",
    "29:N;29:O;29:P;29:Q;29:R;29:S;29:T;29:U;29:V;29:W;29:X;29:Y;29:Z;14:SMALL LETTER A;27:B;27:C",
    "27:D;27:E;27:F;27:G;27:H;27:I;27:J;27:K;27:L;27:M;27:N;27:O;27:P;27:Q;27:R;27:S;27:T;27:U",
    "27:V;27:W;27:X;27:Y;27:Z;8:DIGIT ZERO;NEGATIVE CIRCLED NUMBER ELEVEN;24:TWELVE;25:HIRTEEN",
    "24:FOURTEEN;25:IFTEEN;24:SIXTEEN;25:EVENTEEN;24:EIGHTEEN;24:NINETEEN;24:TWENTY",
    "DOUBLE CIRCLED DIGIT ONE;21:TWO;22:HREE;21:FOUR;22:IVE;21:SIX;22:EVEN;21:EIGHT;21:NINE",
    "15:NUMBER TEN;NEGATIVE CIRCLED DIGIT ZERO;BOX DRAWINGS LIGHT HORIZONTAL;13:HEAVY HORIZONTAL",
    "13:LIGHT VERTICAL;13:HEAVY VERTICAL;13:LIGHT TRIPLE DASH HORIZONTAL",
    "13:HEAVY TRIPLE DASH HORIZONTAL;13:LIGHT TRIPLE DASH VERTICAL;13:HEAVY TRIPLE DASH VERTICAL",
    "13:LIGHT QUADRUPLE DASH HORIZONTAL;13:HEAVY QUADRUPLE DASH HORIZONTAL",
    "13:LIGHT QUADRUPLE DASH VERTICAL;13:HEAVY QUADRUPLE DASH VERTICAL;13:LIGHT DOWN AND RIGHT",
    "13:DOWN LIGHT AND RIGHT HEAVY;18:HEAVY AND RIGHT LIGHT;13:HEAVY DOWN AND RIGHT",
    "13:LIGHT DOWN AND LEFT;13:DOWN LIGHT AND LEFT HEAVY;18:HEAVY AND LEFT LIGHT",
    "13:HEAVY DOWN AND LEFT;13:LIGHT UP AND RIGHT;13:UP LIGHT AND RIGHT HEAVY",
    "16:HEAVY AND RIGHT LIGHT;13:HEAVY UP AND RIGHT;13:LIGHT UP AND LEFT",
    "13:UP LIGHT AND LEFT HEAVY;16:HEAVY AND LEFT LIGHT;13:HEAVY UP AND LEFT",
    "13:LIGHT VERTICAL AND RIGHT;13:VERTICAL LIGHT AND RIGHT HEAVY",
    "13:UP HEAVY AND RIGHT DOWN LIGHT;13:DOWN HEAVY AND RIGHT UP LIGHT",
    "13:VERTICAL HEAVY AND RIGHT LIGHT;13:DOWN LIGHT AND RIGHT UP HEAVY",
    "13:UP LIGHT AND RIGHT DOWN HEAVY;13:HEAVY VERTICAL AND RIGHT;13:LIGHT VERTICAL AND LEFT",
    "13:VERTICAL LIGHT AND LEFT HEAVY;13:UP HEAVY AND LEFT DOWN LIGHT",
    "13:DOWN HEAVY AND LEFT UP LIGHT;13:VERTICAL HEAVY AND LEFT LIGHT",
    "13:DOWN LIGHT AND LEFT UP HEAVY;13:UP LIGHT AND LEFT DOWN HEAVY;13:HEAVY VERTICAL AND LEFT",
    "13:LIGHT DOWN AND HORIZONTAL;14:EFT HEAVY AND RIGHT DOWN LIGHT",
    "13:RIGHT HEAVY AND LEFT DOWN LIGHT;13:DOWN LIGHT AND HORIZONTAL HEAVY",
    "18:HEAVY AND HORIZONTAL LIGHT;13:RIGHT LIGHT AND LEFT DOWN HEAVY",
    "13:LEFT LIGHT AND RIGHT DOWN HEAVY;13:HEAVY DOWN AND HORIZONTAL;13:LIGHT UP AND HORIZONTAL",
    "14:EFT HEAVY AND RIGHT UP LIGHT;13:RIGHT HEAVY AND LEFT UP LIGHT",
    "13:UP LIGHT AND HORIZONTAL HEAVY;16:HEAVY AND HORIZONTAL LIGHT",
    "13:RIGHT LIGHT AND LEFT UP HEAVY;13:LEFT LIGHT AND RIGHT UP HEAVY;13:HEAVY UP AND HORIZONTAL",
    "13:LIGHT VERTICAL AND HORIZONTAL;14:EFT HEAVY AND RIGHT VERTICAL LIGHT",
    "13:RIGHT HEAVY AND LEFT VERTICAL LIGHT;13:VERTICAL LIGHT AND HORIZONTAL HEAVY",
    "13:UP HEAVY AND DOWN HORIZONTAL LIGHT;13:DOWN HEAVY AND UP HORIZONTAL LIGHT",
    "13:VERTICAL HEAVY AND HORIZONTAL LIGHT;13:LEFT UP HEAVY AND RIGHT DOWN LIGHT",
    "13:RIGHT UP HEAVY AND LEFT DOWN LIGHT;13:LEFT DOWN HEAVY AND RIGHT UP LIGHT",
    "13:RIGHT DOWN HEAVY AND LEFT UP LIGHT;13:DOWN LIGHT AND UP HORIZONTAL HEAVY",
    "13:UP LIGHT AND DOWN HORIZONTAL HEAVY;13:RIGHT LIGHT AND LEFT VERTICAL HEAVY",
    "13:LEFT LIGHT AND RIGHT VERTICAL HEAVY;13:HEAVY VERTICAL AND HORIZONTAL",
    "13:LIGHT DOUBLE DASH HORIZONTAL;13:HEAVY DOUBLE DASH HORIZONTAL",
    "13:LIGHT DOUBLE DASH VERTICAL;13:HEAVY DOUBLE DASH VERTICAL;13:DOUBLE HORIZONTAL;20:VERTICAL",
    "15:WN SINGLE AND RIGHT DOUBLE;18:DOUBLE AND RIGHT SINGLE;15:UBLE DOWN AND RIGHT",
    "15:WN SINGLE AND LEFT DOUBLE;18:DOUBLE AND LEFT SINGLE;15:UBLE DOWN AND LEFT",
    "13:UP SINGLE AND RIGHT DOUBLE;16:DOUBLE AND RIGHT SINGLE;13:DOUBLE UP AND RIGHT",
    "13:UP SINGLE AND LEFT DOUBLE;16:DOUBLE AND LEFT SINGLE;13:DOUBLE UP AND LEFT",
    "13:VERTICAL SINGLE AND RIGHT DOUBLE;22:DOUBLE AND RIGHT SINGLE;13:DOUBLE VERTICAL AND RIGHT",
    "13:VERTICAL SINGLE AND LEFT DOUBLE;22:DOUBLE AND LEFT SINGLE;13:DOUBLE VERTICAL AND LEFT",
    "15:WN SINGLE AND HORIZONTAL DOUBLE;18:DOUBLE AND HORIZONTAL SINGLE",
    "15:UBLE DOWN AND HORIZONTAL;13:UP SINGLE AND HORIZONTAL DOUBLE",
    "16:DOUBLE AND HORIZONTAL SINGLE;13:DOUBLE UP AND HORIZONTAL",
    "13:VERTICAL SINGLE AND HORIZONTAL DOUBLE;22:DOUBLE AND HORIZONTAL SINGLE",
    "13:DOUBLE VERTICAL AND HORIZONTAL;13:LIGHT ARC DOWN AND RIGHT;32:LEFT;23:UP AND LEFT",
    "30:RIGHT;19:DIAGONAL UPPER RIGHT TO LOWER LEFT;34:LEFT TO LOWER RIGHT;28:CROSS;19:LEFT;19:UP",
    "19:RIGHT;19:DOWN;13:HEAVY LEFT;19:UP;19:RIGHT;19:DOWN;13:LIGHT LEFT AND HEAVY RIGHT",
    "19:UP AND HEAVY DOWN;13:HEAVY LEFT AND LIGHT RIGHT;19:UP AND LIGHT DOWN;UPPER HALF BLOCK",
    "LOWER ONE EIGHTH BLOCK;10:QUARTER BLOCK;6:THREE EIGHTHS BLOCK;6:HALF BLOCK",
    "6:FIVE EIGHTHS BLOCK;6:THREE QUARTERS BLOCK;6:SEVEN EIGHTHS BLOCK;FULL BLOCK",
    "LEFT SEVEN EIGHTHS BLOCK;5:THREE QUARTERS BLOCK;5:FIVE EIGHTHS BLOCK;5:HALF BLOCK",
    "5:THREE EIGHTHS BLOCK;5:ONE QUARTER BLOCK;9:EIGHTH BLOCK;RIGHT HALF BLOCK;LIGHT SHADE",
    "MEDIUM SHADE;DARK SHADE;UPPER ONE EIGHTH BLOCK;RIGHT ONE EIGHTH BLOCK;QUADRANT LOWER LEFT",
    "15:RIGHT;9:UPPER LEFT;19: AND LOWER LEFT AND LOWER RIGHT;30:RIGHT",
    "24:UPPER RIGHT AND LOWER LEFT;46:RIGHT;15:RIGHT;20: AND LOWER LEFT;35: AND LOWER RIGHT",
    "BLACK SQUARE;WHITE SQUARE;12: WITH ROUNDED CORNERS;13:CONTAINING BLACK SMALL SQUARE",
    "SQUARE WITH HORIZONTAL FILL;12:VERTICAL FILL;12:ORTHOGONAL CROSSHATCH FILL",
    "12:UPPER LEFT TO LOWER RIGHT FILL;18:RIGHT TO LOWER LEFT FILL;12:DIAGONAL CROSSHATCH FILL",
    "BLACK SMALL SQUARE;WHITE SMALL SQUARE;BLACK RECTANGLE;WHITE RECTANGLE",
    "BLACK VERTICAL RECTANGLE;WHITE VERTICAL RECTANGLE;BLACK PARALLELOGRAM;WHITE PARALLELOGRAM",
    "BLACK UP-POINTING TRIANGLE;WHITE UP-POINTING TRIANGLE;BLACK UP-POINTING SMALL TRIANGLE",
    "WHITE UP-POINTING SMALL TRIANGLE;BLACK RIGHT-POINTING TRIANGLE;WHITE RIGHT-POINTING TRIANGLE",
    "BLACK RIGHT-POINTING SMALL TRIANGLE;WHITE RIGHT-POINTING SMALL TRIANGLE",
    "BLACK RIGHT-POINTING POINTER;WHITE RIGHT-POINTING POINTER;BLACK DOWN-POINTING TRIANGLE",
    "WHITE DOWN-POINTING TRIANGLE;BLACK DOWN-POINTING SMALL TRIANGLE",
    "WHITE DOWN-POINTING SMALL TRIANGLE;BLACK LEFT-POINTING TRIANGLE;WHITE LEFT-POINTING TRIANGLE",
    "BLACK LEFT-POINTING SMALL TRIANGLE;WHITE LEFT-POINTING SMALL TRIANGLE",
    "BLACK LEFT-POINTING POINTER;WHITE LEFT-POINTING POINTER;BLACK DIAMOND;WHITE DIAMOND",
    "13: CONTAINING BLACK SMALL DIAMOND;FISHEYE;LOZENGE;WHITE CIRCLE;DOTTED CIRCLE",
    "CIRCLE WITH VERTICAL FILL;BULLSEYE;BLACK CIRCLE;CIRCLE WITH LEFT HALF BLACK",
    "12:RIGHT HALF BLACK;12:LOWER HALF BLACK;12:UPPER HALF BLACK;18:RIGHT QUADRANT BLACK",
    "12:ALL BUT UPPER LEFT QUADRANT BLACK;LEFT HALF BLACK CIRCLE;RIGHT HALF BLACK CIRCLE",
    "INVERSE BULLET;8:WHITE CIRCLE;UPPER HALF INVERSE WHITE CIRCLE",
    "LOWER HALF INVERSE WHITE CIRCLE;UPPER LEFT QUADRANT CIRCULAR ARC",
    "6:RIGHT QUADRANT CIRCULAR ARC;LOWER RIGHT QUADRANT CIRCULAR ARC;6:LEFT QUADRANT CIRCULAR ARC",
    "UPPER HALF CIRCLE;LOWER HALF CIRCLE;BLACK LOWER RIGHT TRIANGLE;12:LEFT TRIANGLE",
    "6:UPPER LEFT TRIANGLE;12:RIGHT TRIANGLE;WHITE BULLET;SQUARE WITH LEFT HALF BLACK",
    "12:RIGHT HALF BLACK;12:UPPER LEFT DIAGONAL HALF BLACK;12:LOWER RIGHT DIAGONAL HALF BLACK",
    "WHITE SQUARE WITH VERTICAL BISECTING LINE;6:UP-POINTING TRIANGLE WITH DOT",
    "UP-POINTING TRIANGLE WITH LEFT HALF BLACK;26:RIGHT HALF BLACK;LARGE CIRCLE",
    "WHITE SQUARE WITH UPPER LEFT QUADRANT;18:LOWER LEFT QUADRANT;24:RIGHT QUADRANT",
    "18:UPPER RIGHT QUADRANT;6:CIRCLE WITH UPPER LEFT QUADRANT;18:LOWER LEFT QUADRANT",
    "24:RIGHT QUADRANT;18:UPPER RIGHT QUADRANT;UPPER LEFT TRIANGLE;6:RIGHT TRIANGLE",
    "LOWER LEFT TRIANGLE;WHITE MEDIUM SQUARE;BLACK MEDIUM SQUARE;WHITE MEDIUM SMALL SQUARE",
    "BLACK MEDIUM SMALL SQUARE;LOWER RIGHT TRIANGLE;BLACK SUN WITH RAYS;CLOUD;UMBRELLA;SNOWMAN",
    "COMET;BLACK STAR;WHITE STAR;LIGHTNING;THUNDERSTORM;SUN;ASCENDING NODE;DESCENDING NODE",
    "CONJUNCTION;OPPOSITION;BLACK TELEPHONE;WHITE TELEPHONE;BALLOT BOX;10: WITH CHECK;16:X",
    "SALTIRE;UMBRELLA WITH RAIN DROPS;HOT BEVERAGE;WHITE SHOGI PIECE;BLACK SHOGI PIECE;SHAMROCK",
    "REVERSED ROTATED FLORAL HEART BULLET;BLACK LEFT POINTING INDEX;6:RIGHT POINTING INDEX",
    "WHITE LEFT POINTING INDEX;6:UP POINTING INDEX;6:RIGHT POINTING INDEX;6:DOWN POINTING INDEX",
    "SKULL AND CROSSBONES;CAUTION SIGN;RADIOACTIVE SIGN;BIOHAZARD SIGN;CADUCEUS;ANKH",
    "ORTHODOX CROSS;CHI RHO;CROSS OF LORRAINE;9:JERUSALEM;STAR AND CRESCENT;FARSI SYMBOL",
    "ADI SHAKTI;HAMMER AND SICKLE;PEACE SYMBOL;YIN YANG;TRIGRAM FOR HEAVEN;12:LAKE;12:FIRE",
    "12:THUNDER;12:WIND;13:ATER;12:MOUNTAIN;12:EARTH;WHEEL OF DHARMA;WHITE FROWNING FACE",
    "6:SMILING FACE;BLACK SMILING FACE;WHITE SUN WITH RAYS;FIRST QUARTER MOON;LAST QUARTER MOON",
    "MERCURY;FEMALE SIGN;EARTH;MALE SIGN;JUPITER;SATURN;URANUS;NEPTUNE;PLUTO;ARIES;TAURUS;GEMINI",
    "CANCER;LEO;VIRGO;LIBRA;SCORPIUS;SAGITTARIUS;CAPRICORN;AQUARIUS;PISCES;WHITE CHESS KING",
    "12:QUEEN;12:ROOK;12:BISHOP;12:KNIGHT;12:PAWN;BLACK CHESS KING;12:QUEEN;12:ROOK;12:BISHOP",
    "12:KNIGHT;12:PAWN;6:SPADE SUIT;WHITE HEART SUIT;6:DIAMOND SUIT;BLACK CLUB SUIT",
    "WHITE SPADE SUIT;BLACK HEART SUIT;6:DIAMOND SUIT;WHITE CLUB SUIT;HOT SPRINGS;QUARTER NOTE",
    "EIGHTH NOTE;BEAMED EIGHTH NOTES;7:SIXTEENTH NOTES;MUSIC FLAT SIGN;6:NATURAL SIGN",
    "6:SHARP SIGN;WEST SYRIAC CROSS;EAST SYRIAC CROSS;UNIVERSAL RECYCLING SYMBOL",
    "RECYCLING SYMBOL FOR TYPE-1 PLASTICS;26:2 PLASTICS;26:3 PLASTICS;26:4 PLASTICS;26:5 PLASTICS",
    "26:6 PLASTICS;26:7 PLASTICS;21:GENERIC MATERIALS;BLACK UNIVERSAL RECYCLING SYMBOL",
    "RECYCLED PAPER SYMBOL;PARTIALLY-RECYCLED PAPER SYMBOL;PERMANENT PAPER SIGN;WHEELCHAIR SYMBOL",
    "DIE FACE-1;9:2;9:3;9:4;9:5;9:6;WHITE CIRCLE WITH DOT RIGHT;18:TWO DOTS",
    "BLACK CIRCLE WITH WHITE DOT RIGHT;18:TWO WHITE DOTS;MONOGRAM FOR YANG;14:IN",
    "DIGRAM FOR GREATER YANG;11:LESSER YIN;19:ANG;11:GREATER YIN;WHITE FLAG;BLACK FLAG",
    "HAMMER AND PICK;ANCHOR;CROSSED SWORDS;STAFF OF AESCULAPIUS;SCALES;ALEMBIC;FLOWER;GEAR",
    "STAFF OF HERMES;ATOM SYMBOL;FLEUR-DE-LIS;OUTLINED WHITE STAR;THREE LINES CONVERGING RIGHT",
    "23:LEFT;WARNING SIGN;HIGH VOLTAGE SIGN;DOUBLED FEMALE SIGN;8:MALE SIGN",
    "INTERLOCKED FEMALE AND MALE SIGN;MALE AND FEMALE SIGN;5:WITH STROKE SIGN"]),
  (0x26A7, [
    "MALE WITH STROKE AND MALE AND FEMALE SIGN;VERTICAL MALE WITH STROKE SIGN",
    "HORIZONTAL MALE WITH STROKE SIGN;MEDIUM WHITE CIRCLE;7:BLACK CIRCLE;7:SMALL WHITE CIRCLE",
    "MARRIAGE SYMBOL;DIVORCE SYMBOL;UNMARRIED PARTNERSHIP SYMBOL;COFFIN;FUNERAL URN;NEUTER;CERES",
    "PALLAS;JUNO;VESTA;CHIRON;BLACK MOON LILITH;SEXTILE;SEMISEXTILE;QUINCUNX;SESQUIQUADRATE",
    "SOCCER BALL;BASEBALL;SQUARED KEY;WHITE DRAUGHTS MAN;15:KING;BLACK DRAUGHTS MAN;15:KING",
    "SNOWMAN WITHOUT SNOW;SUN BEHIND CLOUD;RAIN;BLACK SNOWMAN;THUNDER CLOUD AND RAIN",
    "TURNED WHITE SHOGI PIECE;7:BLACK SHOGI PIECE;WHITE DIAMOND IN SQUARE;CROSSING LANES",
    "DISABLED CAR;OPHIUCHUS;PICK;CAR SLIDING;HELMET WITH WHITE CROSS;CIRCLED CROSSING LANES",
    "CHAINS;NO ENTRY;ALTERNATE ONE-WAY LEFT WAY TRAFFIC;BLACK TWO-WAY LEFT WAY TRAFFIC",
    "WHITE TWO-WAY LEFT WAY TRAFFIC;BLACK LEFT LANE MERGE;WHITE LEFT LANE MERGE;DRIVE SLOW SIGN",
    "HEAVY WHITE DOWN-POINTING TRIANGLE;LEFT CLOSED ENTRY;SQUARED SALTIRE",
    "FALLING DIAGONAL IN WHITE CIRCLE IN BLACK SQUARE;BLACK TRUCK;RESTRICTED LEFT ENTRY-1;22:2",
    "ASTRONOMICAL SYMBOL FOR URANUS;HEAVY CIRCLE WITH STROKE AND TWO DOTS ABOVE;PENTAGRAM",
    "RIGHT-HANDED INTERLACED PENTAGRAM;LEFT-HANDED INTERLACED PENTAGRAM;INVERTED PENTAGRAM",
    "BLACK CROSS ON SHIELD;SHINTO SHRINE;CHURCH;CASTLE;HISTORIC SITE;GEAR WITHOUT HUB;9: HANDLES",
    "MAP SYMBOL FOR LIGHTHOUSE;MOUNTAIN;UMBRELLA ON GROUND;FOUNTAIN;FLAG IN HOLE;FERRY;SAILBOAT",
    "SQUARE FOUR CORNERS;SKIER;ICE SKATE;PERSON WITH BALL;TENT;JAPANESE BANK SYMBOL",
    "HEADSTONE GRAVEYARD SYMBOL;FUEL PUMP;CUP ON BLACK SQUARE",
    "WHITE FLAG WITH HORIZONTAL MIDDLE BLACK STRIPE;BLACK SAFETY SCISSORS;UPPER BLADE SCISSORS",
    "BLACK SCISSORS;LOWER BLADE SCISSORS;WHITE SCISSORS;6:HEAVY CHECK MARK",
    "TELEPHONE LOCATION SIGN;TAPE DRIVE;AIRPLANE;ENVELOPE;RAISED FIST;7:HAND;VICTORY HAND",
    "WRITING HAND;LOWER RIGHT PENCIL;PENCIL;UPPER RIGHT PENCIL;WHITE NIB;BLACK NIB;CHECK MARK",
    "HEAVY CHECK MARK;MULTIPLICATION X;HEAVY MULTIPLICATION X;BALLOT X;HEAVY BALLOT X",
    "OUTLINED GREEK CROSS;HEAVY GREEK CROSS;OPEN CENTRE CROSS;HEAVY OPEN CENTRE CROSS;LATIN CROSS",
    "SHADOWED WHITE LATIN CROSS;OUTLINED LATIN CROSS;MALTESE CROSS;STAR OF DAVID",
    "FOUR TEARDROP-SPOKED ASTERISK;5:BALLOON-SPOKED ASTERISK;HEAVY FOUR BALLOON-SPOKED ASTERISK",
    "FOUR CLUB-SPOKED ASTERISK;BLACK FOUR POINTED STAR;WHITE FOUR POINTED STAR;SPARKLES",
    "STRESS OUTLINED WHITE STAR;CIRCLED WHITE STAR;OPEN CENTRE BLACK STAR;BLACK CENTRE WHITE STAR",
    "OUTLINED BLACK STAR;HEAVY OUTLINED BLACK STAR;PINWHEEL STAR;SHADOWED WHITE STAR",
    "HEAVY ASTERISK;OPEN CENTRE ASTERISK;EIGHT SPOKED ASTERISK;6:POINTED BLACK STAR",
    "14:PINWHEEL STAR;SIX POINTED BLACK STAR;EIGHT POINTED RECTILINEAR BLACK STAR",
    "HEAVY EIGHT POINTED RECTILINEAR BLACK STAR;TWELVE POINTED BLACK STAR",
    "SIXTEEN POINTED ASTERISK;TEARDROP-SPOKED ASTERISK;OPEN CENTRE TEARDROP-SPOKED ASTERISK",
    "HEAVY TEARDROP-SPOKED ASTERISK;SIX PETALLED BLACK AND WHITE FLORETTE;BLACK FLORETTE",
    "WHITE FLORETTE;EIGHT PETALLED OUTLINED BLACK FLORETTE;CIRCLED OPEN CENTRE EIGHT POINTED STAR",
    "HEAVY TEARDROP-SPOKED PINWHEEL ASTERISK;SNOWFLAKE;TIGHT TRIFOLIATE SNOWFLAKE",
    "HEAVY CHEVRON SNOWFLAKE;SPARKLE;HEAVY SPARKLE;BALLOON-SPOKED ASTERISK",
    "EIGHT TEARDROP-SPOKED PROPELLER ASTERISK;HEAVY EIGHT TEARDROP-SPOKED PROPELLER ASTERISK",
    "CROSS MARK;SHADOWED WHITE CIRCLE;NEGATIVE SQUARED CROSS MARK",
    "LOWER RIGHT DROP-SHADOWED WHITE SQUARE;UPPER RIGHT DROP-SHADOWED WHITE SQUARE",
    "LOWER RIGHT SHADOWED WHITE SQUARE;UPPER RIGHT SHADOWED WHITE SQUARE",
    "BLACK QUESTION MARK ORNAMENT;WHITE QUESTION MARK ORNAMENT;6:EXCLAMATION MARK ORNAMENT",
    "BLACK DIAMOND MINUS WHITE X;HEAVY EXCLAMATION MARK SYMBOL;LIGHT VERTICAL BAR",
    "MEDIUM VERTICAL BAR;HEAVY VERTICAL BAR;6:SINGLE TURNED COMMA QUOTATION MARK ORNAMENT",
    "13:COMMA QUOTATION MARK ORNAMENT;6:DOUBLE TURNED COMMA QUOTATION MARK ORNAMENT",
    "13:COMMA QUOTATION MARK ORNAMENT;6:LOW SINGLE COMMA QUOTATION MARK ORNAMENT",
    "10:DOUBLE COMMA QUOTATION MARK ORNAMENT;CURVED STEM PARAGRAPH SIGN ORNAMENT",
    "HEAVY EXCLAMATION MARK ORNAMENT;6:HEART EXCLAMATION MARK ORNAMENT;6:BLACK HEART",
    "ROTATED HEAVY BLACK HEART BULLET;FLORAL HEART;ROTATED FLORAL HEART BULLET",
    "MEDIUM LEFT PARENTHESIS ORNAMENT;7:RIGHT PARENTHESIS ORNAMENT",
    "7:FLATTENED LEFT PARENTHESIS ORNAMENT;17:RIGHT PARENTHESIS ORNAMENT",
    "7:LEFT-POINTING ANGLE BRACKET ORNAMENT;7:RIGHT-POINTING ANGLE BRACKET ORNAMENT",
    "HEAVY LEFT-POINTING ANGLE QUOTATION MARK ORNAMENT",
    "6:RIGHT-POINTING ANGLE QUOTATION MARK ORNAMENT;6:LEFT-POINTING ANGLE BRACKET ORNAMENT",
    "6:RIGHT-POINTING ANGLE BRACKET ORNAMENT;LIGHT LEFT TORTOISE SHELL BRACKET ORNAMENT",
    "6:RIGHT TORTOISE SHELL BRACKET ORNAMENT;MEDIUM LEFT CURLY BRACKET ORNAMENT",
    "7:RIGHT CURLY BRACKET ORNAMENT;DINGBAT NEGATIVE CIRCLED DIGIT ONE;31:TWO;32:HREE;31:FOUR",
    "32:IVE;31:SIX;32:EVEN;31:EIGHT;31:NINE;25:NUMBER TEN;8:CIRCLED SANS-SERIF DIGIT ONE;33:TWO",
    "34:HREE;33:FOUR;34:IVE;33:SIX;34:EVEN;33:EIGHT;33:NINE;27:NUMBER TEN",
    "8:NEGATIVE CIRCLED SANS-SERIF DIGIT ONE;42:TWO;43:HREE;42:FOUR;43:IVE;42:SIX;43:EVEN",
    "42:EIGHT;42:NINE;36:NUMBER TEN;HEAVY WIDE-HEADED RIGHTWARDS ARROW;6:PLUS SIGN;6:MINUS SIGN",
    "6:DIVISION SIGN;6:SOUTH EAST ARROW;6:RIGHTWARDS ARROW;6:NORTH EAST ARROW",
    "DRAFTING POINT RIGHTWARDS ARROW;HEAVY ROUND-TIPPED RIGHTWARDS ARROW",
    "TRIANGLE-HEADED RIGHTWARDS ARROW;HEAVY TRIANGLE-HEADED RIGHTWARDS ARROW",
    "DASHED TRIANGLE-HEADED RIGHTWARDS ARROW;HEAVY DASHED TRIANGLE-HEADED RIGHTWARDS ARROW",
    "BLACK RIGHTWARDS ARROW;THREE-D TOP-LIGHTED RIGHTWARDS ARROWHEAD",
    "8:BOTTOM-LIGHTED RIGHTWARDS ARROWHEAD;BLACK RIGHTWARDS ARROWHEAD",
    "HEAVY BLACK CURVED DOWNWARDS AND RIGHTWARDS ARROW;19:UPWARDS AND RIGHTWARDS ARROW",
    "SQUAT BLACK RIGHTWARDS ARROW;HEAVY CONCAVE-POINTED BLACK RIGHTWARDS ARROW",
    "RIGHT-SHADED WHITE RIGHTWARDS ARROW;LEFT-SHADED WHITE RIGHTWARDS ARROW",
    "BACK-TILTED SHADOWED WHITE RIGHTWARDS ARROW;FRONT-TILTED SHADOWED WHITE RIGHTWARDS ARROW",
    "HEAVY LOWER RIGHT-SHADOWED WHITE RIGHTWARDS ARROW",
    "6:UPPER RIGHT-SHADOWED WHITE RIGHTWARDS ARROW",
    "NOTCHED LOWER RIGHT-SHADOWED WHITE RIGHTWARDS ARROW;CURLY LOOP",
    "NOTCHED UPPER RIGHT-SHADOWED WHITE RIGHTWARDS ARROW;CIRCLED HEAVY WHITE RIGHTWARDS ARROW",
    "WHITE-FEATHERED RIGHTWARDS ARROW;BLACK-FEATHERED SOUTH EAST ARROW;16:RIGHTWARDS ARROW",
    "16:NORTH EAST ARROW;HEAVY BLACK-FEATHERED SOUTH EAST ARROW;22:RIGHTWARDS ARROW",
    "22:NORTH EAST ARROW;TEARDROP-BARBED RIGHTWARDS ARROW;HEAVY TEARDROP-SHANKED RIGHTWARDS ARROW",
    "WEDGE-TAILED RIGHTWARDS ARROW;HEAVY WEDGE-TAILED RIGHTWARDS ARROW",
    "OPEN-OUTLINED RIGHTWARDS ARROW;DOUBLE CURLY LOOP;THREE DIMENSIONAL ANGLE",
    "WHITE TRIANGLE CONTAINING SMALL WHITE TRIANGLE;PERPENDICULAR;OPEN SUBSET;7:PERSET",
    "LEFT S-SHAPED BAG DELIMITER;RIGHT S-SHAPED BAG DELIMITER;OR WITH DOT INSIDE",
    "REVERSE SOLIDUS PRECEDING SUBSET;SUPERSET PRECEDING SOLIDUS",
    "VERTICAL BAR WITH HORIZONTAL STROKE;MATHEMATICAL RISING DIAGONAL;LONG DIVISION",
    "MATHEMATICAL FALLING DIAGONAL;SQUARED LOGICAL AND;16:OR;WHITE DIAMOND WITH CENTRED DOT",
    "AND WITH DOT;ELEMENT OF OPENING UPWARDS;LOWER RIGHT CORNER WITH DOT",
    "UPPER LEFT CORNER WITH DOT;LEFT OUTER JOIN;RIGHT OUTER JOIN;FULL OUTER JOIN;LARGE UP TACK",
    "6:DOWN TACK;LEFT AND RIGHT DOUBLE TURNSTILE;15:TACK;5:MULTIMAP;LONG RIGHT TACK;5:LEFT TACK",
    "UP TACK WITH CIRCLE ABOVE;LOZENGE DIVIDED BY HORIZONTAL RULE;WHITE CONCAVE-SIDED DIAMOND",
    "27: WITH LEFTWARDS TICK;33:RIGHTWARDS TICK;6:SQUARE WITH LEFTWARDS TICK;18:RIGHTWARDS TICK",
    "MATHEMATICAL LEFT WHITE SQUARE BRACKET;13:RIGHT WHITE SQUARE BRACKET;13:LEFT ANGLE BRACKET",
    "13:RIGHT ANGLE BRACKET;13:LEFT DOUBLE ANGLE BRACKET;13:RIGHT DOUBLE ANGLE BRACKET",
    "13:LEFT WHITE TORTOISE SHELL BRACKET;13:RIGHT WHITE TORTOISE SHELL BRACKET",
    "13:LEFT FLATTENED PARENTHESIS;13:RIGHT FLATTENED PARENTHESIS;UPWARDS QUADRUPLE ARROW",
    "DOWNWARDS QUADRUPLE ARROW;ANTICLOCKWISE GAPPED CIRCLE ARROW;CLOCKWISE GAPPED CIRCLE ARROW",
    "RIGHT ARROW WITH CIRCLED PLUS;LONG LEFTWARDS ARROW;5:RIGHTWARDS ARROW;5:LEFT RIGHT ARROW",
    "9:WARDS DOUBLE ARROW;5:RIGHTWARDS DOUBLE ARROW;5:LEFT RIGHT DOUBLE ARROW",
    "9:WARDS ARROW FROM BAR;5:RIGHTWARDS ARROW FROM BAR;5:LEFTWARDS DOUBLE ARROW FROM BAR",
    "5:RIGHTWARDS DOUBLE ARROW FROM BAR;16:SQUIGGLE ARROW;BRAILLE PATTERN BLANK;16:DOTS-1;21:2",
    "21:12;21:3;21:13;21:23;21:123;21:4;21:14;21:24;21:124;21:34;21:134;21:234;21:1234;21:5;21:15",
    "21:25;21:125;21:35;21:135;21:235;21:1235;21:45;21:145;21:245;21:1245;21:345;21:1345;21:2345",
    "21:12345;21:6;21:16;21:26;21:126;21:36;21:136;21:236;21:1236;21:46;21:146;21:246;21:1246",
    "21:346;21:1346;21:2346;21:12346;21:56;21:156;21:256;21:1256;21:356;21:1356;21:2356;21:12356",
    "21:456;21:1456;21:2456;21:12456;21:3456;21:13456;21:23456;21:123456;21:7;21:17;21:27;21:127",
    "21:37;21:137;21:237;21:1237;21:47;21:147;21:247;21:1247;21:347;21:1347;21:2347;21:12347",
    "21:57;21:157;21:257;21:1257;21:357;21:1357;21:2357;21:12357;21:457;21:1457;21:2457;21:12457",
    "21:3457;21:13457;21:23457;21:123457;21:67;21:167;21:267;21:1267;21:367;21:1367;21:2367",
    "21:12367;21:467;21:1467;21:2467;21:12467;21:3467;21:13467;21:23467;21:123467;21:567;21:1567",
    "21:2567;21:12567;21:3567;21:13567;21:23567;21:123567;21:4567;21:14567;21:24567;21:124567",
    "21:34567;21:134567;21:234567;21:1234567;21:8;21:18;21:28;21:128;21:38;21:138;21:238;21:1238",
    "21:48;21:148;21:248;21:1248;21:348;21:1348;21:2348;21:12348;21:58;21:158;21:258;21:1258",
    "21:358;21:1358;21:2358;21:12358;21:458;21:1458;21:2458;21:12458;21:3458;21:13458;21:23458",
    "21:123458;21:68;21:168;21:268;21:1268;21:368;21:1368;21:2368;21:12368;21:468;21:1468;21:2468",
    "21:12468;21:3468;21:13468;21:23468;21:123468;21:568;21:1568;21:2568;21:12568;21:3568",
    "21:13568;21:23568;21:123568;21:4568;21:14568;21:24568;21:124568;21:34568;21:134568;21:234568",
    "21:1234568;21:78;21:178;21:278;21:1278;21:378;21:1378;21:2378;21:12378;21:478;21:1478",
    "21:2478;21:12478;21:3478;21:13478;21:23478;21:123478;21:578;21:1578;21:2578;21:12578;21:3578",
    "21:13578;21:23578;21:123578;21:4578;21:14578;21:24578;21:124578;21:34578;21:134578;21:234578",
    "21:1234578;21:678;21:1678;21:2678;21:12678;21:3678;21:13678;21:23678;21:123678;21:4678",
    "21:14678;21:24678;21:124678;21:34678;21:134678;21:234678;21:1234678;21:5678;21:15678",
    "21:25678;21:125678;21:35678;21:135678;21:235678;21:1235678;21:45678;21:145678;21:245678",
    "21:1245678;21:345678;21:1345678;21:2345678;21:12345678",
    "RIGHTWARDS TWO-HEADED ARROW WITH VERTICAL STROKE;33:DOUBLE VERTICAL STROKE",
    "LEFTWARDS DOUBLE ARROW WITH VERTICAL STROKE;RIGHTWARDS DOUBLE ARROW WITH VERTICAL STROKE",
    "LEFT RIGHT DOUBLE ARROW WITH VERTICAL STROKE;RIGHTWARDS TWO-HEADED ARROW FROM BAR",
    "LEFTWARDS DOUBLE ARROW FROM BAR;RIGHTWARDS DOUBLE ARROW FROM BAR",
    "DOWNWARDS ARROW WITH HORIZONTAL STROKE;UPWARDS ARROW WITH HORIZONTAL STROKE;8:TRIPLE ARROW",
    "DOWNWARDS TRIPLE ARROW;LEFTWARDS DOUBLE DASH ARROW;RIGHTWARDS DOUBLE DASH ARROW",
    "LEFTWARDS TRIPLE DASH ARROW;RIGHTWARDS TRIPLE DASH ARROW;12:WO-HEADED TRIPLE DASH ARROW",
    "11:ARROW WITH DOTTED STEM;UPWARDS ARROW TO BAR;DOWNWARDS ARROW TO BAR",
    "RIGHTWARDS ARROW WITH TAIL WITH VERTICAL STROKE;32:DOUBLE VERTICAL STROKE",
    "11:TWO-HEADED ARROW WITH TAIL;37: WITH VERTICAL STROKE;43:DOUBLE VERTICAL STROKE",
    "LEFTWARDS ARROW-TAIL;RIGHTWARDS ARROW-TAIL;LEFTWARDS DOUBLE ARROW-TAIL",
    "RIGHTWARDS DOUBLE ARROW-TAIL;LEFTWARDS ARROW TO BLACK DIAMOND",
    "RIGHTWARDS ARROW TO BLACK DIAMOND;LEFTWARDS ARROW FROM BAR TO BLACK DIAMOND",
    "RIGHTWARDS ARROW FROM BAR TO BLACK DIAMOND;NORTH WEST AND SOUTH EAST ARROW",
    "6:EAST AND SOUTH WEST ARROW;6:WEST ARROW WITH HOOK;6:EAST ARROW WITH HOOK",
    "SOUTH EAST ARROW WITH HOOK;6:WEST ARROW WITH HOOK;NORTH WEST ARROW AND NORTH EAST ARROW",
    "6:EAST ARROW AND SOUTH EAST ARROW;SOUTH EAST ARROW AND SOUTH WEST ARROW",
    "6:WEST ARROW AND NORTH WEST ARROW;RISING DIAGONAL CROSSING FALLING DIAGONAL",
    "FALLING DIAGONAL CROSSING RISING DIAGONAL;SOUTH EAST ARROW CROSSING NORTH EAST ARROW",
    "NORTH EAST ARROW CROSSING SOUTH EAST ARROW;FALLING DIAGONAL CROSSING NORTH EAST ARROW",
    "RISING DIAGONAL CROSSING SOUTH EAST ARROW;NORTH EAST ARROW CROSSING NORTH WEST ARROW",
    "6:WEST ARROW CROSSING NORTH EAST ARROW;WAVE ARROW POINTING DIRECTLY RIGHT",
    "ARROW POINTING RIGHTWARDS THEN CURVING UPWARDS;39:DOWNWARDS",
    "15:DOWNWARDS THEN CURVING LEFTWARDS;38:RIGHTWARDS;RIGHT-SIDE ARC CLOCKWISE ARROW",
    "LEFT-SIDE ARC ANTICLOCKWISE ARROW;TOP ARC ANTICLOCKWISE ARROW;BOTTOM ARC ANTICLOCKWISE ARROW",
    "TOP ARC CLOCKWISE ARROW WITH MINUS;8:ANTICLOCKWISE ARROW WITH PLUS",
    "LOWER RIGHT SEMICIRCULAR CLOCKWISE ARROW;6:LEFT SEMICIRCULAR ANTICLOCKWISE ARROW",
    "ANTICLOCKWISE CLOSED CIRCLE ARROW;CLOCKWISE CLOSED CIRCLE ARROW",
    "RIGHTWARDS ARROW ABOVE SHORT LEFTWARDS ARROW;LEFTWARDS ARROW ABOVE SHORT RIGHTWARDS ARROW",
    "SHORT RIGHTWARDS ARROW ABOVE LEFTWARDS ARROW;RIGHTWARDS ARROW WITH PLUS BELOW",
    "LEFTWARDS ARROW WITH PLUS BELOW;RIGHTWARDS ARROW THROUGH X",
    "LEFT RIGHT ARROW THROUGH SMALL CIRCLE;UPWARDS TWO-HEADED ARROW FROM SMALL CIRCLE",
    "LEFT BARB UP RIGHT BARB DOWN HARPOON;10:DOWN RIGHT BARB UP HARPOON",
    "UP BARB RIGHT DOWN BARB LEFT HARPOON;8:LEFT DOWN BARB RIGHT HARPOON",
    "LEFT BARB UP RIGHT BARB UP HARPOON;UP BARB RIGHT DOWN BARB RIGHT HARPOON",
    "LEFT BARB DOWN RIGHT BARB DOWN HARPOON;UP BARB LEFT DOWN BARB LEFT HARPOON",
    "LEFTWARDS HARPOON WITH BARB UP TO BAR;RIGHTWARDS HARPOON WITH BARB UP TO BAR",
    "UPWARDS HARPOON WITH BARB RIGHT TO BAR;DOWNWARDS HARPOON WITH BARB RIGHT TO BAR",
    "LEFTWARDS HARPOON WITH BARB DOWN TO BAR;RIGHTWARDS HARPOON WITH BARB DOWN TO BAR",
    "UPWARDS HARPOON WITH BARB LEFT TO BAR;DOWNWARDS HARPOON WITH BARB LEFT TO BAR",
    "LEFTWARDS HARPOON WITH BARB UP FROM BAR;RIGHTWARDS HARPOON WITH BARB UP FROM BAR",
    "UPWARDS HARPOON WITH BARB RIGHT FROM BAR;DOWNWARDS HARPOON WITH BARB RIGHT FROM BAR",
    "LEFTWARDS HARPOON WITH BARB DOWN FROM BAR;RIGHTWARDS HARPOON WITH BARB DOWN FROM BAR",
    "UPWARDS HARPOON WITH BARB LEFT FROM BAR;DOWNWARDS HARPOON WITH BARB LEFT FROM BAR",
    "LEFTWARDS HARPOON WITH BARB UP ABOVE LEFTWARDS HARPOON WITH BARB DOWN",
    "UPWARDS HARPOON WITH BARB LEFT BESIDE UPWARDS HARPOON WITH BARB RIGHT",
    "RIGHTWARDS HARPOON WITH BARB UP ABOVE RIGHTWARDS HARPOON WITH BARB DOWN",
    "DOWNWARDS HARPOON WITH BARB LEFT BESIDE DOWNWARDS HARPOON WITH BARB RIGHT",
    "LEFTWARDS HARPOON WITH BARB UP ABOVE RIGHTWARDS HARPOON WITH BARB UP",
    "28:DOWN ABOVE RIGHTWARDS HARPOON WITH BARB DOWN",
    "RIGHTWARDS HARPOON WITH BARB UP ABOVE LEFTWARDS HARPOON WITH BARB UP",
    "29:DOWN ABOVE LEFTWARDS HARPOON WITH BARB DOWN",
    "LEFTWARDS HARPOON WITH BARB UP ABOVE LONG DASH;28:DOWN BELOW LONG DASH",
    "RIGHTWARDS HARPOON WITH BARB UP ABOVE LONG DASH;29:DOWN BELOW LONG DASH",
    "UPWARDS HARPOON WITH BARB LEFT BESIDE DOWNWARDS HARPOON WITH BARB RIGHT",
    "DOWNWARDS HARPOON WITH BARB LEFT BESIDE UPWARDS HARPOON WITH BARB RIGHT",
    "RIGHT DOUBLE ARROW WITH ROUNDED HEAD;EQUALS SIGN ABOVE RIGHTWARDS ARROW",
    "TILDE OPERATOR ABOVE RIGHTWARDS ARROW;LEFTWARDS ARROW ABOVE TILDE OPERATOR",
    "RIGHTWARDS ARROW ABOVE TILDE OPERATOR;23:ALMOST EQUAL TO;LESS-THAN ABOVE LEFTWARDS ARROW",
    "LEFTWARDS ARROW THROUGH LESS-THAN;GREATER-THAN ABOVE RIGHTWARDS ARROW",
    "SUBSET ABOVE RIGHTWARDS ARROW;LEFTWARDS ARROW THROUGH SUBSET;SUPERSET ABOVE LEFTWARDS ARROW",
    "LEFT FISH TAIL;RIGHT FISH TAIL;UP FISH TAIL;DOWN FISH TAIL;TRIPLE VERTICAL BAR DELIMITER",
    "Z NOTATION SPOT;11:TYPE COLON;LEFT WHITE CURLY BRACKET;RIGHT WHITE CURLY BRACKET",
    "LEFT WHITE PARENTHESIS;RIGHT WHITE PARENTHESIS;Z NOTATION LEFT IMAGE BRACKET",
    "11:RIGHT IMAGE BRACKET;11:LEFT BINDING BRACKET;11:RIGHT BINDING BRACKET",
    "LEFT SQUARE BRACKET WITH UNDERBAR;RIGHT SQUARE BRACKET WITH UNDERBAR",
    "LEFT SQUARE BRACKET WITH TICK IN TOP CORNER;RIGHT SQUARE BRACKET WITH TICK IN BOTTOM CORNER",
    "LEFT SQUARE BRACKET WITH TICK IN BOTTOM CORNER;RIGHT SQUARE BRACKET WITH TICK IN TOP CORNER",
    "LEFT ANGLE BRACKET WITH DOT;RIGHT ANGLE BRACKET WITH DOT;LEFT ARC LESS-THAN BRACKET",
    "RIGHT ARC GREATER-THAN BRACKET;DOUBLE LEFT ARC GREATER-THAN BRACKET",
    "7:RIGHT ARC LESS-THAN BRACKET;LEFT BLACK TORTOISE SHELL BRACKET",
    "RIGHT BLACK TORTOISE SHELL BRACKET;DOTTED FENCE;VERTICAL ZIGZAG LINE",
    "MEASURED ANGLE OPENING LEFT;RIGHT ANGLE VARIANT WITH SQUARE;MEASURED RIGHT ANGLE WITH DOT",
    "ANGLE WITH S INSIDE;ACUTE ANGLE;SPHERICAL ANGLE OPENING LEFT;24:UP;TURNED ANGLE",
    "REVERSED ANGLE;ANGLE WITH UNDERBAR;REVERSED ANGLE WITH UNDERBAR;OBLIQUE ANGLE OPENING UP",
    "22:DOWN;MEASURED ANGLE WITH OPEN ARM ENDING IN ARROW POINTING UP AND RIGHT;61:LEFT",
    "54:DOWN AND RIGHT;63:LEFT;54:RIGHT AND UP;54:LEFT AND UP;54:RIGHT AND DOWN;54:LEFT AND DOWN",
    "REVERSED EMPTY SET;EMPTY SET WITH OVERBAR;15:SMALL CIRCLE ABOVE;15:RIGHT ARROW ABOVE",
    "15:LEFT ARROW ABOVE;CIRCLE WITH HORIZONTAL BAR;6:D VERTICAL BAR;8:PARALLEL;8:REVERSE SOLIDUS",
    "8:PERPENDICULAR;6: DIVIDED BY HORIZONTAL BAR AND TOP HALF DIVIDED BY VERTICAL BAR",
    "7:WITH SUPERIMPOSED X;6:D ANTICLOCKWISE-ROTATED DIVISION SIGN;UP ARROW THROUGH CIRCLE",
    "CIRCLED WHITE BULLET;8:BULLET;8:LESS-THAN;8:GREATER-THAN;6: WITH SMALL CIRCLE TO THE RIGHT",
    "12:TWO HORIZONTAL STROKES TO THE RIGHT;SQUARED RISING DIAGONAL SLASH",
    "8:FALLING DIAGONAL SLASH;8:ASTERISK;8:SMALL CIRCLE;9:QUARE;TWO JOINED SQUARES",
    "TRIANGLE WITH DOT ABOVE;14:UNDERBAR;S IN TRIANGLE;TRIANGLE WITH SERIFS AT BOTTOM",
    "RIGHT TRIANGLE ABOVE LEFT TRIANGLE;LEFT TRIANGLE BESIDE VERTICAL BAR",
    "VERTICAL BAR BESIDE RIGHT TRIANGLE;BOWTIE WITH LEFT HALF BLACK;12:RIGHT HALF BLACK",
    "BLACK BOWTIE;TIMES WITH LEFT HALF BLACK;11:RIGHT HALF BLACK;WHITE HOURGLASS;BLACK HOURGLASS",
    "LEFT WIGGLY FENCE;RIGHT WIGGLY FENCE;LEFT DOUBLE WIGGLY FENCE;RIGHT DOUBLE WIGGLY FENCE",
    "INCOMPLETE INFINITY;TIE OVER INFINITY;INFINITY NEGATED WITH VERTICAL BAR",
    "DOUBLE-ENDED MULTIMAP;SQUARE WITH CONTOURED OUTLINE;INCREASES AS"]),
  (0x29E2, [
    "SHUFFLE PRODUCT;EQUALS SIGN AND SLANTED PARALLEL;32: WITH TILDE ABOVE",
    "IDENTICAL TO AND SLANTED PARALLEL;GLEICH STARK;THERMODYNAMIC",
    "DOWN-POINTING TRIANGLE WITH LEFT HALF BLACK;28:RIGHT HALF BLACK",
    "BLACK DIAMOND WITH DOWN ARROW;6:LOZENGE;WHITE CIRCLE WITH DOWN ARROW",
    "BLACK CIRCLE WITH DOWN ARROW;ERROR-BARRED WHITE SQUARE;13:BLACK SQUARE;13:WHITE DIAMOND",
    "13:BLACK DIAMOND;13:WHITE CIRCLE;13:BLACK CIRCLE;RULE-DELAYED;REVERSE SOLIDUS OPERATOR",
    "SOLIDUS WITH OVERBAR;REVERSE SOLIDUS WITH HORIZONTAL STROKE;BIG SOLIDUS;4:REVERSE SOLIDUS",
    "DOUBLE PLUS;TRIPLE PLUS;LEFT-POINTING CURVED ANGLE BRACKET",
    "RIGHT-POINTING CURVED ANGLE BRACKET;TINY;MINY;N-ARY CIRCLED DOT OPERATOR;14:PLUS OPERATOR",
    "14:TIMES OPERATOR;6:UNION OPERATOR WITH DOT;26:PLUS;6:SQUARE INTERSECTION OPERATOR",
    "13:UNION OPERATOR;TWO LOGICAL AND OPERATOR;12:OR OPERATOR;N-ARY TIMES OPERATOR",
    "MODULO TWO SUM;SUMMATION WITH INTEGRAL;QUADRUPLE INTEGRAL OPERATOR;FINITE PART INTEGRAL",
    "INTEGRAL WITH DOUBLE STROKE;9:AVERAGE WITH SLASH;CIRCULATION FUNCTION",
    "ANTICLOCKWISE INTEGRATION;LINE INTEGRATION WITH RECTANGULAR PATH AROUND POLE",
    "22:SEMICIRCULAR PATH AROUND POLE;17:NOT INCLUDING THE POLE;INTEGRAL AROUND A POINT OPERATOR",
    "QUATERNION INTEGRAL OPERATOR;INTEGRAL WITH LEFTWARDS ARROW WITH HOOK;14:TIMES SIGN",
    "14:INTERSECTION;14:UNION;14:OVERBAR;14:UNDERBAR;JOIN;LARGE LEFT TRIANGLE OPERATOR",
    "Z NOTATION SCHEMA COMPOSITION;18:PIPING;19:ROJECTION;PLUS SIGN WITH SMALL CIRCLE ABOVE",
    "15:CIRCUMFLEX ACCENT ABOVE;15:TILDE ABOVE;15:DOT BELOW;15:TILDE BELOW;15:SUBSCRIPT TWO",
    "15:BLACK TRIANGLE;MINUS SIGN WITH COMMA ABOVE;16:DOT BELOW;16:FALLING DOTS;16:RISING DOTS",
    "PLUS SIGN IN LEFT HALF CIRCLE;13:RIGHT HALF CIRCLE;VECTOR OR CROSS PRODUCT",
    "MULTIPLICATION SIGN WITH DOT ABOVE;25:UNDERBAR;SEMIDIRECT PRODUCT WITH BOTTOM CLOSED",
    "SMASH PRODUCT;MULTIPLICATION SIGN IN LEFT HALF CIRCLE;23:RIGHT HALF CIRCLE",
    "CIRCLED MULTIPLICATION SIGN WITH CIRCUMFLEX ACCENT;MULTIPLICATION SIGN IN DOUBLE CIRCLE",
    "CIRCLED DIVISION SIGN;PLUS SIGN IN TRIANGLE;MINUS SIGN IN TRIANGLE",
    "MULTIPLICATION SIGN IN TRIANGLE;INTERIOR PRODUCT;RIGHTHAND INTERIOR PRODUCT",
    "Z NOTATION RELATIONAL COMPOSITION;AMALGAMATION OR COPRODUCT;INTERSECTION WITH DOT",
    "UNION WITH MINUS SIGN;11:OVERBAR;INTERSECTION WITH OVERBAR;18:LOGICAL AND",
    "UNION WITH LOGICAL OR;6:ABOVE INTERSECTION;INTERSECTION ABOVE UNION",
    "UNION ABOVE BAR ABOVE INTERSECTION;INTERSECTION ABOVE BAR ABOVE UNION",
    "UNION BESIDE AND JOINED WITH UNION;INTERSECTION BESIDE AND JOINED WITH INTERSECTION",
    "CLOSED UNION WITH SERIFS;7:INTERSECTION WITH SERIFS;DOUBLE SQUARE INTERSECTION;14:UNION",
    "CLOSED UNION WITH SERIFS AND SMASH PRODUCT;LOGICAL AND WITH DOT ABOVE;8:OR WITH DOT ABOVE",
    "DOUBLE LOGICAL AND;15:OR;TWO INTERSECTING LOGICAL AND;25:OR;SLOPING LARGE OR;14:AND",
    "LOGICAL OR OVERLAPPING LOGICAL AND;8:AND WITH MIDDLE STEM;8:OR WITH MIDDLE STEM",
    "8:AND WITH HORIZONTAL DASH;8:OR WITH HORIZONTAL DASH;8:AND WITH DOUBLE OVERBAR;17:UNDERBAR",
    "17:DOUBLE UNDERBAR;SMALL VEE WITH UNDERBAR;LOGICAL OR WITH DOUBLE OVERBAR;23:UNDERBAR",
    "Z NOTATION DOMAIN ANTIRESTRICTION;11:RANGE ANTIRESTRICTION;EQUALS SIGN WITH DOT BELOW",
    "IDENTICAL WITH DOT ABOVE;TRIPLE HORIZONTAL BAR WITH DOUBLE VERTICAL STROKE",
    "27:TRIPLE VERTICAL STROKE;TILDE OPERATOR WITH DOT ABOVE;20:RISING DOTS;SIMILAR MINUS SIMILAR",
    "CONGRUENT WITH DOT ABOVE;EQUALS WITH ASTERISK;ALMOST EQUAL TO WITH CIRCUMFLEX ACCENT",
    "APPROXIMATELY EQUAL OR EQUAL TO;EQUALS SIGN ABOVE PLUS SIGN;PLUS SIGN ABOVE EQUALS SIGN",
    "EQUALS SIGN ABOVE TILDE OPERATOR;DOUBLE COLON EQUAL;TWO CONSECUTIVE EQUALS SIGNS",
    "THREE CONSECUTIVE EQUALS SIGNS;EQUALS SIGN WITH TWO DOTS ABOVE AND TWO DOTS BELOW",
    "3:IVALENT WITH FOUR DOTS ABOVE;LESS-THAN WITH CIRCLE INSIDE;GREATER-THAN WITH CIRCLE INSIDE",
    "LESS-THAN WITH QUESTION MARK ABOVE;GREATER-THAN WITH QUESTION MARK ABOVE",
    "LESS-THAN OR SLANTED EQUAL TO;GREATER-THAN OR SLANTED EQUAL TO",
    "LESS-THAN OR SLANTED EQUAL TO WITH DOT INSIDE",
    "GREATER-THAN OR SLANTED EQUAL TO WITH DOT INSIDE",
    "LESS-THAN OR SLANTED EQUAL TO WITH DOT ABOVE;GREATER-THAN OR SLANTED EQUAL TO WITH DOT ABOVE",
    "LESS-THAN OR SLANTED EQUAL TO WITH DOT ABOVE RIGHT",
    "GREATER-THAN OR SLANTED EQUAL TO WITH DOT ABOVE LEFT;LESS-THAN OR APPROXIMATE",
    "GREATER-THAN OR APPROXIMATE;LESS-THAN AND SINGLE-LINE NOT EQUAL TO",
    "GREATER-THAN AND SINGLE-LINE NOT EQUAL TO;LESS-THAN AND NOT APPROXIMATE",
    "GREATER-THAN AND NOT APPROXIMATE;LESS-THAN ABOVE DOUBLE-LINE EQUAL ABOVE GREATER-THAN",
    "GREATER-THAN ABOVE DOUBLE-LINE EQUAL ABOVE LESS-THAN;LESS-THAN ABOVE SIMILAR OR EQUAL",
    "GREATER-THAN ABOVE SIMILAR OR EQUAL;LESS-THAN ABOVE SIMILAR ABOVE GREATER-THAN",
    "GREATER-THAN ABOVE SIMILAR ABOVE LESS-THAN",
    "LESS-THAN ABOVE GREATER-THAN ABOVE DOUBLE-LINE EQUAL",
    "GREATER-THAN ABOVE LESS-THAN ABOVE DOUBLE-LINE EQUAL",
    "LESS-THAN ABOVE SLANTED EQUAL ABOVE GREATER-THAN ABOVE SLANTED EQUAL",
    "GREATER-THAN ABOVE SLANTED EQUAL ABOVE LESS-THAN ABOVE SLANTED EQUAL",
    "SLANTED EQUAL TO OR LESS-THAN;20:GREATER-THAN;20:LESS-THAN WITH DOT INSIDE",
    "20:GREATER-THAN WITH DOT INSIDE;DOUBLE-LINE EQUAL TO OR LESS-THAN;24:GREATER-THAN",
    "12:SLANTED EQUAL TO OR LESS-THAN;32:GREATER-THAN;SIMILAR OR LESS-THAN;11:GREATER-THAN",
    "8:ABOVE LESS-THAN ABOVE EQUALS SIGN;14:GREATER-THAN ABOVE EQUALS SIGN",
    "DOUBLE NESTED LESS-THAN;14:GREATER-THAN;14:LESS-THAN WITH UNDERBAR",
    "GREATER-THAN OVERLAPPING LESS-THAN;13:BESIDE LESS-THAN;LESS-THAN CLOSED BY CURVE",
    "GREATER-THAN CLOSED BY CURVE;LESS-THAN CLOSED BY CURVE ABOVE SLANTED EQUAL",
    "GREATER-THAN CLOSED BY CURVE ABOVE SLANTED EQUAL;SMALLER THAN;LARGER THAN",
    "SMALLER THAN OR EQUAL TO;LARGER THAN OR EQUAL TO;EQUALS SIGN WITH BUMPY ABOVE",
    "PRECEDES ABOVE SINGLE-LINE EQUALS SIGN;SUCCEEDS ABOVE SINGLE-LINE EQUALS SIGN",
    "PRECEDES ABOVE SINGLE-LINE NOT EQUAL TO;SUCCEEDS ABOVE SINGLE-LINE NOT EQUAL TO",
    "PRECEDES ABOVE EQUALS SIGN;SUCCEEDS ABOVE EQUALS SIGN;PRECEDES ABOVE NOT EQUAL TO",
    "SUCCEEDS ABOVE NOT EQUAL TO;PRECEDES ABOVE ALMOST EQUAL TO;SUCCEEDS ABOVE ALMOST EQUAL TO",
    "PRECEDES ABOVE NOT ALMOST EQUAL TO;SUCCEEDS ABOVE NOT ALMOST EQUAL TO;DOUBLE PRECEDES",
    "7:SUCCEEDS;SUBSET WITH DOT;SUPERSET WITH DOT;SUBSET WITH PLUS SIGN BELOW",
    "SUPERSET WITH PLUS SIGN BELOW;SUBSET WITH MULTIPLICATION SIGN BELOW",
    "SUPERSET WITH MULTIPLICATION SIGN BELOW;SUBSET OF OR EQUAL TO WITH DOT ABOVE",
    "SUPERSET OF OR EQUAL TO WITH DOT ABOVE;SUBSET OF ABOVE EQUALS SIGN",
    "SUPERSET OF ABOVE EQUALS SIGN;SUBSET OF ABOVE TILDE OPERATOR",
    "SUPERSET OF ABOVE TILDE OPERATOR;SUBSET OF ABOVE ALMOST EQUAL TO",
    "SUPERSET OF ABOVE ALMOST EQUAL TO;SUBSET OF ABOVE NOT EQUAL TO",
    "SUPERSET OF ABOVE NOT EQUAL TO;SQUARE LEFT OPEN BOX OPERATOR;7:RIGHT OPEN BOX OPERATOR",
    "CLOSED SUBSET;9:PERSET;9:BSET OR EQUAL TO;9:PERSET OR EQUAL TO;SUBSET ABOVE SUPERSET",
    "SUPERSET ABOVE SUBSET;SUBSET ABOVE SUBSET;SUPERSET ABOVE SUPERSET;9:BESIDE SUBSET",
    "16:AND JOINED BY DASH WITH SUBSET;ELEMENT OF OPENING DOWNWARDS;PITCHFORK WITH TEE TOP",
    "TRANSVERSAL INTERSECTION;FORKING;NONFORKING;SHORT LEFT TACK;6:DOWN TACK;6:UP TACK",
    "PERPENDICULAR WITH S;VERTICAL BAR TRIPLE RIGHT TURNSTILE;DOUBLE VERTICAL BAR LEFT TURNSTILE",
    "VERTICAL BAR DOUBLE LEFT TURNSTILE;DOUBLE VERTICAL BAR DOUBLE LEFT TURNSTILE",
    "LONG DASH FROM LEFT MEMBER OF DOUBLE VERTICAL;SHORT DOWN TACK WITH OVERBAR",
    "6:UP TACK WITH UNDERBAR;14:ABOVE SHORT DOWN TACK;DOUBLE DOWN TACK;7:UP TACK",
    "7:STROKE NOT SIGN;REVERSED DOUBLE STROKE NOT SIGN",
    "DOES NOT DIVIDE WITH REVERSED NEGATION SLASH;VERTICAL LINE WITH CIRCLE ABOVE;26:BELOW",
    "DOWN TACK WITH CIRCLE BELOW;PARALLEL WITH HORIZONTAL STROKE;14:TILDE OPERATOR",
    "TRIPLE VERTICAL BAR BINARY RELATION;20:WITH HORIZONTAL STROKE;7:COLON OPERATOR",
    "7:NESTED LESS-THAN;14:GREATER-THAN;DOUBLE-LINE SLANTED LESS-THAN OR EQUAL TO",
    "20:GREATER-THAN OR EQUAL TO;TRIPLE SOLIDUS BINARY RELATION",
    "LARGE TRIPLE VERTICAL BAR OPERATOR;DOUBLE SOLIDUS OPERATOR;WHITE VERTICAL BAR",
    "N-ARY WHITE VERTICAL BAR;NORTH EAST WHITE ARROW;6:WEST WHITE ARROW;SOUTH EAST WHITE ARROW",
    "6:WEST WHITE ARROW;LEFT RIGHT WHITE ARROW;4:WARDS BLACK ARROW;UPWARDS BLACK ARROW",
    "DOWNWARDS BLACK ARROW;NORTH EAST BLACK ARROW;6:WEST BLACK ARROW;SOUTH EAST BLACK ARROW",
    "6:WEST BLACK ARROW;LEFT RIGHT BLACK ARROW;UP DOWN BLACK ARROW",
    "RIGHTWARDS ARROW WITH TIP DOWNWARDS;26:UPWARDS;LEFTWARDS ARROW WITH TIP DOWNWARDS;25:UPWARDS",
    "SQUARE WITH TOP HALF BLACK;12:BOTTOM HALF BLACK;12:UPPER RIGHT DIAGONAL HALF BLACK",
    "12:LOWER LEFT DIAGONAL HALF BLACK;DIAMOND WITH LEFT HALF BLACK;13:RIGHT HALF BLACK",
    "13:TOP HALF BLACK;13:BOTTOM HALF BLACK;DOTTED SQUARE;BLACK LARGE SQUARE;WHITE LARGE SQUARE",
    "BLACK VERY SMALL SQUARE;WHITE VERY SMALL SQUARE;BLACK PENTAGON;WHITE PENTAGON;6:HEXAGON",
    "BLACK HEXAGON;HORIZONTAL BLACK HEXAGON;BLACK LARGE CIRCLE;6:MEDIUM DIAMOND",
    "WHITE MEDIUM DIAMOND;BLACK MEDIUM LOZENGE;WHITE MEDIUM LOZENGE;BLACK SMALL DIAMOND",
    "12:LOZENGE;WHITE SMALL LOZENGE;BLACK HORIZONTAL ELLIPSE;WHITE HORIZONTAL ELLIPSE",
    "BLACK VERTICAL ELLIPSE;WHITE VERTICAL ELLIPSE;LEFT ARROW WITH SMALL CIRCLE",
    "THREE LEFTWARDS ARROWS;LEFT ARROW WITH CIRCLED PLUS;LONG LEFTWARDS SQUIGGLE ARROW",
    "LEFTWARDS TWO-HEADED ARROW WITH VERTICAL STROKE;32:DOUBLE VERTICAL STROKE;27:FROM BAR",
    "21:TRIPLE DASH ARROW;10:ARROW WITH DOTTED STEM;21:TAIL WITH VERTICAL STROKE",
    "31:DOUBLE VERTICAL STROKE;10:TWO-HEADED ARROW WITH TAIL;36: WITH VERTICAL STROKE",
    "42:DOUBLE VERTICAL STROKE;10:ARROW THROUGH X;WAVE ARROW POINTING DIRECTLY LEFT",
    "EQUALS SIGN ABOVE LEFTWARDS ARROW;REVERSE TILDE OPERATOR ABOVE LEFTWARDS ARROW",
    "LEFTWARDS ARROW ABOVE REVERSE ALMOST EQUAL TO;RIGHTWARDS ARROW THROUGH GREATER-THAN",
    "25:SUPERSET;LEFTWARDS QUADRUPLE ARROW;RIGHTWARDS QUADRUPLE ARROW",
    "REVERSE TILDE OPERATOR ABOVE RIGHTWARDS ARROW;RIGHTWARDS ARROW ABOVE REVERSE ALMOST EQUAL TO",
    "TILDE OPERATOR ABOVE LEFTWARDS ARROW;LEFTWARDS ARROW ABOVE ALMOST EQUAL TO",
    "22:REVERSE TILDE OPERATOR;RIGHTWARDS ARROW ABOVE REVERSE TILDE OPERATOR",
    "DOWNWARDS TRIANGLE-HEADED ZIGZAG ARROW;SHORT SLANTED NORTH ARROW;6:BACKSLANTED SOUTH ARROW",
    "WHITE MEDIUM STAR;BLACK SMALL STAR;WHITE SMALL STAR;BLACK RIGHT-POINTING PENTAGON",
    "WHITE RIGHT-POINTING PENTAGON;HEAVY LARGE CIRCLE;6:OVAL WITH OVAL INSIDE",
    "6:CIRCLE WITH CIRCLE INSIDE;12:;12:D SALTIRE;SLANTED NORTH ARROW WITH HOOKED HEAD",
    "BACKSLANTED SOUTH ARROW WITH HOOKED TAIL;SLANTED NORTH ARROW WITH HORIZONTAL TAIL",
    "BACKSLANTED SOUTH ARROW WITH HORIZONTAL TAIL;BENT ARROW POINTING DOWNWARDS THEN NORTH EAST",
    "SHORT BENT ARROW POINTING DOWNWARDS THEN NORTH EAST;LEFTWARDS TRIANGLE-HEADED ARROW",
    "UPWARDS TRIANGLE-HEADED ARROW;RIGHTWARDS TRIANGLE-HEADED ARROW",
    "DOWNWARDS TRIANGLE-HEADED ARROW;LEFT RIGHT TRIANGLE-HEADED ARROW",
    "UP DOWN TRIANGLE-HEADED ARROW;NORTH WEST TRIANGLE-HEADED ARROW;6:EAST TRIANGLE-HEADED ARROW",
    "SOUTH EAST TRIANGLE-HEADED ARROW;6:WEST TRIANGLE-HEADED ARROW",
    "LEFTWARDS TRIANGLE-HEADED DASHED ARROW;UPWARDS TRIANGLE-HEADED DASHED ARROW",
    "RIGHTWARDS TRIANGLE-HEADED DASHED ARROW;DOWNWARDS TRIANGLE-HEADED DASHED ARROW",
    "CLOCKWISE TRIANGLE-HEADED OPEN CIRCLE ARROW;ANTICLOCKWISE TRIANGLE-HEADED OPEN CIRCLE ARROW",
    "LEFTWARDS TRIANGLE-HEADED ARROW TO BAR;UPWARDS TRIANGLE-HEADED ARROW TO BAR",
    "RIGHTWARDS TRIANGLE-HEADED ARROW TO BAR;DOWNWARDS TRIANGLE-HEADED ARROW TO BAR;;",
    "NORTH WEST TRIANGLE-HEADED ARROW TO BAR;6:EAST TRIANGLE-HEADED ARROW TO BAR",
    "SOUTH EAST TRIANGLE-HEADED ARROW TO BAR;6:WEST TRIANGLE-HEADED ARROW TO BAR",
    "LEFTWARDS TRIANGLE-HEADED ARROW WITH DOUBLE HORIZONTAL STROKE",
    "UPWARDS TRIANGLE-HEADED ARROW WITH DOUBLE HORIZONTAL STROKE",
    "RIGHTWARDS TRIANGLE-HEADED ARROW WITH DOUBLE HORIZONTAL STROKE",
    "DOWNWARDS TRIANGLE-HEADED ARROW WITH DOUBLE HORIZONTAL STROKE;HORIZONTAL TAB KEY",
    "VERTICAL TAB KEY;LEFTWARDS TRIANGLE-HEADED ARROW OVER RIGHTWARDS TRIANGLE-HEADED ARROW",
    "UPWARDS TRIANGLE-HEADED ARROW LEFTWARDS OF DOWNWARDS TRIANGLE-HEADED ARROW",
    "RIGHTWARDS TRIANGLE-HEADED ARROW OVER LEFTWARDS TRIANGLE-HEADED ARROW",
    "DOWNWARDS TRIANGLE-HEADED ARROW LEFTWARDS OF UPWARDS TRIANGLE-HEADED ARROW",
    "LEFTWARDS TRIANGLE-HEADED PAIRED ARROWS;UPWARDS TRIANGLE-HEADED PAIRED ARROWS",
    "RIGHTWARDS TRIANGLE-HEADED PAIRED ARROWS;DOWNWARDS TRIANGLE-HEADED PAIRED ARROWS",
    "LEFTWARDS BLACK CIRCLED WHITE ARROW;UPWARDS BLACK CIRCLED WHITE ARROW",
    "RIGHTWARDS BLACK CIRCLED WHITE ARROW;DOWNWARDS BLACK CIRCLED WHITE ARROW",
    "ANTICLOCKWISE TRIANGLE-HEADED RIGHT U-SHAPED ARROW;30:BOTTOM U-SHAPED ARROW",
    "30:LEFT U-SHAPED ARROW;30:TOP U-SHAPED ARROW;RETURN LEFT;7:RIGHT;NEWLINE LEFT;8:RIGHT",
    "FOUR CORNER ARROWS CIRCLING ANTICLOCKWISE;RIGHTWARDS BLACK ARROW;",
    "SYMBOL FOR TYPE A ELECTRONICS;THREE-D TOP-LIGHTED LEFTWARDS EQUILATERAL ARROWHEAD",
    "8:RIGHT-LIGHTED UPWARDS EQUILATERAL ARROWHEAD;8:TOP-LIGHTED RIGHTWARDS EQUILATERAL ARROWHEAD",
    "8:LEFT-LIGHTED DOWNWARDS EQUILATERAL ARROWHEAD;BLACK LEFTWARDS EQUILATERAL ARROWHEAD",
    "6:UPWARDS EQUILATERAL ARROWHEAD;6:RIGHTWARDS EQUILATERAL ARROWHEAD",
    "6:DOWNWARDS EQUILATERAL ARROWHEAD;DOWNWARDS TRIANGLE-HEADED ARROW WITH LONG TIP LEFTWARDS",
    "46:RIGHTWARDS;UPWARDS TRIANGLE-HEADED ARROW WITH LONG TIP LEFTWARDS;44:RIGHTWARDS",
    "LEFTWARDS TRIANGLE-HEADED ARROW WITH LONG TIP UPWARDS",
    "RIGHTWARDS TRIANGLE-HEADED ARROW WITH LONG TIP UPWARDS",
    "LEFTWARDS TRIANGLE-HEADED ARROW WITH LONG TIP DOWNWARDS",
    "RIGHTWARDS TRIANGLE-HEADED ARROW WITH LONG TIP DOWNWARDS",
    "BLACK CURVED DOWNWARDS AND LEFTWARDS ARROW;27:RIGHTWARDS ARROW",
    "13:UPWARDS AND LEFTWARDS ARROW;25:RIGHTWARDS ARROW;13:LEFTWARDS AND UPWARDS ARROW",
    "13:RIGHTWARDS AND UPWARDS ARROW;13:LEFTWARDS AND DOWNWARDS ARROW",
    "13:RIGHTWARDS AND DOWNWARDS ARROW;RIBBON ARROW DOWN LEFT;18:RIGHT;13:UP LEFT;16:RIGHT",
    "13:LEFT UP;13:RIGHT UP;13:LEFT DOWN;13:RIGHT DOWN",
    "UPWARDS WHITE ARROW FROM BAR WITH HORIZONTAL BAR;UP ARROWHEAD IN A RECTANGLE BOX",
    "OVERLAPPING WHITE SQUARES;18:AND BLACK SQUARES;12:BLACK SQUARES;BALLOT BOX WITH LIGHT X",
    "CIRCLED X;8:BOLD X;BLACK SQUARE CENTRED;6:DIAMOND CENTRED;TURNED BLACK PENTAGON",
    "HORIZONTAL BLACK OCTAGON;BLACK OCTAGON;6:MEDIUM UP-POINTING TRIANGLE CENTRED",
    "13:DOWN-POINTING TRIANGLE CENTRED;13:LEFT-POINTING TRIANGLE CENTRED",
    "13:RIGHT-POINTING TRIANGLE CENTRED;NEPTUNE FORM TWO;TOP HALF BLACK CIRCLE",
    "BOTTOM HALF BLACK CIRCLE;LIGHT FOUR POINTED BLACK CUSP;ROTATED LIGHT FOUR POINTED BLACK CUSP",
    "WHITE FOUR POINTED CUSP;ROTATED WHITE FOUR POINTED CUSP;SQUARE POSITION INDICATOR",
    "UNCERTAINTY SIGN;GROUP MARK;PLUTO FORM TWO;12:HREE;11:FOUR;12:IVE;TRANSPLUTO;PROSERPINA",
    "ASTRAEA;HYGIEA;PHOLUS;NESSUS;WHITE MOON SELENA;BLACK DIAMOND ON CROSS;TRUE LIGHT MOON ARTA",
    "CUPIDO;HADES;ZEUS;KRONOS;APOLLON;ADMETOS;VULCANUS;POSEIDON;LEFT HALF BLACK STAR",
    "RIGHT HALF BLACK STAR;STAR WITH LEFT HALF BLACK;10:RIGHT HALF BLACK",
    "LEFTWARDS TWO-HEADED ARROW WITH TRIANGLE ARROWHEADS",
    "UPWARDS TWO-HEADED ARROW WITH TRIANGLE ARROWHEADS",
    "RIGHTWARDS TWO-HEADED ARROW WITH TRIANGLE ARROWHEADS",
    "DOWNWARDS TWO-HEADED ARROW WITH TRIANGLE ARROWHEADS;ERIS FORM ONE;10:TWO;SEDNA",
    "RUSSIAN ASTROLOGICAL SYMBOL VIGINTILE;28:NOVILE;28:QUINTILE;28:BINOVILE;28:SENTAGON",
    "28:TREDECILE;EQUALS SIGN WITH INFINITY BELOW;UNITED SYMBOL;SEPARATED SYMBOL;DOUBLED SYMBOL",
    "PASSED SYMBOL;REVERSED RIGHT ANGLE;HELLSCHREIBER PAUSE SYMBOL;GLAGOLITIC CAPITAL LETTER AZU",
    "26:BUKY;26:VEDE;26:GLAGOLI;26:DOBRO;26:YESTU;26:ZHIVETE;26:DZELO;26:ZEMLJA;26:IZHE",
    "27:NITIAL IZHE;27:;26:DJERVI;26:KAKO;26:LJUDIJE;26:MYSLITE;26:NASHI;26:ONU;26:POKOJI",
    "26:RITSI;26:SLOVO;26:TVRIDO;26:UKU;26:FRITU;26:HERU;26:OTU;26:PE;26:SHTA;26:TSI;26:CHRIVI",
    "26:SHA;26:YERU;29:I;27:ATI;26:SPIDERY HA;26:YU;26:SMALL YUS;35: WITH TAIL;26:YO",
    "26:IOTATED SMALL YUS;26:BIG YUS;26:IOTATED BIG YUS;26:FITA;26:IZHITSA;26:SHTAPIC",
    "26:TROKUTASTI A;26:LATINATE MYSLITE;26:CAUDATE CHRIVI;11:SMALL LETTER AZU;24:BUKY;24:VEDE",
    "24:GLAGOLI;24:DOBRO;24:YESTU;24:ZHIVETE;24:DZELO;24:ZEMLJA;24:IZHE;25:NITIAL IZHE;25:",
    "24:DJERVI;24:KAKO;24:LJUDIJE;24:MYSLITE;24:NASHI;24:ONU;24:POKOJI;24:RITSI;24:SLOVO",
    "24:TVRIDO;24:UKU;24:FRITU;24:HERU;24:OTU;24:PE;24:SHTA;24:TSI;24:CHRIVI;24:SHA;24:YERU;27:I",
    "25:ATI;24:SPIDERY HA;24:YU;24:SMALL YUS;33: WITH TAIL;24:YO;24:IOTATED SMALL YUS;24:BIG YUS",
    "24:IOTATED BIG YUS;24:FITA;24:IZHITSA;24:SHTAPIC;24:TROKUTASTI A;24:LATINATE MYSLITE",
    "24:CAUDATE CHRIVI;LATIN CAPITAL LETTER L WITH DOUBLE BAR;6:SMALL LETTER L WITH DOUBLE BAR",
    "6:CAPITAL LETTER L WITH MIDDLE TILDE;21:P WITH STROKE;21:R WITH TAIL",
    "6:SMALL LETTER A WITH STROKE;19:T WITH DIAGONAL STROKE;6:CAPITAL LETTER H WITH DESCENDER",
    "6:SMALL LETTER H WITH DESCENDER;6:CAPITAL LETTER K WITH DESCENDER",
    "6:SMALL LETTER K WITH DESCENDER;6:CAPITAL LETTER Z WITH DESCENDER",
    "6:SMALL LETTER Z WITH DESCENDER;6:CAPITAL LETTER ALPHA;21:M WITH HOOK;21:TURNED A;29:LPHA",
    "6:SMALL LETTER V WITH RIGHT HOOK;6:CAPITAL LETTER W WITH HOOK;6:SMALL LETTER W WITH HOOK",
    "19:V WITH CURL;6:CAPITAL LETTER HALF H;6:SMALL LETTER HALF H;19:TAILLESS PHI;19:E WITH NOTCH",
    "19:TURNED R WITH TAIL;19:O WITH LOW RING INSIDE;6:LETTER SMALL CAPITAL TURNED E",
    "6:SUBSCRIPT SMALL LETTER J;MODIFIER LETTER CAPITAL V;LATIN CAPITAL LETTER S WITH SWASH TAIL",
    "21:Z WITH SWASH TAIL;COPTIC CAPITAL LETTER ALFA;7:SMALL LETTER ALFA;7:CAPITAL LETTER VIDA",
    "7:SMALL LETTER VIDA;7:CAPITAL LETTER GAMMA;7:SMALL LETTER GAMMA;7:CAPITAL LETTER DALDA",
    "7:SMALL LETTER DALDA;7:CAPITAL LETTER EIE;7:SMALL LETTER EIE;7:CAPITAL LETTER SOU",
    "7:SMALL LETTER SOU;7:CAPITAL LETTER ZATA;7:SMALL LETTER ZATA;7:CAPITAL LETTER HATE",
    "7:SMALL LETTER HATE;7:CAPITAL LETTER THETHE;7:SMALL LETTER THETHE;7:CAPITAL LETTER IAUDA",
    "7:SMALL LETTER IAUDA;7:CAPITAL LETTER KAPA;7:SMALL LETTER KAPA;7:CAPITAL LETTER LAULA",
    "7:SMALL LETTER LAULA;7:CAPITAL LETTER MI;7:SMALL LETTER MI;7:CAPITAL LETTER NI",
    "7:SMALL LETTER NI;7:CAPITAL LETTER KSI;7:SMALL LETTER KSI;7:CAPITAL LETTER O",
    "7:SMALL LETTER O;7:CAPITAL LETTER PI;7:SMALL LETTER PI;7:CAPITAL LETTER RO;7:SMALL LETTER RO",
    "7:CAPITAL LETTER SIMA;7:SMALL LETTER SIMA;7:CAPITAL LETTER TAU;7:SMALL LETTER TAU",
    "7:CAPITAL LETTER UA;7:SMALL LETTER UA;7:CAPITAL LETTER FI;7:SMALL LETTER FI",
    "7:CAPITAL LETTER KHI;7:SMALL LETTER KHI;7:CAPITAL LETTER PSI;7:SMALL LETTER PSI",
    "7:CAPITAL LETTER OOU;7:SMALL LETTER OOU;7:CAPITAL LETTER DIALECT-P ALEF",
    "7:SMALL LETTER DIALECT-P ALEF;7:CAPITAL LETTER OLD COPTIC AIN;7:SMALL LETTER OLD COPTIC AIN",
    "7:CAPITAL LETTER CRYPTOGRAMMIC EIE;7:SMALL LETTER CRYPTOGRAMMIC EIE",
    "7:CAPITAL LETTER DIALECT-P KAPA;7:SMALL LETTER DIALECT-P KAPA;7:CAPITAL LETTER DIALECT-P NI",
    "7:SMALL LETTER DIALECT-P NI;7:CAPITAL LETTER CRYPTOGRAMMIC NI",
    "7:SMALL LETTER CRYPTOGRAMMIC NI;7:CAPITAL LETTER OLD COPTIC OOU",
    "7:SMALL LETTER OLD COPTIC OOU;7:CAPITAL LETTER SAMPI;7:SMALL LETTER SAMPI",
    "7:CAPITAL LETTER CROSSED SHEI;7:SMALL LETTER CROSSED SHEI;7:CAPITAL LETTER OLD COPTIC SHEI",
    "7:SMALL LETTER OLD COPTIC SHEI;7:CAPITAL LETTER OLD COPTIC ESH;7:SMALL LETTER OLD COPTIC ESH",
    "7:CAPITAL LETTER AKHMIMIC KHEI;7:SMALL LETTER AKHMIMIC KHEI;7:CAPITAL LETTER DIALECT-P HORI",
    "7:SMALL LETTER DIALECT-P HORI;7:CAPITAL LETTER OLD COPTIC HORI",
    "7:SMALL LETTER OLD COPTIC HORI;7:CAPITAL LETTER OLD COPTIC HA;7:SMALL LETTER OLD COPTIC HA",
    "7:CAPITAL LETTER L-SHAPED HA;7:SMALL LETTER L-SHAPED HA;7:CAPITAL LETTER OLD COPTIC HEI",
    "7:SMALL LETTER OLD COPTIC HEI;7:CAPITAL LETTER OLD COPTIC HAT;7:SMALL LETTER OLD COPTIC HAT",
    "7:CAPITAL LETTER OLD COPTIC GANGIA;7:SMALL LETTER OLD COPTIC GANGIA",
    "7:CAPITAL LETTER OLD COPTIC DJA;7:SMALL LETTER OLD COPTIC DJA",
    "7:CAPITAL LETTER OLD COPTIC SHIMA;7:SMALL LETTER OLD COPTIC SHIMA",
    "7:CAPITAL LETTER OLD NUBIAN SHIMA;7:SMALL LETTER OLD NUBIAN SHIMA",
    "7:CAPITAL LETTER OLD NUBIAN NGI;7:SMALL LETTER OLD NUBIAN NGI",
    "7:CAPITAL LETTER OLD NUBIAN NYI;7:SMALL LETTER OLD NUBIAN NYI",
    "7:CAPITAL LETTER OLD NUBIAN WAU;7:SMALL LETTER OLD NUBIAN WAU;8:YMBOL KAI;14:MI RO;14:PI RO",
    "14:STAUROS"]),
  (0x2CE8, [
    "COPTIC SYMBOL TAU RO;14:KHI RO;14:SHIMA SIMA;7:CAPITAL LETTER CRYPTOGRAMMIC SHEI",
    "7:SMALL LETTER CRYPTOGRAMMIC SHEI;7:CAPITAL LETTER CRYPTOGRAMMIC GANGIA",
    "7:SMALL LETTER CRYPTOGRAMMIC GANGIA;7:COMBINING NI ABOVE;17:SPIRITUS ASPER;26:LENIS",
    "8:APITAL LETTER BOHAIRIC KHEI;7:SMALL LETTER BOHAIRIC KHEI;;;;;;COPTIC OLD NUBIAN FULL STOP",
    "18:DIRECT QUESTION MARK;18:INDIRECT QUESTION MARK;18:VERSE DIVIDER;7:FRACTION ONE HALF",
    "8:ULL STOP;7:MORPHOLOGICAL DIVIDER;GEORGIAN SMALL LETTER AN;22:BAN;22:GAN;22:DON;22:EN",
    "22:VIN;22:ZEN;22:TAN;22:IN;22:KAN;22:LAS;22:MAN;22:NAR;22:ON;22:PAR;22:ZHAR;22:RAE;22:SAN",
    "22:TAR;22:UN;22:PHAR;22:KHAR;22:GHAN;22:QAR;22:SHIN;22:CHIN;23:AN;22:JIL;22:CIL;23:HAR",
    "22:XAN;22:JHAN;22:HAE;23:E;23:IE;22:WE;22:HAR;23:OE;;GEORGIAN SMALL LETTER YN;;;;;",
    "GEORGIAN SMALL LETTER AEN;;;TIFINAGH LETTER YA;18:B;19:H;18:G;19:HH;16:BERBER ACADEMY YAJ",
    "16:YAJ;18:D;19:H;19:D;20:H;17:EY;17:AF;18:K;16:TUAREG YAK;16:YAKHH;18:H",
    "16:BERBER ACADEMY YAH;16:TUAREG YAH;16:YAHH;18:A;18:KH;16:TUAREG YAKH;16:YAQ;16:TUAREG YAQ",
    "16:YI;17:AZH;16:AHAGGAR YAZH;16:TUAREG YAZH;16:YAL;18:M;18:N;16:TUAREG YAGN;25:NG;16:YAP",
    "17:U;17:AR;19:R;18:GH;16:TUAREG YAGH;16:AYER YAGH;16:YAS;19:S;19:H;18:T;19:H;18:CH;18:TT",
    "18:V;18:W;18:Y;18:Z;16:TAWELLEMET YAZ;16:YAZZ;17:E;17:O;;;;;;;",
    "TIFINAGH MODIFIER LETTER LABIALIZATION MARK;9:SEPARATOR MARK;;;;;;;;;;;;;;",
    "TIFINAGH CONSONANT JOINER;ETHIOPIC SYLLABLE LOA;18:MOA;18:ROA;18:SOA;19:HOA;18:BOA;18:TOA",
    "18:COA;18:NOA;19:YOA;18:GLOTTAL OA;18:ZOA;18:DOA;19:DOA;18:JOA;18:THOA;18:CHOA;18:PHOA;19:OA",
    "18:GGWA;21:I;21:EE;22:;;;;;;;;;;ETHIOPIC SYLLABLE SSA;20:U;20:I;20:AA;20:EE;21:;20:O;",
    "ETHIOPIC SYLLABLE CCA;20:U;20:I;20:AA;20:EE;21:;20:O;;ETHIOPIC SYLLABLE ZZA;20:U;20:I;20:AA",
    "20:EE;21:;20:O;;ETHIOPIC SYLLABLE CCHA;21:U;21:I;21:AA;21:EE;22:;21:O;;ETHIOPIC SYLLABLE QYA",
    "20:U;20:I;20:AA;20:EE;21:;20:O;;ETHIOPIC SYLLABLE KYA;20:U;20:I;20:AA;20:EE;21:;20:O;",
    "ETHIOPIC SYLLABLE XYA;20:U;20:I;20:AA;20:EE;21:;20:O;;ETHIOPIC SYLLABLE GYA;20:U;20:I;20:AA",
    "20:EE;21:;20:O;;COMBINING CYRILLIC LETTER BE;26:VE;26:GHE;26:DE;26:ZHE;27:E;26:KA;26:EL;27:M",
    "27:N;26:O;26:PE;26:ER;27:S;26:TE;26:HA;26:TSE;26:CHE;26:SHA;28:CHA;26:FITA;26:ES-TE;26:A",
    "26:IE;26:DJERV;26:MONOGRAPH UK;26:YAT;27:U;26:IOTIFIED A;26:LITTLE YUS;26:BIG YUS",
    "26:IOTIFIED BIG YUS;RIGHT ANGLE SUBSTITUTION MARKER;12:DOTTED SUBSTITUTION MARKER",
    "LEFT SUBSTITUTION BRACKET;RIGHT SUBSTITUTION BRACKET;LEFT DOTTED SUBSTITUTION BRACKET",
    "RIGHT DOTTED SUBSTITUTION BRACKET;RAISED INTERPOLATION MARKER;7:DOTTED INTERPOLATION MARKER",
    "DOTTED TRANSPOSITION MARKER;LEFT TRANSPOSITION BRACKET;RIGHT TRANSPOSITION BRACKET",
    "RAISED SQUARE;LEFT RAISED OMISSION BRACKET;RIGHT RAISED OMISSION BRACKET;EDITORIAL CORONIS",
    "PARAGRAPHOS;FORKED PARAGRAPHOS;REVERSED FORKED PARAGRAPHOS;HYPODIASTOLE;DOTTED OBELOS",
    "DOWNWARDS ANCORA;UPWARDS ANCORA;DOTTED RIGHT-POINTING ANGLE;DOUBLE OBLIQUE HYPHEN",
    "INVERTED INTERROBANG;PALM BRANCH;HYPHEN WITH DIAERESIS;TILDE WITH RING ABOVE",
    "LEFT LOW PARAPHRASE BRACKET;RIGHT LOW PARAPHRASE BRACKET;TILDE WITH DOT ABOVE;15:BELOW",
    "LEFT VERTICAL BAR WITH QUILL;RIGHT VERTICAL BAR WITH QUILL;TOP LEFT HALF BRACKET",
    "4:RIGHT HALF BRACKET;BOTTOM LEFT HALF BRACKET;7:RIGHT HALF BRACKET;LEFT SIDEWAYS U BRACKET",
    "RIGHT SIDEWAYS U BRACKET;LEFT DOUBLE PARENTHESIS;RIGHT DOUBLE PARENTHESIS",
    "TWO DOTS OVER ONE DOT PUNCTUATION;ONE DOT OVER TWO DOTS PUNCTUATION",
    "SQUARED FOUR DOT PUNCTUATION;FIVE DOT MARK;REVERSED QUESTION MARK;VERTICAL TILDE;RING POINT",
    "WORD SEPARATOR MIDDLE DOT;TURNED COMMA;RAISED DOT;7:COMMA;TURNED SEMICOLON",
    "DAGGER WITH LEFT GUARD;12:RIGHT GUARD;TURNED DAGGER;TOP HALF SECTION SIGN;TWO-EM DASH",
    "THREE-EM DASH;STENOGRAPHIC FULL STOP;VERTICAL SIX DOTS;WIGGLY VERTICAL LINE;CAPITULUM",
    "DOUBLE HYPHEN;REVERSED COMMA;DOUBLE LOW-REVERSED-9 QUOTATION MARK;DASH WITH LEFT UPTURN",
    "DOUBLE SUSPENSION MARK;INVERTED LOW KAVYKA;19: WITH KAVYKA ABOVE;LOW KAVYKA;10: WITH DOT",
    "DOUBLE STACKED COMMA;DOTTED SOLIDUS;TRIPLE DAGGER;MEDIEVAL COMMA;PARAGRAPHUS MARK",
    "PUNCTUS ELEVATUS MARK;CORNISH VERSE DIVIDER;CROSS PATTY WITH RIGHT CROSSBAR;17:LEFT CROSSBAR",
    "TIRONIAN SIGN CAPITAL ET;MEDIEVAL EXCLAMATION MARK;9:QUESTION MARK",
    "LEFT SQUARE BRACKET WITH STROKE;RIGHT SQUARE BRACKET WITH STROKE",
    "LEFT SQUARE BRACKET WITH DOUBLE STROKE;RIGHT SQUARE BRACKET WITH DOUBLE STROKE",
    "TOP HALF LEFT PARENTHESIS;9:RIGHT PARENTHESIS;BOTTOM HALF LEFT PARENTHESIS",
    "12:RIGHT PARENTHESIS;OBLIQUE HYPHEN;;;;;;;;;;;;;;;;;;;;;;;;;;;;;;;;;;;CJK RADICAL REPEAT",
    "12:CLIFF;12:SECOND ONE;19:TWO;20:HREE;12:PERSON;12:BOX;12:TABLE;12:KNIFE ONE;18:TWO",
    "12:DIVINATION;12:SEAL;13:MALL ONE;18:TWO;12:LAME ONE;17:TWO;18:HREE;17:FOUR;12:SNAKE",
    "12:THREAD;12:SNOUT ONE;18:TWO;12:HEART ONE;18:TWO;13:AND;12:RAP;;CJK RADICAL CHOKE;12:SUN",
    "12:MOON;12:DEATH;12:MOTHER;12:CIVILIAN;12:WATER ONE;18:TWO;12:FIRE;12:PAW ONE;16:TWO",
    "12:SIMPLIFIED HALF TREE TRUNK;12:COW;12:DOG;12:JADE;12:BOLT OF CLOTH;12:EYE;12:SPIRIT ONE",
    "19:TWO;12:BAMBOO;12:SILK;12:C-SIMPLIFIED SILK;12:NET ONE;16:TWO;17:HREE;16:FOUR;12:MESH",
    "12:SHEEP;12:RAM;12:EWE;12:OLD;12:BRUSH ONE;18:TWO;12:MEAT;13:ORTAR;12:GRASS ONE;18:TWO",
    "19:HREE;12:TIGER;12:CLOTHES;12:WEST ONE;17:TWO;12:C-SIMPLIFIED SEE;12:SIMPLIFIED HORN",
    "12:HORN;12:C-SIMPLIFIED SPEECH;26:HELL;12:FOOT;12:C-SIMPLIFIED CART;12:SIMPLIFIED WALK",
    "12:WALK ONE;17:TWO;12:CITY;13:-SIMPLIFIED GOLD;12:LONG ONE;17:TWO;12:C-SIMPLIFIED LONG",
    "25:GATE;12:MOUND ONE;18:TWO;12:RAIN;12:BLUE;12:C-SIMPLIFIED TANNED LEATHER;25:LEAF;25:WIND",
    "25:FLY;12:EAT ONE;16:TWO;17:HREE;12:C-SIMPLIFIED EAT;12:HEAD;12:C-SIMPLIFIED HORSE;12:BONE",
    "12:GHOST;12:C-SIMPLIFIED FISH;25:BIRD;25:SALT;12:SIMPLIFIED WHEAT;23:YELLOW",
    "12:C-SIMPLIFIED FROG;12:J-SIMPLIFIED EVEN;12:C-SIMPLIFIED EVEN;12:J-SIMPLIFIED TOOTH",
    "12:C-SIMPLIFIED TOOTH;12:J-SIMPLIFIED DRAGON;12:C-SIMPLIFIED DRAGON;12:TURTLE",
    "12:J-SIMPLIFIED TURTLE;12:C-SIMPLIFIED TURTLE;;;;;;;;;;;;;KANGXI RADICAL ONE;15:LINE;15:DOT",
    "15:SLASH;16:ECOND;15:HOOK;15:TWO;15:LID;15:MAN;15:LEGS;15:ENTER;16:IGHT;15:DOWN BOX;15:COVER",
    "15:ICE;15:TABLE;15:OPEN BOX;15:KNIFE;15:POWER;15:WRAP;15:SPOON;15:RIGHT OPEN BOX",
    "15:HIDING ENCLOSURE;15:TEN;15:DIVINATION;15:SEAL;15:CLIFF;15:PRIVATE;15:AGAIN;15:MOUTH",
    "15:ENCLOSURE;16:ARTH;15:SCHOLAR;15:GO;17: SLOWLY;15:EVENING;15:BIG;15:WOMAN;15:CHILD;15:ROOF",
    "15:INCH;15:SMALL;15:LAME;15:CORPSE;15:SPROUT;15:MOUNTAIN;15:RIVER;15:WORK;15:ONESELF",
    "15:TURBAN;15:DRY;15:SHORT THREAD;15:DOTTED CLIFF;15:LONG STRIDE;15:TWO HANDS;15:SHOOT;15:BOW",
    "15:SNOUT;15:BRISTLE;15:STEP;15:HEART;16:ALBERD;15:DOOR;15:HAND;15:BRANCH;15:RAP;15:SCRIPT",
    "15:DIPPER;15:AXE;15:SQUARE;15:NOT;15:SUN;16:AY;15:MOON;15:TREE;15:LACK;15:STOP;15:DEATH",
    "15:WEAPON;15:DO NOT;15:COMPARE;15:FUR;15:CLAN;15:STEAM;15:WATER;15:FIRE;15:CLAW;15:FATHER",
    "15:DOUBLE X;15:HALF TREE TRUNK;15:SLICE;15:FANG;15:COW;15:DOG;15:PROFOUND;15:JADE;15:MELON",
    "15:TILE;15:SWEET;15:LIFE;15:USE;15:FIELD;15:BOLT OF CLOTH;15:SICKNESS;15:DOTTED TENT",
    "15:WHITE;15:SKIN;15:DISH;15:EYE;15:SPEAR;15:ARROW;15:STONE;16:PIRIT;15:TRACK;15:GRAIN",
    "15:CAVE;15:STAND;15:BAMBOO;15:RICE;15:SILK;15:JAR;15:NET;15:SHEEP;15:FEATHER;15:OLD;15:AND",
    "15:PLOW;15:EAR;15:BRUSH;15:MEAT;16:INISTER;15:SELF;15:ARRIVE;15:MORTAR;15:TONGUE;15:OPPOSE",
    "15:BOAT;15:STOPPING;15:COLOR;15:GRASS;15:TIGER;15:INSECT;15:BLOOD;15:WALK ENCLOSURE",
    "15:CLOTHES;15:WEST;15:SEE;15:HORN;15:SPEECH;15:VALLEY;15:BEAN;15:PIG;15:BADGER;15:SHELL",
    "15:RED;16:UN;15:FOOT;15:BODY;15:CART;15:BITTER;15:MORNING;15:WALK;15:CITY;15:WINE",
    "15:DISTINGUISH;15:VILLAGE;15:GOLD;15:LONG;15:GATE;15:MOUND;15:SLAVE;16:HORT TAILED BIRD",
    "15:RAIN;15:BLUE;15:WRONG;15:FACE;15:LEATHER;15:TANNED LEATHER;15:LEEK;15:SOUND;15:LEAF",
    "15:WIND;15:FLY;15:EAT;15:HEAD;15:FRAGRANT;15:HORSE;15:BONE;15:TALL;15:HAIR;15:FIGHT",
    "15:SACRIFICIAL WINE;15:CAULDRON;15:GHOST;15:FISH;15:BIRD;15:SALT;15:DEER;15:WHEAT;15:HEMP",
    "15:YELLOW;15:MILLET;15:BLACK;15:EMBROIDERY;15:FROG;15:TRIPOD;15:DRUM;15:RAT;15:NOSE;15:EVEN",
    "15:TOOTH;15:DRAGON;15:TURTLE;15:FLUTE;;;;;;;;;;;;;;;;;;;;;;;;;;",
    "IDEOGRAPHIC DESCRIPTION CHARACTER LEFT TO RIGHT;34:ABOVE TO BELOW",
    "34:LEFT TO MIDDLE AND RIGHT;34:ABOVE TO MIDDLE AND BELOW;34:FULL SURROUND",
    "34:SURROUND FROM ABOVE;48:BELOW;48:LEFT;48:UPPER LEFT;54:RIGHT;48:LOWER LEFT;34:OVERLAID;;;;",
    "IDEOGRAPHIC SPACE;12:COMMA;12:FULL STOP;DITTO MARK;JAPANESE INDUSTRIAL STANDARD SYMBOL",
    "IDEOGRAPHIC ITERATION MARK;12:CLOSING MARK;12:NUMBER ZERO;LEFT ANGLE BRACKET",
    "RIGHT ANGLE BRACKET;LEFT DOUBLE ANGLE BRACKET;RIGHT DOUBLE ANGLE BRACKET;LEFT CORNER BRACKET",
    "RIGHT CORNER BRACKET;LEFT WHITE CORNER BRACKET;RIGHT WHITE CORNER BRACKET",
    "LEFT BLACK LENTICULAR BRACKET;RIGHT BLACK LENTICULAR BRACKET;POSTAL MARK;GETA MARK",
    "LEFT TORTOISE SHELL BRACKET;RIGHT TORTOISE SHELL BRACKET;LEFT WHITE LENTICULAR BRACKET",
    "RIGHT WHITE LENTICULAR BRACKET;LEFT WHITE TORTOISE SHELL BRACKET",
    "RIGHT WHITE TORTOISE SHELL BRACKET;LEFT WHITE SQUARE BRACKET;RIGHT WHITE SQUARE BRACKET",
    "WAVE DASH;REVERSED DOUBLE PRIME QUOTATION MARK;DOUBLE PRIME QUOTATION MARK",
    "LOW DOUBLE PRIME QUOTATION MARK;POSTAL MARK FACE;HANGZHOU NUMERAL ONE;17:TWO;18:HREE;17:FOUR",
    "18:IVE;17:SIX;18:EVEN;17:EIGHT;17:NINE;IDEOGRAPHIC LEVEL TONE MARK;12:RISING TONE MARK",
    "12:DEPARTING TONE MARK;12:ENTERING TONE MARK;HANGUL SINGLE DOT TONE MARK",
    "7:DOUBLE DOT TONE MARK;WAVY DASH;VERTICAL KANA REPEAT MARK;21:WITH VOICED SOUND MARK",
    "21:MARK UPPER HALF;21:WITH VOICED SOUND MARK UPPER HALF;21:MARK LOWER HALF",
    "CIRCLED POSTAL MARK;IDEOGRAPHIC TELEGRAPH LINE FEED SEPARATOR SYMBOL;HANGZHOU NUMERAL TEN",
    "18:WENTY;18:HIRTY;VERTICAL IDEOGRAPHIC ITERATION MARK;MASU MARK;PART ALTERNATION MARK",
    "IDEOGRAPHIC VARIATION INDICATOR;12:HALF FILL SPACE;;HIRAGANA LETTER SMALL A;16:A;16:SMALL I",
    "16:I;16:SMALL U;16:U;16:SMALL E;16:E;16:SMALL O;16:O;16:KA;16:GA;16:KI;16:GI;16:KU;16:GU",
    "16:KE;16:GE;16:KO;16:GO;16:SA;16:ZA;16:SI;16:ZI;16:SU;16:ZU;16:SE;16:ZE;16:SO;16:ZO;16:TA",
    "16:DA;16:TI;16:DI;16:SMALL TU;16:TU;16:DU;16:TE;16:DE;16:TO;16:DO;16:NA;17:I;17:U;17:E;17:O",
    "16:HA;16:BA;16:PA;16:HI;16:BI;16:PI;16:HU;16:BU;16:PU;16:HE;16:BE;16:PE;16:HO;16:BO;16:PO",
    "16:MA;17:I;17:U;17:E;17:O;16:SMALL YA;16:YA;16:SMALL YU;16:YU;16:SMALL YO;16:YO;16:RA;17:I",
    "17:U;17:E;17:O;16:SMALL WA;16:WA;17:I;17:E;17:O;16:N;16:VU;16:SMALL KA;23:E;;",
    "COMBINING KATAKANA-HIRAGANA VOICED SOUND MARK;28:SEMI-VOICED SOUND MARK",
    "KATAKANA-HIRAGANA VOICED SOUND MARK;18:SEMI-VOICED SOUND MARK;HIRAGANA ITERATION MARK",
    "9:VOICED ITERATION MARK;9:DIGRAPH YORI;KATAKANA-HIRAGANA DOUBLE HYPHEN;8: LETTER SMALL A",
    "16:A;16:SMALL I;16:I;16:SMALL U;16:U;16:SMALL E;16:E;16:SMALL O;16:O;16:KA;16:GA;16:KI;16:GI",
    "16:KU;16:GU;16:KE;16:GE;16:KO;16:GO;16:SA;16:ZA;16:SI;16:ZI;16:SU;16:ZU;16:SE;16:ZE;16:SO",
    "16:ZO;16:TA;16:DA;16:TI;16:DI;16:SMALL TU;16:TU;16:DU;16:TE;16:DE;16:TO;16:DO;16:NA;17:I",
    "17:U;17:E;17:O;16:HA;16:BA;16:PA;16:HI;16:BI;16:PI;16:HU;16:BU;16:PU;16:HE;16:BE;16:PE;16:HO",
    "16:BO;16:PO;16:MA;17:I;17:U;17:E;17:O;16:SMALL YA;16:YA;16:SMALL YU;16:YU;16:SMALL YO;16:YO",
    "16:RA;17:I;17:U;17:E;17:O;16:SMALL WA;16:WA;17:I;17:E;17:O;16:N;16:VU;16:SMALL KA;23:E;16:VA",
    "17:I;17:E;17:O;9:MIDDLE DOT;8:-HIRAGANA PROLONGED SOUND MARK;8: ITERATION MARK",
    "9:VOICED ITERATION MARK;9:DIGRAPH KOTO;;;;;;BOPOMOFO LETTER B;16:P;16:M;16:F;16:D;16:T;16:N",
    "16:L;16:G;16:K;16:H;16:J;16:Q;16:X;16:ZH;16:CH;16:SH;16:R;16:Z;16:C;16:S;16:A;16:O;16:E;17:H",
    "16:AI;16:EI;16:AU;16:OU;16:AN;16:EN;16:ANG;16:ENG;17:R;16:I;16:U;16:IU;16:V;16:NG;16:GN",
    "16:IH;16:O WITH DOT ABOVE;16:NN;;HANGUL LETTER KIYEOK;14:SSANGKIYEOK;14:KIYEOK-SIOS;14:NIEUN",
    "19:-CIEUC;20:HIEUH;14:TIKEUT;14:SSANGTIKEUT;14:RIEUL;19:-KIYEOK;20:MIEUM;20:PIEUP;20:SIOS",
    "20:THIEUTH;20:PHIEUPH;20:HIEUH;14:MIEUM;14:PIEUP;14:SSANGPIEUP;14:PIEUP-SIOS;14:SIOS",
    "15:SANGSIOS;14:IEUNG;14:CIEUC;14:SSANGCIEUC;14:CHIEUCH;14:KHIEUKH;14:THIEUTH;14:PHIEUPH",
    "14:HIEUH;14:A;15:E;14:YA;16:E;14:EO;15:;14:YEO;16:;14:O;14:WA;16:E;14:OE;14:YO;14:U;14:WEO",
    "16:;15:I;14:YU;14:EU;14:YI;14:I;7:FILLER;7:LETTER SSANGNIEUN;14:NIEUN-TIKEUT;20:SIOS",
    "20:PANSIOS;14:RIEUL-KIYEOK-SIOS;20:TIKEUT;20:PIEUP-SIOS;21:ANSIOS;20:YEORINHIEUH",
    "14:MIEUM-PIEUP;20:SIOS;20:PANSIOS;14:KAPYEOUNMIEUM;14:PIEUP-KIYEOK;20:TIKEUT;20:SIOS-KIYEOK",
    "25:TIKEUT;20:CIEUC;20:THIEUTH;14:KAPYEOUNPIEUP;22:SSANGPIEUP;14:SIOS-KIYEOK;19:NIEUN",
    "19:TIKEUT"]),
  (0x317D, [
    "HANGUL LETTER SIOS-PIEUP;19:CIEUC;14:PANSIOS;14:SSANGIEUNG;14:YESIEUNG;22:-SIOS;23:PANSIOS",
    "14:KAPYEOUNPHIEUPH;14:SSANGHIEUH;14:YEORINHIEUH;15:O-YA;19:E;17:I;15:U-YEO;19:;17:I;14:ARAEA",
    "19:E;;IDEOGRAPHIC ANNOTATION LINKING MARK;23:REVERSE MARK;23:ONE MARK;23:TWO MARK",
    "24:HREE MARK;23:FOUR MARK;23:TOP MARK;23:MIDDLE MARK;23:BOTTOM MARK;23:FIRST MARK",
    "23:SECOND MARK;23:THIRD MARK;23:FOURTH MARK;23:HEAVEN MARK;23:EARTH MARK;23:MAN MARK",
    "BOPOMOFO LETTER BU;16:ZI;16:JI;16:GU;16:EE;17:NN;16:OO;17:NN;16:IR;16:ANN;16:INN;16:UNN",
    "16:IM;16:NGG;16:AINN;17:UNN;17:M;16:OM;17:NG;16:INNN;9:FINAL LETTER P;22:T;22:K;22:H",
    "9:LETTER GH;16:LH;16:ZY;9:FINAL LETTER G;9:LETTER GW;16:KW;16:OE;16:AH;CJK STROKE T;11:WG",
    "11:XG;11:BXG;11:SW;11:HZZ;13:G;12:P;12:ZWG;11:SZWG;11:HZT;13:ZP;12:PWG;12:ZW;13:ZZ;11:N;11:H",
    "11:S;11:P;11:SP;11:D;11:HZ;12:G;11:SZ;12:WZ;12:T;12:G;11:PD;12:Z;11:TN;11:SZZ;12:WG;11:HXWG",
    "12:ZZZG;11:PG;11:Q;;;;;;;;;;;;;KATAKANA LETTER SMALL KU;22:SI;23:U;22:TO;22:NU;22:HA;23:I",
    "23:U;23:E;23:O;22:MU;22:RA;23:I;23:U;23:E;23:O;PARENTHESIZED HANGUL KIYEOK;21:NIEUN",
    "21:TIKEUT;21:RIEUL;21:MIEUM;21:PIEUP;21:SIOS;21:IEUNG;21:CIEUC;22:HIEUCH;21:KHIEUKH",
    "21:THIEUTH;21:PHIEUPH;21:HIEUH;21:KIYEOK A;21:NIEUN A;21:TIKEUT A;21:RIEUL A;21:MIEUM A",
    "21:PIEUP A;21:SIOS A;21:IEUNG A;21:CIEUC A;22:HIEUCH A;21:KHIEUKH A;21:THIEUTH A",
    "21:PHIEUPH A;21:HIEUH A;21:CIEUC U;14:KOREAN CHARACTER OJEON;32: HU;",
    "PARENTHESIZED IDEOGRAPH ONE;24:TWO;25:HREE;24:FOUR;25:IVE;24:SIX;25:EVEN;24:EIGHT;24:NINE",
    "24:TEN;24:MOON;24:FIRE;24:WATER;25:OOD;24:METAL;24:EARTH;24:SUN;25:TOCK;24:HAVE;24:SOCIETY",
    "24:NAME;24:SPECIAL;24:FINANCIAL;24:CONGRATULATION;24:LABOR;24:REPRESENT;24:CALL;24:STUDY",
    "25:UPERVISE;24:ENTERPRISE;24:RESOURCE;24:ALLIANCE;24:FESTIVAL;24:REST;24:SELF;24:REACH",
    "CIRCLED IDEOGRAPH QUESTION;18:KINDERGARTEN;18:SCHOOL;18:KOTO;8:NUMBER TEN ON BLACK SQUARE",
    "16:WENTY ON BLACK SQUARE;16:HIRTY ON BLACK SQUARE;15:FORTY ON BLACK SQUARE",
    "16:IFTY ON BLACK SQUARE;15:SIXTY ON BLACK SQUARE;16:EVENTY ON BLACK SQUARE",
    "15:EIGHTY ON BLACK SQUARE;PARTNERSHIP SIGN;CIRCLED NUMBER TWENTY ONE;22:TWO;23:HREE;22:FOUR",
    "23:IVE;22:SIX;23:EVEN;22:EIGHT;22:NINE;16:HIRTY;21: ONE;22:TWO;23:HREE;22:FOUR;23:IVE",
    "8:HANGUL KIYEOK;15:NIEUN;15:TIKEUT;15:RIEUL;15:MIEUM;15:PIEUP;15:SIOS;15:IEUNG;15:CIEUC",
    "16:HIEUCH;15:KHIEUKH;15:THIEUTH;15:PHIEUPH;15:HIEUH;15:KIYEOK A;15:NIEUN A;15:TIKEUT A",
    "15:RIEUL A;15:MIEUM A;15:PIEUP A;15:SIOS A;15:IEUNG A;15:CIEUC A;16:HIEUCH A;15:KHIEUKH A",
    "15:THIEUTH A;15:PHIEUPH A;15:HIEUH A;8:KOREAN CHARACTER CHAMKO;25:JUEUI;8:HANGUL IEUNG U",
    "KOREAN STANDARD SYMBOL;CIRCLED IDEOGRAPH ONE;18:TWO;19:HREE;18:FOUR;19:IVE;18:SIX;19:EVEN",
    "18:EIGHT;18:NINE;18:TEN;18:MOON;18:FIRE;18:WATER;19:OOD;18:METAL;18:EARTH;18:SUN;19:TOCK",
    "18:HAVE;18:SOCIETY;18:NAME;18:SPECIAL;18:FINANCIAL;18:CONGRATULATION;18:LABOR;18:SECRET",
    "18:MALE;18:FEMALE;18:SUITABLE;18:EXCELLENT;18:PRINT;18:ATTENTION;18:ITEM;18:REST;18:COPY",
    "20:RRECT;18:HIGH;18:CENTRE;18:LOW;19:EFT;18:RIGHT;18:MEDICINE;18:RELIGION;18:STUDY",
    "19:UPERVISE;18:ENTERPRISE;18:RESOURCE;18:ALLIANCE;18:NIGHT;8:NUMBER THIRTY SIX;23:EVEN",
    "22:EIGHT;22:NINE;15:FORTY;20: ONE;21:TWO;22:HREE;21:FOUR;22:IVE;21:SIX;22:EVEN;21:EIGHT",
    "21:NINE;16:IFTY;IDEOGRAPHIC TELEGRAPH SYMBOL FOR JANUARY;33:FEBRUARY;33:MARCH;33:APRIL",
    "33:MAY;33:JUNE;35:LY;33:AUGUST;33:SEPTEMBER;33:OCTOBER;33:NOVEMBER;33:DECEMBER;SQUARE HG",
    "7:ERG;8:V;LIMITED LIABILITY SIGN;CIRCLED KATAKANA A;17:I;17:U;17:E;17:O;17:KA;18:I;18:U;18:E",
    "18:O;17:SA;18:I;18:U;18:E;18:O;17:TA;18:I;18:U;18:E;18:O;17:NA;18:I;18:U;18:E;18:O;17:HA",
    "18:I;18:U;18:E;18:O;17:MA;18:I;18:U;18:E;18:O;17:YA;18:U;18:O;17:RA;18:I;18:U;18:E;18:O",
    "17:WA;18:I;18:E;18:O;SQUARE ERA NAME REIWA;7:APAATO;8:RUHUA;8:NPEA;8:ARU;7:ININGU;9:TI;7:UON",
    "7:ESUKUUDO;8:EKAA;7:ONSU;8:OMU;7:KAIRI;9:RATTO;10:ORII;7:GARON;9:NMA;8:IGA;9:NII;7:KYURII",
    "7:GIRUDAA;7:KIRO;11:GURAMU;11:MEETORU;11:WATTO;7:GURAMU;13:TON;7:KURUZEIRO;10:OONE;8:EESU",
    "8:ORUNA;9:OPO;7:SAIKURU;9:NTIIMU;8:IRINGU;8:ENTI;11:O;7:DAASU;8:ESI;8:ORU;7:TON;7:NANO",
    "8:OTTO;7:HAITU;7:PAASENTO;10:TU;7:BAARERU;7:PIASUTORU;9:KURU;10:O;7:BIRU;7:HUARADDO;9:IITO",
    "7:BUSSYERU;7:HURAN;8:EKUTAARU;7:PESO;9:NIHI;7:HERUTU;7:PENSU;9:EZI;7:BEETA;7:POINTO;7:BORUTO",
    "7:HON;7:PONDO;7:HOORU;10:N;7:MAIKURO;10:RU;9:HHA;9:RUKU;9:NSYON;8:IKURON;9:RI;11:BAARU;8:EGA",
    "11:TON;9:ETORU;7:YAADO;10:RU;8:UAN;7:RITTORU;9:RA;8:UPII;9:UBURU;8:EMU;9:NTOGEN;7:WATTO",
    "IDEOGRAPHIC TELEGRAPH SYMBOL FOR HOUR ZERO;38:ONE;38:TWO;39:HREE;38:FOUR;39:IVE;38:SIX",
    "39:EVEN;38:EIGHT;38:NINE;38:TEN;38:ELEVEN;38:TWELVE;39:HIRTEEN;38:FOURTEEN;39:IFTEEN",
    "38:SIXTEEN;39:EVENTEEN;38:EIGHTEEN;38:NINETEEN;38:TWENTY;44:-ONE;45:TWO;46:HREE;45:FOUR",
    "SQUARE HPA;7:DA;7:AU;7:BAR;7:OV;7:PC;7:DM;9: SQUARED;10:CUBED;7:IU;7:ERA NAME HEISEI",
    "16:SYOUWA;16:TAISYOU;16:MEIZI;7:CORPORATION;7:PA AMPS;7:NA;7:MU A;8:A;7:KA;8:B;7:MB;7:GB",
    "7:CAL;7:KCAL;7:PF;7:NF;7:MU F;10:G;8:G;7:KG;7:HZ;7:KHZ;7:MHZ;7:GHZ;7:THZ;7:MU L;8:L;7:DL",
    "7:KL;7:FM;7:NM;7:MU M;8:M;7:CM;7:KM;7:MM SQUARED;7:CM SQUARED;7:M SQUARED;7:KM SQUARED",
    "7:MM CUBED;7:CM CUBED;7:M CUBED;7:KM CUBED;7:M OVER S;15: SQUARED;7:PA;7:KPA;7:MPA;7:GPA",
    "7:RAD;10: OVER S;17: SQUARED;7:PS;7:NS;7:MU S;8:S;7:PV;7:NV;7:MU V;8:V;7:KV;7:MV MEGA;7:PW",
    "7:NW;7:MU W;8:W;7:KW;7:MW MEGA;7:K OHM;7:M OHM;7:AM;7:BQ;7:CC;8:D;8: OVER KG;8:O;7:DB;7:GY",
    "7:HA;8:P;7:IN;7:KK;8:M CAPITAL;8:T;7:LM;8:N;8:OG;8:X;7:MB SMALL;8:IL;8:OL;7:PH;8:M;8:PM;8:R",
    "7:SR;8:V;7:WB;7:V OVER M;7:A OVER M;IDEOGRAPHIC TELEGRAPH SYMBOL FOR DAY ONE;37:TWO;38:HREE",
    "37:FOUR;38:IVE;37:SIX;38:EVEN;37:EIGHT;37:NINE;37:TEN;37:ELEVEN;37:TWELVE;38:HIRTEEN",
    "37:FOURTEEN;38:IFTEEN;37:SIXTEEN;38:EVENTEEN;37:EIGHTEEN;37:NINETEEN;37:TWENTY;43:-ONE",
    "44:TWO;45:HREE;44:FOUR;45:IVE;44:SIX;45:EVEN;44:EIGHT;44:NINE;38:HIRTY;43:-ONE;SQUARE GAL"]),
  (0x4DC0, [
    "HEXAGRAM FOR THE CREATIVE HEAVEN;17:RECEPTIVE EARTH;13:DIFFICULTY AT THE BEGINNING",
    "13:YOUTHFUL FOLLY;13:WAITING;13:CONFLICT;13:THE ARMY;13:HOLDING TOGETHER;13:SMALL TAMING",
    "13:TREADING;13:PEACE;13:STANDSTILL;13:FELLOWSHIP;13:GREAT POSSESSION;13:MODESTY",
    "13:ENTHUSIASM;13:FOLLOWING;13:WORK ON THE DECAYED;13:APPROACH;13:CONTEMPLATION",
    "13:BITING THROUGH;13:GRACE;13:SPLITTING APART;13:RETURN;13:INNOCENCE;13:GREAT TAMING",
    "13:MOUTH CORNERS;13:GREAT PREPONDERANCE;13:THE ABYSMAL WATER;17:CLINGING FIRE;13:INFLUENCE",
    "13:DURATION;13:RETREAT;13:GREAT POWER;13:PROGRESS;13:DARKENING OF THE LIGHT;13:THE FAMILY",
    "13:OPPOSITION;14:BSTRUCTION;13:DELIVERANCE;15:CREASE;13:INCREASE;13:BREAKTHROUGH",
    "13:COMING TO MEET;13:GATHERING TOGETHER;13:PUSHING UPWARD;13:OPPRESSION;13:THE WELL",
    "13:REVOLUTION;13:THE CAULDRON;17:AROUSING THUNDER;17:KEEPING STILL MOUNTAIN;13:DEVELOPMENT",
    "13:THE MARRYING MAIDEN;13:ABUNDANCE;13:THE WANDERER;17:GENTLE WIND;17:JOYOUS LAKE",
    "13:DISPERSION;13:LIMITATION;13:INNER TRUTH;13:SMALL PREPONDERANCE;13:AFTER COMPLETION",
    "13:BEFORE COMPLETION"]),
  (0xA000, [
    "YI SYLLABLE IT;13:X;13:;13:P;13:ET;14:X;14:;14:P;12:AT;13:X;13:;13:P;12:UOX;14:;14:P;12:OT",
    "13:X;13:;13:P;12:EX;13:;12:WU;12:BIT;14:X;14:;14:P;14:ET;15:X;15:;15:P;13:AT;14:X;14:;14:P",
    "13:UOX;15:;15:P;13:OT;14:X;14:;14:P;13:EX;14:;14:P;13:UT;14:X;14:;14:P;14:RX;15:;13:YT;14:X",
    "14:;14:P;14:RX;15:;12:PIT;14:X;14:;14:P;14:EX;15:;15:P;13:AT;14:X;14:;14:P;13:UOX;15:;15:P",
    "13:OT;14:X;14:;14:P;13:UT;14:X;14:;14:P;14:RX;15:;13:YT;14:X;14:;14:P;14:RX;15:;12:BBIT;15:X",
    "15:;15:P;15:ET;16:X;16:;16:P;14:AT;15:X;15:;15:P;14:UOX;16:;16:P;14:OT;15:X;15:;15:P;14:EX",
    "15:;15:P;14:UT;15:X;15:;15:P;15:RX;16:;14:YT;15:X;15:;15:P;12:NBIT;15:X;15:;15:P;15:EX;16:",
    "16:P;14:AT;15:X;15:;15:P;14:OT;15:X;15:;15:P;14:UT;15:X;15:;15:P;15:RX;16:;14:YT;15:X;15:",
    "15:P;15:RX;16:;12:HMIT;15:X;15:;15:P;15:EX;16:;16:P;14:AT;15:X;15:;15:P;14:UOX;16:;16:P",
    "14:OT;15:X;15:;15:P;14:UT;15:X;15:;15:P;15:RX;16:;14:YX;15:;15:P;15:RX;16:;12:MIT;14:X;14:",
    "14:P;14:EX;15:;15:P;13:AT;14:X;14:;14:P;13:UOT;15:X;15:;15:P;13:OT;14:X;14:;14:P;13:EX;14:",
    "13:UT;14:X;14:;14:P;14:RX;15:;13:YT;14:X;14:;14:P;12:FIT;14:X;14:;14:P;13:AT;14:X;14:;14:P",
    "13:OX;14:;14:P;13:UT;14:X;14:;14:P;14:RX;15:;13:YT;14:X;14:;14:P;12:VIT;14:X;14:;14:P;14:ET",
    "15:X;15:;15:P;13:AT;14:X;14:;14:P;13:OT;14:X;14:;14:P;13:EX;14:P;13:UT;14:X;14:;14:P;14:RX",
    "15:;13:YT;14:X;14:;14:P;14:RX;15:;12:DIT;14:X;14:;14:P;14:EX;15:;15:P;13:AT;14:X;14:;14:P",
    "13:UOX;15:;13:OT;14:X;14:;14:P;13:EX;14:;14:P;13:UT;14:X;14:;14:P;14:RX;15:;12:TIT;14:X;14:",
    "14:P;14:EX;15:;15:P;13:AT;14:X;14:;14:P;13:UOT;15:X;15:;15:P;13:OT;14:X;14:;14:P;13:EX;14:",
    "14:P;13:UT;14:X;14:;14:P;14:RX;15:;12:DDIT;15:X;15:;15:P;15:EX;16:;16:P;14:AT;15:X;15:;15:P",
    "14:UOX;16:;16:P;14:OT;15:X;15:;15:P;14:EX;15:;15:P;14:UT;15:X;15:;15:P;15:RX;16:;12:NDIT",
    "15:X;15:;15:P;15:EX;16:;14:AT;15:X;15:;15:P;14:OT;15:X;15:;15:P;14:EX;15:;15:P;14:UT;15:X",
    "15:;15:P;15:RX;16:;12:HNIT;15:X;15:;15:P;15:ET;16:X;16:;16:P;14:AT;15:X;15:;15:P;14:UOX;16:",
    "14:OT;15:X;15:P;14:EX;15:;15:P;14:UT;12:NIT;14:X;14:;14:P;14:EX;15:;15:P;13:AX;14:;14:P",
    "13:UOX;15:;15:P;13:OT;14:X;14:;14:P;13:EX;14:;14:P;13:UT;14:X;14:;14:P;14:RX;15:;12:HLIT",
    "15:X;15:;15:P;15:EX;16:;16:P;14:AT;15:X;15:;15:P;14:UOX;16:;16:P;14:OX;15:;15:P;14:EX;15:",
    "15:P;14:UT;15:X;15:;15:P;15:RX;16:;14:YT;15:X;15:;15:P;15:RX;16:;12:LIT;14:X;14:;14:P;14:ET",
    "15:X;15:;15:P;13:AT;14:X;14:;14:P;13:UOT;15:X;15:;15:P;13:OT;14:X;14:;14:P;13:EX;14:;14:P",
    "13:UT;14:X;14:;14:P;14:RX;15:;13:YT;14:X;14:;14:P;14:RX;15:;12:GIT;14:X;14:;14:P;14:ET;15:X",
    "15:;15:P;13:AT;14:X;14:;14:P;13:UOT;15:X;15:;15:P;13:OT;14:X;14:;14:P;13:ET;14:X;14:;14:P",
    "13:UT;14:X;14:;14:P;14:RX;15:;12:KIT;14:X;14:;14:P;14:EX;15:;15:P;13:AT;14:X;14:;14:P;13:UOX",
    "15:;15:P;13:OT;14:X;14:;14:P;13:ET;14:X;14:;14:P;13:UT;14:X;14:;14:P;14:RX;15:;12:GGIT;15:X",
    "15:;15:EX;16:;16:P;14:AT;15:X;15:;15:P;14:UOT;16:X;16:;16:P;14:OT;15:X;15:;15:P;14:ET;15:X",
    "15:;15:P;14:UT;15:X;15:;15:P;15:RX;16:;12:MGIEX;16:;14:AT;15:X;15:;15:P;14:UOX;16:;16:P",
    "14:OT;15:X;15:;15:P;14:EX;15:;15:P;14:UT;15:X;15:;15:P;15:RX;16:;12:HXIT;15:X;15:;15:P;15:ET",
    "16:X;16:;16:P;14:AT;15:X;15:;15:P;14:UOT;16:X;16:;16:P;14:OT;15:X;15:;15:P;14:EX;15:;15:P",
    "12:NGIEX;16:;16:P;14:AT;15:X;15:;15:P;14:UOT;16:X;16:;14:OT;15:X;15:;15:P;14:EX;15:;15:P",
    "12:HIT;14:EX;15:;13:AT;14:X;14:;14:P;13:UOT;15:X;15:;15:P;13:OT;14:X;14:;14:P;13:EX;14:;14:P",
    "12:WAT;14:X;14:;14:P;13:UOX;15:;15:P;13:OX;14:;14:P;13:EX;14:;14:P;12:ZIT;14:X;14:;14:P",
    "14:EX;15:;15:P;13:AT;14:X;14:;14:P;13:UOX;15:;15:P;13:OT;14:X;14:;14:P;13:EX;14:;14:P;13:UT",
    "14:X;14:;14:P;14:RX;15:;13:YT;14:X;14:;14:P;14:RX;15:;12:CIT;14:X;14:;14:P;14:ET;15:X;15:",
    "15:P;13:AT;14:X;14:;14:P;13:UOX;15:;15:P;13:OT;14:X;14:;14:P;13:EX;14:;14:P;13:UT;14:X;14:",
    "14:P;14:RX;15:;13:YT;14:X;14:;14:P;14:RX;15:;12:ZZIT;15:X;15:;15:P;15:ET;16:X;16:;16:P;14:AT",
    "15:X;15:;15:P;14:OX;15:;15:P;14:EX;15:;15:P;14:UX;15:;15:P;15:RX;16:;14:YT;15:X;15:;15:P",
    "15:RX;16:;12:NZIT;15:X;15:;15:P;15:EX;16:;16:P;14:AT;15:X;15:;15:P;14:UOX;16:;14:OX;15:P",
    "14:EX;15:;14:UX;15:;15:P;15:RX;16:;14:YT;15:X;15:;15:P;15:RX;16:;12:SIT;14:X;14:;14:P;14:EX",
    "15:;15:P;13:AT;14:X;14:;14:P;13:UOX;15:;15:P;13:OT;14:X;14:;14:P;13:EX;14:;14:P;13:UT;14:X",
    "14:;14:P;14:RX;15:;13:YT;14:X;14:;14:P;14:RX;15:;13:SIT;15:X;15:;15:P;15:EX;16:;16:P;14:AT",
    "15:X;15:;15:P;14:OT;15:X;15:;15:P;14:EX;15:;15:P;14:UT;15:X;15:;15:P;14:YT;15:X;15:;15:P",
    "15:RX;16:;12:ZHAT;15:X;15:;15:P;14:UOX;16:;16:P;14:OT;15:X;15:;15:P;14:ET;15:X;15:;15:P",
    "14:UT;15:X;15:;15:P;15:RX;16:;14:YT;15:X;15:;15:P;15:RX;16:;12:CHAT;15:X;15:;15:P;14:UOT",
    "16:X;16:;16:P;14:OT;15:X;15:;15:P;14:ET;15:X;15:;15:P;14:UX;15:;15:P;15:RX;16:;14:YT;15:X",
    "15:;15:P;15:RX;16:;12:RRAX;15:;14:UOX;16:;14:OT;15:X;15:;15:P;14:ET;15:X;15:;15:P;14:UT;15:X",
    "15:;15:P;15:RX;16:;14:YT;15:X;15:;15:P;15:RX;16:;12:NRAT;15:X;15:;15:P;14:OX;15:;15:P;14:ET",
    "15:X;15:;15:P;14:UT;15:X;15:;15:P;15:RX;16:;14:YT;15:X;15:;15:P;15:RX;16:;12:SHAT;15:X;15:",
    "15:P;14:UOX;16:;16:P;14:OT;15:X;15:;15:P;14:ET;15:X;15:;15:P;14:UT;15:X;15:;15:P;15:RX;16:",
    "14:YT;15:X;15:;15:P;15:RX;16:;12:RAT;14:X;14:;14:P;13:UOX;15:;15:P;13:OT;14:X;14:;14:P;13:EX",
    "14:;14:P;13:UT;14:X;14:;14:P;14:RX;15:;13:YT;14:X;14:;14:P;14:RX;15:;12:JIT;14:X;14:;14:P",
    "14:ET;15:X;15:;15:P;13:UOT;15:X;15:;15:P;13:OT;14:X;14:;14:P;13:UT;14:X;14:;14:P;14:RX;15:",
    "13:YT;14:X;14:;14:P;14:RX;15:;12:QIT;14:X;14:;14:P;14:ET;15:X;15:;15:P;13:UOT;15:X;15:;15:P",
    "13:OT;14:X;14:;14:P;13:UT;14:X;14:;14:P;14:RX;15:;13:YT;14:X;14:;14:P;14:RX;15:;12:JJIT;15:X",
    "15:;15:P;15:ET;16:X;16:;16:P;14:UOX;16:;16:P;14:OT;15:X;15:;15:P;14:UT;15:X;15:;15:P;15:RX",
    "16:;14:YT;15:X;15:;15:P;12:NJIT;15:X;15:;15:P;15:ET;16:X;16:;16:P;14:UOX;16:;14:OT;15:X;15:",
    "15:P;14:UX;15:;15:P;15:RX;16:;14:YT;15:X;15:;15:P;15:RX;16:;13:YIT;15:X;15:;15:P;15:ET;16:X",
    "16:;16:P;14:UOX;16:;16:P;14:OT;15:X;15:;15:P;14:UT;15:X;15:;15:P;12:XIT;14:X;14:;14:P;14:ET",
    "15:X;15:;15:P;13:UOX;15:;13:OT;14:X;14:;14:P;13:YT;14:X;14:;14:P;14:RX;15:;12:YIT;14:X;14:",
    "14:P;14:ET;15:X;15:;15:P;13:UOT;15:X;15:;15:P;13:OT;14:X;14:;14:P;13:UT;14:X;14:;14:P;14:RX",
    "15:;13:YT;14:X;14:;14:P;14:RX;15:;;;;YI RADICAL QOT;11:LI;11:KIT;11:NYIP;11:CYP;11:SSI",
    "11:GGOP;12:EP;11:MI;11:HXIT;11:LYR;11:BBUT;11:MOP;11:YO;11:PUT;11:HXUO;11:TAT;11:GA;11:ZUP",
    "11:CYT;11:DDUR;11:BUR;11:GGUO;11:NYOP;11:TU;11:OP;11:JJUT;11:ZOT;11:PYT;11:HMO;11:YIT;11:VUR",
    "11:SHY;11:VEP;11:ZA;11:JO;11:NZUP;11:JJY;11:GOT;11:JJIE;11:WO;11:DU;11:SHUR;11:LIE;11:CY",
    "12:UOP;12:IP;11:HXOP;11:SHAT;11:ZUR;11:SHOP;11:CHE;11:ZZIET;11:NBIE;11:KE;;;;;;;;;",
    "LISU LETTER BA;12:PA;13:HA;12:DA;12:TA;13:HA;12:GA;12:KA;13:HA;12:JA;12:CA;13:HA;12:DZA",
    "12:TSA;14:HA;12:MA;12:NA;12:LA;12:SA;12:ZHA;13:A;12:NGA;12:HA;12:XA;12:HHA;12:FA;12:WA",
    "12:SHA;12:YA;12:GHA;12:A;13:E;12:E;13:U;12:I;12:O;12:U;13:E;13:H;12:OE;12:TONE MYA TI",
    "17:NA PO;17:MYA CYA;21:BO;21:NA;21:JEU;5:PUNCTUATION COMMA;17:FULL STOP;VAI SYLLABLE EE;15:N",
    "13:HEE;13:WEE;16:N;13:PEE;13:BHEE;14:EE;13:MBEE;13:KPEE;13:MGBEE;13:GBEE;13:FEE;13:VEE",
    "13:TEE;14:HEE;13:DHEE;15:HEE;13:LEE;13:REE;13:DEE;13:NDEE;13:SEE;14:HEE;13:ZEE;14:HEE;13:CEE",
    "13:JEE;13:NJEE;13:YEE;13:KEE;13:NGGEE;13:GEE;13:MEE;13:NEE;14:YEE;13:I;14:N;13:HI;15:N;13:WI",
    "15:N;13:PI;13:BHI;14:I;13:MBI;13:KPI;13:MGBI;13:GBI;13:FI;13:VI;13:TI;14:HI;13:DHI;15:HI",
    "13:LI;13:RI;13:DI;13:NDI;13:SI;14:HI;13:ZI;14:HI;13:CI;13:JI;13:NJI;13:YI;13:KI;13:NGGI",
    "13:GI;13:MI;13:NI;14:YI;13:A;14:N;13:NGAN;13:HA;15:N;13:WA;15:N;13:PA;13:BHA;14:A;13:MBA",
    "13:KPA;16:N;13:MGBA;13:GBA;13:FA;13:VA;13:TA;14:HA;13:DHA;15:HA;13:LA;13:RA;13:DA;13:NDA",
    "13:SA;14:HA;13:ZA;14:HA;13:CA;13:JA;13:NJA;13:YA;13:KA;15:N;13:NGGA;13:GA;13:MA;13:NA;14:YA",
    "13:OO;15:N;13:HOO;13:WOO;16:N;13:POO;13:BHOO;14:OO;13:MBOO;13:KPOO;13:MGBOO;13:GBOO;13:FOO",
    "13:VOO;13:TOO;14:HOO;13:DHOO;15:HOO;13:LOO;13:ROO;13:DOO;13:NDOO;13:SOO;14:HOO;13:ZOO;14:HOO",
    "13:COO;13:JOO;13:NJOO;13:YOO;13:KOO;13:NGGOO;13:GOO;13:MOO;13:NOO;14:YOO;13:U;14:N;13:HU",
    "15:N;13:WU;15:N;13:PU;13:BHU;14:U;13:MBU;13:KPU;13:MGBU;13:GBU;13:FU;13:VU;13:TU;14:HU",
    "13:DHU;15:HU;13:LU;13:RU;13:DU;13:NDU;13:SU;14:HU;13:ZU;14:HU;13:CU;13:JU;13:NJU;13:YU;13:KU",
    "13:NGGU;13:GU;13:MU;13:NU;14:YU;13:O;14:N"])]

end CharacterNames

end LocationDrift
