/-!
# Character names, part 3

The formal names of the named code points from U+A5BC to U+114D9, by blocks of consecutive
code points: a block gives its first code point and the names of it and of the code points after
it, in lines of names separated by `;` (the lines joined by `;` too), an empty name standing
for a code point without one. A name written `k:rest` is the first `k` characters of the name
before it followed by `rest`.
-/

namespace LocationDrift

namespace CharacterNames

/-- The names of the code points from U+A5BC to U+114D9. -/
def part3 : List (Nat × List String) := [
  (0xA5BC, [
    "VAI SYLLABLE NGON;13:HO;15:N;13:WO;15:N;13:PO;13:BHO;14:O;13:MBO;13:KPO;13:MGBO;13:GBO;16:N",
    "13:FO;13:VO;13:TO;14:HO;13:DHO;15:HO;13:LO;13:RO;13:DO;13:NDO;13:SO;14:HO;13:ZO;14:HO;13:CO",
    "13:JO;13:NJO;13:YO;13:KO;13:NGGO;13:GO;13:MO;13:NO;14:YO;13:E;14:N;13:NGEN;13:HE;15:N;13:WE",
    "15:N;13:PE;13:BHE;14:E;13:MBE;13:KPE;16:N;13:MGBE;13:GBE;16:N;13:FE;13:VE;13:TE;14:HE;13:DHE",
    "15:HE;13:LE;13:RE;13:DE;13:NDE;13:SE;14:HE;13:ZE;14:HE;13:CE;13:JE;13:NJE;13:YE;13:KE",
    "13:NGGE;17:N;13:GE;15:N;13:ME;13:NE;14:YE;14:G;13:LENGTHENER;4:COMMA;4:FULL STOP",
    "4:QUESTION MARK;4:SYLLABLE NDOLE FA;19:KA;19:SOO;6:MBOL FEENG;11:KEENG;11:TING;11:NII",
    "11:BANG;11:FAA;11:TAA;11:DANG;12:OONG;11:KUNG;11:TONG;11:DO-O;11:JONG;4:DIGIT ZERO;10:ONE",
    "10:TWO;11:HREE;10:FOUR;11:IVE;10:SIX;11:EVEN;10:EIGHT;10:NINE;4:SYLLABLE NDOLE MA;19:DO;;;;;",
    ";;;;;;;;;;;;;;;CYRILLIC CAPITAL LETTER ZEMLYA;9:SMALL LETTER ZEMLYA;9:CAPITAL LETTER DZELO",
    "9:SMALL LETTER DZELO;9:CAPITAL LETTER REVERSED DZE;9:SMALL LETTER REVERSED DZE",
    "9:CAPITAL LETTER IOTA;9:SMALL LETTER IOTA;9:CAPITAL LETTER DJERV;9:SMALL LETTER DJERV",
    "9:CAPITAL LETTER MONOGRAPH UK;9:SMALL LETTER MONOGRAPH UK;9:CAPITAL LETTER BROAD OMEGA",
    "9:SMALL LETTER BROAD OMEGA;9:CAPITAL LETTER NEUTRAL YER;9:SMALL LETTER NEUTRAL YER",
    "9:CAPITAL LETTER YERU WITH BACK YER;9:SMALL LETTER YERU WITH BACK YER",
    "9:CAPITAL LETTER IOTIFIED YAT;9:SMALL LETTER IOTIFIED YAT;9:CAPITAL LETTER REVERSED YU",
    "9:SMALL LETTER REVERSED YU;9:CAPITAL LETTER IOTIFIED A;9:SMALL LETTER IOTIFIED A",
    "9:CAPITAL LETTER CLOSED LITTLE YUS;9:SMALL LETTER CLOSED LITTLE YUS",
    "9:CAPITAL LETTER BLENDED YUS;9:SMALL LETTER BLENDED YUS",
    "9:CAPITAL LETTER IOTIFIED CLOSED LITTLE YUS;9:SMALL LETTER IOTIFIED CLOSED LITTLE YUS",
    "9:CAPITAL LETTER YN;9:SMALL LETTER YN;9:CAPITAL LETTER REVERSED TSE",
    "9:SMALL LETTER REVERSED TSE;9:CAPITAL LETTER SOFT DE;9:SMALL LETTER SOFT DE",
    "9:CAPITAL LETTER SOFT EL;9:SMALL LETTER SOFT EL;9:CAPITAL LETTER SOFT EM",
    "9:SMALL LETTER SOFT EM;9:CAPITAL LETTER MONOCULAR O;9:SMALL LETTER MONOCULAR O",
    "9:CAPITAL LETTER BINOCULAR O;9:SMALL LETTER BINOCULAR O;9:CAPITAL LETTER DOUBLE MONOCULAR O",
    "9:SMALL LETTER DOUBLE MONOCULAR O;9:LETTER MULTIOCULAR O;COMBINING CYRILLIC VZMET",
    "19:TEN MILLIONS SIGN;19:HUNDRED MILLIONS SIGN;19:THOUSAND MILLIONS SIGN;SLAVONIC ASTERISK",
    "COMBINING CYRILLIC LETTER UKRAINIAN IE;26:I;26:YI;26:U;26:HARD SIGN;26:YERU;26:SOFT SIGN",
    "26:OMEGA;19:KAVYKA;19:PAYEROK;CYRILLIC KAVYKA;9:PAYEROK;9:CAPITAL LETTER DWE",
    "9:SMALL LETTER DWE;9:CAPITAL LETTER DZWE;9:SMALL LETTER DZWE;9:CAPITAL LETTER ZHWE",
    "9:SMALL LETTER ZHWE;9:CAPITAL LETTER CCHE;9:SMALL LETTER CCHE;9:CAPITAL LETTER DZZE",
    "9:SMALL LETTER DZZE;9:CAPITAL LETTER TE WITH MIDDLE HOOK;9:SMALL LETTER TE WITH MIDDLE HOOK",
    "9:CAPITAL LETTER TWE;9:SMALL LETTER TWE;9:CAPITAL LETTER TSWE;9:SMALL LETTER TSWE",
    "9:CAPITAL LETTER TSSE;9:SMALL LETTER TSSE;9:CAPITAL LETTER TCHE;9:SMALL LETTER TCHE",
    "9:CAPITAL LETTER HWE;9:SMALL LETTER HWE;9:CAPITAL LETTER SHWE;9:SMALL LETTER SHWE",
    "9:CAPITAL LETTER DOUBLE O;9:SMALL LETTER DOUBLE O;9:CAPITAL LETTER CROSSED O",
    "9:SMALL LETTER CROSSED O;MODIFIER LETTER CYRILLIC HARD SIGN;25:SOFT SIGN",
    "COMBINING CYRILLIC LETTER EF;26:IOTIFIED E;BAMUM LETTER A;13:KA;13:U;13:KU;13:EE;13:REE",
    "13:TAE;13:O;13:NYI;13:I;13:LA;13:PA;13:RII;15:EE;13:LEEEE;13:MEEEE;13:TAA;13:NDAA;14:JAEM",
    "13:M;13:SUU;13:MU;13:SHII;14:I;14:HEUX;14:EUX;13:KYEE;14:ET;13:NUAE;15:;14:JUAE;13:YOQ",
    "13:SHU;13:YUQ;14:A;13:NSHA;13:KEUX;13:PEUX;13:NJEE;14:TEE;13:PUE;13:WUE;13:PEE;13:FEE;13:RU",
    "13:LU;13:MI;13:NI;13:REUX;14:AE;13:KEN;13:NGKWAEN;15:GA;15:A;13:SHO;13:PUAE;13:FU;14:OM",
    "13:WA;13:NA;13:LI;13:PI;13:LOQ;13:KO;13:MBEN;13:REN;13:MEN;14:A;13:TI;13:KI;13:MO;14:BAA",
    "13:TET;13:KPA;13:TEN;13:NTUU;13:SAMBA;13:FAAMAE;13:KOVUU;15:GHOM;6:COMBINING MARK KOQNDON",
    "21:TUKWENTIS;6:NJAEMLI;6:FULL STOP;6:COLON;8:MMA;6:SEMICOLON;6:QUESTION MARK;;;;;;;;",
    "MODIFIER LETTER CHINESE TONE YIN PING;30:ANG PING;30:IN SHANG;30:ANG SHANG;30:IN QU",
    "30:ANG QU;30:IN RU;30:ANG RU;16:EXTRA-HIGH DOTTED TONE BAR;16:HIGH DOTTED TONE BAR",
    "16:MID DOTTED TONE BAR;16:LOW DOTTED TONE BAR;16:EXTRA-LOW DOTTED TONE BAR",
    "22:HIGH DOTTED LEFT-STEM TONE BAR;16:HIGH DOTTED LEFT-STEM TONE BAR",
    "16:MID DOTTED LEFT-STEM TONE BAR;16:LOW DOTTED LEFT-STEM TONE BAR",
    "16:EXTRA-LOW DOTTED LEFT-STEM TONE BAR;22:HIGH LEFT-STEM TONE BAR;16:HIGH LEFT-STEM TONE BAR",
    "16:MID LEFT-STEM TONE BAR;16:LOW LEFT-STEM TONE BAR;16:EXTRA-LOW LEFT-STEM TONE BAR",
    "16:DOT VERTICAL BAR;20:SLASH;20:HORIZONTAL BAR;16:LOWER RIGHT CORNER ANGLE",
    "16:RAISED UP ARROW;23:DOWN ARROW;23:EXCLAMATION MARK;23:INVERTED EXCLAMATION MARK",
    "16:LOW INVERTED EXCLAMATION MARK;16:STRESS AND HIGH TONE;27:LOW TONE",
    "LATIN CAPITAL LETTER EGYPTOLOGICAL ALEF;6:SMALL LETTER EGYPTOLOGICAL ALEF",
    "6:CAPITAL LETTER EGYPTOLOGICAL AIN;6:SMALL LETTER EGYPTOLOGICAL AIN;6:CAPITAL LETTER HENG",
    "6:SMALL LETTER HENG;6:CAPITAL LETTER TZ;6:SMALL LETTER TZ;6:CAPITAL LETTER TRESILLO",
    "6:SMALL LETTER TRESILLO;6:CAPITAL LETTER CUATRILLO;6:SMALL LETTER CUATRILLO",
    "6:CAPITAL LETTER CUATRILLO WITH COMMA;6:SMALL LETTER CUATRILLO WITH COMMA",
    "6:LETTER SMALL CAPITAL F;27:S;6:CAPITAL LETTER AA;6:SMALL LETTER AA;6:CAPITAL LETTER AO",
    "6:SMALL LETTER AO;6:CAPITAL LETTER AU;6:SMALL LETTER AU;6:CAPITAL LETTER AV",
    "6:SMALL LETTER AV;6:CAPITAL LETTER AV WITH HORIZONTAL BAR",
    "6:SMALL LETTER AV WITH HORIZONTAL BAR;6:CAPITAL LETTER AY;6:SMALL LETTER AY",
    "6:CAPITAL LETTER REVERSED C WITH DOT;6:SMALL LETTER REVERSED C WITH DOT",
    "6:CAPITAL LETTER K WITH STROKE;6:SMALL LETTER K WITH STROKE",
    "6:CAPITAL LETTER K WITH DIAGONAL STROKE;6:SMALL LETTER K WITH DIAGONAL STROKE",
    "6:CAPITAL LETTER K WITH STROKE AND DIAGONAL STROKE",
    "6:SMALL LETTER K WITH STROKE AND DIAGONAL STROKE;6:CAPITAL LETTER BROKEN L",
    "6:SMALL LETTER BROKEN L;6:CAPITAL LETTER L WITH HIGH STROKE",
    "6:SMALL LETTER L WITH HIGH STROKE;6:CAPITAL LETTER O WITH LONG STROKE OVERLAY",
    "6:SMALL LETTER O WITH LONG STROKE OVERLAY;6:CAPITAL LETTER O WITH LOOP",
    "6:SMALL LETTER O WITH LOOP;6:CAPITAL LETTER OO;6:SMALL LETTER OO",
    "6:CAPITAL LETTER P WITH STROKE THROUGH DESCENDER",
    "6:SMALL LETTER P WITH STROKE THROUGH DESCENDER;6:CAPITAL LETTER P WITH FLOURISH",
    "6:SMALL LETTER P WITH FLOURISH;6:CAPITAL LETTER P WITH SQUIRREL TAIL",
    "6:SMALL LETTER P WITH SQUIRREL TAIL;6:CAPITAL LETTER Q WITH STROKE THROUGH DESCENDER",
    "6:SMALL LETTER Q WITH STROKE THROUGH DESCENDER;6:CAPITAL LETTER Q WITH DIAGONAL STROKE",
    "6:SMALL LETTER Q WITH DIAGONAL STROKE;6:CAPITAL LETTER R ROTUNDA;6:SMALL LETTER R ROTUNDA",
    "6:CAPITAL LETTER RUM ROTUNDA;6:SMALL LETTER RUM ROTUNDA",
    "6:CAPITAL LETTER V WITH DIAGONAL STROKE;6:SMALL LETTER V WITH DIAGONAL STROKE",
    "6:CAPITAL LETTER VY;6:SMALL LETTER VY;6:CAPITAL LETTER VISIGOTHIC Z",
    "6:SMALL LETTER VISIGOTHIC Z;6:CAPITAL LETTER THORN WITH STROKE",
    "6:SMALL LETTER THORN WITH STROKE;6:CAPITAL LETTER THORN WITH STROKE THROUGH DESCENDER",
    "6:SMALL LETTER THORN WITH STROKE THROUGH DESCENDER;6:CAPITAL LETTER VEND;6:SMALL LETTER VEND",
    "6:CAPITAL LETTER ET;6:SMALL LETTER ET;6:CAPITAL LETTER IS;6:SMALL LETTER IS",
    "6:CAPITAL LETTER CON;6:SMALL LETTER CON;MODIFIER LETTER US;LATIN SMALL LETTER DUM;19:LUM",
    "19:MUM;19:NUM;19:RUM;6:LETTER SMALL CAPITAL RUM;6:SMALL LETTER TUM;19:UM",
    "6:CAPITAL LETTER INSULAR D;6:SMALL LETTER INSULAR D;6:CAPITAL LETTER INSULAR F",
    "6:SMALL LETTER INSULAR F;6:CAPITAL LETTER INSULAR G;21:TURNED INSULAR G",
    "6:SMALL LETTER TURNED INSULAR G;6:CAPITAL LETTER TURNED L;6:SMALL LETTER TURNED L",
    "6:CAPITAL LETTER INSULAR R;6:SMALL LETTER INSULAR R;6:CAPITAL LETTER INSULAR S",
    "6:SMALL LETTER INSULAR S;6:CAPITAL LETTER INSULAR T;6:SMALL LETTER INSULAR T",
    "MODIFIER LETTER LOW CIRCUMFLEX ACCENT;16:COLON;16:SHORT EQUALS SIGN",
    "LATIN CAPITAL LETTER SALTILLO;6:SMALL LETTER SALTILLO;6:CAPITAL LETTER TURNED H",
    "6:SMALL LETTER L WITH RETROFLEX HOOK AND BELT;6:LETTER SINOLOGICAL DOT",
    "6:CAPITAL LETTER N WITH DESCENDER;6:SMALL LETTER N WITH DESCENDER",
    "6:CAPITAL LETTER C WITH BAR;6:SMALL LETTER C WITH BAR;26:PALATAL HOOK;19:H WITH PALATAL HOOK",
    "6:CAPITAL LETTER B WITH FLOURISH;6:SMALL LETTER B WITH FLOURISH",
    "6:CAPITAL LETTER F WITH STROKE;6:SMALL LETTER F WITH STROKE;6:CAPITAL LETTER VOLAPUK AE",
    "6:SMALL LETTER VOLAPUK AE;6:CAPITAL LETTER VOLAPUK OE;6:SMALL LETTER VOLAPUK OE",
    "6:CAPITAL LETTER VOLAPUK UE;6:SMALL LETTER VOLAPUK UE;6:CAPITAL LETTER G WITH OBLIQUE STROKE",
    "6:SMALL LETTER G WITH OBLIQUE STROKE;6:CAPITAL LETTER K WITH OBLIQUE STROKE",
    "6:SMALL LETTER K WITH OBLIQUE STROKE;6:CAPITAL LETTER N WITH OBLIQUE STROKE",
    "6:SMALL LETTER N WITH OBLIQUE STROKE;6:CAPITAL LETTER R WITH OBLIQUE STROKE",
    "6:SMALL LETTER R WITH OBLIQUE STROKE;6:CAPITAL LETTER S WITH OBLIQUE STROKE",
    "6:SMALL LETTER S WITH OBLIQUE STROKE;6:CAPITAL LETTER H WITH HOOK;21:REVERSED OPEN E",
    "21:SCRIPT G;21:L WITH BELT;21:SMALL CAPITAL I;6:LETTER SMALL CAPITAL Q",
    "6:CAPITAL LETTER TURNED K;28:T;21:J WITH CROSSED-TAIL;21:CHI;21:BETA;6:SMALL LETTER BETA",
    "6:CAPITAL LETTER OMEGA;6:SMALL LETTER OMEGA;6:CAPITAL LETTER U WITH STROKE",
    "6:SMALL LETTER U WITH STROKE;6:CAPITAL LETTER GLOTTAL A;6:SMALL LETTER GLOTTAL A",
    "6:CAPITAL LETTER GLOTTAL I;6:SMALL LETTER GLOTTAL I;6:CAPITAL LETTER GLOTTAL U",
    "6:SMALL LETTER GLOTTAL U;6:CAPITAL LETTER OLD POLISH O;6:SMALL LETTER OLD POLISH O",
    "6:CAPITAL LETTER ANGLICANA W;6:SMALL LETTER ANGLICANA W;6:CAPITAL LETTER C WITH PALATAL HOOK",
    "21:S WITH HOOK;21:Z WITH PALATAL HOOK;21:D WITH SHORT STROKE OVERLAY",
    "6:SMALL LETTER D WITH SHORT STROKE OVERLAY;6:CAPITAL LETTER S WITH SHORT STROKE OVERLAY",
    "6:SMALL LETTER S WITH SHORT STROKE OVERLAY;;;;;;LATIN CAPITAL LETTER CLOSED INSULAR G",
    "6:SMALL LETTER CLOSED INSULAR G;;LATIN SMALL LETTER DOUBLE THORN;",
    "LATIN SMALL LETTER DOUBLE WYNN;6:CAPITAL LETTER MIDDLE SCOTS S;6:SMALL LETTER MIDDLE SCOTS S",
    "6:CAPITAL LETTER SIGMOID S;6:SMALL LETTER SIGMOID S;;;;;;;;;;;;;;;;;;;;;;;;",
    "MODIFIER LETTER CAPITAL C;24:F;24:Q;LATIN CAPITAL LETTER REVERSED HALF H",
    "6:SMALL LETTER REVERSED HALF H;6:EPIGRAPHIC LETTER SIDEWAYS I",
    "MODIFIER LETTER CAPITAL H WITH STROKE;16:SMALL LIGATURE OE",
    "LATIN LETTER SMALL CAPITAL TURNED M;6:EPIGRAPHIC LETTER REVERSED F;33:P;24:INVERTED M",
    "25: LONGA;24:ARCHAIC M;SYLOTI NAGRI LETTER A;20:I;13:SIGN DVISVARA;13:LETTER U;20:E;20:O",
    "13:SIGN HASANTA;13:LETTER KO;21:HO;20:GO;21:HO;13:SIGN ANUSVARA;13:LETTER CO;21:HO;20:JO",
    "21:HO;20:TTO;22:HO;20:DDO;22:HO;20:TO;21:HO;20:DO;21:HO;20:NO;20:PO;21:HO;20:BO;21:HO;20:MO",
    "20:RO;20:LO;20:RRO;20:SO;20:HO;13:VOWEL SIGN A;24:I;24:U;24:E;24:OO;13:POETRY MARK-1;25:2",
    "25:3;25:4;13:SIGN ALTERNATE HASANTA;;;;NORTH INDIC FRACTION ONE QUARTER;25:HALF",
    "21:THREE QUARTERS;21:ONE SIXTEENTH;25:EIGHTH;21:THREE SIXTEENTHS;12:QUARTER MARK",
    "12:PLACEHOLDER MARK;12:RUPEE MARK;12:QUANTITY MARK;;;;;;;PHAGS-PA LETTER KA;17:HA;16:GA",
    "16:NGA;16:CA;17:HA;16:JA;16:NYA;16:TA;17:HA;16:DA;16:NA;16:PA;17:HA;16:BA;16:MA;16:TSA;18:HA",
    "16:DZA;16:WA;16:ZHA;17:A;16:SMALL A;16:YA;16:RA;16:LA;16:SHA;17:A;16:HA;16:A;16:I;16:U;16:E",
    "16:O;16:QA;16:XA;16:FA;16:GGA;16:EE;9:SUBJOINED LETTER WA;26:YA;9:LETTER TTA;18:HA;16:DDA",
    "16:NNA;16:ALTERNATE YA;16:VOICELESS SHA;21:D HA;16:ASPIRATED FA;9:SUBJOINED LETTER RA",
    "11:PERFIXED LETTER RA;9:LETTER CANDRABINDU;9:SINGLE HEAD MARK;9:DOUBLE HEAD MARK;9:MARK SHAD",
    "14:DOUBLE SHAD;;;;;;;;;SAURASHTRA SIGN ANUSVARA;16:VISARGA;11:LETTER A;19:A;18:I;19:I;18:U",
    "19:U;18:VOCALIC R;27:R;26:L;27:L;18:E;19:E;18:AI;18:O;19:O;18:AU;18:KA;19:HA;18:GA;19:HA",
    "18:NGA;18:CA;19:HA;18:JA;19:HA;18:NYA;18:TTA;20:HA;18:DDA;20:HA;18:NNA;18:TA;19:HA;18:DA",
    "19:HA;18:NA;18:PA;19:HA;18:BA;19:HA;18:MA;18:YA;18:RA;18:LA;18:VA;18:SHA;19:SA;19:A;18:HA",
    "18:LLA;11:CONSONANT SIGN HAARU;11:VOWEL SIGN AA;22:I;23:I;22:U;23:U;22:VOCALIC R;31:R;30:L",
    "31:L;22:E;23:E;22:AI;22:O;23:O;22:AU;11:SIGN VIRAMA;16:CANDRABINDU;;;;;;;;;SAURASHTRA DANDA",
    "12:OUBLE DANDA;12:IGIT ZERO;17:ONE;17:TWO;18:HREE;17:FOUR;18:IVE;17:SIX;18:EVEN;17:EIGHT",
    "17:NINE;;;;;;;COMBINING DEVANAGARI DIGIT ZERO;27:ONE;27:TWO;28:HREE;27:FOUR;28:IVE;27:SIX",
    "28:EVEN;27:EIGHT;27:NINE;21:LETTER A;28:U;28:KA;28:NA;28:PA;28:RA;28:VI;21:SIGN AVAGRAHA",
    "DEVANAGARI SIGN SPACING CANDRABINDU;16:CANDRABINDU VIRAMA;16:DOUBLE CANDRABINDU VIRAMA",
    "16:CANDRABINDU TWO;29:HREE;28:AVAGRAHA;16:PUSHPIKA;11:GAP FILLER;11:CARET;11:HEADSTROKE",
    "11:SIGN SIDDHAM;11:JAIN OM;11:LETTER AY;11:VOWEL SIGN AY;KAYAH LI DIGIT ZERO;15:ONE;15:TWO",
    "16:HREE;15:FOUR;16:IVE;15:SIX;16:EVEN;15:EIGHT;15:NINE;9:LETTER KA;17:HA;16:GA;16:NGA;16:SA",
    "17:HA;16:ZA;16:NYA;16:TA;16:HTA;16:NA;16:PA;17:HA;16:MA;16:DA;16:BA;16:RA;16:YA;16:LA;16:WA",
    "16:THA;16:HA;16:VA;16:CA;16:A;16:OE;16:I;16:OO;9:VOWEL UE;15:E;15:U;15:EE;15:O;9:TONE PLOPHU",
    "14:CALYA;19: PLOPHU;9:SIGN CWI;14:SHYA;REJANG LETTER KA;14:GA;14:NGA;14:TA;14:DA;14:NA;14:PA",
    "14:BA;14:MA;14:CA;14:JA;14:NYA;14:SA;14:RA;14:LA;14:YA;14:WA;14:HA;14:MBA;14:NGGA;15:DA",
    "15:YJA;14:A;7:VOWEL SIGN I;18:U;18:E;18:AI;18:O;18:AU;18:EU;19:A;7:CONSONANT SIGN NG;23:",
    "22:R;22:H;7:VIRAMA;;;;;;;;;;;;REJANG SECTION MARK;HANGUL CHOSEONG TIKEUT-MIEUM;23:PIEUP",
    "23:SIOS;23:CIEUC;16:RIEUL-KIYEOK;22:SSANGKIYEOK;22:TIKEUT;22:SSANGTIKEUT;22:MIEUM;22:PIEUP",
    "22:SSANGPIEUP;22:KAPYEOUNPIEUP;22:SIOS;22:CIEUC;22:KHIEUKH;16:MIEUM-KIYEOK;22:TIKEUT;22:SIOS",
    "16:PIEUP-SIOS-THIEUTH;22:KHIEUKH;22:HIEUH;16:SSANGSIOS-PIEUP;16:IEUNG-RIEUL;22:HIEUH",
    "16:SSANGCIEUC-HIEUH;21:THIEUTH;16:PHIEUPH-HIEUH;16:HIEUH-SIOS;16:SSANGYEORINHIEUH;;;",
    "JAVANESE SIGN PANYANGGA;14:CECAK;14:LAYAR;14:WIGNYAN;9:LETTER A;16:I KAWI;17:;17:I;16:U",
    "16:PA CEREK;16:NGA LELET;25: RASWADI;16:E;16:AI;16:O;16:KA;18: SASAK;19:MURDA;16:GA",
    "18: MURDA;16:NGA;16:CA;18: MURDA;16:JA;16:NYA MURDA;16:JA MAHAPRANA;16:NYA;16:TTA",
    "19: MAHAPRANA;16:DDA;19: MAHAPRANA;16:NA MURDA;16:TA;18: MURDA;16:DA;18: MAHAPRANA;16:NA",
    "16:PA;18: MURDA;16:BA;18: MURDA;16:MA;16:YA;16:RA;18: AGUNG;16:LA;16:WA;16:SA MURDA",
    "20:AHAPRANA;18:;16:HA;9:SIGN CECAK TELU;9:VOWEL SIGN TARUNG;21:OLONG;20:WULU;24: MELIK",
    "20:SUKU;24: MENDUT;20:TALING;20:DIRGA MURE;20:PEPET;9:CONSONANT SIGN KERET;24:PENGKAL",
    "24:CAKRA;9:PANGKON;9:LEFT RERENGGAN;9:RIGHT RERENGGAN;9:PADA ANDAP;14:MADYA;14:LUHUR",
    "14:WINDU;14:PANGKAT;14:LINGSA;15:UNGSI;14:ADEG;18: ADEG"]),
  (0xA9CC, [
    "JAVANESE PADA PISELEH;9:TURNED PADA PISELEH;;JAVANESE PANGRANGKEP;9:DIGIT ZERO;15:ONE;15:TWO",
    "16:HREE;15:FOUR;16:IVE;15:SIX;16:EVEN;15:EIGHT;15:NINE;;;;;JAVANESE PADA TIRTA TUMETES",
    "14:ISEN-ISEN;MYANMAR LETTER SHAN GHA;20:CHA;20:JHA;20:NNA;20:BHA;8:SIGN SHAN SAW",
    "8:MODIFIER LETTER SHAN REDUPLICATION;8:LETTER TAI LAING NYA;25:FA;25:GA;26:HA;25:JA;26:HA",
    "25:DDA;27:HA;25:NNA;8:TAI LAING DIGIT ZERO;24:ONE;24:TWO;25:HREE;24:FOUR;25:IVE;24:SIX",
    "25:EVEN;24:EIGHT;24:NINE;8:LETTER TAI LAING LLA;25:DA;26:HA;25:BA;26:HA;;CHAM LETTER A;12:I",
    "12:U;12:E;12:AI;12:O;12:KA;13:HA;12:GA;13:HA;12:NGUE;14:A;12:CHA;14:HA;12:JA;13:HA;12:NHUE",
    "14:A;14:JA;12:TA;13:HA;12:DA;13:HA;12:NUE;13:A;12:DDA;12:PA;13:PA;13:HA;12:BA;13:HA;12:MUE",
    "13:A;12:BBA;12:YA;12:RA;12:LA;12:VA;12:SSA;13:A;12:HA;5:VOWEL SIGN AA;16:I;17:I;16:EI;16:U",
    "16:OE;17:;16:AI;17:U;16:UE;5:CONSONANT SIGN YA;20:RA;20:LA;20:WA;;;;;;;;;",
    "CHAM LETTER FINAL K;18:G;18:NG;5:CONSONANT SIGN FINAL NG;5:LETTER FINAL CH;18:T;18:N;18:P",
    "18:Y;18:R;18:L;18:SS;5:CONSONANT SIGN FINAL M;26:H;;;CHAM DIGIT ZERO;11:ONE;11:TWO;12:HREE",
    "11:FOUR;12:IVE;11:SIX;12:EVEN;11:EIGHT;11:NINE;;;CHAM PUNCTUATION SPIRAL;17:DANDA",
    "18:OUBLE DANDA;17:TRIPLE DANDA;MYANMAR LETTER KHAMTI GA;22:CA;23:HA;22:JA;23:HA;22:NYA",
    "22:TTA;24:HA;22:DDA;24:HA;23:HA;22:NA;22:SA;22:HA;23:HA;22:FA",
    "8:MODIFIER LETTER KHAMTI REDUPLICATION;8:LETTER KHAMTI XA;22:ZA;22:RA;9:OGOGRAM KHAMTI OAY",
    "24:QN;24:HM;8:SYMBOL AITON EXCLAMATION;21:ONE;21:TWO;8:LETTER AITON RA;8:SIGN PAO KAREN TONE",
    "13:TAI LAING TONE-2;28:5;8:LETTER SHWE PALAUNG CHA;28:SHA;TAI VIET LETTER LOW KO;16:HIGH KO",
    "16:LOW KHO;16:HIGH KHO;16:LOW KHHO;16:HIGH KHHO;16:LOW GO;16:HIGH GO;16:LOW NGO;16:HIGH NGO",
    "16:LOW CO;16:HIGH CO;16:LOW CHO;16:HIGH CHO;16:LOW SO;16:HIGH SO;16:LOW NYO;16:HIGH NYO",
    "16:LOW DO;16:HIGH DO;16:LOW TO;16:HIGH TO;16:LOW THO;16:HIGH THO;16:LOW NO;16:HIGH NO",
    "16:LOW BO;16:HIGH BO;16:LOW PO;16:HIGH PO;16:LOW PHO;16:HIGH PHO;16:LOW FO;16:HIGH FO",
    "16:LOW MO;16:HIGH MO;16:LOW YO;16:HIGH YO;16:LOW RO;16:HIGH RO;16:LOW LO;16:HIGH LO",
    "16:LOW VO;16:HIGH VO;16:LOW HO;16:HIGH HO;16:LOW O;16:HIGH O;9:MAI KANG;9:VOWEL AA;15:I",
    "15:UE;16:;15:E;15:O;9:MAI KHIT;9:VOWEL IA;15:UEA;16:A;15:AUE;16:Y;16:N;16:M;9:TONE MAI EK",
    "18:NUENG;18:THO;18:SONG;;;;;;;;;;;;;;;;;;;;;;;;;TAI VIET SYMBOL KON;16:NUENG;16:SAM",
    "16:HO HOI;16:KOI KOI;MEETEI MAYEK LETTER E;20:O;20:CHA;20:NYA;20:TTA;22:HA;20:DDA;22:HA",
    "20:NNA;20:SHA;21:SA;13:VOWEL SIGN II;24:UU;24:AAI;25:U;25:AU;13:CHEIKHAN;13:AHANG KHUDAM",
    "14:NJI;13:SYLLABLE REPETITION MARK;13:WORD REPETITION MARK;13:VOWEL SIGN VISARGA;14:IRAMA;;;",
    ";;;;;;;ETHIOPIC SYLLABLE TTHU;21:I;21:AA;21:EE;22:;21:O;;;ETHIOPIC SYLLABLE DDHU;21:I;21:AA",
    "21:EE;22:;21:O;;;ETHIOPIC SYLLABLE DZU;20:I;20:AA;20:EE;21:;20:O;;;;;;;;;",
    "ETHIOPIC SYLLABLE CCHHA;22:U;22:I;22:AA;22:EE;23:;22:O;;ETHIOPIC SYLLABLE BBA;20:U;20:I",
    "20:AA;20:EE;21:;20:O;;LATIN SMALL LETTER BARRED ALPHA;19:A REVERSED-SCHWA;19:BLACKLETTER E",
    "20:ARRED E;19:E WITH FLOURISH;19:LENIS F;19:SCRIPT G WITH CROSSED-TAIL",
    "19:L WITH INVERTED LAZY S;26:DOUBLE MIDDLE TILDE;26:MIDDLE RING;19:M WITH CROSSED-TAIL",
    "19:N WITH CROSSED-TAIL;19:ENG WITH CROSSED-TAIL;19:BLACKLETTER O;32: WITH STROKE",
    "19:OPEN O WITH STROKE;19:INVERTED OE;19:TURNED OE WITH STROKE;34:HORIZONTAL STROKE",
    "27: OPEN-O;34: WITH STROKE;19:STIRRUP R;6:LETTER SMALL CAPITAL R WITH RIGHT LEG",
    "6:SMALL LETTER R WITHOUT HANDLE;19:DOUBLE R;19:R WITH CROSSED-TAIL",
    "19:DOUBLE R WITH CROSSED-TAIL;19:SCRIPT R;27: WITH RING;19:BASELINE ESH",
    "19:U WITH SHORT RIGHT LEG;21:BAR WITH SHORT RIGHT LEG;20:I;19:TURNED UI;19:U WITH LEFT HOOK",
    "19:CHI;22: WITH LOW RIGHT RING;32:LEFT SERIF;19:X WITH LOW RIGHT RING;28:NG LEFT LEG",
    "39: AND LOW RIGHT RING;40:WITH SERIF;19:Y WITH SHORT RIGHT LEG",
    "MODIFIER BREVE WITH INVERTED BREVE;9:LETTER SMALL HENG;22:L WITH INVERTED LAZY S",
    "29:MIDDLE TILDE;22:U WITH LEFT HOOK;LATIN SMALL LETTER SAKHA YAT;19:IOTIFIED E;19:OPEN OE",
    "19:UO;19:INVERTED ALPHA;GREEK LETTER SMALL CAPITAL OMEGA",
    "LATIN SMALL LETTER DZ DIGRAPH WITH RETROFLEX HOOK;19:TS DIGRAPH WITH RETROFLEX HOOK",
    "20:URNED R WITH MIDDLE TILDE;MODIFIER LETTER SMALL TURNED W;16:LEFT TACK;16:RIGHT TACK;;;;",
    "CHEROKEE SMALL LETTER A;22:E;22:I;22:O;22:U;22:V;22:GA;22:KA;22:GE;23:I;23:O;23:U;23:V;22:HA",
    "23:E;23:I;23:O;23:U;23:V;22:LA;23:E;23:I;23:O;23:U;23:V;22:MA;23:E;23:I;23:O;23:U;22:NA",
    "22:HNA;22:NAH;23:E;23:I;23:O;23:U;23:V;22:QUA;24:E;24:I;24:O;24:U;24:V;22:SA;23:;23:E;23:I",
    "23:O;23:U;23:V;22:DA;22:TA;22:DE;22:TE;22:DI;22:TI;22:DO;23:U;23:V;23:LA;22:TLA;24:E;24:I",
    "24:O;24:U;24:V;23:SA;24:E;24:I;24:O;24:U;24:V;22:WA;23:E;23:I;23:O;23:U;23:V;22:YA",
    "MEETEI MAYEK LETTER KOK;20:SAM;20:LAI;20:MIT;20:PA;20:NA;20:CHIL;20:TIL;20:KHOU;20:NGOU",
    "20:THOU;20:WAI;20:YANG;20:HUK;20:UN;20:I;20:PHAM;20:ATIYA;20:GOK;20:JHAM;20:RAI;20:BA;20:JIL",
    "20:DIL;20:GHOU;20:DHOU;20:BHAM;20:KOK LONSUM;20:LAI LONSUM;20:MIT LONSUM;20:PA LONSUM",
    "20:NA LONSUM;20:TIL LONSUM;20:NGOU LONSUM;20:I LONSUM;13:VOWEL SIGN ONAP;24:INAP;24:ANAP",
    "24:YENAP;24:SOUNAP;24:UNAP;24:CHEINAP;24:NUNG;13:CHEIKHEI;13:LUM IYEK;13:APUN IYEK;;",
    "MEETEI MAYEK DIGIT ZERO;19:ONE;19:TWO;20:HREE;19:FOUR;20:IVE;19:SIX;20:EVEN;19:EIGHT;19:NINE"]),
  (0xD7B0, [
    "HANGUL JUNGSEONG O-YEO;19:O-I;17:YO-A;21:E;20:EO;17:U-YEO;19:I-I;17:YU-AE;20:O;17:EU-A;20:EO",
    "21:;20:O;17:I-YA-O;21:E;20:EO;21:;19:O-I;19:YO;20:U;19:I;17:ARAEA-A;23:E;;;;",
    "HANGUL JONGSEONG NIEUN-RIEUL;23:CHIEUCH;17:SSANGTIKEUT;28:-PIEUP;17:TIKEUT-PIEUP;24:SIOS",
    "28:-KIYEOK;24:CIEUC;25:HIEUCH;24:THIEUTH;17:RIEUL-SSANGKIYEOK;23:KIYEOK-HIEUH",
    "17:SSANGRIEUL-KHIEUKH;17:RIEUL-MIEUM-HIEUH;23:PIEUP-TIKEUT;29:PHIEUPH;23:YESIEUNG",
    "25:ORINHIEUH-HIEUH;17:KAPYEOUNRIEUL;17:MIEUM-NIEUN;23:SSANGNIEUN;17:SSANGMIEUM",
    "17:MIEUM-PIEUP-SIOS;23:CIEUC;17:PIEUP-TIKEUT;23:RIEUL-PHIEUPH;23:MIEUM;17:SSANGPIEUP",
    "17:PIEUP-SIOS-TIKEUT;23:CIEUC;24:HIEUCH;17:SIOS-MIEUM;22:KAPYEOUNPIEUP;18:SANGSIOS-KIYEOK",
    "27:TIKEUT;18:IOS-PANSIOS;22:CIEUC;23:HIEUCH;22:THIEUTH;22:HIEUH;17:PANSIOS-PIEUP",
    "25:KAPYEOUNPIEUP;17:YESIEUNG-MIEUM;26:HIEUH;17:CIEUC-PIEUP;23:SSANGPIEUP;17:SSANGCIEUC",
    "17:PHIEUPH-SIOS;25:THIEUTH"]),
  (0xF900, [
    "CJK COMPATIBILITY IDEOGRAPH-F900;31:1;31:2;31:3;31:4;31:5;31:6;31:7;31:8;31:9;31:A;31:B;31:C",
    "31:D;31:E;31:F;30:10;31:1;31:2;31:3;31:4;31:5;31:6;31:7;31:8;31:9;31:A;31:B;31:C;31:D;31:E",
    "31:F;30:20;31:1;31:2;31:3;31:4;31:5;31:6;31:7;31:8;31:9;31:A;31:B;31:C;31:D;31:E;31:F;30:30",
    "31:1;31:2;31:3;31:4;31:5;31:6;31:7;31:8;31:9;31:A;31:B;31:C;31:D;31:E;31:F;30:40;31:1;31:2",
    "31:3;31:4;31:5;31:6;31:7;31:8;31:9;31:A;31:B;31:C;31:D;31:E;31:F;30:50;31:1;31:2;31:3;31:4",
    "31:5;31:6;31:7;31:8;31:9;31:A;31:B;31:C;31:D;31:E;31:F;30:60;31:1;31:2;31:3;31:4;31:5;31:6",
    "31:7;31:8;31:9;31:A;31:B;31:C;31:D;31:E;31:F;30:70;31:1;31:2;31:3;31:4;31:5;31:6;31:7;31:8",
    "31:9;31:A;31:B;31:C;31:D;31:E;31:F;30:80;31:1;31:2;31:3;31:4;31:5;31:6;31:7;31:8;31:9;31:A",
    "31:B;31:C;31:D;31:E;31:F;30:90;31:1;31:2;31:3;31:4;31:5;31:6;31:7;31:8;31:9;31:A;31:B;31:C",
    "31:D;31:E;31:F;30:A0;31:1;31:2;31:3;31:4;31:5;31:6;31:7;31:8;31:9;31:A;31:B;31:C;31:D;31:E",
    "31:F;30:B0;31:1;31:2;31:3;31:4;31:5;31:6;31:7;31:8;31:9;31:A;31:B;31:C;31:D;31:E;31:F;30:C0",
    "31:1;31:2;31:3;31:4;31:5;31:6;31:7;31:8;31:9;31:A;31:B;31:C;31:D;31:E;31:F;30:D0;31:1;31:2",
    "31:3;31:4;31:5;31:6;31:7;31:8;31:9;31:A;31:B;31:C;31:D;31:E;31:F;30:E0;31:1;31:2;31:3;31:4",
    "31:5;31:6;31:7;31:8;31:9;31:A;31:B;31:C;31:D;31:E;31:F;30:F0;31:1;31:2;31:3;31:4;31:5;31:6",
    "31:7;31:8;31:9;31:A;31:B;31:C;31:D;31:E;31:F;29:A00;31:1;31:2;31:3;31:4;31:5;31:6;31:7;31:8",
    "31:9;31:A;31:B;31:C;31:D;31:E;31:F;30:10;31:1;31:2;31:3;31:4;31:5;31:6;31:7;31:8;31:9;31:A",
    "31:B;31:C;31:D;31:E;31:F;30:20;31:1;31:2;31:3;31:4;31:5;31:6;31:7;31:8;31:9;31:A;31:B;31:C",
    "31:D;31:E;31:F;30:30;31:1;31:2;31:3;31:4;31:5;31:6;31:7;31:8;31:9;31:A;31:B;31:C;31:D;31:E",
    "31:F;30:40;31:1;31:2;31:3;31:4;31:5;31:6;31:7;31:8;31:9;31:A;31:B;31:C;31:D;31:E;31:F;30:50",
    "31:1;31:2;31:3;31:4;31:5;31:6;31:7;31:8;31:9;31:A;31:B;31:C;31:D;31:E;31:F;30:60;31:1;31:2",
    "31:3;31:4;31:5;31:6;31:7;31:8;31:9;31:A;31:B;31:C;31:D;;;CJK COMPATIBILITY IDEOGRAPH-FA70",
    "31:1;31:2;31:3;31:4;31:5;31:6;31:7;31:8;31:9;31:A;31:B;31:C;31:D;31:E;31:F;30:80;31:1;31:2",
    "31:3;31:4;31:5;31:6;31:7;31:8;31:9;31:A;31:B;31:C;31:D;31:E;31:F;30:90;31:1;31:2;31:3;31:4",
    "31:5;31:6;31:7;31:8;31:9;31:A;31:B;31:C;31:D;31:E;31:F;30:A0;31:1;31:2;31:3;31:4;31:5;31:6",
    "31:7;31:8;31:9;31:A;31:B;31:C;31:D;31:E;31:F;30:B0;31:1;31:2;31:3;31:4;31:5;31:6;31:7;31:8",
    "31:9;31:A;31:B;31:C;31:D;31:E;31:F;30:C0;31:1;31:2;31:3;31:4;31:5;31:6;31:7;31:8;31:9;31:A",
    "31:B;31:C;31:D;31:E;31:F;30:D0;31:1;31:2;31:3;31:4;31:5;31:6;31:7;31:8;31:9;;;;;;;;;;;;;;;;;",
    ";;;;;;;;;;;;;;;;;;;;;LATIN SMALL LIGATURE FF;22:I;22:L;22:FI;23:L;21:LONG S T;21:ST;;;;;;;;;",
    ";;;ARMENIAN SMALL LIGATURE MEN NOW;28:ECH;28:INI;24:VEW NOW;24:MEN XEH;;;;;",
    "HEBREW LETTER YOD WITH HIRIQ;7:POINT JUDEO-SPANISH VARIKA;7:LIGATURE YIDDISH YOD YOD PATAH",
    "8:ETTER ALTERNATIVE AYIN;14:WIDE ALEF;19:DALET;19:HE;19:KAF;19:LAMED;19:FINAL MEM;19:RESH",
    "19:TAV;14:ALTERNATIVE PLUS SIGN;14:SHIN WITH SHIN DOT;25:IN DOT;24:DAGESH AND SHIN DOT",
    "36:IN DOT;14:ALEF WITH PATAH;24:QAMATS;24:MAPIQ;14:BET WITH DAGESH;14:GIMEL WITH DAGESH",
    "14:DALET WITH DAGESH;14:HE WITH MAPIQ;14:VAV WITH DAGESH;14:ZAYIN WITH DAGESH;",
    "HEBREW LETTER TET WITH DAGESH;14:YOD WITH DAGESH;14:FINAL KAF WITH DAGESH;14:KAF WITH DAGESH",
    "14:LAMED WITH DAGESH;;HEBREW LETTER MEM WITH DAGESH;;HEBREW LETTER NUN WITH DAGESH",
    "14:SAMEKH WITH DAGESH;;HEBREW LETTER FINAL PE WITH DAGESH;14:PE WITH DAGESH;",
    "HEBREW LETTER TSADI WITH DAGESH;14:QOF WITH DAGESH;14:RESH WITH DAGESH;14:SHIN WITH DAGESH",
    "14:TAV WITH DAGESH;14:VAV WITH HOLAM;14:BET WITH RAFE;14:KAF WITH RAFE;14:PE WITH RAFE",
    "8:IGATURE ALEF LAMED;ARABIC LETTER ALEF WASLA ISOLATED FORM;25:FINAL FORM",
    "14:BEEH ISOLATED FORM;19:FINAL FORM;19:INITIAL FORM;19:MEDIAL FORM;14:PEH ISOLATED FORM",
    "18:FINAL FORM;18:INITIAL FORM;18:MEDIAL FORM;14:BEHEH ISOLATED FORM;20:FINAL FORM",
    "20:INITIAL FORM;20:MEDIAL FORM;14:TTEHEH ISOLATED FORM;21:FINAL FORM;21:INITIAL FORM",
    "21:MEDIAL FORM;15:EHEH ISOLATED FORM;20:FINAL FORM;20:INITIAL FORM;20:MEDIAL FORM",
    "15:TEH ISOLATED FORM;19:FINAL FORM;19:INITIAL FORM;19:MEDIAL FORM;14:VEH ISOLATED FORM",
    "18:FINAL FORM;18:INITIAL FORM;18:MEDIAL FORM;14:PEHEH ISOLATED FORM;20:FINAL FORM",
    "20:INITIAL FORM;20:MEDIAL FORM;14:DYEH ISOLATED FORM;19:FINAL FORM;19:INITIAL FORM",
    "19:MEDIAL FORM;14:NYEH ISOLATED FORM;19:FINAL FORM;19:INITIAL FORM;19:MEDIAL FORM",
    "14:TCHEH ISOLATED FORM;20:FINAL FORM;20:INITIAL FORM;20:MEDIAL FORM;19:EH ISOLATED FORM",
    "22:FINAL FORM;22:INITIAL FORM;22:MEDIAL FORM;14:DDAHAL ISOLATED FORM;21:FINAL FORM",
    "15:AHAL ISOLATED FORM;20:FINAL FORM;15:UL ISOLATED FORM;18:FINAL FORM;15:DAL ISOLATED FORM",
    "19:FINAL FORM;14:JEH ISOLATED FORM;18:FINAL FORM;14:RREH ISOLATED FORM;19:FINAL FORM",
    "14:KEHEH ISOLATED FORM;20:FINAL FORM;20:INITIAL FORM;20:MEDIAL FORM;14:GAF ISOLATED FORM",
    "18:FINAL FORM;18:INITIAL FORM;18:MEDIAL FORM;15:UEH ISOLATED FORM;19:FINAL FORM",
    "19:INITIAL FORM;19:MEDIAL FORM;14:NGOEH ISOLATED FORM;20:FINAL FORM;20:INITIAL FORM",
    "20:MEDIAL FORM;15:OON GHUNNA ISOLATED FORM;26:FINAL FORM;14:RNOON ISOLATED FORM",
    "20:FINAL FORM;20:INITIAL FORM;20:MEDIAL FORM;14:HEH WITH YEH ABOVE ISOLATED FORM",
    "33:FINAL FORM;18:GOAL ISOLATED FORM;23:FINAL FORM;23:INITIAL FORM;23:MEDIAL FORM",
    "18:DOACHASHMEE ISOLATED FORM;30:FINAL FORM;30:INITIAL FORM;30:MEDIAL FORM",
    "14:YEH BARREE ISOLATED FORM;25:FINAL FORM;25:WITH HAMZA ABOVE ISOLATED FORM;42:FINAL FORM",
    "7:SYMBOL DOT ABOVE;18:BELOW;14:TWO DOTS ABOVE;23:BELOW;15:HREE DOTS ABOVE;25:BELOW",
    "25:POINTING DOWNWARDS ABOVE;44:BELOW;14:FOUR DOTS ABOVE;24:BELOW",
    "14:DOUBLE VERTICAL BAR BELOW;14:TWO DOTS VERTICALLY ABOVE;34:BELOW;14:RING",
    "14:SMALL TAH ABOVE;24:BELOW;14:WASLA ABOVE;;;;;;;;;;;;;;;;;ARABIC LETTER NG ISOLATED FORM",
    "17:FINAL FORM;17:INITIAL FORM;17:MEDIAL FORM;14:U ISOLATED FORM;16:FINAL FORM",
    "14:OE ISOLATED FORM;17:FINAL FORM;14:YU ISOLATED FORM;17:FINAL FORM",
    "14:U WITH HAMZA ABOVE ISOLATED FORM;14:VE ISOLATED FORM;17:FINAL FORM",
    "14:KIRGHIZ OE ISOLATED FORM;25:FINAL FORM;22:YU ISOLATED FORM;25:FINAL FORM",
    "14:E ISOLATED FORM;16:FINAL FORM;16:INITIAL FORM;16:MEDIAL FORM",
    "14:UIGHUR KAZAKH KIRGHIZ ALEF MAKSURA INITIAL FORM;49:MEDIAL FORM",
    "8:IGATURE YEH WITH HAMZA ABOVE WITH ALEF ISOLATED FORM;47:FINAL FORM;43:E ISOLATED FORM",
    "45:FINAL FORM;42:WAW ISOLATED FORM;46:FINAL FORM;42:U ISOLATED FORM;44:FINAL FORM",
    "42:OE ISOLATED FORM;45:FINAL FORM;42:YU ISOLATED FORM;45:FINAL FORM;42:E ISOLATED FORM",
    "44:FINAL FORM;44:INITIAL FORM",
    "16:UIGHUR KIRGHIZ YEH WITH HAMZA ABOVE WITH ALEF MAKSURA ISOLATED FORM;70:FINAL FORM",
    "70:INITIAL FORM;8:ETTER FARSI YEH ISOLATED FORM;24:FINAL FORM;24:INITIAL FORM;24:MEDIAL FORM",
    "8:IGATURE YEH WITH HAMZA ABOVE WITH JEEM ISOLATED FORM;42:HAH ISOLATED FORM",
    "42:MEEM ISOLATED FORM;42:ALEF MAKSURA ISOLATED FORM;42:YEH ISOLATED FORM",
    "16:BEH WITH JEEM ISOLATED FORM;25:HAH ISOLATED FORM;25:KHAH ISOLATED FORM",
    "25:MEEM ISOLATED FORM;25:ALEF MAKSURA ISOLATED FORM;25:YEH ISOLATED FORM",
    "16:TEH WITH JEEM ISOLATED FORM;25:HAH ISOLATED FORM;25:KHAH ISOLATED FORM",
    "25:MEEM ISOLATED FORM"]),
  (0xFC0F, [
    "ARABIC LIGATURE TEH WITH ALEF MAKSURA ISOLATED FORM;25:YEH ISOLATED FORM",
    "17:HEH WITH JEEM ISOLATED FORM;26:MEEM ISOLATED FORM;26:ALEF MAKSURA ISOLATED FORM",
    "26:YEH ISOLATED FORM;16:JEEM WITH HAH ISOLATED FORM;26:MEEM ISOLATED FORM",
    "16:HAH WITH JEEM ISOLATED FORM;25:MEEM ISOLATED FORM;16:KHAH WITH JEEM ISOLATED FORM",
    "26:HAH ISOLATED FORM;26:MEEM ISOLATED FORM;16:SEEN WITH JEEM ISOLATED FORM",
    "26:HAH ISOLATED FORM;26:KHAH ISOLATED FORM;26:MEEM ISOLATED FORM",
    "17:AD WITH HAH ISOLATED FORM;25:MEEM ISOLATED FORM;16:DAD WITH JEEM ISOLATED FORM",
    "25:HAH ISOLATED FORM;25:KHAH ISOLATED FORM;25:MEEM ISOLATED FORM",
    "16:TAH WITH HAH ISOLATED FORM;25:MEEM ISOLATED FORM;16:ZAH WITH MEEM ISOLATED FORM",
    "16:AIN WITH JEEM ISOLATED FORM;25:MEEM ISOLATED FORM;16:GHAIN WITH JEEM ISOLATED FORM",
    "27:MEEM ISOLATED FORM;16:FEH WITH JEEM ISOLATED FORM;25:HAH ISOLATED FORM",
    "25:KHAH ISOLATED FORM;25:MEEM ISOLATED FORM;25:ALEF MAKSURA ISOLATED FORM",
    "25:YEH ISOLATED FORM;16:QAF WITH HAH ISOLATED FORM;25:MEEM ISOLATED FORM",
    "25:ALEF MAKSURA ISOLATED FORM;25:YEH ISOLATED FORM;16:KAF WITH ALEF ISOLATED FORM",
    "25:JEEM ISOLATED FORM;25:HAH ISOLATED FORM;25:KHAH ISOLATED FORM;25:LAM ISOLATED FORM",
    "25:MEEM ISOLATED FORM;25:ALEF MAKSURA ISOLATED FORM;25:YEH ISOLATED FORM",
    "16:LAM WITH JEEM ISOLATED FORM;25:HAH ISOLATED FORM;25:KHAH ISOLATED FORM",
    "25:MEEM ISOLATED FORM;25:ALEF MAKSURA ISOLATED FORM;25:YEH ISOLATED FORM",
    "16:MEEM WITH JEEM ISOLATED FORM;26:HAH ISOLATED FORM;26:KHAH ISOLATED FORM",
    "26:MEEM ISOLATED FORM;26:ALEF MAKSURA ISOLATED FORM;26:YEH ISOLATED FORM",
    "16:NOON WITH JEEM ISOLATED FORM;26:HAH ISOLATED FORM;26:KHAH ISOLATED FORM",
    "26:MEEM ISOLATED FORM;26:ALEF MAKSURA ISOLATED FORM;26:YEH ISOLATED FORM",
    "16:HEH WITH JEEM ISOLATED FORM;25:MEEM ISOLATED FORM;25:ALEF MAKSURA ISOLATED FORM",
    "25:YEH ISOLATED FORM;16:YEH WITH JEEM ISOLATED FORM;25:HAH ISOLATED FORM",
    "25:KHAH ISOLATED FORM;25:MEEM ISOLATED FORM;25:ALEF MAKSURA ISOLATED FORM",
    "25:YEH ISOLATED FORM;16:THAL WITH SUPERSCRIPT ALEF ISOLATED FORM",
    "16:REH WITH SUPERSCRIPT ALEF ISOLATED FORM",
    "16:ALEF MAKSURA WITH SUPERSCRIPT ALEF ISOLATED FORM;16:SHADDA WITH DAMMATAN ISOLATED FORM",
    "28:KASRATAN ISOLATED FORM;28:FATHA ISOLATED FORM;28:DAMMA ISOLATED FORM",
    "28:KASRA ISOLATED FORM;28:SUPERSCRIPT ALEF ISOLATED FORM",
    "16:YEH WITH HAMZA ABOVE WITH REH FINAL FORM;42:ZAIN FINAL FORM;42:MEEM FINAL FORM",
    "42:NOON FINAL FORM;42:ALEF MAKSURA FINAL FORM;42:YEH FINAL FORM;16:BEH WITH REH FINAL FORM",
    "25:ZAIN FINAL FORM;25:MEEM FINAL FORM;25:NOON FINAL FORM;25:ALEF MAKSURA FINAL FORM",
    "25:YEH FINAL FORM;16:TEH WITH REH FINAL FORM;25:ZAIN FINAL FORM;25:MEEM FINAL FORM",
    "25:NOON FINAL FORM;25:ALEF MAKSURA FINAL FORM;25:YEH FINAL FORM;17:HEH WITH REH FINAL FORM",
    "26:ZAIN FINAL FORM;26:MEEM FINAL FORM;26:NOON FINAL FORM;26:ALEF MAKSURA FINAL FORM",
    "26:YEH FINAL FORM;16:FEH WITH ALEF MAKSURA FINAL FORM;25:YEH FINAL FORM",
    "16:QAF WITH ALEF MAKSURA FINAL FORM;25:YEH FINAL FORM;16:KAF WITH ALEF FINAL FORM",
    "25:LAM FINAL FORM;25:MEEM FINAL FORM;25:ALEF MAKSURA FINAL FORM;25:YEH FINAL FORM",
    "16:LAM WITH MEEM FINAL FORM;25:ALEF MAKSURA FINAL FORM;25:YEH FINAL FORM",
    "16:MEEM WITH ALEF FINAL FORM;26:MEEM FINAL FORM;16:NOON WITH REH FINAL FORM",
    "26:ZAIN FINAL FORM;26:MEEM FINAL FORM;26:NOON FINAL FORM;26:ALEF MAKSURA FINAL FORM",
    "26:YEH FINAL FORM;16:ALEF MAKSURA WITH SUPERSCRIPT ALEF FINAL FORM",
    "16:YEH WITH REH FINAL FORM;25:ZAIN FINAL FORM;25:MEEM FINAL FORM;25:NOON FINAL FORM",
    "25:ALEF MAKSURA FINAL FORM;25:YEH FINAL FORM;25:HAMZA ABOVE WITH JEEM INITIAL FORM",
    "42:HAH INITIAL FORM;42:KHAH INITIAL FORM;42:MEEM INITIAL FORM;42:HEH INITIAL FORM",
    "16:BEH WITH JEEM INITIAL FORM;25:HAH INITIAL FORM;25:KHAH INITIAL FORM;25:MEEM INITIAL FORM",
    "25:HEH INITIAL FORM;16:TEH WITH JEEM INITIAL FORM;25:HAH INITIAL FORM;25:KHAH INITIAL FORM",
    "25:MEEM INITIAL FORM;25:HEH INITIAL FORM;17:HEH WITH MEEM INITIAL FORM",
    "16:JEEM WITH HAH INITIAL FORM;26:MEEM INITIAL FORM;16:HAH WITH JEEM INITIAL FORM",
    "25:MEEM INITIAL FORM;16:KHAH WITH JEEM INITIAL FORM;26:MEEM INITIAL FORM",
    "16:SEEN WITH JEEM INITIAL FORM;26:HAH INITIAL FORM;26:KHAH INITIAL FORM;26:MEEM INITIAL FORM",
    "17:AD WITH HAH INITIAL FORM;25:KHAH INITIAL FORM;25:MEEM INITIAL FORM",
    "16:DAD WITH JEEM INITIAL FORM;25:HAH INITIAL FORM;25:KHAH INITIAL FORM;25:MEEM INITIAL FORM",
    "16:TAH WITH HAH INITIAL FORM;16:ZAH WITH MEEM INITIAL FORM;16:AIN WITH JEEM INITIAL FORM",
    "25:MEEM INITIAL FORM;16:GHAIN WITH JEEM INITIAL FORM;27:MEEM INITIAL FORM",
    "16:FEH WITH JEEM INITIAL FORM;25:HAH INITIAL FORM;25:KHAH INITIAL FORM;25:MEEM INITIAL FORM",
    "16:QAF WITH HAH INITIAL FORM;25:MEEM INITIAL FORM;16:KAF WITH JEEM INITIAL FORM",
    "25:HAH INITIAL FORM;25:KHAH INITIAL FORM;25:LAM INITIAL FORM;25:MEEM INITIAL FORM",
    "16:LAM WITH JEEM INITIAL FORM;25:HAH INITIAL FORM;25:KHAH INITIAL FORM;25:MEEM INITIAL FORM",
    "25:HEH INITIAL FORM;16:MEEM WITH JEEM INITIAL FORM;26:HAH INITIAL FORM;26:KHAH INITIAL FORM",
    "26:MEEM INITIAL FORM;16:NOON WITH JEEM INITIAL FORM;26:HAH INITIAL FORM;26:KHAH INITIAL FORM",
    "26:MEEM INITIAL FORM;26:HEH INITIAL FORM;16:HEH WITH JEEM INITIAL FORM;25:MEEM INITIAL FORM",
    "25:SUPERSCRIPT ALEF INITIAL FORM;16:YEH WITH JEEM INITIAL FORM;25:HAH INITIAL FORM",
    "25:KHAH INITIAL FORM;25:MEEM INITIAL FORM;25:HEH INITIAL FORM",
    "26:AMZA ABOVE WITH MEEM MEDIAL FORM;42:HEH MEDIAL FORM;16:BEH WITH MEEM MEDIAL FORM",
    "25:HEH MEDIAL FORM;16:TEH WITH MEEM MEDIAL FORM;25:HEH MEDIAL FORM",
    "17:HEH WITH MEEM MEDIAL FORM;26:HEH MEDIAL FORM;16:SEEN WITH MEEM MEDIAL FORM",
    "26:HEH MEDIAL FORM;17:HEEN WITH MEEM MEDIAL FORM;27:HEH MEDIAL FORM",
    "16:KAF WITH LAM MEDIAL FORM;25:MEEM MEDIAL FORM;16:LAM WITH MEEM MEDIAL FORM",
    "16:NOON WITH MEEM MEDIAL FORM;26:HEH MEDIAL FORM;16:YEH WITH MEEM MEDIAL FORM",
    "25:HEH MEDIAL FORM;16:SHADDA WITH FATHA MEDIAL FORM;28:DAMMA MEDIAL FORM",
    "28:KASRA MEDIAL FORM;16:TAH WITH ALEF MAKSURA ISOLATED FORM;25:YEH ISOLATED FORM",
    "16:AIN WITH ALEF MAKSURA ISOLATED FORM;25:YEH ISOLATED FORM",
    "16:GHAIN WITH ALEF MAKSURA ISOLATED FORM;27:YEH ISOLATED FORM",
    "16:SEEN WITH ALEF MAKSURA ISOLATED FORM;26:YEH ISOLATED FORM",
    "17:HEEN WITH ALEF MAKSURA ISOLATED FORM;27:YEH ISOLATED FORM",
    "16:HAH WITH ALEF MAKSURA ISOLATED FORM;25:YEH ISOLATED FORM",
    "16:JEEM WITH ALEF MAKSURA ISOLATED FORM;26:YEH ISOLATED FORM",
    "16:KHAH WITH ALEF MAKSURA ISOLATED FORM;26:YEH ISOLATED FORM",
    "16:SAD WITH ALEF MAKSURA ISOLATED FORM;25:YEH ISOLATED FORM",
    "16:DAD WITH ALEF MAKSURA ISOLATED FORM;25:YEH ISOLATED FORM;16:SHEEN WITH JEEM ISOLATED FORM",
    "27:HAH ISOLATED FORM;27:KHAH ISOLATED FORM;27:MEEM ISOLATED FORM;27:REH ISOLATED FORM",
    "17:EEN WITH REH ISOLATED FORM;17:AD WITH REH ISOLATED FORM;16:DAD WITH REH ISOLATED FORM",
    "16:TAH WITH ALEF MAKSURA FINAL FORM;25:YEH FINAL FORM;16:AIN WITH ALEF MAKSURA FINAL FORM",
    "25:YEH FINAL FORM;16:GHAIN WITH ALEF MAKSURA FINAL FORM;27:YEH FINAL FORM",
    "16:SEEN WITH ALEF MAKSURA FINAL FORM;26:YEH FINAL FORM;17:HEEN WITH ALEF MAKSURA FINAL FORM",
    "27:YEH FINAL FORM;16:HAH WITH ALEF MAKSURA FINAL FORM;25:YEH FINAL FORM",
    "16:JEEM WITH ALEF MAKSURA FINAL FORM;26:YEH FINAL FORM;16:KHAH WITH ALEF MAKSURA FINAL FORM",
    "26:YEH FINAL FORM;16:SAD WITH ALEF MAKSURA FINAL FORM;25:YEH FINAL FORM",
    "16:DAD WITH ALEF MAKSURA FINAL FORM;25:YEH FINAL FORM;16:SHEEN WITH JEEM FINAL FORM",
    "27:HAH FINAL FORM;27:KHAH FINAL FORM;27:MEEM FINAL FORM;27:REH FINAL FORM",
    "17:EEN WITH REH FINAL FORM;17:AD WITH REH FINAL FORM;16:DAD WITH REH FINAL FORM",
    "16:SHEEN WITH JEEM INITIAL FORM;27:HAH INITIAL FORM;27:KHAH INITIAL FORM",
    "27:MEEM INITIAL FORM;17:EEN WITH HEH INITIAL FORM;17:HEEN WITH HEH INITIAL FORM",
    "16:TAH WITH MEEM INITIAL FORM;16:SEEN WITH JEEM MEDIAL FORM;26:HAH MEDIAL FORM",
    "26:KHAH MEDIAL FORM;17:HEEN WITH JEEM MEDIAL FORM;27:HAH MEDIAL FORM;27:KHAH MEDIAL FORM",
    "16:TAH WITH MEEM MEDIAL FORM;16:ZAH WITH MEEM MEDIAL FORM;16:ALEF WITH FATHATAN FINAL FORM",
    "35:ISOLATED FORM;ORNATE LEFT PARENTHESIS;7:RIGHT PARENTHESIS;ARABIC LIGATURE RAHIMAHU ALLAAH",
    "18:DI ALLAAHU ANH;32:AA;32:UM;34:AA;33:NNA;16:SALLALLAAHU ALAYHI WA-AALIH",
    "16:ALAYHI AS-SALAAM;22:M AS-SALAAM;23:AA AS-SALAAM;22: AS-SALAATU WAS-SALAAM",
    "16:QUDDISA SIRRAH;16:SALLALLAHU ALAYHI WAAALIHEE WA-SALLAM;16:ALAYHAA AS-SALAAM",
    "16:TABAARAKA WA-TAAALAA;16:RAHIMAHUM ALLAAH;16:TEH WITH JEEM WITH MEEM INITIAL FORM",
    "25:HAH WITH JEEM FINAL FORM;39:INITIAL FORM;34:MEEM INITIAL FORM",
    "25:KHAH WITH MEEM INITIAL FORM;25:MEEM WITH JEEM INITIAL FORM;35:HAH INITIAL FORM",
    "35:KHAH INITIAL FORM;16:JEEM WITH MEEM WITH HAH FINAL FORM;40:INITIAL FORM",
    "16:HAH WITH MEEM WITH YEH FINAL FORM;35:ALEF MAKSURA FINAL FORM",
    "16:SEEN WITH HAH WITH JEEM INITIAL FORM;26:JEEM WITH HAH INITIAL FORM",
    "36:ALEF MAKSURA FINAL FORM;26:MEEM WITH HAH FINAL FORM;40:INITIAL FORM;36:JEEM INITIAL FORM",
    "36:MEEM FINAL FORM;41:INITIAL FORM;17:AD WITH HAH WITH HAH FINAL FORM;38:INITIAL FORM",
    "25:MEEM WITH MEEM FINAL FORM;17:HEEN WITH HAH WITH MEEM FINAL FORM;41:INITIAL FORM",
    "27:JEEM WITH YEH FINAL FORM;27:MEEM WITH KHAH FINAL FORM;42:INITIAL FORM;37:MEEM FINAL FORM",
    "42:INITIAL FORM;16:DAD WITH HAH WITH ALEF MAKSURA FINAL FORM;25:KHAH WITH MEEM FINAL FORM",
    "40:INITIAL FORM;16:TAH WITH MEEM WITH HAH FINAL FORM;39:INITIAL FORM;35:MEEM INITIAL FORM",
    "35:YEH FINAL FORM;16:AIN WITH JEEM WITH MEEM FINAL FORM;25:MEEM WITH MEEM FINAL FORM",
    "40:INITIAL FORM;35:ALEF MAKSURA FINAL FORM;16:GHAIN WITH MEEM WITH MEEM FINAL FORM",
    "37:YEH FINAL FORM;37:ALEF MAKSURA FINAL FORM;16:FEH WITH KHAH WITH MEEM FINAL FORM",
    "40:INITIAL FORM;16:QAF WITH MEEM WITH HAH FINAL FORM;35:MEEM FINAL FORM",
    "16:LAM WITH HAH WITH MEEM FINAL FORM;34:YEH FINAL FORM;34:ALEF MAKSURA FINAL FORM",
    "25:JEEM WITH JEEM INITIAL FORM;40:FINAL FORM;25:KHAH WITH MEEM FINAL FORM;40:INITIAL FORM",
    "25:MEEM WITH HAH FINAL FORM;39:INITIAL FORM;16:MEEM WITH HAH WITH JEEM INITIAL FORM",
    "35:MEEM INITIAL FORM;35:YEH FINAL FORM;26:JEEM WITH HAH INITIAL FORM;36:MEEM INITIAL FORM",
    "26:KHAH WITH JEEM INITIAL FORM;36:MEEM INITIAL FORM;;",
    "ARABIC LIGATURE MEEM WITH JEEM WITH KHAH INITIAL FORM",
    "16:HEH WITH MEEM WITH JEEM INITIAL FORM;35:MEEM INITIAL FORM",
    "16:NOON WITH HAH WITH MEEM INITIAL FORM;35:ALEF MAKSURA FINAL FORM",
    "26:JEEM WITH MEEM FINAL FORM;41:INITIAL FORM;36:ALEF MAKSURA FINAL FORM",
    "26:MEEM WITH YEH FINAL FORM;36:ALEF MAKSURA FINAL FORM;16:YEH WITH MEEM WITH MEEM FINAL FORM",
    "40:INITIAL FORM;16:BEH WITH KHAH WITH YEH FINAL FORM;16:TEH WITH JEEM WITH YEH FINAL FORM",
    "35:ALEF MAKSURA FINAL FORM;25:KHAH WITH YEH FINAL FORM;35:ALEF MAKSURA FINAL FORM",
    "25:MEEM WITH YEH FINAL FORM;35:ALEF MAKSURA FINAL FORM;16:JEEM WITH MEEM WITH YEH FINAL FORM",
    "26:HAH WITH ALEF MAKSURA FINAL FORM;26:MEEM WITH ALEF MAKSURA FINAL FORM",
    "16:SEEN WITH KHAH WITH ALEF MAKSURA FINAL FORM;17:AD WITH HAH WITH YEH FINAL FORM",
    "17:HEEN WITH HAH WITH YEH FINAL FORM;16:DAD WITH HAH WITH YEH FINAL FORM",
    "16:LAM WITH JEEM WITH YEH FINAL FORM;25:MEEM WITH YEH FINAL FORM",
    "16:YEH WITH HAH WITH YEH FINAL FORM;25:JEEM WITH YEH FINAL FORM;25:MEEM WITH YEH FINAL FORM",
    "16:MEEM WITH MEEM WITH YEH FINAL FORM;16:QAF WITH MEEM WITH YEH FINAL FORM",
    "16:NOON WITH HAH WITH YEH FINAL FORM;16:QAF WITH MEEM WITH HAH INITIAL FORM",
    "16:LAM WITH HAH WITH MEEM INITIAL FORM;16:AIN WITH MEEM WITH YEH FINAL FORM",
    "16:KAF WITH MEEM WITH YEH FINAL FORM;16:NOON WITH JEEM WITH HAH INITIAL FORM",
    "16:MEEM WITH KHAH WITH YEH FINAL FORM;16:LAM WITH JEEM WITH MEEM INITIAL FORM",
    "16:KAF WITH MEEM WITH MEEM FINAL FORM;16:LAM WITH JEEM WITH MEEM FINAL FORM",
    "16:NOON WITH JEEM WITH HAH FINAL FORM;16:JEEM WITH HAH WITH YEH FINAL FORM",
    "16:HAH WITH JEEM WITH YEH FINAL FORM;16:MEEM WITH JEEM WITH YEH FINAL FORM",
    "16:FEH WITH MEEM WITH YEH FINAL FORM;16:BEH WITH HAH WITH YEH FINAL FORM",
    "16:KAF WITH MEEM WITH MEEM INITIAL FORM;16:AIN WITH JEEM WITH MEEM INITIAL FORM",
    "16:SAD WITH MEEM WITH MEEM INITIAL FORM;17:EEN WITH KHAH WITH YEH FINAL FORM",
    "16:NOON WITH JEEM WITH YEH FINAL FORM;;;;;;;;ARABIC LIGATURE SALAAMUHU ALAYNAA;;;;;;;;;;;;;;",
    ";;;;;;;;;;;;;;;;;;ARABIC LIGATURE SALLA USED AS KORANIC STOP SIGN ISOLATED FORM",
    "16:QALA USED AS KORANIC STOP SIGN ISOLATED FORM;16:ALLAH ISOLATED FORM;17:KBAR ISOLATED FORM",
    "16:MOHAMMAD ISOLATED FORM;16:SALAM ISOLATED FORM;16:RASOUL ISOLATED FORM",
    "16:ALAYHE ISOLATED FORM;16:WASALLAM ISOLATED FORM;16:SALLA ISOLATED FORM",
    "21:LLAHOU ALAYHE WASALLAM;16:JALLAJALALOUHOU;RIAL SIGN",
    "ARABIC LIGATURE BISMILLAH AR-RAHMAN AR-RAHEEM;16:SUBHAANAHU WA TAAALAA;16:AZZA WA JALL",
    "VARIATION SELECTOR-1;19:2;19:3;19:4;19:5;19:6;19:7;19:8;19:9;19:10;20:1;20:2;20:3;20:4;20:5",
    "20:6;PRESENTATION FORM FOR VERTICAL COMMA;31:IDEOGRAPHIC COMMA;43:FULL STOP;31:COLON",
    "31:SEMICOLON;31:EXCLAMATION MARK;31:QUESTION MARK;31:LEFT WHITE LENTICULAR BRACKET",
    "31:RIGHT WHITE LENTICULAR BRAKCET;31:HORIZONTAL ELLIPSIS;;;;;;;COMBINING LIGATURE LEFT HALF",
    "19:RIGHT HALF;10:DOUBLE TILDE LEFT HALF;23:RIGHT HALF;10:MACRON LEFT HALF;17:RIGHT HALF",
    "10:CONJOINING MACRON;10:LIGATURE LEFT HALF BELOW;19:RIGHT HALF BELOW",
    "10:TILDE LEFT HALF BELOW;16:RIGHT HALF BELOW;10:MACRON LEFT HALF BELOW;17:RIGHT HALF BELOW",
    "10:CONJOINING MACRON BELOW;11:YRILLIC TITLO LEFT HALF;25:RIGHT HALF",
    "PRESENTATION FORM FOR VERTICAL TWO DOT LEADER;31:EM DASH;32:N DASH;31:LOW LINE",
    "31:WAVY LOW LINE;31:LEFT PARENTHESIS;31:RIGHT PARENTHESIS;31:LEFT CURLY BRACKET",
    "31:RIGHT CURLY BRACKET;31:LEFT TORTOISE SHELL BRACKET;31:RIGHT TORTOISE SHELL BRACKET",
    "31:LEFT BLACK LENTICULAR BRACKET;31:RIGHT BLACK LENTICULAR BRACKET",
    "31:LEFT DOUBLE ANGLE BRACKET;31:RIGHT DOUBLE ANGLE BRACKET;31:LEFT ANGLE BRACKET",
    "31:RIGHT ANGLE BRACKET;31:LEFT CORNER BRACKET;31:RIGHT CORNER BRACKET",
    "31:LEFT WHITE CORNER BRACKET;31:RIGHT WHITE CORNER BRACKET;SESAME DOT;WHITE SESAME DOT",
    "PRESENTATION FORM FOR VERTICAL LEFT SQUARE BRACKET;31:RIGHT SQUARE BRACKET;DASHED OVERLINE",
    "CENTRELINE OVERLINE;WAVY OVERLINE;DOUBLE WAVY OVERLINE;DASHED LOW LINE;CENTRELINE LOW LINE",
    "WAVY LOW LINE;SMALL COMMA;6:IDEOGRAPHIC COMMA;6:FULL STOP;;SMALL SEMICOLON;6:COLON",
    "6:QUESTION MARK"]),
  (0xFE57, [
    "SMALL EXCLAMATION MARK;7:M DASH;6:LEFT PARENTHESIS;6:RIGHT PARENTHESIS;6:LEFT CURLY BRACKET",
    "6:RIGHT CURLY BRACKET;6:LEFT TORTOISE SHELL BRACKET;6:RIGHT TORTOISE SHELL BRACKET",
    "6:NUMBER SIGN;6:AMPERSAND;7:STERISK;6:PLUS SIGN;6:HYPHEN-MINUS;6:LESS-THAN SIGN",
    "6:GREATER-THAN SIGN;6:EQUALS SIGN;;SMALL REVERSE SOLIDUS;6:DOLLAR SIGN;6:PERCENT SIGN",
    "6:COMMERCIAL AT;;;;;ARABIC FATHATAN ISOLATED FORM;7:TATWEEL WITH FATHATAN ABOVE",
    "7:DAMMATAN ISOLATED FORM;7:TAIL FRAGMENT;7:KASRATAN ISOLATED FORM;",
    "ARABIC FATHA ISOLATED FORM;13:MEDIAL FORM;7:DAMMA ISOLATED FORM;13:MEDIAL FORM",
    "7:KASRA ISOLATED FORM;13:MEDIAL FORM;7:SHADDA ISOLATED FORM;14:MEDIAL FORM",
    "8:UKUN ISOLATED FORM;13:MEDIAL FORM;7:LETTER HAMZA ISOLATED FORM",
    "14:ALEF WITH MADDA ABOVE ISOLATED FORM;36:FINAL FORM;24:HAMZA ABOVE ISOLATED FORM",
    "36:FINAL FORM;14:WAW WITH HAMZA ABOVE ISOLATED FORM;35:FINAL FORM",
    "14:ALEF WITH HAMZA BELOW ISOLATED FORM;36:FINAL FORM;14:YEH WITH HAMZA ABOVE ISOLATED FORM",
    "35:FINAL FORM;35:INITIAL FORM;35:MEDIAL FORM;14:ALEF ISOLATED FORM;19:FINAL FORM",
    "14:BEH ISOLATED FORM;18:FINAL FORM;18:INITIAL FORM;18:MEDIAL FORM",
    "14:TEH MARBUTA ISOLATED FORM;26:FINAL FORM;18:ISOLATED FORM;18:FINAL FORM;18:INITIAL FORM",
    "18:MEDIAL FORM;15:HEH ISOLATED FORM;19:FINAL FORM;19:INITIAL FORM;19:MEDIAL FORM",
    "14:JEEM ISOLATED FORM;19:FINAL FORM;19:INITIAL FORM;19:MEDIAL FORM;14:HAH ISOLATED FORM",
    "18:FINAL FORM;18:INITIAL FORM;18:MEDIAL FORM;14:KHAH ISOLATED FORM;19:FINAL FORM",
    "19:INITIAL FORM;19:MEDIAL FORM;14:DAL ISOLATED FORM;18:FINAL FORM;14:THAL ISOLATED FORM",
    "19:FINAL FORM;14:REH ISOLATED FORM;18:FINAL FORM;14:ZAIN ISOLATED FORM;19:FINAL FORM",
    "14:SEEN ISOLATED FORM;19:FINAL FORM;19:INITIAL FORM;19:MEDIAL FORM;15:HEEN ISOLATED FORM",
    "20:FINAL FORM;20:INITIAL FORM;20:MEDIAL FORM;15:AD ISOLATED FORM;18:FINAL FORM",
    "18:INITIAL FORM;18:MEDIAL FORM;14:DAD ISOLATED FORM;18:FINAL FORM;18:INITIAL FORM",
    "18:MEDIAL FORM;14:TAH ISOLATED FORM;18:FINAL FORM;18:INITIAL FORM;18:MEDIAL FORM",
    "14:ZAH ISOLATED FORM;18:FINAL FORM;18:INITIAL FORM;18:MEDIAL FORM;14:AIN ISOLATED FORM",
    "18:FINAL FORM;18:INITIAL FORM;18:MEDIAL FORM;14:GHAIN ISOLATED FORM;20:FINAL FORM",
    "20:INITIAL FORM;20:MEDIAL FORM;14:FEH ISOLATED FORM;18:FINAL FORM;18:INITIAL FORM",
    "18:MEDIAL FORM;14:QAF ISOLATED FORM;18:FINAL FORM;18:INITIAL FORM;18:MEDIAL FORM",
    "14:KAF ISOLATED FORM;18:FINAL FORM;18:INITIAL FORM;18:MEDIAL FORM;14:LAM ISOLATED FORM",
    "18:FINAL FORM;18:INITIAL FORM;18:MEDIAL FORM;14:MEEM ISOLATED FORM;19:FINAL FORM",
    "19:INITIAL FORM;19:MEDIAL FORM;14:NOON ISOLATED FORM;19:FINAL FORM;19:INITIAL FORM",
    "19:MEDIAL FORM;14:HEH ISOLATED FORM;18:FINAL FORM;18:INITIAL FORM;18:MEDIAL FORM",
    "14:WAW ISOLATED FORM;18:FINAL FORM;14:ALEF MAKSURA ISOLATED FORM;27:FINAL FORM",
    "14:YEH ISOLATED FORM;18:FINAL FORM;18:INITIAL FORM;18:MEDIAL FORM",
    "8:IGATURE LAM WITH ALEF WITH MADDA ABOVE ISOLATED FORM;47:FINAL FORM",
    "35:HAMZA ABOVE ISOLATED FORM;47:FINAL FORM;41:BELOW ISOLATED FORM;47:FINAL FORM",
    "30:ISOLATED FORM;30:FINAL FORM;;;ZERO WIDTH NO-BREAK SPACE;;FULLWIDTH EXCLAMATION MARK",
    "10:QUOTATION MARK;10:NUMBER SIGN;10:DOLLAR SIGN;10:PERCENT SIGN;10:AMPERSAND;11:POSTROPHE",
    "10:LEFT PARENTHESIS;10:RIGHT PARENTHESIS;10:ASTERISK;10:PLUS SIGN;10:COMMA;10:HYPHEN-MINUS",
    "10:FULL STOP;10:SOLIDUS;10:DIGIT ZERO;16:ONE;16:TWO;17:HREE;16:FOUR;17:IVE;16:SIX;17:EVEN",
    "16:EIGHT;16:NINE;10:COLON;10:SEMICOLON;10:LESS-THAN SIGN;10:EQUALS SIGN;10:GREATER-THAN SIGN",
    "10:QUESTION MARK;10:COMMERCIAL AT;10:LATIN CAPITAL LETTER A;31:B;31:C;31:D;31:E;31:F;31:G",
    "31:H;31:I;31:J;31:K;31:L;31:M;31:N;31:O;31:P;31:Q;31:R;31:S;31:T;31:U;31:V;31:W;31:X;31:Y",
    "31:Z;11:EFT SQUARE BRACKET;10:REVERSE SOLIDUS;11:IGHT SQUARE BRACKET;10:CIRCUMFLEX ACCENT",
    "10:LOW LINE;10:GRAVE ACCENT;10:LATIN SMALL LETTER A;29:B;29:C;29:D;29:E;29:F;29:G;29:H;29:I",
    "29:J;29:K;29:L;29:M;29:N;29:O;29:P;29:Q;29:R;29:S;29:T;29:U;29:V;29:W;29:X;29:Y;29:Z",
    "11:EFT CURLY BRACKET;10:VERTICAL LINE;10:RIGHT CURLY BRACKET;10:TILDE",
    "10:LEFT WHITE PARENTHESIS;10:RIGHT WHITE PARENTHESIS;HALFWIDTH IDEOGRAPHIC FULL STOP",
    "10:LEFT CORNER BRACKET;10:RIGHT CORNER BRACKET;10:IDEOGRAPHIC COMMA;10:KATAKANA MIDDLE DOT",
    "19:LETTER WO;26:SMALL A;32:I;32:U;32:E;32:O;32:YA;33:U;33:O;32:TU",
    "18:-HIRAGANA PROLONGED SOUND MARK;18: LETTER A;26:I;26:U;26:E;26:O;26:KA;27:I;27:U;27:E;27:O",
    "26:SA;27:I;27:U;27:E;27:O;26:TA;27:I;27:U;27:E;27:O;26:NA;27:I;27:U;27:E;27:O;26:HA;27:I",
    "27:U;27:E;27:O;26:MA;27:I;27:U;27:E;27:O;26:YA;27:U;27:O;26:RA;27:I;27:U;27:E;27:O;26:WA",
    "26:N;19:VOICED SOUND MARK;19:SEMI-VOICED SOUND MARK;10:HANGUL FILLER;17:LETTER KIYEOK",
    "24:SSANGKIYEOK;24:KIYEOK-SIOS;24:NIEUN;29:-CIEUC;30:HIEUH;24:TIKEUT;24:SSANGTIKEUT;24:RIEUL",
    "29:-KIYEOK;30:MIEUM;30:PIEUP;30:SIOS;30:THIEUTH;30:PHIEUPH;30:HIEUH;24:MIEUM;24:PIEUP",
    "24:SSANGPIEUP;24:PIEUP-SIOS;24:SIOS;25:SANGSIOS;24:IEUNG;24:CIEUC;24:SSANGCIEUC;24:CHIEUCH",
    "24:KHIEUKH;24:THIEUTH;24:PHIEUPH;24:HIEUH;;;;HALFWIDTH HANGUL LETTER A;25:E;24:YA;26:E;24:EO",
    "25:;;;HALFWIDTH HANGUL LETTER YEO;26:;24:O;24:WA;26:E;24:OE;;;HALFWIDTH HANGUL LETTER YO",
    "24:U;24:WEO;26:;25:I;24:YU;;;HALFWIDTH HANGUL LETTER EU;24:YI;24:I;;;;FULLWIDTH CENT SIGN",
    "10:POUND SIGN;10:NOT SIGN;10:MACRON;10:BROKEN BAR;10:YEN SIGN;10:WON SIGN;",
    "HALFWIDTH FORMS LIGHT VERTICAL;10:LEFTWARDS ARROW;10:UPWARDS ARROW;10:RIGHTWARDS ARROW",
    "10:DOWNWARDS ARROW;10:BLACK SQUARE;10:WHITE CIRCLE;;;;;;;;;;;INTERLINEAR ANNOTATION ANCHOR",
    "23:SEPARATOR;23:TERMINATOR;OBJECT REPLACEMENT CHARACTER;REPLACEMENT CHARACTER;;",
    "LINEAR B SYLLABLE B008 A;20:38 E;20:28 I;20:61 O;20:10 U;20:01 DA;20:45 DE;20:07 DI;20:14 DO",
    "20:51 DU;21:7 JA;20:46 JE;;LINEAR B SYLLABLE B036 JO;20:65 JU;20:77 KA;20:44 KE;20:67 KI",
    "20:70 KO;20:81 KU;21:0 MA;20:13 ME;20:73 MI;20:15 MO;20:23 MU;20:06 NA;20:24 NE;20:30 NI",
    "20:52 NO;21:5 NU;20:03 PA;20:72 PE;20:39 PI;20:11 PO;20:50 PU;20:16 QA;20:78 QE;20:21 QI",
    "20:32 QO;;LINEAR B SYLLABLE B060 RA;20:27 RE;20:53 RI;20:02 RO;20:26 RU;20:31 SA;20:09 SE",
    "20:41 SI;20:12 SO;20:58 SU;21:9 TA;20:04 TE;20:37 TI;20:05 TO;20:69 TU;20:54 WA;20:75 WE",
    "20:40 WI;21:2 WO;;LINEAR B SYLLABLE B017 ZA;20:74 ZE;;LINEAR B SYLLABLE B020 ZO;21:5 A2",
    "20:43 A3;20:85 AU;20:71 DWE;20:90 DWO;20:48 NWA;20:29 PU2;20:62 PTE;20:76 RA2;20:33 RA3",
    "20:68 RO2;21:6 TA2;20:87 TWE;20:91 TWO;;;LINEAR B SYMBOL B018;19:9;18:22;18:34;18:47;19:9",
    "18:56;18:63;19:4;18:79;18:82;19:3;19:6;19:9;;;;;;;;;;;;;;;;;;;;;;;;;;;;;;;;;;",
    "LINEAR B IDEOGRAM B100 MAN;21:2 WOMAN;21:4 DEER;21:5 EQUID;22:F MARE;22:M STALLION;21:6F EWE",
    "22:M RAM;21:7F SHE-GOAT;22:M HE-GOAT;21:8F SOW;22:M BOAR;21:9F COW;22:M BULL;20:20 WHEAT",
    "21:1 BARLEY;21:2 OLIVE;21:3 SPICE;21:5 CYPERUS;9:MONOGRAM B127 KAPO;21:8 KANAKO",
    "9:IDEOGRAM B130 OIL;21:1 WINE;21:2;9:MONOGRAM B133 AREPA;21:5 MERI;9:IDEOGRAM B140 BRONZE",
    "21:1 GOLD;21:2;21:5 WOOL;21:6;20:50;21:1 HORN;21:2;21:3;21:4;9:MONOGRAM B156 TURO2",
    "9:IDEOGRAM B157;21:8;21:9 CLOTH;20:60;21:1;21:2 GARMENT;21:3 ARMOUR;21:4;21:5;21:6;21:7;21:8",
    "21:9;20:70;21:1;21:2;21:3 MONTH;21:4;21:6 TREE;21:7;21:8;21:9;20:80;21:1;21:2;21:3;21:4;21:5",
    "21:9;20:90;21:1 HELMET;19:220 FOOTSTOOL;21:5 BATHTUB;20:30 SPEAR;21:1 ARROW;21:2;21:3 SWORD",
    "21:4;21:6;20:40 WHEELED CHARIOT;21:1 CHARIOT;21:2 CHARIOT FRAME;21:3 WHEEL;21:5;21:6",
    "9:MONOGRAM B247 DIPTE;9:IDEOGRAM B248;21:9;20:51;21:2;21:3;21:4 DART;21:5;21:6;21:7;21:8",
    "21:9;18:VESSEL B155;26:200;28:1;28:2;28:3;28:4;28:5;28:6;28:7;28:8;28:9;27:10;28:1;28:2;28:3",
    "28:4;28:5;28:6;28:7;28:8;28:9;27:21;28:2;28:6;28:7;28:8;28:9;27:50;26:305;;;;;",
    "AEGEAN WORD SEPARATOR LINE;22:DOT;7:CHECK MARK;;;;;AEGEAN NUMBER ONE;14:TWO;15:HREE;14:FOUR",
    "15:IVE;14:SIX;15:EVEN;14:EIGHT;14:NINE;14:TEN;15:WENTY;15:HIRTY;14:FORTY;15:IFTY;14:SIXTY",
    "15:EVENTY;14:EIGHTY;14:NINETY;14:ONE HUNDRED;14:TWO HUNDRED;15:HREE HUNDRED;14:FOUR HUNDRED",
    "15:IVE HUNDRED;14:SIX HUNDRED;15:EVEN HUNDRED;14:EIGHT HUNDRED;14:NINE HUNDRED",
    "14:ONE THOUSAND;14:TWO THOUSAND;15:HREE THOUSAND;14:FOUR THOUSAND;15:IVE THOUSAND",
    "14:SIX THOUSAND;15:EVEN THOUSAND;14:EIGHT THOUSAND;14:NINE THOUSAND;14:TEN THOUSAND",
    "15:WENTY THOUSAND;15:HIRTY THOUSAND;14:FORTY THOUSAND;15:IFTY THOUSAND;14:SIXTY THOUSAND",
    "15:EVENTY THOUSAND;14:EIGHTY THOUSAND;14:NINETY THOUSAND;;;;AEGEAN WEIGHT BASE UNIT",
    "14:FIRST SUBUNIT;14:SECOND SUBUNIT;14:THIRD SUBUNIT;14:FOURTH SUBUNIT",
    "7:DRY MEASURE FIRST SUBUNIT;7:LIQUID MEASURE FIRST SUBUNIT;7:MEASURE SECOND SUBUNIT",
    "15:THIRD SUBUNIT;GREEK ACROPHONIC ATTIC ONE QUARTER;27:HALF;27:DRACHMA;23:FIVE;25:FTY",
    "25:VE HUNDRED;28:THOUSAND;25:FTY THOUSAND;25:VE TALENTS;23:TEN TALENTS;23:FIFTY TALENTS",
    "23:ONE HUNDRED TALENTS;23:FIVE HUNDRED TALENTS;23:ONE THOUSAND TALENTS",
    "23:FIVE THOUSAND TALENTS;28:STATERS;23:TEN STATERS;23:FIFTY STATERS;23:ONE HUNDRED STATERS",
    "23:FIVE HUNDRED STATERS;23:ONE THOUSAND STATERS;23:TEN THOUSAND STATERS",
    "23:FIFTY THOUSAND STATERS;23:TEN MNAS;17:HERAEUM ONE PLETHRON;17:THESPIAN ONE",
    "17:HERMIONIAN ONE;17:EPIDAUREAN TWO;17:THESPIAN TWO;17:CYRENAIC TWO DRACHMAS",
    "17:EPIDAUREAN TWO DRACHMAS;17:TROEZENIAN FIVE;28:TEN;31: ALTERNATE FORM;17:HERMIONIAN TEN",
    "17:MESSENIAN TEN;17:THESPIAN TEN;27:HIRTY;18:ROEZENIAN FIFTY;33: ALTERNATE FORM",
    "17:HERMIONIAN FIFTY;17:THESPIAN FIFTY;26:ONE HUNDRED;26:THREE HUNDRED",
    "17:EPIDAUREAN FIVE HUNDRED;17:TROEZENIAN FIVE HUNDRED;18:HESPIAN FIVE HUNDRED",
    "17:CARYSTIAN FIVE HUNDRED;17:NAXIAN FIVE HUNDRED;17:THESPIAN ONE THOUSAND;26:FIVE THOUSAND",
    "17:DELPHIC FIVE MNAS;17:STRATIAN FIFTY MNAS;6:ONE HALF SIGN;19: ALTERNATE FORM",
    "6:TWO THIRDS SIGN;7:HREE QUARTERS SIGN;6:YEAR SIGN;6:TALENT SIGN;6:DRACHMA SIGN;6:OBOL SIGN",
    "6:TWO OBOLS SIGN;7:HREE OBOLS SIGN;6:FOUR OBOLS SIGN;7:IVE OBOLS SIGN;6:METRETES SIGN",
    "6:KYATHOS BASE SIGN;6:LITRA SIGN;6:OUNKIA SIGN;6:XESTES SIGN;6:ARTABE SIGN;8:OURA SIGN",
    "6:GRAMMA SIGN;6:TRYBLION BASE SIGN;6:ZERO SIGN;6:ONE QUARTER SIGN;6:SINUSOID SIGN",
    "6:INDICTION SIGN;NOMISMA SIGN;;ROMAN SEXTANS SIGN;6:UNCIA SIGN;6:SEMUNCIA SIGN;8:XTULA SIGN",
    "6:DIMIDIA SEXTULA SIGN;6:SILIQUA SIGN;6:DENARIUS SIGN;6:QUINARIUS SIGN;6:SESTERTIUS SIGN",
    "6:DUPONDIUS SIGN;6:AS SIGN;6:CENTURIAL SIGN;ASCIA SYMBOL;;;;GREEK SYMBOL TAU RHO;;;;;;;;;;;;",
    ";;;;;;;;;;;;;;;;;;;;;;;;;;;;;;;;;;;PHAISTOS DISC SIGN PEDESTRIAN;20:LUMED HEAD",
    "19:TATTOOED HEAD;19:CAPTIVE;20:HILD;19:WOMAN;19:HELMET;19:GAUNTLET;19:TIARA;19:ARROW;19:BOW",
    "19:SHIELD;19:CLUB;19:MANACLES;21:TTOCK;19:SAW;19:LID;19:BOOMERANG;19:CARPENTRY PLANE",
    "19:DOLIUM;19:COMB;19:SLING;19:COLUMN;19:BEEHIVE;19:SHIP;19:HORN;20:IDE;19:BULLS LEG;19:CAT",
    "19:RAM;19:EAGLE;19:DOVE;19:TUNNY;19:BEE;19:PLANE TREE;19:VINE;19:PAPYRUS;19:ROSETTE;19:LILY",
    "19:OX BACK;19:FLUTE;19:GRATER;19:STRAINER;20:MALL AXE;19:WAVY BAND",
    "19:COMBINING OBLIQUE STROKE"]),
  (0x10280, [
    "LYCIAN LETTER A;14:E;14:B;15:H;14:G;14:D;14:I;14:W;14:Z;14:TH;14:J;14:K;14:Q;14:L;14:M;14:N",
    "14:MM;14:NN;14:U;14:P;14:KK;14:R;14:S;14:T;15:T;14:AN;14:EN;14:H;14:X;;;;CARIAN LETTER A",
    "14:P2;14:D;14:L;14:UUU;14:R;14:LD;14:A2;14:Q;14:B;14:M;14:O;14:D2;14:T;14:SH;16:2;15:",
    "14:C-18;14:U;14:NN;14:X;14:N;14:TT2;14:P;14:SS;14:I;14:E;14:UUUU;14:K;15:2;14:ND;14:UU;14:G",
    "15:2;14:ST;16:2;14:NG;14:II;14:C-39;14:TT;14:UUU2;14:RR;14:MB;16:2;16:3;16:4;14:LD2;14:E2",
    "14:UUU3;;;;;;;;;;;;;;;;COPTIC EPACT THOUSANDS MARK;13:DIGIT ONE;19:TWO;20:HREE;19:FOUR",
    "20:IVE;19:SIX;20:EVEN;19:EIGHT;19:NINE;13:NUMBER TEN;21:WENTY;21:HIRTY;20:FORTY;21:IFTY",
    "20:SIXTY;21:EVENTY;20:EIGHTY;20:NINETY;20:ONE HUNDRED;20:TWO HUNDRED;21:HREE HUNDRED",
    "20:FOUR HUNDRED;21:IVE HUNDRED;20:SIX HUNDRED;21:EVEN HUNDRED;20:EIGHT HUNDRED",
    "20:NINE HUNDRED;;;;;OLD ITALIC LETTER A;18:BE;18:KE;18:DE;18:E;18:VE;18:ZE;18:HE;18:THE;18:I",
    "18:KA;18:EL;19:M;19:N;19:SH;18:O;18:PE;18:SHE;18:KU;18:ER;19:S;18:TE;18:U;18:EKS;18:PHE",
    "18:KHE;18:EF;19:RS;18:CHE;18:II;18:UU;18:ESS;11:NUMERAL ONE;19:FIVE;19:TEN;19:FIFTY;;;;;;;;;",
    "OLD ITALIC LETTER YE;18:NORTHERN TSE;18:SOUTHERN TSE;GOTHIC LETTER AHSA;14:BAIRKAN;14:GIBA",
    "14:DAGS;14:AIHVUS;14:QAIRTHRA;14:IUJA;14:HAGL;14:THIUTH;14:EIS;14:KUSMA;14:LAGUS;14:MANNA",
    "14:NAUTHS;14:JER;14:URUS;14:PAIRTHRA;14:NINETY;14:RAIDA;14:SAUIL;14:TEIWS;14:WINJA;14:FAIHU",
    "14:IGGWS;14:HWAIR;14:OTHAL;14:NINE HUNDRED;;;;;;OLD PERMIC LETTER AN;18:BUR;18:GAI;18:DOI",
    "18:E;18:ZHOI;18:DZHOI;18:ZATA;18:DZITA;18:I;18:KOKE;18:LEI;18:MENOE;18:NENOE;18:VOOI;18:PEEI",
    "18:REI;18:SII;18:TAI;18:U;18:CHERY;18:SHOOI;20:CHOOI;18:YRY;19:ERU;18:O;19:O;18:EF;18:HA",
    "18:TSIU;18:VER;18:YER;21:I;19:AT;18:IE;18:YU;19:A;18:IA;COMBINING OLD PERMIC LETTER AN",
    "28:DOI;28:ZATA;28:NENOE;28:SII;;;;;;UGARITIC LETTER ALPA;16:BETA;16:GAMLA;16:KHA;16:DELTA",
    "16:HO;16:WO;16:ZETA;16:HOTA;16:TET;16:YOD;16:KAF;16:SHIN;16:LAMDA;16:MEM;16:DHAL;16:NUN",
    "16:ZU;16:SAMKA;16:AIN;16:PU;16:SADE;16:QOPA;16:RASHA;16:THANNA;16:GHAIN;16:TO;16:I;16:U",
    "16:SSU;;UGARITIC WORD DIVIDER;OLD PERSIAN SIGN A;17:I;17:U;17:KA;18:U;17:GA;18:U;17:XA;17:CA",
    "17:JA;18:I;17:TA;18:U;17:DA;18:I;18:U;17:THA;17:PA;17:BA;17:FA;17:NA;18:U;17:MA;18:I;18:U",
    "17:YA;17:VA;18:I;17:RA;18:U;17:LA;17:SA;17:ZA;17:SHA;18:SA;17:HA;;;;",
    "OLD PERSIAN SIGN AURAMAZDAA;27:-2;27:HA;17:XSHAAYATHIYA;17:DAHYAAUSH;26:-2;17:BAGA;18:UUMISH",
    "12:WORD DIVIDER;12:NUMBER ONE;19:TWO;20:EN;20:WENTY;19:HUNDRED;;;;;;;;;;;;;;;;;;;;;;;;;;;;;;",
    ";;;;;;;;;;;;DESERET CAPITAL LETTER LONG I;28:E;28:A;29:H;28:O;29:O;23:SHORT I;29:E;29:A;30:H",
    "29:O;30:O;23:AY;23:OW;23:WU;23:YEE;23:H;23:PEE;23:BEE;23:TEE;23:DEE;23:CHEE;23:JEE;23:KAY",
    "23:GAY;23:EF;23:VEE;23:ETH;23:THEE;23:ES;23:ZEE;23:ESH;23:ZHEE;23:ER;24:L;24:M;24:N;25:G",
    "23:OI;23:EW;8:SMALL LETTER LONG I;26:E;26:A;27:H;26:O;27:O;21:SHORT I;27:E;27:A;28:H;27:O",
    "28:O;21:AY;21:OW;21:WU;21:YEE;21:H;21:PEE;21:BEE;21:TEE;21:DEE;21:CHEE;21:JEE;21:KAY;21:GAY",
    "21:EF;21:VEE;21:ETH;21:THEE;21:ES;21:ZEE;21:ESH;21:ZHEE;21:ER;22:L;22:M;22:N;23:G;21:OI",
    "21:EW;SHAVIAN LETTER PEEP;15:TOT;15:KICK;15:FEE;15:THIGH;15:SO;16:URE;15:CHURCH;15:YEA",
    "15:HUNG;15:BIB;15:DEAD;15:GAG;15:VOW;15:THEY;15:ZOO;15:MEASURE;15:JUDGE;15:WOE;15:HA-HA",
    "15:LOLL;15:MIME;15:IF;15:EGG;15:ASH;16:DO;15:ON;15:WOOL;15:OUT;15:AH;15:ROAR;15:NUN;15:EAT",
    "15:AGE;15:ICE;15:UP;15:OAK;16:OZE;16:IL;15:AWE;16:RE;15:OR;15:AIR;15:ERR;15:ARRAY;15:EAR",
    "15:IAN;15:YEW;OSMANYA LETTER ALEF;15:BA;15:TA;15:JA;15:XA;15:KHA;15:DEEL;15:RA;15:SA;16:HIIN",
    "15:DHA;15:CAYN;15:GA;15:FA;15:QAAF;15:KAAF;15:LAAN;15:MIIN;15:NUUN;15:WAW;15:HA;15:YA;15:A",
    "15:E;15:I;15:O;15:U;15:AA;15:EE;15:OO;;;OSMANYA DIGIT ZERO;14:ONE;14:TWO;15:HREE;14:FOUR",
    "15:IVE;14:SIX;15:EVEN;14:EIGHT;14:NINE;;;;;;;OSAGE CAPITAL LETTER A;22:I;23:N;22:H;21:BRA",
    "21:CHA;21:EHCHA;22:;22:IN;21:HA;22:YA;21:I;21:KA;21:EHKA;21:KYA;21:LA;21:MA;21:NA;21:O;22:IN",
    "21:PA;21:EHPA;21:SA;22:HA;21:TA;21:EHTA;21:TSA;21:EHTSA;21:TSHA;21:DHA;21:U;21:WA;21:KHA",
    "21:GHA;21:ZA;22:HA;;;;;OSAGE SMALL LETTER A;20:I;21:N;20:H;19:BRA;19:CHA;19:EHCHA;20:;20:IN",
    "19:HA;20:YA;19:I;19:KA;19:EHKA;19:KYA;19:LA;19:MA;19:NA;19:O;20:IN;19:PA;19:EHPA;19:SA;20:HA",
    "19:TA;19:EHTA;19:TSA;19:EHTSA;19:TSHA;19:DHA;19:U;19:WA;19:KHA;19:GHA;19:ZA;20:HA;;;;",
    "ELBASAN LETTER A;15:BE;15:CE;16:HE;15:DE;15:NDE;15:DHE;15:EI;16:;15:FE;15:GE;16:JE;15:HE",
    "15:I;15:JE;15:KE;15:LE;16:LE;15:ME;15:NE;16:A;16:JE;15:O;15:PE;15:QE;15:RE;16:RE;15:SE;16:HE",
    "15:TE;16:HE;15:U;15:VE;15:XE;15:Y;15:ZE;16:HE;15:GHE;17:AMMA;15:KHE;;;;;;;;",
    "CAUCASIAN ALBANIAN LETTER ALT;26:BET;26:GIM;26:DAT;26:EB;26:ZARL;26:EYN;26:ZHIL;26:TAS",
    "26:CHA;26:YOWD;26:ZHA;26:IRB;26:SHA;26:LAN;26:INYA;26:XEYN;26:DYAN;26:CAR;26:JHOX;26:KAR",
    "26:LYIT;26:HEYT;26:QAY;26:AOR;26:CHOY;28:I;27:YAY;26:MAQ;26:QAR;26:NOWC;26:DZYAY;26:SHAK",
    "26:JAYN;26:ON;26:TYAY;26:FAM;26:DZAY;26:CHAT;26:PEN;26:GHEYS;26:RAT;26:SEYK;26:VEYZ;26:TIWR",
    "26:SHOY;26:IWN;26:CYAW;27:AYN;26:YAYD;26:PIWR;26:KIW;;;;;;;;;;;",
    "CAUCASIAN ALBANIAN CITATION MARK;VITHKUQI CAPITAL LETTER A;24:BBE;25:E;24:CE;25:HE;24:DE",
    "25:HE;24:EI;25:;24:FE;24:GA;;VITHKUQI CAPITAL LETTER HA;25:HA;24:I;25:JE;24:JE;24:KA;24:LA",
    "25:LA;24:ME;24:NE;25:JE;24:O;24:PE;24:QA;24:RE;;VITHKUQI CAPITAL LETTER SE;25:HE;24:TE;25:HE",
    "24:U;24:VE;24:XE;;VITHKUQI CAPITAL LETTER Y;24:ZE;;VITHKUQI SMALL LETTER A;22:BBE;23:E;22:CE",
    "23:HE;22:DE;23:HE;22:EI;23:;22:FE;22:GA;;VITHKUQI SMALL LETTER HA;23:HA;22:I;23:JE;22:JE",
    "22:KA;22:LA;23:LA;22:ME;22:NE;23:JE;22:O;22:PE;22:QA;22:RE;;VITHKUQI SMALL LETTER SE;23:HE",
    "22:TE;23:HE;22:U;22:VE;22:XE;;VITHKUQI SMALL LETTER Y;22:ZE"]),
  (0x10600, [
    "LINEAR A SIGN AB001;18:2;18:3;18:4;18:5;18:6;18:7;18:8;18:9;17:10;18:1;18:3;18:6;18:7;17:20",
    "18:1;19:F;19:M;18:2;19:F;19:M;18:3;19:M;18:4;18:6;18:7;18:8;15:028B;15:B029;17:30;18:1;18:4",
    "18:7;18:8;18:9;17:40;18:1;18:4;18:5;18:6;18:7;18:8;18:9;17:50;18:1;18:3;18:4;18:5;18:6;18:7",
    "18:8;18:9;17:60;18:1;18:5;18:6;18:7;18:9;17:70;18:3;18:4;18:6;18:7;18:8;18:9;17:80;18:1;18:2",
    "18:5;18:6;18:7;15:100-102;15:B118;17:20;15:120B;15:B122;18:3;17:31A;19:B;15:131C;15:B164",
    "17:71;17:80;18:8;17:91;15:301;17:2;17:3;17:4;17:5;17:6;17:7;17:8;17:9A;18:B;18:C;16:10;17:1",
    "17:2;17:3A;18:B;18:C;17:4;17:5;17:6;17:7;17:8;17:9;16:20;17:1;17:2;17:3;17:4;17:5;17:6;17:7",
    "17:8;17:9;16:30;17:1;17:2;17:3;17:4;17:5;17:6;17:7;17:8;17:9;16:40;17:1;17:2;17:3;17:4;17:5",
    "17:6;17:7;17:8;17:9;16:50;17:1;17:2;17:3;17:4;17:5;17:6;17:7;17:8;17:9;16:60;17:1;17:2;17:3",
    "17:4;17:5;17:6;17:7;17:8;17:9;16:70;17:1;15:400-VAS;17:1-VAS;17:2-VAS;17:3-VAS;17:4-VAS",
    "17:5-VAS;17:6-VAS;17:7-VAS;17:8-VAS;17:9-VAS;16:10-VAS;17:1-VAS;17:2-VAS;17:3-VAS;17:4-VAS",
    "17:5-VAS;17:6-VAS;17:7-VAS;17:8-VAS;15:501;17:2;17:3;17:4;17:5;17:6;17:8;17:9;16:10;17:1",
    "17:2;17:3;17:5;17:6;16:20;17:1;17:3;17:4;17:5;17:6;17:7;17:8;17:9;16:30;17:1;17:2;17:4;17:5",
    "17:6;17:7;17:8;17:9;16:40;17:1;17:2;17:5;17:7;17:8;17:9;16:50;17:1;17:2;17:3;17:4;17:5;17:6",
    "17:7;17:9;16:63;17:4;17:5;17:6;17:8;17:9;16:70;17:1;17:2;17:3;17:4;17:5;17:6;17:7;17:8;17:9",
    "16:80;17:1;17:2;17:3;17:4;17:5;17:6;17:7;17:8;17:9;16:91;17:2;17:4;17:5;17:6;17:8;15:600",
    "17:1;17:2;17:3;17:4;17:6;17:8;17:9;16:10;17:1;17:2;17:3;17:4;17:5;17:6;17:7;17:8;17:9;16:20",
    "17:1;17:2;17:3;17:4;17:6;17:7;17:8;17:9;16:34;17:7;17:8;16:40;17:2;17:3;17:4;17:5;17:6;17:8",
    "17:9;16:51;17:2;17:3;17:4;17:5;17:6;17:7;17:8;17:9;16:60;17:1;17:2;17:3;17:4;;;;;;;;;",
    "LINEAR A SIGN A701 A;17:2 B;17:3 D;17:4 E;17:5 F;17:6 H;17:7 J;17:8 K;17:9 L;18:-2 L2",
    "19:3 L3;19:4 L4;19:6 L6;16:10 W;17:1 X;17:2 Y;17:3 OMEGA;17:4 ABB;17:5 BB;17:7 DD;16:26 EYYY",
    "16:32 JE;;;;;;;;;;;LINEAR A SIGN A800;17:1;17:2;17:3;17:4;17:5;17:6;17:7;;;;;;;;;;;;;;;;;;;;",
    ";;;;MODIFIER LETTER SMALL CAPITAL AA;17:UPERSCRIPT TRIANGULAR COLON;28:HALF TRIANGULAR COLON",
    "17:MALL AE;22:CAPITAL B;22:B WITH HOOK;;MODIFIER LETTER SMALL DZ DIGRAPH",
    "32: WITH RETROFLEX HOOK;38:CURL;23:EZH DIGRAPH;23: WITH TAIL;29:HOOK;33: AND TAIL",
    "22:REVERSED E;22:CLOSED REVERSED OPEN E;22:FENG DIGRAPH;22:RAMS HORN;22:CAPITAL G",
    "22:G WITH HOOK;22:CAPITAL G WITH HOOK;22:H WITH STROKE;22:CAPITAL H;22:HENG WITH HOOK",
    "22:DOTLESS J WITH STROKE AND HOOK;22:LS DIGRAPH;23:Z DIGRAPH;23: WITH BELT",
    "22:CAPITAL L WITH BELT;22:L WITH RETROFLEX HOOK AND BELT;23:EZH;26: WITH RETROFLEX HOOK",
    "22:TURNED Y;30: WITH BELT;22:O WITH STROKE;22:CAPITAL OE;23:LOSED OMEGA;22:Q",
    "22:TURNED R WITH LONG LEG;44: AND RETROFLEX HOOK;22:R WITH TAIL;29:FISHHOOK;22:CAPITAL R",
    "22:TC DIGRAPH WITH CURL;23:S DIGRAPH;32: WITH RETROFLEX HOOK;23:ESH DIGRAPH",
    "23: WITH RETROFLEX HOOK;22:V WITH RIGHT HOOK;;MODIFIER LETTER SMALL CAPITAL Y",
    "16:GLOTTAL STOP WITH STROKE;16:REVERSED GLOTTAL STOP WITH STROKE;16:BILABIAL CLICK",
    "16:DENTAL CLICK;16:LATERAL CLICK;16:ALVEOLAR CLICK;16:RETROFLEX CLICK WITH RETROFLEX HOOK",
    "16:SMALL S WITH CURL"]),
  (0x10800, [
    "CYPRIOT SYLLABLE A;17:E;17:I;17:O;17:U;17:JA;;;CYPRIOT SYLLABLE JO;;CYPRIOT SYLLABLE KA;18:E",
    "18:I;18:O;18:U;17:LA;18:E;18:I;18:O;18:U;17:MA;18:E;18:I;18:O;18:U;17:NA;18:E;18:I;18:O;18:U",
    "17:PA;18:E;18:I;18:O;18:U;17:RA;18:E;18:I;18:O;18:U;17:SA;18:E;18:I;18:O;18:U;17:TA;18:E",
    "18:I;18:O;18:U;17:WA;18:E;18:I;18:O;;CYPRIOT SYLLABLE XA;18:E;;;;CYPRIOT SYLLABLE ZA;;",
    "CYPRIOT SYLLABLE ZO;IMPERIAL ARAMAIC LETTER ALEPH;24:BETH;24:GIMEL;24:DALETH;24:HE;24:WAW",
    "24:ZAYIN;24:HETH;24:TETH;24:YODH;24:KAPH;24:LAMEDH;24:MEM;24:NUN;24:SAMEKH;24:AYIN;24:PE",
    "24:SADHE;24:QOPH;24:RESH;24:SHIN;24:TAW;;IMPERIAL ARAMAIC SECTION SIGN;17:NUMBER ONE;24:TWO",
    "25:HREE;25:EN;25:WENTY;24:ONE HUNDRED;28:THOUSAND;24:TEN THOUSAND;PALMYRENE LETTER ALEPH",
    "17:BETH;17:GIMEL;17:DALETH;17:HE;17:WAW;17:ZAYIN;17:HETH;17:TETH;17:YODH;17:KAPH;17:LAMEDH",
    "17:MEM;17:FINAL NUN;17:NUN;17:SAMEKH;17:AYIN;17:PE;17:SADHE;17:QOPH;17:RESH;17:SHIN;17:TAW",
    "12:FT-POINTING FLEURON;10:RIGHT-POINTING FLEURON;10:NUMBER ONE;17:TWO;18:HREE;17:FOUR;18:IVE",
    "17:TEN;18:WENTY;NABATAEAN LETTER FINAL ALEPH;17:ALEPH;17:FINAL BETH;17:BETH;17:GIMEL",
    "17:DALETH;17:FINAL HE;17:HE;17:WAW;17:ZAYIN;17:HETH;17:TETH;17:FINAL YODH;17:YODH",
    "17:FINAL KAPH;17:KAPH;17:FINAL LAMEDH;17:LAMEDH;17:FINAL MEM;17:MEM;17:FINAL NUN;17:NUN",
    "17:SAMEKH;17:AYIN;17:PE;17:SADHE;17:QOPH;17:RESH;17:FINAL SHIN;17:SHIN;17:TAW;;;;;;;;",
    "NABATAEAN NUMBER ONE;17:TWO;18:HREE;17:FOUR;10:CRUCIFORM NUMBER FOUR;10:NUMBER FIVE;17:TEN",
    "18:WENTY;17:ONE HUNDRED;;;;;;;;;;;;;;;;;;;;;;;;;;;;;;;;;;;;;;;;;;;;;;;;;HATRAN LETTER ALEPH",
    "14:BETH;14:GIMEL;14:DALETH-RESH;14:HE;14:WAW;14:ZAYN;14:HETH;14:TETH;14:YODH;14:KAPH",
    "14:LAMEDH;14:MEM;14:NUN;14:SAMEKH;14:AYN;14:PE;14:SADHE;14:QOPH;;HATRAN LETTER SHIN;14:TAW;;",
    ";;;HATRAN NUMBER ONE;14:FIVE;14:TEN;15:WENTY;14:ONE HUNDRED;PHOENICIAN LETTER ALF;18:BET",
    "18:GAML;18:DELT;18:HE;18:WAU;18:ZAI;18:HET;18:TET;18:YOD;18:KAF;18:LAMD;18:MEM;18:NUN",
    "18:SEMK;18:AIN;18:PE;18:SADE;18:QOF;18:ROSH;18:SHIN;18:TAU;11:NUMBER ONE;18:TEN;19:WENTY",
    "18:ONE HUNDRED;18:TWO;19:HREE;;;;PHOENICIAN WORD SEPARATOR;LYDIAN LETTER A;14:B;14:G;14:D",
    "14:E;14:V;14:I;14:Y;14:K;14:L;14:M;14:N;14:O;14:R;14:SS;14:T;14:U;14:F;14:Q;14:S;14:TT;14:AN",
    "14:EN;14:LY;14:NN;14:C;;;;;;LYDIAN TRIANGULAR MARK;;;;;;;;;;;;;;;;;;;;;;;;;;;;;;;;;;;;;;;;;;",
    ";;;;;;;;;;;;;;;;;;;;;;MEROITIC HIEROGLYPHIC LETTER A;29:E;29:I;29:O;29:YA;29:WA;29:BA;31:-2",
    "29:PA;29:MA;29:NA;31:-2;30:E;31:-2;29:RA;31:-2;29:LA;29:KHA;29:HHA;29:SA;31:-2;30:E;29:KA",
    "29:QA;29:TA;31:-2;30:E;31:-2;30:O;29:DA;22:SYMBOL VIDJ;33:-2;9:CURSIVE LETTER A;24:E;24:I",
    "24:O;24:YA;24:WA;24:BA;24:PA;24:MA;24:NA;25:E;24:RA;24:LA;24:KHA;24:HHA;24:SA;24:ARCHAIC SA",
    "24:SE;24:KA;24:QA;24:TA;25:E;25:O;24:DA;;;;;MEROITIC CURSIVE FRACTION ELEVEN TWELFTHS",
    "26:ONE HALF;17:LOGOGRAM RMT;26:IMN;17:NUMBER ONE;24:TWO;25:HREE;24:FOUR;25:IVE;24:SIX",
    "25:EVEN;24:EIGHT;24:NINE;24:TEN;25:WENTY;25:HIRTY;24:FORTY;25:IFTY;24:SIXTY;25:EVENTY;;",
    "MEROITIC CURSIVE NUMBER ONE HUNDRED;24:TWO HUNDRED;25:HREE HUNDRED;24:FOUR HUNDRED",
    "25:IVE HUNDRED;24:SIX HUNDRED;25:EVEN HUNDRED;24:EIGHT HUNDRED;24:NINE HUNDRED",
    "24:ONE THOUSAND;24:TWO THOUSAND;25:HREE THOUSAND;24:FOUR THOUSAND;25:IVE THOUSAND",
    "24:SIX THOUSAND;25:EVEN THOUSAND;24:EIGHT THOUSAND;24:NINE THOUSAND;24:TEN THOUSAND",
    "25:WENTY THOUSAND;25:HIRTY THOUSAND;24:FORTY THOUSAND;25:IFTY THOUSAND;24:SIXTY THOUSAND",
    "25:EVENTY THOUSAND;24:EIGHTY THOUSAND;24:NINETY THOUSAND;24:ONE HUNDRED THOUSAND",
    "24:TWO HUNDRED THOUSAND;25:HREE HUNDRED THOUSAND;24:FOUR HUNDRED THOUSAND",
    "25:IVE HUNDRED THOUSAND;24:SIX HUNDRED THOUSAND;25:EVEN HUNDRED THOUSAND",
    "24:EIGHT HUNDRED THOUSAND;24:NINE HUNDRED THOUSAND;17:FRACTION ONE TWELFTH;26:TWO TWELFTHS",
    "27:HREE TWELFTHS;26:FOUR TWELFTHS;27:IVE TWELFTHS;26:SIX TWELFTHS;27:EVEN TWELFTHS",
    "26:EIGHT TWELFTHS;26:NINE TWELFTHS;26:TEN TWELFTHS;KHAROSHTHI LETTER A;11:VOWEL SIGN I;22:U",
    "22:VOCALIC R;;KHAROSHTHI VOWEL SIGN E;22:O;;;;;;KHAROSHTHI VOWEL LENGTH MARK",
    "11:SIGN DOUBLE RING BELOW;16:ANUSVARA;16:VISARGA;11:LETTER KA;19:HA;18:GA;19:HA;",
    "KHAROSHTHI LETTER CA;19:HA;18:JA;;KHAROSHTHI LETTER NYA;18:TTA;20:HA;18:DDA;20:HA;18:NNA",
    "18:TA;19:HA;18:DA;19:HA;18:NA;18:PA;19:HA;18:BA;19:HA;18:MA;18:YA;18:RA;18:LA;18:VA;18:SHA",
    "19:SA;19:A;18:ZA;18:HA;18:KKA;18:TTTHA;21:A;18:VHA;;;KHAROSHTHI SIGN BAR ABOVE;16:CAUDA",
    "16:DOT BELOW;;;;;KHAROSHTHI VIRAMA;11:DIGIT ONE;17:TWO;18:HREE;17:FOUR;11:NUMBER TEN",
    "19:WENTY;18:ONE HUNDRED;22:THOUSAND;11:FRACTION ONE HALF;;;;;;;;KHAROSHTHI PUNCTUATION DOT",
    "23:SMALL CIRCLE;23:CIRCLE;24:RESCENT BAR;23:MANGALAM;23:LOTUS;23:DANDA;24:OUBLE DANDA",
    "23:LINES;;;;;;;;OLD SOUTH ARABIAN LETTER HE;25:LAMEDH;25:HETH;25:MEM;25:QOPH;25:WAW;25:SHIN",
    "25:RESH;25:BETH;25:TAW;25:SAT;25:KAPH;25:NUN;25:KHETH;25:SADHE;27:MEKH;25:FE;25:ALEF;26:YN",
    "25:DHADHE;25:GIMEL;25:DALETH;25:GHAYN;25:TETH;25:ZAYN;25:DHALETH;25:YODH;25:THAW;27:ETH",
    "18:NUMBER ONE;25:FIFTY;21:ERIC INDICATOR;4:NORTH ARABIAN LETTER HEH;25:LAM;25:HAH;25:MEEM",
    "25:QAF;25:WAW;25:ES-2;25:REH;25:BEH;25:TEH;25:ES-1;25:KAF;25:NOON;25:KHAH;25:SAD;25:ES-3",
    "25:FEH;25:ALEF;26:IN;25:DAD;25:GEEM;25:DAL;25:GHAIN;25:TAH;25:ZAIN;25:THAL;25:YEH;25:THEH",
    "25:ZAH;18:NUMBER ONE;25:TEN;26:WENTY;;;;;;;;;;;;;;;;;;;;;;;;;;;;;;;;;MANICHAEAN LETTER ALEPH",
    "18:BETH;19:HETH;18:GIMEL;19:HIMEL;18:DALETH;18:HE;18:WAW;11:SIGN UD;11:LETTER ZAYIN;19:HAYIN",
    "18:JAYIN;19:HAYIN;18:HETH;18:TETH;18:YODH;18:KAPH;18:XAPH;18:KHAPH;18:LAMEDH;18:DHAMEDH",
    "18:THAMEDH;18:MEM;18:NUN;18:SAMEKH;18:AYIN;19:AYIN;18:PE;18:FE;18:SADHE;18:QOPH;18:XOPH",
    "18:QHOPH;18:RESH;18:SHIN;19:SHIN;18:TAW;11:ABBREVIATION MARK ABOVE;29:BELOW;;;;",
    "MANICHAEAN NUMBER ONE;18:FIVE;18:TEN;19:WENTY;18:ONE HUNDRED;11:PUNCTUATION STAR;23:FLEURON",
    "23:DOUBLE DOT WITHIN DOT;25:T WITHIN DOT;26:;23:TWO DOTS;23:LINE FILLER;;;;;;;;;",
    "AVESTAN LETTER A;16:A;16:O;16:AO;16:N;16:AN;16:E;17:E;15:E;16:E;15:O;16:O;15:I;16:I;15:U",
    "16:U;15:KE;15:XE;16:YE;16:VE;15:GE;16:GE;16:HE;15:CE;15:JE;15:TE;16:HE;15:DE;16:HE;15:TTE",
    "15:PE;15:FE;15:BE;16:HE;15:NGE;17:YE;17:VE;16:E;16:YE;16:NE;15:ME;15:HME;15:YYE;16:E;15:VE",
    "15:RE;15:LE;15:SE;15:ZE;15:SHE;15:ZHE;15:SHYE;16:SHE;15:HE;;;;AVESTAN ABBREVIATION MARK",
    "TINY TWO DOTS OVER ONE DOT PUNCTUATION;SMALL TWO DOTS OVER ONE DOT PUNCTUATION",
    "LARGE TWO DOTS OVER ONE DOT PUNCTUATION;6:ONE DOT OVER TWO DOTS PUNCTUATION",
    "6:TWO RINGS OVER ONE RING PUNCTUATION;6:ONE RING OVER TWO RINGS PUNCTUATION",
    "INSCRIPTIONAL PARTHIAN LETTER ALEPH;30:BETH;30:GIMEL;30:DALETH;30:HE;30:WAW;30:ZAYIN;30:HETH",
    "30:TETH;30:YODH;30:KAPH;30:LAMEDH;30:MEM;30:NUN;30:SAMEKH;30:AYIN;30:PE;30:SADHE;30:QOPH",
    "30:RESH;30:SHIN;30:TAW;;;INSCRIPTIONAL PARTHIAN NUMBER ONE;30:TWO;31:HREE;30:FOUR;30:TEN",
    "31:WENTY;30:ONE HUNDRED;34:THOUSAND;16:HLAVI LETTER ALEPH;29:BETH;29:GIMEL;29:DALETH;29:HE",
    "29:WAW-AYIN-RESH;29:ZAYIN;29:HETH;29:TETH;29:YODH;29:KAPH;29:LAMEDH;29:MEM-QOPH;29:NUN",
    "29:SAMEKH;29:PE;29:SADHE;30:HIN;29:TAW;;;;;;INSCRIPTIONAL PAHLAVI NUMBER ONE;29:TWO;30:HREE",
    "29:FOUR;29:TEN;30:WENTY;29:ONE HUNDRED;33:THOUSAND;PSALTER PAHLAVI LETTER ALEPH;23:BETH",
    "23:GIMEL;23:DALETH;23:HE;23:WAW-AYIN-RESH;23:ZAYIN;23:HETH;23:YODH;23:KAPH;23:LAMEDH",
    "23:MEM-QOPH;23:NUN;23:SAMEKH;23:PE;23:SADHE;24:HIN;23:TAW;;;;;;;",
    "PSALTER PAHLAVI SECTION MARK;16:TURNED SECTION MARK;16:FOUR DOTS WITH CROSS;31:DOT;;;;;;;;;;",
    ";;PSALTER PAHLAVI NUMBER ONE;23:TWO;24:HREE;23:FOUR;23:TEN;24:WENTY;23:ONE HUNDRED"]),
  (0x10C00, [
    "OLD TURKIC LETTER ORKHON A;18:YENISEI A;27:E;18:ORKHON I;18:YENISEI I;26:E;18:ORKHON O;26:E",
    "18:YENISEI OE;18:ORKHON AB;18:YENISEI AB;18:ORKHON AEB;18:YENISEI AEB;18:ORKHON AG",
    "18:YENISEI AG;18:ORKHON AEG;18:YENISEI AEG;18:ORKHON AD;18:YENISEI AD;18:ORKHON AED;25:EZ",
    "18:YENISEI EZ;18:ORKHON AY;18:YENISEI AY;18:ORKHON AEY;18:YENISEI AEY;18:ORKHON AEK",
    "18:YENISEI AEK;18:ORKHON OEK;18:YENISEI OEK;18:ORKHON AL;18:YENISEI AL;18:ORKHON AEL;25:ELT",
    "26:M;25:AN;26:EN;18:YENISEI AEN;18:ORKHON ENT;18:YENISEI ENT;18:ORKHON ENC;18:YENISEI ENC",
    "18:ORKHON ENY;18:YENISEI ENY;26:ANG;18:ORKHON ENG;18:YENISEI AENG;18:ORKHON EP;25:OP;25:IC",
    "25:EC;18:YENISEI EC;18:ORKHON AQ;18:YENISEI AQ;18:ORKHON IQ;18:YENISEI IQ;18:ORKHON OQ",
    "18:YENISEI OQ;18:ORKHON AR;18:YENISEI AR;18:ORKHON AER;26:S;26:ES;26:SH;18:YENISEI ASH",
    "18:ORKHON ESH;18:YENISEI ESH;18:ORKHON AT;18:YENISEI AT;18:ORKHON AET;18:YENISEI AET",
    "18:ORKHON OT;25:BASH;;;;;;;;;;;;;;;;;;;;;;;;;;;;;;;;;;;;;;;;;;;;;;;;;;;;;;;",
    "OLD HUNGARIAN CAPITAL LETTER A;30:A;29:EB;29:AMB;29:EC;30:NC;30:CS;30:D;29:AND;29:E",
    "29:CLOSE E;29:EE;30:F;30:G;31:Y;30:H;29:I;30:I;29:EJ;30:K;29:AK;29:UNK;29:EL;31:Y;30:M;30:N",
    "31:Y;29:O;30:O;29:NIKOLSBURG OE;29:RUDIMENTA OE;29:OEE;29:EP;30:MP;30:R;29:SHORT ER;29:ES",
    "31:Z;30:T;30:NT;30:TY;30:CH;29:U;30:U;29:NIKOLSBURG UE;29:RUDIMENTA UE;29:EV;30:Z;31:S",
    "30:NT-SHAPED SIGN;29:US;;;;;;;;;;;;;;OLD HUNGARIAN SMALL LETTER A;28:A;27:EB;27:AMB;27:EC",
    "28:NC;28:CS;28:D;27:AND;27:E;27:CLOSE E;27:EE;28:F;28:G;29:Y;28:H;27:I;28:I;27:EJ;28:K;27:AK",
    "27:UNK;27:EL;29:Y;28:M;28:N;29:Y;27:O;28:O;27:NIKOLSBURG OE;27:RUDIMENTA OE;27:OEE;27:EP",
    "28:MP;28:R;27:SHORT ER;27:ES;29:Z;28:T;28:NT;28:TY;28:CH;27:U;28:U;27:NIKOLSBURG UE",
    "27:RUDIMENTA UE;27:EV;28:Z;29:S;28:NT-SHAPED SIGN;27:US;;;;;;;;OLD HUNGARIAN NUMBER ONE",
    "21:FIVE;21:TEN;21:FIFTY;21:ONE HUNDRED;25:THOUSAND;HANIFI ROHINGYA LETTER A;23:BA;23:PA",
    "23:TA;24:TA;23:JA;23:CA;23:HA;23:KHA;23:FA;23:DA;24:DA;23:RA;24:RA;23:ZA;23:SA;24:HA;23:KA",
    "23:GA;23:LA;23:MA;23:NA;23:WA;23:KINNA WA;23:YA;23:KINNA YA;23:NGA;24:YA;23:VA;16:VOWEL A",
    "22:I;22:U;22:E;22:O;16:MARK SAKIN;21:NA KHONNA;16:SIGN HARBAHAY;21:TAHALA;23:NA;23:SSI;;;;;;",
    ";;HANIFI ROHINGYA DIGIT ZERO;22:ONE;22:TWO;23:HREE;22:FOUR;23:IVE;22:SIX;23:EVEN;22:EIGHT",
    "22:NINE"]),
  (0x10E60, [
    "RUMI DIGIT ONE;11:TWO;12:HREE;11:FOUR;12:IVE;11:SIX;12:EVEN;11:EIGHT;11:NINE;5:NUMBER TEN",
    "13:WENTY;13:HIRTY;12:FORTY;13:IFTY;12:SIXTY;13:EVENTY;12:EIGHTY;12:NINETY;12:ONE HUNDRED",
    "12:TWO HUNDRED;13:HREE HUNDRED;12:FOUR HUNDRED;13:IVE HUNDRED;12:SIX HUNDRED;13:EVEN HUNDRED",
    "12:EIGHT HUNDRED;12:NINE HUNDRED;5:FRACTION ONE HALF;18:QUARTER;18:THIRD;14:TWO THIRDS;",
    "YEZIDI LETTER ELIF;14:BE;14:PE;15:HE;14:THE;14:SE;14:CIM;15:HIM;16:HIM;14:HHA;14:XA;14:DAL",
    "14:ZAL;14:RA;15:HA;14:ZA;14:JA;14:SIN;15:HIN;15:AD;14:DAD;14:TA;14:ZE;14:EYN;14:XHEYN;14:FA",
    "14:VA;16: ALTERNATE FORM;14:QAF;14:KAF;15:HAF;14:GAF;14:LAM;14:MIM;14:NUN;14:UM;14:WAW;14:OW",
    "14:EW;14:HAY;14:YOT;14:ET;;YEZIDI COMBINING HAMZA MARK;17:MADDA MARK;7:HYPHENATION MARK;;",
    "YEZIDI LETTER LAM WITH DOT ABOVE;14:YOT WITH CIRCUMFLEX ABOVE"]),
  (0x10EFD, [
    "ARABIC SMALL LOW WORD SAKTA;22:QASR;22:MADDA;OLD SOGDIAN LETTER ALEPH;19:FINAL ALEPH;19:BETH",
    "19:FINAL BETH;19:GIMEL;19:HE;19:FINAL HE;19:WAW;19:ZAYIN;19:HETH;19:YODH;19:KAPH;19:LAMEDH",
    "19:MEM;19:NUN;19:FINAL NUN;28: WITH VERTICAL TAIL;19:SAMEKH;19:AYIN;20:LTERNATE AYIN;19:PE",
    "19:SADHE;19:FINAL SADHE;30: WITH VERTICAL TAIL;19:RESH-AYIN-DALETH;19:SHIN;19:TAW",
    "19:FINAL TAW;28: WITH VERTICAL TAIL;12:NUMBER ONE;19:TWO;20:HREE;19:FOUR;20:IVE;19:TEN",
    "20:WENTY;20:HIRTY;19:ONE HUNDRED;12:FRACTION ONE HALF;12:LIGATURE AYIN-DALETH;;;;;;;;",
    "SOGDIAN LETTER ALEPH;15:BETH;15:GIMEL;15:HE;15:WAW;15:ZAYIN;15:HETH;15:YODH;15:KAPH",
    "15:LAMEDH;15:MEM;15:NUN;15:SAMEKH;15:AYIN;15:PE;15:SADHE;15:RESH-AYIN;15:SHIN;15:TAW;15:FETH",
    "15:LESH;8:INDEPENDENT SHIN;8:COMBINING DOT BELOW;18:TWO DOTS BELOW;18:DOT ABOVE",
    "18:TWO DOTS ABOVE;18:CURVE ABOVE;24:BELOW;18:HOOK ABOVE;23:BELOW;18:LONG HOOK BELOW",
    "18:RESH BELOW;18:STROKE BELOW;8:NUMBER ONE;15:TEN;16:WENTY;15:ONE HUNDRED",
    "8:PUNCTUATION TWO VERTICAL BARS;37: WITH DOTS;20:CIRCLE WITH DOT;20:TWO CIRCLES WITH DOTS",
    "20:HALF CIRCLE WITH DOT;;;;;;;;;;;;;;;;;;;;;;;OLD UYGHUR LETTER ALEPH;18:BETH;18:GIMEL-HETH",
    "18:WAW;18:ZAYIN;18:FINAL HETH;18:YODH;18:KAPH;18:LAMEDH;18:MEM;18:NUN;18:SAMEKH;18:PE",
    "18:SADHE;18:RESH;18:SHIN;18:TAW;18:LESH;11:COMBINING DOT ABOVE;25:BELOW;21:TWO DOTS ABOVE",
    "30:BELOW;11:PUNCTUATION BAR;23:TWO BARS;27:DOTS;23:FOUR DOTS;;;;;;;;;;;;;;;;;;;;;;;;;;;;;;;;",
    ";;;;;;CHORASMIAN LETTER ALEPH;18:SMALL ALEPH;18:BETH;18:GIMEL;18:DALETH;18:HE;18:WAW",
    "18:CURLED WAW;18:ZAYIN;18:HETH;18:YODH;18:KAPH;18:LAMEDH;18:MEM;18:NUN;18:SAMEKH;18:AYIN",
    "18:PE;18:RESH;18:SHIN;18:TAW;11:NUMBER ONE;18:TWO;19:HREE;18:FOUR;18:TEN;19:WENTY",
    "18:ONE HUNDRED;;;;;;;;;;;;;;;;;;;;;ELYMAIC LETTER ALEPH;15:BETH;15:GIMEL;15:DALETH;15:HE",
    "15:WAW;15:ZAYIN;15:HETH;15:TETH;15:YODH;15:KAPH;15:LAMEDH;15:MEM;15:NUN;15:SAMEKH;15:AYIN",
    "15:PE;15:SADHE;15:QOPH;15:RESH;15:SHIN;15:TAW;9:IGATURE ZAYIN-YODH;;;;;;;;;",
    "BRAHMI SIGN CANDRABINDU;12:ANUSVARA;12:VISARGA;12:JIHVAMULIYA;12:UPADHMANIYA;7:LETTER A;15:A",
    "14:I;15:I;14:U;15:U;14:VOCALIC R;23:R;22:L;23:L;14:E;14:AI;14:O;14:AU;14:KA;15:HA;14:GA",
    "15:HA;14:NGA;14:CA;15:HA;14:JA;15:HA;14:NYA;14:TTA;16:HA;14:DDA;16:HA;14:NNA;14:TA;15:HA",
    "14:DA;15:HA;14:NA;14:PA;15:HA;14:BA;15:HA;14:MA;14:YA;14:RA;14:LA;14:VA;14:SHA;15:SA;15:A",
    "14:HA;14:LLA;14:OLD TAMIL LLLA;24:RRA;24:NNNA;7:VOWEL SIGN AA;18:BHATTIPROLU AA;18:I;19:I",
    "18:U;19:U;18:VOCALIC R;27:R;26:L;27:L;18:E;18:AI;18:O;18:AU;8:IRAMA;7:DANDA;8:OUBLE DANDA",
    "7:PUNCTUATION DOT;21:UBLE DOT;19:LINE;19:CRESCENT BAR;19:LOTUS;;;;;BRAHMI NUMBER ONE;14:TWO",
    "15:HREE;14:FOUR;15:IVE;14:SIX;15:EVEN;14:EIGHT;14:NINE;14:TEN;15:WENTY;15:HIRTY;14:FORTY",
    "15:IFTY;14:SIXTY;15:EVENTY;14:EIGHTY;14:NINETY;14:ONE HUNDRED;18:THOUSAND;7:DIGIT ZERO",
    "13:ONE;13:TWO;14:HREE;13:FOUR;14:IVE;13:SIX;14:EVEN;13:EIGHT;13:NINE;7:SIGN OLD TAMIL VIRAMA",
    "7:LETTER OLD TAMIL SHORT E;30:O;7:VOWEL SIGN OLD TAMIL SHORT E;34:O;7:LETTER OLD TAMIL LLA;;",
    ";;;;;;;BRAHMI NUMBER JOINER;KAITHI SIGN CANDRABINDU;12:ANUSVARA;12:VISARGA;7:LETTER A;15:A",
    "14:I;15:I;14:U;15:U;14:E;14:AI;14:O;14:AU;14:KA;15:HA;14:GA;15:HA;14:NGA;14:CA;15:HA;14:JA",
    "15:HA;14:NYA;14:TTA;16:HA;14:DDA;16:DHA;16:HA;14:RHA;14:NNA;14:TA;15:HA;14:DA;15:HA;14:NA",
    "14:PA;15:HA;14:BA;15:HA;14:MA;14:YA;14:RA;14:LA;14:VA;14:SHA;15:SA;15:A;14:HA",
    "7:VOWEL SIGN AA;18:I;19:I;18:U;19:U;18:E;18:AI;18:O;18:AU;7:SIGN VIRAMA;12:NUKTA",
    "7:ABBREVIATION SIGN;7:ENUMERATION SIGN;7:NUMBER SIGN;7:SECTION MARK;7:DOUBLE SECTION MARK",
    "8:ANDA;8:OUBLE DANDA;7:VOWEL SIGN VOCALIC R;;;;;;;;;;;KAITHI NUMBER SIGN ABOVE;;",
    "SORA SOMPENG LETTER SAH;20:TAH;20:BAH;20:CAH;20:DAH;20:GAH;20:MAH;20:NGAH;20:LAH;20:NAH",
    "20:VAH;20:PAH;20:YAH;20:RAH;20:HAH;20:KAH;20:JAH;20:NYAH;20:AH;20:EEH;20:IH;20:UH;20:OH",
    "20:EH;20:MAE;;;;;;;;SORA SOMPENG DIGIT ZERO;19:ONE;19:TWO;20:HREE;19:FOUR;20:IVE;19:SIX",
    "20:EVEN;19:EIGHT;19:NINE;;;;;;;CHAKMA SIGN CANDRABINDU;12:ANUSVARA;12:VISARGA;7:LETTER AA",
    "14:I;14:U;14:E;14:KAA;15:HAA;14:GAA;15:HAA;14:NGAA;14:CAA;15:HAA;14:JAA;15:HAA;14:NYAA",
    "14:TTAA;16:HAA;14:DDAA;16:HAA;14:NNAA;14:TAA;15:HAA;14:DAA;15:HAA;14:NAA;14:PAA;15:HAA",
    "14:BAA;15:HAA;14:MAA;14:YYAA;15:AA;14:RAA;14:LAA;14:WAA;14:SAA;14:HAA;7:VOWEL SIGN A;18:I",
    "19:I;18:U;19:U;18:E;18:AI;18:O;18:AU;18:OI;7:O MARK;7:AU MARK;7:VIRAMA;7:MAAYYAA;",
    "CHAKMA DIGIT ZERO;13:ONE;13:TWO;14:HREE;13:FOUR;14:IVE;13:SIX;14:EVEN;13:EIGHT;13:NINE",
    "7:SECTION MARK;7:DANDA;8:OUBLE DANDA;7:QUESTION MARK;7:LETTER LHAA;7:VOWEL SIGN AA;18:EI",
    "7:LETTER VAA;;;;;;;;;MAHAJANI LETTER A;16:I;16:U;16:E;16:O;16:KA;17:HA;16:GA;17:HA;16:CA",
    "17:HA;16:JA;17:HA;16:NYA;16:TTA;18:HA;16:DDA;18:HA;16:NNA;16:TA;17:HA;16:DA;17:HA;16:NA",
    "16:PA;17:HA;16:BA;17:HA;16:MA;16:RA;16:LA;16:VA;16:SA;16:HA;16:RRA;9:SIGN NUKTA",
    "9:ABBREVIATION SIGN;9:SECTION MARK;9:LIGATURE SHRI;;;;;;;;;;SHARADA SIGN CANDRABINDU",
    "13:ANUSVARA;13:VISARGA;8:LETTER A;16:A;15:I;16:I;15:U;16:U;15:VOCALIC R;24:R;23:L;24:L;15:E",
    "15:AI;15:O;15:AU;15:KA;16:HA;15:GA;16:HA;15:NGA;15:CA;16:HA;15:JA;16:HA;15:NYA;15:TTA;17:HA",
    "15:DDA;17:HA;15:NNA;15:TA;16:HA;15:DA;16:HA;15:NA;15:PA;16:HA;15:BA;16:HA;15:MA;15:YA;15:RA",
    "15:LA;16:LA;15:VA;15:SHA;16:SA;16:A;15:HA;8:VOWEL SIGN AA;19:I;20:I;19:U;20:U;19:VOCALIC R",
    "28:R;27:L;28:L;19:E;19:AI;19:O;19:AU;8:SIGN VIRAMA;13:AVAGRAHA;13:JIHVAMULIYA;13:UPADHMANIYA",
    "8:OM;8:DANDA;9:OUBLE DANDA;8:ABBREVIATION SIGN;8:SEPARATOR;9:ANDHI MARK;9:IGN NUKTA",
    "8:VOWEL MODIFIER MARK;8:EXTRA SHORT VOWEL MARK;8:SUTRA MARK;8:VOWEL SIGN PRISHTHAMATRA E",
    "8:SIGN INVERTED CANDRABINDU;8:DIGIT ZERO;14:ONE;14:TWO;15:HREE;14:FOUR;15:IVE;14:SIX;15:EVEN",
    "14:EIGHT;14:NINE;8:EKAM;8:SIGN SIDDHAM;8:HEADSTROKE;8:CONTINUATION SIGN;8:SECTION MARK-1",
    "21:2;;SINHALA ARCHAIC DIGIT ONE;22:TWO;23:HREE;22:FOUR;23:IVE;22:SIX;23:EVEN;22:EIGHT",
    "22:NINE;16:NUMBER TEN;24:WENTY;24:HIRTY;23:FORTY;24:IFTY;23:SIXTY;24:EVENTY;23:EIGHTY",
    "23:NINETY;23:ONE HUNDRED;27:THOUSAND;;;;;;;;;;;;KHOJKI LETTER A;15:A;14:I;14:U;14:E;14:AI",
    "14:O;14:AU;14:KA;15:HA;14:GA;15:GA;15:HA;14:NGA;14:CA;15:HA;14:JA;15:JA;;KHOJKI LETTER NYA",
    "14:TTA;16:HA;14:DDA;16:HA;14:NNA;14:TA;15:HA;14:DA;15:DDA;15:HA;14:NA;14:PA;15:HA;14:BA",
    "15:BA;15:HA;14:MA;14:YA;14:RA;14:LA;14:VA;14:SA;14:HA;14:LLA;7:VOWEL SIGN AA;18:I;19:I;18:U",
    "18:E;18:AI;18:O;18:AU;7:SIGN ANUSVARA;12:VIRAMA;12:NUKTA;12:SHADDA;7:DANDA;8:OUBLE DANDA",
    "7:WORD SEPARATOR;7:SECTION MARK;7:DOUBLE SECTION MARK;7:ABBREVIATION SIGN;7:SIGN SUKUN",
    "7:LETTER QA;14:SHORT I;7:VOWEL SIGN VOCALIC R;;;;;;;;;;;;;;;;;;;;;;;;;;;;;;;;;;;;;;;;;;;;;;;",
    ";;;;;;;;;;;;;;;MULTANI LETTER A;15:I;15:U;15:E;15:KA;16:HA;15:GA;;MULTANI LETTER GHA;",
    "MULTANI LETTER CA;16:HA;15:JA;16:JA;;MULTANI LETTER NYA;15:TTA;17:HA;15:DDA;17:DA;17:HA",
    "15:NNA;15:TA;16:HA;15:DA;16:HA;15:NA;15:PA;16:HA;15:BA;;MULTANI LETTER BHA;15:MA;15:YA;15:RA",
    "15:LA;15:VA;15:SA;15:HA;15:RRA;16:HA;8:SECTION MARK;;;;;;;KHUDAWADI LETTER A;18:A;17:I;18:I",
    "17:U;18:U;17:E;17:AI;17:O;17:AU;17:KA;18:HA;17:GA;18:GA;18:HA;17:NGA;17:CA;18:HA;17:JA;18:JA",
    "18:HA;17:NYA;17:TTA;19:HA;17:DDA;19:DA;17:RRA;17:DDHA;17:NNA;17:TA;18:HA;17:DA;18:HA;17:NA",
    "17:PA;18:HA;17:BA;18:BA;18:HA;17:MA;17:YA;17:RA;17:LA;17:VA;17:SHA;18:A;17:HA",
    "10:SIGN ANUSVARA;10:VOWEL SIGN AA;21:I;22:I;21:U;22:U;21:E;21:AI;21:O;21:AU;10:SIGN NUKTA",
    "15:VIRAMA;;;;;;KHUDAWADI DIGIT ZERO;16:ONE;16:TWO;17:HREE;16:FOUR;17:IVE;16:SIX;17:EVEN",
    "16:EIGHT;16:NINE;;;;;;;GRANTHA SIGN COMBINING ANUSVARA ABOVE;14:ANDRABINDU;13:ANUSVARA",
    "13:VISARGA;;GRANTHA LETTER A;16:A;15:I;16:I;15:U;16:U;15:VOCALIC R;23:L;;;GRANTHA LETTER EE",
    "15:AI;;;GRANTHA LETTER OO;15:AU;15:KA;16:HA;15:GA;16:HA;15:NGA;15:CA;16:HA;15:JA;16:HA",
    "15:NYA;15:TTA;17:HA;15:DDA;17:HA;15:NNA;15:TA;16:HA;15:DA;16:HA;15:NA;;GRANTHA LETTER PA",
    "16:HA;15:BA;16:HA;15:MA;15:YA;15:RA;;GRANTHA LETTER LA;16:LA;;GRANTHA LETTER VA;15:SHA;16:SA",
    "16:A;15:HA;;COMBINING BINDU BELOW;GRANTHA SIGN NUKTA;13:AVAGRAHA;8:VOWEL SIGN AA;19:I;20:I",
    "19:U;20:U;19:VOCALIC R;28:R;;;GRANTHA VOWEL SIGN EE;19:AI;;;GRANTHA VOWEL SIGN OO;19:AU",
    "8:SIGN VIRAMA;;;GRANTHA OM;;;;;;;GRANTHA AU LENGTH MARK;;;;;;GRANTHA SIGN PLUTA",
    "8:LETTER VEDIC ANUSVARA;21:DOUBLE ANUSVARA;16:OCALIC RR;23:LL;8:VOWEL SIGN VOCALIC L;28:L;;",
    "COMBINING GRANTHA DIGIT ZERO;24:ONE;24:TWO;25:HREE;24:FOUR;25:IVE;24:SIX;;;",
    "COMBINING GRANTHA LETTER A;25:KA;25:NA;25:VI;25:PA"]),
  (0x11400, [
    "NEWA LETTER A;13:A;12:I;13:I;12:U;13:U;12:VOCALIC R;21:R;20:L;21:L;12:E;12:AI;12:O;12:AU",
    "12:KA;13:HA;12:GA;13:HA;12:NGA;14:HA;12:CA;13:HA;12:JA;13:HA;12:NYA;14:HA;12:TTA;14:HA",
    "12:DDA;14:HA;12:NNA;12:TA;13:HA;12:DA;13:HA;12:NA;13:HA;12:PA;13:HA;12:BA;13:HA;12:MA;13:HA",
    "12:YA;12:RA;13:HA;12:LA;13:HA;12:WA;12:SHA;13:SA;13:A;12:HA;5:VOWEL SIGN AA;16:I;17:I;16:U",
    "17:U;16:VOCALIC R;25:R;24:L;25:L;16:E;16:AI;16:O;16:AU;5:SIGN VIRAMA;10:CANDRABINDU",
    "10:ANUSVARA;10:VISARGA;10:NUKTA;10:AVAGRAHA;10:FINAL ANUSVARA;5:OM;5:SIDDHI;5:DANDA",
    "6:OUBLE DANDA;5:COMMA;5:GAP FILLER;5:ABBREVIATION SIGN;5:DIGIT ZERO;11:ONE;11:TWO;12:HREE",
    "11:FOUR;12:IVE;11:SIX;12:EVEN;11:EIGHT;11:NINE;6:OUBLE COMMA;5:PLACEHOLDER MARK;",
    "NEWA INSERTION SIGN;5:SANDHI MARK;5:LETTER VEDIC ANUSVARA;5:SIGN JIHVAMULIYA;10:UPADHMANIYA;",
    ";;;;;;;;;;;;;;;;;;;;;;;;;;;;;TIRHUTA ANJI;8:LETTER A;16:A;15:I;16:I;15:U;16:U;15:VOCALIC R",
    "24:R;23:L;24:L;15:E;15:AI;15:O;15:AU;15:KA;16:HA;15:GA;16:HA;15:NGA;15:CA;16:HA;15:JA;16:HA",
    "15:NYA;15:TTA;17:HA;15:DDA;17:HA;15:NNA;15:TA;16:HA;15:DA;16:HA;15:NA;15:PA;16:HA;15:BA",
    "16:HA;15:MA;15:YA;15:RA;15:LA;15:VA;15:SHA;16:SA;16:A;15:HA;8:VOWEL SIGN AA;19:I;20:I;19:U",
    "20:U;19:VOCALIC R;28:R;27:L;28:L;19:E;19:SHORT E;19:AI;19:O;19:SHORT O;19:AU",
    "8:SIGN CANDRABINDU;13:ANUSVARA;13:VISARGA;15:RAMA;13:NUKTA;13:AVAGRAHA;8:GVANG",
    "8:ABBREVIATION SIGN;8:OM;;;;;;;;;TIRHUTA DIGIT ZERO;14:ONE;14:TWO;15:HREE;14:FOUR;15:IVE",
    "14:SIX;15:EVEN;14:EIGHT;14:NINE"])]

end CharacterNames

end LocationDrift
