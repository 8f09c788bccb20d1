/-!
# Character names, part 4

The formal names of the named code points from U+11580 to U+1B2FB, by blocks of consecutive
code points: a block gives its first code point and the names of it and of the code points after
it, in lines of names separated by `;` (the lines joined by `;` too), an empty name standing
for a code point without one. A name written `k:rest` is the first `k` characters of the name
before it followed by `rest`.
-/

namespace LocationDrift

namespace CharacterNames

/-- The names of the code points from U+11580 to U+1B2FB. -/
def part4 : List (Nat × List String) := [
  (0x11580, [
    "SIDDHAM LETTER A;16:A;15:I;16:I;15:U;16:U;15:VOCALIC R;24:R;23:L;24:L;15:E;15:AI;15:O;15:AU",
    "15:KA;16:HA;15:GA;16:HA;15:NGA;15:CA;16:HA;15:JA;16:HA;15:NYA;15:TTA;17:HA;15:DDA;17:HA",
    "15:NNA;15:TA;16:HA;15:DA;16:HA;15:NA;15:PA;16:HA;15:BA;16:HA;15:MA;15:YA;15:RA;15:LA;15:VA",
    "15:SHA;16:SA;16:A;15:HA;8:VOWEL SIGN AA;19:I;20:I;19:U;20:U;19:VOCALIC R;28:R;;",
    "SIDDHAM VOWEL SIGN E;19:AI;19:O;19:AU;8:SIGN CANDRABINDU;13:ANUSVARA;13:VISARGA;15:RAMA",
    "13:NUKTA;13:SIDDHAM;8:DANDA;9:OUBLE DANDA;8:SEPARATOR DOT;18:BAR;8:REPETITION MARK-1;24:2",
    "24:3;8:END OF TEXT MARK;8:SECTION MARK WITH TRIDENT AND U-SHAPED ORNAMENTS",
    "38:DOTTED CRESCENTS;26:RAYS AND DOTTED CRESCENTS;42:DOUBLE CRESCENTS;42:TRIPLE CRESCENTS",
    "21:DOUBLE RING;32: WITH RAYS;21:WITH DOUBLE CRESCENTS;26:TRIPLE CRESCENTS",
    "26:QUADRUPLE CRESCENTS;26:SEPTUPLE CRESCENTS;26:CIRCLES AND RAYS;38:TWO ENCLOSURES",
    "38:FOUR ENCLOSURES;8:LETTER THREE-CIRCLE ALTERNATE I;16:WO-CIRCLE ALTERNATE I;37:I",
    "15:ALTERNATE U;8:VOWEL SIGN ALTERNATE U;30:U;;;;;;;;;;;;;;;;;;;;;;;;;;;;;;;;;;;MODI LETTER A",
    "13:A;12:I;13:I;12:U;13:U;12:VOCALIC R;21:R;20:L;21:L;12:E;12:AI;12:O;12:AU;12:KA;13:HA;12:GA",
    "13:HA;12:NGA;12:CA;13:HA;12:JA;13:HA;12:NYA;12:TTA;14:HA;12:DDA;14:HA;12:NNA;12:TA;13:HA",
    "12:DA;13:HA;12:NA;12:PA;13:HA;12:BA;13:HA;12:MA;12:YA;12:RA;12:LA;12:VA;12:SHA;13:SA;13:A",
    "12:HA;12:LLA;5:VOWEL SIGN AA;16:I;17:I;16:U;17:U;16:VOCALIC R;25:R;24:L;25:L;16:E;16:AI;16:O",
    "16:AU;5:SIGN ANUSVARA;10:VISARGA;12:RAMA;10:ARDHACANDRA;5:DANDA;6:OUBLE DANDA",
    "5:ABBREVIATION SIGN;5:SIGN HUVA;;;;;;;;;;;;MODI DIGIT ZERO;11:ONE;11:TWO;12:HREE;11:FOUR",
    "12:IVE;11:SIX;12:EVEN;11:EIGHT;11:NINE;;;;;;;MONGOLIAN BIRGA WITH ORNAMENT;10:ROTATED BIRGA",
    "10:DOUBLE BIRGA WITH ORNAMENT;10:TRIPLE BIRGA WITH ORNAMENT;10:BIRGA WITH DOUBLE ORNAMENT",
    "10:ROTATED BIRGA WITH ORNAMENT;29:DOUBLE ORNAMENT;10:INVERTED BIRGA;24: WITH DOUBLE ORNAMENT",
    "10:SWIRL BIRGA;21: WITH ORNAMENT;27:DOUBLE ORNAMENT",
    "10:TURNED SWIRL BIRGA WITH DOUBLE ORNAMENT;;;;;;;;;;;;;;;;;;;;TAKRI LETTER A;14:A;13:I;14:I",
    "13:U;14:U;13:E;13:AI;13:O;13:AU;13:KA;14:HA;13:GA;14:HA;13:NGA;13:CA;14:HA;13:JA;14:HA",
    "13:NYA;13:TTA;15:HA;13:DDA;15:HA;13:NNA;13:TA;14:HA;13:DA;14:HA;13:NA;13:PA;14:HA;13:BA",
    "14:HA;13:MA;13:YA;13:RA;13:LA;13:VA;13:SHA;14:A;13:HA;13:RRA;6:SIGN ANUSVARA;11:VISARGA",
    "6:VOWEL SIGN AA;17:I;18:I;17:U;18:U;17:E;17:AI;17:O;17:AU;6:SIGN VIRAMA;11:NUKTA",
    "6:LETTER ARCHAIC KHA;6:ABBREVIATION SIGN;;;;;;;TAKRI DIGIT ZERO;12:ONE;12:TWO;13:HREE",
    "12:FOUR;13:IVE;12:SIX;13:EVEN;12:EIGHT;12:NINE;;;;;;;;;;;;;;;;;;;;;;;;;;;;;;;;;;;;;;;;;;;;;;",
    ";;;;;;;;AHOM LETTER KA;13:HA;12:NGA;13:A;12:TA;12:ALTERNATE TA;12:PA;13:HA;12:BA;12:MA;12:JA",
    "12:CHA;12:THA;12:RA;12:LA;12:SA;12:NYA;12:HA;12:A;12:DA;13:HA;12:GA;12:ALTERNATE GA;12:GHA",
    "12:BHA;12:JHA;12:ALTERNATE BA;;;AHOM CONSONANT SIGN MEDIAL LA;27:RA;27:LIGATING RA",
    "5:VOWEL SIGN A;17:A;16:I;17:I;16:U;17:U;16:E;16:AW;16:O;16:AI;17:M;5:SIGN KILLER;;;;",
    "AHOM DIGIT ZERO;11:ONE;11:TWO;12:HREE;11:FOUR;12:IVE;11:SIX;12:EVEN;11:EIGHT;11:NINE",
    "5:NUMBER TEN;13:WENTY;5:SIGN SMALL SECTION;11:ECTION;10:RULAI;6:YMBOL VI;5:LETTER CA;12:TTA",
    "14:HA;12:DDA;14:HA;12:NNA;12:LLA"]),
  (0x11800, [
    "DOGRA LETTER A;14:A;13:I;14:I;13:U;14:U;13:E;13:AI;13:O;13:AU;13:KA;14:HA;13:GA;14:HA;13:NGA",
    "13:CA;14:HA;13:JA;14:HA;13:NYA;13:TTA;15:HA;13:DDA;15:HA;13:NNA;13:TA;14:HA;13:DA;14:HA",
    "13:NA;13:PA;14:HA;13:BA;14:HA;13:MA;13:YA;13:RA;13:LA;13:VA;13:SHA;14:SA;14:A;13:HA;13:RRA",
    "6:VOWEL SIGN AA;17:I;18:I;17:U;18:U;17:VOCALIC R;26:R;17:E;17:AI;17:O;17:AU;6:SIGN ANUSVARA",
    "11:VISARGA;13:RAMA;11:NUKTA;6:ABBREVIATION SIGN"]),
  (0x118A0, [
    "WARANG CITI CAPITAL LETTER NGAA;27:A;27:WI;27:YU;28:A;28:O;27:II;27:UU;27:E;27:O;27:ANG",
    "27:GA;27:KO;27:ENY;27:YUJ;27:UC;27:ENN;27:ODD;27:TTE;27:NUNG;27:DA;27:AT;28:M;27:BU;27:PU",
    "27:HIYO;28:OLO;29:RR;28:AR;27:SSUU;28:II;27:VIYO;12:SMALL LETTER NGAA;25:A;25:WI;25:YU;26:A",
    "26:O;25:II;25:UU;25:E;25:O;25:ANG;25:GA;25:KO;25:ENY;25:YUJ;25:UC;25:ENN;25:ODD;25:TTE",
    "25:NUNG;25:DA;25:AT;26:M;25:BU;25:PU;25:HIYO;26:OLO;27:RR;26:AR;25:SSUU;26:II;25:VIYO",
    "12:DIGIT ZERO;18:ONE;18:TWO;19:HREE;18:FOUR;19:IVE;18:SIX;19:EVEN;18:EIGHT;18:NINE",
    "12:NUMBER TEN;20:WENTY;20:HIRTY;19:FORTY;20:IFTY;19:SIXTY;20:EVENTY;19:EIGHTY;19:NINETY;;;;;",
    ";;;;;;;WARANG CITI OM;DIVES AKURU LETTER A;20:A;19:I;20:I;19:U;20:U;19:E;;",
    "DIVES AKURU LETTER O;;;DIVES AKURU LETTER KA;20:HA;19:GA;20:HA;19:NGA;19:CA;20:HA;19:JA;",
    "DIVES AKURU LETTER NYA;19:TTA;;DIVES AKURU LETTER DDA;21:HA;19:NNA;19:TA;20:HA;19:DA;20:HA",
    "19:NA;19:PA;20:HA;19:BA;20:HA;19:MA;19:YA;20:YA;19:RA;19:LA;19:VA;19:SHA;20:SA;20:A;19:HA",
    "19:LLA;19:ZA;12:VOWEL SIGN AA;23:I;24:I;23:U;24:U;23:E;;DIVES AKURU VOWEL SIGN AI;23:O;;",
    "DIVES AKURU SIGN ANUSVARA;17:CANDRABINDU;17:HALANTA;12:VIRAMA;12:PREFIXED NASAL SIGN",
    "12:MEDIAL YA;12:INITIAL RA;12:MEDIAL RA;12:SIGN NUKTA;12:DOUBLE DANDA;12:GAP FILLER",
    "12:END OF TEXT MARK;;;;;;;;;;DIVES AKURU DIGIT ZERO;18:ONE;18:TWO;19:HREE;18:FOUR;19:IVE",
    "18:SIX;19:EVEN;18:EIGHT;18:NINE"]),
  (0x119A0, [
    "NANDINAGARI LETTER A;20:A;19:I;20:I;19:U;20:U;19:VOCALIC R;28:R;;;NANDINAGARI LETTER E;19:AI",
    "19:O;19:AU;19:KA;20:HA;19:GA;20:HA;19:NGA;19:CA;20:HA;19:JA;20:HA;19:NYA;19:TTA;21:HA;19:DDA",
    "21:HA;19:NNA;19:TA;20:HA;19:DA;20:HA;19:NA;19:PA;20:HA;19:BA;20:HA;19:MA;19:YA;19:RA;19:LA",
    "19:VA;19:SHA;20:SA;20:A;19:HA;19:LLA;19:RRA;12:VOWEL SIGN AA;23:I;24:I;23:U;24:U",
    "23:VOCALIC R;32:R;;;NANDINAGARI VOWEL SIGN E;23:AI;23:O;23:AU;12:SIGN ANUSVARA;17:VISARGA",
    "19:RAMA;17:AVAGRAHA;17:SIDDHAM;12:HEADSTROKE;12:VOWEL SIGN PRISHTHAMATRA E;;;;;;;;;;;;;;;;;;",
    ";;;;;;;;;ZANABAZAR SQUARE LETTER A;17:VOWEL SIGN I;28:UE;29:;28:E;28:OE;29:;28:AI;29:U",
    "28:REVERSED I;23:LENGTH MARK;17:LETTER KA;25:HA;24:GA;25:HA;24:NGA;24:CA;25:HA;24:JA;24:NYA",
    "24:TTA;26:HA;24:DDA;26:HA;24:NNA;24:TA;25:HA;24:DA;25:HA;24:NA;24:PA;25:HA;24:BA;25:HA;24:MA",
    "24:TSA;26:HA;24:DZA;26:HA;24:ZHA;25:A;24:-A;24:YA;24:RA;24:LA;24:VA;24:SHA;25:SA;25:A;24:HA",
    "24:KSSA;17:FINAL CONSONANT MARK;17:SIGN VIRAMA;22:CANDRABINDU;33: WITH ORNAMENT",
    "28: WITH ORNAMENT;22:ANUSVARA;22:VISARGA;17:CLUSTER-INITIAL LETTER RA;25:FINAL LETTER YA",
    "38:RA;38:LA;38:VA;17:INITIAL HEAD MARK;17:CLOSING HEAD MARK;17:MARK TSHEG;22:SHAD",
    "22:DOUBLE SHAD;22:LONG TSHEG;17:INITIAL DOUBLE-LINED HEAD MARK",
    "17:CLOSING DOUBLE-LINED HEAD MARK;17:SUBJOINER;;;;;;;;;SOYOMBO LETTER A;8:VOWEL SIGN I;19:UE",
    "20:;19:E;19:O;20:E;19:AI;20:U;19:VOCALIC R;27:L;14:LENGTH MARK;8:LETTER KA;16:HA;15:GA;16:HA",
    "15:NGA;15:CA;16:HA;15:JA;16:HA;15:NYA;15:TTA;17:HA;15:DDA;17:HA;15:NNA;15:TA;16:HA;15:DA",
    "16:HA;15:NA;15:PA;16:HA;15:BA;16:HA;15:MA;15:TSA;17:HA;15:DZA;15:ZHA;16:A;15:-A;15:YA;15:RA",
    "15:LA;15:VA;15:SHA;16:SA;16:A;15:HA;15:KSSA;8:SIGN JIHVAMULIYA;13:UPADHMANIYA",
    "8:CLUSTER-INITIAL LETTER RA;31:LA;31:SHA;32:A;8:FINAL CONSONANT SIGN G;29:K;29:NG;29:D;29:N",
    "29:B;29:M;29:R;29:L;29:SH;30:;29:-A;8:SIGN ANUSVARA;13:VISARGA;8:GEMINATION MARK;8:SUBJOINER",
    "8:MARK TSHEG;13:SHAD;13:DOUBLE SHAD;13:PLUTA;8:HEAD MARK WITH MOON AND SUN AND TRIPLE FLAME",
    "40:FLAME;35:;8:TERMINAL MARK-1;22:2;;;;;;;;;;;;;;CANADIAN SYLLABICS NATTILIK HI;30:I;29:O",
    "30:O;29:A;30:A;28:SHRI;32:I;31:O;32:O;31:A;32:A;19:SPE;21:I;21:O;21:A;PAU CIN HAU LETTER PA",
    "19:KA;19:LA;19:MA;19:DA;19:ZA;19:VA;19:NGA;19:HA;19:GA;19:KHA;19:SA;19:BA;19:CA;19:TA;20:HA",
    "19:NA;19:PHA;19:RA;19:FA;19:CHA;19:A;19:E;19:I;19:O;19:U;20:A;19:IA;19:FINAL P;25:K;25:T",
    "25:M;25:N;25:L;25:W;25:NG;25:Y;12:RISING TONE LONG;23:;12:SANDHI GLOTTAL STOP",
    "12:RISING TONE LONG FINAL;24:FINAL;12:SANDHI GLOTTAL STOP FINAL;19:TONE LONG;23:",
    "23: LONG FINAL;24:FINAL;12:MID-LEVEL TONE;12:GLOTTAL STOP VARIANT",
    "12:MID-LEVEL TONE LONG FINAL;27:FINAL;12:LOW-FALLING TONE LONG;28:;12:GLOTTAL STOP",
    "12:LOW-FALLING TONE LONG FINAL;29:FINAL;12:GLOTTAL STOP FINAL;;;;;;;;DEVANAGARI HEAD MARK",
    "20: WITH HEADSTROKE;11:SIGN BHALE;21: WITH HOOK;16:EXTENDED BHALE;30: WITH HOOK",
    "16:WESTERN FIVE-LIKE BHALE;24:NINE-LIKE BHALE;16:REVERSED NINE-LIKE BHALE;16:MINDU"]),
  (0x11C00, [
    "BHAIKSUKI LETTER A;18:A;17:I;18:I;17:U;18:U;17:VOCALIC R;26:R;25:L;;BHAIKSUKI LETTER E;17:AI",
    "17:O;17:AU;17:KA;18:HA;17:GA;18:HA;17:NGA;17:CA;18:HA;17:JA;18:HA;17:NYA;17:TTA;19:HA;17:DDA",
    "19:HA;17:NNA;17:TA;18:HA;17:DA;18:HA;17:NA;17:PA;18:HA;17:BA;18:HA;17:MA;17:YA;17:RA;17:LA",
    "17:VA;17:SHA;18:SA;18:A;17:HA;10:VOWEL SIGN AA;21:I;22:I;21:U;22:U;21:VOCALIC R;30:R;29:L;",
    "BHAIKSUKI VOWEL SIGN E;21:AI;21:O;21:AU;10:SIGN CANDRABINDU;15:ANUSVARA;15:VISARGA;17:RAMA",
    "15:AVAGRAHA;10:DANDA;11:OUBLE DANDA;10:WORD SEPARATOR;10:GAP FILLER-1;21:2;;;;;;;;;;",
    "BHAIKSUKI DIGIT ZERO;16:ONE;16:TWO;17:HREE;16:FOUR;17:IVE;16:SIX;17:EVEN;16:EIGHT;16:NINE",
    "10:NUMBER ONE;17:TWO;18:HREE;17:FOUR;18:IVE;17:SIX;18:EVEN;17:EIGHT;17:NINE;17:TEN;18:WENTY",
    "18:HIRTY;17:FORTY;18:IFTY;17:SIXTY;18:EVENTY;17:EIGHTY;17:NINETY;10:HUNDREDS UNIT MARK;;;",
    "MARCHEN HEAD MARK;8:MARK SHAD;8:LETTER KA;16:HA;15:GA;15:NGA;15:CA;16:HA;15:JA;15:NYA;15:TA",
    "16:HA;15:DA;15:NA;15:PA;16:HA;15:BA;15:MA;15:TSA;17:HA;15:DZA;15:WA;15:ZHA;16:A;15:-A;15:YA",
    "15:RA;15:LA;15:SHA;16:A;15:HA;15:A;;;MARCHEN SUBJOINED LETTER KA;26:HA;25:GA;25:NGA;25:CA",
    "26:HA;25:JA;25:NYA;25:TA;26:HA;25:DA;25:NA;25:PA;26:HA;25:BA;25:MA;25:TSA;27:HA;25:DZA;25:WA",
    "25:ZHA;26:A;;MARCHEN SUBJOINED LETTER YA;25:RA;25:LA;25:SHA;26:A;25:HA;25:A;8:VOWEL SIGN AA",
    "19:I;19:U;19:E;19:O;8:SIGN ANUSVARA;13:CANDRABINDU"]),
  (0x11D00, [
    "MASARAM GONDI LETTER A;22:A;21:I;22:I;21:U;22:U;21:E;;MASARAM GONDI LETTER AI;21:O;",
    "MASARAM GONDI LETTER AU;21:KA;22:HA;21:GA;22:HA;21:NGA;21:CA;22:HA;21:JA;22:HA;21:NYA;21:TTA",
    "23:HA;21:DDA;23:HA;21:NNA;21:TA;22:HA;21:DA;22:HA;21:NA;21:PA;22:HA;21:BA;22:HA;21:MA;21:YA",
    "21:RA;21:LA;21:VA;21:SHA;22:SA;22:A;21:HA;21:LLA;21:KSSA;21:JNYA;21:TRA;14:VOWEL SIGN AA",
    "25:I;26:I;25:U;26:U;25:VOCALIC R;;;;MASARAM GONDI VOWEL SIGN E;;MASARAM GONDI VOWEL SIGN AI",
    "25:O;;MASARAM GONDI VOWEL SIGN AU;14:SIGN ANUSVARA;19:VISARGA;19:NUKTA;19:CANDRA;19:HALANTA",
    "14:VIRAMA;14:REPHA;15:A-KARA;;;;;;;;;MASARAM GONDI DIGIT ZERO;20:ONE;20:TWO;21:HREE;20:FOUR",
    "21:IVE;20:SIX;21:EVEN;20:EIGHT;20:NINE;;;;;;;GUNJALA GONDI LETTER A;22:A;21:I;22:I;21:U;22:U",
    ";GUNJALA GONDI LETTER EE;21:AI;;GUNJALA GONDI LETTER OO;21:AU;21:YA;21:VA;21:BA;22:HA;21:MA",
    "21:KA;22:HA;21:TA;22:HA;21:LA;21:GA;22:HA;21:DA;22:HA;21:NA;21:CA;22:HA;21:TTA;23:HA;21:LLA",
    "21:JA;22:HA;21:DDA;23:HA;21:NGA;21:PA;22:HA;21:HA;21:RA;21:SA;14:VOWEL SIGN AA;25:I;26:I",
    "25:U;26:U;;GUNJALA GONDI VOWEL SIGN EE;25:AI;;GUNJALA GONDI VOWEL SIGN OO;25:AU",
    "14:SIGN ANUSVARA;19:VISARGA;14:VIRAMA;14:OM;;;;;;;;GUNJALA GONDI DIGIT ZERO;20:ONE;20:TWO",
    "21:HREE;20:FOUR;21:IVE;20:SIX;21:EVEN;20:EIGHT;20:NINE"]),
  (0x11EE0, [
    "MAKASAR LETTER KA;15:GA;15:NGA;15:PA;15:BA;15:MA;15:TA;15:DA;15:NA;15:CA;15:JA;15:NYA;15:YA",
    "15:RA;15:LA;15:VA;15:SA;15:A;8:ANGKA;8:VOWEL SIGN I;19:U;19:E;19:O;8:PASSIMBANG",
    "8:END OF SECTION;;;;;;;;KAWI SIGN CANDRABINDU;10:ANUSVARA;10:REPHA;10:VISARGA;5:LETTER A",
    "13:A;12:I;13:I;12:U;13:U;12:VOCALIC R;21:R;20:L;21:L;12:E;12:AI;12:O;;KAWI LETTER KA;13:HA",
    "12:GA;13:HA;12:NGA;12:CA;13:HA;12:JA;13:HA;12:NYA;12:TTA;14:HA;12:DDA;14:HA;12:NNA;12:TA",
    "13:HA;12:DA;13:HA;12:NA;12:PA;13:HA;12:BA;13:HA;12:MA;12:YA;12:RA;12:LA;12:WA;12:SHA;13:SA",
    "13:A;12:HA;12:JNYA;5:VOWEL SIGN AA;17:LTERNATE AA;16:I;17:I;16:U;17:U;16:VOCALIC R;;;",
    "KAWI VOWEL SIGN E;16:AI;16:EU;5:SIGN KILLER;5:CONJOINER;5:DANDA;6:OUBLE DANDA",
    "5:PUNCTUATION SECTION MARKER;17:ALTERNATE SECTION MARKER;17:FLOWER;17:SPACE FILLER;17:DOT",
    "19:UBLE DOT;17:TRIPLE DOT;17:CIRCLE;17:FILLED CIRCLE;17:SPIRAL;17:CLOSING SPIRAL",
    "5:DIGIT ZERO;11:ONE;11:TWO;12:HREE;11:FOUR;12:IVE;11:SIX;12:EVEN;11:EIGHT;11:NINE"]),
  (0x11FB0, [
    "LISU LETTER YHA;;;;;;;;;;;;;;;;TAMIL FRACTION ONE THREE-HUNDRED-AND-TWENTIETH",
    "19:ONE-HUNDRED-AND-SIXTIETH;19:EIGHTIETH;19:SIXTY-FOURTH;19:FORTIETH;19:THIRTY-SECOND",
    "15:THREE EIGHTIETHS;21:SIXTY-FOURTHS;15:ONE TWENTIETH;19:SIXTEENTH-1;29:2;19:TENTH;19:EIGHTH",
    "15:THREE TWENTIETHS;21:SIXTEENTHS;15:ONE FIFTH;19:QUARTER;19:HALF-1;24:2;15:THREE QUARTERS",
    "15:DOWNSCALING FACTOR KIIZH;6:SIGN NEL;11:CEVITU;11:AAZHAAKKU;11:UZHAKKU;11:MUUVUZHAKKU",
    "11:KURUNI;11:PATHAKKU;11:MUKKURUNI;11:KAACU;11:PANAM;12:ON;11:VARAAKAN;11:PAARAM;11:KUZHI",
    "11:VELI;6:WET CULTIVATION SIGN;6:DRY CULTIVATION SIGN;6:LAND SIGN;6:SALT PAN SIGN",
    "6:TRADITIONAL CREDIT SIGN;18:NUMBER SIGN;6:CURRENT SIGN;6:AND ODD SIGN;6:SPENT SIGN",
    "6:TOTAL SIGN;6:IN POSSESSION SIGN;6:STARTING FROM SIGN;7:IGN MUTHALIYA;11:VAKAIYARAA;;;;;;;;",
    ";;;;;TAMIL PUNCTUATION END OF TEXT;CUNEIFORM SIGN A;16: TIMES A;23:BAD;23:GAN2 TENU;23:HA",
    "23:IGI;23:LAGAR GUNU;23:MUSH;23:SAG;16:2;16:B;17: TIMES ASH2;24:DUN3 GUNU;24:GAL;26:N2 TENU",
    "24:HA;24:IGI GUNU;25:MIN;24:LAGAB;24:SHESH;24:U PLUS U PLUS U;18:GUNU;17:2;18: TIMES BALAG",
    "25:GAN2 TENU;25:ME PLUS EN;25:SHA3;25:TAK4;16:D;16:K;17: TIMES ERIN2;24:SHITA PLUS GISH;16:L",
    "17: TIMES AL;24:DIM2;24:GISH;24:HA;24:KAD3;25:I;24:SHE;24:USH;17:AN;17:EPH;16:MAR",
    "19: TIMES SHE;16:N;17: OVER AN;18:THREE TIMES;18:PLUS NAGA OPPOSING AN PLUS NAGA;28:SQUARED",
    "17:SHE;16:PIN;16:RAD;19: TIMES KUR;17:KAB;16:SAL2;17:H;18: ZIDA TENU;19:KABA TENU",
    "19:OVER ASH TUG2 OVER TUG2 TUG2 OVER TUG2 PAP;28:OVER ASH;36: CROSSING ASH OVER ASH OVER ASH",
    "18:2;18:GAB;15:BA;17:D;17:G3;17:HAR2;17:L;18: OVER BAL;18:AG;17:R;18:A2;16:I;17: TIMES A",
    "24:GAR;24:IGI GUNU;16:U;17: OVER BU AB;26:UN;18:CROSSING BU;17:LUG;20: OVER BULUG;17:R;18:2",
    "15:DA;17:G;18: KISIM5 TIMES A PLUS MASH;33:MAR;32:BALAG;33:I;32:GA;34: PLUS MASH;33:I;34:R2",
    "33:UD;32:HA;32:IR;34: PLUS LU;32:KAK;32:LA;33:U;34: PLUS MASH2;34:M;32:NE;32:PAP PLUS PAP",
    "32:SI;32:TAK4;32:U2 PLUS GIR2;33:SH;17:M;17:R;18:A3;19:4;16:I;17:B;17:M;18: TIMES SHE;18:2",
    "17:N;18: KASKAL U GUNU DISH;17:SH;16:U;17: OVER DU;18:GUNU;18:SHESHIG;17:B;18: TIMES ESH2",
    "18:2;17:G;18:UD;17:H;17:N;18:3;19: GUNU;24: GUNU;18:4;17:R2;15:E;16: TIMES PAP",
    "17:OVER E NUN OVER NUN;16:2;17: TIMES A PLUS HA PLUS DA;24:GAR;24:MI;24:SAL;25:HE;24:U",
    "16:DIN;16:GIR;16:L;16:N;17: TIMES GAN2;28: TENU;24:ME;18:CROSSING EN;18:OPPOSING EN",
    "18:SQUARED;16:REN;17:IN2;16:SH2;16:ZEN;19: TIMES A;27: PLUS LAL;36: TIMES LAL;27:N;26:BAD",
    "26:DUN3 GUNU;35: GUNU;26:HA;28: GUNU;26:IGI GUNU;26:KASKAL;32: SQUARED;27:U3;26:LA",
    "28:L TIMES LAL;27:I;27:U;26:U2;27:D;15:GA;17: GUNU;17:2;18: TIMES A PLUS DA PLUS HA;32:HA",
    "32:IGI;26:B2 TENU PLUS TAB;26:N;26:SH;28:2 PLUS GAL;25:BAD;27:R PLUS RA;26:UR;28: PLUS RA",
    "25:DA;26:I;27:M TIMES SHE;26:UB;25:EL;27: PLUS LA;26:N;27: TIMES GAN2 TENU;25:GAN2 TENU;27:R",
    "26:I;27:4;28: PLUS A;27:R2 PLUS SU;25:HA PLUS LU PLUS ESH2;27:L;28: PLUS LA;26:I PLUS LI",
    "26:UB2;25:IGI GUNU;26:SH PLUS HU PLUS ASH;25:KAK;27:SKAL;26:ID;28: PLUS LAL;26:U3 PLUS AN",
    "25:LA;25:ME PLUS EN;26:I;25:NUN;28: OVER NUN;25:PA;25:SAL;27:R;26:HE;28: PLUS TUR;27:ID",
    "26:UM;25:TAK4;25:U;26:D;27: PLUS DU;19:OVER GA2;17:BA;19: CROSSING GABA;17:D",
    "18: OVER GAD GAR OVER GAR;17:L;18: GAD OVER GAD GAR OVER GAR;18:AM;17:M;17:N;18:2;19: TENU",
    "20:OVER GAN2;20:CROSSING GAN2;17:R;18:3;17:SHAN;16:ESHTIN;22: TIMES KUR;16:I;17: TIMES E",
    "24:U;18:CROSSING GI;17:4;18: OVER GI4;19:CROSSING GI4;17:DIM;17:R2;19: GUNU;18:3",
    "19: TIMES A PLUS IGI;26:GAN2 TENU;26:IGI;26:LU PLUS IGI;26:PA;17:SAL;18:H;19: CROSSING GISH",
    "20:TIMES BAD;26:TAK4;21:ENU;16:U;17: CROSSING GU;17:2;18: TIMES KAK;28: TIMES IGI GUNU",
    "25:NUN;25:SAL PLUS TUG2;19:GUNU;17:D;18: TIMES A PLUS KUR;25:KUR;19:OVER GUD LUGAL;17:L;17:M",
    "18: TIMES SHE;17:R;18:7;18:UN;19:SH;15:HA;17: TENU;18:GUNU;17:L;16:I;17: TIMES ASH;27:2",
    "24:BAD;24:DISH;24:GAD;24:KIN;24:NUN;24:SHE;24:U;16:U;17:B2;19: TIMES AN;26:HAL;26:KASKAL",
    "26:LISH;26:UD;17:L2;15:I;16: A;16:B;16:DIM;19: OVER IDIM BUR;30:SQUARED;16:G;17:I;18: DIB",
    "19:RI;19:OVER IGI SHIR OVER SHIR UD OVER UD;19:GUNU;16:L;17: TIMES GAN2 TENU;17:2;16:M",
    "17: TIMES TAK4;18:CROSSING IM;18:OPPOSING IM;18:SQUARED;17:IN;16:N;16:R;16:SH;15:KA",
    "17: TIMES A;25:D;26: PLUS KU3;25:SH2;24:BAD;26:LAG;26:R;25:I;24:ERIN2;25:SH2;24:GA;26:L",
    "26:N2 TENU;26:R;27: PLUS SHA3 PLUS A;25:I;26:R2;26:SH PLUS SAR;29:CROSSING GISH;25:U;26:R7",
    "24:IGI;25:M;24:KAK;25:I;26:D;24:LI;25:U;24:ME;26: PLUS DU;32:GI;32:TE;25:I;26: PLUS NUNUZ",
    "24:NE;25:UN;24:PI;24:RU;24:SA;26:R;25:HA;26:E;26:ID;26:U;25:IG;25:UHUR;24:TAR;24:U;25:2;25:D",
    "25:MUM TIMES PA;25:SH;24:ZI;17:2;18: CROSSING KA2;17:B;17:D2;18:3;18:4;18:5;19: OVER KAD5",
    "17:K;18: TIMES IGI GUNU;17:L;18: TIMES BAD;19:CROSSING KAL;17:M2;18:4;17:SKAL",
    "21: LAGAB TIMES U OVER LAGAB TIMES U;22:OVER KASKAL LAGAB TIMES U OVER LAGAB TIMES U;16:ESH2",
    "16:I;17: TIMES BAD;24:U;25:D;17:D;17:N;17:SAL;18:H;18:IM5;21: OVER KISIM5;16:U",
    "17: OVER HI TIMES ASH2 KU OVER HI TIMES ASH2;17:3;17:4;18: VARIANT FORM;17:7;17:L;18: GUNU",
    "17:N;17:R;18: OPPOSING KUR;17:SHU2;16:WU318;15:LA;17:GAB;20: TIMES A;28: PLUS DA PLUS HA",
    "34:GAR;34:LAL;28:L;28:N;28:SH ZIDA TENU;27:BAD;28:I;27:DAR;27:EN;27:GA;29:R;28:UD",
    "30: PLUS GUD;27:HA;29:L;28:I TIMES NUN;27:IGI GUNU;28:M;29: PLUS HA;35:LU;27:KI;29:N;28:U3",
    "29:L;30: PLUS HI PLUS A;27:LAGAB;28:ISH;28:U;29:L;27:ME;29: PLUS EN;28:USH;27:NE",
    "27:SHE PLUS SUM;29:ITA PLUS GISH PLUS ERIN2;43:TENU;29:U2;31: PLUS SHU2;28:UM;27:TAG;29:K4",
    "28:E PLUS A PLUS SU PLUS NA;27:U;28: PLUS A;34:U PLUS U;28:2 PLUS ASH;28:D;28:SH;21:SQUARED",
    "19:R;20: TIMES SHE;30: PLUS SUM;21:GUNU;25: OVER LAGAR GUNU SHE;17:HSHU;17:L;18: TIMES LAL",
    "17:M;18: TIMES KUR;28: PLUS RU;16:I;17:L;17:MMU2;17:SH;16:U;17: TIMES BAD;17:2;18: TIMES AL",
    "25:BAD;25:ESH2;29: TENU;25:GAN2 TENU;25:HI TIMES BAD;25:IM;25:KAD2;28:3;29: PLUS ASH;26:I",
    "25:LA PLUS ASH;27:GAB;25:ME PLUS EN;25:NE;26:U;25:SI PLUS ASH;27:K2 PLUS BU;25:TUG2;20:ENU",
    "19:CROSSING LU2;19:OPPOSING LU2;19:SQUARED;20:HESHIG;17:3;17:GAL;20: OVER LUGAL",
    "22:PPOSING LUGAL;21:SHESHIG;17:H;17:L;17:M;18: OVER LUM;27: GAR OVER GAR;15:MA",
    "17: TIMES TAK4;18:GUNU;17:2;17:H;17:R;17:SH;19:2;16:E;17:S;16:I;17:N;16:U;17: OVER MU;17:G",
    "18: GUNU;17:NSUB;17:RGU2;17:SH;19: TIMES A;26:KUR;26:ZA;20:OVER MUSH;29: TIMES A PLUS NA",
    "20:CROSSING MUSH;19:3;20: TIMES A;28: PLUS DI;27:DI;21:GUNU;15:NA;17:2;17:GA;19: INVERTED",
    "20:TIMES SHU TENU;20:OPPOSING NAGA;19:R;17:M NUTILLU;18:;18:2;16:E;17: TIMES A;24:UD",
    "18:SHESHIG;16:I;17: TIMES E;17:2;17:M;18: TIMES GAN2 TENU;27:R PLUS GAN2 TENU;17:NDA2",
    "21: TIMES AN;29:SH;31: PLUS ASH;28:GUD;28:ME PLUS GAN2 TENU;28:NE;29:UN;28:SHE;31: PLUS A AN",
    "38:SH;40: PLUS ASH;28:U2 PLUS ASH;29:SH;17:SAG;16:U;17:11;17:N;18: LAGAR TIMES GAR;31:MASH",
    "31:SAL;34: OVER NUN LAGAR TIMES SAL;31:USH;19:TENU;19:OVER NUN;19:CROSSING NUN",
    "31: LAGAR OVER LAGAR;18:UZ;20: AB2 TIMES ASHGAB;31:BI;31:DUG;31:GUD;31:IGI GUNU;31:KAD3",
    "31:LA;31:NE;31:SILA3;31:U2;21:KISIM5 TIMES BI;36: U;15:PA;17:D;17:N;17:P;16:ESH2;16:I",
    "17: TIMES A;25:B;24:BI;25:U;24:E;24:I;25:B;24:U;25:2;18:CROSSING PI;17:RIG;20: TIMES KAL",
    "27:UD;27:ZA;21:OPPOSING PIRIG;15:RA;17:B;16:I;16:U;15:SA;17:G NUTILLU;18:;18: TIMES A;25:DU",
    "27:B;25:HA;25:KAK;26:UR;25:LUM;25:MI;25:NUN;25:SAL;26:HID;25:TAB;25:U2;26:B;26:M;26:R;26:SH",
    "19:OVER SAG;19:GUNU;17:L;18: LAGAB TIMES ASH2;17:NGA2;17:R;16:HA;18:3;19: TIMES A;26:BAD",
    "26:GISH;26:NE;26:SHU2;26:TUR;26:U;27: PLUS A;18:6;18:B6;18:R2;17:E;18: HU",
    "19:OVER SHE GAD OVER GAD GAR OVER GAR;28:TAB OVER TAB GAR OVER GAR;18:G9;18:N;18:SH;20:2",
    "20:LAM;17:ID;19: TIMES A;26:IM;18:M;19: TIMES A;26:BAL;27:ULUG;26:DIN;26:GAR;26:IGI;29: GUNU",
    "26:KUSHU2;26:LUL;26:MUG;26:SAL;18:NIG;18:R;19: TENU;20:OVER SHIR BUR OVER BUR;18:TA;17:U",
    "18: OVER INVERTED SHU;18:2;18:BUR;16:I;17: GUNU;17:G;18:4;19: OVER SIG4 SHU2;17:K2;17:LA3",
    "16:U;17: OVER SU;17:D;18:2;17:HUR;17:M;18:ASH;17:R;18:9;15:TA;17: ASTERISK;18:TIMES HI;24:MI",
    "18:GUNU;17:B;18: OVER TAB NI OVER NI DISH OVER DISH;19:SQUARED;17:G;18: TIMES BI;25:GUD",
    "25:SHE;27:U;25:TUG2;25:UD;17:K4;17:R;16:E;17: GUNU;16:I;17: TENU;17:L;17:R;18: TIMES TAK4",
    "19:OVER TIR;27: GAD OVER GAD GAR OVER GAR;16:U;17:G2;17:K;17:M;17:R;18: OVER TUR ZA OVER ZA",
    "15:U;16: GUD;17:U U;17:OVER U PA OVER PA GAR OVER GAR;24:SUR OVER SUR",
    "24:U REVERSED OVER U REVERSED;16:2;16:B;16:D;17: KUSHU2;18:TIMES BAD;24:MI",
    "24:U PLUS U PLUS U;39: GUNU;18:GUNU;18:SHESHIG;25: TIMES BAD;17:UG;16:M;17: TIMES LAGAB",
    "24:ME PLUS DA;24:SHA3;24:U;17:BIN;17:UM;19: TIMES KASKAL;26:PA"]),
  (0x12326, [
    "CUNEIFORM SIGN UN;17: GUNU;16:R;17: CROSSING UR;18:SHESHIG;17:2;18: TIMES A PLUS HA;32:NA",
    "26:L;25:HA;25:NUN;25:U2;27: PLUS ASH;33:BI;17:4;17:I;18:3;17:U;18: TIMES A;26:SHGAB;25:BAR",
    "25:DUN;25:GA;27:L;27:N2 TENU;27:R;26:U;25:HA;25:IGI;26:M;26:SH;25:KI;25:LUM;25:MIN;25:PA",
    "25:SHE;26:IG4;25:TU;25:U PLUS GUD;26:D;26:RUDA;18:DA;20: TIMES U;16:SH;18: TIMES A;25:KU",
    "27:R;25:TAK4;18:X;18:2;18:UMX;16:TUKI;16:Z3;18: TIMES KASKAL;17:U;15:ZA;17: TENU",
    "18:SQUARED TIMES KUR;17:G;17:MX;16:E2;16:I;17: OVER ZI;17:3;17:B;18: KABA TENU;17:G;17:Z2",
    "16:U;17:5;18: TIMES A;17:BUR;17:M;15:KAP ELAMITE;15:AB TIMES NUN;17:2 TIMES A",
    "16:MAR TIMES KUG;15:DAG KISIM5 TIMES U2 PLUS MASH;18:3;16:ISH PLUS SHU;16:UB TIMES SHE",
    "15:EZEN TIMES GUD;26:SHE;15:GA2 TIMES AN PLUS KAK PLUS A;26:SH2;16:E22;16:IG;15:HUSH",
    "15:KA TIMES ANSHE;25:SH3;24:GISH;25:UD;24:HI TIMES ASH2;24:LUM;24:PA;24:SHUL;24:TU;24:UR2",
    "15:LAGAB TIMES GI;16:U2 SHESHIG TIMES BAD;19:TIMES ESH2 PLUS LAL;25:SHU;15:MESH",
    "16:USH3 TIMES ZA;15:NA4;16:IN;18:9;18:DA2 TIMES BAL;28:GI;16:U11 ROTATED NINETY DEGREES",
    "15:PESH2 ASTERISK;16:IR2;15:SAG TIMES IGI GUNU;15:TI2;15:UM TIMES ME;16: U"]),
  (0x12400, [
    "CUNEIFORM NUMERIC SIGN TWO ASH;24:HREE ASH;23:FOUR ASH;24:IVE ASH;23:SIX ASH;24:EVEN ASH",
    "23:EIGHT ASH;23:NINE ASH;23:THREE DISH;23:FOUR DISH;24:IVE DISH;23:SIX DISH;24:EVEN DISH",
    "23:EIGHT DISH;23:NINE DISH;23:FOUR U;24:IVE U;23:SIX U;24:EVEN U;23:EIGHT U;23:NINE U",
    "23:ONE GESH2;23:TWO GESH2;24:HREE GESH2;23:FOUR GESH2;24:IVE GESH2;23:SIX GESH2",
    "24:EVEN GESH2;23:EIGHT GESH2;23:NINE GESH2;23:ONE GESHU;23:TWO GESHU;24:HREE GESHU",
    "23:FOUR GESHU;24:IVE GESHU;23:TWO SHAR2;24:HREE SHAR2;34: VARIANT FORM;23:FOUR SHAR2",
    "24:IVE SHAR2;23:SIX SHAR2;24:EVEN SHAR2;23:EIGHT SHAR2;23:NINE SHAR2;23:ONE SHARU",
    "23:TWO SHARU;24:HREE SHARU;34: VARIANT FORM;23:FOUR SHARU;24:IVE SHARU",
    "23:SHAR2 TIMES GAL PLUS DISH;44:MIN;23:ONE BURU;23:TWO BURU;24:HREE BURU;33: VARIANT FORM",
    "23:FOUR BURU;24:IVE BURU;23:THREE VARIANT FORM ESH16;45:21;23:FOUR VARIANT FORM LIMMU;46:4",
    "46: A;47:B;23:SIX VARIANT FORM ASH9;24:EVEN VARIANT FORM IMIN3;46: A;47:B",
    "23:EIGHT VARIANT FORM USSU;46:3;23:NINE VARIANT FORM ILIMMU;47:3;47:4;47: A;23:TWO ASH TENU",
    "24:HREE ASH TENU;23:FOUR ASH TENU;24:IVE ASH TENU;23:SIX ASH TENU;23:ONE BAN2;23:TWO BAN2",
    "24:HREE BAN2;23:FOUR BAN2;32: VARIANT FORM;24:IVE BAN2;32: VARIANT FORM;23:NIGIDAMIN;29:ESH",
    "23:ONE ESHE3;23:TWO ESHE3;23:ONE THIRD DISH;23:TWO THIRDS DISH;23:FIVE SIXTHS DISH",
    "23:ONE THIRD VARIANT FORM A;23:TWO THIRDS VARIANT FORM A;23:ONE EIGHTH ASH;27:QUARTER ASH",
    "24:LD ASSYRIAN ONE SIXTH;40:QUARTER;24:NE QUARTER GUR;27:HALF GUR;23:ELAMITE ONE THIRD",
    "31:TWO THIRDS;31:FORTY;32:IFTY;23:FOUR U VARIANT FORM;24:IVE U VARIANT FORM",
    "23:SIX U VARIANT FORM;24:EVEN U VARIANT FORM;23:EIGHT U VARIANT FORM;23:NINE U VARIANT FORM;",
    "CUNEIFORM PUNCTUATION SIGN OLD ASSYRIAN WORD DIVIDER;27:VERTICAL COLON;27:DIAGONAL COLON",
    "36:TRICOLON;36:QUADCOLON;;;;;;;;;;;;CUNEIFORM SIGN AB TIMES NUN TENU;24:SHU2;16:D TIMES ESH2",
    "15:BAD TIMES DISH TENU;17:HAR2 TIMES AB2;28:NI;28:ZA;16:U OVER BU TIMES NA2;15:DA TIMES TAK4",
    "17:G TIMES KUR;16:IM TIMES IGI;25:U U U;18:2 TIMES UD;16:UG TIMES ANSHE;26:SH;28: AT LEFT",
    "25:DIN;26:UN;25:ERIN2;25:GA;26:I;27:R2 GUNU;27:SH;25:HA;26:I;25:IGI GUNU;25:KASKAL;26:UR",
    "27:SHU2;31: PLUS KASKAL;25:LAK-020;27:M;28: TIMES KUR;26:UH PLUS GISH;25:MASH;26:ES;26:I",
    "25:NI;25:PI;25:SHE;26:I GUNU;15:E2 TIMES KUR;24:PAP;16:RIN2 X;16:SH2 CROSSING ESH2",
    "16:ZEN SHESHIG TIMES ASH;34:HI;34:IGI GUNU;34:LA;36:L;34:ME;36:S;34:SU;20:TIMES SU",
    "15:GA2 TIMES BAHAR2;25:DIM GUNU;26:UG TIMES IGI GUNU;35:KASKAL;25:EREN;25:GA;27:R PLUS DI",
    "34:NE;25:HA PLUS A;25:KUSHU2 PLUS KASKAL;25:LAM;28: TIMES KUR;26:UH;25:MUSH;25:NE",
    "27: PLUS E2;33:GI;25:SHIM;25:ZIZ2;17:BA ROTATED NINETY DEGREES;16:ESHTIN TIMES U",
    "16:ISH TIMES GISH CROSSING GISH;16:U2 TIMES IGI GUNU;17:D PLUS GISH TIMES TAK4",
    "15:HA TENU GUNU;16:I TIMES ASH OVER HI TIMES ASH;15:KA TIMES BU;24:KA;24:U U U;25:R",
    "15:LAGAB TIMES ZU OVER ZU;17:K-003;20:21;21:5;20:30;20:50;21:1;20:62;20:79 OVER LAK-079 GUNU",
    "20:80;21:1 OVER LAK-081;20:92;19:130;20:42;19:210;21:9;20:20;21:5;21:8;20:38;20:65;21:6",
    "19:343;21:7;21:8;20:83;21:4;20:90;19:441;21:9;22: TIMES GU;29:IGI;29:PAP PLUS LU3",
    "38:PAP PLUS LU3;29:U2 PLUS BA;20:50;21:7;20:70;20:83;20:90;21:2;21:3;21:5;19:550;19:608",
    "20:17;22: TIMES ASH;29:BAD;29:DUN3 GUNU GUNU;29:KU3;29:LA;29:TAR;30:E;29:U2;30:D;30:RUDA",
    "20:36;20:48;22: TIMES DUB;29:GA;29:IGI;32: GUNU;29:NI;29:PAP PLUS PAP PLUS LU3",
    "29:SHESH PLUS KI;29:UD;30:RUDA;19:724;20:49;16:U2 GUNU TIMES ASH;19:TIMES DISH;25:HAL;25:PAP",
    "28: PLUS PAP PLUS LU3;25:TAK4;15:MI PLUS ZA7;16:USH OVER MUSH TIMES GA;36:KAK",
    "15:NINDA2 TIMES DIM GUNU;28:GISH;29:UL;28:HI;28:KESH2;28:LAK-050;28:MASH;28:PAP PLUS PAP",
    "28:U;29: PLUS U;29:RUDA;15:SAG GUNU TIMES HA;19:TIMES EN;25:SHE AT LEFT;25:TAK4;16:HA6 TENU",
    "17:E OVER SHE;19:PLUS HUB2;24:NAM2;24:SAR;17:U2 PLUS DUG TIMES NI;25:E2 TIMES AN",
    "16:I TIMES TAK4;15:TAK4 PLUS SAG;16:UM TIMES GAN2 TENU;25:THREE DISH;15:UR2 INVERTED",
    "19:TIMES UD;17:U TIMES DARA3;25:LAK-668;26:U3;15:ZA7;16:U OVER ZU PLUS SAR",
    "17:5 TIMES THREE DISH TENU"]),
  (0x12F90, [
    "CYPRO-MINOAN SIGN CM001;22:2;22:4;22:5;22:6;22:7;22:8;22:9;21:10;22:1;22:2;23:B;22:3;22:5",
    "22:7;22:9;21:21;22:3;22:4;22:5;22:6;22:7;22:8;22:9;21:30;22:3;22:4;22:5;22:6;22:7;22:8;22:9",
    "21:40;22:1;22:4;22:6;22:7;22:9;21:50;22:1;22:2;22:3;22:4;22:5;22:6;22:8;22:9;21:60;22:1;22:2",
    "22:3;22:4;22:6;22:7;22:8;22:9;21:70;22:1;22:2;22:3;22:4;22:5;23:B;22:6;22:8;22:9;21:80;22:1",
    "22:2;22:3;22:4;22:5;22:6;22:7;22:8;22:9;21:90;22:1;22:2;22:4;22:5;22:6;22:7;22:8;22:9;20:100",
    "22:1;22:2;22:3;22:4;22:5;22:7;22:8;22:9;21:10;22:2;22:4;20:301;22:2;;;;;;;;;;;;;",
    "EGYPTIAN HIEROGLYPH A001;23:2;23:3;23:4;23:5;24:A;23:6;24:A;24:B;23:7;23:8;23:9;22:10;23:1",
    "23:2;23:3;23:4;24:A;23:5;23:6;23:7;24:A;23:8;23:9;22:20;23:1;23:2;23:3;23:4;23:5;23:6;23:7",
    "23:8;23:9;22:30;23:1;23:2;24:A;23:3;23:4;23:5;23:6;23:7;23:8;23:9;22:40;24:A;23:1;23:2;24:A",
    "23:3;24:A;23:4;23:5;24:A;23:6;23:7;23:8;23:9;22:50;23:1;23:2;23:3;23:4;23:5;23:6;23:7;23:8",
    "23:9;22:60;23:1;23:2;23:3;23:4;23:5;23:6;23:7;23:8;23:9;22:70;20:B001;23:2;23:3;23:4;23:5",
    "24:A;23:6;23:7;23:8;23:9;20:C001;23:2;24:A;24:B;24:C;23:3;23:4;23:5;23:6;23:7;23:8;23:9",
    "22:10;24:A;23:1;23:2;23:3;23:4;23:5;23:6;23:7;23:8;23:9;22:20;23:1;23:2;23:3;23:4;20:D001",
    "23:2;23:3;23:4;23:5;23:6;23:7;23:8;24:A;23:9;22:10;23:1;23:2;23:3;23:4;23:5;23:6;23:7;23:8",
    "23:9;22:20;23:1;23:2;23:3;23:4;23:5;23:6;23:7;24:A;23:8;23:9;22:30;23:1;24:A;23:2;23:3;23:4",
    "24:A;23:5;23:6;23:7;23:8;23:9;22:40;23:1;23:2;23:3;23:4;23:5;23:6;24:A;23:7;23:8;24:A;23:9",
    "22:50;24:A;24:B;24:C;24:D;24:E;24:F;24:G;24:H;24:I;23:1;23:2;24:A;23:3;23:4;24:A;23:5;23:6",
    "23:7;23:8;23:9;22:60;23:1;23:2;23:3;23:4;23:5;23:6;23:7;24:A;24:B;24:C;24:D;24:E;24:F;24:G",
    "24:H;20:E001;23:2;23:3;23:4;23:5;23:6;23:7;23:8;24:A;23:9;24:A;22:10;23:1;23:2;23:3;23:4",
    "23:5;23:6;24:A;23:7;24:A;23:8;23:9;22:20;24:A;23:1;23:2;23:3;23:4;23:5;23:6;23:7;23:8;24:A",
    "23:9;22:30;23:1;23:2;23:3;23:4;24:A;23:6;23:7;23:8;20:F001;24:A;23:2;23:3;23:4;23:5;23:6",
    "23:7;23:8;23:9;22:10;23:1;23:2;23:3;24:A;23:4;23:5;23:6;23:7;23:8;23:9;22:20;23:1;24:A;23:2",
    "23:3;23:4;23:5;23:6;23:7;23:8;23:9;22:30;23:1;24:A;23:2;23:3;23:4;23:5;23:6;23:7;24:A;23:8",
    "24:A;23:9;22:40;23:1;23:2;23:3;23:4;23:5;24:A;23:6;24:A;23:7;24:A;23:8;23:9;22:50;23:1;24:A",
    "24:B;24:C;23:2;23:3;20:G001;23:2;23:3;23:4;23:5;23:6;24:A;23:7;24:A;24:B;23:8;23:9;22:10",
    "23:1;24:A;23:2;23:3;23:4;23:5;23:6;23:7;23:8;23:9;22:20;24:A;23:1;23:2;23:3;23:4;23:5;23:6",
    "24:A;23:7;23:8;23:9;22:30;23:1;23:2;23:3;23:4;23:5;23:6;24:A;23:7;24:A;23:8;23:9;22:40;23:1",
    "23:2;23:3;24:A;23:4;23:5;24:A;23:6;23:7;23:8;23:9;22:50;23:1;23:2;23:3;23:4;20:H001;23:2",
    "23:3;23:4;23:5;23:6;24:A;23:7;23:8;20:I001;23:2;23:3;23:4;23:5;24:A;23:6;23:7;23:8;23:9;24:A",
    "22:10;24:A;23:1;24:A;23:2;23:3;23:4;23:5;20:K001;23:2;23:3;23:4;23:5;23:6;23:7;23:8;20:L001",
    "23:2;24:A;23:3;23:4;23:5;23:6;24:A;23:7;23:8;20:M001;24:A;24:B;23:2;23:3;24:A;23:4;23:5;23:6",
    "23:7;23:8;23:9;22:10;24:A;23:1;23:2;24:A;24:B;24:C;24:D;24:E;24:F;24:G;24:H;23:3;23:4;23:5",
    "24:A;23:6;24:A;23:7;24:A;23:8;23:9;22:20;23:1;23:2;24:A;23:3;23:4;24:A;23:5;23:6;23:7;23:8",
    "24:A;23:9;22:30;23:1;24:A;23:2;23:3;24:A;24:B;23:4;23:5;23:6;23:7;23:8;23:9;22:40;24:A;23:1",
    "23:2;23:3;23:4;20:N001;23:2;23:3;23:4;23:5;23:6;23:7;23:8;23:9;22:10;23:1;23:2;23:3;23:4",
    "23:5;23:6;23:7;23:8;24:A;24:B;23:9;22:20;23:1;23:2;23:3;23:4;23:5;24:A;23:6;23:7;23:8;23:9",
    "22:30;23:1;23:2;23:3;24:A;23:4;24:A;23:5;24:A;23:6;23:7;24:A;23:8;23:9;22:40;23:1;23:2",
    "21:L001;24:2;24:3;24:4;24:5;25:A;24:6;24:7;24:8;24:9;23:10;24:1;24:2;24:3;24:4;24:5;24:6",
    "24:7;25:A;24:8;24:9;23:20;21:U001;24:2;24:3;24:4;24:5;24:6;24:7;24:8;24:9;23:10;25:A;24:1",
    "25:A;24:2;24:3;24:4;24:5;24:6;24:7;24:8;25:A;24:9;23:20;24:1;24:2;25:A;20:O001;24:A;23:2",
    "23:3;23:4;23:5;24:A;23:6;24:A;24:B;24:C;24:D;24:E;24:F;23:7;23:8;23:9;22:10;24:A;24:B;24:C",
    "23:1;23:2;23:3;23:4;23:5;23:6;23:7;23:8;23:9;24:A;22:20;24:A;23:1;23:2;23:3;23:4;24:A;23:5",
    "24:A;23:6;23:7;23:8;23:9;24:A;22:30;24:A;23:1;23:2;23:3;24:A;23:4;23:5;23:6;24:A;24:B;24:C",
    "24:D;23:7;23:8;23:9;22:40;23:1;23:2;23:3;23:4;23:5;23:6;23:7;23:8;23:9;22:50;24:A;24:B;23:1",
    "20:P001;24:A;23:2;23:3;24:A;23:4;23:5;23:6;23:7;23:8;23:9;22:10;23:1;20:Q001;23:2;23:3;23:4",
    "23:5;23:6;23:7;20:R001;23:2;24:A;23:3;24:A;24:B;23:4;23:5;23:6;23:7;23:8;23:9;22:10;24:A",
    "23:1;23:2;23:3;23:4;23:5;23:6;24:A;23:7;23:8;23:9;22:20;23:1;23:2;23:3;23:4;23:5;23:6;23:7",
    "23:8;23:9;20:S001;23:2;24:A;23:3;23:4;23:5;23:6;24:A;23:7;23:8;23:9;22:10;23:1;23:2;23:3",
    "23:4;24:A;24:B;23:5;23:6;23:7;24:A;23:8;23:9;22:20;23:1;23:2;23:3;23:4;23:5;23:6;24:A;24:B",
    "23:7;23:8;23:9;22:30;23:1;23:2;23:3;23:4;23:5;24:A;23:6;23:7;23:8;23:9;22:40;23:1;23:2;23:3",
    "23:4;23:5;23:6;20:T001;23:2;23:3;24:A;23:4;23:5;23:6;23:7;24:A;23:8;24:A;23:9;24:A;22:10",
    "23:1;24:A;23:2;23:3;23:4;23:5;23:6;24:A;23:7;23:8;23:9;22:20;23:1;23:2;23:3;23:4;23:5;23:6",
    "23:7;23:8;23:9;22:30;23:1;23:2;24:A;23:3;24:A;23:4;23:5;23:6;20:U001;23:2;23:3;23:4;23:5",
    "23:6;24:A;24:B;23:7;23:8;23:9;22:10;23:1;23:2;23:3;23:4;23:5;23:6;23:7;23:8;23:9;22:20;23:1",
    "23:2;23:3;24:A;23:4;23:5;23:6;23:7;23:8;23:9;24:A;22:30;23:1;23:2;24:A"]),
  (0x13358, [
    "EGYPTIAN HIEROGLYPH U033;23:4;23:5;23:6;23:7;23:8;23:9;22:40;23:1;23:2;20:V001;24:A;24:B",
    "24:C;24:D;24:E;24:F;24:G;24:H;24:I;23:2;24:A;23:3;23:4;23:5;23:6;23:7;24:A;24:B;23:8;23:9",
    "22:10;23:1;24:A;24:B;24:C;23:2;24:A;24:B;23:3;23:4;23:5;23:6;23:7;23:8;23:9;22:20;24:A;24:B",
    "24:C;24:D;24:E;24:F;24:G;24:H;24:I;24:J;24:K;24:L;23:1;23:2;23:3;24:A;23:4;23:5;23:6;23:7",
    "23:8;24:A;23:9;24:A;22:30;24:A;23:1;24:A;23:2;23:3;24:A;23:4;23:5;23:6;23:7;24:A;23:8;23:9",
    "22:40;24:A;20:W001;23:2;23:3;24:A;23:4;23:5;23:6;23:7;23:8;23:9;24:A;22:10;24:A;23:1;23:2",
    "23:3;23:4;24:A;23:5;23:6;23:7;24:A;23:8;24:A;23:9;22:20;23:1;23:2;23:3;23:4;24:A;23:5",
    "20:X001;23:2;23:3;23:4;24:A;24:B;23:5;23:6;24:A;23:7;23:8;24:A;20:Y001;24:A;23:2;23:3;23:4",
    "23:5;23:6;23:7;23:8;20:Z001;23:2;24:A;24:B;24:C;24:D;23:3;24:A;24:B;23:4;24:A;23:5;24:A;23:6",
    "23:7;23:8;23:9;22:10;23:1;23:2;23:3;23:4;23:5;24:A;24:B;24:C;24:D;24:E;24:F;24:G;24:H;24:I",
    "23:6;24:A;24:B;24:C;24:D;24:E;24:F;24:G;24:H;20:AA001;24:2;24:3;24:4;24:5;24:6;24:7;25:A",
    "25:B;24:8;24:9;23:10;24:1;24:2;24:3;24:4;24:5;24:6;24:7;24:8;24:9;23:20;24:1;24:2;24:3;24:4",
    "24:5;24:6;24:7;24:8;24:9;23:30;24:1;24:2;20:V011D;21:ERTICAL JOINER;20:HORIZONTAL JOINER",
    "20:INSERT AT TOP START;30:BOTTOM START;30:TOP END;30:BOTTOM END;20:OVERLAY MIDDLE",
    "20:BEGIN SEGMENT;20:END SEGMENT;20:INSERT AT MIDDLE;30:TOP;30:BOTTOM;20:BEGIN ENCLOSURE",
    "20:END ENCLOSURE;20:BEGIN WALLED ENCLOSURE;20:END WALLED ENCLOSURE;20:MIRROR HORIZONTALLY",
    "20:FULL BLANK;20:HALF BLANK;20:LOST SIGN;20:HALF LOST SIGN;20:TALL LOST SIGN",
    "20:WIDE LOST SIGN;20:MODIFIER DAMAGED AT TOP START;40:BOTTOM START;40:START;40:TOP END;43:",
    "40:BOTTOM START AND TOP END;40:START AND TOP;40:BOTTOM END;40:TOP START AND BOTTOM END",
    "40:BOTTOM;40:START AND BOTTOM;40:END;40:TOP AND END;40:BOTTOM AND END;36:"]),
  (0x14400, [
    "ANATOLIAN HIEROGLYPH A001;24:2;24:3;24:4;24:5;24:6;24:7;24:8;24:9;23:10;25:A;24:1;24:2;24:3",
    "24:4;24:5;24:6;24:7;24:8;24:9;23:20;24:1;24:2;24:3;24:4;24:5;24:6;25:A;24:7;24:8;24:9;23:30",
    "24:1;24:2;24:3;24:4;24:5;24:6;24:7;24:8;24:9;25:A;23:40;24:1;25:A;24:2;24:3;24:4;24:5;25:A",
    "24:6;25:A;25:B;24:7;24:8;24:9;23:50;24:1;24:2;24:3;24:4;24:5;24:6;24:7;24:8;24:9;23:60;24:1",
    "24:2;24:3;24:4;24:5;24:6;25:A;25:B;25:C;24:7;24:8;24:9;23:70;24:1;24:2;24:3;24:4;24:5;24:6",
    "24:7;24:8;24:9;23:80;24:1;24:2;24:3;24:4;24:5;24:6;24:7;24:8;24:9;23:90;24:1;24:2;24:3;24:4",
    "24:5;24:6;24:7;25:A;24:8;25:A;24:9;22:100;25:A;24:1;25:A;24:2;25:A;24:3;24:4;25:A;25:B;25:C",
    "24:5;25:A;25:B;24:6;24:7;25:A;25:B;25:C;24:8;24:9;23:10;25:A;25:B;24:1;24:2;24:3;24:4;24:5",
    "25:A;24:6;24:7;24:8;24:9;23:20;24:1;24:2;24:3;24:4;24:5;25:A;24:6;24:7;24:8;24:9;23:30;24:1",
    "24:2;24:3;24:4;24:5;25:A;24:6;24:7;24:8;24:9;23:40;24:1;24:2;24:3;24:4;24:5;24:6;24:7;24:8",
    "24:9;23:50;24:1;24:2;24:3;24:4;24:5;24:6;24:7;24:8;24:9;23:60;24:1;24:2;24:3;24:4;24:5;24:6",
    "24:7;24:8;24:9;23:70;24:1;24:2;24:3;24:4;24:5;24:6;24:7;24:8;24:9;23:80;24:1;24:2;24:3;24:4",
    "24:5;24:6;24:7;24:8;24:9;23:90;24:1;24:2;24:3;24:4;24:5;24:6;24:7;24:8;24:9;22:200;24:1;24:2",
    "25:A;25:B;24:3;24:4;24:5;24:6;24:7;25:A;24:8;24:9;25:A;23:10;24:1;24:2;24:3;24:4;24:5;25:A",
    "24:6;25:A;24:7;24:8;24:9;23:20;24:1;24:2;24:3;24:4;24:5;24:6;24:7;25:A;24:8;24:9;23:30;24:1",
    "24:2;24:3;24:4;24:5;24:6;24:7;24:8;24:9;23:40;24:1;24:2;24:3;24:4;24:5;24:6;24:7;24:8;24:9",
    "23:50;24:1;24:2;24:3;24:4;24:5;24:6;24:7;24:8;24:9;23:60;24:1;24:2;24:3;24:4;24:5;24:6;24:7",
    "25:A;24:8;24:9;23:70;24:1;24:2;24:3;24:4;24:5;24:6;24:7;24:8;24:9;23:80;24:1;24:2;24:3;24:4",
    "24:5;24:6;24:7;24:8;24:9;25:A;23:90;24:1;24:2;24:3;24:4;25:A;24:5;24:6;24:7;24:8;24:9;25:A",
    "22:300;24:1;24:2;24:3;24:4;24:5;24:6;24:7;24:8;24:9;25:A;23:10;24:1;24:2;24:3;24:4;24:5;24:6",
    "24:7;24:8;24:9;23:20;24:1;24:2;24:3;24:4;24:5;24:6;24:7;24:8;24:9;25:A;23:30;24:1;24:2A;25:B",
    "25:C;24:3;24:4;24:5;24:6;25:A;25:B;25:C;24:7;24:8;24:9;23:40;24:1;24:2;24:3;24:4;24:5;24:6",
    "24:7;24:8;24:9;23:50;24:1;24:2;24:3;24:4;24:5;24:6;24:7;24:8;24:9;25:A;23:60;24:1;24:2;24:3",
    "24:4;25:A;24:5;24:6;24:7;24:8;25:A;24:9;23:70;24:1;25:A;24:2;24:3;24:4;24:5;24:6;24:7;24:8",
    "24:9;23:80;24:1;25:A;24:2;24:3 RA OR RI;25:A;24:4;24:5;24:6;25:A;24:7;24:8;24:9;23:90;24:1",
    "24:2;24:3 EIGHT;24:4;24:5;24:6;24:7;24:8;24:9;22:400;24:1;24:2;24:3;24:4;24:5;24:6;24:7;24:8",
    "24:9;23:10 BEGIN LOGOGRAM MARK;25:A END LOGOGRAM MARK;24:1;24:2;24:3;24:4;24:5;24:6;24:7",
    "24:8;24:9;23:20;24:1;24:2;24:3;24:4;24:5;24:6;24:7;24:8;24:9;23:30;24:1;24:2;24:3;24:4;24:5",
    "24:6;24:7;24:8;24:9;23:40;24:1;24:2;24:3;24:4;24:5;24:6;24:7;24:8;24:9;23:50;25:A;24:1;24:2",
    "24:3;24:4;24:5;24:6;24:7;25:A;24:8;24:9;23:60;24:1;24:2;24:3;24:4;24:5;24:6;24:7;24:8;24:9",
    "23:70;24:1;24:2;24:3;24:4;24:5;24:6;24:7;24:8;24:9;23:80;24:1;24:2;24:3;24:4;24:5;24:6;24:7",
    "24:8;24:9;23:90;24:1;24:2;24:3;24:4;24:5;24:6;24:7;22:501;24:2;24:3;24:4;24:5;24:6;24:7;24:8",
    "24:9;23:10;24:1;24:2;24:3;24:4;24:5;24:6;24:7;24:8;24:9;23:20;24:1;24:2;24:3;24:4;24:5;24:6",
    "24:7;24:8;24:9;23:30"]),
  (0x16800, [
    "BAMUM LETTER PHASE-A NGKUE MFON;21:GBIEE FON;21:PON MFON PIPAEMGBIEE;36:BA;21:NAA MFON",
    "21:SHUENSHUET;21:TITA MFON;21:NZA MFON;21:SHINDA PA NJI;21:PON PA NJI PIPAEMGBIEE;38:BA",
    "21:MAEMBGBIEE;21:TU MAEMBA;21:NGANGU;21:MAEMVEUX;23:NSUAE;22:VEUAENGAM;21:SEUNYAM;21:NTOQPEN",
    "21:KEUKEUTNDA;21:NKINDI;21:SUU;21:NGKUENZEUM;21:LAPAQ;22:ET KUT;21:NTAP MFAA;21:MAEKEUP",
    "21:PASHAE;21:GHEUAERAE;21:PAMSHAE;21:MON NGGEUAET;21:NZUN MEUT;21:U YUQ NAE;21:GHEUAEGHEUAE",
    "21:NTAP NTAA;21:SISA;21:MGBASA;22:EUNJOMNDEUQ;22:OOMPUQ;21:KAFA;21:PA LEERAEWA",
    "21:NDA LEERAEWA;21:PET;21:MAEMKPEN;21:NIKA;21:PUP;21:TUAEP;21:LUAEP;21:SONJAM;21:TEUTEUWEN",
    "21:MAENYI;21:KET;21:NDAANGGEUAET;21:KUOQ;21:MOOMEUT;21:SHUM;21:LOMMAE;21:FIRI;21:ROM;21:KPOQ",
    "21:SOQ;21:MAP PIEET;21:SHIRAE;21:NTAP;21:SHOQ NSHUT YUM;21:NYIT MONGKEUAEQ;21:PAARAE",
    "21:NKAARAE;21:UNKNOWN;21:NGGEN;21:MAESI;21:NJAM;21:MBANYI;21:NYET;21:TEUAEN;21:SOT;21:PAAM",
    "21:NSHIEE;21:MAEM;21:NYI;21:KAQ;21:NSHA;21:VEE;21:LU;21:NEN;22:AQ;21:MBAQ;19:B NSHUET",
    "21:TU MAEMGBIEE;21:SIEE;22:ET TU;21:LOM NTEUM;21:MBA MAELEE;21:KIEEM;21:YEURAE;21:MBAARAE",
    "21:KAM;21:PEESHI;21:YAFU LEERAEWA;21:LAM NSHUT NYAM;21:NTIEE SHEUOQ;22:DU NJAA",
    "21:GHEUGHEUAEM;21:PIT;21:TU NSIEE;21:SHET NJAQ;24:UAEQTU;21:MFON TEUAEQ;22:BIT MBAAKET",
    "21:NYI NTEUM;21:KEUPUQ;21:GHEUGHEN;21:KEUYEUX;21:LAANAE;21:PARUM;21:VEUM;21:NGKINDI MVOP",
    "23:GEU MBU;21:WUAET;21:SAKEUAE;21:TAAM;21:MEUQ;21:NGGUOQ;27: LARGE;21:MFIYAQ;21:SUE",
    "21:MBEURI;22:ONTIEEN;21:NYAEMAE;21:PUNGAAM;21:MEUT NGGEET;21:FEUX;21:MBUOQ;21:FEE;21:KEUAEM",
    "21:MA NJEUAENA;26:UQA;21:LET;21:NGGAAM;22:SEN;21:MA;21:KIQ;21:NGOM;19:C NGKUE MAEMBA;22:ZA",
    "21:YUM;21:WANGKUOQ;21:NGGEN;22:DEUAEREE;22:GKAQ;21:GHARAE;21:MBEEKEET;21:GBAYI",
    "21:NYIR MKPARAQ MEUN;22:TU MBIT;21:MBEUM;21:PIRIEEN;21:NDOMBU;21:MBAA CABBAGE-TREE",
    "21:KEUSHEUAEP;21:GHAP;21:KEUKAQ;21:YU MUOMAE;21:NZEUM;21:MBUE;21:NSEUAEN;21:MBIT;21:YEUQ",
    "21:KPARAQ;22:AA;21:SEUX;21:NDIDA;21:TAASHAE;21:NJUEQ;21:TITA YUE;21:SUAET;21:NGGUAEN NYAM",
    "21:VEUX;21:NANSANAQ;21:MA KEUAERI;21:NTAA;22:GGUON;21:LAP;21:MBIRIEEN;22:GBASAQ;21:NTEUNGBA",
    "21:TEUTEUX;21:NGGUM;21:FUE;21:NDEUT;22:SA;23:HAQ;21:BUNG;21:VEUAEPEN;21:MBERAE;21:RU",
    "21:NJAEM;21:LAM;21:TITUAEP;21:NSUOT NGOM;22:JEEEE;21:KET;21:NGGU;21:MAESI;22:BUAEM;21:LU",
    "21:KUT;21:NJAM;22:GOM;21:WUP;21:NGGUEET;22:SOM;22:TEN;21:KUOP NKAARAE;21:NSUN;22:DAM",
    "21:MA NSIEE;21:YAA;21:NDAP;21:SHUEQ;22:ETFON;21:MBI;22:AEMBA;22:BANYI;21:KEUSEUX;21:MBEUX",
    "21:KEUM;21:MBAA PICKET;21:YUWOQ;21:NJEUX;21:MIEE;22:UAE;21:SHIQ;21:KEN LAW;25:FATIGUE",
    "21:NGAQ;22:AQ;21:LIQ;21:PIN;22:EN;21:TET;19:D MBUO;21:WAP;21:NJI;21:MFON;21:NJIEE;21:LIEE",
    "21:NJEUT;22:SHEE;22:GGAAMAE;22:YAM;21:WUAEN;21:NGKUN;21:SHEE;21:NGKAP;21:KEUAETMEUN;21:TEUT",
    "21:SHEUAE;21:NJAP;21:SUE;21:KET;21:YAEMMAE;21:KUOM;21:SAP;21:MFEUT;21:NDEUX;21:MALEERI",
    "22:EUT;21:SEUAEQ;21:YEN;21:NJEUAEM;21:KEUOT MBUAE;21:NGKEURI;21:TU;21:GHAA;21:NGKYEE",
    "21:FEUFEUAET;21:NDEE;21:MGBOFUM;21:LEUAEP;21:NDON;21:MONI;22:GBEUN;21:PUUT;21:MGBIEE;22:FO",
    "21:LUM;21:NSIEEP;21:MBAA;21:KWAET;21:NYET;21:TEUAEN;21:SOT;21:YUWOQ;21:KEUM;21:RAEM;21:TEEEE",
    "21:NGKEUAEQ;21:MFEUAE;21:NSIEET;21:KEUP;21:PIP;22:EUTAE;21:NYUE;21:LET;21:NGGAAM;21:MFIEE",
    "21:NGGWAEN;21:YUOM;21:PAP;21:YUOP;21:NDAM;22:TEUM;21:SUAE;21:KUN;21:NGGEUX;23:KIEE;21:TUOT",
    "21:MEUN;21:KUQ;21:NSUM;21:TEUN;21:MAENJET;21:NGGAP;21:LEUM;21:NGGUOM;22:SHUT;22:JUEQ",
    "21:GHEUAE;21:KU;21:REN OLD;21:TAE;22:OQ;21:NYI;21:RII;21:LEEEE;21:MEEEE;22:;21:SUU;21:MU",
    "21:SHII;23:EUX;21:KYEE;21:NU;21:SHU;21:NTEE;21:PEE;21:NI;21:SHOQ;21:PUQ;21:MVOP;21:LOQ",
    "21:REN MUCH;21:TI;21:NTUU;21:MBAA SEVEN;21:SAQ;21:FAA;19:E NDAP;21:TOON;21:MBEUM;21:LAP",
    "21:VOM;21:LOON;21:PAA;21:SOM;21:RAQ;21:NSHUOP;22:DUN;21:PUAE;21:TAM;21:NGKA;21:KPEUX;21:WUO",
    "21:SEE;21:NGGEUAET;21:PAAM;21:TOO;21:KUOP;21:LOM;21:NSHIEE;22:GOP;21:MAEM;21:NGKEUX;23:OQ",
    "22:SHUE;21:RIMGBA;21:NJEUX;21:PEEM;21:SAA;21:NGGURAE;21:MGBA;21:GHEUX;21:NGKEUAEM;22:JAEMLI",
    "21:MAP;21:LOOT;21:NGGEEEE;22:DIQ;21:TAEN NTEUM;21:SET;21:PUM;21:NDAA SOFTNESS",
    "22:GGUAESHAE NYAM;21:YIEE;21:GHEUN;21:TUAE;21:YEUAE;21:PO;21:TUMAE;21:KEUAE;21:SUAEN",
    "21:TEUAEQ;21:VEUAE;21:WEUX;21:LAAM;21:PU;21:TAAQ;21:GHAAMAE;21:NGEUREUT;21:SHEUAEQ;21:MGBEN",
    "22:BEE;21:NZAQ;22:KOM;21:GBET;21:TUM;21:KUET;21:YAP;21:NYI CLEAVER;21:YIT;21:MFEUQ;21:NDIAQ",
    "21:PIEEQ;21:YUEQ;21:LEUAEM;21:FUE;21:GBEUX;21:NGKUP;21:KET;21:MAE;21:NGKAAMI;21:GHET;21:FA",
    "21:NTUM;21:PEUT;21:YEUM;21:NGGEUAE;22:YI BETWEEN;22:ZUQ;21:POON;21:MIEE;21:FUET;21:NAE",
    "21:MUAE;21:GHEUAE;21:FU I;21:MVI;21:PUAQ;21:NGKUM;21:KUT;21:PIET;21:NTAP;21:YEUAET;21:NGGUP",
    "21:PA PEOPLE;21:FU CALL;22:OM;21:NJEE;21:A;21:TOQ;21:O;21:I;21:LAQ;21:PA PLURAL;21:TAA;23:Q",
    "21:NDAA MY HOUSE;21:SHIQ;21:YEUX;21:NGUAE;21:YUAEN;22:OQ SWIMMING;25:COVER;22:UQ;23:N",
    "21:KEUX;21:PEUX;21:NJEE EPOCH;21:PUE;21:WUE;21:FEE;21:VEE;21:LU;21:MI;21:REUX;22:AE",
    "21:NGUAET;23:A;21:SHO;24:Q;21:FU REMEDY;21:NA;21:PI;21:LOQ;21:KO;21:MEN;22:A;23:Q;21:TEU",
    "21:KI;21:MON;21:TEN;21:FAQ;21:GHOM;19:F KA;21:U;21:KU;21:EE;21:REE;21:TAE;21:NYI;21:LA",
    "21:RII;23:EE;21:MEEEE;21:TAA;21:NDAA;22:JAEM;21:M;21:SUU;22:HII;22:I;22:EUX;21:KYEE;22:ET",
    "21:NUAE;23:;22:JUAE;21:YOQ;21:SHU;21:YA;21:NSHA;21:PEUX;21:NTEE;21:WUE;21:PEE;21:RU;21:NI",
    "21:REUX;21:KEN;21:NGKWAEN;23:GA;21:SHO;21:PUAE;21:FOM;21:WA;21:LI;22:OQ;21:KO;21:MBEN;21:REN",
    "21:MA;22:O;22:BAA;21:TET;21:KPA;21:SAMBA;21:VUEQ;;;;;;;;MRO LETTER TA;11:NGI;11:YO;11:MIM",
    "11:BA;11:DA;11:A;11:PHI;11:KHAI;11:HAO;11:DAI;11:CHU;11:KEAAE;11:OL;11:MAEM;11:NIN;11:PA",
    "11:OO;12:;11:RO;11:SHI;11:THEA;11:EA;11:WA;11:E;11:KO;11:LAN;13:;11:HAI;11:RI;11:TEK;",
    "MRO DIGIT ZERO;10:ONE;10:TWO;11:HREE;10:FOUR;11:IVE;10:SIX;11:EVEN;10:EIGHT;10:NINE;;;;",
    "MRO DANDA;5:OUBLE DANDA;TANGSA LETTER OZ;15:C;15:Q;15:X;14:AZ;15:C;15:Q;15:X;14:VZ;15:C;15:Q",
    "15:X;14:EZ;15:C;15:Q;15:X;14:IZ;15:C;15:Q;15:X;14:UZ;15:C;15:Q;15:X;14:AWZ;16:C;16:Q;16:X",
    "14:UIZ;16:C;16:Q;16:X;14:FINAL NG;14:LONG UEX;14:SHORT UEZ;20:AWX;14:UEC;16:Z;16:Q;16:X",
    "15:IUZ;17:C;17:Q;17:X;14:MZ;15:C;15:Q;15:X;14:KA;15:HA;14:GA;14:NGA;14:SA;14:YA;14:WA;14:PA",
    "14:NYA;14:PHA;14:BA;14:MA;14:NA;14:HA;14:LA;14:HTA;14:TA;14:DA;14:RA;14:NHA;14:SHA;14:CA",
    "14:TSA;14:GHA;14:HTTA;14:THA;14:XA;14:FA;14:DHA;14:CHA;14:ZA;;TANGSA DIGIT ZERO;13:ONE",
    "13:TWO;14:HREE;13:FOUR;14:IVE;13:SIX;14:EVEN;13:EIGHT;13:NINE;;;;;;;BASSA VAH LETTER ENNI",
    "17:KA;17:SE;17:FA;17:MBE;17:YIE;17:GAH;17:DHII;17:KPAH;17:JO;17:HWAH;17:WA;17:ZO;17:GBU",
    "17:DO;17:CE;17:UWU;17:TO;17:BA;17:VU;17:YEIN;17:PA;17:WADDA;17:A;17:O;18:O;17:U;17:EE;18:",
    "17:I;;;BASSA VAH COMBINING HIGH TONE;20:LOW TONE;20:MID TONE;20:LOW-MID TONE",
    "20:HIGH-LOW TONE;10:FULL STOP;;;;;;;;;;;PAHAWH HMONG VOWEL KEEB;22:V;20:IB;21:V;20:AUB;22:V",
    "20:UB;21:V;20:EB;21:V;20:AIB;22:V;20:OOB;22:V;20:AWB;22:V;20:UAB;22:V;20:OB;21:V;20:IAB;22:V",
    "20:AB;21:V;20:WB;21:V;20:AAB;22:V;13:CONSONANT VAU;23:NTSAU;23:LAU;23:HAU;23:NLAU;23:RAU",
    "23:NKAU;23:QHAU;23:YAU;23:HLAU;23:MAU;23:CHAU;23:NCHAU;23:HNAU;23:PLHAU;23:NTHAU;24:AU;23:AU",
    "23:XAU;23:CAU;13:MARK CIM TUB;22:SO;22:KES;23:HAV;22:SUAM;22:HOM;22:TAUM;13:SIGN VOS THOM",
    "23:SHAB CEEB;18:CIM CHEEM;18:VOS THIAB;22:FEEM;18:XYEEM NTXIV;24:RHO;24:TOV;24:FAIB",
    "18:VOS SEEV;18:MEEJ SUAB;18:VOS NRUA;18:IB YAM;18:XAUS;18:CIM TSOV ROG;;;;;;;;;;",
    "PAHAWH HMONG DIGIT ZERO;19:ONE;19:TWO;20:HREE;19:FOUR;20:IVE;19:SIX;20:EVEN;19:EIGHT;19:NINE",
    ";PAHAWH HMONG NUMBER TENS;20:HUNDREDS;20:TEN THOUSANDS;20:MILLIONS;20:HUNDRED MILLIONS",
    "20:TEN BILLIONS;21:RILLIONS;;PAHAWH HMONG SIGN VOS LUB;18:XYOO;18:HLI;18:THIRD-STAGE HLI",
    "18:ZWJ THAJ;18:HNUB;18:NQIG;18:XIAB;18:NTUJ;18:AV;18:TXHEEJ CEEV;18:MEEJ TSEEB;18:TAU;18:LOS",
    "18:MUS;18:CIM HAIS LUS NTOG NTOG;22:CUAM TSHOOJ;22:TXWV;26: CHWV;22:PUB DAWB;22:NRES TOS;;;;",
    ";PAHAWH HMONG CLAN SIGN TSHEEJ;23:YEEG;23:LIS;24:AUJ;23:XYOOJ;23:KOO;23:HAWJ;23:MUAS;23:THOJ",
    "24:SAB;23:PHAB;23:KHAB;23:HAM;23:VAJ;23:FAJ;23:YAJ;23:TSWB;23:KWM;23:VWJ"]),
  (0x16E40, [
    "MEDEFAIDRIN CAPITAL LETTER M;27:S;27:V;27:W;27:ATIU;27:Z;27:KP;27:P;27:T;27:G;27:F;27:I;27:K",
    "27:A;27:J;27:E;27:B;27:C;27:U;27:YU;27:L;27:Q;27:HP;27:NY;27:X;27:D;27:OE;27:N;27:R;27:O",
    "27:AI;27:Y;12:SMALL LETTER M;25:S;25:V;25:W;25:ATIU;25:Z;25:KP;25:P;25:T;25:G;25:F;25:I;25:K",
    "25:A;25:J;25:E;25:B;25:C;25:U;25:YU;25:L;25:Q;25:HP;25:NY;25:X;25:D;25:OE;25:N;25:R;25:O",
    "25:AI;25:Y;12:DIGIT ZERO;18:ONE;18:TWO;19:HREE;18:FOUR;19:IVE;18:SIX;19:EVEN;18:EIGHT",
    "18:NINE;12:NUMBER TEN;19:ELEVEN;19:TWELVE;20:HIRTEEN;19:FOURTEEN;20:IFTEEN;19:SIXTEEN",
    "20:EVENTEEN;19:EIGHTEEN;19:NINETEEN;12:DIGIT ONE ALTERNATE FORM;18:TWO ALTERNATE FORM",
    "19:HREE ALTERNATE FORM;12:COMMA;12:FULL STOP;12:SYMBOL AIVA;12:EXCLAMATION OH"]),
  (0x16F00, [
    "MIAO LETTER PA;12:BA;12:YI PA;12:PLA;12:MA;13:HA;12:ARCHAIC MA;12:FA;12:VA;13:FA;12:TA;12:DA",
    "12:YI TTA;16:A;12:TTA;12:DDA;12:NA;13:HA;12:YI NNA;12:ARCHAIC NA;12:NNA;14:HA;12:LA;13:YA",
    "13:HA;14:YA;12:TLHA;12:DLHA;12:TLHYA;12:DLHYA;12:KA;12:GA;12:YI KA;12:QA;13:GA;12:NGA;14:HA",
    "12:ARCHAIC NGA;12:HA;12:XA;12:GHA;14:HA;12:TSSA;12:DZZA;12:NYA;14:HA;12:TSHA;12:DZHA",
    "12:YI TSHA;15:DZHA;12:REFORMED TSHA;12:SHA;13:SA;12:ZHA;13:SHA;12:TSA;12:DZA;12:YI TSA;12:SA",
    "12:ZA;13:SA;13:ZA;14:SA;12:ARCHAIC ZZA;12:ZZYA;14:SYA;12:WA;12:AH;12:HHA;12:BRI;12:SYI",
    "12:DZYI;12:TE;13:SE;12:RTE;;;;;MIAO SIGN CONSONANT MODIFIER BAR;5:LETTER NASALIZATION",
    "5:SIGN ASPIRATION;10:REFORMED VOICING;19:ASPIRATION;5:VOWEL SIGN A;17:A;17:HH;17:N;18:G;16:O",
    "17:O;16:WO;17:;16:E;17:N;18:G;16:OEY;16:I;17:A;18:N;19:G;17:O;17:E;17:I;17:U;17:NG;16:U;17:A",
    "18:N;19:G;17:U;17:EI;17:NG;16:Y;17:I;16:AE;18:E;16:ERR;16:ROUNDED ERR;16:ER;16:ROUNDED ER",
    "16:AI;16:EI;16:AU;16:OU;16:N;17:G;16:UOG;16:YUI;16:OG;17:ER;16:VW;16:IG;16:EA;16:IONG;16:UI;",
    ";;;;;;MIAO TONE RIGHT;10:TOP RIGHT;10:ABOVE;10:BELOW;5:LETTER TONE-2;17:3;17:4;17:5;17:6",
    "17:7;17:8;12:REFORMED TONE-1;26:2;26:4;26:5;26:6;26:8;;;;;;;;;;;;;;;;;;;;;;;;;;;;;;;;;;;;;;;",
    ";;;;;;;;;;;;;;;;;;;;;;;;;TANGUT ITERATION MARK;NUSHU ITERATION MARK;OLD CHINESE HOOK MARK",
    "12:ITERATION MARK;KHITAN SMALL SCRIPT FILLER;;;;;;;;;;;;VIETNAMESE ALTERNATE READING MARK CA",
    "34:NHAY"]),
  (0x18800, [
    "TANGUT COMPONENT-001;19:2;19:3;19:4;19:5;19:6;19:7;19:8;19:9;18:10;19:1;19:2;19:3;19:4;19:5",
    "19:6;19:7;19:8;19:9;18:20;19:1;19:2;19:3;19:4;19:5;19:6;19:7;19:8;19:9;18:30;19:1;19:2;19:3",
    "19:4;19:5;19:6;19:7;19:8;19:9;18:40;19:1;19:2;19:3;19:4;19:5;19:6;19:7;19:8;19:9;18:50;19:1",
    "19:2;19:3;19:4;19:5;19:6;19:7;19:8;19:9;18:60;19:1;19:2;19:3;19:4;19:5;19:6;19:7;19:8;19:9",
    "18:70;19:1;19:2;19:3;19:4;19:5;19:6;19:7;19:8;19:9;18:80;19:1;19:2;19:3;19:4;19:5;19:6;19:7",
    "19:8;19:9;18:90;19:1;19:2;19:3;19:4;19:5;19:6;19:7;19:8;19:9;17:100;19:1;19:2;19:3;19:4;19:5",
    "19:6;19:7;19:8;19:9;18:10;19:1;19:2;19:3;19:4;19:5;19:6;19:7;19:8;19:9;18:20;19:1;19:2;19:3",
    "19:4;19:5;19:6;19:7;19:8;19:9;18:30;19:1;19:2;19:3;19:4;19:5;19:6;19:7;19:8;19:9;18:40;19:1",
    "19:2;19:3;19:4;19:5;19:6;19:7;19:8;19:9;18:50;19:1;19:2;19:3;19:4;19:5;19:6;19:7;19:8;19:9",
    "18:60;19:1;19:2;19:3;19:4;19:5;19:6;19:7;19:8;19:9;18:70;19:1;19:2;19:3;19:4;19:5;19:6;19:7",
    "19:8;19:9;18:80;19:1;19:2;19:3;19:4;19:5;19:6;19:7;19:8;19:9;18:90;19:1;19:2;19:3;19:4;19:5",
    "19:6;19:7;19:8;19:9;17:200;19:1;19:2;19:3;19:4;19:5;19:6;19:7;19:8;19:9;18:10;19:1;19:2;19:3",
    "19:4;19:5;19:6;19:7;19:8;19:9;18:20;19:1;19:2;19:3;19:4;19:5;19:6;19:7;19:8;19:9;18:30;19:1",
    "19:2;19:3;19:4;19:5;19:6;19:7;19:8;19:9;18:40;19:1;19:2;19:3;19:4;19:5;19:6;19:7;19:8;19:9",
    "18:50;19:1;19:2;19:3;19:4;19:5;19:6;19:7;19:8;19:9;18:60;19:1;19:2;19:3;19:4;19:5;19:6;19:7",
    "19:8;19:9;18:70;19:1;19:2;19:3;19:4;19:5;19:6;19:7;19:8;19:9;18:80;19:1;19:2;19:3;19:4;19:5",
    "19:6;19:7;19:8;19:9;18:90;19:1;19:2;19:3;19:4;19:5;19:6;19:7;19:8;19:9;17:300;19:1;19:2;19:3",
    "19:4;19:5;19:6;19:7;19:8;19:9;18:10;19:1;19:2;19:3;19:4;19:5;19:6;19:7;19:8;19:9;18:20;19:1",
    "19:2;19:3;19:4;19:5;19:6;19:7;19:8;19:9;18:30;19:1;19:2;19:3;19:4;19:5;19:6;19:7;19:8;19:9",
    "18:40;19:1;19:2;19:3;19:4;19:5;19:6;19:7;19:8;19:9;18:50;19:1;19:2;19:3;19:4;19:5;19:6;19:7",
    "19:8;19:9;18:60;19:1;19:2;19:3;19:4;19:5;19:6;19:7;19:8;19:9;18:70;19:1;19:2;19:3;19:4;19:5",
    "19:6;19:7;19:8;19:9;18:80;19:1;19:2;19:3;19:4;19:5;19:6;19:7;19:8;19:9;18:90;19:1;19:2;19:3",
    "19:4;19:5;19:6;19:7;19:8;19:9;17:400;19:1;19:2;19:3;19:4;19:5;19:6;19:7;19:8;19:9;18:10;19:1",
    "19:2;19:3;19:4;19:5;19:6;19:7;19:8;19:9;18:20;19:1;19:2;19:3;19:4;19:5;19:6;19:7;19:8;19:9",
    "18:30;19:1;19:2;19:3;19:4;19:5;19:6;19:7;19:8;19:9;18:40;19:1;19:2;19:3;19:4;19:5;19:6;19:7",
    "19:8;19:9;18:50;19:1;19:2;19:3;19:4;19:5;19:6;19:7;19:8;19:9;18:60;19:1;19:2;19:3;19:4;19:5",
    "19:6;19:7;19:8;19:9;18:70;19:1;19:2;19:3;19:4;19:5;19:6;19:7;19:8;19:9;18:80;19:1;19:2;19:3",
    "19:4;19:5;19:6;19:7;19:8;19:9;18:90;19:1;19:2;19:3;19:4;19:5;19:6;19:7;19:8;19:9;17:500;19:1",
    "19:2;19:3;19:4;19:5;19:6;19:7;19:8;19:9;18:10;19:1;19:2;19:3;19:4;19:5;19:6;19:7;19:8;19:9",
    "18:20;19:1;19:2;19:3;19:4;19:5;19:6;19:7;19:8;19:9;18:30;19:1;19:2;19:3;19:4;19:5;19:6;19:7",
    "19:8;19:9;18:40;19:1;19:2;19:3;19:4;19:5;19:6;19:7;19:8;19:9;18:50;19:1;19:2;19:3;19:4;19:5",
    "19:6;19:7;19:8;19:9;18:60;19:1;19:2;19:3;19:4;19:5;19:6;19:7;19:8;19:9;18:70;19:1;19:2;19:3",
    "19:4;19:5;19:6;19:7;19:8;19:9;18:80;19:1;19:2;19:3;19:4;19:5;19:6;19:7;19:8;19:9;18:90;19:1",
    "19:2;19:3;19:4;19:5;19:6;19:7;19:8;19:9;17:600;19:1;19:2;19:3;19:4;19:5;19:6;19:7;19:8;19:9",
    "18:10;19:1;19:2;19:3;19:4;19:5;19:6;19:7;19:8;19:9;18:20;19:1;19:2;19:3;19:4;19:5;19:6;19:7",
    "19:8;19:9;18:30;19:1;19:2;19:3;19:4;19:5;19:6;19:7;19:8;19:9;18:40;19:1;19:2;19:3;19:4;19:5",
    "19:6;19:7;19:8;19:9;18:50;19:1;19:2;19:3;19:4;19:5;19:6;19:7;19:8;19:9;18:60;19:1;19:2;19:3",
    "19:4;19:5;19:6;19:7;19:8;19:9;18:70;19:1;19:2;19:3;19:4;19:5;19:6;19:7;19:8;19:9;18:80;19:1",
    "19:2;19:3;19:4;19:5;19:6;19:7;19:8;19:9;18:90;19:1;19:2;19:3;19:4;19:5;19:6;19:7;19:8;19:9",
    "17:700;19:1;19:2;19:3;19:4;19:5;19:6;19:7;19:8;19:9;18:10;19:1;19:2;19:3;19:4;19:5;19:6;19:7",
    "19:8;19:9;18:20;19:1;19:2;19:3;19:4;19:5;19:6;19:7;19:8;19:9;18:30;19:1;19:2;19:3;19:4;19:5",
    "19:6;19:7;19:8;19:9;18:40;19:1;19:2;19:3;19:4;19:5;19:6;19:7;19:8;19:9;18:50;19:1;19:2;19:3",
    "19:4;19:5;19:6;19:7;19:8;19:9;18:60;19:1;19:2;19:3;19:4;19:5;19:6;19:7;19:8",
    "KHITAN SMALL SCRIPT CHARACTER-18B00;34:1;34:2;34:3;34:4;34:5;34:6;34:7;34:8;34:9;34:A;34:B",
    "34:C;34:D;34:E;34:F;33:10;34:1;34:2;34:3;34:4;34:5;34:6;34:7;34:8;34:9;34:A;34:B;34:C;34:D",
    "34:E;34:F;33:20;34:1;34:2;34:3;34:4;34:5;34:6;34:7;34:8;34:9;34:A;34:B;34:C;34:D;34:E;34:F",
    "33:30;34:1;34:2;34:3;34:4;34:5;34:6;34:7;34:8;34:9;34:A;34:B;34:C;34:D;34:E;34:F;33:40;34:1",
    "34:2;34:3;34:4;34:5;34:6;34:7;34:8;34:9;34:A;34:B;34:C;34:D;34:E;34:F;33:50;34:1;34:2;34:3",
    "34:4;34:5;34:6;34:7;34:8;34:9;34:A;34:B;34:C;34:D;34:E;34:F;33:60;34:1;34:2;34:3;34:4;34:5",
    "34:6;34:7;34:8;34:9;34:A;34:B;34:C;34:D;34:E;34:F;33:70;34:1;34:2;34:3;34:4;34:5;34:6;34:7",
    "34:8;34:9;34:A;34:B;34:C;34:D;34:E;34:F;33:80;34:1;34:2;34:3;34:4;34:5;34:6;34:7;34:8;34:9",
    "34:A;34:B;34:C;34:D;34:E;34:F;33:90;34:1;34:2;34:3;34:4;34:5;34:6;34:7;34:8;34:9;34:A;34:B",
    "34:C;34:D;34:E;34:F;33:A0;34:1;34:2;34:3;34:4;34:5;34:6;34:7;34:8;34:9;34:A;34:B;34:C;34:D",
    "34:E;34:F;33:B0;34:1;34:2;34:3;34:4;34:5;34:6;34:7;34:8;34:9;34:A;34:B;34:C;34:D;34:E;34:F",
    "33:C0;34:1;34:2;34:3;34:4;34:5;34:6;34:7;34:8;34:9;34:A;34:B;34:C;34:D;34:E;34:F;33:D0;34:1",
    "34:2;34:3;34:4;34:5;34:6;34:7;34:8;34:9;34:A"]),
  (0x18BDB, [
    "KHITAN SMALL SCRIPT CHARACTER-18BDB;34:C;34:D;34:E;34:F;33:E0;34:1;34:2;34:3;34:4;34:5;34:6",
    "34:7;34:8;34:9;34:A;34:B;34:C;34:D;34:E;34:F;33:F0;34:1;34:2;34:3;34:4;34:5;34:6;34:7;34:8",
    "34:9;34:A;34:B;34:C;34:D;34:E;34:F;32:C00;34:1;34:2;34:3;34:4;34:5;34:6;34:7;34:8;34:9;34:A",
    "34:B;34:C;34:D;34:E;34:F;33:10;34:1;34:2;34:3;34:4;34:5;34:6;34:7;34:8;34:9;34:A;34:B;34:C",
    "34:D;34:E;34:F;33:20;34:1;34:2;34:3;34:4;34:5;34:6;34:7;34:8;34:9;34:A;34:B;34:C;34:D;34:E",
    "34:F;33:30;34:1;34:2;34:3;34:4;34:5;34:6;34:7;34:8;34:9;34:A;34:B;34:C;34:D;34:E;34:F;33:40",
    "34:1;34:2;34:3;34:4;34:5;34:6;34:7;34:8;34:9;34:A;34:B;34:C;34:D;34:E;34:F;33:50;34:1;34:2",
    "34:3;34:4;34:5;34:6;34:7;34:8;34:9;34:A;34:B;34:C;34:D;34:E;34:F;33:60;34:1;34:2;34:3;34:4",
    "34:5;34:6;34:7;34:8;34:9;34:A;34:B;34:C;34:D;34:E;34:F;33:70;34:1;34:2;34:3;34:4;34:5;34:6",
    "34:7;34:8;34:9;34:A;34:B;34:C;34:D;34:E;34:F;33:80;34:1;34:2;34:3;34:4;34:5;34:6;34:7;34:8",
    "34:9;34:A;34:B;34:C;34:D;34:E;34:F;33:90;34:1;34:2;34:3;34:4;34:5;34:6;34:7;34:8;34:9;34:A",
    "34:B;34:C;34:D;34:E;34:F;33:A0;34:1;34:2;34:3;34:4;34:5;34:6;34:7;34:8;34:9;34:A;34:B;34:C",
    "34:D;34:E;34:F;33:B0;34:1;34:2;34:3;34:4;34:5;34:6;34:7;34:8;34:9;34:A;34:B;34:C;34:D;34:E",
    "34:F;33:C0;34:1;34:2;34:3;34:4;34:5;34:6;34:7;34:8;34:9;34:A;34:B;34:C;34:D;34:E;34:F;33:D0",
    "34:1;34:2;34:3;34:4;34:5"]),
  (0x1AFF0, [
    "KATAKANA LETTER MINNAN TONE-2;28:3;28:4;28:5;;KATAKANA LETTER MINNAN TONE-7;28:8",
    "23:NASALIZED TONE-1;38:2;38:3;38:4;38:5;;KATAKANA LETTER MINNAN NASALIZED TONE-7;38:8;",
    "KATAKANA LETTER ARCHAIC E;HIRAGANA LETTER ARCHAIC YE;HENTAIGANA LETTER A-1;20:2;20:3;20:WO",
    "18:I-1;20:2;20:3;20:4;18:U-1;20:2;20:3;20:4;20:5;18:E-2;20:3;20:4;20:5;20:6;18:O-1;20:2;20:3",
    "18:KA-1;21:2;21:3;21:4;21:5;21:6;21:7;21:8;21:9;21:10;22:1;21:KE;19:I-1;21:2;21:3;21:4;21:5",
    "21:6;21:7;21:8;19:U-1;21:2;21:3;21:4;21:5;21:6;21:7;19:E-1;21:2;21:3;21:4;21:5;21:6;19:O-1",
    "21:2;21:3;21:KI;18:SA-1;21:2;21:3;21:4;21:5;21:6;21:7;21:8;19:I-1;21:2;21:3;21:4;21:5;21:6",
    "19:U-1;21:2;21:3;21:4;21:5;21:6;21:7;21:8;19:E-1;21:2;21:3;21:4;21:5;19:O-1;21:2;21:3;21:4",
    "21:5;21:6;21:7;18:TA-1;21:2;21:3;21:4;19:I-1;21:2;21:3;21:4;21:5;21:6;21:7;19:U-1;21:2;21:3",
    "21:4;21:TO;19:E-1;21:2;21:3;21:4;21:5;21:6;21:7;21:8;21:9;19:O-1;21:2;21:3;21:4;21:5;21:6",
    "21:RA;18:NA-1;21:2;21:3;21:4;21:5;21:6;21:7;21:8;21:9;19:I-1;21:2;21:3;21:4;21:5;21:6;21:7",
    "21:TE;19:U-1;21:2;21:3;19:E-1;21:2;21:3;21:4;21:5;21:6;21:KO;19:O-1;21:2;21:3;21:4;21:5",
    "18:HA-1;21:2;21:3;21:4;21:5;21:6;21:7;21:8;21:9;21:10;22:1;19:I-1;21:2;21:3;21:4;21:5;21:6",
    "21:7;19:U-1;21:2;21:3;19:E-1;21:2;21:3;21:4;21:5;21:6;21:7;19:O-1;21:2;21:3;21:4;21:5;21:6",
    "21:7;21:8;18:MA-1;21:2;21:3;21:4;21:5;21:6;21:7;19:I-1;21:2;21:3;21:4;21:5;21:6;21:7;19:U-1",
    "21:2;21:3;21:4;19:E-1;21:2;21:MA;19:O-1;21:2;21:3;21:4;21:5;21:6;18:YA-1;21:2;21:3;21:4;21:5",
    "21:YO;19:U-1;21:2;21:3;21:4;19:O-1;21:2;21:3;21:4;21:5;21:6;18:RA-1;21:2;21:3;21:4;19:I-1",
    "21:2;21:3;21:4;21:5;21:6;21:7;19:U-1;21:2;21:3;21:4;21:5;21:6;19:E-1;21:2;21:3;21:4;19:O-1",
    "21:2;21:3;21:4;21:5;21:6;18:WA-1;21:2;21:3;21:4;21:5;19:I-1;21:2;21:3;21:4;21:5;19:E-1;21:2",
    "21:3;21:4;19:O-1;21:2;21:3;21:4;21:5;21:6;21:7;18:N-MU-MO-1;26:2;HIRAGANA LETTER ARCHAIC WU",
    "KATAKANA LETTER ARCHAIC YI;25:E;24:WU;;;;;;;;;;;;;;;;HIRAGANA LETTER SMALL KO;;;;;;;;;;;;;;;",
    ";;;;;;;;;;;;;;HIRAGANA LETTER SMALL WI;23:E;23:O;;;KATAKANA LETTER SMALL KO;;;;;;;;;;;;;;",
    "KATAKANA LETTER SMALL WI;23:E;23:O;22:N;;;;;;;;;NUSHU CHARACTER-1B170;20:1;20:2;20:3;20:4",
    "20:5;20:6;20:7;20:8;20:9;20:A;20:B;20:C;20:D;20:E;20:F;19:80;20:1;20:2;20:3;20:4;20:5;20:6",
    "20:7;20:8;20:9;20:A;20:B;20:C;20:D;20:E;20:F;19:90;20:1;20:2;20:3;20:4;20:5;20:6;20:7;20:8",
    "20:9;20:A;20:B;20:C;20:D;20:E;20:F;19:A0;20:1;20:2;20:3;20:4;20:5;20:6;20:7;20:8;20:9;20:A",
    "20:B;20:C;20:D;20:E;20:F;19:B0;20:1;20:2;20:3;20:4;20:5;20:6;20:7;20:8;20:9;20:A;20:B;20:C",
    "20:D;20:E;20:F;19:C0;20:1;20:2;20:3;20:4;20:5;20:6;20:7;20:8;20:9;20:A;20:B;20:C;20:D;20:E",
    "20:F;19:D0;20:1;20:2;20:3;20:4;20:5;20:6;20:7;20:8;20:9;20:A;20:B;20:C;20:D;20:E;20:F;19:E0",
    "20:1;20:2;20:3;20:4;20:5;20:6;20:7;20:8;20:9;20:A;20:B;20:C;20:D;20:E;20:F;19:F0;20:1;20:2",
    "20:3;20:4;20:5;20:6;20:7;20:8;20:9;20:A;20:B;20:C;20:D;20:E;20:F;18:200;20:1;20:2;20:3;20:4",
    "20:5;20:6;20:7;20:8;20:9;20:A;20:B;20:C;20:D;20:E;20:F;19:10;20:1;20:2;20:3;20:4;20:5;20:6",
    "20:7;20:8;20:9;20:A;20:B;20:C;20:D;20:E;20:F;19:20;20:1;20:2;20:3;20:4;20:5;20:6;20:7;20:8",
    "20:9;20:A;20:B;20:C;20:D;20:E;20:F;19:30;20:1;20:2;20:3;20:4;20:5;20:6;20:7;20:8;20:9;20:A",
    "20:B;20:C;20:D;20:E;20:F;19:40;20:1;20:2;20:3;20:4;20:5;20:6;20:7;20:8;20:9;20:A;20:B;20:C",
    "20:D;20:E;20:F;19:50;20:1;20:2;20:3;20:4;20:5;20:6;20:7;20:8;20:9;20:A;20:B;20:C;20:D;20:E",
    "20:F;19:60;20:1;20:2;20:3;20:4;20:5;20:6;20:7;20:8;20:9;20:A;20:B;20:C;20:D;20:E;20:F;19:70",
    "20:1;20:2;20:3;20:4;20:5;20:6;20:7;20:8;20:9;20:A;20:B;20:C;20:D;20:E;20:F;19:80;20:1;20:2",
    "20:3;20:4;20:5;20:6;20:7;20:8;20:9;20:A;20:B;20:C;20:D;20:E;20:F;19:90;20:1;20:2;20:3;20:4",
    "20:5;20:6;20:7;20:8;20:9;20:A;20:B;20:C;20:D;20:E;20:F;19:A0;20:1;20:2;20:3;20:4;20:5;20:6",
    "20:7;20:8;20:9;20:A;20:B;20:C;20:D;20:E;20:F;19:B0;20:1;20:2;20:3;20:4;20:5;20:6;20:7;20:8",
    "20:9;20:A;20:B;20:C;20:D;20:E;20:F;19:C0;20:1;20:2;20:3;20:4;20:5;20:6;20:7;20:8;20:9;20:A",
    "20:B;20:C;20:D;20:E;20:F;19:D0;20:1;20:2;20:3;20:4;20:5;20:6;20:7;20:8;20:9;20:A;20:B;20:C",
    "20:D;20:E;20:F;19:E0;20:1;20:2;20:3;20:4;20:5;20:6;20:7;20:8;20:9;20:A;20:B;20:C;20:D;20:E",
    "20:F;19:F0;20:1;20:2;20:3;20:4;20:5;20:6;20:7;20:8;20:9;20:A;20:B"])]

end CharacterNames

end LocationDrift
