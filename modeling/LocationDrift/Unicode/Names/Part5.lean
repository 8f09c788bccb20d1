/-!
# Character names, part 5

The formal names of the named code points from U+1BC00 to U+1FBF9, by blocks of consecutive
code points: a block gives its first code point and the names of it and of the code points after
it, in lines of names separated by `;` (the lines joined by `;` too), an empty name standing
for a code point without one. A name written `k:rest` is the first `k` characters of the name
before it followed by `rest`.
-/

namespace LocationDrift

namespace CharacterNames

/-- The names of the code points from U+1BC00 to U+1FBF9. -/
def part5 : List (Nat × List String) := [
  (0x1BC00, [
    "DUPLOYAN LETTER H;16:X;16:P;16:T;16:F;16:K;16:L;16:B;16:D;16:V;16:G;16:R;16:P N;16:D S",
    "16:F N;16:K M;16:R S;16:TH;16:SLOAN DH;16:DH;16:KK;16:SLOAN J;16:HL;16:LH;16:RH;16:M;16:N",
    "16:J;16:S;16:M N;16:N M;16:J M;16:S J;16:M WITH DOT;16:N WITH DOT;16:J WITH DOT",
    "26:S INSIDE AND ABOVE;16:S WITH DOT;26: BELOW;16:M S;16:N S;16:J S;16:S S;16:M N S;16:N M S",
    "16:J M S;16:S J S;16:J S WITH DOT;18:N;19: S;16:S T;19: R;18:P;19: R;16:T S;18:R S;16:W;17:H",
    "17: R;16:S N;18:M;16:K R S;16:G R S;16:S K;19: R;16:A;16:SLOAN OW;16:OA;17:;16:AOU;16:I;16:E",
    "16:IE;16:SHORT I;16:UI;16:EE;16:SLOAN EH;16:ROMANIAN I;16:SLOAN EE;16:LONG I;16:YE;16:U",
    "16:EU;16:XW;16:U N;16:LONG U;16:ROMANIAN U;16:UH;16:SLOAN U;16:OOH;17:W;17:U;16:WA;17:O;17:I",
    "17:EI;17:OW;16:NASAL U;22:O;22:I;22:A;16:PERNIN AN;24:M;16:SLOAN EN;22:AN;22:ON;16:VOCALIC M",
    ";;;;;DUPLOYAN AFFIX LEFT HORIZONTAL SECANT;15:MID HORIZONTAL SECANT",
    "15:RIGHT HORIZONTAL SECANT;15:LOW VERTICAL SECANT;15:MID VERTICAL SECANT",
    "15:HIGH VERTICAL SECANT;15:ATTACHED SECANT;24:LEFT-TO-RIGHT SECANT;24:TANGENT;26:IL",
    "24:E HOOK;24:I HOOK;24:TANGENT HOOK;;;;DUPLOYAN AFFIX HIGH ACUTE;20:TIGHT ACUTE;20:GRAVE",
    "20:LONG GRAVE;20:DOT;20:CIRCLE;20:LINE;20:WAVE;20:VERTICAL;;;;;;;;DUPLOYAN AFFIX LOW ACUTE",
    "19:TIGHT ACUTE;19:GRAVE;19:LONG GRAVE;19:DOT;19:CIRCLE;19:LINE;19:WAVE;19:VERTICAL;19:ARROW;",
    ";DUPLOYAN SIGN O WITH CROSS;9:THICK LETTER SELECTOR;9:DOUBLE MARK",
    "9:PUNCTUATION CHINOOK FULL STOP;SHORTHAND FORMAT LETTER OVERLAP;17:CONTINUING OVERLAP",
    "17:DOWN STEP;17:UP STEP"]),
  (0x1CF00, [
    "ZNAMENNY COMBINING MARK GORAZDO NIZKO S KRYZHEM ON LEFT;24:NIZKO S KRYZHEM ON LEFT",
    "24:TSATA ON LEFT;24:GORAZDO NIZKO ON LEFT;24:NIZKO ON LEFT;24:SREDNE ON LEFT",
    "24:MALO POVYSHE ON LEFT;24:POVYSHE ON LEFT;24:VYSOKO ON LEFT",
    "24:MALO POVYSHE S KHOKHLOM ON LEFT;24:POVYSHE S KHOKHLOM ON LEFT",
    "24:VYSOKO S KHOKHLOM ON LEFT;24:GORAZDO NIZKO S KRYZHEM ON RIGHT;24:NIZKO S KRYZHEM ON RIGHT",
    "24:TSATA ON RIGHT;24:GORAZDO NIZKO ON RIGHT;24:NIZKO ON RIGHT;24:SREDNE ON RIGHT",
    "24:MALO POVYSHE ON RIGHT;24:POVYSHE ON RIGHT;24:VYSOKO ON RIGHT",
    "24:MALO POVYSHE S KHOKHLOM ON RIGHT;24:POVYSHE S KHOKHLOM ON RIGHT",
    "24:VYSOKO S KHOKHLOM ON RIGHT;24:TSATA S KRYZHEM;24:MALO POVYSHE S KRYZHEM",
    "24:STRANNO MALO POVYSHE;24:POVYSHE S KRYZHEM;33:TRANNO;24:VYSOKO S KRYZHEM",
    "24:MALO POVYSHE STRANNO;24:GORAZDO VYSOKO;24:ZELO;24:ON;24:RAVNO;24:TIKHAYA;24:BORZAYA",
    "24:UDARKA;24:PODVERTKA;24:LOMKA;24:KUPNAYA;25:ACHKA;24:ZEVOK;24:SKOBA;24:RAZSEKA",
    "24:KRYZH ON LEFT;;;ZNAMENNY COMBINING TONAL RANGE MARK MRACHNO;36:SVETLO;36:TRESVETLO",
    "19:MARK ZADERZHKA;24:DEMESTVENNY ZADERZHKA;24:OTSECHKA;24:PODCHASHIE",
    "34: WITH VERTICAL STROKE;24:CHASHKA;31: POLNAYA;24:OBLACHKO;24:SOROCHYA NOZHKA;24:TOCHKA",
    "24:DVOETOCHIE;19:ATTACHING VERTICAL OMET;19:MARK CURVED OMET;24:KRYZH",
    "19:LOWER TONAL RANGE INDICATOR;9:PRIZNAK MODIFIER LEVEL-2;32:3;26:DIRECTION FLIP;26:KRYZH",
    "26:ROG;;;;;;;;;;ZNAMENNY NEUME KRYUK;20: TIKHY;15:PARAKLIT;15:DVA V CHELNU;15:KLYUCH",
    "15:ZANOZHEK;15:STOPITSA;23: S OCHKOM;15:PEREVODKA;24: NEPOSTOYANNAYA",
    "15:STOPITSA WITH SOROCHYA NOZHKA;15:CHELYUSTKA;15:PALKA;15:ZAPYATAYA;15:GOLUBCHIK BORZY",
    "25:TIKHY;25:MRACHNY;25:SVETLY;25:TRESVETLY;15:VRAKHIYA PROSTAYA;24:MRACHNAYA;24:SVETLAYA",
    "24:TRESVETLAYA;24:KLYUCHEVAYA PROSTAYA;36:MRACHNAYA;36:SVETLAYA;36:TRESVETLAYA",
    "15:DOUBLE ZAPYATAYA;15:REVERSED CHELYUSTKA;15:DERBITSA;15:KHAMILO;15:CHASHKA;15:PODCHASHIE",
    "15:SKAMEYTSA MRACHNAYA;25:SVETLAYA;25:TRESVETLAYA;26:IKHAYA;15:DEMESTVENNY KLYUCH",
    "15:SKAMEYTSA KLYUCHEVAYA SVETLAYA;32:NEPOSTOYANNAYA;32:VAYA TIKHAYA;25:DVOECHELNAYA PROSTAYA",
    "38:SVETLAYA;38:NEPOSTOYANNAYA;38:KLYUCHEVAYA;16:LOZHITIE;24: S ZAPYATOY;25:ZAKRYTOE",
    "25:S KRYZHEM;15:KRYZH;15:ROG;15:FITA;15:KOBYLA;15:ZMEYTSA;15:STATYA;21: S ZAPYATOY",
    "24:KRYZHEM;24:ZAPYATOY I KRYZHEM;24:KRYZHEM I ZAPYATOY;22:ZAKRYTAYA;31: S ZAPYATOY",
    "22:S ROGOM;24:DVUMYA ZAPYATYMI;24:ZAPYATOY I PODCHASHIEM;15:POLKULIZMY",
    "15:STATYA NEPOSTOYANNAYA;17:RELA PROSTAYA;22:MRACHNOTIKHAYA;22:KRYZHEVAYA;22:POLUPOVODNAYA",
    "24:VODNAYA;22:NEPOSTOYANNAYA;22:KLYUCHEPOVODNAYA;29:NEPOSTOYANNAYA;22:TIKHAYA PUTNAYA",
    "22:DVOECHELNAYA;31:OKRYZHEVAYA;32:POVODNAYA;31:AYA KLYUCHEVAYA;31:OPOVODNAYA KLYUCHEVAYA",
    "22:GROMNAYA WITH SINGLE ZAPYATAYA;26:OPOVODNAYA WITH SINGLE ZAPYATAYA;26:NAYA;26:OPOVODNAYA",
    "36: WITH DOUBLE ZAPYATAYA;27:KRYZHEVAYA;37: POVODNAYA;15:MECHIK;21: POVODNY;22:KLYUCHEVOY",
    "29:POVODNY;29:NEPOSTOYANNY;15:STRELA TRYASOGLASNAYA;28:POVODNAYA;28:STRELNAYA;15:OSOKA",
    "20: SVETLAYA;21:TRESVETLAYA;21:KRYUKOVAYA SVETLAYA;22:LYUCHEVAYA SVETLAYA;33:NEPOSTOYANNAYA",
    "15:STRELA KRYUKOVAYA;32: POVODNAYA;33:GROMNAYA WITH SINGLE ZAPYATAYA",
    "37:OPOVODNAYA WITH SINGLE ZAPYATAYA;37:NAYA;37:OPOVODNAYA;47: WITH DOUBLE ZAPYATAYA",
    "38:KRYZHEVAYA;48: POVODNAYA;33:TRYASKA;15:KUFISMA;15:OBLAKO;15:DUDA;15:NEMKA;15:PAUK;;;;;;;;",
    ";;;;;;;;;;;;;;;;;;;;;;;;;;;;;;;;;;;;;;;;;;;;;;;;;;;;BYZANTINE MUSICAL SYMBOL PSILI;25:DASEIA",
    "25:PERISPOMENI;25:OXEIA EKFONITIKON;31:DIPLI;25:VAREIA EKFONITIKON;32:DIPLI;25:KATHISTI",
    "25:SYRMATIKI;25:PARAKLITIKI;25:YPOKRISIS;34: DIPLI;25:KREMASTI;25:APESO EKFONITIKON",
    "25:EXO EKFONITIKON;25:TELEIA;25:KENTIMATA;25:APOSTROFOS;35: DIPLI;25:SYNEVMA;25:THITA",
    "25:OLIGON ARCHAION;25:GORGON ARCHAION;25:PSILON;25:CHAMILON;25:VATHY;25:ISON ARCHAION",
    "25:KENTIMA ARCHAION;32:TA ARCHAION;25:SAXIMATA;25:PARICHON;25:STAVROS APODEXIA",
    "25:OXEIAI ARCHAION;25:VAREIAI ARCHAION;25:APODERMA ARCHAION;28:THEMA;25:KLASMA;25:REVMA",
    "25:PIASMA ARCHAION;25:TINAGMA;25:ANATRICHISMA;25:SEISMA;26:YNAGMA ARCHAION;33:META STAVROU",
    "25:OYRANISMA ARCHAION;25:THEMA;25:LEMOI;25:DYO;25:TRIA;26:ESSERA;25:KRATIMATA",
    "25:APESO EXO NEO;25:FTHORA ARCHAION;25:IMIFTHORA;25:TROMIKON ARCHAION;25:KATAVA TROMIKON",
    "25:PELASTON;26:SIFISTON;25:KONTEVMA;25:CHOREVMA ARCHAION;25:RAPISMA;25:PARAKALESMA ARCHAION",
    "30:LITIKI ARCHAION;25:ICHADIN;25:NANA;25:PETASMA;25:KONTEVMA ALLO;25:TROMIKON ALLO",
    "25:STRAGGISMATA;25:GRONTHISMATA;25:ISON NEO;25:OLIGON NEO;26:XEIA NEO;25:PETASTI;25:KOUFISMA",
    "25:PETASTOKOUFISMA;25:KRATIMOKOUFISMA;25:PELASTON NEO;25:KENTIMATA NEO ANO;32: NEO ANO",
    "25:YPSILI;25:APOSTROFOS NEO;34:I SYNDESMOS NEO;25:YPORROI;25:KRATIMOYPORROON;25:ELAFRON",
    "25:CHAMILI;25:MIKRON ISON;25:VAREIA NEO;25:PIASMA NEO;26:SIFISTON NEO;25:OMALON",
    "25:ANTIKENOMA;25:LYGISMA;25:PARAKLITIKI NEO;30:ALESMA NEO;25:ETERON PARAKALESMA;25:KYLISMA",
    "25:ANTIKENOKYLISMA;25:TROMIKON NEO;25:EKSTREPTON;25:SYNAGMA NEO;27:RMA;25:CHOREVMA NEO",
    "25:EPEGERMA;25:SEISMA NEO;25:XIRON KLASMA;25:TROMIKOPSIFISTON;25:PSIFISTOLYGISMA",
    "25:TROMIKOLYGISMA;32:PARAKALESMA;25:PSIFISTOPARAKALESMA;25:TROMIKOSYNAGMA;25:PSIFISTOSYNAGMA",
    "25:GORGOSYNTHETON;25:ARGOSYNTHETON;25:ETERON ARGOSYNTHETON;25:OYRANISMA NEO",
    "25:THEMATISMOS ESO;38:XO;30: APLOUN;28:S KAI APOTHES;25:KATAVASMA;25:ENDOFONON;25:YFEN KATO",
    "30:ANO;25:STAVROS;25:KLASMA ANO;25:DIPLI ARCHAION;25:KRATIMA ARCHAION;34:LLO;33:NEO",
    "25:APODERMA NEO;27:LI;25:DIPLI;25:TRIPLI;26:ETRAPLI;25:KORONIS;25:LEIMMA ENOS CHRONOU",
    "32:DYO CHRONON;32:TRION CHRONON;33:ESSARON CHRONON;32:IMISEOS CHRONOU;25:GORGON NEO ANO",
    "32:PARESTIGMENON ARISTERA;46:DEXIA;25:DIGORGON;33: PARESTIGMENON ARISTERA KATO;57:ANO",
    "48:DEXIA;25:TRIGORGON;25:ARGON;25:IMIDIARGON;25:DIARGON;25:AGOGI POLI ARGI;31:ARGOTERI;34:I",
    "31:METRIA;33:SI;31:GORGI;35:OTERI;31:POLI GORGI;25:MARTYRIA PROTOS ICHOS",
    "34:ALLI PROTOS ICHOS;34:DEYTEROS ICHOS;34:ALLI DEYTEROS ICHOS;34:TRITOS ICHOS;37:FONIAS",
    "35:ETARTOS ICHOS;43:LEGETOS ICHOS;34:LEGETOS ICHOS;34:PLAGIOS ICHOS",
    "25:ISAKIA TELOUS ICHIMATOS;25:APOSTROFOI TELOUS ICHIMATOS;25:FANEROSIS TETRAFONIAS",
    "35:MONOFONIAS;35:DIFONIAS;25:MARTYRIA VARYS ICHOS;34:PROTOVARYS ICHOS",
    "35:LAGIOS TETARTOS ICHOS;25:GORTHMIKON N APLOUN;38:DIPLOUN;25:ENARXIS KAI FTHORA VOU",
    "25:IMIFONON;29:THORON;25:FTHORA ARCHAION DEYTEROU ICHOU;32:DIATONIKI PA;42:NANA",
    "32:NAOS ICHOS;32:DIATONIKI DI;32:SKLIRON DIATONON DI;32:DIATONIKI KE;42:ZO;42:NI KATO;45:ANO",
    "32:MALAKON CHROMA DIFONIAS;47:MONOFONIAS;26:HTORA SKLIRON CHROMA VASIS",
    "26:THORA SKLIRON CHROMA SYNAFI;32:NENANO;25:CHROA ZYGOS;31:KLITON;31:SPATHI",
    "25:FTHORA I YFESIS TETARTIMORION;32:ENARMONIOS ANTIFONIA;25:YFESIS TRITIMORION",
    "25:DIESIS TRITIMORION;33:ETARTIMORION;32:APLI DYO DODEKATA;32:MONOGRAMMOS TESSERA DODEKATA",
    "32:DIGRAMMOS EX DODEKATA;32:TRIGRAMMOS OKTO DODEKATA;25:YFESIS APLI DYO DODEKATA",
    "32:MONOGRAMMOS TESSERA DODEKATA;32:DIGRAMMOS EX DODEKATA;32:TRIGRAMMOS OKTO DODEKATA",
    "25:GENIKI DIESIS;32:YFESIS;25:DIASTOLI APLI MIKRI;40:EGALI;34:DIPLI;34:THESEOS",
    "25:SIMANSIS THESEOS;41: DISIMOU;42:TRISIMOU;43:ETRASIMOU;34:ARSEOS;40: DISIMOU;41:TRISIMOU",
    "42:ETRASIMOU;25:DIGRAMMA GG;27:FTOGGOS OU;25:STIGMA;25:ARKTIKO PA;33:VOU;33:GA;33:DI;33:KE",
    "33:ZO;33:NI;25:KENTIMATA NEO MESO;32: NEO MESO;32:TA NEO KATO;32: NEO KATO;26:LASMA KATO",
    "25:GORGON NEO KATO;;;;;;;;;;;MUSICAL SYMBOL SINGLE BARLINE;15:DOUBLE BARLINE",
    "15:FINAL BARLINE;15:REVERSE FINAL BARLINE;15:DASHED BARLINE;15:SHORT BARLINE",
    "15:LEFT REPEAT SIGN;15:RIGHT REPEAT SIGN;16:EPEAT DOTS;15:DAL SEGNO;17: CAPO;15:SEGNO",
    "15:CODA;15:REPEATED FIGURE-1;31:2;31:3;15:FERMATA;22: BELOW;15:BREATH MARK;15:CAESURA",
    "15:BRACE;19:KET;15:ONE-LINE STAFF;15:TWO-LINE STAFF;16:HREE-LINE STAFF;15:FOUR-LINE STAFF",
    "16:IVE-LINE STAFF;15:SIX-LINE STAFF;19:STRING FRETBOARD;15:FOUR-STRING FRETBOARD;15:G CLEF",
    "21: OTTAVA ALTA;29:BASSA;15:C CLEF;15:F CLEF;21: OTTAVA ALTA;29:BASSA;15:DRUM CLEF-1;25:2;;",
    "MUSICAL SYMBOL MULTIPLE MEASURE REST;15:DOUBLE SHARP;22:FLAT;15:FLAT UP;20:DOWN",
    "15:NATURAL UP;23:DOWN;15:SHARP UP;21:DOWN;15:QUARTER TONE SHARP;28:FLAT;15:COMMON TIME",
    "16:UT TIME;15:OTTAVA ALTA;22:BASSA;15:QUINDICESIMA ALTA;28:BASSA;15:MULTI REST;15:WHOLE REST",
    "15:HALF REST;15:QUARTER REST;15:EIGHTH REST;15:SIXTEENTH REST;15:THIRTY-SECOND REST",
    "15:SIXTY-FOURTH REST;15:ONE HUNDRED TWENTY-EIGHTH REST;15:X NOTEHEAD;15:PLUS NOTEHEAD",
    "15:CIRCLE X NOTEHEAD;15:SQUARE NOTEHEAD WHITE;31:BLACK;15:TRIANGLE NOTEHEAD UP WHITE",
    "36:BLACK;33:LEFT WHITE;38:BLACK;33:RIGHT WHITE;39:BLACK;33:DOWN WHITE;38:BLACK",
    "33:UP RIGHT WHITE;42:BLACK;15:MOON NOTEHEAD WHITE;29:BLACK",
    "15:TRIANGLE-ROUND NOTEHEAD DOWN WHITE;44:BLACK;15:PARENTHESIS NOTEHEAD;15:VOID NOTEHEAD",
    "15:NOTEHEAD BLACK;16:ULL NOTEHEAD;15:CLUSTER NOTEHEAD WHITE;32:BLACK;15:BREVE;15:WHOLE NOTE",
    "15:HALF NOTE;15:QUARTER NOTE;15:EIGHTH NOTE;15:SIXTEENTH NOTE;15:THIRTY-SECOND NOTE",
    "15:SIXTY-FOURTH NOTE;15:ONE HUNDRED TWENTY-EIGHTH NOTE;15:COMBINING STEM;26:PRECHGESANG STEM",
    "25:TREMOLO-1;33:2;33:3;15:FINGERED TREMOLO-1;32:2;32:3;15:COMBINING AUGMENTATION DOT",
    "25:FLAG-1;30:2;30:3;30:4;30:5;15:BEGIN BEAM;15:END BEAM;15:BEGIN TIE;15:END TIE",
    "15:BEGIN SLUR;15:END SLUR;15:BEGIN PHRASE;15:END PHRASE;15:COMBINING ACCENT;25:STACCATO",
    "25:TENUTO;25:STACCATISSIMO;25:MARCATO;32:-STACCATO;25:ACCENT-STACCATO;25:LOURE",
    "15:ARPEGGIATO UP;26:DOWN;15:COMBINING DOIT;25:RIP;25:FLIP;25:SMEAR;25:BEND;25:DOUBLE TONGUE",
    "25:TRIPLE TONGUE;15:RINFORZANDO;15:SUBITO;15:Z;15:PIANO;15:MEZZO;15:FORTE;15:CRESCENDO",
    "15:DECRESCENDO;15:GRACE NOTE SLASH;26:NO SLASH;15:TR;16:URN;15:INVERTED TURN;15:TURN SLASH",
    "20:UP;15:ORNAMENT STROKE-1;31:2;31:3;31:4;31:5;31:6;31:7;31:8;31:9;31:10;32:1;15:HAUPTSTIMME",
    "15:NEBENSTIMME;15:END OF STIMME;15:DEGREE SLASH;15:COMBINING DOWN BOW;25:UP BOW;25:HARMONIC",
    "25:SNAP PIZZICATO;15:PEDAL MARK;21:UP MARK;15:HALF PEDAL MARK;15:GLISSANDO UP;25:DOWN",
    "15:WITH FINGERNAILS;15:DAMP;19: ALL;15:MAXIMA;15:LONGA;15:BREVIS;15:SEMIBREVIS WHITE",
    "26:BLACK;15:MINIMA;21: BLACK;15:SEMIMINIMA WHITE;26:BLACK;15:FUSA WHITE;20:BLACK",
    "15:LONGA PERFECTA REST;21:IMPERFECTA REST;15:BREVIS REST;15:SEMIBREVIS REST;15:MINIMA REST",
    "15:SEMIMINIMA REST;15:TEMPUS PERFECTUM CUM PROLATIONE PERFECTA;47:IMPERFECTA",
    "47:PERFECTA DIMINUTION-1;22:IMPERFECTUM CUM PROLATIONE PERFECTA;49:IMPERFECTA",
    "59: DIMINUTION-1;71:2;71:3;15:CROIX;15:GREGORIAN C CLEF;25:F CLEF;15:SQUARE B;15:VIRGA",
    "15:PODATUS;15:CLIVIS;15:SCANDICUS;15:CLIMACUS;15:TORCULUS;15:PORRECTUS;24: FLEXUS",
    "15:SCANDICUS FLEXUS"]),
  (0x1D1DC, [
    "MUSICAL SYMBOL TORCULUS RESUPINUS;15:PES SUBPUNCTIS;15:KIEVAN C CLEF;22:END OF PIECE",
    "22:FINAL NOTE;22:RECITATIVE MARK;22:WHOLE NOTE;22:HALF NOTE;22:QUARTER NOTE STEM DOWN;40:UP",
    "22:EIGHTH NOTE STEM DOWN;39:UP;22:FLAT SIGN;15:SORI;15:KORON;;;;;;;;;;;;;;;;;;;;;",
    "GREEK VOCAL NOTATION SYMBOL-1;28:2;28:3;28:4;28:5;28:6;28:7;28:8;28:9;28:10;29:1;29:2;29:3",
    "29:4;29:5;29:6;29:7;29:8;29:9;28:20;29:1;29:2;29:3;29:4;28:50;29:1;29:2;29:3;29:4",
    "6:INSTRUMENTAL NOTATION SYMBOL-1;35:2;35:4;35:5;35:7;35:8;35:11;36:2;36:3;36:4;36:7;36:8",
    "36:9;35:23;36:4;36:5;36:6;36:7;36:9;35:30;36:2;36:6;36:7;36:8;36:9;35:40;36:2;36:3;36:5;36:7",
    "36:8;36:9;35:50;36:1;36:2;36:3;36:4;COMBINING GREEK MUSICAL TRISEME;25:ETRASEME;24:PENTASEME",
    "GREEK MUSICAL LEIMMA"]),
  (0x1D2C0, [
    "KAKTOVIK NUMERAL ZERO;17:ONE;17:TWO;18:HREE;17:FOUR;18:IVE;17:SIX;18:EVEN;17:EIGHT;17:NINE",
    "17:TEN;17:ELEVEN;17:TWELVE;18:HIRTEEN;17:FOURTEEN;18:IFTEEN;17:SIXTEEN;18:EVENTEEN",
    "17:EIGHTEEN;17:NINETEEN;;;;;;;;;;;;;MAYAN NUMERAL ZERO;14:ONE;14:TWO;15:HREE;14:FOUR;15:IVE",
    "14:SIX;15:EVEN;14:EIGHT;14:NINE;14:TEN;14:ELEVEN;14:TWELVE;15:HIRTEEN;14:FOURTEEN;15:IFTEEN",
    "14:SIXTEEN;15:EVENTEEN;14:EIGHTEEN;14:NINETEEN;;;;;;;;;;;;;MONOGRAM FOR EARTH",
    "DIGRAM FOR HEAVENLY EARTH;12:UMAN EARTH;11:EARTHLY HEAVEN;20:UMAN;16:;TETRAGRAM FOR CENTRE",
    "14:FULL CIRCLE;14:MIRED;14:BARRIER;14:KEEPING SMALL;14:CONTRARIETY;14:ASCENT;14:OPPOSITION",
    "14:BRANCHING OUT;14:DEFECTIVENESS OR DISTORTION;15:IVERGENCE;14:YOUTHFULNESS;14:INCREASE",
    "14:PENETRATION;14:REACH;14:CONTACT;14:HOLDING BACK;14:WAITING;14:FOLLOWING;14:ADVANCE",
    "14:RELEASE;16:SISTANCE;14:EASE;14:JOY;14:CONTENTION;14:ENDEAVOUR;14:DUTIES;14:CHANGE",
    "14:DECISIVENESS;14:BOLD RESOLUTION;14:PACKING;14:LEGION;14:CLOSENESS;14:KINSHIP;14:GATHERING",
    "14:STRENGTH;14:PURITY;14:FULLNESS;14:RESIDENCE;14:LAW OR MODEL;14:RESPONSE;14:GOING TO MEET",
    "14:ENCOUNTERS;14:STOVE;14:GREATNESS;14:ENLARGEMENT;14:PATTERN;14:RITUAL;14:FLIGHT",
    "14:VASTNESS OR WASTING;14:CONSTANCY;14:MEASURE;14:ETERNITY;14:UNITY;14:DIMINISHMENT",
    "14:CLOSED MOUTH;14:GUARDEDNESS;15:ATHERING IN;14:MASSING;14:ACCUMULATION;14:EMBELLISHMENT",
    "14:DOUBT;14:WATCH;14:SINKING;14:INNER;14:DEPARTURE;15:ARKENING;15:IMMING;14:EXHAUSTION",
    "14:SEVERANCE;15:TOPPAGE;14:HARDNESS;14:COMPLETION;15:LOSURE;14:FAILURE;14:AGGRAVATION",
    "14:COMPLIANCE;14:ON THE VERGE;14:DIFFICULTIES;14:LABOURING;14:FOSTERING;;;;;;;;;",
    "COUNTING ROD UNIT DIGIT ONE;24:TWO;25:HREE;24:FOUR;25:IVE;24:SIX;25:EVEN;24:EIGHT;24:NINE",
    "13:TENS DIGIT ONE;24:TWO;25:HREE;24:FOUR;25:IVE;24:SIX;25:EVEN;24:EIGHT;24:NINE",
    "IDEOGRAPHIC TALLY MARK ONE;23:TWO;24:HREE;23:FOUR;24:IVE;TALLY MARK ONE;11:FIVE"]),
  (0x1D400, [
    "MATHEMATICAL BOLD CAPITAL A;26:B;26:C;26:D;26:E;26:F;26:G;26:H;26:I;26:J;26:K;26:L;26:M;26:N",
    "26:O;26:P;26:Q;26:R;26:S;26:T;26:U;26:V;26:W;26:X;26:Y;26:Z;18:SMALL A;24:B;24:C;24:D;24:E",
    "24:F;24:G;24:H;24:I;24:J;24:K;24:L;24:M;24:N;24:O;24:P;24:Q;24:R;24:S;24:T;24:U;24:V;24:W",
    "24:X;24:Y;24:Z;13:ITALIC CAPITAL A;28:B;28:C;28:D;28:E;28:F;28:G;28:H;28:I;28:J;28:K;28:L",
    "28:M;28:N;28:O;28:P;28:Q;28:R;28:S;28:T;28:U;28:V;28:W;28:X;28:Y;28:Z;20:SMALL A;26:B;26:C",
    "26:D;26:E;26:F;26:G;;MATHEMATICAL ITALIC SMALL I;26:J;26:K;26:L;26:M;26:N;26:O;26:P;26:Q",
    "26:R;26:S;26:T;26:U;26:V;26:W;26:X;26:Y;26:Z;13:BOLD ITALIC CAPITAL A;33:B;33:C;33:D;33:E",
    "33:F;33:G;33:H;33:I;33:J;33:K;33:L;33:M;33:N;33:O;33:P;33:Q;33:R;33:S;33:T;33:U;33:V;33:W",
    "33:X;33:Y;33:Z;25:SMALL A;31:B;31:C;31:D;31:E;31:F;31:G;31:H;31:I;31:J;31:K;31:L;31:M;31:N",
    "31:O;31:P;31:Q;31:R;31:S;31:T;31:U;31:V;31:W;31:X;31:Y;31:Z;13:SCRIPT CAPITAL A;",
    "MATHEMATICAL SCRIPT CAPITAL C;28:D;;;MATHEMATICAL SCRIPT CAPITAL G;;",
    "MATHEMATICAL SCRIPT CAPITAL J;28:K;;;MATHEMATICAL SCRIPT CAPITAL N;28:O;28:P;28:Q;",
    "MATHEMATICAL SCRIPT CAPITAL S;28:T;28:U;28:V;28:W;28:X;28:Y;28:Z;20:SMALL A;26:B;26:C;26:D;",
    "MATHEMATICAL SCRIPT SMALL F;;MATHEMATICAL SCRIPT SMALL H;26:I;26:J;26:K;26:L;26:M;26:N;",
    "MATHEMATICAL SCRIPT SMALL P;26:Q;26:R;26:S;26:T;26:U;26:V;26:W;26:X;26:Y;26:Z",
    "13:BOLD SCRIPT CAPITAL A;33:B;33:C;33:D;33:E;33:F;33:G;33:H;33:I;33:J;33:K;33:L;33:M;33:N",
    "33:O;33:P;33:Q;33:R;33:S;33:T;33:U;33:V;33:W;33:X;33:Y;33:Z;25:SMALL A;31:B;31:C;31:D;31:E",
    "31:F;31:G;31:H;31:I;31:J;31:K;31:L;31:M;31:N;31:O;31:P;31:Q;31:R;31:S;31:T;31:U;31:V;31:W",
    "31:X;31:Y;31:Z;13:FRAKTUR CAPITAL A;29:B;;MATHEMATICAL FRAKTUR CAPITAL D;29:E;29:F;29:G;;",
    "MATHEMATICAL FRAKTUR CAPITAL J;29:K;29:L;29:M;29:N;29:O;29:P;29:Q;",
    "MATHEMATICAL FRAKTUR CAPITAL S;29:T;29:U;29:V;29:W;29:X;29:Y;;MATHEMATICAL FRAKTUR SMALL A",
    "27:B;27:C;27:D;27:E;27:F;27:G;27:H;27:I;27:J;27:K;27:L;27:M;27:N;27:O;27:P;27:Q;27:R;27:S",
    "27:T;27:U;27:V;27:W;27:X;27:Y;27:Z;13:DOUBLE-STRUCK CAPITAL A;35:B;",
    "MATHEMATICAL DOUBLE-STRUCK CAPITAL D;35:E;35:F;35:G;;MATHEMATICAL DOUBLE-STRUCK CAPITAL I",
    "35:J;35:K;35:L;35:M;;MATHEMATICAL DOUBLE-STRUCK CAPITAL O;;;",
    "MATHEMATICAL DOUBLE-STRUCK CAPITAL S;35:T;35:U;35:V;35:W;35:X;35:Y;",
    "MATHEMATICAL DOUBLE-STRUCK SMALL A;33:B;33:C;33:D;33:E;33:F;33:G;33:H;33:I;33:J;33:K;33:L",
    "33:M;33:N;33:O;33:P;33:Q;33:R;33:S;33:T;33:U;33:V;33:W;33:X;33:Y;33:Z",
    "13:BOLD FRAKTUR CAPITAL A;34:B;34:C;34:D;34:E;34:F;34:G;34:H;34:I;34:J;34:K;34:L;34:M;34:N",
    "34:O;34:P;34:Q;34:R;34:S;34:T;34:U;34:V;34:W;34:X;34:Y;34:Z;26:SMALL A;32:B;32:C;32:D;32:E",
    "32:F;32:G;32:H;32:I;32:J;32:K;32:L;32:M;32:N;32:O;32:P;32:Q;32:R;32:S;32:T;32:U;32:V;32:W",
    "32:X;32:Y;32:Z;13:SANS-SERIF CAPITAL A;32:B;32:C;32:D;32:E;32:F;32:G;32:H;32:I;32:J;32:K",
    "32:L;32:M;32:N;32:O;32:P;32:Q;32:R;32:S;32:T;32:U;32:V;32:W;32:X;32:Y;32:Z;24:SMALL A;30:B",
    "30:C;30:D;30:E;30:F;30:G;30:H;30:I;30:J;30:K;30:L;30:M;30:N;30:O;30:P;30:Q;30:R;30:S;30:T",
    "30:U;30:V;30:W;30:X;30:Y;30:Z;24:BOLD CAPITAL A;37:B;37:C;37:D;37:E;37:F;37:G;37:H;37:I;37:J",
    "37:K;37:L;37:M;37:N;37:O;37:P;37:Q;37:R;37:S;37:T;37:U;37:V;37:W;37:X;37:Y;37:Z;29:SMALL A",
    "35:B;35:C;35:D;35:E;35:F;35:G;35:H;35:I;35:J;35:K;35:L;35:M;35:N;35:O;35:P;35:Q;35:R;35:S",
    "35:T;35:U;35:V;35:W;35:X;35:Y;35:Z;24:ITALIC CAPITAL A;39:B;39:C;39:D;39:E;39:F;39:G;39:H",
    "39:I;39:J;39:K;39:L;39:M;39:N;39:O;39:P;39:Q;39:R;39:S;39:T;39:U;39:V;39:W;39:X;39:Y;39:Z",
    "31:SMALL A;37:B;37:C;37:D;37:E;37:F;37:G;37:H;37:I;37:J;37:K;37:L;37:M;37:N;37:O;37:P;37:Q",
    "37:R;37:S;37:T;37:U;37:V;37:W;37:X;37:Y;37:Z;24:BOLD ITALIC CAPITAL A;44:B;44:C;44:D;44:E",
    "44:F;44:G;44:H;44:I;44:J;44:K;44:L;44:M;44:N;44:O;44:P;44:Q;44:R;44:S;44:T;44:U;44:V;44:W",
    "44:X;44:Y;44:Z;36:SMALL A;42:B;42:C;42:D;42:E;42:F;42:G;42:H;42:I;42:J;42:K;42:L;42:M;42:N",
    "42:O;42:P;42:Q;42:R;42:S;42:T;42:U;42:V;42:W;42:X;42:Y;42:Z;13:MONOSPACE CAPITAL A;31:B;31:C",
    "31:D;31:E;31:F;31:G;31:H;31:I;31:J;31:K;31:L;31:M;31:N;31:O;31:P;31:Q;31:R;31:S;31:T;31:U",
    "31:V;31:W;31:X;31:Y;31:Z;23:SMALL A;29:B;29:C;29:D;29:E;29:F;29:G;29:H;29:I;29:J;29:K;29:L",
    "29:M;29:N;29:O;29:P;29:Q;29:R;29:S;29:T;29:U;29:V;29:W;29:X;29:Y;29:Z",
    "13:ITALIC SMALL DOTLESS I;34:J;;;MATHEMATICAL BOLD CAPITAL ALPHA;26:BETA;26:GAMMA;26:DELTA",
    "26:EPSILON;26:ZETA;26:ETA;26:THETA;26:IOTA;26:KAPPA;26:LAMDA;26:MU;26:NU;26:XI;26:OMICRON",
    "26:PI;26:RHO;26:THETA SYMBOL;26:SIGMA;26:TAU;26:UPSILON;26:PHI;26:CHI;26:PSI;26:OMEGA",
    "18:NABLA;18:SMALL ALPHA;24:BETA;24:GAMMA;24:DELTA;24:EPSILON;24:ZETA;24:ETA;24:THETA;24:IOTA",
    "24:KAPPA;24:LAMDA;24:MU;24:NU;24:XI;24:OMICRON;24:PI;24:RHO;24:FINAL SIGMA;24:SIGMA;24:TAU",
    "24:UPSILON;24:PHI;24:CHI;24:PSI;24:OMEGA;18:PARTIAL DIFFERENTIAL;18:EPSILON SYMBOL",
    "18:THETA SYMBOL;18:KAPPA SYMBOL;18:PHI SYMBOL"]),
  (0x1D6E0, [
    "MATHEMATICAL BOLD RHO SYMBOL;18:PI SYMBOL;13:ITALIC CAPITAL ALPHA;28:BETA;28:GAMMA;28:DELTA",
    "28:EPSILON;28:ZETA;28:ETA;28:THETA;28:IOTA;28:KAPPA;28:LAMDA;28:MU;28:NU;28:XI;28:OMICRON",
    "28:PI;28:RHO;28:THETA SYMBOL;28:SIGMA;28:TAU;28:UPSILON;28:PHI;28:CHI;28:PSI;28:OMEGA",
    "20:NABLA;20:SMALL ALPHA;26:BETA;26:GAMMA;26:DELTA;26:EPSILON;26:ZETA;26:ETA;26:THETA;26:IOTA",
    "26:KAPPA;26:LAMDA;26:MU;26:NU;26:XI;26:OMICRON;26:PI;26:RHO;26:FINAL SIGMA;26:SIGMA;26:TAU",
    "26:UPSILON;26:PHI;26:CHI;26:PSI;26:OMEGA;20:PARTIAL DIFFERENTIAL;20:EPSILON SYMBOL",
    "20:THETA SYMBOL;20:KAPPA SYMBOL;20:PHI SYMBOL;20:RHO SYMBOL;20:PI SYMBOL",
    "13:BOLD ITALIC CAPITAL ALPHA;33:BETA;33:GAMMA;33:DELTA;33:EPSILON;33:ZETA;33:ETA;33:THETA",
    "33:IOTA;33:KAPPA;33:LAMDA;33:MU;33:NU;33:XI;33:OMICRON;33:PI;33:RHO;33:THETA SYMBOL;33:SIGMA",
    "33:TAU;33:UPSILON;33:PHI;33:CHI;33:PSI;33:OMEGA;25:NABLA;25:SMALL ALPHA;31:BETA;31:GAMMA",
    "31:DELTA;31:EPSILON;31:ZETA;31:ETA;31:THETA;31:IOTA;31:KAPPA;31:LAMDA;31:MU;31:NU;31:XI",
    "31:OMICRON;31:PI;31:RHO;31:FINAL SIGMA;31:SIGMA;31:TAU;31:UPSILON;31:PHI;31:CHI;31:PSI",
    "31:OMEGA;25:PARTIAL DIFFERENTIAL;25:EPSILON SYMBOL;25:THETA SYMBOL;25:KAPPA SYMBOL",
    "25:PHI SYMBOL;25:RHO SYMBOL;25:PI SYMBOL;13:SANS-SERIF BOLD CAPITAL ALPHA;37:BETA;37:GAMMA",
    "37:DELTA;37:EPSILON;37:ZETA;37:ETA;37:THETA;37:IOTA;37:KAPPA;37:LAMDA;37:MU;37:NU;37:XI",
    "37:OMICRON;37:PI;37:RHO;37:THETA SYMBOL;37:SIGMA;37:TAU;37:UPSILON;37:PHI;37:CHI;37:PSI",
    "37:OMEGA;29:NABLA;29:SMALL ALPHA;35:BETA;35:GAMMA;35:DELTA;35:EPSILON;35:ZETA;35:ETA",
    "35:THETA;35:IOTA;35:KAPPA;35:LAMDA;35:MU;35:NU;35:XI;35:OMICRON;35:PI;35:RHO;35:FINAL SIGMA",
    "35:SIGMA;35:TAU;35:UPSILON;35:PHI;35:CHI;35:PSI;35:OMEGA;29:PARTIAL DIFFERENTIAL",
    "29:EPSILON SYMBOL;29:THETA SYMBOL;29:KAPPA SYMBOL;29:PHI SYMBOL;29:RHO SYMBOL;29:PI SYMBOL",
    "29:ITALIC CAPITAL ALPHA;44:BETA;44:GAMMA;44:DELTA;44:EPSILON;44:ZETA;44:ETA;44:THETA;44:IOTA",
    "44:KAPPA;44:LAMDA;44:MU;44:NU;44:XI;44:OMICRON;44:PI;44:RHO;44:THETA SYMBOL;44:SIGMA;44:TAU",
    "44:UPSILON;44:PHI;44:CHI;44:PSI;44:OMEGA;36:NABLA;36:SMALL ALPHA;42:BETA;42:GAMMA;42:DELTA",
    "42:EPSILON;42:ZETA;42:ETA;42:THETA;42:IOTA;42:KAPPA;42:LAMDA;42:MU;42:NU;42:XI;42:OMICRON",
    "42:PI;42:RHO;42:FINAL SIGMA;42:SIGMA;42:TAU;42:UPSILON;42:PHI;42:CHI;42:PSI;42:OMEGA",
    "36:PARTIAL DIFFERENTIAL;36:EPSILON SYMBOL;36:THETA SYMBOL;36:KAPPA SYMBOL;36:PHI SYMBOL",
    "36:RHO SYMBOL;36:PI SYMBOL;13:BOLD CAPITAL DIGAMMA;18:SMALL DIGAMMA;;",
    "MATHEMATICAL BOLD DIGIT ZERO;24:ONE;24:TWO;25:HREE;24:FOUR;25:IVE;24:SIX;25:EVEN;24:EIGHT",
    "24:NINE;13:DOUBLE-STRUCK DIGIT ZERO;33:ONE;33:TWO;34:HREE;33:FOUR;34:IVE;33:SIX;34:EVEN",
    "33:EIGHT;33:NINE;13:SANS-SERIF DIGIT ZERO;30:ONE;30:TWO;31:HREE;30:FOUR;31:IVE;30:SIX",
    "31:EVEN;30:EIGHT;30:NINE;24:BOLD DIGIT ZERO;35:ONE;35:TWO;36:HREE;35:FOUR;36:IVE;35:SIX",
    "36:EVEN;35:EIGHT;35:NINE;13:MONOSPACE DIGIT ZERO;29:ONE;29:TWO;30:HREE;29:FOUR;30:IVE;29:SIX",
    "30:EVEN;29:EIGHT;29:NINE;SIGNWRITING HAND-FIST INDEX;17:CIRCLE INDEX;18:UP INDEX",
    "17:OVAL INDEX;17:HINGE INDEX;17:ANGLE INDEX;17:FIST INDEX BENT;17:CIRCLE INDEX BENT",
    "17:FIST THUMB UNDER INDEX BENT;22:INDEX RAISED KNUCKLE;28:CUPPED;28:HINGED;34: LOW",
    "17:CIRCLE INDEX HINGE;17:FIST INDEX MIDDLE;17:CIRCLE INDEX MIDDLE;17:FIST INDEX MIDDLE BENT",
    "35:RAISED KNUCKLES;35:HINGED;28:UP MIDDLE HINGED;28:HINGED MIDDLE UP;28:MIDDLE CONJOINED",
    "44: INDEX BENT;45:MIDDLE BENT;45:CUPPED;45:HINGED;36:ROSSED;17:CIRCLE INDEX MIDDLE CROSSED",
    "17:FIST MIDDLE BENT OVER INDEX;22:INDEX BENT OVER MIDDLE;28:MIDDLE THUMB",
    "17:CIRCLE INDEX MIDDLE THUMB;17:FIST INDEX MIDDLE STRAIGHT THUMB BENT;35:BENT THUMB STRAIGHT",
    "35:THUMB BENT;35:HINGED SPREAD THUMB SIDE;28:UP MIDDLE HINGED THUMB SIDE;51:CONJOINED",
    "28:HINGED MIDDLE UP THUMB SIDE;28:MIDDLE UP SPREAD THUMB FORWARD;35:THUMB CUPPED;42:IRCLED",
    "41:HOOKED;42:INGED;22:THUMB BETWEEN INDEX MIDDLE STRAIGHT",
    "22:INDEX MIDDLE CONJOINED THUMB SIDE;55: CONJOINED;56:BENT;22:MIDDLE THUMB HOOKED INDEX UP",
    "22:INDEX THUMB HOOKED MIDDLE UP;28:MIDDLE CONJOINED HINGED THUMB SIDE;36:ROSSED THUMB SIDE",
    "36:ONJOINED THUMB FORWARD;45:CUPPED THUMB FORWARD;22:MIDDLE THUMB CUPPED INDEX UP",
    "22:INDEX THUMB CUPPED MIDDLE UP;22:MIDDLE THUMB CIRCLED INDEX UP;49:HINGED",
    "22:INDEX THUMB ANGLED OUT MIDDLE UP;41:IN MIDDLE UP;34:CIRCLED MIDDLE UP",
    "28:MIDDLE THUMB CONJOINED HINGED;41:ANGLED OUT;47:;22:MIDDLE THUMB ANGLED OUT INDEX UP",
    "52:CROSSED;42:INDEX UP;22:INDEX THUMB HOOKED MIDDLE HINGED;18:LAT FOUR FINGERS;34: BENT",
    "35:HINGED;35:CONJOINED;44: SPLIT;17:CLAW FOUR FINGERS CONJOINED",
    "17:FIST FOUR FINGERS CONJOINED BENT;17:HINGE FOUR FINGERS CONJOINED",
    "17:FLAT FIVE FINGERS SPREAD;22:HEEL FIVE FINGERS SPREAD;22:FIVE FINGERS SPREAD FOUR BENT",
    "22:HEEL FIVE FINGERS SPREAD FOUR BENT;22:FIVE FINGERS SPREAD BENT",
    "22:HEEL FIVE FINGERS SPREAD BENT;22:FIVE FINGERS SPREAD THUMB FORWARD",
    "17:CUP FIVE FINGERS SPREAD;40: OPEN;17:HINGE FIVE FINGERS SPREAD OPEN",
    "17:OVAL FIVE FINGERS SPREAD;17:FLAT FIVE FINGERS SPREAD HINGED;48: THUMB SIDE;49:NO THUMB",
    "21:;21: BETWEEN PALM FACINGS;22:HEEL;22:THUMB SIDE;22:HEEL THUMB SIDE;22:THUMB BENT",
    "28:FORWARD;22:SPLIT INDEX THUMB SIDE;28:CENTRE;34: THUMB SIDE;45: BENT;28:LITTLE;17:CLAW",
    "21: THUMB SIDE;22:NO THUMB;22:THUMB FORWARD;17:HOOK CURLICUE;21:;17:CUP OPEN;20:",
    "20: OPEN THUMB SIDE;21:THUMB SIDE;21:OPEN NO THUMB;21:NO THUMB;21:OPEN THUMB FORWARD",
    "21:THUMB FORWARD;19:RLICUE OPEN;25:;18:IRCLE;17:OVAL;21: THUMB SIDE;22:NO THUMB",
    "22:THUMB FORWARD;17:HINGE OPEN;27: THUMB FORWARD;22:;22: SMALL;23:OPEN THUMB SIDE",
    "23:THUMB SIDE;23:OPEN NO THUMB;23:NO THUMB;23:THUMB SIDE TOUCHING INDEX",
    "29:BETWEEN MIDDLE RING;17:ANGLE;17:FIST INDEX MIDDLE RING;17:CIRCLE INDEX MIDDLE RING",
    "17:HINGE INDEX MIDDLE RING;17:ANGLE INDEX MIDDLE RING;17:HINGE LITTLE",
    "17:FIST INDEX MIDDLE RING BENT;40:CONJOINED;17:HINGE INDEX MIDDLE RING CONJOINED",
    "17:FIST LITTLE DOWN;33: RIPPLE STRAIGHT;41:CURVED;34:OTHERS CIRCLED;29:UP",
    "22:THUMB UNDER LITTLE UP;17:CIRCLE LITTLE UP;17:OVAL LITTLE UP;17:ANGLE LITTLE UP",
    "17:FIST LITTLE RAISED KNUCKLE;29:BENT;29:TOUCHES THUMB;30:HUMB;17:HINGE LITTLE THUMB",
    "17:FIST LITTLE INDEX THUMB;17:HINGE LITTLE INDEX THUMB",
    "17:ANGLE LITTLE INDEX THUMB INDEX THUMB OUT;53:;17:FIST LITTLE INDEX;17:CIRCLE LITTLE INDEX",
    "17:HINGE LITTLE INDEX;17:ANGLE LITTLE INDEX;17:FIST INDEX MIDDLE LITTLE",
    "17:CIRCLE INDEX MIDDLE LITTLE;17:HINGE INDEX MIDDLE LITTLE;23:RING",
    "17:ANGLE INDEX MIDDLE LITTLE;17:FIST INDEX MIDDLE CROSS LITTLE",
    "17:CIRCLE INDEX MIDDLE CROSS LITTLE;17:FIST RING DOWN",
    "17:HINGE RING DOWN INDEX THUMB HOOK MIDDLE;17:ANGLE RING DOWN MIDDLE THUMB INDEX CROSS",
    "17:FIST RING UP;27:RAISED KNUCKLE;27:LITTLE;17:CIRCLE RING LITTLE;17:OVAL RING LITTLE",
    "17:ANGLE RING LITTLE;17:FIST RING MIDDLE;33: CONJOINED;34:RAISED KNUCKLES;27:INDEX;27:THUMB",
    "17:HOOK RING THUMB;17:FIST INDEX RING LITTLE;17:CIRCLE INDEX RING LITTLE",
    "18:URLICUE INDEX RING LITTLE ON;17:HOOK INDEX RING LITTLE OUT;40:IN;40:UNDER",
    "17:CUP INDEX RING LITTLE;17:HINGE INDEX RING LITTLE;17:ANGLE INDEX RING LITTLE OUT;40:",
    "17:FIST MIDDLE DOWN;17:HINGE MIDDLE;17:FIST MIDDLE UP;17:CIRCLE MIDDLE UP",
    "17:FIST MIDDLE RAISED KNUCKLE;29:UP THUMB SIDE;17:HOOK MIDDLE THUMB",
    "17:FIST MIDDLE THUMB LITTLE;29:LITTLE;29:RING LITTLE;17:CIRCLE MIDDLE RING LITTLE",
    "18:URLICUE MIDDLE RING LITTLE ON;19:P MIDDLE RING LITTLE;17:HINGE MIDDLE RING LITTLE",
    "17:ANGLE MIDDLE RING LITTLE OUT;42:IN;41:;17:CIRCLE MIDDLE RING LITTLE BENT",
    "18:LAW MIDDLE RING LITTLE CONJOINED;50: SIDE;17:HOOK MIDDLE RING LITTLE CONJOINED OUT;51:IN",
    "50:;18:INGE INDEX HINGED;17:FIST INDEX THUMB SIDE;17:HINGE INDEX THUMB SIDE",
    "17:FIST INDEX THUMB SIDE THUMB DIAGONAL;45:CONJOINED;45:BENT;39:INDEX BENT;39:BOTH BENT",
    "39:INDEX HINGE;34:FORWARD INDEX STRAIGHT;48:BENT;34:HOOK;34:CURLICUE;37:VE THUMB INSIDE",
    "17:CLAW INDEX THUMB CURVE THUMB INSIDE;17:FIST INDEX THUMB CURVE THUMB UNDER;35:IRCLE",
    "17:CUP INDEX THUMB;32: OPEN;17:HINGE INDEX THUMB OPEN;35:LARGE;34:;34: SMALL",
    "17:ANGLE INDEX THUMB OUT;35:IN;34:;17:FIST THUMB;27: HEEL;28:SIDE DIAGONAL;33:CONJOINED",
    "33:BENT;28:FORWARD;28:BETWEEN INDEX MIDDLE;36:MIDDLE RING;36:RING LITTLE",
    "28:UNDER TWO FINGERS;28:OVER TWO FINGERS;28:UNDER THREE FINGERS;34:FOUR FINGERS",
    "28:OVER FOUR RAISED KNUCKLES;21:;21: HEEL;12:TOUCH SINGLE;18:MULTIPLE;18:BETWEEN",
    "12:GRASP SINGLE;18:MULTIPLE;18:BETWEEN;12:STRIKE SINGLE;19:MULTIPLE;19:BETWEEN",
    "12:BRUSH SINGLE;18:MULTIPLE;18:BETWEEN;12:RUB SINGLE;16:MULTIPLE;16:BETWEEN",
    "12:SURFACE SYMBOLS;20:BETWEEN;13:QUEEZE LARGE SINGLE;20:SMALL SINGLE;20:LARGE MULTIPLE",
    "20:SMALL MULTIPLE;21:EQUENTIAL;12:FLICK LARGE SINGLE;18:SMALL SINGLE;18:LARGE MULTIPLE",
    "18:SMALL MULTIPLE;19:EQUENTIAL;12:SQUEEZE FLICK ALTERNATING;12:MOVEMENT-HINGE UP DOWN LARGE",
    "35:SMALL;30:SEQUENTIAL;27:DOWN SEQUENTIAL;27:UP DOWN ALTERNATING LARGE;47:SMALL",
    "27:SIDE TO SIDE SCISSORS;21:WALLPLANE FINGER CONTACT;21:FLOORPLANE FINGER CONTACT",
    "21:WALLPLANE SINGLE STRAIGHT SMALL;47:MEDIUM;47:LARGE;52:ST;38:WRIST FLEX;31:DOUBLE STRAIGHT",
    "38:WRIST FLEX;38:ALTERNATING;49: WRIST FLEX;31:CROSS;31:TRIPLE STRAIGHT MOVEMENT"]),
  (0x1D935, [
    "SIGNWRITING MOVEMENT-WALLPLANE TRIPLE WRIST FLEX;38:ALTERNATING;49: WRIST FLEX;31:BEND SMALL",
    "36:MEDIUM;36:LARGE;31:CORNER SMALL;38:MEDIUM;38:LARGE;38:ROTATION;32:HECK SMALL;37:MEDIUM",
    "37:LARGE;31:BOX SMALL;35:MEDIUM;35:LARGE;31:ZIGZAG SMALL;38:MEDIUM;38:LARGE;31:PEAKS SMALL",
    "37:MEDIUM;37:LARGE;12:TRAVEL-WALLPLANE ROTATION-WALLPLANE SINGLE;48:DOUBLE;48:ALTERNATING",
    "38:FLOORPLANE SINGLE;49:DOUBLE;49:ALTERNATING;29:SHAKING;29:ARM SPIRAL SINGLE;40:DOUBLE",
    "40:TRIPLE;12:MOVEMENT-DIAGONAL AWAY SMALL;35:MEDIUM;35:LARGE;40:ST;30:TOWARDS SMALL",
    "38:MEDIUM;38:LARGE;43:ST;30:BETWEEN AWAY SMALL;43:MEDIUM;43:LARGE;48:ST;38:TOWARDS SMALL",
    "46:MEDIUM;46:LARGE;51:ST;21:FLOORPLANE SINGLE STRAIGHT SMALL;48:MEDIUM;48:LARGE;53:ST",
    "39:WRIST FLEX;32:DOUBLE STRAIGHT;39:WRIST FLEX;39:ALTERNATING;50: WRIST FLEX;32:CROSS",
    "32:TRIPLE STRAIGHT MOVEMENT;39:WRIST FLEX;39:ALTERNATING MOVEMENT;51:WRIST FLEX;32:BEND",
    "32:CORNER SMALL;39:MEDIUM;39:LARGE;33:HECK;32:BOX SMALL;36:MEDIUM;36:LARGE;32:ZIGZAG SMALL",
    "39:MEDIUM;39:LARGE;32:PEAKS SMALL;38:MEDIUM;38:LARGE",
    "12:TRAVEL-FLOORPLANE ROTATION-FLOORPLANE SINGLE;50:DOUBLE;50:ALTERNATING;39:WALLPLANE SINGLE",
    "49:DOUBLE;49:ALTERNATING;30:SHAKING;12:MOVEMENT-WALLPLANE CURVE QUARTER SMALL;45:MEDIUM",
    "45:LARGE;50:ST;37:HALF-CIRCLE SMALL;49:MEDIUM;49:LARGE;54:ST;37:THREE-QUARTER CIRCLE SMALL",
    "58:MEDIUM;31:HUMP SMALL;36:MEDIUM;36:LARGE;31:LOOP SMALL;36:MEDIUM;36:LARGE;36:SMALL DOUBLE",
    "31:WAVE CURVE DOUBLE SMALL;49:MEDIUM;49:LARGE;42:TRIPLE SMALL;49:MEDIUM;49:LARGE",
    "31:CURVE THEN STRAIGHT;36:D CROSS SMALL;44:MEDIUM;12:ROTATION-WALLPLANE SINGLE;31:DOUBLE",
    "31:ALTERNATE;12:MOVEMENT-WALLPLANE SHAKING;31:CURVE HITTING FRONT WALL",
    "31:HUMP HITTING FRONT WALL;31:LOOP HITTING FRONT WALL;31:WAVE HITTING FRONT WALL",
    "12:ROTATION-WALLPLANE SINGLE HITTING FRONT WALL;31:DOUBLE HITTING FRONT WALL",
    "31:ALTERNATING HITTING FRONT WALL;12:MOVEMENT-WALLPLANE CURVE HITTING CHEST",
    "31:HUMP HITTING CHEST;31:LOOP HITTING CHEST;31:WAVE HITTING CHEST",
    "12:ROTATION-WALLPLANE SINGLE HITTING CHEST;31:DOUBLE HITTING CHEST",
    "31:ALTERNATING HITTING CHEST;12:MOVEMENT-WALLPLANE WAVE DIAGONAL PATH SMALL;50:MEDIUM",
    "50:LARGE;21:FLOORPLANE CURVE HITTING CEILING SMALL;54:LARGE",
    "32:HUMP HITTING CEILING SMALL DOUBLE;53:LARGE DOUBLE;53:SMALL TRIPLE;53:LARGE TRIPLE",
    "32:LOOP HITTING CEILING SMALL SINGLE;53:LARGE SINGLE;53:SMALL DOUBLE;53:LARGE DOUBLE",
    "32:WAVE HITTING CEILING SMALL;53:LARGE;12:ROTATION-FLOORPLANE SINGLE HITTING CEILING",
    "32:DOUBLE HITTING CEILING;32:ALTERNATING HITTING CEILING",
    "12:MOVEMENT-FLOORPLANE CURVE HITTING FLOOR SMALL;52:LARGE;32:HUMP HITTING FLOOR SMALL DOUBLE",
    "51:LARGE DOUBLE;51:TRIPLE SMALL TRIPLE;58:LARGE TRIPLE;32:LOOP HITTING FLOOR SMALL SINGLE",
    "51:LARGE SINGLE;51:SMALL DOUBLE;51:LARGE DOUBLE;32:WAVE HITTING FLOOR SMALL;51:LARGE",
    "12:ROTATION-FLOORPLANE SINGLE HITTING FLOOR;32:DOUBLE HITTING FLOOR",
    "32:ALTERNATING HITTING FLOOR;12:MOVEMENT-FLOORPLANE CURVE SMALL;38:MEDIUM;38:LARGE;43:ST",
    "38:COMBINED;32:HUMP SMALL;32:LOOP SMALL;32:WAVE SNAKE;38:MALL;37:LARGE",
    "12:ROTATION-FLOORPLANE SINGLE;32:DOUBLE;32:ALTERNATING",
    "12:MOVEMENT-FLOORPLANE SHAKING PARALLEL;21:WALLPLANE ARM CIRCLE SMALL SINGLE",
    "42:MEDIUM SINGLE;42:SMALL DOUBLE;42:MEDIUM DOUBLE",
    "21:FLOORPLANE ARM CIRCLE HITTING WALL SMALL SINGLE;56:MEDIUM SINGLE;56:LARGE SINGLE",
    "56:SMALL DOUBLE;56:MEDIUM DOUBLE;56:LARGE DOUBLE;21:WALLPLANE WRIST CIRCLE FRONT SINGLE",
    "50:DOUBLE;21:FLOORPLANE WRIST CIRCLE HITTING WALL SINGLE;58:DOUBLE",
    "21:WALLPLANE FINGER CIRCLES SINGLE;46:DOUBLE",
    "21:FLOORPLANE FINGER CIRCLES HITTING WALL SINGLE;60:DOUBLE;12:DYNAMIC ARROWHEAD SMALL",
    "30:LARGE;20:FAST;20:SLOW;20:TENSE;20:RELAXED;20:SIMULTANEOUS;32: ALTERNATING",
    "20:EVERY OTHER TIME;20:GRADUAL;12:HEAD;16: RIM;17:MOVEMENT-WALLPLANE STRAIGHT;36:TILT",
    "26:FLOORPLANE STRAIGHT;26:WALLPLANE CURVE;26:FLOORPLANE CURVE;25: CIRCLE",
    "12:FACE DIRECTION POSITION NOSE FORWARD TILTING;41:UP OR DOWN;51: TILTING",
    "12:EYEBROWS STRAIGHT UP;30:NEUTRAL;30:DOWN;12:DREAMY EYEBROWS NEUTRAL DOWN;28:DOWN NEUTRAL",
    "28:UP NEUTRAL;28:NEUTRAL UP;12:FOREHEAD NEUTRAL;21:CONTACT;21:WRINKLED;12:EYES OPEN",
    "17:SQUEEZED;17:CLOSED;15: BLINK SINGLE;22:MULTIPLE;15:S HALF OPEN;17:WIDE OPEN",
    "17:HALF CLOSED;17:WIDENING MOVEMENT;15: WINK;15:LASHES UP;22:DOWN;22:FLUTTERING",
    "15:GAZE-WALLPLANE STRAIGHT;38: DOUBLE;39:ALTERNATING;20:FLOORPLANE STRAIGHT;39: DOUBLE",
    "40:ALTERNATING;20:WALLPLANE CURVED;20:FLOORPLANE CURVED;20:WALLPLANE CIRCLING",
    "12:CHEEKS PUFFED;19:NEUTRAL;19:SUCKED;12:TENSE CHEEKS HIGH;25:MIDDLE;25:LOW;12:EARS",
    "12:NOSE NEUTRAL;17:CONTACT;17:WRINKLES;18:IGGLES;12:AIR BLOWING OUT;16:SUCKING IN",
    "16:BLOW SMALL ROTATIONS;16:SUCK SMALL ROTATIONS;12:BREATH INHALE;19:EXHALE",
    "12:MOUTH CLOSED NEUTRAL;25:FORWARD;25:CONTACT;18:SMILE;23: WRINKLED;24:OPEN;18:FROWN",
    "23: WRINKLED;24:OPEN;18:OPEN CIRCLE;23:FORWARD;23:WRINKLED;23:OVAL;27: WRINKLED;28:YAWN",
    "23:RECTANGLE;32: WRINKLED;33:YAWN;18:KISS;22: FORWARD;23:WRINKLED;18:TENSE;23: FORWARD",
    "24:SUCKED;12:LIPS PRESSED TOGETHER;15: LOWER OVER UPPER;16:UPPER OVER LOWER;12:MOUTH CORNERS",
    "18:WRINKLES SINGLE;27:DOUBLE;12:TONGUE STICKING OUT FAR;19:LICKING LIPS;19:TIP BETWEEN LIPS",
    "23:TOUCHING INSIDE MOUTH;19:INSIDE MOUTH RELAXED;19:MOVES AGAINST CHEEK",
    "19:CENTRE STICKING OUT;26:INSIDE MOUTH;13:EETH;17: MOVEMENT;18:ON TONGUE;27: MOVEMENT",
    "21:LIPS;25: MOVEMENT;18:BITE LIPS;12:MOVEMENT-WALLPLANE JAW;21:FLOORPLANE JAW;12:NECK",
    "12:HAIR;12:EXCITEMENT;12:SHOULDER HIP SPINE;25:POSITIONS;12:WALLPLANE SHOULDER HIP MOVE",
    "12:FLOORPLANE SHOULDER HIP MOVE;12:SHOULDER TILTING FROM WAIST",
    "12:TORSO-WALLPLANE STRAIGHT STRETCH;28:CURVED BEND;18:FLOORPLANE TWISTING",
    "12:UPPER BODY TILTING FROM HIP JOINTS;12:LIMB COMBINATION;17:LENGTH-1;24:2;24:3;24:4;24:5",
    "24:6;24:7;12:FINGER;12:LOCATION-WALLPLANE SPACE;21:FLOORPLANE SPACE;20: HEIGHT;21:WIDTH",
    "21:DEPTH;21:HEAD NECK;21:TORSO;21:LIMBS DIGITS;12:COMMA;12:FULL STOP;12:SEMICOLON;12:COLON",
    "12:PARENTHESIS;;;;;;;;;;;;;;;;SIGNWRITING FILL MODIFIER-2;26:3;26:4;26:5;26:6;",
    "SIGNWRITING ROTATION MODIFIER-2;30:3;30:4;30:5;30:6;30:7;30:8;30:9;30:10;31:1;31:2;31:3;31:4",
    "31:5;31:6"]),
  (0x1DF00, [
    "LATIN SMALL LETTER FENG DIGRAPH WITH TRILL;19:REVERSED SCRIPT G",
    "6:LETTER SMALL CAPITAL TURNED G;6:SMALL LETTER REVERSED K;6:LETTER SMALL CAPITAL L WITH BELT",
    "6:SMALL LETTER LEZH WITH RETROFLEX HOOK;19:TURNED Y WITH BELT;19:REVERSED ENG",
    "19:TURNED R WITH LONG LEG AND RETROFLEX HOOK;20: WITH HOOK AND RETROFLEX HOOK",
    "6:LETTER RETROFLEX CLICK WITH RETROFLEX HOOK;6:SMALL LETTER ESH WITH DOUBLE BAR;38: AND CURL",
    "19:TURNED T WITH CURL;6:LETTER INVERTED GLOTTAL STOP WITH CURL;13:STRETCHED C WITH CURL",
    "14:MALL CAPITAL TURNED K;6:SMALL LETTER L WITH FISHHOOK;19:DEZH DIGRAPH WITH PALATAL HOOK",
    "19:L WITH BELT AND PALATAL HOOK;19:ENG WITH PALATAL HOOK;19:TURNED R WITH PALATAL HOOK",
    "19:R WITH FISHHOOK AND PALATAL HOOK;19:TESH DIGRAPH WITH PALATAL HOOK",
    "19:EZH WITH PALATAL HOOK;19:DEZH DIGRAPH WITH RETROFLEX HOOK",
    "19:I WITH STROKE AND RETROFLEX HOOK;19:O WITH RETROFLEX HOOK",
    "19:TESH DIGRAPH WITH RETROFLEX HOOK;19:C WITH RETROFLEX HOOK;19:S WITH CURL;;;;;;",
    "LATIN SMALL LETTER D WITH MID-HEIGHT LEFT HOOK;19:L WITH MID-HEIGHT LEFT HOOK",
    "19:N WITH MID-HEIGHT LEFT HOOK;19:R WITH MID-HEIGHT LEFT HOOK;19:S WITH MID-HEIGHT LEFT HOOK",
    "19:T WITH MID-HEIGHT LEFT HOOK"]),
  (0x1E000, [
    "COMBINING GLAGOLITIC LETTER AZU;28:BUKY;28:VEDE;28:GLAGOLI;28:DOBRO;28:YESTU;28:ZHIVETE;",
    "COMBINING GLAGOLITIC LETTER ZEMLJA;28:IZHE;29:NITIAL IZHE;29:;28:DJERVI;28:KAKO;28:LJUDIJE",
    "28:MYSLITE;28:NASHI;28:ONU;28:POKOJI;28:RITSI;28:SLOVO;28:TVRIDO;28:UKU;28:FRITU;28:HERU;;",
    "COMBINING GLAGOLITIC LETTER SHTA;28:TSI;28:CHRIVI;28:SHA;28:YERU;31:I;29:ATI;",
    "COMBINING GLAGOLITIC LETTER YU;28:SMALL YUS;;COMBINING GLAGOLITIC LETTER YO",
    "28:IOTATED SMALL YUS;28:BIG YUS;28:IOTATED BIG YUS;28:FITA;;;;;",
    "MODIFIER LETTER CYRILLIC SMALL A;31:BE;31:VE;31:GHE;31:DE;31:IE;31:ZHE;32:E;31:I;31:KA;31:EL",
    "32:M;31:O;31:PE;31:ER;32:S;31:TE;31:U;31:EF;31:HA;31:TSE;31:CHE;31:SHA;31:YERU;31:E;31:YU",
    "31:DZZE;31:SCHWA;31:BYELORUSSIAN-UKRAINIAN I;31:JE;31:BARRED O;31:STRAIGHT U;31:PALOCHKA",
    "CYRILLIC SUBSCRIPT SMALL LETTER A;32:BE;32:VE;32:GHE;32:DE;32:IE;32:ZHE;33:E;32:I;32:KA",
    "32:EL;32:O;32:PE;32:ES;32:U;32:EF;32:HA;32:TSE;32:CHE;32:SHA;32:HARD SIGN;32:YERU",
    "32:GHE WITH UPTURN;32:BYELORUSSIAN-UKRAINIAN I;32:DZE;34:HE",
    "MODIFIER LETTER CYRILLIC SMALL ES WITH DESCENDER;31:YERU WITH BACK YER",
    "31:STRAIGHT U WITH STROKE;;;;;;;;;;;;;;;;;;;;;;;;;;;;;;;;;",
    "COMBINING CYRILLIC SMALL LETTER BYELORUSSIAN-UKRAINIAN I"]),
  (0x1E100, [
    "NYIAKENG PUACHUE HMONG LETTER MA;30:TSA;30:NTA;30:TA;30:HA;30:NA;30:XA;30:NKA;30:CA;30:LA",
    "30:SA;30:ZA;30:NCA;31:TSA;30:KA;30:DA;30:NYA;31:RA;30:VA;30:NTXA;30:TXA;30:FA;30:RA;30:QA",
    "30:YA;30:NQA;30:PA;30:XYA;30:NPA;30:DLA;30:NPLA;30:HAH;30:MLA;30:PLA;30:GA;30:RRA;30:A;31:A",
    "30:I;30:U;30:O;31:O;30:E;31:E;30:W;;;;NYIAKENG PUACHUE HMONG TONE-B;28:M;28:J;28:V;28:S;28:G",
    "28:D;23:SIGN FOR PERSON;32:THING;32:LOCATION;32:ANIMAL;32:INVERTEBRATE;28:XW XW",
    "24:YLLABLE LENGTHENER;;;NYIAKENG PUACHUE HMONG DIGIT ZERO;29:ONE;29:TWO;30:HREE;29:FOUR",
    "30:IVE;29:SIX;30:EVEN;29:EIGHT;29:NINE;;;;;NYIAKENG PUACHUE HMONG LOGOGRAM NYAJ",
    "23:CIRCLED CA"]),
  (0x1E290, [
    "TOTO LETTER PA;12:BA;12:TA;12:DA;12:KA;12:GA;12:MA;12:NA;13:GA;12:SA;12:CHA;12:YA;12:WA",
    "12:JA;12:HA;12:RA;12:LA;12:I;12:BREATHY I;12:IU;12:BREATHY IU;12:U;12:E;12:BREATHY E;12:EO",
    "12:BREATHY EO;12:O;12:AE;12:BREATHY AE;12:A;5:SIGN RISING TONE;;;;;;;;;;;;;;;;;",
    "WANCHO LETTER AA;15:;14:BA;14:CA;14:DA;14:GA;14:YA;14:PHA;14:LA;14:NA;14:PA;14:TA;15:HA",
    "14:FA;14:SA;15:HA;14:JA;14:ZA;14:WA;14:VA;14:KA;14:O;14:AU;14:RA;14:MA;14:KHA;14:HA;14:E",
    "14:I;14:NGA;14:U;14:LLHA;14:TSA;15:RA;14:ONG;14:AANG;15:NG;14:ING;14:ON;14:EN;14:AAN;14:NYA",
    "14:UEN;14:YIH;7:TONE TUP;15:NI;12:KOI;15:NI;7:DIGIT ZERO;13:ONE;13:TWO;14:HREE;13:FOUR",
    "14:IVE;13:SIX;14:EVEN;13:EIGHT;13:NINE;;;;;;WANCHO NGUN SIGN"]),
  (0x1E4D0, [
    "NAG MUNDARI LETTER O;20:P;20:L;20:Y;20:NG;19:A;20:J;20:B;20:NY;20:H;19:I;20:S;20:DD;20:T",
    "20:H;19:U;20:C;20:D;20:K;20:R;19:E;20:NN;20:G;20:M;20:N;20:TT;20:LL;12:SIGN OJOD;17:MUHOR",
    "17:TOYOR;17:IKIR;17:SUTUH;12:DIGIT ZERO;18:ONE;18:TWO;19:HREE;18:FOUR;19:IVE;18:SIX;19:EVEN",
    "18:EIGHT;18:NINE"]),
  (0x1E7E0, [
    "ETHIOPIC SYLLABLE HHYA;21:U;21:I;21:AA;21:EE;22:;21:O;;ETHIOPIC SYLLABLE GURAGE HHWA;18:HHWI",
    "21:EE;22:;;ETHIOPIC SYLLABLE GURAGE MWI;27:EE;;ETHIOPIC SYLLABLE GURAGE QWI;27:EE;28:;25:BWI",
    "27:EE;25:KWI;27:EE;28:;25:GWI;27:EE;28:;25:FWI;27:EE;25:PWI;27:EE;",
    "MENDE KIKAKUI SYLLABLE M001 KI;26:2 KA;26:3 KU;25:65 KEE;25:95 KE;25:76 KOO;25:48 KO",
    "24:179 KUA;24:004 WI;26:5 WA;26:6 WU;24:126 WEE;25:18 WE;26:4 WOO;24:045 WO;24:194 WUI",
    "25:43 WEI;24:061 WVI;25:49 WVA;24:139 WVE;24:007 MIN;26:8 MAN;26:9 MUN;25:59 MEN;25:94 MON",
    "24:154 MUAN;25:89 MUEN;24:010 BI;26:1 BA;26:2 BU;24:150 BEE;24:097 BE;24:103 BOO;25:38 BO",
    "24:013 I;26:4 A;26:5 U;24:163 EE;25:00 E;25:65 OO;25:47 O;25:37 EI;26:1 IN;26:5 IN;25:95 AN",
    "25:78 EN;24:019 SI;25:20 SA;26:1 SU;24:162 SEE;25:16 SE;25:36 SOO;24:079 SO;24:196 SIA",
    "24:025 LI;26:6 LA;26:7 LU;25:84 LEE;25:73 LE;25:54 LOO;24:153 LO;25:10 LONG LE;24:016 DI",
    "26:7 DA;26:8 DU;25:89 DEE;24:180 DOO;26:1 DO;24:022 TI;26:3 TA;26:4 TU;25:91 TEE;25:55 TE",
    "24:104 TOO;24:069 TO;25:28 JI;26:9 JA;25:30 JU;24:157 JEE;25:13 JE;25:60 JOO;24:063 JO",
    "24:175 LONG JO;24:031 YI;26:2 YA;26:3 YU;24:109 YEE;24:080 YE;24:141 YOO;25:21 YO;24:034 FI",
    "26:5 FA;26:6 FU;25:78 FEE;26:5 FE;24:133 FOO;24:088 FO;24:197 FUA;25:01 FAN;24:037 NIN",
    "26:8 NAN;26:9 NUN;24:117 NEN;25:69 NON;25:76 HI;24:041 HA;24:186 HU;24:040 HEE;25:96 HE",
    "25:42 HOO;24:140 HO;24:083 HEEI;24:128 HOOU;24:053 HIN;24:130 HAN;24:087 HUN;25:52 HEN",
    "24:193 HON;24:046 HUAN;25:90 NGGI;25:43 NGGA;25:82 NGGU;24:115 NGGEE;25:46 NGGE;25:56 NGGOO",
    "25:20 NGGO;25:59 NGGAA;25:27 NGGUA;24:086 LONG NGGE;24:106 LONG NGGOO;25:83 LONG NGGO",
    "25:55 GI;25:11 GA;25:68 GU;25:90 GEE;25:66 GUEI;26:7 GUAN;25:84 NGEN;24:057 NGON",
    "24:177 NGUAN;24:068 PI;25:99 PA;25:50 PU;25:81 PEE;25:51 PE;24:102 POO;24:066 PO;24:145 MBI",
    "24:062 MBA;24:122 MBU;24:047 MBEE;24:188 MBEE;24:072 MBE;24:172 MBOO;26:4 MBO;25:87 MBUU",
    "25:61 LONG MBE;25:05 LONG MBOO;25:42 LONG MBO;25:32 KPI;24:092 KPA;25:74 KPU;25:44 KPEE",
    "24:108 KPE;25:12 KPOO;25:58 KPO;25:24 GBI;24:056 GBA;24:148 GBU;24:093 GBEE;24:107 GBE",
    "24:071 GBOO;26:0 GBO;24:171 RA;25:23 NDI;26:9 NDA;26:5 NDU;25:91 NDEE;25:19 NDE;24:067 NDOO",
    "26:4 NDO;24:152 NJA;25:92 NJU;25:49 NJEE;25:34 NJOO;25:82 VI;26:5 VA;25:51 VU;25:73 VEE",
    "24:085 VE;24:144 VOO;24:077 VO;24:164 NYIN;24:058 NYAN;24:170 NYUN;24:098 NYEN;25:60 NYON;;",
    "MENDE KIKAKUI DIGIT ONE;20:TWO;21:HREE;20:FOUR;21:IVE;20:SIX;21:EVEN;20:EIGHT;20:NINE",
    "14:COMBINING NUMBER TEENS;33:NS;31:HUNDREDS;31:THOUSANDS;32:EN THOUSANDS",
    "31:HUNDRED THOUSANDS;31:MILLIONS;;;;;;;;;;;;;;;;;;;;;;;;;;;;;;;;;;;;;;;;;",
    "ADLAM CAPITAL LETTER ALIF;21:DAALI;21:LAAM;21:MIIM;21:BA;21:SINNYIIYHE;21:PE;21:BHE;21:RA",
    "21:E;21:FA;21:I;21:O;21:DHA;21:YHE;21:WAW;21:NUN;21:KAF;21:YA;21:U;21:JIIM;21:CHI;21:HA",
    "21:QAAF;21:GA;21:NYA;21:TU;21:NHA;21:VA;21:KHA;21:GBE;21:ZAL;21:KPO;21:SHA",
    "6:SMALL LETTER ALIF;19:DAALI;19:LAAM;19:MIIM;19:BA;19:SINNYIIYHE;19:PE;19:BHE;19:RA;19:E",
    "19:FA;19:I;19:O;19:DHA;19:YHE;19:WAW;19:NUN;19:KAF;19:YA;19:U;19:JIIM;19:CHI;19:HA;19:QAAF",
    "19:GA;19:NYA;19:TU;19:NHA;19:VA;19:KHA;19:GBE;19:ZAL;19:KPO;19:SHA;6:ALIF LENGTHENER",
    "6:VOWEL LENGTHENER;6:GEMINATION MARK;6:HAMZA;6:CONSONANT MODIFIER",
    "6:GEMINATE CONSONANT MODIFIER;6:NUKTA;7:ASALIZATION MARK;;;;;ADLAM DIGIT ZERO;12:ONE;12:TWO",
    "13:HREE;12:FOUR;13:IVE;12:SIX;13:EVEN;12:EIGHT;12:NINE;;;;;ADLAM INITIAL EXCLAMATION MARK",
    "14:QUESTION MARK"]),
  (0x1EC71, [
    "INDIC SIYAQ NUMBER ONE;19:TWO;20:HREE;19:FOUR;20:IVE;19:SIX;20:EVEN;19:EIGHT;19:NINE;19:TEN",
    "20:WENTY;20:HIRTY;19:FORTY;20:IFTY;19:SIXTY;20:EVENTY;19:EIGHTY;19:NINETY;19:ONE HUNDRED",
    "19:TWO HUNDRED;20:HREE HUNDRED;19:FOUR HUNDRED;20:IVE HUNDRED;19:SIX HUNDRED;20:EVEN HUNDRED",
    "19:EIGHT HUNDRED;19:NINE HUNDRED;19:ONE THOUSAND;19:TWO THOUSAND;20:HREE THOUSAND",
    "19:FOUR THOUSAND;20:IVE THOUSAND;19:SIX THOUSAND;20:EVEN THOUSAND;19:EIGHT THOUSAND",
    "19:NINE THOUSAND;19:TEN THOUSAND;20:WENTY THOUSAND;20:HIRTY THOUSAND;19:FORTY THOUSAND",
    "20:IFTY THOUSAND;19:SIXTY THOUSAND;20:EVENTY THOUSAND;19:EIGHTY THOUSAND;19:NINETY THOUSAND",
    "19:LAKH;23:AN;12:LAKH MARK;12:NUMBER KAROR;24:AN;19:PREFIXED ONE;28:TWO;29:HREE;28:FOUR",
    "29:IVE;28:SIX;29:EVEN;28:EIGHT;28:NINE;12:PLACEHOLDER;12:FRACTION ONE QUARTER;25:HALF",
    "21:THREE QUARTERS;12:RUPEE MARK;12:NUMBER ALTERNATE ONE;29:TWO;30:EN THOUSAND",
    "12:ALTERNATE LAKH MARK"]),
  (0x1ED01, [
    "OTTOMAN SIYAQ NUMBER ONE;21:TWO;22:HREE;21:FOUR;22:IVE;21:SIX;22:EVEN;21:EIGHT;21:NINE",
    "21:TEN;22:WENTY;22:HIRTY;21:FORTY;22:IFTY;21:SIXTY;22:EVENTY;21:EIGHTY;21:NINETY",
    "21:ONE HUNDRED;21:TWO HUNDRED;22:HREE HUNDRED;21:FOUR HUNDRED;22:IVE HUNDRED;21:SIX HUNDRED",
    "22:EVEN HUNDRED;21:EIGHT HUNDRED;21:NINE HUNDRED;21:ONE THOUSAND;21:TWO THOUSAND",
    "22:HREE THOUSAND;21:FOUR THOUSAND;22:IVE THOUSAND;21:SIX THOUSAND;22:EVEN THOUSAND",
    "21:EIGHT THOUSAND;21:NINE THOUSAND;21:TEN THOUSAND;22:WENTY THOUSAND;22:HIRTY THOUSAND",
    "21:FORTY THOUSAND;22:IFTY THOUSAND;21:SIXTY THOUSAND;22:EVENTY THOUSAND;21:EIGHTY THOUSAND",
    "21:NINETY THOUSAND;14:MARRATAN;14:ALTERNATE NUMBER TWO;32:HREE;31:FOUR;32:IVE;31:SIX;32:EVEN",
    "31:EIGHT;31:NINE;31:TEN;31:FOUR HUNDRED;31:SIX HUNDRED;31:TWO THOUSAND;32:EN THOUSAND",
    "14:FRACTION ONE HALF;27:SIXTH"]),
  (0x1EE00, [
    "ARABIC MATHEMATICAL ALEF;20:BEH;20:JEEM;20:DAL;;ARABIC MATHEMATICAL WAW;20:ZAIN;20:HAH",
    "20:TAH;20:YEH;20:KAF;20:LAM;20:MEEM;20:NOON;20:SEEN;20:AIN;20:FEH;20:SAD;20:QAF;20:REH",
    "20:SHEEN;20:TEH;21:HEH;20:KHAH;20:THAL;20:DAD;20:ZAH;20:GHAIN;20:DOTLESS BEH;28:NOON;28:FEH",
    "28:QAF;;ARABIC MATHEMATICAL INITIAL BEH;28:JEEM;;ARABIC MATHEMATICAL INITIAL HEH;;",
    "ARABIC MATHEMATICAL INITIAL HAH;;ARABIC MATHEMATICAL INITIAL YEH;28:KAF;28:LAM;28:MEEM",
    "28:NOON;28:SEEN;28:AIN;28:FEH;28:SAD;28:QAF;;ARABIC MATHEMATICAL INITIAL SHEEN;28:TEH;29:HEH",
    "28:KHAH;;ARABIC MATHEMATICAL INITIAL DAD;;ARABIC MATHEMATICAL INITIAL GHAIN;;;;;;",
    "ARABIC MATHEMATICAL TAILED JEEM;;;;;ARABIC MATHEMATICAL TAILED HAH;",
    "ARABIC MATHEMATICAL TAILED YEH;;ARABIC MATHEMATICAL TAILED LAM;",
    "ARABIC MATHEMATICAL TAILED NOON;27:SEEN;27:AIN;;ARABIC MATHEMATICAL TAILED SAD;27:QAF;",
    "ARABIC MATHEMATICAL TAILED SHEEN;;;ARABIC MATHEMATICAL TAILED KHAH;",
    "ARABIC MATHEMATICAL TAILED DAD;;ARABIC MATHEMATICAL TAILED GHAIN;",
    "ARABIC MATHEMATICAL TAILED DOTLESS NOON;;ARABIC MATHEMATICAL TAILED DOTLESS QAF;",
    "ARABIC MATHEMATICAL STRETCHED BEH;30:JEEM;;ARABIC MATHEMATICAL STRETCHED HEH;;",
    "ARABIC MATHEMATICAL STRETCHED HAH;30:TAH;30:YEH;30:KAF;;ARABIC MATHEMATICAL STRETCHED MEEM",
    "30:NOON;30:SEEN;30:AIN;30:FEH;30:SAD;30:QAF;;ARABIC MATHEMATICAL STRETCHED SHEEN;30:TEH",
    "31:HEH;30:KHAH;;ARABIC MATHEMATICAL STRETCHED DAD;30:ZAH;30:GHAIN;30:DOTLESS BEH;",
    "ARABIC MATHEMATICAL STRETCHED DOTLESS FEH;;ARABIC MATHEMATICAL LOOPED ALEF;27:BEH;27:JEEM",
    "27:DAL;27:HEH;27:WAW;27:ZAIN;27:HAH;27:TAH;27:YEH;;ARABIC MATHEMATICAL LOOPED LAM;27:MEEM",
    "27:NOON;27:SEEN;27:AIN;27:FEH;27:SAD;27:QAF;27:REH;27:SHEEN;27:TEH;28:HEH;27:KHAH;27:THAL",
    "27:DAD;27:ZAH;27:GHAIN;;;;;;ARABIC MATHEMATICAL DOUBLE-STRUCK BEH;34:JEEM;34:DAL;",
    "ARABIC MATHEMATICAL DOUBLE-STRUCK WAW;34:ZAIN;34:HAH;34:TAH;34:YEH;",
    "ARABIC MATHEMATICAL DOUBLE-STRUCK LAM;34:MEEM;34:NOON;34:SEEN;34:AIN;34:FEH;34:SAD;34:QAF",
    "34:REH;34:SHEEN;34:TEH;35:HEH;34:KHAH;34:THAL;34:DAD;34:ZAH;34:GHAIN;;;;;;;;;;;;;;;;;;;;;;;;",
    ";;;;;;;;;;;;;;;;;;;;;;;;;;;;ARABIC MATHEMATICAL OPERATOR MEEM WITH HAH WITH TATWEEL",
    "29:HAH WITH DAL"]),
  (0x1F000, [
    "MAHJONG TILE EAST WIND;13:SOUTH WIND;13:WEST WIND;13:NORTH WIND;13:RED DRAGON",
    "13:GREEN DRAGON;13:WHITE DRAGON;13:ONE OF CHARACTERS;13:TWO OF CHARACTERS",
    "14:HREE OF CHARACTERS;13:FOUR OF CHARACTERS;14:IVE OF CHARACTERS;13:SIX OF CHARACTERS",
    "14:EVEN OF CHARACTERS;13:EIGHT OF CHARACTERS;13:NINE OF CHARACTERS;13:ONE OF BAMBOOS",
    "13:TWO OF BAMBOOS;14:HREE OF BAMBOOS;13:FOUR OF BAMBOOS;14:IVE OF BAMBOOS;13:SIX OF BAMBOOS",
    "14:EVEN OF BAMBOOS;13:EIGHT OF BAMBOOS;13:NINE OF BAMBOOS;13:ONE OF CIRCLES",
    "13:TWO OF CIRCLES;14:HREE OF CIRCLES;13:FOUR OF CIRCLES;14:IVE OF CIRCLES;13:SIX OF CIRCLES",
    "14:EVEN OF CIRCLES;13:EIGHT OF CIRCLES;13:NINE OF CIRCLES;13:PLUM;13:ORCHID;13:BAMBOO",
    "13:CHRYSANTHEMUM;13:SPRING;14:UMMER;13:AUTUMN;13:WINTER;13:JOKER;13:BACK;;;;",
    "DOMINO TILE HORIZONTAL BACK;22:-00-00;27:1;27:2;27:3;27:4;27:5;27:6;24:1-00;27:1;27:2;27:3",
    "27:4;27:5;27:6;24:2-00;27:1;27:2;27:3;27:4;27:5;27:6;24:3-00;27:1;27:2;27:3;27:4;27:5;27:6",
    "24:4-00;27:1;27:2;27:3;27:4;27:5;27:6;24:5-00;27:1;27:2;27:3;27:4;27:5;27:6;24:6-00;27:1",
    "27:2;27:3;27:4;27:5;27:6;12:VERTICAL BACK;20:-00-00;25:1;25:2;25:3;25:4;25:5;25:6;22:1-00",
    "25:1;25:2;25:3;25:4;25:5;25:6;22:2-00;25:1;25:2;25:3;25:4;25:5;25:6;22:3-00;25:1;25:2;25:3",
    "25:4;25:5;25:6;22:4-00;25:1;25:2;25:3;25:4;25:5;25:6;22:5-00;25:1;25:2;25:3;25:4;25:5;25:6",
    "22:6-00;25:1;25:2;25:3;25:4;25:5;25:6;;;;;;;;;;;;;PLAYING CARD BACK;13:ACE OF SPADES",
    "13:TWO OF SPADES;14:HREE OF SPADES;13:FOUR OF SPADES;14:IVE OF SPADES;13:SIX OF SPADES",
    "14:EVEN OF SPADES;13:EIGHT OF SPADES;13:NINE OF SPADES;13:TEN OF SPADES;13:JACK OF SPADES",
    "13:KNIGHT OF SPADES;13:QUEEN OF SPADES;13:KING OF SPADES;;;PLAYING CARD ACE OF HEARTS",
    "13:TWO OF HEARTS;14:HREE OF HEARTS;13:FOUR OF HEARTS;14:IVE OF HEARTS;13:SIX OF HEARTS",
    "14:EVEN OF HEARTS;13:EIGHT OF HEARTS;13:NINE OF HEARTS;13:TEN OF HEARTS;13:JACK OF HEARTS",
    "13:KNIGHT OF HEARTS;13:QUEEN OF HEARTS;13:KING OF HEARTS;13:RED JOKER;",
    "PLAYING CARD ACE OF DIAMONDS;13:TWO OF DIAMONDS;14:HREE OF DIAMONDS;13:FOUR OF DIAMONDS",
    "14:IVE OF DIAMONDS;13:SIX OF DIAMONDS;14:EVEN OF DIAMONDS;13:EIGHT OF DIAMONDS",
    "13:NINE OF DIAMONDS;13:TEN OF DIAMONDS;13:JACK OF DIAMONDS;13:KNIGHT OF DIAMONDS",
    "13:QUEEN OF DIAMONDS;13:KING OF DIAMONDS;13:BLACK JOKER;;PLAYING CARD ACE OF CLUBS",
    "13:TWO OF CLUBS;14:HREE OF CLUBS;13:FOUR OF CLUBS;14:IVE OF CLUBS;13:SIX OF CLUBS",
    "14:EVEN OF CLUBS;13:EIGHT OF CLUBS;13:NINE OF CLUBS;13:TEN OF CLUBS;13:JACK OF CLUBS",
    "13:KNIGHT OF CLUBS;13:QUEEN OF CLUBS;13:KING OF CLUBS;13:WHITE JOKER;13:FOOL;13:TRUMP-1;19:2",
    "19:3;19:4;19:5;19:6;19:7;19:8;19:9;19:10;20:1;20:2;20:3;20:4;20:5;20:6;20:7;20:8;20:9;19:20",
    "20:1;;;;;;;;;;;DIGIT ZERO FULL STOP;11:COMMA;6:ONE COMMA;6:TWO COMMA;7:HREE COMMA",
    "6:FOUR COMMA;7:IVE COMMA;6:SIX COMMA;7:EVEN COMMA;6:EIGHT COMMA;6:NINE COMMA",
    "DINGBAT CIRCLED SANS-SERIF DIGIT ZERO;8:NEGATIVE CIRCLED SANS-SERIF DIGIT ZERO",
    "CIRCLED ZERO WITH SLASH;8:ANTICLOCKWISE ARROW;8:DOLLAR SIGN WITH OVERLAID BACKSLASH",
    "PARENTHESIZED LATIN CAPITAL LETTER A;35:B;35:C;35:D;35:E;35:F;35:G;35:H;35:I;35:J;35:K;35:L",
    "35:M;35:N;35:O;35:P;35:Q;35:R;35:S;35:T;35:U;35:V;35:W;35:X;35:Y;35:Z",
    "TORTOISE SHELL BRACKETED LATIN CAPITAL LETTER S;CIRCLED ITALIC LATIN CAPITAL LETTER C;36:R",
    "8:CD;8:WZ;COPYLEFT SYMBOL;SQUARED LATIN CAPITAL LETTER A;29:B;29:C;29:D;29:E;29:F;29:G;29:H",
    "29:I;29:J;29:K;29:L;29:M;29:N;29:O;29:P;29:Q;29:R;29:S;29:T;29:U;29:V;29:W;29:X;29:Y;29:Z",
    "8:HV;8:MV;8:SD;9:S;8:PPV;8:WC;NEGATIVE CIRCLED LATIN CAPITAL LETTER A;38:B;38:C;38:D;38:E",
    "38:F;38:G;38:H;38:I;38:J;38:K;38:L;38:M;38:N;38:O;38:P;38:Q;38:R;38:S;38:T;38:U;38:V;38:W",
    "38:X;38:Y;38:Z;RAISED MC SIGN;8:D SIGN;8:R SIGN;CIRCLED CC;9: WITH OVERLAID BACKSLASH",
    "8:HUMAN FIGURE;NEGATIVE SQUARED LATIN CAPITAL LETTER A;38:B;38:C;38:D;38:E;38:F;38:G;38:H",
    "38:I;38:J;38:K;38:L;38:M;38:N;38:O;38:P;38:Q;38:R;38:S;38:T;38:U;38:V;38:W;38:X;38:Y;38:Z",
    "CROSSED NEGATIVE SQUARED LATIN CAPITAL LETTER P;NEGATIVE SQUARED IC;17:PA;17:SA;17:AB;17:WC",
    "SQUARE DJ;6:D CL;9:OOL;8:FREE;8:ID;8:NEW;9:G;8:OK;8:SOS;8:UP WITH EXCLAMATION MARK;8:VS",
    "8:THREE D;8:SECOND SCREEN;8:TWO K;8:FOUR K;8:EIGHT K;8:FIVE POINT ONE;8:SEVEN POINT ONE",
    "8:TWENTY-TWO POINT TWO;8:SIXTY P;8:ONE HUNDRED TWENTY P;8:LATIN SMALL LETTER D;8:HC;9:DR",
    "9:I-RES;8:LOSSLESS;8:SHV;8:UHD;8:VOD;MASK WORK SYMBOL;;;;;;;;;;;;;;;;;;;;;;;;;;;;;;;;;;;;;;;",
    ";;;;;;;;;;;;;;;;;REGIONAL INDICATOR SYMBOL LETTER A;33:B;33:C;33:D;33:E;33:F;33:G;33:H;33:I",
    "33:J;33:K;33:L;33:M;33:N;33:O;33:P;33:Q;33:R;33:S;33:T;33:U;33:V;33:W;33:X;33:Y;33:Z",
    "SQUARE HIRAGANA HOKA;6:D KATAKANA KOKO;17:SA;;;;;;;;;;;;;;SQUARED CJK UNIFIED IDEOGRAPH-624B",
    "30:5B57;31:3CC;8:KATAKANA DE;8:CJK UNIFIED IDEOGRAPH-4E8C;30:591A;30:89E3;30:5929;30:4EA4",
    "30:6620;30:7121;30:6599;30:524D;31:F8C;31:18D;30:65B0;30:521D;30:7D42;31:51F;30:8CA9;30:58F0",
    "31:439;30:6F14;31:295;31:355;30:4E00;33:9;30:904A;30:5DE6;30:4E2D;30:53F3;30:6307;30:8D70",
    "30:6253;30:7981;31:A7A;30:5408;30:6E80;31:709;33:8;30:7533;30:5272;31:5B6;30:914D;;;;",
    "TORTOISE SHELL BRACKETED CJK UNIFIED IDEOGRAPH-672C;47:4E09;49:8C;47:5B89;47:70B9;47:6253",
    "47:76D7;47:52DD;47:6557;;;;;;;;CIRCLED IDEOGRAPH ADVANTAGE;19:CCEPT;;;;;;;;;;;;;;",
    "ROUNDED SYMBOL FOR FU;19:LU;19:SHOU;19:XI;19:SHUANGXI;19:CAI"]),
  (0x1F300, [
    "CYCLONE;FOGGY;CLOSED UMBRELLA;NIGHT WITH STARS;SUNRISE OVER MOUNTAINS;7:;CITYSCAPE AT DUSK",
    "SUNSET OVER BUILDINGS;RAINBOW;BRIDGE AT NIGHT;WATER WAVE;VOLCANO;MILKY WAY",
    "EARTH GLOBE EUROPE-AFRICA;12:AMERICAS;13:SIA-AUSTRALIA;GLOBE WITH MERIDIANS;NEW MOON SYMBOL",
    "WAXING CRESCENT MOON SYMBOL;FIRST QUARTER MOON SYMBOL;WAXING GIBBOUS MOON SYMBOL",
    "FULL MOON SYMBOL;WANING GIBBOUS MOON SYMBOL;LAST QUARTER MOON SYMBOL",
    "WANING CRESCENT MOON SYMBOL;CRESCENT MOON;NEW MOON WITH FACE;FIRST QUARTER MOON WITH FACE",
    "LAST QUARTER MOON WITH FACE;FULL MOON WITH FACE;SUN WITH FACE;GLOWING STAR;SHOOTING STAR",
    "THERMOMETER;BLACK DROPLET;WHITE SUN;9: WITH SMALL CLOUD;10:BEHIND CLOUD;22: WITH RAIN",
    "CLOUD WITH RAIN;11:SNOW;11:LIGHTNING;11:TORNADO;FOG;WIND BLOWING FACE;HOT DOG;TACO;BURRITO",
    "CHESTNUT;SEEDLING;EVERGREEN TREE;DECIDUOUS TREE;PALM TREE;CACTUS;HOT PEPPER;TULIP",
    "CHERRY BLOSSOM;ROSE;HIBISCUS;SUNFLOWER;BLOSSOM;EAR OF MAIZE;7:RICE;HERB;FOUR LEAF CLOVER",
    "MAPLE LEAF;FALLEN LEAF;LEAF FLUTTERING IN WIND;MUSHROOM;TOMATO;AUBERGINE;GRAPES;MELON",
    "WATERMELON;TANGERINE;LEMON;BANANA;PINEAPPLE;RED APPLE;GREEN APPLE;PEAR;3:CH;CHERRIES",
    "STRAWBERRY;HAMBURGER;SLICE OF PIZZA;MEAT ON BONE;POULTRY LEG;RICE CRACKER;5:BALL;COOKED RICE",
    "CURRY AND RICE;STEAMING BOWL;SPAGHETTI;BREAD;FRENCH FRIES;ROASTED SWEET POTATO;DANGO;ODEN",
    "SUSHI;FRIED SHRIMP;FISH CAKE WITH SWIRL DESIGN;SOFT ICE CREAM;SHAVED ICE;ICE CREAM;DOUGHNUT",
    "COOKIE;CHOCOLATE BAR;CANDY;LOLLIPOP;CUSTARD;HONEY POT;SHORTCAKE;BENTO BOX;POT OF FOOD",
    "COOKING;FORK AND KNIFE;TEACUP WITHOUT HANDLE;SAKE BOTTLE AND CUP;WINE GLASS;COCKTAIL GLASS",
    "TROPICAL DRINK;BEER MUG;CLINKING BEER MUGS;BABY BOTTLE;FORK AND KNIFE WITH PLATE",
    "BOTTLE WITH POPPING CORK;POPCORN;RIBBON;WRAPPED PRESENT;BIRTHDAY CAKE;JACK-O-LANTERN",
    "CHRISTMAS TREE;FATHER CHRISTMAS;FIREWORKS;8: SPARKLER;BALLOON;PARTY POPPER;CONFETTI BALL",
    "TANABATA TREE;CROSSED FLAGS;PINE DECORATION;JAPANESE DOLLS;CARP STREAMER;WIND CHIME",
    "MOON VIEWING CEREMONY;SCHOOL SATCHEL;GRADUATION CAP;HEART WITH TIP ON THE LEFT",
    "BOUQUET OF FLOWERS;MILITARY MEDAL;REMINDER RIBBON;MUSICAL KEYBOARD WITH JACKS",
    "STUDIO MICROPHONE;LEVEL SLIDER;CONTROL KNOBS;BEAMED ASCENDING MUSICAL NOTES",
    "7:DESCENDING MUSICAL NOTES;FILM FRAMES;ADMISSION TICKETS;CAROUSEL HORSE;FERRIS WHEEL",
    "ROLLER COASTER;FISHING POLE AND FISH;MICROPHONE;MOVIE CAMERA;CINEMA;HEADPHONE;ARTIST PALETTE",
    "TOP HAT;CIRCUS TENT;TICKET;CLAPPER BOARD;PERFORMING ARTS;VIDEO GAME;DIRECT HIT;SLOT MACHINE",
    "BILLIARDS;GAME DIE;BOWLING;FLOWER PLAYING CARDS;MUSICAL NOTE;MULTIPLE MUSICAL NOTES",
    "SAXOPHONE;GUITAR;MUSICAL KEYBOARD;TRUMPET;VIOLIN;MUSICAL SCORE;RUNNING SHIRT WITH SASH",
    "TENNIS RACQUET AND BALL;SKI AND SKI BOOT;BASKETBALL AND HOOP;CHEQUERED FLAG;SNOWBOARDER",
    "RUNNER;SURFER;SPORTS MEDAL;TROPHY;HORSE RACING;AMERICAN FOOTBALL;RUGBY FOOTBALL;SWIMMER",
    "WEIGHT LIFTER;GOLFER;RACING MOTORCYCLE;7:CAR;CRICKET BAT AND BALL;VOLLEYBALL",
    "FIELD HOCKEY STICK AND BALL;ICE HOCKEY STICK AND PUCK;TABLE TENNIS PADDLE AND BALL",
    "SNOW CAPPED MOUNTAIN;CAMPING;BEACH WITH UMBRELLA;BUILDING CONSTRUCTION;HOUSE BUILDINGS",
    "CITYSCAPE;DERELICT HOUSE BUILDING;CLASSICAL BUILDING;DESERT;6: ISLAND;NATIONAL PARK;STADIUM",
    "HOUSE BUILDING;6:WITH GARDEN;OFFICE BUILDING;JAPANESE POST OFFICE;EUROPEAN POST OFFICE",
    "HOSPITAL;BANK;AUTOMATED TELLER MACHINE;HOTEL;LOVE HOTEL;CONVENIENCE STORE;SCHOOL",
    "DEPARTMENT STORE;FACTORY;IZAKAYA LANTERN;JAPANESE CASTLE;EUROPEAN CASTLE;WHITE PENNANT",
    "BLACK PENNANT;WAVING WHITE FLAG;7:BLACK FLAG;ROSETTE;BLACK ROSETTE;LABEL",
    "BADMINTON RACQUET AND SHUTTLECOCK;BOW AND ARROW;AMPHORA;EMOJI MODIFIER FITZPATRICK TYPE-1-2",
    "32:3;32:4;32:5;32:6;RAT;MOUSE;OX;WATER BUFFALO;COW;TIGER;LEOPARD;RABBIT;CAT;DRAGON;CROCODILE",
    "WHALE;SNAIL;3:KE;HORSE;RAM;GOAT;SHEEP;MONKEY;ROOSTER;CHICKEN;DOG;PIG;BOAR;ELEPHANT;OCTOPUS",
    "SPIRAL SHELL;BUG;ANT;HONEYBEE;LADY BEETLE;FISH;TROPICAL FISH;BLOWFISH;TURTLE;HATCHING CHICK",
    "BABY CHICK;FRONT-FACING BABY CHICK;BIRD;PENGUIN;KOALA;POODLE;DROMEDARY CAMEL;BACTRIAN CAMEL",
    "DOLPHIN;MOUSE FACE;COW FACE;TIGER FACE;RABBIT FACE;CAT FACE;DRAGON FACE;SPOUTING WHALE",
    "HORSE FACE;MONKEY FACE;DOG FACE;PIG FACE;FROG FACE;HAMSTER FACE;WOLF FACE;BEAR FACE",
    "PANDA FACE;PIG NOSE;PAW PRINTS;CHIPMUNK;EYES;3:;EAR;NOSE;MOUTH;TONGUE",
    "WHITE UP POINTING BACKHAND INDEX;6:DOWN POINTING BACKHAND INDEX",
    "6:LEFT POINTING BACKHAND INDEX;6:RIGHT POINTING BACKHAND INDEX;FISTED HAND SIGN",
    "WAVING HAND SIGN;OK HAND SIGN;THUMBS UP SIGN;7:DOWN SIGN;CLAPPING HANDS SIGN;OPEN HANDS SIGN",
    "CROWN;WOMANS HAT;EYEGLASSES;NECKTIE;T-SHIRT;JEANS;DRESS;KIMONO;BIKINI;WOMANS CLOTHES;PURSE",
    "HANDBAG;POUCH;MANS SHOE;ATHLETIC SHOE;HIGH-HEELED SHOE;WOMANS SANDAL;7:BOOTS;FOOTPRINTS",
    "BUST IN SILHOUETTE;4:S IN SILHOUETTE;BOY;GIRL;MAN;WOMAN;FAMILY;MAN AND WOMAN HOLDING HANDS",
    "TWO MEN HOLDING HANDS;4:WOMEN HOLDING HANDS;POLICE OFFICER;WOMAN WITH BUNNY EARS",
    "BRIDE WITH VEIL;PERSON WITH BLOND HAIR;MAN WITH GUA PI MAO;9:TURBAN;OLDER MAN;6:WOMAN;BABY",
    "CONSTRUCTION WORKER;PRINCESS;JAPANESE OGRE;9:GOBLIN;GHOST;BABY ANGEL;EXTRATERRESTRIAL ALIEN",
    "ALIEN MONSTER;IMP;SKULL;INFORMATION DESK PERSON;GUARDSMAN;DANCER;LIPSTICK;NAIL POLISH",
    "FACE MASSAGE;HAIRCUT;BARBER POLE;SYRINGE;PILL;KISS MARK;LOVE LETTER;RING;GEM STONE;KISS",
    "BOUQUET;COUPLE WITH HEART;WEDDING;BEATING HEART;BROKEN HEART;TWO HEARTS;SPARKLING HEART",
    "GROWING HEART;HEART WITH ARROW;BLUE HEART;GREEN HEART;YELLOW HEART;PURPLE HEART",
    "HEART WITH RIBBON;REVOLVING HEARTS;HEART DECORATION;DIAMOND SHAPE WITH A DOT INSIDE",
    "ELECTRIC LIGHT BULB;ANGER SYMBOL;BOMB;SLEEPING SYMBOL;COLLISION SYMBOL",
    "SPLASHING SWEAT SYMBOL;DROPLET;DASH SYMBOL;PILE OF POO;FLEXED BICEPS;DIZZY SYMBOL",
    "SPEECH BALLOON;THOUGHT BALLOON;WHITE FLOWER;HUNDRED POINTS SYMBOL;MONEY BAG",
    "CURRENCY EXCHANGE;HEAVY DOLLAR SIGN;CREDIT CARD;BANKNOTE WITH YEN SIGN;14:DOLLAR SIGN",
    "14:EURO SIGN;14:POUND SIGN;MONEY WITH WINGS;CHART WITH UPWARDS TREND AND YEN SIGN;SEAT",
    "PERSONAL COMPUTER;BRIEFCASE;MINIDISC;FLOPPY DISK;OPTICAL DISC;DVD;FILE FOLDER",
    "OPEN FILE FOLDER;PAGE WITH CURL;5:FACING UP;CALENDAR;TEAR-OFF CALENDAR;CARD INDEX",
    "CHART WITH UPWARDS TREND;11:DOWNWARDS TREND;BAR CHART;CLIPBOARD;PUSHPIN;ROUND PUSHPIN",
    "PAPERCLIP;STRAIGHT RULER;TRIANGULAR RULER;BOOKMARK TABS;LEDGER;NOTEBOOK",
    "8: WITH DECORATIVE COVER;CLOSED BOOK;OPEN BOOK;GREEN BOOK;BLUE BOOK;ORANGE BOOK;BOOKS",
    "NAME BADGE;SCROLL;MEMO;TELEPHONE RECEIVER;PAGER;FAX MACHINE;SATELLITE ANTENNA",
    "PUBLIC ADDRESS LOUDSPEAKER;CHEERING MEGAPHONE;OUTBOX TRAY;INBOX TRAY;PACKAGE;E-MAIL SYMBOL",
    "INCOMING ENVELOPE;ENVELOPE WITH DOWNWARDS ARROW ABOVE;CLOSED MAILBOX WITH LOWERED FLAG",
    "20:RAISED FLAG;OPEN MAILBOX WITH RAISED FLAG;18:LOWERED FLAG;POSTBOX;4:AL HORN;NEWSPAPER",
    "MOBILE PHONE;12: WITH RIGHTWARDS ARROW AT LEFT;VIBRATION MODE;MOBILE PHONE OFF",
    "NO MOBILE PHONES;ANTENNA WITH BARS;CAMERA;6: WITH FLASH;VIDEO CAMERA;TELEVISION;RADIO",
    "VIDEOCASSETTE;FILM PROJECTOR;PORTABLE STEREO;PRAYER BEADS;TWISTED RIGHTWARDS ARROWS",
    "CLOCKWISE RIGHTWARDS AND LEFTWARDS OPEN CIRCLE ARROWS;53: WITH CIRCLED ONE OVERLAY",
    "10:DOWNWARDS AND UPWARDS OPEN CIRCLE ARROWS",
    "ANTICLOCKWISE DOWNWARDS AND UPWARDS OPEN CIRCLE ARROWS;LOW BRIGHTNESS SYMBOL",
    "HIGH BRIGHTNESS SYMBOL;SPEAKER WITH CANCELLATION STROKE;7:;7: WITH ONE SOUND WAVE",
    "13:THREE SOUND WAVES;BATTERY;ELECTRIC PLUG;LEFT-POINTING MAGNIFYING GLASS",
    "RIGHT-POINTING MAGNIFYING GLASS;LOCK WITH INK PEN;CLOSED LOCK WITH KEY;KEY;LOCK;OPEN LOCK",
    "BELL;4: WITH CANCELLATION STROKE;BOOKMARK;LINK SYMBOL;RADIO BUTTON",
    "BACK WITH LEFTWARDS ARROW ABOVE;END WITH LEFTWARDS ARROW ABOVE",
    "ON WITH EXCLAMATION MARK WITH LEFT RIGHT ARROW ABOVE;SOON WITH RIGHTWARDS ARROW ABOVE",
    "TOP WITH UPWARDS ARROW ABOVE;NO ONE UNDER EIGHTEEN SYMBOL;KEYCAP TEN",
    "INPUT SYMBOL FOR LATIN CAPITAL LETTERS;23:SMALL LETTERS;17:NUMBERS;17:SYMBOLS",
    "17:LATIN LETTERS;FIRE;ELECTRIC TORCH;WRENCH;HAMMER;NUT AND BOLT;HOCHO;PISTOL;MICROSCOPE",
    "TELESCOPE;CRYSTAL BALL;SIX POINTED STAR WITH MIDDLE DOT;JAPANESE SYMBOL FOR BEGINNER",
    "TRIDENT EMBLEM;BLACK SQUARE BUTTON;WHITE SQUARE BUTTON;LARGE RED CIRCLE;6:BLUE CIRCLE",
    "6:ORANGE DIAMOND;6:BLUE DIAMOND;SMALL ORANGE DIAMOND;6:BLUE DIAMOND;UP-POINTING RED TRIANGLE",
    "DOWN-POINTING RED TRIANGLE;UP-POINTING SMALL RED TRIANGLE;DOWN-POINTING SMALL RED TRIANGLE",
    "LOWER RIGHT SHADOWED WHITE CIRCLE;UPPER RIGHT SHADOWED WHITE CIRCLE;CIRCLED CROSS POMMEE",
    "CROSS POMMEE WITH HALF-CIRCLE BELOW;12:;NOTCHED LEFT SEMICIRCLE WITH THREE DOTS",
    "8:RIGHT SEMICIRCLE WITH THREE DOTS;SYMBOL FOR MARKS CHAPTER;WHITE LATIN CROSS",
    "HEAVY LATIN CROSS;CELTIC CROSS;OM SYMBOL;DOVE OF PEACE;KAABA;MOSQUE;SYNAGOGUE",
    "MENORAH WITH NINE BRANCHES;BOWL OF HYGIEIA;CLOCK FACE ONE OCLOCK;11:TWO OCLOCK",
    "12:HREE OCLOCK;11:FOUR OCLOCK;12:IVE OCLOCK;11:SIX OCLOCK;12:EVEN OCLOCK;11:EIGHT OCLOCK",
    "11:NINE OCLOCK;11:TEN OCLOCK;11:ELEVEN OCLOCK;11:TWELVE OCLOCK;11:ONE-THIRTY;11:TWO-THIRTY",
    "12:HREE-THIRTY;11:FOUR-THIRTY;12:IVE-THIRTY;11:SIX-THIRTY;12:EVEN-THIRTY;11:EIGHT-THIRTY",
    "11:NINE-THIRTY;11:TEN-THIRTY;11:ELEVEN-THIRTY;11:TWELVE-THIRTY;RIGHT SPEAKER",
    "13: WITH ONE SOUND WAVE;19:THREE SOUND WAVES;BULLHORN;8: WITH SOUND WAVES;RINGING BELL;BOOK",
    "CANDLE;MANTELPIECE CLOCK;BLACK SKULL AND CROSSBONES;NO PIRACY;HOLE",
    "MAN IN BUSINESS SUIT LEVITATING;SLEUTH OR SPY;DARK SUNGLASSES;SPIDER;6: WEB;JOYSTICK",
    "MAN DANCING;LEFT HAND TELEPHONE RECEIVER;TELEPHONE RECEIVER WITH PAGE",
    "RIGHT HAND TELEPHONE RECEIVER;WHITE TOUCHTONE TELEPHONE;BLACK TOUCHTONE TELEPHONE",
    "TELEPHONE ON TOP OF MODEM;CLAMSHELL MOBILE PHONE;BACK OF ENVELOPE;STAMPED ENVELOPE",
    "ENVELOPE WITH LIGHTNING;FLYING ENVELOPE;PEN OVER STAMPED ENVELOPE;LINKED PAPERCLIPS",
    "BLACK PUSHPIN;LOWER LEFT PENCIL;11:BALLPOINT PEN;11:FOUNTAIN PEN;11:PAINTBRUSH;11:CRAYON",
    "LEFT WRITING HAND;TURNED OK HAND SIGN;RAISED HAND WITH FINGERS SPLAYED",
    "REVERSED RAISED HAND WITH FINGERS SPLAYED;9:THUMBS UP SIGN;16:DOWN SIGN;9:VICTORY HAND",
    "9:HAND WITH MIDDLE FINGER EXTENDED;RAISED HAND WITH PART BETWEEN MIDDLE AND RING FINGERS",
    "WHITE DOWN POINTING LEFT HAND INDEX;SIDEWAYS WHITE LEFT POINTING INDEX",
    "15:RIGHT POINTING INDEX;9:BLACK LEFT POINTING INDEX;15:RIGHT POINTING INDEX",
    "BLACK LEFT POINTING BACKHAND INDEX;6:RIGHT POINTING BACKHAND INDEX",
    "SIDEWAYS WHITE UP POINTING INDEX;15:DOWN POINTING INDEX;9:BLACK UP POINTING INDEX",
    "15:DOWN POINTING INDEX;BLACK UP POINTING BACKHAND INDEX;6:DOWN POINTING BACKHAND INDEX",
    "6:HEART;DESKTOP COMPUTER;KEYBOARD AND MOUSE;THREE NETWORKED COMPUTERS;PRINTER",
    "POCKET CALCULATOR;BLACK HARD SHELL FLOPPY DISK;WHITE HARD SHELL FLOPPY DISK",
    "SOFT SHELL FLOPPY DISK;TAPE CARTRIDGE;WIRED KEYBOARD;ONE BUTTON MOUSE;TWO BUTTON MOUSE",
    "THREE BUTTON MOUSE;TRACKBALL;OLD PERSONAL COMPUTER;HARD DISK;SCREEN;PRINTER ICON;FAX ICON",
    "OPTICAL DISC ICON;DOCUMENT WITH TEXT;18: AND PICTURE;14:PICTURE;FRAME WITH PICTURE;11:TILES",
    "11:AN X;BLACK FOLDER;FOLDER;OPEN FOLDER;CARD INDEX DIVIDERS;5:FILE BOX;FILE CABINET",
    "EMPTY NOTE;10: PAGE;13:D;NOTE;4: PAGE;7:D;EMPTY DOCUMENT;6:PAGE;10:S;DOCUMENT;PAGE;4:S",
    "WASTEBASKET;SPIRAL NOTE PAD;7:CALENDAR PAD;DESKTOP WINDOW;MINIMIZE;MAXIMIZE;OVERLAP",
    "CLOCKWISE RIGHT AND LEFT SEMICIRCLE ARROWS;CANCELLATION X;INCREASE FONT SIZE SYMBOL",
    "DECREASE FONT SIZE SYMBOL;COMPRESSION;OLD KEY;ROLLED-UP NEWSPAPER;PAGE WITH CIRCLED TEXT",
    "STOCK CHART;DAGGER KNIFE;LIPS;SPEAKING HEAD IN SILHOUETTE;THREE RAYS ABOVE;11:BELOW;11:LEFT",
    "11:RIGHT;LEFT SPEECH BUBBLE;RIGHT SPEECH BUBBLE;TWO SPEECH BUBBLES;THREE SPEECH BUBBLES",
    "LEFT THOUGHT BUBBLE;RIGHT THOUGHT BUBBLE;LEFT ANGER BUBBLE;RIGHT ANGER BUBBLE;MOOD BUBBLE",
    "LIGHTNING MOOD BUBBLE;14:;BALLOT BOX WITH BALLOT;7:SCRIPT X;7:BOX WITH SCRIPT X",
    "9:LD SCRIPT X;9:X WITH BOLD SCRIPT X;LIGHT CHECK MARK;BALLOT BOX WITH BOLD CHECK;WORLD MAP",
    "MOUNT FUJI;TOKYO TOWER;STATUE OF LIBERTY;SILHOUETTE OF JAPAN;MOYAI;GRINNING FACE",
    "13: WITH SMILING EYES;FACE WITH TEARS OF JOY;SMILING FACE WITH OPEN MOUTH",
    "28: AND SMILING EYES;33:COLD SWEAT;33:TIGHTLY-CLOSED EYES;18:HALO;19:ORNS;WINKING FACE",
    "SMILING FACE WITH SMILING EYES;FACE SAVOURING DELICIOUS FOOD;RELIEVED FACE",
    "SMILING FACE WITH HEART-SHAPED EYES;18:SUNGLASSES;3:RKING FACE;NEUTRAL FACE",
    "EXPRESSIONLESS FACE;UNAMUSED FACE;FACE WITH COLD SWEAT;PENSIVE FACE;CONFUSED FACE",
    "4:OUNDED FACE;KISSING FACE;FACE THROWING A KISS;KISSING FACE WITH SMILING EYES",
    "18:CLOSED EYES;FACE WITH STUCK-OUT TONGUE;26: AND WINKING EYE;31:TIGHTLY-CLOSED EYES",
    "DISAPPOINTED FACE;WORRIED FACE;ANGRY FACE;POUTING FACE;CRYING FACE;PERSEVERING FACE",
    "FACE WITH LOOK OF TRIUMPH;DISAPPOINTED BUT RELIEVED FACE;FROWNING FACE WITH OPEN MOUTH",
    "ANGUISHED FACE;FEARFUL FACE;WEARY FACE;SLEEPY FACE;TIRED FACE;GRIMACING FACE",
    "LOUDLY CRYING FACE;FACE WITH OPEN MOUTH;HUSHED FACE;FACE WITH OPEN MOUTH AND COLD SWEAT",
    "5:SCREAMING IN FEAR;ASTONISHED FACE;FLUSHED FACE;SLEEPING FACE;DIZZY FACE;FACE WITHOUT MOUTH",
    "9: MEDICAL MASK;GRINNING CAT FACE WITH SMILING EYES;CAT FACE WITH TEARS OF JOY",
    "SMILING CAT FACE WITH OPEN MOUTH;22:HEART-SHAPED EYES;CAT FACE WITH WRY SMILE",
    "KISSING CAT FACE WITH CLOSED EYES;POUTING CAT FACE;CRYING CAT FACE;WEARY CAT FACE",
    "SLIGHTLY FROWNING FACE;9:SMILING FACE;UPSIDE-DOWN FACE;FACE WITH ROLLING EYES",
    "10:NO GOOD GESTURE;10:OK GESTURE;PERSON BOWING DEEPLY;SEE-NO-EVIL MONKEY;HEAR-NO-EVIL MONKEY",
    "SPEAK-NO-EVIL MONKEY;HAPPY PERSON RAISING ONE HAND;PERSON RAISING BOTH HANDS IN CELEBRATION",
    "7:FROWNING;7:WITH POUTING FACE;12:FOLDED HANDS;NORTH WEST POINTING LEAF",
    "SOUTH WEST POINTING LEAF;NORTH EAST POINTING LEAF;SOUTH EAST POINTING LEAF",
    "TURNED NORTH WEST POINTING LEAF;7:SOUTH WEST POINTING LEAF;7:NORTH EAST POINTING LEAF",
    "7:SOUTH EAST POINTING LEAF;NORTH WEST POINTING VINE LEAF;SOUTH WEST POINTING VINE LEAF",
    "NORTH EAST POINTING VINE LEAF;SOUTH EAST POINTING VINE LEAF",
    "HEAVY NORTH WEST POINTING VINE LEAF;6:SOUTH WEST POINTING VINE LEAF",
    "6:NORTH EAST POINTING VINE LEAF;6:SOUTH EAST POINTING VINE LEAF;NORTH WEST POINTING BUD",
    "SOUTH WEST POINTING BUD;NORTH EAST POINTING BUD;SOUTH EAST POINTING BUD",
    "HEAVY NORTH WEST POINTING BUD;6:SOUTH WEST POINTING BUD;6:NORTH EAST POINTING BUD",
    "6:SOUTH EAST POINTING BUD;HOLLOW QUILT SQUARE ORNAMENT;28: IN BLACK SQUARE",
    "SOLID QUILT SQUARE ORNAMENT;27: IN BLACK SQUARE;LEFTWARDS ROCKET;UPWARDS ROCKET",
    "RIGHTWARDS ROCKET;DOWNWARDS ROCKET;SCRIPT LIGATURE ET ORNAMENT",
    "HEAVY SCRIPT LIGATURE ET ORNAMENT;LIGATURE OPEN ET ORNAMENT;HEAVY LIGATURE OPEN ET ORNAMENT",
    "6:AMPERSAND ORNAMENT;SWASH AMPERSAND ORNAMENT",
    "SANS-SERIF HEAVY DOUBLE TURNED COMMA QUOTATION MARK ORNAMENT",
    "24:COMMA QUOTATION MARK ORNAMENT;17:LOW DOUBLE COMMA QUOTATION MARK ORNAMENT",
    "HEAVY INTERROBANG ORNAMENT;SANS-SERIF INTERROBANG ORNAMENT",
    "HEAVY SANS-SERIF INTERROBANG ORNAMENT;VERY HEAVY SOLIDUS;11:REVERSE SOLIDUS;CHECKER BOARD",
    "REVERSE CHECKER BOARD;ROCKET;HELICOPTER;STEAM LOCOMOTIVE;RAILWAY CAR;HIGH-SPEED TRAIN",
    "16: WITH BULLET NOSE;TRAIN;METRO;LIGHT RAIL;STATION;TRAM;4: CAR;BUS;ONCOMING BUS;TROLLEYBUS",
    "BUS STOP;MINIBUS;AMBULANCE;FIRE ENGINE;POLICE CAR;ONCOMING POLICE CAR;TAXI;ONCOMING TAXI",
    "AUTOMOBILE;ONCOMING AUTOMOBILE;RECREATIONAL VEHICLE;DELIVERY TRUCK;ARTICULATED LORRY;TRACTOR",
    "MONORAIL;MOUNTAIN RAILWAY;SUSPENSION RAILWAY;MOUNTAIN CABLEWAY;AERIAL TRAMWAY;SHIP;ROWBOAT",
    "SPEEDBOAT;HORIZONTAL TRAFFIC LIGHT;VERTICAL TRAFFIC LIGHT;CONSTRUCTION SIGN",
    "POLICE CARS REVOLVING LIGHT;TRIANGULAR FLAG ON POST;DOOR;NO ENTRY SIGN;SMOKING SYMBOL",
    "NO SMOKING SYMBOL;PUT LITTER IN ITS PLACE SYMBOL;DO NOT LITTER SYMBOL;POTABLE WATER SYMBOL",
    "NON-POTABLE WATER SYMBOL;BICYCLE;NO BICYCLES;BICYCLIST;MOUNTAIN BICYCLIST;PEDESTRIAN",
    "NO PEDESTRIANS;CHILDREN CROSSING;MENS SYMBOL;WOMENS SYMBOL;RESTROOM;BABY SYMBOL;TOILET",
    "WATER CLOSET;SHOWER;BATH;4:TUB;PASSPORT CONTROL;CUSTOMS;BAGGAGE CLAIM;LEFT LUGGAGE",
    "TRIANGLE WITH ROUNDED CORNERS;PROHIBITED SIGN;CIRCLED INFORMATION SOURCE;BOYS SYMBOL",
    "GIRLS SYMBOL;COUCH AND LAMP;SLEEPING ACCOMMODATION;SHOPPING BAGS;BELLHOP BELL;BED",
    "PLACE OF WORSHIP;OCTAGONAL SIGN;SHOPPING TROLLEY;STUPA;PAGODA;HINDU TEMPLE;HUT;ELEVATOR;;;;",
    "WIRELESS;PLAYGROUND SLIDE;WHEEL;RING BUOY;HAMMER AND WRENCH;SHIELD;OIL DRUM;MOTORWAY",
    "RAILWAY TRACK;MOTOR BOAT;UP-POINTING MILITARY AIRPLANE;12:AIRPLANE;12:SMALL AIRPLANE",
    "SMALL AIRPLANE;NORTHEAST-POINTING AIRPLANE;AIRPLANE DEPARTURE;9:ARRIVING;;;;SATELLITE",
    "ONCOMING FIRE ENGINE;DIESEL LOCOMOTIVE;PASSENGER SHIP;SCOOTER;MOTOR SCOOTER;CANOE;SLED",
    "FLYING SAUCER;SKATEBOARD;AUTO RICKSHAW;PICKUP TRUCK;ROLLER SKATE;;;",
    "ALCHEMICAL SYMBOL FOR QUINTESSENCE;22:AIR;22:FIRE;22:EARTH;22:WATER;22:AQUAFORTIS;26: REGIA",
    "32:-2;27:VITAE;32:-2;22:VINEGAR;29:-2;30:3;22:SULFUR;22:PHILOSOPHERS SULFUR;22:BLACK SULFUR",
    "22:MERCURY SUBLIMATE;39:-2;40:3;22:CINNABAR;22:SALT;22:NITRE;22:VITRIOL;29:-2;22:ROCK SALT",
    "31:-2;22:GOLD;22:SILVER;22:IRON ORE;30:-2;22:CROCUS OF IRON;22:REGULUS OF IRON;22:COPPER ORE",
    "22:IRON-COPPER ORE;22:SUBLIMATE OF COPPER;22:CROCUS OF COPPER;38:-2;23:OPPER ANTIMONIATE",
    "22:SALT OF COPPER ANTIMONIATE;23:UBLIMATE OF SALT OF COPPER;22:VERDIGRIS;22:TIN ORE",
    "22:LEAD ORE;22:ANTIMONY ORE;22:SUBLIMATE OF ANTIMONY;23:ALT OF ANTIMONY",
    "23:UBLIMATE OF SALT OF ANTIMONY;22:VINEGAR OF ANTIMONY;22:REGULUS OF ANTIMONY;41:-2;29:",
    "29:-2;30:3;30:4;22:ALKALI;28:-2;22:MARCASITE;22:SAL-AMMONIAC;22:ARSENIC;22:REALGAR;29:-2",
    "22:AURIPIGMENT;22:BISMUTH ORE;22:TARTAR;28:-2;22:QUICK LIME;22:BORAX;27:-2;28:3;22:ALUM",
    "22:OIL;22:SPIRIT;22:TINCTURE;22:GUM;22:WAX;22:POWDER;22:CALX;22:TUTTY;22:CAPUT MORTUUM",
    "22:SCEPTER OF JOVE;22:CADUCEUS;22:TRIDENT;22:STARRED TRIDENT;22:LODESTONE;22:SOAP;22:URINE",
    "22:HORSE DUNG;22:ASHES;22:POT ASHES;22:BRICK;22:POWDERED BRICK;22:AMALGAM",
    "22:STRATUM SUPER STRATUM;43:-2;23:UBLIMATION;22:PRECIPITATE;22:DISTILL;25:SOLVE;30:-2",
    "22:PURIFY;24:TREFACTION;22:CRUCIBLE;30:-2;31:3;31:4;31:5;22:ALEMBIC;22:BATH OF MARY",
    "30:VAPOURS;22:RETORT;22:HOUR;22:NIGHT;22:DAY-NIGHT;22:MONTH;22:HALF DRAM;27:OUNCE",
    "LOT OF FORTUNE;OCCULTATION;LUNAR ECLIPSE;;;;;HAUMEA;MAKEMAKE;GONGGONG;QUAOAR;ORCUS",
    "BLACK LEFT-POINTING ISOSCELES RIGHT TRIANGLE;6:UP-POINTING ISOSCELES RIGHT TRIANGLE",
    "6:RIGHT-POINTING ISOSCELES RIGHT TRIANGLE;6:DOWN-POINTING ISOSCELES RIGHT TRIANGLE",
    "6:SLIGHTLY SMALL CIRCLE;MEDIUM BOLD WHITE CIRCLE;BOLD WHITE CIRCLE;HEAVY WHITE CIRCLE",
    "VERY HEAVY WHITE CIRCLE;EXTREMELY HEAVY WHITE CIRCLE",
    "WHITE CIRCLE CONTAINING BLACK SMALL CIRCLE;ROUND TARGET;BLACK TINY SQUARE",
    "6:SLIGHTLY SMALL SQUARE;LIGHT WHITE SQUARE;MEDIUM WHITE SQUARE;BOLD WHITE SQUARE",
    "HEAVY WHITE SQUARE;VERY HEAVY WHITE SQUARE;EXTREMELY HEAVY WHITE SQUARE",
    "WHITE SQUARE CONTAINING BLACK VERY SMALL SQUARE;30:MEDIUM SQUARE;SQUARE TARGET",
    "BLACK TINY DIAMOND;6:VERY SMALL DIAMOND;6:MEDIUM SMALL DIAMOND",
    "WHITE DIAMOND CONTAINING BLACK VERY SMALL DIAMOND;31:MEDIUM DIAMOND;DIAMOND TARGET",
    "BLACK TINY LOZENGE;6:VERY SMALL LOZENGE;6:MEDIUM SMALL LOZENGE",
    "WHITE LOZENGE CONTAINING BLACK SMALL LOZENGE;THIN GREEK CROSS;LIGHT GREEK CROSS",
    "MEDIUM GREEK CROSS;BOLD GREEK CROSS;VERY BOLD GREEK CROSS;5:HEAVY GREEK CROSS",
    "EXTREMELY HEAVY GREEK CROSS;THIN SALTIRE;LIGHT SALTIRE;MEDIUM SALTIRE;BOLD SALTIRE",
    "HEAVY SALTIRE;VERY HEAVY SALTIRE;EXTREMELY HEAVY SALTIRE;LIGHT FIVE SPOKED ASTERISK",
    "MEDIUM FIVE SPOKED ASTERISK;BOLD FIVE SPOKED ASTERISK;HEAVY FIVE SPOKED ASTERISK",
    "VERY HEAVY FIVE SPOKED ASTERISK;EXTREMELY HEAVY FIVE SPOKED ASTERISK",
    "LIGHT SIX SPOKED ASTERISK;MEDIUM SIX SPOKED ASTERISK;BOLD SIX SPOKED ASTERISK",
    "HEAVY SIX SPOKED ASTERISK;VERY HEAVY SIX SPOKED ASTERISK;EXTREMELY HEAVY SIX SPOKED ASTERISK",
    "LIGHT EIGHT SPOKED ASTERISK;MEDIUM EIGHT SPOKED ASTERISK;BOLD EIGHT SPOKED ASTERISK",
    "HEAVY EIGHT SPOKED ASTERISK;VERY HEAVY EIGHT SPOKED ASTERISK;LIGHT THREE POINTED BLACK STAR",
    "MEDIUM THREE POINTED BLACK STAR;THREE POINTED BLACK STAR;MEDIUM THREE POINTED PINWHEEL STAR",
    "LIGHT FOUR POINTED BLACK STAR;MEDIUM FOUR POINTED BLACK STAR;FOUR POINTED BLACK STAR",
    "MEDIUM FOUR POINTED PINWHEEL STAR;REVERSE LIGHT FOUR POINTED PINWHEEL STAR",
    "LIGHT FIVE POINTED BLACK STAR;HEAVY FIVE POINTED BLACK STAR;MEDIUM SIX POINTED BLACK STAR",
    "HEAVY SIX POINTED BLACK STAR;SIX POINTED PINWHEEL STAR;MEDIUM EIGHT POINTED BLACK STAR",
    "HEAVY EIGHT POINTED BLACK STAR;VERY HEAVY EIGHT POINTED BLACK STAR",
    "HEAVY EIGHT POINTED PINWHEEL STAR;LIGHT TWELVE POINTED BLACK STAR",
    "HEAVY TWELVE POINTED BLACK STAR;21:PINWHEEL STAR;CIRCLED TRIANGLE;NEGATIVE CIRCLED TRIANGLE",
    "CIRCLED SQUARE;NEGATIVE CIRCLED SQUARE;NINE POINTED WHITE STAR;;;;;;;LARGE ORANGE CIRCLE",
    "6:YELLOW CIRCLE;6:GREEN CIRCLE;6:PURPLE CIRCLE;6:BROWN CIRCLE;6:RED SQUARE;6:BLUE SQUARE",
    "6:ORANGE SQUARE;6:YELLOW SQUARE;6:GREEN SQUARE;6:PURPLE SQUARE;6:BROWN SQUARE;;;;",
    "HEAVY EQUALS SIGN"]),
  (0x1F800, [
    "LEFTWARDS ARROW WITH SMALL TRIANGLE ARROWHEAD;UPWARDS ARROW WITH SMALL TRIANGLE ARROWHEAD",
    "RIGHTWARDS ARROW WITH SMALL TRIANGLE ARROWHEAD;DOWNWARDS ARROW WITH SMALL TRIANGLE ARROWHEAD",
    "LEFTWARDS ARROW WITH MEDIUM TRIANGLE ARROWHEAD;UPWARDS ARROW WITH MEDIUM TRIANGLE ARROWHEAD",
    "RIGHTWARDS ARROW WITH MEDIUM TRIANGLE ARROWHEAD",
    "DOWNWARDS ARROW WITH MEDIUM TRIANGLE ARROWHEAD;LEFTWARDS ARROW WITH LARGE TRIANGLE ARROWHEAD",
    "UPWARDS ARROW WITH LARGE TRIANGLE ARROWHEAD;RIGHTWARDS ARROW WITH LARGE TRIANGLE ARROWHEAD",
    "DOWNWARDS ARROW WITH LARGE TRIANGLE ARROWHEAD;;;;",
    "LEFTWARDS ARROW WITH SMALL EQUILATERAL ARROWHEAD",
    "UPWARDS ARROW WITH SMALL EQUILATERAL ARROWHEAD",
    "RIGHTWARDS ARROW WITH SMALL EQUILATERAL ARROWHEAD",
    "DOWNWARDS ARROW WITH SMALL EQUILATERAL ARROWHEAD;LEFTWARDS ARROW WITH EQUILATERAL ARROWHEAD",
    "UPWARDS ARROW WITH EQUILATERAL ARROWHEAD;RIGHTWARDS ARROW WITH EQUILATERAL ARROWHEAD",
    "DOWNWARDS ARROW WITH EQUILATERAL ARROWHEAD;HEAVY LEFTWARDS ARROW WITH EQUILATERAL ARROWHEAD",
    "6:UPWARDS ARROW WITH EQUILATERAL ARROWHEAD;6:RIGHTWARDS ARROW WITH EQUILATERAL ARROWHEAD",
    "6:DOWNWARDS ARROW WITH EQUILATERAL ARROWHEAD",
    "6:LEFTWARDS ARROW WITH LARGE EQUILATERAL ARROWHEAD",
    "6:UPWARDS ARROW WITH LARGE EQUILATERAL ARROWHEAD",
    "6:RIGHTWARDS ARROW WITH LARGE EQUILATERAL ARROWHEAD",
    "6:DOWNWARDS ARROW WITH LARGE EQUILATERAL ARROWHEAD",
    "LEFTWARDS TRIANGLE-HEADED ARROW WITH NARROW SHAFT",
    "UPWARDS TRIANGLE-HEADED ARROW WITH NARROW SHAFT",
    "RIGHTWARDS TRIANGLE-HEADED ARROW WITH NARROW SHAFT",
    "DOWNWARDS TRIANGLE-HEADED ARROW WITH NARROW SHAFT",
    "LEFTWARDS TRIANGLE-HEADED ARROW WITH MEDIUM SHAFT",
    "UPWARDS TRIANGLE-HEADED ARROW WITH MEDIUM SHAFT",
    "RIGHTWARDS TRIANGLE-HEADED ARROW WITH MEDIUM SHAFT",
    "DOWNWARDS TRIANGLE-HEADED ARROW WITH MEDIUM SHAFT",
    "LEFTWARDS TRIANGLE-HEADED ARROW WITH BOLD SHAFT",
    "UPWARDS TRIANGLE-HEADED ARROW WITH BOLD SHAFT",
    "RIGHTWARDS TRIANGLE-HEADED ARROW WITH BOLD SHAFT",
    "DOWNWARDS TRIANGLE-HEADED ARROW WITH BOLD SHAFT",
    "LEFTWARDS TRIANGLE-HEADED ARROW WITH HEAVY SHAFT",
    "UPWARDS TRIANGLE-HEADED ARROW WITH HEAVY SHAFT",
    "RIGHTWARDS TRIANGLE-HEADED ARROW WITH HEAVY SHAFT",
    "DOWNWARDS TRIANGLE-HEADED ARROW WITH HEAVY SHAFT",
    "LEFTWARDS TRIANGLE-HEADED ARROW WITH VERY HEAVY SHAFT",
    "UPWARDS TRIANGLE-HEADED ARROW WITH VERY HEAVY SHAFT",
    "RIGHTWARDS TRIANGLE-HEADED ARROW WITH VERY HEAVY SHAFT",
    "DOWNWARDS TRIANGLE-HEADED ARROW WITH VERY HEAVY SHAFT;LEFTWARDS FINGER-POST ARROW",
    "UPWARDS FINGER-POST ARROW;RIGHTWARDS FINGER-POST ARROW;DOWNWARDS FINGER-POST ARROW",
    "LEFTWARDS SQUARED ARROW;UPWARDS SQUARED ARROW;RIGHTWARDS SQUARED ARROW",
    "DOWNWARDS SQUARED ARROW;LEFTWARDS COMPRESSED ARROW;UPWARDS COMPRESSED ARROW",
    "RIGHTWARDS COMPRESSED ARROW;DOWNWARDS COMPRESSED ARROW;LEFTWARDS HEAVY COMPRESSED ARROW",
    "UPWARDS HEAVY COMPRESSED ARROW;RIGHTWARDS HEAVY COMPRESSED ARROW",
    "DOWNWARDS HEAVY COMPRESSED ARROW;LEFTWARDS HEAVY ARROW;UPWARDS HEAVY ARROW",
    "RIGHTWARDS HEAVY ARROW;DOWNWARDS HEAVY ARROW;;;;;;;;;LEFTWARDS SANS-SERIF ARROW",
    "UPWARDS SANS-SERIF ARROW;RIGHTWARDS SANS-SERIF ARROW;DOWNWARDS SANS-SERIF ARROW",
    "NORTH WEST SANS-SERIF ARROW;6:EAST SANS-SERIF ARROW;SOUTH EAST SANS-SERIF ARROW",
    "6:WEST SANS-SERIF ARROW;LEFT RIGHT SANS-SERIF ARROW;UP DOWN SANS-SERIF ARROW;;;;;;",
    "WIDE-HEADED LEFTWARDS LIGHT BARB ARROW;12:UPWARDS LIGHT BARB ARROW",
    "12:RIGHTWARDS LIGHT BARB ARROW;12:DOWNWARDS LIGHT BARB ARROW;12:NORTH WEST LIGHT BARB ARROW",
    "18:EAST LIGHT BARB ARROW;12:SOUTH EAST LIGHT BARB ARROW;18:WEST LIGHT BARB ARROW",
    "12:LEFTWARDS BARB ARROW;12:UPWARDS BARB ARROW;12:RIGHTWARDS BARB ARROW",
    "12:DOWNWARDS BARB ARROW;12:NORTH WEST BARB ARROW;18:EAST BARB ARROW;12:SOUTH EAST BARB ARROW",
    "18:WEST BARB ARROW;12:LEFTWARDS MEDIUM BARB ARROW;12:UPWARDS MEDIUM BARB ARROW",
    "12:RIGHTWARDS MEDIUM BARB ARROW;12:DOWNWARDS MEDIUM BARB ARROW",
    "12:NORTH WEST MEDIUM BARB ARROW;18:EAST MEDIUM BARB ARROW;12:SOUTH EAST MEDIUM BARB ARROW",
    "18:WEST MEDIUM BARB ARROW;12:LEFTWARDS HEAVY BARB ARROW;12:UPWARDS HEAVY BARB ARROW",
    "12:RIGHTWARDS HEAVY BARB ARROW;12:DOWNWARDS HEAVY BARB ARROW;12:NORTH WEST HEAVY BARB ARROW",
    "18:EAST HEAVY BARB ARROW;12:SOUTH EAST HEAVY BARB ARROW;18:WEST HEAVY BARB ARROW",
    "12:LEFTWARDS VERY HEAVY BARB ARROW;12:UPWARDS VERY HEAVY BARB ARROW",
    "12:RIGHTWARDS VERY HEAVY BARB ARROW;12:DOWNWARDS VERY HEAVY BARB ARROW",
    "12:NORTH WEST VERY HEAVY BARB ARROW;18:EAST VERY HEAVY BARB ARROW",
    "12:SOUTH EAST VERY HEAVY BARB ARROW;18:WEST VERY HEAVY BARB ARROW;;;;;;;;",
    "LEFTWARDS TRIANGLE ARROWHEAD;UPWARDS TRIANGLE ARROWHEAD;RIGHTWARDS TRIANGLE ARROWHEAD",
    "DOWNWARDS TRIANGLE ARROWHEAD;LEFTWARDS WHITE ARROW WITHIN TRIANGLE ARROWHEAD",
    "UPWARDS WHITE ARROW WITHIN TRIANGLE ARROWHEAD",
    "RIGHTWARDS WHITE ARROW WITHIN TRIANGLE ARROWHEAD",
    "DOWNWARDS WHITE ARROW WITHIN TRIANGLE ARROWHEAD;LEFTWARDS ARROW WITH NOTCHED TAIL",
    "UPWARDS ARROW WITH NOTCHED TAIL;RIGHTWARDS ARROW WITH NOTCHED TAIL",
    "DOWNWARDS ARROW WITH NOTCHED TAIL;HEAVY ARROW SHAFT WIDTH ONE;24:TWO THIRDS;24:ONE HALF",
    "28:THIRD;LEFTWARDS BOTTOM-SHADED WHITE ARROW;RIGHTWARDS BOTTOM SHADED WHITE ARROW",
    "LEFTWARDS TOP SHADED WHITE ARROW;RIGHTWARDS TOP SHADED WHITE ARROW",
    "LEFTWARDS LEFT-SHADED WHITE ARROW;RIGHTWARDS RIGHT-SHADED WHITE ARROW",
    "LEFTWARDS RIGHT-SHADED WHITE ARROW;RIGHTWARDS LEFT-SHADED WHITE ARROW",
    "LEFTWARDS BACK-TILTED SHADOWED WHITE ARROW;RIGHTWARDS BACK-TILTED SHADOWED WHITE ARROW",
    "LEFTWARDS FRONT-TILTED SHADOWED WHITE ARROW;RIGHTWARDS FRONT-TILTED SHADOWED WHITE ARROW",
    "WHITE ARROW SHAFT WIDTH ONE;24:TWO THIRDS;;;ARROW POINTING UPWARDS THEN NORTH WEST",
    "15:RIGHTWARDS THEN CURVING SOUTH WEST"]),
  (0x1F900, [
    "CIRCLED CROSS FORMEE WITH FOUR DOTS;26:TWO DOTS;20:;LEFT HALF CIRCLE WITH FOUR DOTS",
    "22:THREE DOTS;23:WO DOTS;22:DOT;16:;DOWNWARD FACING HOOK;16:NOTCHED HOOK;16:HOOK WITH DOT",
    "16:NOTCHED HOOK WITH DOT;PINCHED FINGERS;WHITE HEART;BROWN HEART;PINCHING HAND",
    "ZIPPER-MOUTH FACE;MONEY-MOUTH FACE;FACE WITH THERMOMETER;NERD FACE;THINKING FACE",
    "FACE WITH HEAD-BANDAGE;ROBOT FACE;HUGGING FACE;SIGN OF THE HORNS;CALL ME HAND",
    "RAISED BACK OF HAND;LEFT-FACING FIST;RIGHT-FACING FIST;HANDSHAKE",
    "4: WITH INDEX AND MIDDLE FINGERS CROSSED;I LOVE YOU HAND SIGN;FACE WITH COWBOY HAT",
    "CLOWN FACE;NAUSEATED FACE;ROLLING ON THE FLOOR LAUGHING;DROOLING FACE;LYING FACE;FACE PALM",
    "SNEEZING FACE;FACE WITH ONE EYEBROW RAISED;GRINNING FACE WITH STAR EYES",
    "19:ONE LARGE AND ONE SMALL EYE;FACE WITH FINGER COVERING CLOSED LIPS",
    "SERIOUS FACE WITH SYMBOLS COVERING MOUTH",
    "SMILING FACE WITH SMILING EYES AND HAND COVERING MOUTH;FACE WITH OPEN MOUTH VOMITING",
    "SHOCKED FACE WITH EXPLODING HEAD;PREGNANT WOMAN;BREAST-FEEDING;PALMS UP TOGETHER;SELFIE",
    "PRINCE;MAN IN TUXEDO;MOTHER CHRISTMAS;SHRUG;PERSON DOING CARTWHEEL;JUGGLING;FENCER",
    "MODERN PENTATHLON;WRESTLERS;WATER POLO;HANDBALL;DIVING MASK;WILTED FLOWER",
    "DRUM WITH DRUMSTICKS;CLINKING GLASSES;TUMBLER GLASS;SPOON;GOAL NET;RIFLE;FIRST PLACE MEDAL",
    "SECOND PLACE MEDAL;THIRD PLACE MEDAL;BOXING GLOVE;MARTIAL ARTS UNIFORM;CURLING STONE",
    "LACROSSE STICK AND BALL;SOFTBALL;FLYING DISC;CROISSANT;AVOCADO;CUCUMBER;BACON;POTATO;CARROT",
    "BAGUETTE BREAD;GREEN SALAD;SHALLOW PAN OF FOOD;STUFFED FLATBREAD;EGG;GLASS OF MILK;PEANUTS",
    "KIWIFRUIT;PANCAKES;DUMPLING;FORTUNE COOKIE;TAKEOUT BOX;CHOPSTICKS;BOWL WITH SPOON",
    "CUP WITH STRAW;COCONUT;BROCCOLI;PIE;PRETZEL;CUT OF MEAT;SANDWICH;CANNED FOOD;LEAFY GREEN",
    "MANGO;MOON CAKE;BAGEL;SMILING FACE WITH SMILING EYES AND THREE HEARTS;YAWNING FACE",
    "SMILING FACE WITH TEAR;FACE WITH PARTY HORN AND PARTY HAT;10:UNEVEN EYES AND WAVY MOUTH",
    "OVERHEATED FACE;FREEZING FACE;NINJA;DISGUISED FACE;FACE HOLDING BACK TEARS",
    "5:WITH PLEADING EYES;SARI;LAB COAT;GOGGLES;HIKING BOOT;FLAT SHOE;CRAB;LION FACE;SCORPION",
    "TURKEY;UNICORN FACE;EAGLE;DUCK;BAT;SHARK;OWL;FOX FACE;BUTTERFLY;DEER;GORILLA;LIZARD",
    "RHINOCEROS;SHRIMP;SQUID;GIRAFFE FACE;ZEBRA FACE;HEDGEHOG;SAUROPOD;T-REX;CRICKET;KANGAROO",
    "LLAMA;PEACOCK;HIPPOPOTAMUS;PARROT;RACCOON;LOBSTER;MOSQUITO;MICROBE;BADGER;SWAN;MAMMOTH;DODO",
    "SLOTH;OTTER;ORANGUTAN;SKUNK;FLAMINGO;OYSTER;BEAVER;BISON;SEAL;GUIDE DOG;PROBING CANE",
    "EMOJI COMPONENT RED HAIR;16:CURLY HAIR;16:BALD;16:WHITE HAIR;BONE;LEG;FOOT;TOOTH;SUPERHERO",
    "5:VILLAIN;SAFETY VEST;EAR WITH HEARING AID;MOTORIZED WHEELCHAIR;MANUAL WHEELCHAIR",
    "MECHANICAL ARM;11:LEG;CHEESE WEDGE;CUPCAKE;SALT SHAKER;BEVERAGE BOX;GARLIC;ONION;FALAFEL",
    "WAFFLE;BUTTER;MATE DRINK;ICE CUBE;BUBBLE TEA;TROLL;STANDING PERSON;KNEELING PERSON",
    "DEAF PERSON;FACE WITH MONOCLE;ADULT;CHILD;OLDER ADULT;BEARDED PERSON;PERSON WITH HEADSCARF",
    "7:IN STEAMY ROOM;7:CLIMBING;7:IN LOTUS POSITION;MAGE;FAIRY;VAMPIRE;MERPERSON;ELF;GENIE",
    "ZOMBIE;BRAIN;ORANGE HEART;BILLED CAP;SCARF;GLOVES;COAT;SOCKS;RED GIFT ENVELOPE;FIRECRACKER",
    "JIGSAW PUZZLE PIECE;TEST TUBE;PETRI DISH;DNA DOUBLE HELIX;COMPASS;ABACUS;FIRE EXTINGUISHER",
    "TOOLBOX;BRICK;MAGNET;LUGGAGE;LOTION BOTTLE;SPOOL OF THREAD;BALL OF YARN;SAFETY PIN",
    "TEDDY BEAR;BROOM;BASKET;ROLL OF PAPER;BAR OF SOAP;SPONGE;RECEIPT;NAZAR AMULET",
    "NEUTRAL CHESS KING;14:QUEEN;14:ROOK;14:BISHOP;14:KNIGHT;14:PAWN",
    "WHITE CHESS KNIGHT ROTATED FORTY-FIVE DEGREES;BLACK CHESS KNIGHT ROTATED FORTY-FIVE DEGREES",
    "NEUTRAL CHESS KNIGHT ROTATED FORTY-FIVE DEGREES;WHITE CHESS KING ROTATED NINETY DEGREES",
    "12:QUEEN ROTATED NINETY DEGREES;12:ROOK ROTATED NINETY DEGREES",
    "12:BISHOP ROTATED NINETY DEGREES;12:KNIGHT ROTATED NINETY DEGREES",
    "12:PAWN ROTATED NINETY DEGREES;BLACK CHESS KING ROTATED NINETY DEGREES",
    "12:QUEEN ROTATED NINETY DEGREES;12:ROOK ROTATED NINETY DEGREES",
    "12:BISHOP ROTATED NINETY DEGREES;12:KNIGHT ROTATED NINETY DEGREES",
    "12:PAWN ROTATED NINETY DEGREES;NEUTRAL CHESS KING ROTATED NINETY DEGREES",
    "14:QUEEN ROTATED NINETY DEGREES;14:ROOK ROTATED NINETY DEGREES",
    "14:BISHOP ROTATED NINETY DEGREES;14:KNIGHT ROTATED NINETY DEGREES",
    "14:PAWN ROTATED NINETY DEGREES;WHITE CHESS KNIGHT ROTATED ONE HUNDRED THIRTY-FIVE DEGREES",
    "BLACK CHESS KNIGHT ROTATED ONE HUNDRED THIRTY-FIVE DEGREES",
    "NEUTRAL CHESS KNIGHT ROTATED ONE HUNDRED THIRTY-FIVE DEGREES;WHITE CHESS TURNED KING",
    "19:QUEEN;19:ROOK;19:BISHOP;19:KNIGHT;19:PAWN;BLACK CHESS TURNED KING;19:QUEEN;19:ROOK",
    "19:BISHOP;19:KNIGHT;19:PAWN;NEUTRAL CHESS TURNED KING;21:QUEEN;21:ROOK;21:BISHOP;21:KNIGHT",
    "21:PAWN;WHITE CHESS KNIGHT ROTATED TWO HUNDRED TWENTY-FIVE DEGREES",
    "BLACK CHESS KNIGHT ROTATED TWO HUNDRED TWENTY-FIVE DEGREES",
    "NEUTRAL CHESS KNIGHT ROTATED TWO HUNDRED TWENTY-FIVE DEGREES",
    "WHITE CHESS KING ROTATED TWO HUNDRED SEVENTY DEGREES",
    "12:QUEEN ROTATED TWO HUNDRED SEVENTY DEGREES;12:ROOK ROTATED TWO HUNDRED SEVENTY DEGREES",
    "12:BISHOP ROTATED TWO HUNDRED SEVENTY DEGREES;12:KNIGHT ROTATED TWO HUNDRED SEVENTY DEGREES",
    "12:PAWN ROTATED TWO HUNDRED SEVENTY DEGREES",
    "BLACK CHESS KING ROTATED TWO HUNDRED SEVENTY DEGREES",
    "12:QUEEN ROTATED TWO HUNDRED SEVENTY DEGREES;12:ROOK ROTATED TWO HUNDRED SEVENTY DEGREES",
    "12:BISHOP ROTATED TWO HUNDRED SEVENTY DEGREES;12:KNIGHT ROTATED TWO HUNDRED SEVENTY DEGREES",
    "12:PAWN ROTATED TWO HUNDRED SEVENTY DEGREES",
    "NEUTRAL CHESS KING ROTATED TWO HUNDRED SEVENTY DEGREES",
    "14:QUEEN ROTATED TWO HUNDRED SEVENTY DEGREES;14:ROOK ROTATED TWO HUNDRED SEVENTY DEGREES",
    "14:BISHOP ROTATED TWO HUNDRED SEVENTY DEGREES;14:KNIGHT ROTATED TWO HUNDRED SEVENTY DEGREES",
    "14:PAWN ROTATED TWO HUNDRED SEVENTY DEGREES",
    "WHITE CHESS KNIGHT ROTATED THREE HUNDRED FIFTEEN DEGREES",
    "BLACK CHESS KNIGHT ROTATED THREE HUNDRED FIFTEEN DEGREES",
    "NEUTRAL CHESS KNIGHT ROTATED THREE HUNDRED FIFTEEN DEGREES;WHITE CHESS EQUIHOPPER",
    "BLACK CHESS EQUIHOPPER;NEUTRAL CHESS EQUIHOPPER",
    "WHITE CHESS EQUIHOPPER ROTATED NINETY DEGREES;BLACK CHESS EQUIHOPPER ROTATED NINETY DEGREES",
    "NEUTRAL CHESS EQUIHOPPER ROTATED NINETY DEGREES;WHITE CHESS KNIGHT-QUEEN;19:ROOK;19:BISHOP",
    "BLACK CHESS KNIGHT-QUEEN;19:ROOK;19:BISHOP;;;;;;;;;;;;;XIANGQI RED GENERAL;12:MANDARIN",
    "12:ELEPHANT;12:HORSE;12:CHARIOT;13:ANNON;12:SOLDIER;8:BLACK GENERAL;14:MANDARIN;14:ELEPHANT",
    "14:HORSE;14:CHARIOT;15:ANNON;14:SOLDIER;;;BALLET SHOES;ONE-PIECE SWIMSUIT;BRIEFS;SHORTS",
    "THONG SANDAL;LIGHT BLUE HEART;GREY HEART;PINK HEART;DROP OF BLOOD;ADHESIVE BANDAGE",
    "STETHOSCOPE;X-RAY;CRUTCH;;;;YO-YO;KITE;PARACHUTE;BOOMERANG;MAGIC WAND;PINATA;NESTING DOLLS",
    "MARACAS;FLUTE;;;;;;;;RINGED PLANET;CHAIR;RAZOR;AXE;DIYA LAMP;BANJO;MILITARY HELMET;ACCORDION",
    "LONG DRUM;COIN;CARPENTRY SAW;SCREWDRIVER;LADDER;HOOK;MIRROR;WINDOW;PLUNGER;SEWING NEEDLE",
    "KNOT;BUCKET;MOUSE TRAP;TOOTHBRUSH;HEADSTONE;PLACARD;ROCK;MIRROR BALL;IDENTIFICATION CARD",
    "LOW BATTERY;HAMSA;FOLDING HAND FAN;HAIR PICK;KHANDA;FLY;WORM;BEETLE;COCKROACH;POTTED PLANT",
    "WOOD;FEATHER;LOTUS;CORAL;EMPTY NEST;NEST WITH EGGS;HYACINTH;JELLYFISH;WING;;GOOSE",
    "ANATOMICAL HEART;LUNGS;PEOPLE HUGGING;PREGNANT MAN;9:PERSON;PERSON WITH CROWN;;;;;;;;;MOOSE",
    "DONKEY;BLUEBERRIES;BELL PEPPER;OLIVE;FLATBREAD;TAMALE;FONDUE;TEAPOT;POURING LIQUID;BEANS;JAR",
    "GINGER ROOT;PEA POD;;;;;MELTING FACE;SALUTING FACE;FACE WITH OPEN EYES AND HAND OVER MOUTH",
    "10:PEEKING EYE;10:DIAGONAL MOUTH;DOTTED LINE FACE;BITING LIP;BUBBLES;SHAKING FACE;;;;;;;",
    "HAND WITH INDEX FINGER AND THUMB CROSSED;RIGHTWARDS HAND;LEFTWARDS HAND;PALM DOWN HAND",
    "5:UP HAND;INDEX POINTING AT THE VIEWER;HEART HANDS;LEFTWARDS PUSHING HAND",
    "RIGHTWARDS PUSHING HAND;;;;;;;;BLOCK SEXTANT-1;14:2;14:12;14:3;14:13;14:23;14:123;14:4;14:14",
    "14:24;14:124;14:34;14:134;14:234;14:1234;14:5;14:15;14:25;14:125;14:35;14:235;14:1235;14:45",
    "14:145;14:245;14:1245;14:345;14:1345;14:2345;14:12345;14:6;14:16;14:26;14:126;14:36;14:136",
    "14:236;14:1236;14:46;14:146;15:246;14:346;14:1346;14:2346;14:12346;14:56;14:156;14:256",
    "14:1256;14:356;14:1356;14:2356;14:12356;14:456;14:1456;14:2456;14:12456;14:3456;14:13456",
    "14:23456;LOWER LEFT BLOCK DIAGONAL LOWER MIDDLE LEFT TO LOWER CENTRE;53:RIGHT",
    "26:UPPER MIDDLE LEFT TO LOWER CENTRE;53:RIGHT;32:LEFT TO LOWER CENTRE",
    "6:RIGHT BLOCK DIAGONAL UPPER MIDDLE LEFT TO UPPER CENTRE;54:RIGHT",
    "27:LOWER MIDDLE LEFT TO UPPER CENTRE;54:RIGHT;33:LEFT TO UPPER CENTRE",
    "33:MIDDLE LEFT TO UPPER MIDDLE RIGHT;33:CENTRE TO LOWER MIDDLE RIGHT",
    "33:LEFT TO LOWER MIDDLE RIGHT;33:CENTRE TO UPPER MIDDLE RIGHT;33:LEFT TO UPPER MIDDLE RIGHT",
    "33:CENTRE TO UPPER RIGHT;6:LEFT BLOCK DIAGONAL UPPER CENTRE TO UPPER MIDDLE RIGHT",
    "32:LEFT TO UPPER MIDDLE RIGHT;32:CENTRE TO LOWER MIDDLE RIGHT;32:LEFT TO LOWER MIDDLE RIGHT",
    "32:CENTRE TO LOWER RIGHT;32:MIDDLE LEFT TO LOWER MIDDLE RIGHT",
    "UPPER RIGHT BLOCK DIAGONAL LOWER MIDDLE LEFT TO LOWER CENTRE;54:RIGHT",
    "27:UPPER MIDDLE LEFT TO LOWER CENTRE;54:RIGHT;33:LEFT TO LOWER CENTRE",
    "6:LEFT BLOCK DIAGONAL UPPER MIDDLE LEFT TO UPPER CENTRE;53:RIGHT",
    "26:LOWER MIDDLE LEFT TO UPPER CENTRE;53:RIGHT;32:LEFT TO UPPER CENTRE",
    "32:MIDDLE LEFT TO UPPER MIDDLE RIGHT;32:CENTRE TO LOWER MIDDLE RIGHT",
    "32:LEFT TO LOWER MIDDLE RIGHT;32:CENTRE TO UPPER MIDDLE RIGHT;32:LEFT TO UPPER MIDDLE RIGHT",
    "32:CENTRE TO UPPER RIGHT;6:RIGHT BLOCK DIAGONAL UPPER CENTRE TO UPPER MIDDLE RIGHT",
    "33:LEFT TO UPPER MIDDLE RIGHT;33:CENTRE TO LOWER MIDDLE RIGHT;33:LEFT TO LOWER MIDDLE RIGHT",
    "33:CENTRE TO LOWER RIGHT;33:MIDDLE LEFT TO LOWER MIDDLE RIGHT",
    "6:AND RIGHT AND LOWER TRIANGULAR THREE QUARTERS BLOCK",
    "LEFT AND LOWER AND RIGHT TRIANGULAR THREE QUARTERS BLOCK",
    "UPPER AND LEFT AND LOWER TRIANGULAR THREE QUARTERS BLOCK",
    "LEFT AND UPPER AND RIGHT TRIANGULAR THREE QUARTERS BLOCK;5:TRIANGULAR ONE QUARTER BLOCK",
    "UPPER TRIANGULAR ONE QUARTER BLOCK;RIGHT TRIANGULAR ONE QUARTER BLOCK",
    "LOWER TRIANGULAR ONE QUARTER BLOCK;VERTICAL ONE EIGHTH BLOCK-2;26:3;26:4;26:5;26:6;26:7",
    "HORIZONTAL ONE EIGHTH BLOCK-2;28:3;28:4;28:5;28:6;28:7;LEFT AND LOWER ONE EIGHTH BLOCK",
    "9:UPPER ONE EIGHTH BLOCK;RIGHT AND UPPER ONE EIGHTH BLOCK;10:LOWER ONE EIGHTH BLOCK",
    "UPPER AND LOWER ONE EIGHTH BLOCK;HORIZONTAL ONE EIGHTH BLOCK-1358;UPPER ONE QUARTER BLOCK",
    "6:THREE EIGHTHS BLOCK;6:FIVE EIGHTHS BLOCK;6:THREE QUARTERS BLOCK;6:SEVEN EIGHTHS BLOCK",
    "RIGHT ONE QUARTER BLOCK;6:THREE EIGHTHS BLOCK;6:FIVE EIGHTHS BLOCK;6:THREE QUARTERS BLOCK",
    "6:SEVEN EIGHTHS BLOCK;LEFT HALF MEDIUM SHADE;RIGHT HALF MEDIUM SHADE;UPPER HALF MEDIUM SHADE",
    "LOWER HALF MEDIUM SHADE;INVERSE MEDIUM SHADE",
    "UPPER HALF BLOCK AND LOWER HALF INVERSE MEDIUM SHADE",
    "11:INVERSE MEDIUM SHADE AND LOWER HALF BLOCK;",
    "LEFT HALF INVERSE MEDIUM SHADE AND RIGHT HALF BLOCK;CHECKER BOARD FILL",
    "INVERSE CHECKER BOARD FILL;HEAVY HORIZONTAL FILL;UPPER LEFT TO LOWER RIGHT FILL",
    "6:RIGHT TO LOWER LEFT FILL;6:AND LOWER TRIANGULAR HALF BLOCK",
    "LEFT AND RIGHT TRIANGULAR HALF BLOCK;UPPER LEFT TRIANGULAR MEDIUM SHADE",
    "6:RIGHT TRIANGULAR MEDIUM SHADE;LOWER RIGHT TRIANGULAR MEDIUM SHADE",
    "6:LEFT TRIANGULAR MEDIUM SHADE;BOX DRAWINGS LIGHT DIAGONAL UPPER CENTRE TO MIDDLE LEFT",
    "51:RIGHT;28:MIDDLE LEFT TO LOWER CENTRE;35:RIGHT TO LOWER CENTRE",
    "28:UPPER CENTRE TO MIDDLE LEFT TO LOWER CENTRE;51:RIGHT TO LOWER CENTRE",
    "28:MIDDLE LEFT TO LOWER CENTRE TO MIDDLE RIGHT;43:UPPER CENTRE TO MIDDLE RIGHT",
    "28:UPPER CENTRE TO MIDDLE LEFT AND MIDDLE RIGHT TO LOWER CENTRE",
    "51:RIGHT AND MIDDLE LEFT TO LOWER CENTRE;57:TO LOWER CENTRE TO MIDDLE LEFT",
    "51:LEFT TO LOWER CENTRE TO MIDDLE RIGHT",
    "28:MIDDLE LEFT TO UPPER CENTRE TO MIDDLE RIGHT TO LOWER CENTRE",
    "35:RIGHT TO UPPER CENTRE TO MIDDLE LEFT TO LOWER CENTRE;28:DIAMOND",
    "19:HORIZONTAL WITH VERTICAL STROKE;ARROWHEAD-SHAPED POINTER;INVERSE CHECK MARK",
    "LEFT HALF RUNNING MAN;RIGHT HALF RUNNING MAN;INVERSE DOWNWARDS ARROW WITH TIP LEFTWARDS",
    "LEFTWARDS ARROW AND UPPER AND LOWER ONE EIGHTH BLOCK",
    "RIGHTWARDS ARROW AND UPPER AND LOWER ONE EIGHTH BLOCK",
    "DOWNWARDS ARROW AND RIGHT ONE EIGHTH BLOCK;UPWARDS ARROW AND RIGHT ONE EIGHTH BLOCK",
    "LEFT HALF FOLDER;RIGHT HALF FOLDER;VOIDED GREEK CROSS;RIGHT OPEN SQUARED DOT",
    "NEGATIVE DIAGONAL CROSS;18:MIDDLE RIGHT TO LOWER CENTRE;18:DIAMOND",
    "WHITE HEAVY SALTIRE WITH ROUNDED CORNERS;LEFT THIRD WHITE RIGHT POINTING INDEX",
    "MIDDLE THIRD WHITE RIGHT POINTING INDEX;RIGHT THIRD WHITE RIGHT POINTING INDEX",
    "NEGATIVE SQUARED QUESTION MARK;STICK FIGURE;12: WITH ARMS RAISED;13:LEANING LEFT;21:RIGHT",
    "13:WITH DRESS;WHITE UP-POINTING CHEVRON;;;;;;;;;;;;;;;;;;;;;;;;;;;;;;;;;;;;;",
    "SEGMENTED DIGIT ZERO;16:ONE;16:TWO;17:HREE;16:FOUR;17:IVE;16:SIX;17:EVEN;16:EIGHT;16:NINE"])]

end CharacterNames

end LocationDrift
