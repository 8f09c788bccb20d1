import LocationDrift.Text.Utf8
import LocationDrift.Unicode.Names.Part1
import LocationDrift.Unicode.Names.Part2
import LocationDrift.Unicode.Names.Part3
import LocationDrift.Unicode.Names.Part4
import LocationDrift.Unicode.Names.Part5
import LocationDrift.Unicode.Names.Part6

/-!
# Character names

`CharacterNames.codeOf?` finds the code point a character name stands for, as a named escape
reads it. The names are those of Unicode 15.0: the formal names of the code points and the
aliases of its name-alias list, their letters in either case; named sequences of several code
points are no names here.

**Algorithmic names.** Two families of names are computed, not listed, and their prefixes must
be written in capitals:
* `HANGUL SYLLABLE ` followed by the romanised parts of a syllable: its leading consonant, its
  vowel and its final consonant, each the longest part that fits where the one before ends, the
  leading and the final consonant possibly empty, all in capitals;
* `CJK UNIFIED IDEOGRAPH-` followed by four or five capital hexadecimal digits of a unified
  ideograph.
A name with one of these prefixes names nothing when the rest does not fit.
-/

namespace LocationDrift

namespace CharacterNames

/-- The blocks of formal names, increasing. -/
def blocks : List (Nat × List String) := part1 ++ part2 ++ part3 ++ part4 ++ part5 ++ part6

/-- The aliases, each written `name=code` with the code in hexadecimal, in lines of aliases
separated by `;`. -/
def aliasTable : List String :=
  [
    "NUL=0000;NULL=0000;SOH=0001;START OF HEADING=0001;START OF TEXT=0002;STX=0002",
    "END OF TEXT=0003;ETX=0003;END OF TRANSMISSION=0004;EOT=0004;ENQ=0005;ENQUIRY=0005;ACK=0006",
    "ACKNOWLEDGE=0006;ALERT=0007;BEL=0007;BACKSPACE=0008;BS=0008;CHARACTER TABULATION=0009",
    "HORIZONTAL TABULATION=0009;HT=0009;TAB=0009;END OF LINE=000A;EOL=000A;LF=000A",
    "LINE FEED=000A;NEW LINE=000A;NL=000A;LINE TABULATION=000B;VERTICAL TABULATION=000B;VT=000B",
    "FF=000C;FORM FEED=000C;CARRIAGE RETURN=000D;CR=000D;LOCKING-SHIFT ONE=000E;SHIFT OUT=000E",
    "SO=000E;LOCKING-SHIFT ZERO=000F;SHIFT IN=000F;SI=000F;DATA LINK ESCAPE=0010;DLE=0010",
    "DC1=0011;DEVICE CONTROL ONE=0011;DC2=0012;DEVICE CONTROL TWO=0012;DC3=0013",
    "DEVICE CONTROL THREE=0013;DC4=0014;DEVICE CONTROL FOUR=0014;NAK=0015",
    "NEGATIVE ACKNOWLEDGE=0015;SYN=0016;SYNCHRONOUS IDLE=0016;END OF TRANSMISSION BLOCK=0017",
    "ETB=0017;CAN=0018;CANCEL=0018;END OF MEDIUM=0019;EOM=0019;SUB=001A;SUBSTITUTE=001A;ESC=001B",
    "ESCAPE=001B;FILE SEPARATOR=001C;FS=001C;INFORMATION SEPARATOR FOUR=001C",
    "GROUP SEPARATOR=001D;GS=001D;INFORMATION SEPARATOR THREE=001D",
    "INFORMATION SEPARATOR TWO=001E;RECORD SEPARATOR=001E;RS=001E;INFORMATION SEPARATOR ONE=001F",
    "UNIT SEPARATOR=001F;US=001F;SP=0020;DEL=007F;DELETE=007F;PAD=0080;PADDING CHARACTER=0080",
    "HIGH OCTET PRESET=0081;HOP=0081;BPH=0082;BREAK PERMITTED HERE=0082;NBH=0083",
    "NO BREAK HERE=0083;IND=0084;INDEX=0084;NEL=0085;NEXT LINE=0085;SSA=0086",
    "START OF SELECTED AREA=0086;END OF SELECTED AREA=0087;ESA=0087",
    "CHARACTER TABULATION SET=0088;HORIZONTAL TABULATION SET=0088;HTS=0088",
    "CHARACTER TABULATION WITH JUSTIFICATION=0089;HORIZONTAL TABULATION WITH JUSTIFICATION=0089",
    "HTJ=0089;LINE TABULATION SET=008A;VERTICAL TABULATION SET=008A;VTS=008A",
    "PARTIAL LINE DOWN=008B;PARTIAL LINE FORWARD=008B;PLD=008B;PARTIAL LINE BACKWARD=008C",
    "PARTIAL LINE UP=008C;PLU=008C;REVERSE INDEX=008D;REVERSE LINE FEED=008D;RI=008D",
    "SINGLE SHIFT TWO=008E;SINGLE-SHIFT-2=008E;SS2=008E;SINGLE SHIFT THREE=008F",
    "SINGLE-SHIFT-3=008F;SS3=008F;DCS=0090;DEVICE CONTROL STRING=0090;PRIVATE USE ONE=0091",
    "PRIVATE USE-1=0091;PU1=0091;PRIVATE USE TWO=0092;PRIVATE USE-2=0092;PU2=0092",
    "SET TRANSMIT STATE=0093;STS=0093;CANCEL CHARACTER=0094;CCH=0094;MESSAGE WAITING=0095",
    "MW=0095;SPA=0096;START OF GUARDED AREA=0096;START OF PROTECTED AREA=0096",
    "END OF GUARDED AREA=0097;END OF PROTECTED AREA=0097;EPA=0097;SOS=0098;START OF STRING=0098",
    "SGC=0099;SINGLE GRAPHIC CHARACTER INTRODUCER=0099;SCI=009A;SINGLE CHARACTER INTRODUCER=009A",
    "CONTROL SEQUENCE INTRODUCER=009B;CSI=009B;ST=009C;STRING TERMINATOR=009C",
    "OPERATING SYSTEM COMMAND=009D;OSC=009D;PM=009E;PRIVACY MESSAGE=009E;APC=009F",
    "APPLICATION PROGRAM COMMAND=009F;NBSP=00A0;SHY=00AD;LATIN CAPITAL LETTER GHA=01A2",
    "LATIN SMALL LETTER GHA=01A3;CGJ=034F;ARABIC SMALL HIGH LIGATURE ALEF WITH YEH BARREE=0616",
    "ALM=061C;SYRIAC SUBLINEAR COLON SKEWED LEFT=0709;KANNADA LETTER LLLA=0CDE",
    "LAO LETTER FO FON=0E9D;LAO LETTER FO FAY=0E9F;LAO LETTER RO=0EA3;LAO LETTER LO=0EA5",
    "TIBETAN MARK BKA- SHOG GI MGO RGYAN=0FD0;HANGUL JONGSEONG YESIEUNG-KIYEOK=11EC",
    "HANGUL JONGSEONG YESIEUNG-SSANGKIYEOK=11ED;HANGUL JONGSEONG SSANGYESIEUNG=11EE",
    "HANGUL JONGSEONG YESIEUNG-KHIEUKH=11EF;FVS1=180B;FVS2=180C;FVS3=180D;MVS=180E;FVS4=180F",
    "SUNDANESE LETTER ARCHAIC I=1BBD;ZWSP=200B;ZWNJ=200C;ZWJ=200D;LRM=200E;RLM=200F;LRE=202A",
    "RLE=202B;PDF=202C;LRO=202D;RLO=202E;NNBSP=202F;MMSP=205F;WJ=2060;LRI=2066;RLI=2067;FSI=2068",
    "PDI=2069;WEIERSTRASS ELLIPTIC FUNCTION=2118;MICR ON US SYMBOL=2448;MICR DASH SYMBOL=2449",
    "LEFTWARDS TRIANGLE-HEADED ARROW WITH DOUBLE VERTICAL STROKE=2B7A",
    "RIGHTWARDS TRIANGLE-HEADED ARROW WITH DOUBLE VERTICAL STROKE=2B7C",
    "YI SYLLABLE ITERATION MARK=A015;MYANMAR LETTER KHAMTI LLA=AA6E;VS1=FE00;VS2=FE01;VS3=FE02",
    "VS4=FE03;VS5=FE04;VS6=FE05;VS7=FE06;VS8=FE07;VS9=FE08;VS10=FE09;VS11=FE0A;VS12=FE0B",
    "VS13=FE0C;VS14=FE0D;VS15=FE0E;VS16=FE0F",
    "PRESENTATION FORM FOR VERTICAL RIGHT WHITE LENTICULAR BRACKET=FE18;BOM=FEFF",
    "BYTE ORDER MARK=FEFF;ZWNBSP=FEFF;CUNEIFORM SIGN NU11 TENU=122D4",
    "CUNEIFORM SIGN NU11 OVER NU11 BUR OVER BUR=122D5;MEDEFAIDRIN CAPITAL LETTER H=16E56",
    "MEDEFAIDRIN CAPITAL LETTER NG=16E57;MEDEFAIDRIN SMALL LETTER H=16E76",
    "MEDEFAIDRIN SMALL LETTER NG=16E77;HENTAIGANA LETTER E-1=1B001",
    "BYZANTINE MUSICAL SYMBOL FTHORA SKLIRON CHROMA VASIS=1D0C5;VS17=E0100;VS18=E0101;VS19=E0102",
    "VS20=E0103;VS21=E0104;VS22=E0105;VS23=E0106;VS24=E0107;VS25=E0108;VS26=E0109;VS27=E010A",
    "VS28=E010B;VS29=E010C;VS30=E010D;VS31=E010E;VS32=E010F;VS33=E0110;VS34=E0111;VS35=E0112",
    "VS36=E0113;VS37=E0114;VS38=E0115;VS39=E0116;VS40=E0117;VS41=E0118;VS42=E0119;VS43=E011A",
    "VS44=E011B;VS45=E011C;VS46=E011D;VS47=E011E;VS48=E011F;VS49=E0120;VS50=E0121;VS51=E0122",
    "VS52=E0123;VS53=E0124;VS54=E0125;VS55=E0126;VS56=E0127;VS57=E0128;VS58=E0129;VS59=E012A",
    "VS60=E012B;VS61=E012C;VS62=E012D;VS63=E012E;VS64=E012F;VS65=E0130;VS66=E0131;VS67=E0132",
    "VS68=E0133;VS69=E0134;VS70=E0135;VS71=E0136;VS72=E0137;VS73=E0138;VS74=E0139;VS75=E013A",
    "VS76=E013B;VS77=E013C;VS78=E013D;VS79=E013E;VS80=E013F;VS81=E0140;VS82=E0141;VS83=E0142",
    "VS84=E0143;VS85=E0144;VS86=E0145;VS87=E0146;VS88=E0147;VS89=E0148;VS90=E0149;VS91=E014A",
    "VS92=E014B;VS93=E014C;VS94=E014D;VS95=E014E;VS96=E014F;VS97=E0150;VS98=E0151;VS99=E0152",
    "VS100=E0153;VS101=E0154;VS102=E0155;VS103=E0156;VS104=E0157;VS105=E0158;VS106=E0159",
    "VS107=E015A;VS108=E015B;VS109=E015C;VS110=E015D;VS111=E015E;VS112=E015F;VS113=E0160",
    "VS114=E0161;VS115=E0162;VS116=E0163;VS117=E0164;VS118=E0165;VS119=E0166;VS120=E0167",
    "VS121=E0168;VS122=E0169;VS123=E016A;VS124=E016B;VS125=E016C;VS126=E016D;VS127=E016E",
    "VS128=E016F;VS129=E0170;VS130=E0171;VS131=E0172;VS132=E0173;VS133=E0174;VS134=E0175",
    "VS135=E0176;VS136=E0177;VS137=E0178;VS138=E0179;VS139=E017A;VS140=E017B;VS141=E017C",
    "VS142=E017D;VS143=E017E;VS144=E017F;VS145=E0180;VS146=E0181;VS147=E0182;VS148=E0183",
    "VS149=E0184;VS150=E0185;VS151=E0186;VS152=E0187;VS153=E0188;VS154=E0189;VS155=E018A",
    "VS156=E018B;VS157=E018C;VS158=E018D;VS159=E018E;VS160=E018F;VS161=E0190;VS162=E0191",
    "VS163=E0192;VS164=E0193;VS165=E0194;VS166=E0195;VS167=E0196;VS168=E0197;VS169=E0198",
    "VS170=E0199;VS171=E019A;VS172=E019B;VS173=E019C;VS174=E019D;VS175=E019E;VS176=E019F",
    "VS177=E01A0;VS178=E01A1;VS179=E01A2;VS180=E01A3;VS181=E01A4;VS182=E01A5;VS183=E01A6",
    "VS184=E01A7;VS185=E01A8;VS186=E01A9;VS187=E01AA;VS188=E01AB;VS189=E01AC;VS190=E01AD",
    "VS191=E01AE;VS192=E01AF;VS193=E01B0;VS194=E01B1;VS195=E01B2;VS196=E01B3;VS197=E01B4",
    "VS198=E01B5;VS199=E01B6;VS200=E01B7;VS201=E01B8;VS202=E01B9;VS203=E01BA;VS204=E01BB",
    "VS205=E01BC;VS206=E01BD;VS207=E01BE;VS208=E01BF;VS209=E01C0;VS210=E01C1;VS211=E01C2",
    "VS212=E01C3;VS213=E01C4;VS214=E01C5;VS215=E01C6;VS216=E01C7;VS217=E01C8;VS218=E01C9",
    "VS219=E01CA;VS220=E01CB;VS221=E01CC;VS222=E01CD;VS223=E01CE;VS224=E01CF;VS225=E01D0",
    "VS226=E01D1;VS227=E01D2;VS228=E01D3;VS229=E01D4;VS230=E01D5;VS231=E01D6;VS232=E01D7",
    "VS233=E01D8;VS234=E01D9;VS235=E01DA;VS236=E01DB;VS237=E01DC;VS238=E01DD;VS239=E01DE",
    "VS240=E01DF;VS241=E01E0;VS242=E01E1;VS243=E01E2;VS244=E01E3;VS245=E01E4;VS246=E01E5",
    "VS247=E01E6;VS248=E01E7;VS249=E01E8;VS250=E01E9;VS251=E01EA;VS252=E01EB;VS253=E01EC",
    "VS254=E01ED;VS255=E01EE;VS256=E01EF"]

/-- The code point of a hexadecimal numeral in capitals. -/
def upperHexValue? (t : Text) : Option Nat :=
  t.foldlM (fun acc c =>
    if 48 ≤ c ∧ c ≤ 57 then some (acc * 16 + (c - 48))
    else if 65 ≤ c ∧ c ≤ 70 then some (acc * 16 + (c - 55))
    else none) 0

/-- The names of a block written out in full: an entry `k:rest` is the first `k` characters of
the name before it followed by `rest`, and any other entry is a name as it stands. -/
def expandNames (entries : List String) : List String :=
  (entries.foldl (fun (acc : String × List String) entry =>
    let name := match entry.splitOn ":" with
      | [k, rest] => String.ofList (acc.1.toList.take (k.toNat?.getD 0)) ++ rest
      | _ => entry
    (name, name :: acc.2)) ("", [])).2.reverse

/-- The code point a formal name gives. -/
def formalCode? (name : String) : Option Nat :=
  blocks.findSome? fun (start, lines) =>
    ((expandNames (lines.flatMap (·.splitOn ";"))).idxOf? name).map (start + ·)

/-- The code point an alias gives. -/
def aliasCode? (name : String) : Option Nat :=
  (aliasTable.flatMap (·.splitOn ";")).findSome? fun entry =>
    match entry.splitOn "=" with
    | [n, code] => if n == name then upperHexValue? (Text.ofString code) else none
    | _ => none

/-- The leading consonants of Hangul syllables, romanised. -/
def leadParts : List String :=
  ["G", "GG", "N", "D", "DD", "R", "M", "B", "BB", "S", "SS", "", "J", "JJ", "C", "K", "T", "P",
    "H"]

/-- The vowels of Hangul syllables, romanised. -/
def vowelParts : List String :=
  ["A", "AE", "YA", "YAE", "EO", "E", "YEO", "YE", "O", "WA", "WAE", "OE", "YO", "U", "WEO",
    "WE", "WI", "YU", "EU", "YI", "I"]

/-- The final consonants of Hangul syllables, romanised; the first is none. -/
def tailParts : List String :=
  ["", "G", "GG", "GS", "N", "NJ", "NH", "D", "L", "LG", "LM", "LB", "LS", "LT", "LP", "LH", "M",
    "B", "BS", "S", "SS", "NG", "J", "C", "K", "T", "P", "H"]

/-- The longest of the parts, from index `i` on, that starts the text, as its index and length;
`best` is the longest found before. -/
def longestPart (t : Text) : List String → Nat → Option (Nat × Nat) → Option (Nat × Nat)
  | [], _, best => best
  | p :: ps, i, best =>
    let pt := Text.ofString p
    let longer := match best with
      | some (_, l) => pt.length > l
      | none => true
    longestPart t ps (i + 1) (if longer && Text.startsWith t pt then some (i, pt.length) else best)

/-- The syllable the romanised parts name: each part the longest that fits, and nothing left. -/
def syllableCode? (t : Text) : Option Nat := do
  let (l, n1) ← longestPart t leadParts 0 none
  let t := t.drop n1
  let (v, n2) ← longestPart t vowelParts 0 none
  let t := t.drop n2
  let (f, n3) ← longestPart t tailParts 0 none
  if t.length = n3 then some (0xAC00 + (l * 21 + v) * 28 + f) else none

/-- The code points of the unified ideographs, as ranges. -/
def unifiedIdeographs : List (Nat × Nat) :=
  [(0x3400, 0x4DBF), (0x4E00, 0x9FFF), (0x20000, 0x2A6DF), (0x2A700, 0x2B739),
    (0x2B740, 0x2B81D), (0x2B820, 0x2CEA1), (0x2CEB0, 0x2EBE0), (0x30000, 0x3134A),
    (0x31350, 0x323AF)]

/-- The ideograph four or five capital hexadecimal digits name. -/
def ideographCode? (t : Text) : Option Nat :=
  if t.length = 4 ∨ t.length = 5 then
    (upperHexValue? t).bind fun v =>
      if unifiedIdeographs.any (fun (lo, hi) => lo ≤ v && v ≤ hi) then some v else none
  else none

/-- The code point a name stands for. -/
def codeOf? (name : Text) : Option Nat :=
  let syllable := Text.ofString "HANGUL SYLLABLE "
  let ideograph := Text.ofString "CJK UNIFIED IDEOGRAPH-"
  if Text.startsWith name syllable then syllableCode? (name.drop syllable.length)
  else if Text.startsWith name ideograph then ideographCode? (name.drop ideograph.length)
  else if name.all (· < 128) then
    let key := Text.toString (name.map Text.upperAscii)
    (formalCode? key).orElse fun _ => aliasCode? key
  else none

end CharacterNames

end LocationDrift
