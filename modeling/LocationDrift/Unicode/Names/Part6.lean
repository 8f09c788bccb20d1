/-!
# Character names, part 6

The formal names of the named code points from U+2F800 to U+E01EF, by blocks of consecutive
code points: a block gives its first code point and the names of it and of the code points after
it, in lines of names separated by `;` (the lines joined by `;` too), an empty name standing
for a code point without one. A name written `k:rest` is the first `k` characters of the name
before it followed by `rest`.
-/

namespace LocationDrift

namespace CharacterNames

/-- The names of the code points from U+2F800 to U+E01EF. -/
def part6 : List (Nat × List String) := [
  (0x2F800, [
    "CJK COMPATIBILITY IDEOGRAPH-2F800;32:1;32:2;32:3;32:4;32:5;32:6;32:7;32:8;32:9;32:A;32:B",
    "32:C;32:D;32:E;32:F;31:10;32:1;32:2;32:3;32:4;32:5;32:6;32:7;32:8;32:9;32:A;32:B;32:C;32:D",
    "32:E;32:F;31:20;32:1;32:2;32:3;32:4;32:5;32:6;32:7;32:8;32:9;32:A;32:B;32:C;32:D;32:E;32:F",
    "31:30;32:1;32:2;32:3;32:4;32:5;32:6;32:7;32:8;32:9;32:A;32:B;32:C;32:D;32:E;32:F;31:40;32:1",
    "32:2;32:3;32:4;32:5;32:6;32:7;32:8;32:9;32:A;32:B;32:C;32:D;32:E;32:F;31:50;32:1;32:2;32:3",
    "32:4;32:5;32:6;32:7;32:8;32:9;32:A;32:B;32:C;32:D;32:E;32:F;31:60;32:1;32:2;32:3;32:4;32:5",
    "32:6;32:7;32:8;32:9;32:A;32:B;32:C;32:D;32:E;32:F;31:70;32:1;32:2;32:3;32:4;32:5;32:6;32:7",
    "32:8;32:9;32:A;32:B;32:C;32:D;32:E;32:F;31:80;32:1;32:2;32:3;32:4;32:5;32:6;32:7;32:8;32:9",
    "32:A;32:B;32:C;32:D;32:E;32:F;31:90;32:1;32:2;32:3;32:4;32:5;32:6;32:7;32:8;32:9;32:A;32:B",
    "32:C;32:D;32:E;32:F;31:A0;32:1;32:2;32:3;32:4;32:5;32:6;32:7;32:8;32:9;32:A;32:B;32:C;32:D",
    "32:E;32:F;31:B0;32:1;32:2;32:3;32:4;32:5;32:6;32:7;32:8;32:9;32:A;32:B;32:C;32:D;32:E;32:F",
    "31:C0;32:1;32:2;32:3;32:4;32:5;32:6;32:7;32:8;32:9;32:A;32:B;32:C;32:D;32:E;32:F;31:D0;32:1",
    "32:2;32:3;32:4;32:5;32:6;32:7;32:8;32:9;32:A;32:B;32:C;32:D;32:E;32:F;31:E0;32:1;32:2;32:3",
    "32:4;32:5;32:6;32:7;32:8;32:9;32:A;32:B;32:C;32:D;32:E;32:F;31:F0;32:1;32:2;32:3;32:4;32:5",
    "32:6;32:7;32:8;32:9;32:A;32:B;32:C;32:D;32:E;32:F;30:900;32:1;32:2;32:3;32:4;32:5;32:6;32:7",
    "32:8;32:9;32:A;32:B;32:C;32:D;32:E;32:F;31:10;32:1;32:2;32:3;32:4;32:5;32:6;32:7;32:8;32:9",
    "32:A;32:B;32:C;32:D;32:E;32:F;31:20;32:1;32:2;32:3;32:4;32:5;32:6;32:7;32:8;32:9;32:A;32:B",
    "32:C;32:D;32:E;32:F;31:30;32:1;32:2;32:3;32:4;32:5;32:6;32:7;32:8;32:9;32:A;32:B;32:C;32:D",
    "32:E;32:F;31:40;32:1;32:2;32:3;32:4;32:5;32:6;32:7;32:8;32:9;32:A;32:B;32:C;32:D;32:E;32:F",
    "31:50;32:1;32:2;32:3;32:4;32:5;32:6;32:7;32:8;32:9;32:A;32:B;32:C;32:D;32:E;32:F;31:60;32:1",
    "32:2;32:3;32:4;32:5;32:6;32:7;32:8;32:9;32:A;32:B;32:C;32:D;32:E;32:F;31:70;32:1;32:2;32:3",
    "32:4;32:5;32:6;32:7;32:8;32:9;32:A;32:B;32:C;32:D;32:E;32:F;31:80;32:1;32:2;32:3;32:4;32:5",
    "32:6;32:7;32:8;32:9;32:A;32:B;32:C;32:D;32:E;32:F;31:90;32:1;32:2;32:3;32:4;32:5;32:6;32:7",
    "32:8;32:9;32:A;32:B;32:C;32:D;32:E;32:F;31:A0;32:1;32:2;32:3;32:4;32:5;32:6;32:7;32:8;32:9",
    "32:A;32:B;32:C;32:D;32:E;32:F;31:B0;32:1;32:2;32:3;32:4;32:5;32:6;32:7;32:8;32:9;32:A;32:B",
    "32:C;32:D;32:E;32:F;31:C0;32:1;32:2;32:3;32:4;32:5;32:6;32:7;32:8;32:9;32:A;32:B;32:C;32:D",
    "32:E;32:F;31:D0;32:1;32:2;32:3;32:4;32:5;32:6;32:7;32:8;32:9;32:A;32:B;32:C;32:D;32:E;32:F",
    "31:E0;32:1;32:2;32:3;32:4;32:5;32:6;32:7;32:8;32:9;32:A;32:B;32:C;32:D;32:E;32:F;31:F0;32:1",
    "32:2;32:3;32:4;32:5;32:6;32:7;32:8;32:9;32:A;32:B;32:C;32:D;32:E;32:F;30:A00;32:1;32:2;32:3",
    "32:4;32:5;32:6;32:7;32:8;32:9;32:A;32:B;32:C;32:D;32:E;32:F;31:10;32:1;32:2;32:3;32:4;32:5",
    "32:6;32:7;32:8;32:9;32:A;32:B;32:C;32:D"]),
  (0xE0001, [
    "LANGUAGE TAG;;;;;;;;;;;;;;;;;;;;;;;;;;;;;;;TAG SPACE;4:EXCLAMATION MARK;4:QUOTATION MARK",
    "4:NUMBER SIGN;4:DOLLAR SIGN;4:PERCENT SIGN;4:AMPERSAND;5:POSTROPHE;4:LEFT PARENTHESIS",
    "4:RIGHT PARENTHESIS;4:ASTERISK;4:PLUS SIGN;4:COMMA;4:HYPHEN-MINUS;4:FULL STOP;4:SOLIDUS",
    "4:DIGIT ZERO;10:ONE;10:TWO;11:HREE;10:FOUR;11:IVE;10:SIX;11:EVEN;10:EIGHT;10:NINE;4:COLON",
    "4:SEMICOLON;4:LESS-THAN SIGN;4:EQUALS SIGN;4:GREATER-THAN SIGN;4:QUESTION MARK",
    "4:COMMERCIAL AT;4:LATIN CAPITAL LETTER A;25:B;25:C;25:D;25:E;25:F;25:G;25:H;25:I;25:J;25:K",
    "25:L;25:M;25:N;25:O;25:P;25:Q;25:R;25:S;25:T;25:U;25:V;25:W;25:X;25:Y;25:Z",
    "5:EFT SQUARE BRACKET;4:REVERSE SOLIDUS;5:IGHT SQUARE BRACKET;4:CIRCUMFLEX ACCENT;4:LOW LINE",
    "4:GRAVE ACCENT;4:LATIN SMALL LETTER A;23:B;23:C;23:D;23:E;23:F;23:G;23:H;23:I;23:J;23:K;23:L",
    "23:M;23:N;23:O;23:P;23:Q;23:R;23:S;23:T;23:U;23:V;23:W;23:X;23:Y;23:Z;5:EFT CURLY BRACKET",
    "4:VERTICAL LINE;4:RIGHT CURLY BRACKET;4:TILDE;CANCEL TAG"]),
  (0xE0100, [
    "VARIATION SELECTOR-17;20:8;20:9;19:20;20:1;20:2;20:3;20:4;20:5;20:6;20:7;20:8;20:9;19:30",
    "20:1;20:2;20:3;20:4;20:5;20:6;20:7;20:8;20:9;19:40;20:1;20:2;20:3;20:4;20:5;20:6;20:7;20:8",
    "20:9;19:50;20:1;20:2;20:3;20:4;20:5;20:6;20:7;20:8;20:9;19:60;20:1;20:2;20:3;20:4;20:5;20:6",
    "20:7;20:8;20:9;19:70;20:1;20:2;20:3;20:4;20:5;20:6;20:7;20:8;20:9;19:80;20:1;20:2;20:3;20:4",
    "20:5;20:6;20:7;20:8;20:9;19:90;20:1;20:2;20:3;20:4;20:5;20:6;20:7;20:8;20:9;19:100;21:1;21:2",
    "21:3;21:4;21:5;21:6;21:7;21:8;21:9;20:10;21:1;21:2;21:3;21:4;21:5;21:6;21:7;21:8;21:9;20:20",
    "21:1;21:2;21:3;21:4;21:5;21:6;21:7;21:8;21:9;20:30;21:1;21:2;21:3;21:4;21:5;21:6;21:7;21:8",
    "21:9;20:40;21:1;21:2;21:3;21:4;21:5;21:6;21:7;21:8;21:9;20:50;21:1;21:2;21:3;21:4;21:5;21:6",
    "21:7;21:8;21:9;20:60;21:1;21:2;21:3;21:4;21:5;21:6;21:7;21:8;21:9;20:70;21:1;21:2;21:3;21:4",
    "21:5;21:6;21:7;21:8;21:9;20:80;21:1;21:2;21:3;21:4;21:5;21:6;21:7;21:8;21:9;20:90;21:1;21:2",
    "21:3;21:4;21:5;21:6;21:7;21:8;21:9;19:200;21:1;21:2;21:3;21:4;21:5;21:6;21:7;21:8;21:9;20:10",
    "21:1;21:2;21:3;21:4;21:5;21:6;21:7;21:8;21:9;20:20;21:1;21:2;21:3;21:4;21:5;21:6;21:7;21:8",
    "21:9;20:30;21:1;21:2;21:3;21:4;21:5;21:6;21:7;21:8;21:9;20:40;21:1;21:2;21:3;21:4;21:5;21:6",
    "21:7;21:8;21:9;20:50;21:1;21:2;21:3;21:4;21:5;21:6"])]

end CharacterNames

end LocationDrift
