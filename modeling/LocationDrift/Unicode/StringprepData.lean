/-!
# Stringprep data

The tables of RFC 3454 that name preparation uses, as code points in hexadecimal, single or as
ranges `a-b`, entries separated by `;` within a line.

* `mappedToNothing`: table B.1, the code points name preparation drops.
* `caseFoldLines`: `c>d₁ d₂ …`, what table B.2 maps a code point to: its lower case, with the
  foldings that keep it stable under compatibility normalization, for 2055 code points.
* `prohibitedRanges`: tables C.1.2, C.2.2 and C.3 to C.9, the code points a prepared name may not
  hold.
* `rightToLeftRanges`: table D.1, the characters of bidirectional class R or AL.
* `leftToRightLines`: table D.2, the characters of bidirectional class L.
-/

namespace LocationDrift

namespace Stringprep

/-- Table B.1. -/
def mappedToNothing : List Nat :=
  [0x00AD, 0x034F, 0x1806, 0x180B, 0x180C, 0x180D, 0x200B, 0x200C, 0x200D, 0x2060, 0xFE00,
    0xFE01, 0xFE02, 0xFE03, 0xFE04, 0xFE05, 0xFE06, 0xFE07, 0xFE08, 0xFE09, 0xFE0A, 0xFE0B,
    0xFE0C, 0xFE0D, 0xFE0E, 0xFE0F, 0xFEFF]

/-- Table B.2. -/
def caseFoldLines : List String :=
  [
    "0041>0061;0042>0062;0043>0063;0044>0064;0045>0065;0046>0066;0047>0067;0048>0068;0049>0069",
    "004A>006A;004B>006B;004C>006C;004D>006D;004E>006E;004F>006F;0050>0070;0051>0071;0052>0072",
    "0053>0073;0054>0074;0055>0075;0056>0076;0057>0077;0058>0078;0059>0079;005A>007A;00B5>03BC",
    "00C0>00E0;00C1>00E1;00C2>00E2;00C3>00E3;00C4>00E4;00C5>00E5;00C6>00E6;00C7>00E7;00C8>00E8",
    "00C9>00E9;00CA>00EA;00CB>00EB;00CC>00EC;00CD>00ED;00CE>00EE;00CF>00EF;00D0>00F0;00D1>00F1",
    "00D2>00F2;00D3>00F3;00D4>00F4;00D5>00F5;00D6>00F6;00D8>00F8;00D9>00F9;00DA>00FA;00DB>00FB",
    "00DC>00FC;00DD>00FD;00DE>00FE;00DF>0073 0073;0100>0101;0102>0103;0104>0105;0106>0107",
    "0108>0109;010A>010B;010C>010D;010E>010F;0110>0111;0112>0113;0114>0115;0116>0117;0118>0119",
    "011A>011B;011C>011D;011E>011F;0120>0121;0122>0123;0124>0125;0126>0127;0128>0129;012A>012B",
    "012C>012D;012E>012F;0130>0069 0307;0132>0133;0134>0135;0136>0137;0139>013A;013B>013C",
    "013D>013E;013F>0140;0141>0142;0143>0144;0145>0146;0147>0148;0149>02BC 006E;014A>014B",
    "014C>014D;014E>014F;0150>0151;0152>0153;0154>0155;0156>0157;0158>0159;015A>015B;015C>015D",
    "015E>015F;0160>0161;0162>0163;0164>0165;0166>0167;0168>0169;016A>016B;016C>016D;016E>016F",
    "0170>0171;0172>0173;0174>0175;0176>0177;0178>00FF;0179>017A;017B>017C;017D>017E;017F>0073",
    "0181>0253;0182>0183;0184>0185;0186>0254;0187>0188;0189>0256;018A>0257;018B>018C;018E>01DD",
    "018F>0259;0190>025B;0191>0192;0193>0260;0194>0263;0196>0269;0197>0268;0198>0199;019C>026F",
    "019D>0272;019F>0275;01A0>01A1;01A2>01A3;01A4>01A5;01A6>0280;01A7>01A8;01A9>0283;01AC>01AD",
    "01AE>0288;01AF>01B0;01B1>028A;01B2>028B;01B3>01B4;01B5>01B6;01B7>0292;01B8>01B9;01BC>01BD",
    "01C4>01C6;01C5>01C6;01C7>01C9;01C8>01C9;01CA>01CC;01CB>01CC;01CD>01CE;01CF>01D0;01D1>01D2",
    "01D3>01D4;01D5>01D6;01D7>01D8;01D9>01DA;01DB>01DC;01DE>01DF;01E0>01E1;01E2>01E3;01E4>01E5",
    "01E6>01E7;01E8>01E9;01EA>01EB;01EC>01ED;01EE>01EF;01F0>006A 030C;01F1>01F3;01F2>01F3",
    "01F4>01F5;01F6>0195;01F7>01BF;01F8>01F9;01FA>01FB;01FC>01FD;01FE>01FF;0200>0201;0202>0203",
    "0204>0205;0206>0207;0208>0209;020A>020B;020C>020D;020E>020F;0210>0211;0212>0213;0214>0215",
    "0216>0217;0218>0219;021A>021B;021C>021D;021E>021F;0220>019E;0222>0223;0224>0225;0226>0227",
    "0228>0229;022A>022B;022C>022D;022E>022F;0230>0231;0232>0233;023A>2C65;023B>023C;023D>019A",
    "023E>2C66;0241>0242;0243>0180;0244>0289;0245>028C;0246>0247;0248>0249;024A>024B;024C>024D",
    "024E>024F;0345>03B9;0370>0371;0372>0373;0376>0377;037A>0020 03B9;037F>03F3;0386>03AC",
    "0388>03AD;0389>03AE;038A>03AF;038C>03CC;038E>03CD;038F>03CE;0390>03B9 0308 0301;0391>03B1",
    "0392>03B2;0393>03B3;0394>03B4;0395>03B5;0396>03B6;0397>03B7;0398>03B8;0399>03B9;039A>03BA",
    "039B>03BB;039C>03BC;039D>03BD;039E>03BE;039F>03BF;03A0>03C0;03A1>03C1;03A3>03C3;03A4>03C4",
    "03A5>03C5;03A6>03C6;03A7>03C7;03A8>03C8;03A9>03C9;03AA>03CA;03AB>03CB;03B0>03C5 0308 0301",
    "03C2>03C3;03CF>03D7;03D0>03B2;03D1>03B8;03D2>03C5;03D3>03CD;03D4>03CB;03D5>03C6;03D6>03C0",
    "03D8>03D9;03DA>03DB;03DC>03DD;03DE>03DF;03E0>03E1;03E2>03E3;03E4>03E5;03E6>03E7;03E8>03E9",
    "03EA>03EB;03EC>03ED;03EE>03EF;03F0>03BA;03F1>03C1;03F2>03C3;03F4>03B8;03F5>03B5;03F7>03F8",
    "03F9>03C3;03FA>03FB;03FD>037B;03FE>037C;03FF>037D;0400>0450;0401>0451;0402>0452;0403>0453",
    "0404>0454;0405>0455;0406>0456;0407>0457;0408>0458;0409>0459;040A>045A;040B>045B;040C>045C",
    "040D>045D;040E>045E;040F>045F;0410>0430;0411>0431;0412>0432;0413>0433;0414>0434;0415>0435",
    "0416>0436;0417>0437;0418>0438;0419>0439;041A>043A;041B>043B;041C>043C;041D>043D;041E>043E",
    "041F>043F;0420>0440;0421>0441;0422>0442;0423>0443;0424>0444;0425>0445;0426>0446;0427>0447",
    "0428>0448;0429>0449;042A>044A;042B>044B;042C>044C;042D>044D;042E>044E;042F>044F;0460>0461",
    "0462>0463;0464>0465;0466>0467;0468>0469;046A>046B;046C>046D;046E>046F;0470>0471;0472>0473",
    "0474>0475;0476>0477;0478>0479;047A>047B;047C>047D;047E>047F;0480>0481;048A>048B;048C>048D",
    "048E>048F;0490>0491;0492>0493;0494>0495;0496>0497;0498>0499;049A>049B;049C>049D;049E>049F",
    "04A0>04A1;04A2>04A3;04A4>04A5;04A6>04A7;04A8>04A9;04AA>04AB;04AC>04AD;04AE>04AF;04B0>04B1",
    "04B2>04B3;04B4>04B5;04B6>04B7;04B8>04B9;04BA>04BB;04BC>04BD;04BE>04BF;04C0>04CF;04C1>04C2",
    "04C3>04C4;04C5>04C6;04C7>04C8;04C9>04CA;04CB>04CC;04CD>04CE;04D0>04D1;04D2>04D3;04D4>04D5",
    "04D6>04D7;04D8>04D9;04DA>04DB;04DC>04DD;04DE>04DF;04E0>04E1;04E2>04E3;04E4>04E5;04E6>04E7",
    "04E8>04E9;04EA>04EB;04EC>04ED;04EE>04EF;04F0>04F1;04F2>04F3;04F4>04F5;04F6>04F7;04F8>04F9",
    "04FA>04FB;04FC>04FD;04FE>04FF;0500>0501;0502>0503;0504>0505;0506>0507;0508>0509;050A>050B",
    "050C>050D;050E>050F;0510>0511;0512>0513;0514>0515;0516>0517;0518>0519;051A>051B;051C>051D",
    "051E>051F;0520>0521;0522>0523;0524>0525;0526>0527;0528>0529;052A>052B;052C>052D;052E>052F",
    "0531>0561;0532>0562;0533>0563;0534>0564;0535>0565;0536>0566;0537>0567;0538>0568;0539>0569",
    "053A>056A;053B>056B;053C>056C;053D>056D;053E>056E;053F>056F;0540>0570;0541>0571;0542>0572",
    "0543>0573;0544>0574;0545>0575;0546>0576;0547>0577;0548>0578;0549>0579;054A>057A;054B>057B",
    "054C>057C;054D>057D;054E>057E;054F>057F;0550>0580;0551>0581;0552>0582;0553>0583;0554>0584",
    "0555>0585;0556>0586;0587>0565 0582;10A0>2D00;10A1>2D01;10A2>2D02;10A3>2D03;10A4>2D04",
    "10A5>2D05;10A6>2D06;10A7>2D07;10A8>2D08;10A9>2D09;10AA>2D0A;10AB>2D0B;10AC>2D0C;10AD>2D0D",
    "10AE>2D0E;10AF>2D0F;10B0>2D10;10B1>2D11;10B2>2D12;10B3>2D13;10B4>2D14;10B5>2D15;10B6>2D16",
    "10B7>2D17;10B8>2D18;10B9>2D19;10BA>2D1A;10BB>2D1B;10BC>2D1C;10BD>2D1D;10BE>2D1E;10BF>2D1F",
    "10C0>2D20;10C1>2D21;10C2>2D22;10C3>2D23;10C4>2D24;10C5>2D25;10C7>2D27;10CD>2D2D;13A0>AB70",
    "13A1>AB71;13A2>AB72;13A3>AB73;13A4>AB74;13A5>AB75;13A6>AB76;13A7>AB77;13A8>AB78;13A9>AB79",
    "13AA>AB7A;13AB>AB7B;13AC>AB7C;13AD>AB7D;13AE>AB7E;13AF>AB7F;13B0>AB80;13B1>AB81;13B2>AB82",
    "13B3>AB83;13B4>AB84;13B5>AB85;13B6>AB86;13B7>AB87;13B8>AB88;13B9>AB89;13BA>AB8A;13BB>AB8B",
    "13BC>AB8C;13BD>AB8D;13BE>AB8E;13BF>AB8F;13C0>AB90;13C1>AB91;13C2>AB92;13C3>AB93;13C4>AB94",
    "13C5>AB95;13C6>AB96;13C7>AB97;13C8>AB98;13C9>AB99;13CA>AB9A;13CB>AB9B;13CC>AB9C;13CD>AB9D",
    "13CE>AB9E;13CF>AB9F;13D0>ABA0;13D1>ABA1;13D2>ABA2;13D3>ABA3;13D4>ABA4;13D5>ABA5;13D6>ABA6",
    "13D7>ABA7;13D8>ABA8;13D9>ABA9;13DA>ABAA;13DB>ABAB;13DC>ABAC;13DD>ABAD;13DE>ABAE;13DF>ABAF",
    "13E0>ABB0;13E1>ABB1;13E2>ABB2;13E3>ABB3;13E4>ABB4;13E5>ABB5;13E6>ABB6;13E7>ABB7;13E8>ABB8",
    "13E9>ABB9;13EA>ABBA;13EB>ABBB;13EC>ABBC;13ED>ABBD;13EE>ABBE;13EF>ABBF;13F0>13F8;13F1>13F9",
    "13F2>13FA;13F3>13FB;13F4>13FC;13F5>13FD;1C90>10D0;1C91>10D1;1C92>10D2;1C93>10D3;1C94>10D4",
    "1C95>10D5;1C96>10D6;1C97>10D7;1C98>10D8;1C99>10D9;1C9A>10DA;1C9B>10DB;1C9C>10DC;1C9D>10DD",
    "1C9E>10DE;1C9F>10DF;1CA0>10E0;1CA1>10E1;1CA2>10E2;1CA3>10E3;1CA4>10E4;1CA5>10E5;1CA6>10E6",
    "1CA7>10E7;1CA8>10E8;1CA9>10E9;1CAA>10EA;1CAB>10EB;1CAC>10EC;1CAD>10ED;1CAE>10EE;1CAF>10EF",
    "1CB0>10F0;1CB1>10F1;1CB2>10F2;1CB3>10F3;1CB4>10F4;1CB5>10F5;1CB6>10F6;1CB7>10F7;1CB8>10F8",
    "1CB9>10F9;1CBA>10FA;1CBD>10FD;1CBE>10FE;1CBF>10FF;1E00>1E01;1E02>1E03;1E04>1E05;1E06>1E07",
    "1E08>1E09;1E0A>1E0B;1E0C>1E0D;1E0E>1E0F;1E10>1E11;1E12>1E13;1E14>1E15;1E16>1E17;1E18>1E19",
    "1E1A>1E1B;1E1C>1E1D;1E1E>1E1F;1E20>1E21;1E22>1E23;1E24>1E25;1E26>1E27;1E28>1E29;1E2A>1E2B",
    "1E2C>1E2D;1E2E>1E2F;1E30>1E31;1E32>1E33;1E34>1E35;1E36>1E37;1E38>1E39;1E3A>1E3B;1E3C>1E3D",
    "1E3E>1E3F;1E40>1E41;1E42>1E43;1E44>1E45;1E46>1E47;1E48>1E49;1E4A>1E4B;1E4C>1E4D;1E4E>1E4F",
    "1E50>1E51;1E52>1E53;1E54>1E55;1E56>1E57;1E58>1E59;1E5A>1E5B;1E5C>1E5D;1E5E>1E5F;1E60>1E61",
    "1E62>1E63;1E64>1E65;1E66>1E67;1E68>1E69;1E6A>1E6B;1E6C>1E6D;1E6E>1E6F;1E70>1E71;1E72>1E73",
    "1E74>1E75;1E76>1E77;1E78>1E79;1E7A>1E7B;1E7C>1E7D;1E7E>1E7F;1E80>1E81;1E82>1E83;1E84>1E85",
    "1E86>1E87;1E88>1E89;1E8A>1E8B;1E8C>1E8D;1E8E>1E8F;1E90>1E91;1E92>1E93;1E94>1E95",
    "1E96>0068 0331;1E97>0074 0308;1E98>0077 030A;1E99>0079 030A;1E9A>0061 02BE;1E9B>1E61",
    "1E9E>0073 0073;1EA0>1EA1;1EA2>1EA3;1EA4>1EA5;1EA6>1EA7;1EA8>1EA9;1EAA>1EAB;1EAC>1EAD",
    "1EAE>1EAF;1EB0>1EB1;1EB2>1EB3;1EB4>1EB5;1EB6>1EB7;1EB8>1EB9;1EBA>1EBB;1EBC>1EBD;1EBE>1EBF",
    "1EC0>1EC1;1EC2>1EC3;1EC4>1EC5;1EC6>1EC7;1EC8>1EC9;1ECA>1ECB;1ECC>1ECD;1ECE>1ECF;1ED0>1ED1",
    "1ED2>1ED3;1ED4>1ED5;1ED6>1ED7;1ED8>1ED9;1EDA>1EDB;1EDC>1EDD;1EDE>1EDF;1EE0>1EE1;1EE2>1EE3",
    "1EE4>1EE5;1EE6>1EE7;1EE8>1EE9;1EEA>1EEB;1EEC>1EED;1EEE>1EEF;1EF0>1EF1;1EF2>1EF3;1EF4>1EF5",
    "1EF6>1EF7;1EF8>1EF9;1EFA>1EFB;1EFC>1EFD;1EFE>1EFF;1F08>1F00;1F09>1F01;1F0A>1F02;1F0B>1F03",
    "1F0C>1F04;1F0D>1F05;1F0E>1F06;1F0F>1F07;1F18>1F10;1F19>1F11;1F1A>1F12;1F1B>1F13;1F1C>1F14",
    "1F1D>1F15;1F28>1F20;1F29>1F21;1F2A>1F22;1F2B>1F23;1F2C>1F24;1F2D>1F25;1F2E>1F26;1F2F>1F27",
    "1F38>1F30;1F39>1F31;1F3A>1F32;1F3B>1F33;1F3C>1F34;1F3D>1F35;1F3E>1F36;1F3F>1F37;1F48>1F40",
    "1F49>1F41;1F4A>1F42;1F4B>1F43;1F4C>1F44;1F4D>1F45;1F50>03C5 0313;1F52>03C5 0313 0300",
    "1F54>03C5 0313 0301;1F56>03C5 0313 0342;1F59>1F51;1F5B>1F53;1F5D>1F55;1F5F>1F57;1F68>1F60",
    "1F69>1F61;1F6A>1F62;1F6B>1F63;1F6C>1F64;1F6D>1F65;1F6E>1F66;1F6F>1F67;1F80>1F00 03B9",
    "1F81>1F01 03B9;1F82>1F02 03B9;1F83>1F03 03B9;1F84>1F04 03B9;1F85>1F05 03B9;1F86>1F06 03B9",
    "1F87>1F07 03B9;1F88>1F00 03B9;1F89>1F01 03B9;1F8A>1F02 03B9;1F8B>1F03 03B9;1F8C>1F04 03B9",
    "1F8D>1F05 03B9;1F8E>1F06 03B9;1F8F>1F07 03B9;1F90>1F20 03B9;1F91>1F21 03B9;1F92>1F22 03B9",
    "1F93>1F23 03B9;1F94>1F24 03B9;1F95>1F25 03B9;1F96>1F26 03B9;1F97>1F27 03B9;1F98>1F20 03B9",
    "1F99>1F21 03B9;1F9A>1F22 03B9;1F9B>1F23 03B9;1F9C>1F24 03B9;1F9D>1F25 03B9;1F9E>1F26 03B9",
    "1F9F>1F27 03B9;1FA0>1F60 03B9;1FA1>1F61 03B9;1FA2>1F62 03B9;1FA3>1F63 03B9;1FA4>1F64 03B9",
    "1FA5>1F65 03B9;1FA6>1F66 03B9;1FA7>1F67 03B9;1FA8>1F60 03B9;1FA9>1F61 03B9;1FAA>1F62 03B9",
    "1FAB>1F63 03B9;1FAC>1F64 03B9;1FAD>1F65 03B9;1FAE>1F66 03B9;1FAF>1F67 03B9;1FB2>1F70 03B9",
    "1FB3>03B1 03B9;1FB4>03AC 03B9;1FB6>03B1 0342;1FB7>03B1 0342 03B9;1FB8>1FB0;1FB9>1FB1",
    "1FBA>1F70;1FBB>1F71;1FBC>03B1 03B9;1FBE>03B9;1FC2>1F74 03B9;1FC3>03B7 03B9;1FC4>03AE 03B9",
    "1FC6>03B7 0342;1FC7>03B7 0342 03B9;1FC8>1F72;1FC9>1F73;1FCA>1F74;1FCB>1F75;1FCC>03B7 03B9",
    "1FD2>03B9 0308 0300;1FD3>03B9 0308 0301;1FD6>03B9 0342;1FD7>03B9 0308 0342;1FD8>1FD0",
    "1FD9>1FD1;1FDA>1F76;1FDB>1F77;1FE2>03C5 0308 0300;1FE3>03C5 0308 0301;1FE4>03C1 0313",
    "1FE6>03C5 0342;1FE7>03C5 0308 0342;1FE8>1FE0;1FE9>1FE1;1FEA>1F7A;1FEB>1F7B;1FEC>1FE5",
    "1FF2>1F7C 03B9;1FF3>03C9 03B9;1FF4>03CE 03B9;1FF6>03C9 0342;1FF7>03C9 0342 03B9;1FF8>1F78",
    "1FF9>1F79;1FFA>1F7C;1FFB>1F7D;1FFC>03C9 03B9;20A8>0072 0073;2102>0063;2103>00B0 0063",
    "2107>025B;2109>00B0 0066;210B>0068;210C>0068;210D>0068;2110>0069;2111>0069;2112>006C",
    "2115>006E;2116>006E 006F;2119>0070;211A>0071;211B>0072;211C>0072;211D>0072;2120>0073 006D",
    "2121>0074 0065 006C;2122>0074 006D;2124>007A;2126>03C9;2128>007A;212A>006B;212B>00E5",
    "212C>0062;212D>0063;2130>0065;2131>0066;2132>214E;2133>006D;213E>03B3;213F>03C0;2145>0064",
    "2160>2170;2161>2171;2162>2172;2163>2173;2164>2174;2165>2175;2166>2176;2167>2177;2168>2178",
    "2169>2179;216A>217A;216B>217B;216C>217C;216D>217D;216E>217E;216F>217F;2183>2184;24B6>24D0",
    "24B7>24D1;24B8>24D2;24B9>24D3;24BA>24D4;24BB>24D5;24BC>24D6;24BD>24D7;24BE>24D8;24BF>24D9",
    "24C0>24DA;24C1>24DB;24C2>24DC;24C3>24DD;24C4>24DE;24C5>24DF;24C6>24E0;24C7>24E1;24C8>24E2",
    "24C9>24E3;24CA>24E4;24CB>24E5;24CC>24E6;24CD>24E7;24CE>24E8;24CF>24E9;2C00>2C30;2C01>2C31",
    "2C02>2C32;2C03>2C33;2C04>2C34;2C05>2C35;2C06>2C36;2C07>2C37;2C08>2C38;2C09>2C39;2C0A>2C3A",
    "2C0B>2C3B;2C0C>2C3C;2C0D>2C3D;2C0E>2C3E;2C0F>2C3F;2C10>2C40;2C11>2C41;2C12>2C42;2C13>2C43",
    "2C14>2C44;2C15>2C45;2C16>2C46;2C17>2C47;2C18>2C48;2C19>2C49;2C1A>2C4A;2C1B>2C4B;2C1C>2C4C",
    "2C1D>2C4D;2C1E>2C4E;2C1F>2C4F;2C20>2C50;2C21>2C51;2C22>2C52;2C23>2C53;2C24>2C54;2C25>2C55",
    "2C26>2C56;2C27>2C57;2C28>2C58;2C29>2C59;2C2A>2C5A;2C2B>2C5B;2C2C>2C5C;2C2D>2C5D;2C2E>2C5E",
    "2C2F>2C5F;2C60>2C61;2C62>026B;2C63>1D7D;2C64>027D;2C67>2C68;2C69>2C6A;2C6B>2C6C;2C6D>0251",
    "2C6E>0271;2C6F>0250;2C70>0252;2C72>2C73;2C75>2C76;2C7E>023F;2C7F>0240;2C80>2C81;2C82>2C83",
    "2C84>2C85;2C86>2C87;2C88>2C89;2C8A>2C8B;2C8C>2C8D;2C8E>2C8F;2C90>2C91;2C92>2C93;2C94>2C95",
    "2C96>2C97;2C98>2C99;2C9A>2C9B;2C9C>2C9D;2C9E>2C9F;2CA0>2CA1;2CA2>2CA3;2CA4>2CA5;2CA6>2CA7",
    "2CA8>2CA9;2CAA>2CAB;2CAC>2CAD;2CAE>2CAF;2CB0>2CB1;2CB2>2CB3;2CB4>2CB5;2CB6>2CB7;2CB8>2CB9",
    "2CBA>2CBB;2CBC>2CBD;2CBE>2CBF;2CC0>2CC1;2CC2>2CC3;2CC4>2CC5;2CC6>2CC7;2CC8>2CC9;2CCA>2CCB",
    "2CCC>2CCD;2CCE>2CCF;2CD0>2CD1;2CD2>2CD3;2CD4>2CD5;2CD6>2CD7;2CD8>2CD9;2CDA>2CDB;2CDC>2CDD",
    "2CDE>2CDF;2CE0>2CE1;2CE2>2CE3;2CEB>2CEC;2CED>2CEE;2CF2>2CF3;3371>0068 0070 0061",
    "3373>0061 0075;3375>006F 0076;3380>0070 0061;3381>006E 0061;3382>03BC 0061;3383>006D 0061",
    "3384>006B 0061;3385>006B 0062;3386>006D 0062;3387>0067 0062;338A>0070 0066;338B>006E 0066",
    "338C>03BC 0066;3390>0068 007A;3391>006B 0068 007A;3392>006D 0068 007A;3393>0067 0068 007A",
    "3394>0074 0068 007A;33A9>0070 0061;33AA>006B 0070 0061;33AB>006D 0070 0061",
    "33AC>0067 0070 0061;33B4>0070 0076;33B5>006E 0076;33B6>03BC 0076;33B7>006D 0076",
    "33B8>006B 0076;33B9>006D 0076;33BA>0070 0077;33BB>006E 0077;33BC>03BC 0077;33BD>006D 0077",
    "33BE>006B 0077;33BF>006D 0077;33C0>006B 03C9;33C1>006D 03C9;33C3>0062 0071",
    "33C6>0063 2215 006B 0067;33C7>0063 006F 002E;33C8>0064 0062;33C9>0067 0079;33CB>0068 0070",
    "33CD>006B 006B;33CE>006B 006D;33D7>0070 0068;33D9>0070 0070 006D;33DA>0070 0072",
    "33DC>0073 0076;33DD>0077 0062;A640>A641;A642>A643;A644>A645;A646>A647;A648>A649;A64A>A64B",
    "A64C>A64D;A64E>A64F;A650>A651;A652>A653;A654>A655;A656>A657;A658>A659;A65A>A65B;A65C>A65D",
    "A65E>A65F;A660>A661;A662>A663;A664>A665;A666>A667;A668>A669;A66A>A66B;A66C>A66D;A680>A681",
    "A682>A683;A684>A685;A686>A687;A688>A689;A68A>A68B;A68C>A68D;A68E>A68F;A690>A691;A692>A693",
    "A694>A695;A696>A697;A698>A699;A69A>A69B;A722>A723;A724>A725;A726>A727;A728>A729;A72A>A72B",
    "A72C>A72D;A72E>A72F;A732>A733;A734>A735;A736>A737;A738>A739;A73A>A73B;A73C>A73D;A73E>A73F",
    "A740>A741;A742>A743;A744>A745;A746>A747;A748>A749;A74A>A74B;A74C>A74D;A74E>A74F;A750>A751",
    "A752>A753;A754>A755;A756>A757;A758>A759;A75A>A75B;A75C>A75D;A75E>A75F;A760>A761;A762>A763",
    "A764>A765;A766>A767;A768>A769;A76A>A76B;A76C>A76D;A76E>A76F;A779>A77A;A77B>A77C;A77D>1D79",
    "A77E>A77F;A780>A781;A782>A783;A784>A785;A786>A787;A78B>A78C;A78D>0265;A790>A791;A792>A793",
    "A796>A797;A798>A799;A79A>A79B;A79C>A79D;A79E>A79F;A7A0>A7A1;A7A2>A7A3;A7A4>A7A5;A7A6>A7A7",
    "A7A8>A7A9;A7AA>0266;A7AB>025C;A7AC>0261;A7AD>026C;A7AE>026A;A7B0>029E;A7B1>0287;A7B2>029D",
    "A7B3>AB53;A7B4>A7B5;A7B6>A7B7;A7B8>A7B9;A7BA>A7BB;A7BC>A7BD;A7BE>A7BF;A7C0>A7C1;A7C2>A7C3",
    "A7C4>A794;A7C5>0282;A7C6>1D8E;A7C7>A7C8;A7C9>A7CA;A7D0>A7D1;A7D6>A7D7;A7D8>A7D9;A7F5>A7F6",
    "FB00>0066 0066;FB01>0066 0069;FB02>0066 006C;FB03>0066 0066 0069;FB04>0066 0066 006C",
    "FB05>0073 0074;FB06>0073 0074;FB13>0574 0576;FB14>0574 0565;FB15>0574 056B;FB16>057E 0576",
    "FB17>0574 056D;FF21>FF41;FF22>FF42;FF23>FF43;FF24>FF44;FF25>FF45;FF26>FF46;FF27>FF47",
    "FF28>FF48;FF29>FF49;FF2A>FF4A;FF2B>FF4B;FF2C>FF4C;FF2D>FF4D;FF2E>FF4E;FF2F>FF4F;FF30>FF50",
    "FF31>FF51;FF32>FF52;FF33>FF53;FF34>FF54;FF35>FF55;FF36>FF56;FF37>FF57;FF38>FF58;FF39>FF59",
    "FF3A>FF5A;10400>10428;10401>10429;10402>1042A;10403>1042B;10404>1042C;10405>1042D",
    "10406>1042E;10407>1042F;10408>10430;10409>10431;1040A>10432;1040B>10433;1040C>10434",
    "1040D>10435;1040E>10436;1040F>10437;10410>10438;10411>10439;10412>1043A;10413>1043B",
    "10414>1043C;10415>1043D;10416>1043E;10417>1043F;10418>10440;10419>10441;1041A>10442",
    "1041B>10443;1041C>10444;1041D>10445;1041E>10446;1041F>10447;10420>10448;10421>10449",
    "10422>1044A;10423>1044B;10424>1044C;10425>1044D;10426>1044E;10427>1044F;104B0>104D8",
    "104B1>104D9;104B2>104DA;104B3>104DB;104B4>104DC;104B5>104DD;104B6>104DE;104B7>104DF",
    "104B8>104E0;104B9>104E1;104BA>104E2;104BB>104E3;104BC>104E4;104BD>104E5;104BE>104E6",
    "104BF>104E7;104C0>104E8;104C1>104E9;104C2>104EA;104C3>104EB;104C4>104EC;104C5>104ED",
    "104C6>104EE;104C7>104EF;104C8>104F0;104C9>104F1;104CA>104F2;104CB>104F3;104CC>104F4",
    "104CD>104F5;104CE>104F6;104CF>104F7;104D0>104F8;104D1>104F9;104D2>104FA;104D3>104FB",
    "10570>10597;10571>10598;10572>10599;10573>1059A;10574>1059B;10575>1059C;10576>1059D",
    "10577>1059E;10578>1059F;10579>105A0;1057A>105A1;1057C>105A3;1057D>105A4;1057E>105A5",
    "1057F>105A6;10580>105A7;10581>105A8;10582>105A9;10583>105AA;10584>105AB;10585>105AC",
    "10586>105AD;10587>105AE;10588>105AF;10589>105B0;1058A>105B1;1058C>105B3;1058D>105B4",
    "1058E>105B5;1058F>105B6;10590>105B7;10591>105B8;10592>105B9;10594>105BB;10595>105BC",
    "10C80>10CC0;10C81>10CC1;10C82>10CC2;10C83>10CC3;10C84>10CC4;10C85>10CC5;10C86>10CC6",
    "10C87>10CC7;10C88>10CC8;10C89>10CC9;10C8A>10CCA;10C8B>10CCB;10C8C>10CCC;10C8D>10CCD",
    "10C8E>10CCE;10C8F>10CCF;10C90>10CD0;10C91>10CD1;10C92>10CD2;10C93>10CD3;10C94>10CD4",
    "10C95>10CD5;10C96>10CD6;10C97>10CD7;10C98>10CD8;10C99>10CD9;10C9A>10CDA;10C9B>10CDB",
    "10C9C>10CDC;10C9D>10CDD;10C9E>10CDE;10C9F>10CDF;10CA0>10CE0;10CA1>10CE1;10CA2>10CE2",
    "10CA3>10CE3;10CA4>10CE4;10CA5>10CE5;10CA6>10CE6;10CA7>10CE7;10CA8>10CE8;10CA9>10CE9",
    "10CAA>10CEA;10CAB>10CEB;10CAC>10CEC;10CAD>10CED;10CAE>10CEE;10CAF>10CEF;10CB0>10CF0",
    "10CB1>10CF1;10CB2>10CF2;118A0>118C0;118A1>118C1;118A2>118C2;118A3>118C3;118A4>118C4",
    "118A5>118C5;118A6>118C6;118A7>118C7;118A8>118C8;118A9>118C9;118AA>118CA;118AB>118CB",
    "118AC>118CC;118AD>118CD;118AE>118CE;118AF>118CF;118B0>118D0;118B1>118D1;118B2>118D2",
    "118B3>118D3;118B4>118D4;118B5>118D5;118B6>118D6;118B7>118D7;118B8>118D8;118B9>118D9",
    "118BA>118DA;118BB>118DB;118BC>118DC;118BD>118DD;118BE>118DE;118BF>118DF;16E40>16E60",
    "16E41>16E61;16E42>16E62;16E43>16E63;16E44>16E64;16E45>16E65;16E46>16E66;16E47>16E67",
    "16E48>16E68;16E49>16E69;16E4A>16E6A;16E4B>16E6B;16E4C>16E6C;16E4D>16E6D;16E4E>16E6E",
    "16E4F>16E6F;16E50>16E70;16E51>16E71;16E52>16E72;16E53>16E73;16E54>16E74;16E55>16E75",
    "16E56>16E76;16E57>16E77;16E58>16E78;16E59>16E79;16E5A>16E7A;16E5B>16E7B;16E5C>16E7C",
    "16E5D>16E7D;16E5E>16E7E;16E5F>16E7F;1D400>0061;1D401>0062;1D402>0063;1D403>0064;1D404>0065",
    "1D405>0066;1D406>0067;1D407>0068;1D408>0069;1D409>006A;1D40A>006B;1D40B>006C;1D40C>006D",
    "1D40D>006E;1D40E>006F;1D40F>0070;1D410>0071;1D411>0072;1D412>0073;1D413>0074;1D414>0075",
    "1D415>0076;1D416>0077;1D417>0078;1D418>0079;1D419>007A;1D434>0061;1D435>0062;1D436>0063",
    "1D437>0064;1D438>0065;1D439>0066;1D43A>0067;1D43B>0068;1D43C>0069;1D43D>006A;1D43E>006B",
    "1D43F>006C;1D440>006D;1D441>006E;1D442>006F;1D443>0070;1D444>0071;1D445>0072;1D446>0073",
    "1D447>0074;1D448>0075;1D449>0076;1D44A>0077;1D44B>0078;1D44C>0079;1D44D>007A;1D468>0061",
    "1D469>0062;1D46A>0063;1D46B>0064;1D46C>0065;1D46D>0066;1D46E>0067;1D46F>0068;1D470>0069",
    "1D471>006A;1D472>006B;1D473>006C;1D474>006D;1D475>006E;1D476>006F;1D477>0070;1D478>0071",
    "1D479>0072;1D47A>0073;1D47B>0074;1D47C>0075;1D47D>0076;1D47E>0077;1D47F>0078;1D480>0079",
    "1D481>007A;1D49C>0061;1D49E>0063;1D49F>0064;1D4A2>0067;1D4A5>006A;1D4A6>006B;1D4A9>006E",
    "1D4AA>006F;1D4AB>0070;1D4AC>0071;1D4AE>0073;1D4AF>0074;1D4B0>0075;1D4B1>0076;1D4B2>0077",
    "1D4B3>0078;1D4B4>0079;1D4B5>007A;1D4D0>0061;1D4D1>0062;1D4D2>0063;1D4D3>0064;1D4D4>0065",
    "1D4D5>0066;1D4D6>0067;1D4D7>0068;1D4D8>0069;1D4D9>006A;1D4DA>006B;1D4DB>006C;1D4DC>006D",
    "1D4DD>006E;1D4DE>006F;1D4DF>0070;1D4E0>0071;1D4E1>0072;1D4E2>0073;1D4E3>0074;1D4E4>0075",
    "1D4E5>0076;1D4E6>0077;1D4E7>0078;1D4E8>0079;1D4E9>007A;1D504>0061;1D505>0062;1D507>0064",
    "1D508>0065;1D509>0066;1D50A>0067;1D50D>006A;1D50E>006B;1D50F>006C;1D510>006D;1D511>006E",
    "1D512>006F;1D513>0070;1D514>0071;1D516>0073;1D517>0074;1D518>0075;1D519>0076;1D51A>0077",
    "1D51B>0078;1D51C>0079;1D538>0061;1D539>0062;1D53B>0064;1D53C>0065;1D53D>0066;1D53E>0067",
    "1D540>0069;1D541>006A;1D542>006B;1D543>006C;1D544>006D;1D546>006F;1D54A>0073;1D54B>0074",
    "1D54C>0075;1D54D>0076;1D54E>0077;1D54F>0078;1D550>0079;1D56C>0061;1D56D>0062;1D56E>0063",
    "1D56F>0064;1D570>0065;1D571>0066;1D572>0067;1D573>0068;1D574>0069;1D575>006A;1D576>006B",
    "1D577>006C;1D578>006D;1D579>006E;1D57A>006F;1D57B>0070;1D57C>0071;1D57D>0072;1D57E>0073",
    "1D57F>0074;1D580>0075;1D581>0076;1D582>0077;1D583>0078;1D584>0079;1D585>007A;1D5A0>0061",
    "1D5A1>0062;1D5A2>0063;1D5A3>0064;1D5A4>0065;1D5A5>0066;1D5A6>0067;1D5A7>0068;1D5A8>0069",
    "1D5A9>006A;1D5AA>006B;1D5AB>006C;1D5AC>006D;1D5AD>006E;1D5AE>006F;1D5AF>0070;1D5B0>0071",
    "1D5B1>0072;1D5B2>0073;1D5B3>0074;1D5B4>0075;1D5B5>0076;1D5B6>0077;1D5B7>0078;1D5B8>0079",
    "1D5B9>007A;1D5D4>0061;1D5D5>0062;1D5D6>0063;1D5D7>0064;1D5D8>0065;1D5D9>0066;1D5DA>0067",
    "1D5DB>0068;1D5DC>0069;1D5DD>006A;1D5DE>006B;1D5DF>006C;1D5E0>006D;1D5E1>006E;1D5E2>006F",
    "1D5E3>0070;1D5E4>0071;1D5E5>0072;1D5E6>0073;1D5E7>0074;1D5E8>0075;1D5E9>0076;1D5EA>0077",
    "1D5EB>0078;1D5EC>0079;1D5ED>007A;1D608>0061;1D609>0062;1D60A>0063;1D60B>0064;1D60C>0065",
    "1D60D>0066;1D60E>0067;1D60F>0068;1D610>0069;1D611>006A;1D612>006B;1D613>006C;1D614>006D",
    "1D615>006E;1D616>006F;1D617>0070;1D618>0071;1D619>0072;1D61A>0073;1D61B>0074;1D61C>0075",
    "1D61D>0076;1D61E>0077;1D61F>0078;1D620>0079;1D621>007A;1D63C>0061;1D63D>0062;1D63E>0063",
    "1D63F>0064;1D640>0065;1D641>0066;1D642>0067;1D643>0068;1D644>0069;1D645>006A;1D646>006B",
    "1D647>006C;1D648>006D;1D649>006E;1D64A>006F;1D64B>0070;1D64C>0071;1D64D>0072;1D64E>0073",
    "1D64F>0074;1D650>0075;1D651>0076;1D652>0077;1D653>0078;1D654>0079;1D655>007A;1D670>0061",
    "1D671>0062;1D672>0063;1D673>0064;1D674>0065;1D675>0066;1D676>0067;1D677>0068;1D678>0069",
    "1D679>006A;1D67A>006B;1D67B>006C;1D67C>006D;1D67D>006E;1D67E>006F;1D67F>0070;1D680>0071",
    "1D681>0072;1D682>0073;1D683>0074;1D684>0075;1D685>0076;1D686>0077;1D687>0078;1D688>0079",
    "1D689>007A;1D6A8>03B1;1D6A9>03B2;1D6AA>03B3;1D6AB>03B4;1D6AC>03B5;1D6AD>03B6;1D6AE>03B7",
    "1D6AF>03B8;1D6B0>03B9;1D6B1>03BA;1D6B2>03BB;1D6B3>03BC;1D6B4>03BD;1D6B5>03BE;1D6B6>03BF",
    "1D6B7>03C0;1D6B8>03C1;1D6B9>03B8;1D6BA>03C3;1D6BB>03C4;1D6BC>03C5;1D6BD>03C6;1D6BE>03C7",
    "1D6BF>03C8;1D6C0>03C9;1D6D3>03C3;1D6E2>03B1;1D6E3>03B2;1D6E4>03B3;1D6E5>03B4;1D6E6>03B5",
    "1D6E7>03B6;1D6E8>03B7;1D6E9>03B8;1D6EA>03B9;1D6EB>03BA;1D6EC>03BB;1D6ED>03BC;1D6EE>03BD",
    "1D6EF>03BE;1D6F0>03BF;1D6F1>03C0;1D6F2>03C1;1D6F3>03B8;1D6F4>03C3;1D6F5>03C4;1D6F6>03C5",
    "1D6F7>03C6;1D6F8>03C7;1D6F9>03C8;1D6FA>03C9;1D70D>03C3;1D71C>03B1;1D71D>03B2;1D71E>03B3",
    "1D71F>03B4;1D720>03B5;1D721>03B6;1D722>03B7;1D723>03B8;1D724>03B9;1D725>03BA;1D726>03BB",
    "1D727>03BC;1D728>03BD;1D729>03BE;1D72A>03BF;1D72B>03C0;1D72C>03C1;1D72D>03B8;1D72E>03C3",
    "1D72F>03C4;1D730>03C5;1D731>03C6;1D732>03C7;1D733>03C8;1D734>03C9;1D747>03C3;1D756>03B1",
    "1D757>03B2;1D758>03B3;1D759>03B4;1D75A>03B5;1D75B>03B6;1D75C>03B7;1D75D>03B8;1D75E>03B9",
    "1D75F>03BA;1D760>03BB;1D761>03BC;1D762>03BD;1D763>03BE;1D764>03BF;1D765>03C0;1D766>03C1",
    "1D767>03B8;1D768>03C3;1D769>03C4;1D76A>03C5;1D76B>03C6;1D76C>03C7;1D76D>03C8;1D76E>03C9",
    "1D781>03C3;1D790>03B1;1D791>03B2;1D792>03B3;1D793>03B4;1D794>03B5;1D795>03B6;1D796>03B7",
    "1D797>03B8;1D798>03B9;1D799>03BA;1D79A>03BB;1D79B>03BC;1D79C>03BD;1D79D>03BE;1D79E>03BF",
    "1D79F>03C0;1D7A0>03C1;1D7A1>03B8;1D7A2>03C3;1D7A3>03C4;1D7A4>03C5;1D7A5>03C6;1D7A6>03C7",
    "1D7A7>03C8;1D7A8>03C9;1D7BB>03C3;1E900>1E922;1E901>1E923;1E902>1E924;1E903>1E925",
    "1E904>1E926;1E905>1E927;1E906>1E928;1E907>1E929;1E908>1E92A;1E909>1E92B;1E90A>1E92C",
    "1E90B>1E92D;1E90C>1E92E;1E90D>1E92F;1E90E>1E930;1E90F>1E931;1E910>1E932;1E911>1E933",
    "1E912>1E934;1E913>1E935;1E914>1E936;1E915>1E937;1E916>1E938;1E917>1E939;1E918>1E93A",
    "1E919>1E93B;1E91A>1E93C;1E91B>1E93D;1E91C>1E93E;1E91D>1E93F;1E91E>1E940;1E91F>1E941",
    "1E920>1E942;1E921>1E943"]

/-- Tables C.1.2, C.2.2 and C.3 to C.9, as ranges. -/
def prohibitedRanges : List (Nat × Nat) :=
  [(0x0080, 0x00A0), (0x0340, 0x0341), (0x06DD, 0x06DD), (0x070F, 0x070F), (0x1680, 0x1680),
    (0x180E, 0x180E), (0x2000, 0x200F), (0x2028, 0x202F), (0x205F, 0x2063), (0x206A, 0x206F),
    (0x2FF0, 0x2FFB), (0x3000, 0x3000), (0xD800, 0xF8FF), (0xFDD0, 0xFDEF), (0xFEFF, 0xFEFF),
    (0xFFF9, 0xFFFF), (0x1D173, 0x1D17A), (0x1FFFE, 0x1FFFF), (0x2FFFE, 0x2FFFF),
    (0x3FFFE, 0x3FFFF), (0x4FFFE, 0x4FFFF), (0x5FFFE, 0x5FFFF), (0x6FFFE, 0x6FFFF),
    (0x7FFFE, 0x7FFFF), (0x8FFFE, 0x8FFFF), (0x9FFFE, 0x9FFFF), (0xAFFFE, 0xAFFFF),
    (0xBFFFE, 0xBFFFF), (0xCFFFE, 0xCFFFF), (0xDFFFE, 0xDFFFF), (0xE0001, 0xE0001),
    (0xE0020, 0xE007F), (0xEFFFE, 0x10FFFF)]

/-- Table D.1, as ranges. -/
def rightToLeftRanges : List (Nat × Nat) :=
  [(0x05BE, 0x05BE), (0x05C0, 0x05C0), (0x05C3, 0x05C3), (0x05D0, 0x05EA), (0x05F0, 0x05F4),
    (0x061B, 0x061B), (0x061F, 0x061F), (0x0621, 0x063A), (0x0640, 0x064A), (0x066D, 0x066F),
    (0x0671, 0x06D5), (0x06DD, 0x06DD), (0x06E5, 0x06E6), (0x06FA, 0x06FE), (0x0700, 0x070D),
    (0x0710, 0x0710), (0x0712, 0x072C), (0x0780, 0x07A5), (0x07B1, 0x07B1), (0x200F, 0x200F),
    (0xFB1D, 0xFB1D), (0xFB1F, 0xFB28), (0xFB2A, 0xFB36), (0xFB38, 0xFB3C), (0xFB3E, 0xFB3E),
    (0xFB40, 0xFB41), (0xFB43, 0xFB44), (0xFB46, 0xFBB1), (0xFBD3, 0xFD3D), (0xFD50, 0xFD8F),
    (0xFD92, 0xFDC7), (0xFDF0, 0xFDFC), (0xFE70, 0xFE74), (0xFE76, 0xFEFC)]

/-- Table D.2. -/
def leftToRightLines : List String :=
  [
    "0041-005A;0061-007A;00AA;00B5;00BA;00C0-00D6;00D8-00F6;00F8-0220;0222-0233;0250-02AD",
    "02B0-02B8;02BB-02C1;02D0-02D1;02E0-02E4;02EE;037A;0386;0388-038A;038C;038E-03A1;03A3-03CE",
    "03D0-03F5;0400-0482;048A-04CE;04D0-04F5;04F8-04F9;0500-050F;0531-0556;0559-055F;0561-0587",
    "0589;0903;0905-0939;093D-0940;0949-094C;0950;0958-0961;0964-0970;0982-0983;0985-098C",
    "098F-0990;0993-09A8;09AA-09B0;09B2;09B6-09B9;09BE-09C0;09C7-09C8;09CB-09CC;09D7;09DC-09DD",
    "09DF-09E1;09E6-09F1;09F4-09FA;0A05-0A0A;0A0F-0A10;0A13-0A28;0A2A-0A30;0A32-0A33;0A35-0A36",
    "0A38-0A39;0A3E-0A40;0A59-0A5C;0A5E;0A66-0A6F;0A72-0A74;0A83;0A85-0A8B;0A8D;0A8F-0A91",
    "0A93-0AA8;0AAA-0AB0;0AB2-0AB3;0AB5-0AB9;0ABD-0AC0;0AC9;0ACB-0ACC;0AD0;0AE0;0AE6-0AEF",
    "0B02-0B03;0B05-0B0C;0B0F-0B10;0B13-0B28;0B2A-0B30;0B32-0B33;0B36-0B39;0B3D-0B3E;0B40",
    "0B47-0B48;0B4B-0B4C;0B57;0B5C-0B5D;0B5F-0B61;0B66-0B70;0B83;0B85-0B8A;0B8E-0B90;0B92-0B95",
    "0B99-0B9A;0B9C;0B9E-0B9F;0BA3-0BA4;0BA8-0BAA;0BAE-0BB5;0BB7-0BB9;0BBE-0BBF;0BC1-0BC2",
    "0BC6-0BC8;0BCA-0BCC;0BD7;0BE7-0BF2;0C01-0C03;0C05-0C0C;0C0E-0C10;0C12-0C28;0C2A-0C33",
    "0C35-0C39;0C41-0C44;0C60-0C61;0C66-0C6F;0C82-0C83;0C85-0C8C;0C8E-0C90;0C92-0CA8;0CAA-0CB3",
    "0CB5-0CB9;0CBE;0CC0-0CC4;0CC7-0CC8;0CCA-0CCB;0CD5-0CD6;0CDE;0CE0-0CE1;0CE6-0CEF;0D02-0D03",
    "0D05-0D0C;0D0E-0D10;0D12-0D28;0D2A-0D39;0D3E-0D40;0D46-0D48;0D4A-0D4C;0D57;0D60-0D61",
    "0D66-0D6F;0D82-0D83;0D85-0D96;0D9A-0DB1;0DB3-0DBB;0DBD;0DC0-0DC6;0DCF-0DD1;0DD8-0DDF",
    "0DF2-0DF4;0E01-0E30;0E32-0E33;0E40-0E46;0E4F-0E5B;0E81-0E82;0E84;0E87-0E88;0E8A;0E8D",
    "0E94-0E97;0E99-0E9F;0EA1-0EA3;0EA5;0EA7;0EAA-0EAB;0EAD-0EB0;0EB2-0EB3;0EBD;0EC0-0EC4;0EC6",
    "0ED0-0ED9;0EDC-0EDD;0F00-0F17;0F1A-0F34;0F36;0F38;0F3E-0F47;0F49-0F6A;0F7F;0F85;0F88-0F8B",
    "0FBE-0FC5;0FC7-0FCC;0FCF;1000-1021;1023-1027;1029-102A;102C;1031;1038;1040-1057;10A0-10C5",
    "10D0-10F8;10FB;1100-1159;115F-11A2;11A8-11F9;1200-1206;1208-1246;1248;124A-124D;1250-1256",
    "1258;125A-125D;1260-1286;1288;128A-128D;1290-12AE;12B0;12B2-12B5;12B8-12BE;12C0;12C2-12C5",
    "12C8-12CE;12D0-12D6;12D8-12EE;12F0-130E;1310;1312-1315;1318-131E;1320-1346;1348-135A",
    "1361-137C;13A0-13F4;1401-1676;1681-169A;16A0-16F0;1700-170C;170E-1711;1720-1731;1735-1736",
    "1740-1751;1760-176C;176E-1770;1780-17B6;17BE-17C5;17C7-17C8;17D4-17DA;17DC;17E0-17E9",
    "1810-1819;1820-1877;1880-18A8;1E00-1E9B;1EA0-1EF9;1F00-1F15;1F18-1F1D;1F20-1F45;1F48-1F4D",
    "1F50-1F57;1F59;1F5B;1F5D;1F5F-1F7D;1F80-1FB4;1FB6-1FBC;1FBE;1FC2-1FC4;1FC6-1FCC;1FD0-1FD3",
    "1FD6-1FDB;1FE0-1FEC;1FF2-1FF4;1FF6-1FFC;200E;2071;207F;2102;2107;210A-2113;2115;2119-211D",
    "2124;2126;2128;212A-212D;212F-2131;2133-2139;213D-213F;2145-2149;2160-2183;2336-237A;2395",
    "249C-24E9;3005-3007;3021-3029;3031-3035;3038-303C;3041-3096;309D-309F;30A1-30FA;30FC-30FF",
    "3105-312C;3131-318E;3190-31B7;31F0-321C;3220-3243;3260-327B;327F-32B0;32C0-32CB;32D0-32FE",
    "3300-3376;337B-33DD;33E0-33FE;3400-4DB5;4E00-9FA5;A000-A48C;AC00-D7A3;D800-FA2D;FA30-FA6A",
    "FB00-FB06;FB13-FB17;FF21-FF3A;FF41-FF5A;FF66-FFBE;FFC2-FFC7;FFCA-FFCF;FFD2-FFD7;FFDA-FFDC",
    "10300-1031E;10320-10323;10330-1034A;10400-10425;10428-1044D;1D000-1D0F5;1D100-1D126",
    "1D12A-1D166;1D16A-1D172;1D183-1D184;1D18C-1D1A9;1D1AE-1D1DD;1D400-1D454;1D456-1D49C",
    "1D49E-1D49F;1D4A2;1D4A5-1D4A6;1D4A9-1D4AC;1D4AE-1D4B9;1D4BB;1D4BD-1D4C0;1D4C2-1D4C3",
    "1D4C5-1D505;1D507-1D50A;1D50D-1D514;1D516-1D51C;1D51E-1D539;1D53B-1D53E;1D540-1D544;1D546",
    "1D54A-1D550;1D552-1D6A3;1D6A8-1D7C9;20000-2A6D6;2F800-2FA1D;F0000-FFFFD;100000-10FFFD"]

end Stringprep

end LocationDrift
