/-! # Second names of code points

Controls have no names but second ones, and some names were corrected or shortened. The
lines are those of a table of names (`Stencil.NameTable`).
-/

namespace Stencil.CharacterName

/-- Second names. -/
def secondNames : String :=
"0 NULL
0 NUL;START OF HEADING
1 SOH;START OF TEXT
2 STX;END OF TEXT
3 ETX;END OF TRANSMISSION
4 EOT;ENQUIRY
5 ENQ;ACKNOWLEDGE
6 ACK;ALERT
7 BEL;BACKSPACE
8 BS;CHARACTER TABULATION
9 HORIZONTAL TABULATION
9 HT
9 TAB;LINE FEED
A NEW LINE
A END OF LINE
A EOL
A LF
A NL;LINE TABULATION
B VERTICAL TABULATION
B VT;FORM FEED
C FF;CARRIAGE RETURN
D CR;SHIFT OUT
E LOCKING-SHIFT ONE
E SO;SHIFT IN
F LOCKING-SHIFT ZERO
F SI;DATA LINK ESCAPE
10 DLE;DEVICE CONTROL ONE
11 DC1;DEVICE CONTROL TWO
12 DC2;DEVICE CONTROL THREE
13 DC3;DEVICE CONTROL FOUR
14 DC4;NEGATIVE ACKNOWLEDGE
15 NAK;SYNCHRONOUS IDLE
16 SYN;END OF TRANSMISSION BLOCK
17 ETB;CANCEL
18 CAN;END OF MEDIUM
19 EOM;SUBSTITUTE
1A SUB;ESCAPE
1B ESC;INFORMATION SEPARATOR FOUR
1C FILE SEPARATOR
1C FS;INFORMATION SEPARATOR THREE
1D GROUP SEPARATOR
1D GS;INFORMATION SEPARATOR TWO
1E RECORD SEPARATOR
1E RS;INFORMATION SEPARATOR ONE
1F UNIT SEPARATOR
1F US;SP
7F DELETE
7F DEL;PADDING CHARACTER
80 PAD;HIGH OCTET PRESET
81 HOP;BREAK PERMITTED HERE
82 BPH;NO BREAK HERE
83 NBH;INDEX
84 IND;NEXT LINE
85 NEL;START OF SELECTED AREA
86 SSA;END OF SELECTED AREA
87 ESA;CHARACTER TABULATION SET
88 HORIZONTAL TABULATION SET
88 HTS;CHARACTER TABULATION WITH JUSTIFICATION
89 HORIZONTAL TABULATION WITH JUSTIFICATION
89 HTJ;LINE TABULATION SET
8A VERTICAL TABULATION SET
8A VTS;PARTIAL LINE FORWARD
8B bDOWN
8B PLD;PARTIAL LINE BACKWARD
8C bUP
8C PLU;REVERSE LINE FEED
8D aINDEX
8D RI;SINGLE SHIFT TWO
8E SINGLE-SHIFT-2
8E SS2;SINGLE SHIFT THREE
8F SINGLE-SHIFT-3
8F SS3;DEVICE CONTROL STRING
90 DCS;PRIVATE USE ONE
91 aUSE-1
91 PU1;PRIVATE USE TWO
92 aUSE-2
92 PU2;SET TRANSMIT STATE
93 STS;CANCEL CHARACTER
94 CCH;MESSAGE WAITING
95 MW;START OF GUARDED AREA
96 bPROTECTED AREA
96 SPA;END OF GUARDED AREA
97 bPROTECTED AREA
97 EPA;START OF STRING
98 SOS;SINGLE GRAPHIC CHARACTER INTRODUCER
99 SGC;SINGLE CHARACTER INTRODUCER
9A SCI;CONTROL SEQUENCE INTRODUCER
9B CSI;STRING TERMINATOR
9C ST;OPERATING SYSTEM COMMAND
9D OSC;PRIVACY MESSAGE
9E PM;APPLICATION PROGRAM COMMAND
9F APC;NBSP
AD SHY
1A2 LATIN CAPITAL LETTER GHA;aSMALL LETTER GHA
34F CGJ
61C ALM
709 SYRIAC SUBLINEAR COLON SKEWED LEFT
CDE KANNADA LETTER LLLA
E9D LAO LETTER FO FON
E9F cFAY
EA3 bRO
EA5 bLO
FD0 TIBETAN MARK BKA- SHOG GI MGO RGYAN
11EC HANGUL JONGSEONG YESIEUNG-KIYEOK;bYESIEUNG-SSANGKIYEOK;bSSANGYESIEUNG;bYESIEUNG-KHIEUKH
180B FVS1;FVS2;FVS3;MVS;FVS4
200B ZWSP;ZWNJ;ZWJ;LRM;RLM
202A LRE;RLE;PDF;LRO;RLO;NNBSP
205F MMSP;WJ
2066 LRI;RLI;FSI;PDI
2118 WEIERSTRASS ELLIPTIC FUNCTION
2448 MICR ON US SYMBOL;aDASH SYMBOL
2B7A LEFTWARDS TRIANGLE-HEADED ARROW WITH DOUBLE VERTICAL STROKE
2B7C RIGHTWARDS TRIANGLE-HEADED ARROW WITH DOUBLE VERTICAL STROKE
A015 YI SYLLABLE ITERATION MARK
AA6E MYANMAR LETTER KHAMTI LLA
FE00 VS1;VS2;VS3;VS4;VS5;VS6;VS7;VS8;VS9;VS10;VS11;VS12;VS13;VS14;VS15;VS16
FE18 PRESENTATION FORM FOR VERTICAL RIGHT WHITE LENTICULAR BRACKET
FEFF BYTE ORDER MARK
FEFF BOM
FEFF ZWNBSP
122D4 CUNEIFORM SIGN NU11 TENU;cOVER NU11 BUR OVER BUR
16E56 MEDEFAIDRIN CAPITAL LETTER H;cNG
16E76 aSMALL LETTER H;cNG
1B001 HENTAIGANA LETTER E-1
1D0C5 BYZANTINE MUSICAL SYMBOL FTHORA SKLIRON CHROMA VASIS
E0100 VS17;VS18;VS19;VS20;VS21;VS22;VS23;VS24;VS25;VS26;VS27;VS28;VS29;VS30;VS31;VS32;VS33;VS34
E0112 VS35;VS36;VS37;VS38;VS39;VS40;VS41;VS42;VS43;VS44;VS45;VS46;VS47;VS48;VS49;VS50;VS51;VS52
E0124 VS53;VS54;VS55;VS56;VS57;VS58;VS59;VS60;VS61;VS62;VS63;VS64;VS65;VS66;VS67;VS68;VS69;VS70
E0136 VS71;VS72;VS73;VS74;VS75;VS76;VS77;VS78;VS79;VS80;VS81;VS82;VS83;VS84;VS85;VS86;VS87;VS88
E0148 VS89;VS90;VS91;VS92;VS93;VS94;VS95;VS96;VS97;VS98;VS99;VS100;VS101;VS102;VS103;VS104;VS105
E0159 VS106;VS107;VS108;VS109;VS110;VS111;VS112;VS113;VS114;VS115;VS116;VS117;VS118;VS119;VS120
E0168 VS121;VS122;VS123;VS124;VS125;VS126;VS127;VS128;VS129;VS130;VS131;VS132;VS133;VS134;VS135
E0177 VS136;VS137;VS138;VS139;VS140;VS141;VS142;VS143;VS144;VS145;VS146;VS147;VS148;VS149;VS150
E0186 VS151;VS152;VS153;VS154;VS155;VS156;VS157;VS158;VS159;VS160;VS161;VS162;VS163;VS164;VS165
E0195 VS166;VS167;VS168;VS169;VS170;VS171;VS172;VS173;VS174;VS175;VS176;VS177;VS178;VS179;VS180
E01A4 VS181;VS182;VS183;VS184;VS185;VS186;VS187;VS188;VS189;VS190;VS191;VS192;VS193;VS194;VS195
E01B3 VS196;VS197;VS198;VS199;VS200;VS201;VS202;VS203;VS204;VS205;VS206;VS207;VS208;VS209;VS210
E01C2 VS211;VS212;VS213;VS214;VS215;VS216;VS217;VS218;VS219;VS220;VS221;VS222;VS223;VS224;VS225
E01D1 VS226;VS227;VS228;VS229;VS230;VS231;VS232;VS233;VS234;VS235;VS236;VS237;VS238;VS239;VS240
E01E0 VS241;VS242;VS243;VS244;VS245;VS246;VS247;VS248;VS249;VS250;VS251;VS252;VS253;VS254;VS255
E01EF VS256"

end Stencil.CharacterName
