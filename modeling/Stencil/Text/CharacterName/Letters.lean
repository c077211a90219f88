/-! # Names of code points: letters

The lines are those of tables of names (`Stencil.NameTable`).
-/

namespace Stencil.CharacterName

/-- The names of letters of Europe with their marks. -/
def alphabets : String :=
"20 SPACE;EXCLAMATION MARK;QUOTATION MARK;NUMBER SIGN;DOLLAR SIGN;PERCENT SIGN;AMPERSAND;APOSTROPHE
28 LEFT PARENTHESIS;RIGHT PARENTHESIS;ASTERISK;PLUS SIGN;COMMA;HYPHEN-MINUS;FULL STOP;SOLIDUS
30 DIGIT ZERO;aONE;aTWO;aTHREE;aFOUR;aFIVE;aSIX;aSEVEN;aEIGHT;aNINE;COLON;SEMICOLON;LESS-THAN SIGN
3D EQUALS SIGN;GREATER-THAN SIGN;QUESTION MARK;COMMERCIAL AT;LATIN CAPITAL LETTER A;cB;cC;cD;cE;cF
47 cG;cH;cI;cJ;cK;cL;cM;cN;cO;cP;cQ;cR;cS;cT;cU;cV;cW;cX;cY;cZ;LEFT SQUARE BRACKET;REVERSE SOLIDUS
5D RIGHT SQUARE BRACKET;CIRCUMFLEX ACCENT;LOW LINE;GRAVE ACCENT;LATIN SMALL LETTER A;cB;cC;cD;cE
66 cF;cG;cH;cI;cJ;cK;cL;cM;cN;cO;cP;cQ;cR;cS;cT;cU;cV;cW;cX;cY;cZ;LEFT CURLY BRACKET;VERTICAL LINE
7D RIGHT CURLY BRACKET;TILDE
A0 NO-BREAK SPACE;INVERTED EXCLAMATION MARK;CENT SIGN;POUND SIGN;CURRENCY SIGN;YEN SIGN;BROKEN BAR
A7 SECTION SIGN;DIAERESIS;COPYRIGHT SIGN;FEMININE ORDINAL INDICATOR
AB LEFT-POINTING DOUBLE ANGLE QUOTATION MARK;NOT SIGN;SOFT HYPHEN;REGISTERED SIGN;MACRON
B0 DEGREE SIGN;PLUS-MINUS SIGN;SUPERSCRIPT TWO;aTHREE;ACUTE ACCENT;MICRO SIGN;PILCROW SIGN
B7 MIDDLE DOT;CEDILLA;SUPERSCRIPT ONE;MASCULINE ORDINAL INDICATOR
BB RIGHT-POINTING DOUBLE ANGLE QUOTATION MARK;VULGAR FRACTION ONE QUARTER;cHALF;bTHREE QUARTERS
BF INVERTED QUESTION MARK;LATIN CAPITAL LETTER A WITH GRAVE;eACUTE;eCIRCUMFLEX;eTILDE;eDIAERESIS
C5 eRING ABOVE;cAE;cC WITH CEDILLA;cE WITH GRAVE;eACUTE;eCIRCUMFLEX;eDIAERESIS;cI WITH GRAVE
CD eACUTE;eCIRCUMFLEX;eDIAERESIS;cETH;cN WITH TILDE;cO WITH GRAVE;eACUTE;eCIRCUMFLEX;eTILDE
D6 eDIAERESIS;MULTIPLICATION SIGN;LATIN CAPITAL LETTER O WITH STROKE;cU WITH GRAVE;eACUTE
DB eCIRCUMFLEX;eDIAERESIS;cY WITH ACUTE;cTHORN;aSMALL LETTER SHARP S;cA WITH GRAVE;eACUTE
E2 eCIRCUMFLEX;eTILDE;eDIAERESIS;eRING ABOVE;cAE;cC WITH CEDILLA;cE WITH GRAVE;eACUTE;eCIRCUMFLEX
EB eDIAERESIS;cI WITH GRAVE;eACUTE;eCIRCUMFLEX;eDIAERESIS;cETH;cN WITH TILDE;cO WITH GRAVE;eACUTE
F4 eCIRCUMFLEX;eTILDE;eDIAERESIS;DIVISION SIGN;LATIN SMALL LETTER O WITH STROKE;cU WITH GRAVE
FA eACUTE;eCIRCUMFLEX;eDIAERESIS;cY WITH ACUTE;cTHORN;cY WITH DIAERESIS
100 aCAPITAL LETTER A WITH MACRON;aSMALL LETTER A WITH MACRON;aCAPITAL LETTER A WITH BREVE
103 aSMALL LETTER A WITH BREVE;aCAPITAL LETTER A WITH OGONEK;aSMALL LETTER A WITH OGONEK
106 aCAPITAL LETTER C WITH ACUTE;aSMALL LETTER C WITH ACUTE;aCAPITAL LETTER C WITH CIRCUMFLEX
109 aSMALL LETTER C WITH CIRCUMFLEX;aCAPITAL LETTER C WITH DOT ABOVE
10B aSMALL LETTER C WITH DOT ABOVE;aCAPITAL LETTER C WITH CARON;aSMALL LETTER C WITH CARON
10E aCAPITAL LETTER D WITH CARON;aSMALL LETTER D WITH CARON;aCAPITAL LETTER D WITH STROKE
111 aSMALL LETTER D WITH STROKE;aCAPITAL LETTER E WITH MACRON;aSMALL LETTER E WITH MACRON
114 aCAPITAL LETTER E WITH BREVE;aSMALL LETTER E WITH BREVE;aCAPITAL LETTER E WITH DOT ABOVE
117 aSMALL LETTER E WITH DOT ABOVE;aCAPITAL LETTER E WITH OGONEK;aSMALL LETTER E WITH OGONEK
11A aCAPITAL LETTER E WITH CARON;aSMALL LETTER E WITH CARON;aCAPITAL LETTER G WITH CIRCUMFLEX
11D aSMALL LETTER G WITH CIRCUMFLEX;aCAPITAL LETTER G WITH BREVE;aSMALL LETTER G WITH BREVE
120 aCAPITAL LETTER G WITH DOT ABOVE;aSMALL LETTER G WITH DOT ABOVE;aCAPITAL LETTER G WITH CEDILLA
123 aSMALL LETTER G WITH CEDILLA;aCAPITAL LETTER H WITH CIRCUMFLEX;aSMALL LETTER H WITH CIRCUMFLEX
126 aCAPITAL LETTER H WITH STROKE;aSMALL LETTER H WITH STROKE;aCAPITAL LETTER I WITH TILDE
129 aSMALL LETTER I WITH TILDE;aCAPITAL LETTER I WITH MACRON;aSMALL LETTER I WITH MACRON
12C aCAPITAL LETTER I WITH BREVE;aSMALL LETTER I WITH BREVE;aCAPITAL LETTER I WITH OGONEK
12F aSMALL LETTER I WITH OGONEK;aCAPITAL LETTER I WITH DOT ABOVE;aSMALL LETTER DOTLESS I
132 aCAPITAL LIGATURE IJ;aSMALL LIGATURE IJ;aCAPITAL LETTER J WITH CIRCUMFLEX
135 aSMALL LETTER J WITH CIRCUMFLEX;aCAPITAL LETTER K WITH CEDILLA;aSMALL LETTER K WITH CEDILLA
138 cKRA;aCAPITAL LETTER L WITH ACUTE;aSMALL LETTER L WITH ACUTE;aCAPITAL LETTER L WITH CEDILLA
13C aSMALL LETTER L WITH CEDILLA;aCAPITAL LETTER L WITH CARON;aSMALL LETTER L WITH CARON
13F aCAPITAL LETTER L WITH MIDDLE DOT;aSMALL LETTER L WITH MIDDLE DOT
141 aCAPITAL LETTER L WITH STROKE;aSMALL LETTER L WITH STROKE;aCAPITAL LETTER N WITH ACUTE
144 aSMALL LETTER N WITH ACUTE;aCAPITAL LETTER N WITH CEDILLA;aSMALL LETTER N WITH CEDILLA
147 aCAPITAL LETTER N WITH CARON;aSMALL LETTER N WITH CARON;dPRECEDED BY APOSTROPHE
14A aCAPITAL LETTER ENG;aSMALL LETTER ENG;aCAPITAL LETTER O WITH MACRON
14D aSMALL LETTER O WITH MACRON;aCAPITAL LETTER O WITH BREVE;aSMALL LETTER O WITH BREVE
150 aCAPITAL LETTER O WITH DOUBLE ACUTE;aSMALL LETTER O WITH DOUBLE ACUTE;aCAPITAL LIGATURE OE
153 aSMALL LIGATURE OE;aCAPITAL LETTER R WITH ACUTE;aSMALL LETTER R WITH ACUTE
156 aCAPITAL LETTER R WITH CEDILLA;aSMALL LETTER R WITH CEDILLA;aCAPITAL LETTER R WITH CARON
159 aSMALL LETTER R WITH CARON;aCAPITAL LETTER S WITH ACUTE;aSMALL LETTER S WITH ACUTE
15C aCAPITAL LETTER S WITH CIRCUMFLEX;aSMALL LETTER S WITH CIRCUMFLEX
15E aCAPITAL LETTER S WITH CEDILLA;aSMALL LETTER S WITH CEDILLA;aCAPITAL LETTER S WITH CARON
161 aSMALL LETTER S WITH CARON;aCAPITAL LETTER T WITH CEDILLA;aSMALL LETTER T WITH CEDILLA
164 aCAPITAL LETTER T WITH CARON;aSMALL LETTER T WITH CARON;aCAPITAL LETTER T WITH STROKE
167 aSMALL LETTER T WITH STROKE;aCAPITAL LETTER U WITH TILDE;aSMALL LETTER U WITH TILDE
16A aCAPITAL LETTER U WITH MACRON;aSMALL LETTER U WITH MACRON;aCAPITAL LETTER U WITH BREVE
16D aSMALL LETTER U WITH BREVE;aCAPITAL LETTER U WITH RING ABOVE;aSMALL LETTER U WITH RING ABOVE
170 aCAPITAL LETTER U WITH DOUBLE ACUTE;aSMALL LETTER U WITH DOUBLE ACUTE
172 aCAPITAL LETTER U WITH OGONEK;aSMALL LETTER U WITH OGONEK;aCAPITAL LETTER W WITH CIRCUMFLEX
175 aSMALL LETTER W WITH CIRCUMFLEX;aCAPITAL LETTER Y WITH CIRCUMFLEX
177 aSMALL LETTER Y WITH CIRCUMFLEX;aCAPITAL LETTER Y WITH DIAERESIS;cZ WITH ACUTE
17A aSMALL LETTER Z WITH ACUTE;aCAPITAL LETTER Z WITH DOT ABOVE;aSMALL LETTER Z WITH DOT ABOVE
17D aCAPITAL LETTER Z WITH CARON;aSMALL LETTER Z WITH CARON;cLONG S;cB WITH STROKE
181 aCAPITAL LETTER B WITH HOOK;eTOPBAR;aSMALL LETTER B WITH TOPBAR;aCAPITAL LETTER TONE SIX
185 aSMALL LETTER TONE SIX;aCAPITAL LETTER OPEN O;cC WITH HOOK;aSMALL LETTER C WITH HOOK
189 aCAPITAL LETTER AFRICAN D;cD WITH HOOK;eTOPBAR;aSMALL LETTER D WITH TOPBAR;cTURNED DELTA
18E aCAPITAL LETTER REVERSED E;cSCHWA;cOPEN E;cF WITH HOOK;aSMALL LETTER F WITH HOOK
193 aCAPITAL LETTER G WITH HOOK;cGAMMA;aSMALL LETTER HV;aCAPITAL LETTER IOTA;cI WITH STROKE
198 cK WITH HOOK;aSMALL LETTER K WITH HOOK;cL WITH BAR;cLAMBDA WITH STROKE
19C aCAPITAL LETTER TURNED M;cN WITH LEFT HOOK;aSMALL LETTER N WITH LONG RIGHT LEG
19F aCAPITAL LETTER O WITH MIDDLE TILDE;eHORN;aSMALL LETTER O WITH HORN;aCAPITAL LETTER OI
1A3 aSMALL LETTER OI;aCAPITAL LETTER P WITH HOOK;aSMALL LETTER P WITH HOOK;aLETTER YR
1A7 aCAPITAL LETTER TONE TWO;aSMALL LETTER TONE TWO;aCAPITAL LETTER ESH;aLETTER REVERSED ESH LOOP
1AB aSMALL LETTER T WITH PALATAL HOOK;aCAPITAL LETTER T WITH HOOK;aSMALL LETTER T WITH HOOK
1AE aCAPITAL LETTER T WITH RETROFLEX HOOK;cU WITH HORN;aSMALL LETTER U WITH HORN
1B1 aCAPITAL LETTER UPSILON;cV WITH HOOK;cY WITH HOOK;aSMALL LETTER Y WITH HOOK
1B5 aCAPITAL LETTER Z WITH STROKE;aSMALL LETTER Z WITH STROKE;aCAPITAL LETTER EZH;dREVERSED
1B9 aSMALL LETTER EZH REVERSED;dWITH TAIL;aLETTER TWO WITH STROKE;aCAPITAL LETTER TONE FIVE
1BD aSMALL LETTER TONE FIVE;aLETTER INVERTED GLOTTAL STOP WITH STROKE;bWYNN;bDENTAL CLICK
1C1 bLATERAL CLICK;bALVEOLAR CLICK;bRETROFLEX CLICK;aCAPITAL LETTER DZ WITH CARON
1C5 cD WITH SMALL LETTER Z WITH CARON;aSMALL LETTER DZ WITH CARON;aCAPITAL LETTER LJ
1C8 cL WITH SMALL LETTER J;aSMALL LETTER LJ;aCAPITAL LETTER NJ;cN WITH SMALL LETTER J
1CC aSMALL LETTER NJ;aCAPITAL LETTER A WITH CARON;aSMALL LETTER A WITH CARON
1CF aCAPITAL LETTER I WITH CARON;aSMALL LETTER I WITH CARON;aCAPITAL LETTER O WITH CARON
1D2 aSMALL LETTER O WITH CARON;aCAPITAL LETTER U WITH CARON;aSMALL LETTER U WITH CARON
1D5 aCAPITAL LETTER U WITH DIAERESIS AND MACRON;aSMALL LETTER U WITH DIAERESIS AND MACRON
1D7 aCAPITAL LETTER U WITH DIAERESIS AND ACUTE;aSMALL LETTER U WITH DIAERESIS AND ACUTE
1D9 aCAPITAL LETTER U WITH DIAERESIS AND CARON;aSMALL LETTER U WITH DIAERESIS AND CARON
1DB aCAPITAL LETTER U WITH DIAERESIS AND GRAVE;aSMALL LETTER U WITH DIAERESIS AND GRAVE;cTURNED E
1DE aCAPITAL LETTER A WITH DIAERESIS AND MACRON;aSMALL LETTER A WITH DIAERESIS AND MACRON
1E0 aCAPITAL LETTER A WITH DOT ABOVE AND MACRON;aSMALL LETTER A WITH DOT ABOVE AND MACRON
1E2 aCAPITAL LETTER AE WITH MACRON;aSMALL LETTER AE WITH MACRON;aCAPITAL LETTER G WITH STROKE
1E5 aSMALL LETTER G WITH STROKE;aCAPITAL LETTER G WITH CARON;aSMALL LETTER G WITH CARON
1E8 aCAPITAL LETTER K WITH CARON;aSMALL LETTER K WITH CARON;aCAPITAL LETTER O WITH OGONEK
1EB aSMALL LETTER O WITH OGONEK;aCAPITAL LETTER O WITH OGONEK AND MACRON
1ED aSMALL LETTER O WITH OGONEK AND MACRON;aCAPITAL LETTER EZH WITH CARON
1EF aSMALL LETTER EZH WITH CARON;cJ WITH CARON;aCAPITAL LETTER DZ;cD WITH SMALL LETTER Z
1F3 aSMALL LETTER DZ;aCAPITAL LETTER G WITH ACUTE;aSMALL LETTER G WITH ACUTE;aCAPITAL LETTER HWAIR
1F7 cWYNN;cN WITH GRAVE;aSMALL LETTER N WITH GRAVE;aCAPITAL LETTER A WITH RING ABOVE AND ACUTE
1FB aSMALL LETTER A WITH RING ABOVE AND ACUTE;aCAPITAL LETTER AE WITH ACUTE
1FD aSMALL LETTER AE WITH ACUTE;aCAPITAL LETTER O WITH STROKE AND ACUTE
1FF aSMALL LETTER O WITH STROKE AND ACUTE;aCAPITAL LETTER A WITH DOUBLE GRAVE
201 aSMALL LETTER A WITH DOUBLE GRAVE;aCAPITAL LETTER A WITH INVERTED BREVE
203 aSMALL LETTER A WITH INVERTED BREVE;aCAPITAL LETTER E WITH DOUBLE GRAVE
205 aSMALL LETTER E WITH DOUBLE GRAVE;aCAPITAL LETTER E WITH INVERTED BREVE
207 aSMALL LETTER E WITH INVERTED BREVE;aCAPITAL LETTER I WITH DOUBLE GRAVE
209 aSMALL LETTER I WITH DOUBLE GRAVE;aCAPITAL LETTER I WITH INVERTED BREVE
20B aSMALL LETTER I WITH INVERTED BREVE;aCAPITAL LETTER O WITH DOUBLE GRAVE
20D aSMALL LETTER O WITH DOUBLE GRAVE;aCAPITAL LETTER O WITH INVERTED BREVE
20F aSMALL LETTER O WITH INVERTED BREVE;aCAPITAL LETTER R WITH DOUBLE GRAVE
211 aSMALL LETTER R WITH DOUBLE GRAVE;aCAPITAL LETTER R WITH INVERTED BREVE
213 aSMALL LETTER R WITH INVERTED BREVE;aCAPITAL LETTER U WITH DOUBLE GRAVE
215 aSMALL LETTER U WITH DOUBLE GRAVE;aCAPITAL LETTER U WITH INVERTED BREVE
217 aSMALL LETTER U WITH INVERTED BREVE;aCAPITAL LETTER S WITH COMMA BELOW
219 aSMALL LETTER S WITH COMMA BELOW;aCAPITAL LETTER T WITH COMMA BELOW
21B aSMALL LETTER T WITH COMMA BELOW;aCAPITAL LETTER YOGH;aSMALL LETTER YOGH
21E aCAPITAL LETTER H WITH CARON;aSMALL LETTER H WITH CARON;aCAPITAL LETTER N WITH LONG RIGHT LEG
221 aSMALL LETTER D WITH CURL;aCAPITAL LETTER OU;aSMALL LETTER OU;aCAPITAL LETTER Z WITH HOOK
225 aSMALL LETTER Z WITH HOOK;aCAPITAL LETTER A WITH DOT ABOVE;aSMALL LETTER A WITH DOT ABOVE
228 aCAPITAL LETTER E WITH CEDILLA;aSMALL LETTER E WITH CEDILLA
22A aCAPITAL LETTER O WITH DIAERESIS AND MACRON;aSMALL LETTER O WITH DIAERESIS AND MACRON
22C aCAPITAL LETTER O WITH TILDE AND MACRON;aSMALL LETTER O WITH TILDE AND MACRON
22E aCAPITAL LETTER O WITH DOT ABOVE;aSMALL LETTER O WITH DOT ABOVE
230 aCAPITAL LETTER O WITH DOT ABOVE AND MACRON;aSMALL LETTER O WITH DOT ABOVE AND MACRON
232 aCAPITAL LETTER Y WITH MACRON;aSMALL LETTER Y WITH MACRON;cL WITH CURL;cN WITH CURL
236 cT WITH CURL;cDOTLESS J;cDB DIGRAPH;cQP DIGRAPH;aCAPITAL LETTER A WITH STROKE;cC WITH STROKE
23C aSMALL LETTER C WITH STROKE;aCAPITAL LETTER L WITH BAR;cT WITH DIAGONAL STROKE
23F aSMALL LETTER S WITH SWASH TAIL;cZ WITH SWASH TAIL;aCAPITAL LETTER GLOTTAL STOP
242 aSMALL LETTER GLOTTAL STOP;aCAPITAL LETTER B WITH STROKE;cU BAR;cTURNED V;cE WITH STROKE
247 aSMALL LETTER E WITH STROKE;aCAPITAL LETTER J WITH STROKE;aSMALL LETTER J WITH STROKE
24A aCAPITAL LETTER SMALL Q WITH HOOK TAIL;aSMALL LETTER Q WITH HOOK TAIL
24C aCAPITAL LETTER R WITH STROKE;aSMALL LETTER R WITH STROKE;aCAPITAL LETTER Y WITH STROKE
24F aSMALL LETTER Y WITH STROKE;cTURNED A;cALPHA;cTURNED ALPHA;cB WITH HOOK;cOPEN O;cC WITH CURL
256 cD WITH TAIL;eHOOK;cREVERSED E;cSCHWA;dWITH HOOK;cOPEN E;cREVERSED OPEN E;fWITH HOOK
25E cCLOSED REVERSED OPEN E;cDOTLESS J WITH STROKE;cG WITH HOOK;cSCRIPT G;aLETTER SMALL CAPITAL G
263 aSMALL LETTER GAMMA;cRAMS HORN;cTURNED H;cH WITH HOOK;cHENG WITH HOOK;cI WITH STROKE;cIOTA
26A aLETTER SMALL CAPITAL I;aSMALL LETTER L WITH MIDDLE TILDE;eBELT;eRETROFLEX HOOK;cLEZH
26F cTURNED M;eWITH LONG LEG;cM WITH HOOK;cN WITH LEFT HOOK;eRETROFLEX HOOK
274 aLETTER SMALL CAPITAL N;aSMALL LETTER BARRED O;aLETTER SMALL CAPITAL OE
277 aSMALL LETTER CLOSED OMEGA;cPHI;cTURNED R;eWITH LONG LEG;fHOOK;cR WITH LONG LEG;eTAIL
27E eFISHHOOK;cREVERSED R WITH FISHHOOK;aLETTER SMALL CAPITAL R;dINVERTED R
282 aSMALL LETTER S WITH HOOK;cESH;cDOTLESS J WITH STROKE AND HOOK;cSQUAT REVERSED ESH
286 cESH WITH CURL;cTURNED T;cT WITH RETROFLEX HOOK;cU BAR;cUPSILON;cV WITH HOOK;cTURNED V;dW;dY
28F aLETTER SMALL CAPITAL Y;aSMALL LETTER Z WITH RETROFLEX HOOK;eCURL;cEZH;dWITH CURL
294 aLETTER GLOTTAL STOP;bPHARYNGEAL VOICED FRICATIVE;bINVERTED GLOTTAL STOP;bSTRETCHED C
298 bBILABIAL CLICK;bSMALL CAPITAL B;aSMALL LETTER CLOSED OPEN E;aLETTER SMALL CAPITAL G WITH HOOK
29C dH;aSMALL LETTER J WITH CROSSED-TAIL;cTURNED K;aLETTER SMALL CAPITAL L
2A0 aSMALL LETTER Q WITH HOOK;aLETTER GLOTTAL STOP WITH STROKE;bREVERSED GLOTTAL STOP WITH STROKE
2A3 aSMALL LETTER DZ DIGRAPH;cDEZH DIGRAPH;cDZ DIGRAPH WITH CURL;cTS DIGRAPH;cTESH DIGRAPH
2A8 cTC DIGRAPH WITH CURL;cFENG DIGRAPH;cLS DIGRAPH;cLZ DIGRAPH;aLETTER BILABIAL PERCUSSIVE
2AD bBIDENTAL PERCUSSIVE;aSMALL LETTER TURNED H WITH FISHHOOK;gAND TAIL;MODIFIER LETTER SMALL H
2B1 dWITH HOOK;cJ;cR;cTURNED R;eWITH HOOK;cCAPITAL INVERTED R;cW;cY;bPRIME;bDOUBLE PRIME
2BB bTURNED COMMA;bAPOSTROPHE;bREVERSED COMMA;bRIGHT HALF RING;bLEFT HALF RING;bGLOTTAL STOP
2C1 bREVERSED GLOTTAL STOP;bLEFT ARROWHEAD;bRIGHT ARROWHEAD;bUP ARROWHEAD;bDOWN ARROWHEAD
2C6 bCIRCUMFLEX ACCENT;CARON;MODIFIER LETTER VERTICAL LINE;bMACRON;bACUTE ACCENT;bGRAVE ACCENT
2CC bLOW VERTICAL LINE;cMACRON;cGRAVE ACCENT;cACUTE ACCENT;bTRIANGULAR COLON
2D1 bHALF TRIANGULAR COLON;bCENTRED RIGHT HALF RING;cLEFT HALF RING;bUP TACK;bDOWN TACK;bPLUS SIGN
2D7 bMINUS SIGN;BREVE;DOT ABOVE;RING ABOVE;OGONEK;SMALL TILDE;DOUBLE ACUTE ACCENT
2DE MODIFIER LETTER RHOTIC HOOK;bCROSS ACCENT;bSMALL GAMMA;cL;cS;cX;cREVERSED GLOTTAL STOP
2E5 bEXTRA-HIGH TONE BAR;bHIGH TONE BAR;bMID TONE BAR;bLOW TONE BAR;bEXTRA-LOW TONE BAR
2EA bYIN DEPARTING TONE MARK;bYANG DEPARTING TONE MARK;bVOICING;bUNASPIRATED;bDOUBLE APOSTROPHE
2EF bLOW DOWN ARROWHEAD;cUP ARROWHEAD;cLEFT ARROWHEAD;cRIGHT ARROWHEAD;cRING;bMIDDLE GRAVE ACCENT
2F5 cDOUBLE GRAVE ACCENT;dACUTE ACCENT;bLOW TILDE;bRAISED COLON;bBEGIN HIGH TONE;bEND HIGH TONE
2FB bBEGIN LOW TONE;bEND LOW TONE;bSHELF;bOPEN SHELF;bLOW LEFT ARROW;COMBINING GRAVE ACCENT
301 aACUTE ACCENT;aCIRCUMFLEX ACCENT;aTILDE;aMACRON;aOVERLINE;aBREVE;aDOT ABOVE;aDIAERESIS
309 aHOOK ABOVE;aRING ABOVE;aDOUBLE ACUTE ACCENT;aCARON;aVERTICAL LINE ABOVE
30E aDOUBLE VERTICAL LINE ABOVE;bGRAVE ACCENT;aCANDRABINDU;aINVERTED BREVE;aTURNED COMMA ABOVE
313 aCOMMA ABOVE;aREVERSED COMMA ABOVE;aCOMMA ABOVE RIGHT;aGRAVE ACCENT BELOW;aACUTE ACCENT BELOW
318 aLEFT TACK BELOW;aRIGHT TACK BELOW;aLEFT ANGLE ABOVE;aHORN;aLEFT HALF RING BELOW
31D aUP TACK BELOW;aDOWN TACK BELOW;aPLUS SIGN BELOW;aMINUS SIGN BELOW;aPALATALIZED HOOK BELOW
322 aRETROFLEX HOOK BELOW;aDOT BELOW;aDIAERESIS BELOW;aRING BELOW;aCOMMA BELOW;aCEDILLA;aOGONEK
329 aVERTICAL LINE BELOW;aBRIDGE BELOW;aINVERTED DOUBLE ARCH BELOW;aCARON BELOW
32D aCIRCUMFLEX ACCENT BELOW;aBREVE BELOW;aINVERTED BREVE BELOW;aTILDE BELOW;aMACRON BELOW
332 aLOW LINE;aDOUBLE LOW LINE;aTILDE OVERLAY;aSHORT STROKE OVERLAY;aLONG STROKE OVERLAY
337 aSHORT SOLIDUS OVERLAY;aLONG SOLIDUS OVERLAY;aRIGHT HALF RING BELOW;aINVERTED BRIDGE BELOW
33B aSQUARE BELOW;aSEAGULL BELOW;aX ABOVE;aVERTICAL TILDE;aDOUBLE OVERLINE;aGRAVE TONE MARK
341 aACUTE TONE MARK;aGREEK PERISPOMENI;bKORONIS;bDIALYTIKA TONOS;bYPOGEGRAMMENI;aBRIDGE ABOVE
347 aEQUALS SIGN BELOW;aDOUBLE VERTICAL LINE BELOW;aLEFT ANGLE BELOW;aNOT TILDE ABOVE
34B aHOMOTHETIC ABOVE;aALMOST EQUAL TO ABOVE;aLEFT RIGHT ARROW BELOW;aUPWARDS ARROW BELOW
34F aGRAPHEME JOINER;aRIGHT ARROWHEAD ABOVE;aLEFT HALF RING ABOVE;aFERMATA;aX BELOW
354 aLEFT ARROWHEAD BELOW;aRIGHT ARROWHEAD BELOW;cAND UP ARROWHEAD BELOW;bHALF RING ABOVE
358 aDOT ABOVE RIGHT;aASTERISK BELOW;aDOUBLE RING BELOW;aZIGZAG ABOVE;aDOUBLE BREVE BELOW;bBREVE
35E bMACRON;cBELOW;bTILDE;bINVERTED BREVE;bRIGHTWARDS ARROW BELOW;aLATIN SMALL LETTER A;dE;dI;dO
367 dU;dC;dD;dH;dM;dR;dT;dV;dX;GREEK CAPITAL LETTER HETA;aSMALL LETTER HETA
372 aCAPITAL LETTER ARCHAIC SAMPI;aSMALL LETTER ARCHAIC SAMPI;aNUMERAL SIGN;aLOWER NUMERAL SIGN
376 aCAPITAL LETTER PAMPHYLIAN DIGAMMA;aSMALL LETTER PAMPHYLIAN DIGAMMA
37A aYPOGEGRAMMENI;aSMALL REVERSED LUNATE SIGMA SYMBOL;bDOTTED LUNATE SIGMA SYMBOL
37D bREVERSED DOTTED LUNATE SIGMA SYMBOL;aQUESTION MARK;aCAPITAL LETTER YOT
384 aTONOS;aDIALYTIKA TONOS;aCAPITAL LETTER ALPHA WITH TONOS;aANO TELEIA
388 aCAPITAL LETTER EPSILON WITH TONOS;cETA WITH TONOS;cIOTA WITH TONOS
38C cOMICRON WITH TONOS
38E cUPSILON WITH TONOS;cOMEGA WITH TONOS;aSMALL LETTER IOTA WITH DIALYTIKA AND TONOS
391 aCAPITAL LETTER ALPHA;cBETA;cGAMMA;cDELTA;cEPSILON;cZETA;cETA;cTHETA;cIOTA;cKAPPA;cLAMDA;cMU
39D cNU;cXI;cOMICRON;cPI;cRHO
3A3 cSIGMA;cTAU;cUPSILON;cPHI;cCHI;cPSI;cOMEGA;cIOTA WITH DIALYTIKA;cUPSILON WITH DIALYTIKA
3AC aSMALL LETTER ALPHA WITH TONOS;cEPSILON WITH TONOS;cETA WITH TONOS;cIOTA WITH TONOS
3B0 cUPSILON WITH DIALYTIKA AND TONOS;cALPHA;cBETA;cGAMMA;cDELTA;cEPSILON;cZETA;cETA;cTHETA;cIOTA
3BA cKAPPA;cLAMDA;cMU;cNU;cXI;cOMICRON;cPI;cRHO;cFINAL SIGMA;cSIGMA;cTAU;cUPSILON;cPHI;cCHI;cPSI
3C9 cOMEGA;cIOTA WITH DIALYTIKA;cUPSILON WITH DIALYTIKA;cOMICRON WITH TONOS;cUPSILON WITH TONOS
3CE cOMEGA WITH TONOS;aCAPITAL KAI SYMBOL;aBETA SYMBOL;aTHETA SYMBOL;aUPSILON WITH HOOK SYMBOL
3D3 cACUTE AND HOOK SYMBOL;cDIAERESIS AND HOOK SYMBOL;aPHI SYMBOL;aPI SYMBOL;aKAI SYMBOL
3D8 aLETTER ARCHAIC KOPPA;aSMALL LETTER ARCHAIC KOPPA;aLETTER STIGMA;aSMALL LETTER STIGMA
3DC aLETTER DIGAMMA;aSMALL LETTER DIGAMMA;aLETTER KOPPA;aSMALL LETTER KOPPA;aLETTER SAMPI
3E1 aSMALL LETTER SAMPI;COPTIC CAPITAL LETTER SHEI;aSMALL LETTER SHEI;aCAPITAL LETTER FEI
3E5 aSMALL LETTER FEI;aCAPITAL LETTER KHEI;aSMALL LETTER KHEI;aCAPITAL LETTER HORI
3E9 aSMALL LETTER HORI;aCAPITAL LETTER GANGIA;aSMALL LETTER GANGIA;aCAPITAL LETTER SHIMA
3ED aSMALL LETTER SHIMA;aCAPITAL LETTER DEI;aSMALL LETTER DEI;GREEK KAPPA SYMBOL;aRHO SYMBOL
3F2 aLUNATE SIGMA SYMBOL;aLETTER YOT;aCAPITAL THETA SYMBOL;aLUNATE EPSILON SYMBOL
3F6 aREVERSED LUNATE EPSILON SYMBOL;aCAPITAL LETTER SHO;aSMALL LETTER SHO
3F9 aCAPITAL LUNATE SIGMA SYMBOL;bLETTER SAN;aSMALL LETTER SAN;aRHO WITH STROKE SYMBOL
3FD aCAPITAL REVERSED LUNATE SIGMA SYMBOL;bDOTTED LUNATE SIGMA SYMBOL
3FF bREVERSED DOTTED LUNATE SIGMA SYMBOL;CYRILLIC CAPITAL LETTER IE WITH GRAVE;cIO;cDJE;cGJE
404 cUKRAINIAN IE;cDZE;cBYELORUSSIAN-UKRAINIAN I;cYI;cJE;cLJE;cNJE;cTSHE;cKJE;cI WITH GRAVE
40E cSHORT U;cDZHE;cA;cBE;cVE;cGHE;cDE;cIE;cZHE;cZE;cI;cSHORT I;cKA;cEL;cEM;cEN;cO;cPE;cER;cES;cTE
423 cU;cEF;cHA;cTSE;cCHE;cSHA;cSHCHA;cHARD SIGN;cYERU;cSOFT SIGN;cE;cYU;cYA;aSMALL LETTER A;cBE
432 cVE;cGHE;cDE;cIE;cZHE;cZE;cI;cSHORT I;cKA;cEL;cEM;cEN;cO;cPE;cER;cES;cTE;cU;cEF;cHA;cTSE;cCHE
448 cSHA;cSHCHA;cHARD SIGN;cYERU;cSOFT SIGN;cE;cYU;cYA;cIE WITH GRAVE;cIO;cDJE;cGJE;cUKRAINIAN IE
455 cDZE;cBYELORUSSIAN-UKRAINIAN I;cYI;cJE;cLJE;cNJE;cTSHE;cKJE;cI WITH GRAVE;cSHORT U;cDZHE
460 aCAPITAL LETTER OMEGA;aSMALL LETTER OMEGA;aCAPITAL LETTER YAT;aSMALL LETTER YAT
464 aCAPITAL LETTER IOTIFIED E;aSMALL LETTER IOTIFIED E;aCAPITAL LETTER LITTLE YUS
467 aSMALL LETTER LITTLE YUS;aCAPITAL LETTER IOTIFIED LITTLE YUS;aSMALL LETTER IOTIFIED LITTLE YUS
46A aCAPITAL LETTER BIG YUS;aSMALL LETTER BIG YUS;aCAPITAL LETTER IOTIFIED BIG YUS
46D aSMALL LETTER IOTIFIED BIG YUS;aCAPITAL LETTER KSI;aSMALL LETTER KSI;aCAPITAL LETTER PSI
471 aSMALL LETTER PSI;aCAPITAL LETTER FITA;aSMALL LETTER FITA;aCAPITAL LETTER IZHITSA
475 aSMALL LETTER IZHITSA;aCAPITAL LETTER IZHITSA WITH DOUBLE GRAVE ACCENT
477 aSMALL LETTER IZHITSA WITH DOUBLE GRAVE ACCENT;aCAPITAL LETTER UK;aSMALL LETTER UK
47A aCAPITAL LETTER ROUND OMEGA;aSMALL LETTER ROUND OMEGA;aCAPITAL LETTER OMEGA WITH TITLO
47D aSMALL LETTER OMEGA WITH TITLO;aCAPITAL LETTER OT;aSMALL LETTER OT;aCAPITAL LETTER KOPPA
481 aSMALL LETTER KOPPA;aTHOUSANDS SIGN;COMBINING CYRILLIC TITLO;bPALATALIZATION;bDASIA PNEUMATA
486 bPSILI PNEUMATA;bPOKRYTIE;bHUNDRED THOUSANDS SIGN;bMILLIONS SIGN
48A CYRILLIC CAPITAL LETTER SHORT I WITH TAIL;aSMALL LETTER SHORT I WITH TAIL
48C aCAPITAL LETTER SEMISOFT SIGN;aSMALL LETTER SEMISOFT SIGN;aCAPITAL LETTER ER WITH TICK
48F aSMALL LETTER ER WITH TICK;aCAPITAL LETTER GHE WITH UPTURN;aSMALL LETTER GHE WITH UPTURN
492 aCAPITAL LETTER GHE WITH STROKE;aSMALL LETTER GHE WITH STROKE
494 aCAPITAL LETTER GHE WITH MIDDLE HOOK;aSMALL LETTER GHE WITH MIDDLE HOOK
496 aCAPITAL LETTER ZHE WITH DESCENDER;aSMALL LETTER ZHE WITH DESCENDER
498 aCAPITAL LETTER ZE WITH DESCENDER;aSMALL LETTER ZE WITH DESCENDER
49A aCAPITAL LETTER KA WITH DESCENDER;aSMALL LETTER KA WITH DESCENDER
49C aCAPITAL LETTER KA WITH VERTICAL STROKE;aSMALL LETTER KA WITH VERTICAL STROKE
49E aCAPITAL LETTER KA WITH STROKE;aSMALL LETTER KA WITH STROKE;aCAPITAL LETTER BASHKIR KA
4A1 aSMALL LETTER BASHKIR KA;aCAPITAL LETTER EN WITH DESCENDER;aSMALL LETTER EN WITH DESCENDER
4A4 aCAPITAL LIGATURE EN GHE;aSMALL LIGATURE EN GHE;aCAPITAL LETTER PE WITH MIDDLE HOOK
4A7 aSMALL LETTER PE WITH MIDDLE HOOK;aCAPITAL LETTER ABKHASIAN HA;aSMALL LETTER ABKHASIAN HA
4AA aCAPITAL LETTER ES WITH DESCENDER;aSMALL LETTER ES WITH DESCENDER
4AC aCAPITAL LETTER TE WITH DESCENDER;aSMALL LETTER TE WITH DESCENDER;aCAPITAL LETTER STRAIGHT U
4AF aSMALL LETTER STRAIGHT U;aCAPITAL LETTER STRAIGHT U WITH STROKE
4B1 aSMALL LETTER STRAIGHT U WITH STROKE;aCAPITAL LETTER HA WITH DESCENDER
4B3 aSMALL LETTER HA WITH DESCENDER;aCAPITAL LIGATURE TE TSE;aSMALL LIGATURE TE TSE
4B6 aCAPITAL LETTER CHE WITH DESCENDER;aSMALL LETTER CHE WITH DESCENDER
4B8 aCAPITAL LETTER CHE WITH VERTICAL STROKE;aSMALL LETTER CHE WITH VERTICAL STROKE
4BA aCAPITAL LETTER SHHA;aSMALL LETTER SHHA;aCAPITAL LETTER ABKHASIAN CHE
4BD aSMALL LETTER ABKHASIAN CHE;aCAPITAL LETTER ABKHASIAN CHE WITH DESCENDER
4BF aSMALL LETTER ABKHASIAN CHE WITH DESCENDER;aLETTER PALOCHKA;aCAPITAL LETTER ZHE WITH BREVE
4C2 aSMALL LETTER ZHE WITH BREVE;aCAPITAL LETTER KA WITH HOOK;aSMALL LETTER KA WITH HOOK
4C5 aCAPITAL LETTER EL WITH TAIL;aSMALL LETTER EL WITH TAIL;aCAPITAL LETTER EN WITH HOOK
4C8 aSMALL LETTER EN WITH HOOK;aCAPITAL LETTER EN WITH TAIL;aSMALL LETTER EN WITH TAIL
4CB aCAPITAL LETTER KHAKASSIAN CHE;aSMALL LETTER KHAKASSIAN CHE;aCAPITAL LETTER EM WITH TAIL
4CE aSMALL LETTER EM WITH TAIL;cPALOCHKA;aCAPITAL LETTER A WITH BREVE;aSMALL LETTER A WITH BREVE
4D2 aCAPITAL LETTER A WITH DIAERESIS;aSMALL LETTER A WITH DIAERESIS;aCAPITAL LIGATURE A IE
4D5 aSMALL LIGATURE A IE;aCAPITAL LETTER IE WITH BREVE;aSMALL LETTER IE WITH BREVE
4D8 aCAPITAL LETTER SCHWA;aSMALL LETTER SCHWA;aCAPITAL LETTER SCHWA WITH DIAERESIS
4DB aSMALL LETTER SCHWA WITH DIAERESIS;aCAPITAL LETTER ZHE WITH DIAERESIS
4DD aSMALL LETTER ZHE WITH DIAERESIS;aCAPITAL LETTER ZE WITH DIAERESIS
4DF aSMALL LETTER ZE WITH DIAERESIS;aCAPITAL LETTER ABKHASIAN DZE;aSMALL LETTER ABKHASIAN DZE
4E2 aCAPITAL LETTER I WITH MACRON;aSMALL LETTER I WITH MACRON;aCAPITAL LETTER I WITH DIAERESIS
4E5 aSMALL LETTER I WITH DIAERESIS;aCAPITAL LETTER O WITH DIAERESIS;aSMALL LETTER O WITH DIAERESIS
4E8 aCAPITAL LETTER BARRED O;aSMALL LETTER BARRED O;aCAPITAL LETTER BARRED O WITH DIAERESIS
4EB aSMALL LETTER BARRED O WITH DIAERESIS;aCAPITAL LETTER E WITH DIAERESIS
4ED aSMALL LETTER E WITH DIAERESIS;aCAPITAL LETTER U WITH MACRON;aSMALL LETTER U WITH MACRON
4F0 aCAPITAL LETTER U WITH DIAERESIS;aSMALL LETTER U WITH DIAERESIS
4F2 aCAPITAL LETTER U WITH DOUBLE ACUTE;aSMALL LETTER U WITH DOUBLE ACUTE
4F4 aCAPITAL LETTER CHE WITH DIAERESIS;aSMALL LETTER CHE WITH DIAERESIS
4F6 aCAPITAL LETTER GHE WITH DESCENDER;aSMALL LETTER GHE WITH DESCENDER
4F8 aCAPITAL LETTER YERU WITH DIAERESIS;aSMALL LETTER YERU WITH DIAERESIS
4FA aCAPITAL LETTER GHE WITH STROKE AND HOOK;aSMALL LETTER GHE WITH STROKE AND HOOK
4FC aCAPITAL LETTER HA WITH HOOK;aSMALL LETTER HA WITH HOOK;aCAPITAL LETTER HA WITH STROKE
4FF aSMALL LETTER HA WITH STROKE;aCAPITAL LETTER KOMI DE;aSMALL LETTER KOMI DE
502 aCAPITAL LETTER KOMI DJE;aSMALL LETTER KOMI DJE;aCAPITAL LETTER KOMI ZJE
505 aSMALL LETTER KOMI ZJE;aCAPITAL LETTER KOMI DZJE;aSMALL LETTER KOMI DZJE
508 aCAPITAL LETTER KOMI LJE;aSMALL LETTER KOMI LJE;aCAPITAL LETTER KOMI NJE
50B aSMALL LETTER KOMI NJE;aCAPITAL LETTER KOMI SJE;aSMALL LETTER KOMI SJE
50E aCAPITAL LETTER KOMI TJE;aSMALL LETTER KOMI TJE;aCAPITAL LETTER REVERSED ZE
511 aSMALL LETTER REVERSED ZE;aCAPITAL LETTER EL WITH HOOK;aSMALL LETTER EL WITH HOOK
514 aCAPITAL LETTER LHA;aSMALL LETTER LHA;aCAPITAL LETTER RHA;aSMALL LETTER RHA
518 aCAPITAL LETTER YAE;aSMALL LETTER YAE;aCAPITAL LETTER QA;aSMALL LETTER QA;aCAPITAL LETTER WE
51D aSMALL LETTER WE;aCAPITAL LETTER ALEUT KA;aSMALL LETTER ALEUT KA
520 aCAPITAL LETTER EL WITH MIDDLE HOOK;aSMALL LETTER EL WITH MIDDLE HOOK
522 aCAPITAL LETTER EN WITH MIDDLE HOOK;aSMALL LETTER EN WITH MIDDLE HOOK
524 aCAPITAL LETTER PE WITH DESCENDER;aSMALL LETTER PE WITH DESCENDER
526 aCAPITAL LETTER SHHA WITH DESCENDER;aSMALL LETTER SHHA WITH DESCENDER
528 aCAPITAL LETTER EN WITH LEFT HOOK;aSMALL LETTER EN WITH LEFT HOOK;aCAPITAL LETTER DZZHE
52B aSMALL LETTER DZZHE;aCAPITAL LETTER DCHE;aSMALL LETTER DCHE;aCAPITAL LETTER EL WITH DESCENDER
52F aSMALL LETTER EL WITH DESCENDER
531 ARMENIAN CAPITAL LETTER AYB;cBEN;cGIM;cDA;cECH;cZA;cEH;cET;cTO;cZHE;cINI;cLIWN;cXEH;cCA;cKEN
540 cHO;cJA;cGHAD;cCHEH;cMEN;cYI;cNOW;cSHA;cVO;cCHA;cPEH;cJHEH;cRA;cSEH;cVEW;cTIWN;cREH;cCO;cYIWN
553 cPIWR;cKEH;cOH;cFEH
559 aMODIFIER LETTER LEFT HALF RING;aAPOSTROPHE;aEMPHASIS MARK;aEXCLAMATION MARK;aCOMMA
55E aQUESTION MARK;aABBREVIATION MARK;aSMALL LETTER TURNED AYB;cAYB;cBEN;cGIM;cDA;cECH;cZA;cEH;cET
569 cTO;cZHE;cINI;cLIWN;cXEH;cCA;cKEN;cHO;cJA;cGHAD;cCHEH;cMEN;cYI;cNOW;cSHA;cVO;cCHA;cPEH;cJHEH
57C cRA;cSEH;cVEW;cTIWN;cREH;cCO;cYIWN;cPIWR;cKEH;cOH;cFEH;bLIGATURE ECH YIWN
588 bLETTER YI WITH STROKE;aFULL STOP;aHYPHEN
58D RIGHT-FACING ARMENIAN ETERNITY SIGN;LEFT-FACING ARMENIAN ETERNITY SIGN;ARMENIAN DRAM SIGN"

/-- The names of phonetic letters and letters with several marks. -/
def phonetics : String :=
"1D00 LATIN LETTER SMALL CAPITAL A;dAE;aSMALL LETTER TURNED AE;aLETTER SMALL CAPITAL BARRED B;dC;dD
1D06 dETH;dE;aSMALL LETTER TURNED OPEN E;dI;aLETTER SMALL CAPITAL J;dK;dL WITH STROKE;dM
1D0E dREVERSED N;dO;dOPEN O;aSMALL LETTER SIDEWAYS O;dOPEN O;dO WITH STROKE;cTURNED OE
1D15 aLETTER SMALL CAPITAL OU;aSMALL LETTER TOP HALF O;cBOTTOM HALF O;aLETTER SMALL CAPITAL P
1D19 dREVERSED R;dTURNED R;dT;dU;aSMALL LETTER SIDEWAYS U;dDIAERESIZED U;dTURNED M
1D20 aLETTER SMALL CAPITAL V;dW;dZ;dEZH;bVOICED LARYNGEAL SPIRANT;bAIN
1D26 GREEK LETTER SMALL CAPITAL GAMMA;dLAMDA;dPI;dRHO;dPSI;CYRILLIC LETTER SMALL CAPITAL EL
1D2C MODIFIER LETTER CAPITAL A;cAE;cB;cBARRED B;cD;cE;cREVERSED E;cG;cH;cI;cJ;cK;cL;cM;cN
1D3B cREVERSED N;cO;cOU;cP;cR;cT;cU;cW;bSMALL A;cTURNED A;cALPHA;cTURNED AE;cB;cD;cE;cSCHWA
1D4B cOPEN E;cTURNED OPEN E;cG;cTURNED I;cK;cM;cENG;cO;cOPEN O;cTOP HALF O;cBOTTOM HALF O;cP;cT;cU
1D59 cSIDEWAYS U;cTURNED M;cV;cAIN;cBETA;cGREEK GAMMA;cDELTA;cGREEK PHI;cCHI
1D62 LATIN SUBSCRIPT SMALL LETTER I;dR;dU;dV;GREEK SUBSCRIPT SMALL LETTER BETA;dGAMMA;dRHO;dPHI
1D6A dCHI;LATIN SMALL LETTER UE;cB WITH MIDDLE TILDE;cD WITH MIDDLE TILDE;cF WITH MIDDLE TILDE
1D6F cM WITH MIDDLE TILDE;cN WITH MIDDLE TILDE;cP WITH MIDDLE TILDE;cR WITH MIDDLE TILDE
1D73 eFISHHOOK AND MIDDLE TILDE;cS WITH MIDDLE TILDE;cT WITH MIDDLE TILDE;cZ WITH MIDDLE TILDE
1D77 cTURNED G;MODIFIER LETTER CYRILLIC EN;LATIN SMALL LETTER INSULAR G;cTH WITH STRIKETHROUGH
1D7B bCAPITAL LETTER I WITH STROKE;bLETTER IOTA WITH STROKE;cP WITH STROKE
1D7E bCAPITAL LETTER U WITH STROKE;bLETTER UPSILON WITH STROKE;cB WITH PALATAL HOOK
1D81 cD WITH PALATAL HOOK;cF WITH PALATAL HOOK;cG WITH PALATAL HOOK;cK WITH PALATAL HOOK
1D85 cL WITH PALATAL HOOK;cM WITH PALATAL HOOK;cN WITH PALATAL HOOK;cP WITH PALATAL HOOK
1D89 cR WITH PALATAL HOOK;cS WITH PALATAL HOOK;cESH WITH PALATAL HOOK;cV WITH PALATAL HOOK
1D8D cX WITH PALATAL HOOK;cZ WITH PALATAL HOOK;cA WITH RETROFLEX HOOK;cALPHA WITH RETROFLEX HOOK
1D91 cD WITH HOOK AND TAIL;cE WITH RETROFLEX HOOK;cOPEN E WITH RETROFLEX HOOK
1D94 cREVERSED OPEN E WITH RETROFLEX HOOK;cSCHWA WITH RETROFLEX HOOK;cI WITH RETROFLEX HOOK
1D97 cOPEN O WITH RETROFLEX HOOK;cESH WITH RETROFLEX HOOK;cU WITH RETROFLEX HOOK
1D9A cEZH WITH RETROFLEX HOOK;MODIFIER LETTER SMALL TURNED ALPHA;cC;dWITH CURL;cETH
1D9F cREVERSED OPEN E;cF;cDOTLESS J WITH STROKE;cSCRIPT G;cTURNED H;cI WITH STROKE;cIOTA
1DA6 cCAPITAL I;eWITH STROKE;cJ WITH CROSSED-TAIL;cL WITH RETROFLEX HOOK;ePALATAL HOOK;cCAPITAL L
1DAC cM WITH HOOK;cTURNED M WITH LONG LEG;cN WITH LEFT HOOK;eRETROFLEX HOOK;cCAPITAL N;cBARRED O
1DB2 cPHI;cS WITH HOOK;cESH;cT WITH PALATAL HOOK;cU BAR;cUPSILON;cCAPITAL U;cV WITH HOOK;cTURNED V
1DBB cZ;dWITH RETROFLEX HOOK;eCURL;cEZH;cTHETA;COMBINING DOTTED GRAVE ACCENT;bACUTE ACCENT
1DC2 aSNAKE BELOW;aSUSPENSION MARK;aMACRON-ACUTE;aGRAVE-MACRON;aMACRON-GRAVE;aACUTE-MACRON
1DC8 aGRAVE-ACUTE-GRAVE;aACUTE-GRAVE-ACUTE;aLATIN SMALL LETTER R BELOW;aBREVE-MACRON;aMACRON-BREVE
1DCD aDOUBLE CIRCUMFLEX ABOVE;aOGONEK ABOVE;aZIGZAG BELOW;aIS BELOW;aUR ABOVE;aUS ABOVE
1DD3 aLATIN SMALL LETTER FLATTENED OPEN A ABOVE;dAE;dAO;dAV;dC CEDILLA;dINSULAR D;dETH;dG
1DDB bLETTER SMALL CAPITAL G;bSMALL LETTER K;dL;bLETTER SMALL CAPITAL L;eM;bSMALL LETTER N
1DE1 bLETTER SMALL CAPITAL N;eR;bSMALL LETTER R ROTUNDA;dS;dLONG S;dZ;dALPHA;dB;dBETA;dSCHWA;dF
1DEC dL WITH DOUBLE MIDDLE TILDE;dO WITH LIGHT CENTRALIZATION STROKE;dP;dESH
1DF0 dU WITH LIGHT CENTRALIZATION STROKE;dW;dA WITH DIAERESIS;dO WITH DIAERESIS;dU WITH DIAERESIS
1DF5 aUP TACK ABOVE;aKAVYKA ABOVE RIGHT;cLEFT;aDOT ABOVE LEFT;aWIDE INVERTED BRIDGE BELOW
1DFA aDOT BELOW LEFT;aDELETION MARK;aDOUBLE INVERTED BREVE BELOW;aALMOST EQUAL TO BELOW
1DFE aLEFT ARROWHEAD ABOVE;aRIGHT ARROWHEAD AND DOWN ARROWHEAD BELOW
1E00 LATIN CAPITAL LETTER A WITH RING BELOW;aSMALL LETTER A WITH RING BELOW
1E02 aCAPITAL LETTER B WITH DOT ABOVE;aSMALL LETTER B WITH DOT ABOVE
1E04 aCAPITAL LETTER B WITH DOT BELOW;aSMALL LETTER B WITH DOT BELOW
1E06 aCAPITAL LETTER B WITH LINE BELOW;aSMALL LETTER B WITH LINE BELOW
1E08 aCAPITAL LETTER C WITH CEDILLA AND ACUTE;aSMALL LETTER C WITH CEDILLA AND ACUTE
1E0A aCAPITAL LETTER D WITH DOT ABOVE;aSMALL LETTER D WITH DOT ABOVE
1E0C aCAPITAL LETTER D WITH DOT BELOW;aSMALL LETTER D WITH DOT BELOW
1E0E aCAPITAL LETTER D WITH LINE BELOW;aSMALL LETTER D WITH LINE BELOW
1E10 aCAPITAL LETTER D WITH CEDILLA;aSMALL LETTER D WITH CEDILLA
1E12 aCAPITAL LETTER D WITH CIRCUMFLEX BELOW;aSMALL LETTER D WITH CIRCUMFLEX BELOW
1E14 aCAPITAL LETTER E WITH MACRON AND GRAVE;aSMALL LETTER E WITH MACRON AND GRAVE
1E16 aCAPITAL LETTER E WITH MACRON AND ACUTE;aSMALL LETTER E WITH MACRON AND ACUTE
1E18 aCAPITAL LETTER E WITH CIRCUMFLEX BELOW;aSMALL LETTER E WITH CIRCUMFLEX BELOW
1E1A aCAPITAL LETTER E WITH TILDE BELOW;aSMALL LETTER E WITH TILDE BELOW
1E1C aCAPITAL LETTER E WITH CEDILLA AND BREVE;aSMALL LETTER E WITH CEDILLA AND BREVE
1E1E aCAPITAL LETTER F WITH DOT ABOVE;aSMALL LETTER F WITH DOT ABOVE;aCAPITAL LETTER G WITH MACRON
1E21 aSMALL LETTER G WITH MACRON;aCAPITAL LETTER H WITH DOT ABOVE;aSMALL LETTER H WITH DOT ABOVE
1E24 aCAPITAL LETTER H WITH DOT BELOW;aSMALL LETTER H WITH DOT BELOW
1E26 aCAPITAL LETTER H WITH DIAERESIS;aSMALL LETTER H WITH DIAERESIS
1E28 aCAPITAL LETTER H WITH CEDILLA;aSMALL LETTER H WITH CEDILLA
1E2A aCAPITAL LETTER H WITH BREVE BELOW;aSMALL LETTER H WITH BREVE BELOW
1E2C aCAPITAL LETTER I WITH TILDE BELOW;aSMALL LETTER I WITH TILDE BELOW
1E2E aCAPITAL LETTER I WITH DIAERESIS AND ACUTE;aSMALL LETTER I WITH DIAERESIS AND ACUTE
1E30 aCAPITAL LETTER K WITH ACUTE;aSMALL LETTER K WITH ACUTE;aCAPITAL LETTER K WITH DOT BELOW
1E33 aSMALL LETTER K WITH DOT BELOW;aCAPITAL LETTER K WITH LINE BELOW
1E35 aSMALL LETTER K WITH LINE BELOW;aCAPITAL LETTER L WITH DOT BELOW
1E37 aSMALL LETTER L WITH DOT BELOW;aCAPITAL LETTER L WITH DOT BELOW AND MACRON
1E39 aSMALL LETTER L WITH DOT BELOW AND MACRON;aCAPITAL LETTER L WITH LINE BELOW
1E3B aSMALL LETTER L WITH LINE BELOW;aCAPITAL LETTER L WITH CIRCUMFLEX BELOW
1E3D aSMALL LETTER L WITH CIRCUMFLEX BELOW;aCAPITAL LETTER M WITH ACUTE;aSMALL LETTER M WITH ACUTE
1E40 aCAPITAL LETTER M WITH DOT ABOVE;aSMALL LETTER M WITH DOT ABOVE
1E42 aCAPITAL LETTER M WITH DOT BELOW;aSMALL LETTER M WITH DOT BELOW
1E44 aCAPITAL LETTER N WITH DOT ABOVE;aSMALL LETTER N WITH DOT ABOVE
1E46 aCAPITAL LETTER N WITH DOT BELOW;aSMALL LETTER N WITH DOT BELOW
1E48 aCAPITAL LETTER N WITH LINE BELOW;aSMALL LETTER N WITH LINE BELOW
1E4A aCAPITAL LETTER N WITH CIRCUMFLEX BELOW;aSMALL LETTER N WITH CIRCUMFLEX BELOW
1E4C aCAPITAL LETTER O WITH TILDE AND ACUTE;aSMALL LETTER O WITH TILDE AND ACUTE
1E4E aCAPITAL LETTER O WITH TILDE AND DIAERESIS;aSMALL LETTER O WITH TILDE AND DIAERESIS
1E50 aCAPITAL LETTER O WITH MACRON AND GRAVE;aSMALL LETTER O WITH MACRON AND GRAVE
1E52 aCAPITAL LETTER O WITH MACRON AND ACUTE;aSMALL LETTER O WITH MACRON AND ACUTE
1E54 aCAPITAL LETTER P WITH ACUTE;aSMALL LETTER P WITH ACUTE;aCAPITAL LETTER P WITH DOT ABOVE
1E57 aSMALL LETTER P WITH DOT ABOVE;aCAPITAL LETTER R WITH DOT ABOVE
1E59 aSMALL LETTER R WITH DOT ABOVE;aCAPITAL LETTER R WITH DOT BELOW
1E5B aSMALL LETTER R WITH DOT BELOW;aCAPITAL LETTER R WITH DOT BELOW AND MACRON
1E5D aSMALL LETTER R WITH DOT BELOW AND MACRON;aCAPITAL LETTER R WITH LINE BELOW
1E5F aSMALL LETTER R WITH LINE BELOW;aCAPITAL LETTER S WITH DOT ABOVE
1E61 aSMALL LETTER S WITH DOT ABOVE;aCAPITAL LETTER S WITH DOT BELOW
1E63 aSMALL LETTER S WITH DOT BELOW;aCAPITAL LETTER S WITH ACUTE AND DOT ABOVE
1E65 aSMALL LETTER S WITH ACUTE AND DOT ABOVE;aCAPITAL LETTER S WITH CARON AND DOT ABOVE
1E67 aSMALL LETTER S WITH CARON AND DOT ABOVE;aCAPITAL LETTER S WITH DOT BELOW AND DOT ABOVE
1E69 aSMALL LETTER S WITH DOT BELOW AND DOT ABOVE;aCAPITAL LETTER T WITH DOT ABOVE
1E6B aSMALL LETTER T WITH DOT ABOVE;aCAPITAL LETTER T WITH DOT BELOW
1E6D aSMALL LETTER T WITH DOT BELOW;aCAPITAL LETTER T WITH LINE BELOW
1E6F aSMALL LETTER T WITH LINE BELOW;aCAPITAL LETTER T WITH CIRCUMFLEX BELOW
1E71 aSMALL LETTER T WITH CIRCUMFLEX BELOW;aCAPITAL LETTER U WITH DIAERESIS BELOW
1E73 aSMALL LETTER U WITH DIAERESIS BELOW;aCAPITAL LETTER U WITH TILDE BELOW
1E75 aSMALL LETTER U WITH TILDE BELOW;aCAPITAL LETTER U WITH CIRCUMFLEX BELOW
1E77 aSMALL LETTER U WITH CIRCUMFLEX BELOW;aCAPITAL LETTER U WITH TILDE AND ACUTE
1E79 aSMALL LETTER U WITH TILDE AND ACUTE;aCAPITAL LETTER U WITH MACRON AND DIAERESIS
1E7B aSMALL LETTER U WITH MACRON AND DIAERESIS;aCAPITAL LETTER V WITH TILDE
1E7D aSMALL LETTER V WITH TILDE;aCAPITAL LETTER V WITH DOT BELOW;aSMALL LETTER V WITH DOT BELOW
1E80 aCAPITAL LETTER W WITH GRAVE;aSMALL LETTER W WITH GRAVE;aCAPITAL LETTER W WITH ACUTE
1E83 aSMALL LETTER W WITH ACUTE;aCAPITAL LETTER W WITH DIAERESIS;aSMALL LETTER W WITH DIAERESIS
1E86 aCAPITAL LETTER W WITH DOT ABOVE;aSMALL LETTER W WITH DOT ABOVE
1E88 aCAPITAL LETTER W WITH DOT BELOW;aSMALL LETTER W WITH DOT BELOW
1E8A aCAPITAL LETTER X WITH DOT ABOVE;aSMALL LETTER X WITH DOT ABOVE
1E8C aCAPITAL LETTER X WITH DIAERESIS;aSMALL LETTER X WITH DIAERESIS
1E8E aCAPITAL LETTER Y WITH DOT ABOVE;aSMALL LETTER Y WITH DOT ABOVE
1E90 aCAPITAL LETTER Z WITH CIRCUMFLEX;aSMALL LETTER Z WITH CIRCUMFLEX
1E92 aCAPITAL LETTER Z WITH DOT BELOW;aSMALL LETTER Z WITH DOT BELOW
1E94 aCAPITAL LETTER Z WITH LINE BELOW;aSMALL LETTER Z WITH LINE BELOW;cH WITH LINE BELOW
1E97 cT WITH DIAERESIS;cW WITH RING ABOVE;cY WITH RING ABOVE;cA WITH RIGHT HALF RING
1E9B cLONG S WITH DOT ABOVE;fDIAGONAL STROKE;fHIGH STROKE;aCAPITAL LETTER SHARP S
1E9F aSMALL LETTER DELTA;aCAPITAL LETTER A WITH DOT BELOW;aSMALL LETTER A WITH DOT BELOW
1EA2 aCAPITAL LETTER A WITH HOOK ABOVE;aSMALL LETTER A WITH HOOK ABOVE
1EA4 aCAPITAL LETTER A WITH CIRCUMFLEX AND ACUTE;aSMALL LETTER A WITH CIRCUMFLEX AND ACUTE
1EA6 aCAPITAL LETTER A WITH CIRCUMFLEX AND GRAVE;aSMALL LETTER A WITH CIRCUMFLEX AND GRAVE
1EA8 aCAPITAL LETTER A WITH CIRCUMFLEX AND HOOK ABOVE
1EA9 aSMALL LETTER A WITH CIRCUMFLEX AND HOOK ABOVE;aCAPITAL LETTER A WITH CIRCUMFLEX AND TILDE
1EAB aSMALL LETTER A WITH CIRCUMFLEX AND TILDE;aCAPITAL LETTER A WITH CIRCUMFLEX AND DOT BELOW
1EAD aSMALL LETTER A WITH CIRCUMFLEX AND DOT BELOW;aCAPITAL LETTER A WITH BREVE AND ACUTE
1EAF aSMALL LETTER A WITH BREVE AND ACUTE;aCAPITAL LETTER A WITH BREVE AND GRAVE
1EB1 aSMALL LETTER A WITH BREVE AND GRAVE;aCAPITAL LETTER A WITH BREVE AND HOOK ABOVE
1EB3 aSMALL LETTER A WITH BREVE AND HOOK ABOVE;aCAPITAL LETTER A WITH BREVE AND TILDE
1EB5 aSMALL LETTER A WITH BREVE AND TILDE;aCAPITAL LETTER A WITH BREVE AND DOT BELOW
1EB7 aSMALL LETTER A WITH BREVE AND DOT BELOW;aCAPITAL LETTER E WITH DOT BELOW
1EB9 aSMALL LETTER E WITH DOT BELOW;aCAPITAL LETTER E WITH HOOK ABOVE
1EBB aSMALL LETTER E WITH HOOK ABOVE;aCAPITAL LETTER E WITH TILDE;aSMALL LETTER E WITH TILDE
1EBE aCAPITAL LETTER E WITH CIRCUMFLEX AND ACUTE;aSMALL LETTER E WITH CIRCUMFLEX AND ACUTE
1EC0 aCAPITAL LETTER E WITH CIRCUMFLEX AND GRAVE;aSMALL LETTER E WITH CIRCUMFLEX AND GRAVE
1EC2 aCAPITAL LETTER E WITH CIRCUMFLEX AND HOOK ABOVE
1EC3 aSMALL LETTER E WITH CIRCUMFLEX AND HOOK ABOVE;aCAPITAL LETTER E WITH CIRCUMFLEX AND TILDE
1EC5 aSMALL LETTER E WITH CIRCUMFLEX AND TILDE;aCAPITAL LETTER E WITH CIRCUMFLEX AND DOT BELOW
1EC7 aSMALL LETTER E WITH CIRCUMFLEX AND DOT BELOW;aCAPITAL LETTER I WITH HOOK ABOVE
1EC9 aSMALL LETTER I WITH HOOK ABOVE;aCAPITAL LETTER I WITH DOT BELOW
1ECB aSMALL LETTER I WITH DOT BELOW;aCAPITAL LETTER O WITH DOT BELOW
1ECD aSMALL LETTER O WITH DOT BELOW;aCAPITAL LETTER O WITH HOOK ABOVE
1ECF aSMALL LETTER O WITH HOOK ABOVE;aCAPITAL LETTER O WITH CIRCUMFLEX AND ACUTE
1ED1 aSMALL LETTER O WITH CIRCUMFLEX AND ACUTE;aCAPITAL LETTER O WITH CIRCUMFLEX AND GRAVE
1ED3 aSMALL LETTER O WITH CIRCUMFLEX AND GRAVE;aCAPITAL LETTER O WITH CIRCUMFLEX AND HOOK ABOVE
1ED5 aSMALL LETTER O WITH CIRCUMFLEX AND HOOK ABOVE;aCAPITAL LETTER O WITH CIRCUMFLEX AND TILDE
1ED7 aSMALL LETTER O WITH CIRCUMFLEX AND TILDE;aCAPITAL LETTER O WITH CIRCUMFLEX AND DOT BELOW
1ED9 aSMALL LETTER O WITH CIRCUMFLEX AND DOT BELOW;aCAPITAL LETTER O WITH HORN AND ACUTE
1EDB aSMALL LETTER O WITH HORN AND ACUTE;aCAPITAL LETTER O WITH HORN AND GRAVE
1EDD aSMALL LETTER O WITH HORN AND GRAVE;aCAPITAL LETTER O WITH HORN AND HOOK ABOVE
1EDF aSMALL LETTER O WITH HORN AND HOOK ABOVE;aCAPITAL LETTER O WITH HORN AND TILDE
1EE1 aSMALL LETTER O WITH HORN AND TILDE;aCAPITAL LETTER O WITH HORN AND DOT BELOW
1EE3 aSMALL LETTER O WITH HORN AND DOT BELOW;aCAPITAL LETTER U WITH DOT BELOW
1EE5 aSMALL LETTER U WITH DOT BELOW;aCAPITAL LETTER U WITH HOOK ABOVE
1EE7 aSMALL LETTER U WITH HOOK ABOVE;aCAPITAL LETTER U WITH HORN AND ACUTE
1EE9 aSMALL LETTER U WITH HORN AND ACUTE;aCAPITAL LETTER U WITH HORN AND GRAVE
1EEB aSMALL LETTER U WITH HORN AND GRAVE;aCAPITAL LETTER U WITH HORN AND HOOK ABOVE
1EED aSMALL LETTER U WITH HORN AND HOOK ABOVE;aCAPITAL LETTER U WITH HORN AND TILDE
1EEF aSMALL LETTER U WITH HORN AND TILDE;aCAPITAL LETTER U WITH HORN AND DOT BELOW
1EF1 aSMALL LETTER U WITH HORN AND DOT BELOW;aCAPITAL LETTER Y WITH GRAVE
1EF3 aSMALL LETTER Y WITH GRAVE;aCAPITAL LETTER Y WITH DOT BELOW;aSMALL LETTER Y WITH DOT BELOW
1EF6 aCAPITAL LETTER Y WITH HOOK ABOVE;aSMALL LETTER Y WITH HOOK ABOVE
1EF8 aCAPITAL LETTER Y WITH TILDE;aSMALL LETTER Y WITH TILDE;aCAPITAL LETTER MIDDLE-WELSH LL
1EFB aSMALL LETTER MIDDLE-WELSH LL;aCAPITAL LETTER MIDDLE-WELSH V;aSMALL LETTER MIDDLE-WELSH V
1EFE aCAPITAL LETTER Y WITH LOOP;aSMALL LETTER Y WITH LOOP;GREEK SMALL LETTER ALPHA WITH PSILI
1F01 eDASIA;ePSILI AND VARIA;eDASIA AND VARIA;ePSILI AND OXIA;eDASIA AND OXIA
1F06 ePSILI AND PERISPOMENI;eDASIA AND PERISPOMENI;aCAPITAL LETTER ALPHA WITH PSILI;eDASIA
1F0A ePSILI AND VARIA;eDASIA AND VARIA;ePSILI AND OXIA;eDASIA AND OXIA;ePSILI AND PERISPOMENI
1F0F eDASIA AND PERISPOMENI;aSMALL LETTER EPSILON WITH PSILI;eDASIA;ePSILI AND VARIA
1F13 eDASIA AND VARIA;ePSILI AND OXIA;eDASIA AND OXIA
1F18 aCAPITAL LETTER EPSILON WITH PSILI;eDASIA;ePSILI AND VARIA;eDASIA AND VARIA;ePSILI AND OXIA
1F1D eDASIA AND OXIA
1F20 aSMALL LETTER ETA WITH PSILI;eDASIA;ePSILI AND VARIA;eDASIA AND VARIA;ePSILI AND OXIA
1F25 eDASIA AND OXIA;ePSILI AND PERISPOMENI;eDASIA AND PERISPOMENI;aCAPITAL LETTER ETA WITH PSILI
1F29 eDASIA;ePSILI AND VARIA;eDASIA AND VARIA;ePSILI AND OXIA;eDASIA AND OXIA
1F2E ePSILI AND PERISPOMENI;eDASIA AND PERISPOMENI;aSMALL LETTER IOTA WITH PSILI;eDASIA
1F32 ePSILI AND VARIA;eDASIA AND VARIA;ePSILI AND OXIA;eDASIA AND OXIA;ePSILI AND PERISPOMENI
1F37 eDASIA AND PERISPOMENI;aCAPITAL LETTER IOTA WITH PSILI;eDASIA;ePSILI AND VARIA
1F3B eDASIA AND VARIA;ePSILI AND OXIA;eDASIA AND OXIA;ePSILI AND PERISPOMENI
1F3F eDASIA AND PERISPOMENI;aSMALL LETTER OMICRON WITH PSILI;eDASIA;ePSILI AND VARIA
1F43 eDASIA AND VARIA;ePSILI AND OXIA;eDASIA AND OXIA
1F48 aCAPITAL LETTER OMICRON WITH PSILI;eDASIA;ePSILI AND VARIA;eDASIA AND VARIA;ePSILI AND OXIA
1F4D eDASIA AND OXIA
1F50 aSMALL LETTER UPSILON WITH PSILI;eDASIA;ePSILI AND VARIA;eDASIA AND VARIA;ePSILI AND OXIA
1F55 eDASIA AND OXIA;ePSILI AND PERISPOMENI;eDASIA AND PERISPOMENI
1F59 aCAPITAL LETTER UPSILON WITH DASIA
1F5B fAND VARIA
1F5D gOXIA
1F5F gPERISPOMENI;aSMALL LETTER OMEGA WITH PSILI;eDASIA;ePSILI AND VARIA;eDASIA AND VARIA
1F64 ePSILI AND OXIA;eDASIA AND OXIA;ePSILI AND PERISPOMENI;eDASIA AND PERISPOMENI
1F68 aCAPITAL LETTER OMEGA WITH PSILI;eDASIA;ePSILI AND VARIA;eDASIA AND VARIA;ePSILI AND OXIA
1F6D eDASIA AND OXIA;ePSILI AND PERISPOMENI;eDASIA AND PERISPOMENI;aSMALL LETTER ALPHA WITH VARIA
1F71 eOXIA;cEPSILON WITH VARIA;eOXIA;cETA WITH VARIA;eOXIA;cIOTA WITH VARIA;eOXIA
1F78 cOMICRON WITH VARIA;eOXIA;cUPSILON WITH VARIA;eOXIA;cOMEGA WITH VARIA;eOXIA
1F80 cALPHA WITH PSILI AND YPOGEGRAMMENI;eDASIA AND YPOGEGRAMMENI
1F82 ePSILI AND VARIA AND YPOGEGRAMMENI;eDASIA AND VARIA AND YPOGEGRAMMENI
1F84 ePSILI AND OXIA AND YPOGEGRAMMENI;eDASIA AND OXIA AND YPOGEGRAMMENI
1F86 ePSILI AND PERISPOMENI AND YPOGEGRAMMENI;eDASIA AND PERISPOMENI AND YPOGEGRAMMENI
1F88 aCAPITAL LETTER ALPHA WITH PSILI AND PROSGEGRAMMENI;eDASIA AND PROSGEGRAMMENI
1F8A ePSILI AND VARIA AND PROSGEGRAMMENI;eDASIA AND VARIA AND PROSGEGRAMMENI
1F8C ePSILI AND OXIA AND PROSGEGRAMMENI;eDASIA AND OXIA AND PROSGEGRAMMENI
1F8E ePSILI AND PERISPOMENI AND PROSGEGRAMMENI;eDASIA AND PERISPOMENI AND PROSGEGRAMMENI
1F90 aSMALL LETTER ETA WITH PSILI AND YPOGEGRAMMENI;eDASIA AND YPOGEGRAMMENI
1F92 ePSILI AND VARIA AND YPOGEGRAMMENI;eDASIA AND VARIA AND YPOGEGRAMMENI
1F94 ePSILI AND OXIA AND YPOGEGRAMMENI;eDASIA AND OXIA AND YPOGEGRAMMENI
1F96 ePSILI AND PERISPOMENI AND YPOGEGRAMMENI;eDASIA AND PERISPOMENI AND YPOGEGRAMMENI
1F98 aCAPITAL LETTER ETA WITH PSILI AND PROSGEGRAMMENI;eDASIA AND PROSGEGRAMMENI
1F9A ePSILI AND VARIA AND PROSGEGRAMMENI;eDASIA AND VARIA AND PROSGEGRAMMENI
1F9C ePSILI AND OXIA AND PROSGEGRAMMENI;eDASIA AND OXIA AND PROSGEGRAMMENI
1F9E ePSILI AND PERISPOMENI AND PROSGEGRAMMENI;eDASIA AND PERISPOMENI AND PROSGEGRAMMENI
1FA0 aSMALL LETTER OMEGA WITH PSILI AND YPOGEGRAMMENI;eDASIA AND YPOGEGRAMMENI
1FA2 ePSILI AND VARIA AND YPOGEGRAMMENI;eDASIA AND VARIA AND YPOGEGRAMMENI
1FA4 ePSILI AND OXIA AND YPOGEGRAMMENI;eDASIA AND OXIA AND YPOGEGRAMMENI
1FA6 ePSILI AND PERISPOMENI AND YPOGEGRAMMENI;eDASIA AND PERISPOMENI AND YPOGEGRAMMENI
1FA8 aCAPITAL LETTER OMEGA WITH PSILI AND PROSGEGRAMMENI;eDASIA AND PROSGEGRAMMENI
1FAA ePSILI AND VARIA AND PROSGEGRAMMENI;eDASIA AND VARIA AND PROSGEGRAMMENI
1FAC ePSILI AND OXIA AND PROSGEGRAMMENI;eDASIA AND OXIA AND PROSGEGRAMMENI
1FAE ePSILI AND PERISPOMENI AND PROSGEGRAMMENI;eDASIA AND PERISPOMENI AND PROSGEGRAMMENI
1FB0 aSMALL LETTER ALPHA WITH VRACHY;eMACRON;eVARIA AND YPOGEGRAMMENI;eYPOGEGRAMMENI
1FB4 eOXIA AND YPOGEGRAMMENI
1FB6 ePERISPOMENI;fAND YPOGEGRAMMENI;aCAPITAL LETTER ALPHA WITH VRACHY;eMACRON;eVARIA;eOXIA
1FBC ePROSGEGRAMMENI;aKORONIS;aPROSGEGRAMMENI;aPSILI;aPERISPOMENI;aDIALYTIKA AND PERISPOMENI
1FC2 aSMALL LETTER ETA WITH VARIA AND YPOGEGRAMMENI;eYPOGEGRAMMENI;eOXIA AND YPOGEGRAMMENI
1FC6 ePERISPOMENI;fAND YPOGEGRAMMENI;aCAPITAL LETTER EPSILON WITH VARIA;eOXIA;cETA WITH VARIA
1FCB eOXIA;ePROSGEGRAMMENI;aPSILI AND VARIA;cOXIA;cPERISPOMENI;aSMALL LETTER IOTA WITH VRACHY
1FD1 eMACRON;eDIALYTIKA AND VARIA;gOXIA
1FD6 ePERISPOMENI;eDIALYTIKA AND PERISPOMENI;aCAPITAL LETTER IOTA WITH VRACHY;eMACRON;eVARIA;eOXIA
1FDD aDASIA AND VARIA;cOXIA;cPERISPOMENI;aSMALL LETTER UPSILON WITH VRACHY;eMACRON
1FE2 eDIALYTIKA AND VARIA;gOXIA;cRHO WITH PSILI;eDASIA;cUPSILON WITH PERISPOMENI
1FE7 eDIALYTIKA AND PERISPOMENI;aCAPITAL LETTER UPSILON WITH VRACHY;eMACRON;eVARIA;eOXIA
1FEC cRHO WITH DASIA;aDIALYTIKA AND VARIA;cOXIA;aVARIA
1FF2 aSMALL LETTER OMEGA WITH VARIA AND YPOGEGRAMMENI;eYPOGEGRAMMENI;eOXIA AND YPOGEGRAMMENI
1FF6 ePERISPOMENI;fAND YPOGEGRAMMENI;aCAPITAL LETTER OMICRON WITH VARIA;eOXIA;cOMEGA WITH VARIA
1FFB eOXIA;ePROSGEGRAMMENI;aOXIA;aDASIA"

/-- The names of forms of letters that text is shown with. -/
def presentation : String :=
"D7B0 HANGUL JUNGSEONG O-YEO;bO-O-I;bYO-A;bYO-AE;bYO-EO;bU-YEO;bU-I-I;bYU-AE;bYU-O;bEU-A;bEU-EO
D7BB bEU-E;bEU-O;bI-YA-O;bI-YAE;bI-YEO;bI-YE;bI-O-I;bI-YO;bI-YU;bI-I;bARAEA-A;bARAEA-E
D7CB aJONGSEONG NIEUN-RIEUL;bNIEUN-CHIEUCH;bSSANGTIKEUT;bSSANGTIKEUT-PIEUP;bTIKEUT-PIEUP
D7D0 bTIKEUT-SIOS;bTIKEUT-SIOS-KIYEOK;bTIKEUT-CIEUC;bTIKEUT-CHIEUCH;bTIKEUT-THIEUTH
D7D5 bRIEUL-SSANGKIYEOK;bRIEUL-KIYEOK-HIEUH;bSSANGRIEUL-KHIEUKH;bRIEUL-MIEUM-HIEUH
D7D9 bRIEUL-PIEUP-TIKEUT;bRIEUL-PIEUP-PHIEUPH;bRIEUL-YESIEUNG;bRIEUL-YEORINHIEUH-HIEUH
D7DD bKAPYEOUNRIEUL;bMIEUM-NIEUN;bMIEUM-SSANGNIEUN;bSSANGMIEUM;bMIEUM-PIEUP-SIOS;bMIEUM-CIEUC
D7E3 bPIEUP-TIKEUT;bPIEUP-RIEUL-PHIEUPH;bPIEUP-MIEUM;bSSANGPIEUP;bPIEUP-SIOS-TIKEUT;bPIEUP-CIEUC
D7E9 bPIEUP-CHIEUCH;bSIOS-MIEUM;bSIOS-KAPYEOUNPIEUP;bSSANGSIOS-KIYEOK;bSSANGSIOS-TIKEUT
D7EE bSIOS-PANSIOS;bSIOS-CIEUC;bSIOS-CHIEUCH;bSIOS-THIEUTH;bSIOS-HIEUH;bPANSIOS-PIEUP
D7F4 bPANSIOS-KAPYEOUNPIEUP;bYESIEUNG-MIEUM;bYESIEUNG-HIEUH;bCIEUC-PIEUP;bCIEUC-SSANGPIEUP
D7F9 bSSANGCIEUC;bPHIEUPH-SIOS;bPHIEUPH-THIEUTH
FB00 LATIN SMALL LIGATURE FF;cFI;cFL;cFFI;cFFL;cLONG S T;cST
FB13 ARMENIAN SMALL LIGATURE MEN NOW;dECH;dINI;cVEW NOW;cMEN XEH
FB1D HEBREW LETTER YOD WITH HIRIQ;aPOINT JUDEO-SPANISH VARIKA;aLIGATURE YIDDISH YOD YOD PATAH
FB20 aLETTER ALTERNATIVE AYIN;bWIDE ALEF;cDALET;cHE;cKAF;cLAMED;cFINAL MEM;cRESH;cTAV
FB29 bALTERNATIVE PLUS SIGN;bSHIN WITH SHIN DOT;dSIN DOT;dDAGESH AND SHIN DOT;fSIN DOT
FB2E bALEF WITH PATAH;dQAMATS;dMAPIQ;bBET WITH DAGESH;bGIMEL WITH DAGESH;bDALET WITH DAGESH
FB34 bHE WITH MAPIQ;bVAV WITH DAGESH;bZAYIN WITH DAGESH
FB38 bTET WITH DAGESH;bYOD WITH DAGESH;bFINAL KAF WITH DAGESH;bKAF WITH DAGESH;bLAMED WITH DAGESH
FB3E bMEM WITH DAGESH
FB40 bNUN WITH DAGESH;bSAMEKH WITH DAGESH
FB43 bFINAL PE WITH DAGESH;bPE WITH DAGESH
FB46 bTSADI WITH DAGESH;bQOF WITH DAGESH;bRESH WITH DAGESH;bSHIN WITH DAGESH;bTAV WITH DAGESH
FB4B bVAV WITH HOLAM;bBET WITH RAFE;bKAF WITH RAFE;bPE WITH RAFE;aLIGATURE ALEF LAMED
FB50 ARABIC LETTER ALEF WASLA ISOLATED FORM;dFINAL FORM;bBEEH ISOLATED FORM;cFINAL FORM
FB54 cINITIAL FORM;cMEDIAL FORM;bPEH ISOLATED FORM;cFINAL FORM;cINITIAL FORM;cMEDIAL FORM
FB5A bBEHEH ISOLATED FORM;cFINAL FORM;cINITIAL FORM;cMEDIAL FORM;bTTEHEH ISOLATED FORM;cFINAL FORM
FB60 cINITIAL FORM;cMEDIAL FORM;bTEHEH ISOLATED FORM;cFINAL FORM;cINITIAL FORM;cMEDIAL FORM
FB66 bTTEH ISOLATED FORM;cFINAL FORM;cINITIAL FORM;cMEDIAL FORM;bVEH ISOLATED FORM;cFINAL FORM
FB6C cINITIAL FORM;cMEDIAL FORM;bPEHEH ISOLATED FORM;cFINAL FORM;cINITIAL FORM;cMEDIAL FORM
FB72 bDYEH ISOLATED FORM;cFINAL FORM;cINITIAL FORM;cMEDIAL FORM;bNYEH ISOLATED FORM;cFINAL FORM
FB78 cINITIAL FORM;cMEDIAL FORM;bTCHEH ISOLATED FORM;cFINAL FORM;cINITIAL FORM;cMEDIAL FORM
FB7E bTCHEHEH ISOLATED FORM;cFINAL FORM;cINITIAL FORM;cMEDIAL FORM;bDDAHAL ISOLATED FORM
FB83 cFINAL FORM;bDAHAL ISOLATED FORM;cFINAL FORM;bDUL ISOLATED FORM;cFINAL FORM
FB88 bDDAL ISOLATED FORM;cFINAL FORM;bJEH ISOLATED FORM;cFINAL FORM;bRREH ISOLATED FORM
FB8D cFINAL FORM;bKEHEH ISOLATED FORM;cFINAL FORM;cINITIAL FORM;cMEDIAL FORM;bGAF ISOLATED FORM
FB93 cFINAL FORM;cINITIAL FORM;cMEDIAL FORM;bGUEH ISOLATED FORM;cFINAL FORM;cINITIAL FORM
FB99 cMEDIAL FORM;bNGOEH ISOLATED FORM;cFINAL FORM;cINITIAL FORM;cMEDIAL FORM
FB9E bNOON GHUNNA ISOLATED FORM;dFINAL FORM;bRNOON ISOLATED FORM;cFINAL FORM;cINITIAL FORM
FBA3 cMEDIAL FORM;bHEH WITH YEH ABOVE ISOLATED FORM;fFINAL FORM;cGOAL ISOLATED FORM;dFINAL FORM
FBA8 dINITIAL FORM;dMEDIAL FORM;cDOACHASHMEE ISOLATED FORM;dFINAL FORM;dINITIAL FORM;dMEDIAL FORM
FBAE bYEH BARREE ISOLATED FORM;dFINAL FORM;dWITH HAMZA ABOVE ISOLATED FORM;gFINAL FORM
FBB2 aSYMBOL DOT ABOVE;cBELOW;bTWO DOTS ABOVE;dBELOW;bTHREE DOTS ABOVE;dBELOW
FBB8 dPOINTING DOWNWARDS ABOVE;fBELOW;bFOUR DOTS ABOVE;dBELOW;bDOUBLE VERTICAL BAR BELOW
FBBD bTWO DOTS VERTICALLY ABOVE;eBELOW;bRING;bSMALL TAH ABOVE;dBELOW;bWASLA ABOVE
FBD3 aLETTER NG ISOLATED FORM;cFINAL FORM;cINITIAL FORM;cMEDIAL FORM;bU ISOLATED FORM;cFINAL FORM
FBD9 bOE ISOLATED FORM;cFINAL FORM;bYU ISOLATED FORM;cFINAL FORM;bU WITH HAMZA ABOVE ISOLATED FORM
FBDE bVE ISOLATED FORM;cFINAL FORM;bKIRGHIZ OE ISOLATED FORM;dFINAL FORM;cYU ISOLATED FORM
FBE3 dFINAL FORM;bE ISOLATED FORM;cFINAL FORM;cINITIAL FORM;cMEDIAL FORM
FBE8 bUIGHUR KAZAKH KIRGHIZ ALEF MAKSURA INITIAL FORM;gMEDIAL FORM
FBEA aLIGATURE YEH WITH HAMZA ABOVE WITH ALEF ISOLATED FORM;hFINAL FORM;gAE ISOLATED FORM
FBED hFINAL FORM;gWAW ISOLATED FORM;hFINAL FORM;gU ISOLATED FORM;hFINAL FORM;gOE ISOLATED FORM
FBF3 hFINAL FORM;gYU ISOLATED FORM;hFINAL FORM;gE ISOLATED FORM;hFINAL FORM;hINITIAL FORM
FBF9 bUIGHUR KIRGHIZ YEH WITH HAMZA ABOVE WITH ALEF MAKSURA ISOLATED FORM;kFINAL FORM
FBFB kINITIAL FORM;aLETTER FARSI YEH ISOLATED FORM;dFINAL FORM;dINITIAL FORM;dMEDIAL FORM
FC00 aLIGATURE YEH WITH HAMZA ABOVE WITH JEEM ISOLATED FORM;gHAH ISOLATED FORM;gMEEM ISOLATED FORM
FC03 gALEF MAKSURA ISOLATED FORM;gYEH ISOLATED FORM;bBEH WITH JEEM ISOLATED FORM
FC06 dHAH ISOLATED FORM;dKHAH ISOLATED FORM;dMEEM ISOLATED FORM;dALEF MAKSURA ISOLATED FORM
FC0A dYEH ISOLATED FORM;bTEH WITH JEEM ISOLATED FORM;dHAH ISOLATED FORM;dKHAH ISOLATED FORM
FC0E dMEEM ISOLATED FORM;dALEF MAKSURA ISOLATED FORM;dYEH ISOLATED FORM
FC11 bTHEH WITH JEEM ISOLATED FORM;dMEEM ISOLATED FORM;dALEF MAKSURA ISOLATED FORM
FC14 dYEH ISOLATED FORM;bJEEM WITH HAH ISOLATED FORM;dMEEM ISOLATED FORM
FC17 bHAH WITH JEEM ISOLATED FORM;dMEEM ISOLATED FORM;bKHAH WITH JEEM ISOLATED FORM
FC1A dHAH ISOLATED FORM;dMEEM ISOLATED FORM;bSEEN WITH JEEM ISOLATED FORM;dHAH ISOLATED FORM
FC1E dKHAH ISOLATED FORM;dMEEM ISOLATED FORM;bSAD WITH HAH ISOLATED FORM;dMEEM ISOLATED FORM
FC22 bDAD WITH JEEM ISOLATED FORM;dHAH ISOLATED FORM;dKHAH ISOLATED FORM;dMEEM ISOLATED FORM
FC26 bTAH WITH HAH ISOLATED FORM;dMEEM ISOLATED FORM;bZAH WITH MEEM ISOLATED FORM
FC29 bAIN WITH JEEM ISOLATED FORM;dMEEM ISOLATED FORM;bGHAIN WITH JEEM ISOLATED FORM
FC2C dMEEM ISOLATED FORM;bFEH WITH JEEM ISOLATED FORM;dHAH ISOLATED FORM;dKHAH ISOLATED FORM
FC30 dMEEM ISOLATED FORM;dALEF MAKSURA ISOLATED FORM;dYEH ISOLATED FORM
FC33 bQAF WITH HAH ISOLATED FORM;dMEEM ISOLATED FORM;dALEF MAKSURA ISOLATED FORM
FC36 dYEH ISOLATED FORM;bKAF WITH ALEF ISOLATED FORM;dJEEM ISOLATED FORM;dHAH ISOLATED FORM
FC3A dKHAH ISOLATED FORM;dLAM ISOLATED FORM;dMEEM ISOLATED FORM;dALEF MAKSURA ISOLATED FORM
FC3E dYEH ISOLATED FORM;bLAM WITH JEEM ISOLATED FORM;dHAH ISOLATED FORM;dKHAH ISOLATED FORM
FC42 dMEEM ISOLATED FORM;dALEF MAKSURA ISOLATED FORM;dYEH ISOLATED FORM
FC45 bMEEM WITH JEEM ISOLATED FORM;dHAH ISOLATED FORM;dKHAH ISOLATED FORM;dMEEM ISOLATED FORM
FC49 dALEF MAKSURA ISOLATED FORM;dYEH ISOLATED FORM;bNOON WITH JEEM ISOLATED FORM
FC4C dHAH ISOLATED FORM;dKHAH ISOLATED FORM;dMEEM ISOLATED FORM;dALEF MAKSURA ISOLATED FORM
FC50 dYEH ISOLATED FORM;bHEH WITH JEEM ISOLATED FORM;dMEEM ISOLATED FORM
FC53 dALEF MAKSURA ISOLATED FORM;dYEH ISOLATED FORM;bYEH WITH JEEM ISOLATED FORM
FC56 dHAH ISOLATED FORM;dKHAH ISOLATED FORM;dMEEM ISOLATED FORM;dALEF MAKSURA ISOLATED FORM
FC5A dYEH ISOLATED FORM;bTHAL WITH SUPERSCRIPT ALEF ISOLATED FORM
FC5C bREH WITH SUPERSCRIPT ALEF ISOLATED FORM;bALEF MAKSURA WITH SUPERSCRIPT ALEF ISOLATED FORM
FC5E bSHADDA WITH DAMMATAN ISOLATED FORM;dKASRATAN ISOLATED FORM;dFATHA ISOLATED FORM
FC61 dDAMMA ISOLATED FORM;dKASRA ISOLATED FORM;dSUPERSCRIPT ALEF ISOLATED FORM
FC64 bYEH WITH HAMZA ABOVE WITH REH FINAL FORM;gZAIN FINAL FORM;gMEEM FINAL FORM;gNOON FINAL FORM
FC68 gALEF MAKSURA FINAL FORM;gYEH FINAL FORM;bBEH WITH REH FINAL FORM;dZAIN FINAL FORM
FC6C dMEEM FINAL FORM;dNOON FINAL FORM;dALEF MAKSURA FINAL FORM;dYEH FINAL FORM
FC70 bTEH WITH REH FINAL FORM;dZAIN FINAL FORM;dMEEM FINAL FORM;dNOON FINAL FORM
FC74 dALEF MAKSURA FINAL FORM;dYEH FINAL FORM;bTHEH WITH REH FINAL FORM;dZAIN FINAL FORM
FC78 dMEEM FINAL FORM;dNOON FINAL FORM;dALEF MAKSURA FINAL FORM;dYEH FINAL FORM
FC7C bFEH WITH ALEF MAKSURA FINAL FORM;dYEH FINAL FORM;bQAF WITH ALEF MAKSURA FINAL FORM
FC7F dYEH FINAL FORM;bKAF WITH ALEF FINAL FORM;dLAM FINAL FORM;dMEEM FINAL FORM
FC83 dALEF MAKSURA FINAL FORM;dYEH FINAL FORM;bLAM WITH MEEM FINAL FORM;dALEF MAKSURA FINAL FORM
FC87 dYEH FINAL FORM;bMEEM WITH ALEF FINAL FORM;dMEEM FINAL FORM;bNOON WITH REH FINAL FORM
FC8B dZAIN FINAL FORM;dMEEM FINAL FORM;dNOON FINAL FORM;dALEF MAKSURA FINAL FORM;dYEH FINAL FORM
FC90 bALEF MAKSURA WITH SUPERSCRIPT ALEF FINAL FORM;bYEH WITH REH FINAL FORM;dZAIN FINAL FORM
FC93 dMEEM FINAL FORM;dNOON FINAL FORM;dALEF MAKSURA FINAL FORM;dYEH FINAL FORM
FC97 dHAMZA ABOVE WITH JEEM INITIAL FORM;gHAH INITIAL FORM;gKHAH INITIAL FORM;gMEEM INITIAL FORM
FC9B gHEH INITIAL FORM;bBEH WITH JEEM INITIAL FORM;dHAH INITIAL FORM;dKHAH INITIAL FORM
FC9F dMEEM INITIAL FORM;dHEH INITIAL FORM;bTEH WITH JEEM INITIAL FORM;dHAH INITIAL FORM
FCA3 dKHAH INITIAL FORM;dMEEM INITIAL FORM;dHEH INITIAL FORM;bTHEH WITH MEEM INITIAL FORM
FCA7 bJEEM WITH HAH INITIAL FORM;dMEEM INITIAL FORM;bHAH WITH JEEM INITIAL FORM;dMEEM INITIAL FORM
FCAB bKHAH WITH JEEM INITIAL FORM;dMEEM INITIAL FORM;bSEEN WITH JEEM INITIAL FORM
FCAE dHAH INITIAL FORM;dKHAH INITIAL FORM;dMEEM INITIAL FORM;bSAD WITH HAH INITIAL FORM
FCB2 dKHAH INITIAL FORM;dMEEM INITIAL FORM;bDAD WITH JEEM INITIAL FORM;dHAH INITIAL FORM
FCB6 dKHAH INITIAL FORM;dMEEM INITIAL FORM;bTAH WITH HAH INITIAL FORM;bZAH WITH MEEM INITIAL FORM
FCBA bAIN WITH JEEM INITIAL FORM;dMEEM INITIAL FORM;bGHAIN WITH JEEM INITIAL FORM
FCBD dMEEM INITIAL FORM;bFEH WITH JEEM INITIAL FORM;dHAH INITIAL FORM;dKHAH INITIAL FORM
FCC1 dMEEM INITIAL FORM;bQAF WITH HAH INITIAL FORM;dMEEM INITIAL FORM;bKAF WITH JEEM INITIAL FORM
FCC5 dHAH INITIAL FORM;dKHAH INITIAL FORM;dLAM INITIAL FORM;dMEEM INITIAL FORM
FCC9 bLAM WITH JEEM INITIAL FORM;dHAH INITIAL FORM;dKHAH INITIAL FORM;dMEEM INITIAL FORM
FCCD dHEH INITIAL FORM;bMEEM WITH JEEM INITIAL FORM;dHAH INITIAL FORM;dKHAH INITIAL FORM
FCD1 dMEEM INITIAL FORM;bNOON WITH JEEM INITIAL FORM;dHAH INITIAL FORM;dKHAH INITIAL FORM
FCD5 dMEEM INITIAL FORM;dHEH INITIAL FORM;bHEH WITH JEEM INITIAL FORM;dMEEM INITIAL FORM
FCD9 dSUPERSCRIPT ALEF INITIAL FORM;bYEH WITH JEEM INITIAL FORM;dHAH INITIAL FORM
FCDC dKHAH INITIAL FORM;dMEEM INITIAL FORM;dHEH INITIAL FORM;dHAMZA ABOVE WITH MEEM MEDIAL FORM
FCE0 gHEH MEDIAL FORM;bBEH WITH MEEM MEDIAL FORM;dHEH MEDIAL FORM;bTEH WITH MEEM MEDIAL FORM
FCE4 dHEH MEDIAL FORM;bTHEH WITH MEEM MEDIAL FORM;dHEH MEDIAL FORM;bSEEN WITH MEEM MEDIAL FORM
FCE8 dHEH MEDIAL FORM;bSHEEN WITH MEEM MEDIAL FORM;dHEH MEDIAL FORM;bKAF WITH LAM MEDIAL FORM
FCEC dMEEM MEDIAL FORM;bLAM WITH MEEM MEDIAL FORM;bNOON WITH MEEM MEDIAL FORM;dHEH MEDIAL FORM
FCF0 bYEH WITH MEEM MEDIAL FORM;dHEH MEDIAL FORM;bSHADDA WITH FATHA MEDIAL FORM;dDAMMA MEDIAL FORM
FCF4 dKASRA MEDIAL FORM;bTAH WITH ALEF MAKSURA ISOLATED FORM;dYEH ISOLATED FORM
FCF7 bAIN WITH ALEF MAKSURA ISOLATED FORM;dYEH ISOLATED FORM
FCF9 bGHAIN WITH ALEF MAKSURA ISOLATED FORM;dYEH ISOLATED FORM
FCFB bSEEN WITH ALEF MAKSURA ISOLATED FORM;dYEH ISOLATED FORM
FCFD bSHEEN WITH ALEF MAKSURA ISOLATED FORM;dYEH ISOLATED FORM
FCFF bHAH WITH ALEF MAKSURA ISOLATED FORM;dYEH ISOLATED FORM;bJEEM WITH ALEF MAKSURA ISOLATED FORM
FD02 dYEH ISOLATED FORM;bKHAH WITH ALEF MAKSURA ISOLATED FORM;dYEH ISOLATED FORM
FD05 bSAD WITH ALEF MAKSURA ISOLATED FORM;dYEH ISOLATED FORM;bDAD WITH ALEF MAKSURA ISOLATED FORM
FD08 dYEH ISOLATED FORM;bSHEEN WITH JEEM ISOLATED FORM;dHAH ISOLATED FORM;dKHAH ISOLATED FORM
FD0C dMEEM ISOLATED FORM;dREH ISOLATED FORM;bSEEN WITH REH ISOLATED FORM
FD0F bSAD WITH REH ISOLATED FORM;bDAD WITH REH ISOLATED FORM;bTAH WITH ALEF MAKSURA FINAL FORM
FD12 dYEH FINAL FORM;bAIN WITH ALEF MAKSURA FINAL FORM;dYEH FINAL FORM
FD15 bGHAIN WITH ALEF MAKSURA FINAL FORM;dYEH FINAL FORM;bSEEN WITH ALEF MAKSURA FINAL FORM
FD18 dYEH FINAL FORM;bSHEEN WITH ALEF MAKSURA FINAL FORM;dYEH FINAL FORM
FD1B bHAH WITH ALEF MAKSURA FINAL FORM;dYEH FINAL FORM;bJEEM WITH ALEF MAKSURA FINAL FORM
FD1E dYEH FINAL FORM;bKHAH WITH ALEF MAKSURA FINAL FORM;dYEH FINAL FORM
FD21 bSAD WITH ALEF MAKSURA FINAL FORM;dYEH FINAL FORM;bDAD WITH ALEF MAKSURA FINAL FORM
FD24 dYEH FINAL FORM;bSHEEN WITH JEEM FINAL FORM;dHAH FINAL FORM;dKHAH FINAL FORM;dMEEM FINAL FORM
FD29 dREH FINAL FORM;bSEEN WITH REH FINAL FORM;bSAD WITH REH FINAL FORM;bDAD WITH REH FINAL FORM
FD2D bSHEEN WITH JEEM INITIAL FORM;dHAH INITIAL FORM;dKHAH INITIAL FORM;dMEEM INITIAL FORM
FD31 bSEEN WITH HEH INITIAL FORM;bSHEEN WITH HEH INITIAL FORM;bTAH WITH MEEM INITIAL FORM
FD34 bSEEN WITH JEEM MEDIAL FORM;dHAH MEDIAL FORM;dKHAH MEDIAL FORM;bSHEEN WITH JEEM MEDIAL FORM
FD38 dHAH MEDIAL FORM;dKHAH MEDIAL FORM;bTAH WITH MEEM MEDIAL FORM;bZAH WITH MEEM MEDIAL FORM
FD3C bALEF WITH FATHATAN FINAL FORM;eISOLATED FORM;ORNATE LEFT PARENTHESIS;aRIGHT PARENTHESIS
FD40 ARABIC LIGATURE RAHIMAHU ALLAAH;bRADI ALLAAHU ANH;dANHAA;dANHUM;dANHUMAA;dANHUNNA
FD46 bSALLALLAAHU ALAYHI WA-AALIH;bALAYHI AS-SALAAM;bALAYHIM AS-SALAAM;bALAYHIMAA AS-SALAAM
FD4A bALAYHI AS-SALAATU WAS-SALAAM;bQUDDISA SIRRAH;bSALLALLAHU ALAYHI WAAALIHEE WA-SALLAM
FD4D bALAYHAA AS-SALAAM;bTABAARAKA WA-TAAALAA;bRAHIMAHUM ALLAAH
FD50 bTEH WITH JEEM WITH MEEM INITIAL FORM;dHAH WITH JEEM FINAL FORM;gINITIAL FORM
FD53 fMEEM INITIAL FORM;dKHAH WITH MEEM INITIAL FORM;dMEEM WITH JEEM INITIAL FORM
FD56 fHAH INITIAL FORM;fKHAH INITIAL FORM;bJEEM WITH MEEM WITH HAH FINAL FORM;gINITIAL FORM
FD5A bHAH WITH MEEM WITH YEH FINAL FORM;fALEF MAKSURA FINAL FORM
FD5C bSEEN WITH HAH WITH JEEM INITIAL FORM;dJEEM WITH HAH INITIAL FORM;fALEF MAKSURA FINAL FORM
FD5F dMEEM WITH HAH FINAL FORM;gINITIAL FORM;fJEEM INITIAL FORM;fMEEM FINAL FORM;gINITIAL FORM
FD64 bSAD WITH HAH WITH HAH FINAL FORM;gINITIAL FORM;dMEEM WITH MEEM FINAL FORM
FD67 bSHEEN WITH HAH WITH MEEM FINAL FORM;gINITIAL FORM;dJEEM WITH YEH FINAL FORM
FD6A dMEEM WITH KHAH FINAL FORM;gINITIAL FORM;fMEEM FINAL FORM;gINITIAL FORM
FD6E bDAD WITH HAH WITH ALEF MAKSURA FINAL FORM;dKHAH WITH MEEM FINAL FORM;gINITIAL FORM
FD71 bTAH WITH MEEM WITH HAH FINAL FORM;gINITIAL FORM;fMEEM INITIAL FORM;fYEH FINAL FORM
FD75 bAIN WITH JEEM WITH MEEM FINAL FORM;dMEEM WITH MEEM FINAL FORM;gINITIAL FORM
FD78 fALEF MAKSURA FINAL FORM;bGHAIN WITH MEEM WITH MEEM FINAL FORM;fYEH FINAL FORM
FD7B fALEF MAKSURA FINAL FORM;bFEH WITH KHAH WITH MEEM FINAL FORM;gINITIAL FORM
FD7E bQAF WITH MEEM WITH HAH FINAL FORM;fMEEM FINAL FORM;bLAM WITH HAH WITH MEEM FINAL FORM
FD81 fYEH FINAL FORM;fALEF MAKSURA FINAL FORM;dJEEM WITH JEEM INITIAL FORM;gFINAL FORM
FD85 dKHAH WITH MEEM FINAL FORM;gINITIAL FORM;dMEEM WITH HAH FINAL FORM;gINITIAL FORM
FD89 bMEEM WITH HAH WITH JEEM INITIAL FORM;fMEEM INITIAL FORM;fYEH FINAL FORM
FD8C dJEEM WITH HAH INITIAL FORM;fMEEM INITIAL FORM;dKHAH WITH JEEM INITIAL FORM
FD8F fMEEM INITIAL FORM
FD92 dJEEM WITH KHAH INITIAL FORM;bHEH WITH MEEM WITH JEEM INITIAL FORM;fMEEM INITIAL FORM
FD95 bNOON WITH HAH WITH MEEM INITIAL FORM;fALEF MAKSURA FINAL FORM;dJEEM WITH MEEM FINAL FORM
FD98 gINITIAL FORM;fALEF MAKSURA FINAL FORM;dMEEM WITH YEH FINAL FORM;fALEF MAKSURA FINAL FORM
FD9C bYEH WITH MEEM WITH MEEM FINAL FORM;gINITIAL FORM;bBEH WITH KHAH WITH YEH FINAL FORM
FD9F bTEH WITH JEEM WITH YEH FINAL FORM;fALEF MAKSURA FINAL FORM;dKHAH WITH YEH FINAL FORM
FDA2 fALEF MAKSURA FINAL FORM;dMEEM WITH YEH FINAL FORM;fALEF MAKSURA FINAL FORM
FDA5 bJEEM WITH MEEM WITH YEH FINAL FORM;dHAH WITH ALEF MAKSURA FINAL FORM
FDA7 dMEEM WITH ALEF MAKSURA FINAL FORM;bSEEN WITH KHAH WITH ALEF MAKSURA FINAL FORM
FDA9 bSAD WITH HAH WITH YEH FINAL FORM;bSHEEN WITH HAH WITH YEH FINAL FORM
FDAB bDAD WITH HAH WITH YEH FINAL FORM;bLAM WITH JEEM WITH YEH FINAL FORM
FDAD dMEEM WITH YEH FINAL FORM;bYEH WITH HAH WITH YEH FINAL FORM;dJEEM WITH YEH FINAL FORM
FDB0 dMEEM WITH YEH FINAL FORM;bMEEM WITH MEEM WITH YEH FINAL FORM
FDB2 bQAF WITH MEEM WITH YEH FINAL FORM;bNOON WITH HAH WITH YEH FINAL FORM
FDB4 bQAF WITH MEEM WITH HAH INITIAL FORM;bLAM WITH HAH WITH MEEM INITIAL FORM
FDB6 bAIN WITH MEEM WITH YEH FINAL FORM;bKAF WITH MEEM WITH YEH FINAL FORM
FDB8 bNOON WITH JEEM WITH HAH INITIAL FORM;bMEEM WITH KHAH WITH YEH FINAL FORM
FDBA bLAM WITH JEEM WITH MEEM INITIAL FORM;bKAF WITH MEEM WITH MEEM FINAL FORM
FDBC bLAM WITH JEEM WITH MEEM FINAL FORM;bNOON WITH JEEM WITH HAH FINAL FORM
FDBE bJEEM WITH HAH WITH YEH FINAL FORM;bHAH WITH JEEM WITH YEH FINAL FORM
FDC0 bMEEM WITH JEEM WITH YEH FINAL FORM;bFEH WITH MEEM WITH YEH FINAL FORM
FDC2 bBEH WITH HAH WITH YEH FINAL FORM;bKAF WITH MEEM WITH MEEM INITIAL FORM
FDC4 bAIN WITH JEEM WITH MEEM INITIAL FORM;bSAD WITH MEEM WITH MEEM INITIAL FORM
FDC6 bSEEN WITH KHAH WITH YEH FINAL FORM;bNOON WITH JEEM WITH YEH FINAL FORM
FDCF bSALAAMUHU ALAYNAA
FDF0 bSALLA USED AS KORANIC STOP SIGN ISOLATED FORM;bQALA USED AS KORANIC STOP SIGN ISOLATED FORM
FDF2 bALLAH ISOLATED FORM;bAKBAR ISOLATED FORM;bMOHAMMAD ISOLATED FORM;bSALAM ISOLATED FORM
FDF6 bRASOUL ISOLATED FORM;bALAYHE ISOLATED FORM;bWASALLAM ISOLATED FORM;bSALLA ISOLATED FORM
FDFA bSALLALLAHOU ALAYHE WASALLAM;bJALLAJALALOUHOU;RIAL SIGN
FDFD ARABIC LIGATURE BISMILLAH AR-RAHMAN AR-RAHEEM;bSUBHAANAHU WA TAAALAA;bAZZA WA JALL
FE00 VARIATION SELECTOR-1;aSELECTOR-2;aSELECTOR-3;aSELECTOR-4;aSELECTOR-5;aSELECTOR-6;aSELECTOR-7
FE07 aSELECTOR-8;aSELECTOR-9;aSELECTOR-10;aSELECTOR-11;aSELECTOR-12;aSELECTOR-13;aSELECTOR-14
FE0E aSELECTOR-15;aSELECTOR-16;PRESENTATION FORM FOR VERTICAL COMMA;dIDEOGRAPHIC COMMA;eFULL STOP
FE13 dCOLON;dSEMICOLON;dEXCLAMATION MARK;dQUESTION MARK;dLEFT WHITE LENTICULAR BRACKET
FE18 dRIGHT WHITE LENTICULAR BRAKCET;dHORIZONTAL ELLIPSIS
FE20 COMBINING LIGATURE LEFT HALF;bRIGHT HALF;aDOUBLE TILDE LEFT HALF;cRIGHT HALF
FE24 aMACRON LEFT HALF;bRIGHT HALF;aCONJOINING MACRON;aLIGATURE LEFT HALF BELOW;bRIGHT HALF BELOW
FE29 aTILDE LEFT HALF BELOW;bRIGHT HALF BELOW;aMACRON LEFT HALF BELOW;bRIGHT HALF BELOW
FE2D aCONJOINING MACRON BELOW;aCYRILLIC TITLO LEFT HALF;cRIGHT HALF
FE30 PRESENTATION FORM FOR VERTICAL TWO DOT LEADER;dEM DASH;dEN DASH;dLOW LINE;dWAVY LOW LINE
FE35 dLEFT PARENTHESIS;dRIGHT PARENTHESIS;dLEFT CURLY BRACKET;dRIGHT CURLY BRACKET
FE39 dLEFT TORTOISE SHELL BRACKET;dRIGHT TORTOISE SHELL BRACKET;dLEFT BLACK LENTICULAR BRACKET
FE3C dRIGHT BLACK LENTICULAR BRACKET;dLEFT DOUBLE ANGLE BRACKET;dRIGHT DOUBLE ANGLE BRACKET
FE3F dLEFT ANGLE BRACKET;dRIGHT ANGLE BRACKET;dLEFT CORNER BRACKET;dRIGHT CORNER BRACKET
FE43 dLEFT WHITE CORNER BRACKET;dRIGHT WHITE CORNER BRACKET;SESAME DOT;WHITE SESAME DOT
FE47 PRESENTATION FORM FOR VERTICAL LEFT SQUARE BRACKET;dRIGHT SQUARE BRACKET;DASHED OVERLINE
FE4A CENTRELINE OVERLINE;WAVY OVERLINE;DOUBLE WAVY OVERLINE;DASHED LOW LINE;CENTRELINE LOW LINE
FE4F WAVY LOW LINE;SMALL COMMA;aIDEOGRAPHIC COMMA;aFULL STOP
FE54 aSEMICOLON;aCOLON;aQUESTION MARK;aEXCLAMATION MARK;aEM DASH;aLEFT PARENTHESIS
FE5A aRIGHT PARENTHESIS;aLEFT CURLY BRACKET;aRIGHT CURLY BRACKET;aLEFT TORTOISE SHELL BRACKET
FE5E aRIGHT TORTOISE SHELL BRACKET;aNUMBER SIGN;aAMPERSAND;aASTERISK;aPLUS SIGN;aHYPHEN-MINUS
FE64 aLESS-THAN SIGN;aGREATER-THAN SIGN;aEQUALS SIGN
FE68 aREVERSE SOLIDUS;aDOLLAR SIGN;aPERCENT SIGN;aCOMMERCIAL AT
FE70 ARABIC FATHATAN ISOLATED FORM;aTATWEEL WITH FATHATAN ABOVE;aDAMMATAN ISOLATED FORM
FE73 aTAIL FRAGMENT;aKASRATAN ISOLATED FORM
FE76 aFATHA ISOLATED FORM;bMEDIAL FORM;aDAMMA ISOLATED FORM;bMEDIAL FORM;aKASRA ISOLATED FORM
FE7B bMEDIAL FORM;aSHADDA ISOLATED FORM;bMEDIAL FORM;aSUKUN ISOLATED FORM;bMEDIAL FORM
FE80 aLETTER HAMZA ISOLATED FORM;bALEF WITH MADDA ABOVE ISOLATED FORM;fFINAL FORM
FE83 dHAMZA ABOVE ISOLATED FORM;fFINAL FORM;bWAW WITH HAMZA ABOVE ISOLATED FORM;fFINAL FORM
FE87 bALEF WITH HAMZA BELOW ISOLATED FORM;fFINAL FORM;bYEH WITH HAMZA ABOVE ISOLATED FORM
FE8A fFINAL FORM;fINITIAL FORM;fMEDIAL FORM;bALEF ISOLATED FORM;cFINAL FORM;bBEH ISOLATED FORM
FE90 cFINAL FORM;cINITIAL FORM;cMEDIAL FORM;bTEH MARBUTA ISOLATED FORM;dFINAL FORM;cISOLATED FORM
FE96 cFINAL FORM;cINITIAL FORM;cMEDIAL FORM;bTHEH ISOLATED FORM;cFINAL FORM;cINITIAL FORM
FE9C cMEDIAL FORM;bJEEM ISOLATED FORM;cFINAL FORM;cINITIAL FORM;cMEDIAL FORM;bHAH ISOLATED FORM
FEA2 cFINAL FORM;cINITIAL FORM;cMEDIAL FORM;bKHAH ISOLATED FORM;cFINAL FORM;cINITIAL FORM
FEA8 cMEDIAL FORM;bDAL ISOLATED FORM;cFINAL FORM;bTHAL ISOLATED FORM;cFINAL FORM
FEAD bREH ISOLATED FORM;cFINAL FORM;bZAIN ISOLATED FORM;cFINAL FORM;bSEEN ISOLATED FORM
FEB2 cFINAL FORM;cINITIAL FORM;cMEDIAL FORM;bSHEEN ISOLATED FORM;cFINAL FORM;cINITIAL FORM
FEB8 cMEDIAL FORM;bSAD ISOLATED FORM;cFINAL FORM;cINITIAL FORM;cMEDIAL FORM;bDAD ISOLATED FORM
FEBE cFINAL FORM;cINITIAL FORM;cMEDIAL FORM;bTAH ISOLATED FORM;cFINAL FORM;cINITIAL FORM
FEC4 cMEDIAL FORM;bZAH ISOLATED FORM;cFINAL FORM;cINITIAL FORM;cMEDIAL FORM;bAIN ISOLATED FORM
FECA cFINAL FORM;cINITIAL FORM;cMEDIAL FORM;bGHAIN ISOLATED FORM;cFINAL FORM;cINITIAL FORM
FED0 cMEDIAL FORM;bFEH ISOLATED FORM;cFINAL FORM;cINITIAL FORM;cMEDIAL FORM;bQAF ISOLATED FORM
FED6 cFINAL FORM;cINITIAL FORM;cMEDIAL FORM;bKAF ISOLATED FORM;cFINAL FORM;cINITIAL FORM
FEDC cMEDIAL FORM;bLAM ISOLATED FORM;cFINAL FORM;cINITIAL FORM;cMEDIAL FORM;bMEEM ISOLATED FORM
FEE2 cFINAL FORM;cINITIAL FORM;cMEDIAL FORM;bNOON ISOLATED FORM;cFINAL FORM;cINITIAL FORM
FEE8 cMEDIAL FORM;bHEH ISOLATED FORM;cFINAL FORM;cINITIAL FORM;cMEDIAL FORM;bWAW ISOLATED FORM
FEEE cFINAL FORM;bALEF MAKSURA ISOLATED FORM;dFINAL FORM;bYEH ISOLATED FORM;cFINAL FORM
FEF3 cINITIAL FORM;cMEDIAL FORM;aLIGATURE LAM WITH ALEF WITH MADDA ABOVE ISOLATED FORM;hFINAL FORM
FEF7 fHAMZA ABOVE ISOLATED FORM;hFINAL FORM;gBELOW ISOLATED FORM;hFINAL FORM;eISOLATED FORM
FEFC eFINAL FORM
FEFF ZERO WIDTH NO-BREAK SPACE
FF01 FULLWIDTH EXCLAMATION MARK;aQUOTATION MARK;aNUMBER SIGN;aDOLLAR SIGN;aPERCENT SIGN;aAMPERSAND
FF07 aAPOSTROPHE;aLEFT PARENTHESIS;aRIGHT PARENTHESIS;aASTERISK;aPLUS SIGN;aCOMMA;aHYPHEN-MINUS
FF0E aFULL STOP;aSOLIDUS;aDIGIT ZERO;bONE;bTWO;bTHREE;bFOUR;bFIVE;bSIX;bSEVEN;bEIGHT;bNINE;aCOLON
FF1B aSEMICOLON;aLESS-THAN SIGN;aEQUALS SIGN;aGREATER-THAN SIGN;aQUESTION MARK;aCOMMERCIAL AT
FF21 aLATIN CAPITAL LETTER A;dB;dC;dD;dE;dF;dG;dH;dI;dJ;dK;dL;dM;dN;dO;dP;dQ;dR;dS;dT;dU;dV;dW;dX
FF39 dY;dZ;aLEFT SQUARE BRACKET;aREVERSE SOLIDUS;aRIGHT SQUARE BRACKET;aCIRCUMFLEX ACCENT
FF3F aLOW LINE;aGRAVE ACCENT;aLATIN SMALL LETTER A;dB;dC;dD;dE;dF;dG;dH;dI;dJ;dK;dL;dM;dN;dO;dP;dQ
FF52 dR;dS;dT;dU;dV;dW;dX;dY;dZ;aLEFT CURLY BRACKET;aVERTICAL LINE;aRIGHT CURLY BRACKET;aTILDE
FF5F aLEFT WHITE PARENTHESIS;aRIGHT WHITE PARENTHESIS;HALFWIDTH IDEOGRAPHIC FULL STOP
FF62 aLEFT CORNER BRACKET;aRIGHT CORNER BRACKET;aIDEOGRAPHIC COMMA;aKATAKANA MIDDLE DOT;bLETTER WO
FF67 cSMALL A;dI;dU;dE;dO;dYA;dYU;dYO;dTU;aKATAKANA-HIRAGANA PROLONGED SOUND MARK
FF71 aKATAKANA LETTER A;cI;cU;cE;cO;cKA;cKI;cKU;cKE;cKO;cSA;cSI;cSU;cSE;cSO;cTA;cTI;cTU;cTE;cTO
FF85 cNA;cNI;cNU;cNE;cNO;cHA;cHI;cHU;cHE;cHO;cMA;cMI;cMU;cME;cMO;cYA;cYU;cYO;cRA;cRI;cRU;cRE;cRO
FF9C cWA;cN;bVOICED SOUND MARK;bSEMI-VOICED SOUND MARK;aHANGUL FILLER;bLETTER KIYEOK;cSSANGKIYEOK
FFA3 cKIYEOK-SIOS;cNIEUN;cNIEUN-CIEUC;cNIEUN-HIEUH;cTIKEUT;cSSANGTIKEUT;cRIEUL;cRIEUL-KIYEOK
FFAB cRIEUL-MIEUM;cRIEUL-PIEUP;cRIEUL-SIOS;cRIEUL-THIEUTH;cRIEUL-PHIEUPH;cRIEUL-HIEUH;cMIEUM
FFB2 cPIEUP;cSSANGPIEUP;cPIEUP-SIOS;cSIOS;cSSANGSIOS;cIEUNG;cCIEUC;cSSANGCIEUC;cCHIEUCH;cKHIEUKH
FFBC cTHIEUTH;cPHIEUPH;cHIEUH
FFC2 cA;cAE;cYA;cYAE;cEO;cE
FFCA cYEO;cYE;cO;cWA;cWAE;cOE
FFD2 cYO;cU;cWEO;cWE;cWI;cYU
FFDA cEU;cYI;cI
FFE0 FULLWIDTH CENT SIGN;aPOUND SIGN;aNOT SIGN;aMACRON;aBROKEN BAR;aYEN SIGN;aWON SIGN
FFE8 HALFWIDTH FORMS LIGHT VERTICAL;aLEFTWARDS ARROW;aUPWARDS ARROW;aRIGHTWARDS ARROW
FFEC aDOWNWARDS ARROW;aBLACK SQUARE;aWHITE CIRCLE
FFF9 INTERLINEAR ANNOTATION ANCHOR;bSEPARATOR;bTERMINATOR;OBJECT REPLACEMENT CHARACTER
FFFD REPLACEMENT CHARACTER"

end Stencil.CharacterName
