/-! # Names of code points: later letters, strokes and the syllables of several scripts

The lines are those of a table of names (`Stencil.NameTable`).
-/

namespace Stencil.CharacterName

/-- The names of later letters, strokes and the syllables of several scripts. -/
def syllables : String :=
"2C00 GLAGOLITIC CAPITAL LETTER AZU;cBUKY;cVEDE;cGLAGOLI;cDOBRO;cYESTU;cZHIVETE;cDZELO;cZEMLJA
2C09 cIZHE;cINITIAL IZHE;cI;cDJERVI;cKAKO;cLJUDIJE;cMYSLITE;cNASHI;cONU;cPOKOJI;cRITSI;cSLOVO
2C15 cTVRIDO;cUKU;cFRITU;cHERU;cOTU;cPE;cSHTA;cTSI;cCHRIVI;cSHA;cYERU;cYERI;cYATI;cSPIDERY HA;cYU
2C24 cSMALL YUS;eWITH TAIL;cYO;cIOTATED SMALL YUS;cBIG YUS;cIOTATED BIG YUS;cFITA;cIZHITSA
2C2C cSHTAPIC;cTROKUTASTI A;cLATINATE MYSLITE;cCAUDATE CHRIVI;aSMALL LETTER AZU;cBUKY;cVEDE
2C33 cGLAGOLI;cDOBRO;cYESTU;cZHIVETE;cDZELO;cZEMLJA;cIZHE;cINITIAL IZHE;cI;cDJERVI;cKAKO;cLJUDIJE
2C3F cMYSLITE;cNASHI;cONU;cPOKOJI;cRITSI;cSLOVO;cTVRIDO;cUKU;cFRITU;cHERU;cOTU;cPE;cSHTA;cTSI
2C4D cCHRIVI;cSHA;cYERU;cYERI;cYATI;cSPIDERY HA;cYU;cSMALL YUS;eWITH TAIL;cYO;cIOTATED SMALL YUS
2C58 cBIG YUS;cIOTATED BIG YUS;cFITA;cIZHITSA;cSHTAPIC;cTROKUTASTI A;cLATINATE MYSLITE
2C5F cCAUDATE CHRIVI;LATIN CAPITAL LETTER L WITH DOUBLE BAR;aSMALL LETTER L WITH DOUBLE BAR
2C62 aCAPITAL LETTER L WITH MIDDLE TILDE;cP WITH STROKE;cR WITH TAIL;aSMALL LETTER A WITH STROKE
2C66 cT WITH DIAGONAL STROKE;aCAPITAL LETTER H WITH DESCENDER;aSMALL LETTER H WITH DESCENDER
2C69 aCAPITAL LETTER K WITH DESCENDER;aSMALL LETTER K WITH DESCENDER
2C6B aCAPITAL LETTER Z WITH DESCENDER;aSMALL LETTER Z WITH DESCENDER;aCAPITAL LETTER ALPHA
2C6E cM WITH HOOK;cTURNED A;dALPHA;aSMALL LETTER V WITH RIGHT HOOK;aCAPITAL LETTER W WITH HOOK
2C73 aSMALL LETTER W WITH HOOK;cV WITH CURL;aCAPITAL LETTER HALF H;aSMALL LETTER HALF H
2C77 cTAILLESS PHI;cE WITH NOTCH;cTURNED R WITH TAIL;cO WITH LOW RING INSIDE
2C7B aLETTER SMALL CAPITAL TURNED E;aSUBSCRIPT SMALL LETTER J;MODIFIER LETTER CAPITAL V
2C7E LATIN CAPITAL LETTER S WITH SWASH TAIL;cZ WITH SWASH TAIL;COPTIC CAPITAL LETTER ALFA
2C81 aSMALL LETTER ALFA;aCAPITAL LETTER VIDA;aSMALL LETTER VIDA;aCAPITAL LETTER GAMMA
2C85 aSMALL LETTER GAMMA;aCAPITAL LETTER DALDA;aSMALL LETTER DALDA;aCAPITAL LETTER EIE
2C89 aSMALL LETTER EIE;aCAPITAL LETTER SOU;aSMALL LETTER SOU;aCAPITAL LETTER ZATA
2C8D aSMALL LETTER ZATA;aCAPITAL LETTER HATE;aSMALL LETTER HATE;aCAPITAL LETTER THETHE
2C91 aSMALL LETTER THETHE;aCAPITAL LETTER IAUDA;aSMALL LETTER IAUDA;aCAPITAL LETTER KAPA
2C95 aSMALL LETTER KAPA;aCAPITAL LETTER LAULA;aSMALL LETTER LAULA;aCAPITAL LETTER MI
2C99 aSMALL LETTER MI;aCAPITAL LETTER NI;aSMALL LETTER NI;aCAPITAL LETTER KSI;aSMALL LETTER KSI
2C9E aCAPITAL LETTER O;aSMALL LETTER O;aCAPITAL LETTER PI;aSMALL LETTER PI;aCAPITAL LETTER RO
2CA3 aSMALL LETTER RO;aCAPITAL LETTER SIMA;aSMALL LETTER SIMA;aCAPITAL LETTER TAU
2CA7 aSMALL LETTER TAU;aCAPITAL LETTER UA;aSMALL LETTER UA;aCAPITAL LETTER FI;aSMALL LETTER FI
2CAC aCAPITAL LETTER KHI;aSMALL LETTER KHI;aCAPITAL LETTER PSI;aSMALL LETTER PSI
2CB0 aCAPITAL LETTER OOU;aSMALL LETTER OOU;aCAPITAL LETTER DIALECT-P ALEF
2CB3 aSMALL LETTER DIALECT-P ALEF;aCAPITAL LETTER OLD COPTIC AIN;aSMALL LETTER OLD COPTIC AIN
2CB6 aCAPITAL LETTER CRYPTOGRAMMIC EIE;aSMALL LETTER CRYPTOGRAMMIC EIE
2CB8 aCAPITAL LETTER DIALECT-P KAPA;aSMALL LETTER DIALECT-P KAPA;aCAPITAL LETTER DIALECT-P NI
2CBB aSMALL LETTER DIALECT-P NI;aCAPITAL LETTER CRYPTOGRAMMIC NI;aSMALL LETTER CRYPTOGRAMMIC NI
2CBE aCAPITAL LETTER OLD COPTIC OOU;aSMALL LETTER OLD COPTIC OOU;aCAPITAL LETTER SAMPI
2CC1 aSMALL LETTER SAMPI;aCAPITAL LETTER CROSSED SHEI;aSMALL LETTER CROSSED SHEI
2CC4 aCAPITAL LETTER OLD COPTIC SHEI;aSMALL LETTER OLD COPTIC SHEI;aCAPITAL LETTER OLD COPTIC ESH
2CC7 aSMALL LETTER OLD COPTIC ESH;aCAPITAL LETTER AKHMIMIC KHEI;aSMALL LETTER AKHMIMIC KHEI
2CCA aCAPITAL LETTER DIALECT-P HORI;aSMALL LETTER DIALECT-P HORI;aCAPITAL LETTER OLD COPTIC HORI
2CCD aSMALL LETTER OLD COPTIC HORI;aCAPITAL LETTER OLD COPTIC HA;aSMALL LETTER OLD COPTIC HA
2CD0 aCAPITAL LETTER L-SHAPED HA;aSMALL LETTER L-SHAPED HA;aCAPITAL LETTER OLD COPTIC HEI
2CD3 aSMALL LETTER OLD COPTIC HEI;aCAPITAL LETTER OLD COPTIC HAT;aSMALL LETTER OLD COPTIC HAT
2CD6 aCAPITAL LETTER OLD COPTIC GANGIA;aSMALL LETTER OLD COPTIC GANGIA
2CD8 aCAPITAL LETTER OLD COPTIC DJA;aSMALL LETTER OLD COPTIC DJA;aCAPITAL LETTER OLD COPTIC SHIMA
2CDB aSMALL LETTER OLD COPTIC SHIMA;aCAPITAL LETTER OLD NUBIAN SHIMA
2CDD aSMALL LETTER OLD NUBIAN SHIMA;aCAPITAL LETTER OLD NUBIAN NGI;aSMALL LETTER OLD NUBIAN NGI
2CE0 aCAPITAL LETTER OLD NUBIAN NYI;aSMALL LETTER OLD NUBIAN NYI;aCAPITAL LETTER OLD NUBIAN WAU
2CE3 aSMALL LETTER OLD NUBIAN WAU;aSYMBOL KAI;bMI RO;bPI RO;bSTAUROS;bTAU RO;bKHI RO;bSHIMA SIMA
2CEB aCAPITAL LETTER CRYPTOGRAMMIC SHEI;aSMALL LETTER CRYPTOGRAMMIC SHEI
2CED aCAPITAL LETTER CRYPTOGRAMMIC GANGIA;aSMALL LETTER CRYPTOGRAMMIC GANGIA;aCOMBINING NI ABOVE
2CF0 bSPIRITUS ASPER;cLENIS;aCAPITAL LETTER BOHAIRIC KHEI;aSMALL LETTER BOHAIRIC KHEI
2CF9 aOLD NUBIAN FULL STOP;cDIRECT QUESTION MARK;cINDIRECT QUESTION MARK;cVERSE DIVIDER
2CFD aFRACTION ONE HALF;aFULL STOP;aMORPHOLOGICAL DIVIDER;GEORGIAN SMALL LETTER AN;cBAN;cGAN;cDON
2D04 cEN;cVIN;cZEN;cTAN;cIN;cKAN;cLAS;cMAN;cNAR;cON;cPAR;cZHAR;cRAE;cSAN;cTAR;cUN;cPHAR;cKHAR
2D16 cGHAN;cQAR;cSHIN;cCHIN;cCAN;cJIL;cCIL;cCHAR;cXAN;cJHAN;cHAE;cHE;cHIE;cWE;cHAR;cHOE
2D27 cYN
2D2D cAEN
2D30 TIFINAGH LETTER YA;bYAB;bYABH;bYAG;bYAGHH;bBERBER ACADEMY YAJ;bYAJ;bYAD;bYADH;bYADD;bYADDH
2D3B bYEY;bYAF;bYAK;bTUAREG YAK;bYAKHH;bYAH;bBERBER ACADEMY YAH;bTUAREG YAH;bYAHH;bYAA;bYAKH
2D46 bTUAREG YAKH;bYAQ;bTUAREG YAQ;bYI;bYAZH;bAHAGGAR YAZH;bTUAREG YAZH;bYAL;bYAM;bYAN
2D50 bTUAREG YAGN;cYANG;bYAP;bYU;bYAR;bYARR;bYAGH;bTUAREG YAGH;bAYER YAGH;bYAS;bYASS;bYASH;bYAT
2D5D bYATH;bYACH;bYATT;bYAV;bYAW;bYAY;bYAZ;bTAWELLEMET YAZ;bYAZZ;bYE;bYO
2D6F aMODIFIER LETTER LABIALIZATION MARK;aSEPARATOR MARK
2D7F aCONSONANT JOINER;ETHIOPIC SYLLABLE LOA;bMOA;bROA;bSOA;bSHOA;bBOA;bTOA;bCOA;bNOA;bNYOA
2D8A bGLOTTAL OA;bZOA;bDOA;bDDOA;bJOA;bTHOA;bCHOA;bPHOA;bPOA;bGGWA;bGGWI;bGGWEE;bGGWE
2DA0 bSSA;bSSU;bSSI;bSSAA;bSSEE;bSSE;bSSO
2DA8 bCCA;bCCU;bCCI;bCCAA;bCCEE;bCCE;bCCO
2DB0 bZZA;bZZU;bZZI;bZZAA;bZZEE;bZZE;bZZO
2DB8 bCCHA;bCCHU;bCCHI;bCCHAA;bCCHEE;bCCHE;bCCHO
2DC0 bQYA;bQYU;bQYI;bQYAA;bQYEE;bQYE;bQYO
2DC8 bKYA;bKYU;bKYI;bKYAA;bKYEE;bKYE;bKYO
2DD0 bXYA;bXYU;bXYI;bXYAA;bXYEE;bXYE;bXYO
2DD8 bGYA;bGYU;bGYI;bGYAA;bGYEE;bGYE;bGYO
2DE0 COMBINING CYRILLIC LETTER BE;cVE;cGHE;cDE;cZHE;cZE;cKA;cEL;cEM;cEN;cO;cPE;cER;cES;cTE;cHA
2DF0 cTSE;cCHE;cSHA;cSHCHA;cFITA;cES-TE;cA;cIE;cDJERV;cMONOGRAPH UK;cYAT;cYU;cIOTIFIED A
2DFD cLITTLE YUS;cBIG YUS;cIOTIFIED BIG YUS;RIGHT ANGLE SUBSTITUTION MARKER
2E01 bDOTTED SUBSTITUTION MARKER;LEFT SUBSTITUTION BRACKET;RIGHT SUBSTITUTION BRACKET
2E04 LEFT DOTTED SUBSTITUTION BRACKET;RIGHT DOTTED SUBSTITUTION BRACKET
2E06 RAISED INTERPOLATION MARKER;aDOTTED INTERPOLATION MARKER;DOTTED TRANSPOSITION MARKER
2E09 LEFT TRANSPOSITION BRACKET;RIGHT TRANSPOSITION BRACKET;RAISED SQUARE
2E0C LEFT RAISED OMISSION BRACKET;RIGHT RAISED OMISSION BRACKET;EDITORIAL CORONIS;PARAGRAPHOS
2E10 FORKED PARAGRAPHOS;REVERSED FORKED PARAGRAPHOS;HYPODIASTOLE;DOTTED OBELOS;DOWNWARDS ANCORA
2E15 UPWARDS ANCORA;DOTTED RIGHT-POINTING ANGLE;DOUBLE OBLIQUE HYPHEN;INVERTED INTERROBANG
2E19 PALM BRANCH;HYPHEN WITH DIAERESIS;TILDE WITH RING ABOVE;LEFT LOW PARAPHRASE BRACKET
2E1D RIGHT LOW PARAPHRASE BRACKET;TILDE WITH DOT ABOVE;cBELOW;LEFT VERTICAL BAR WITH QUILL
2E21 RIGHT VERTICAL BAR WITH QUILL;TOP LEFT HALF BRACKET;aRIGHT HALF BRACKET
2E24 BOTTOM LEFT HALF BRACKET;aRIGHT HALF BRACKET;LEFT SIDEWAYS U BRACKET;RIGHT SIDEWAYS U BRACKET
2E28 LEFT DOUBLE PARENTHESIS;RIGHT DOUBLE PARENTHESIS;TWO DOTS OVER ONE DOT PUNCTUATION
2E2B ONE DOT OVER TWO DOTS PUNCTUATION;SQUARED FOUR DOT PUNCTUATION;FIVE DOT MARK
2E2E REVERSED QUESTION MARK;VERTICAL TILDE;RING POINT;WORD SEPARATOR MIDDLE DOT;TURNED COMMA
2E33 RAISED DOT;aCOMMA;TURNED SEMICOLON;DAGGER WITH LEFT GUARD;bRIGHT GUARD;TURNED DAGGER
2E39 TOP HALF SECTION SIGN;TWO-EM DASH;THREE-EM DASH;STENOGRAPHIC FULL STOP;VERTICAL SIX DOTS
2E3E WIGGLY VERTICAL LINE;CAPITULUM;DOUBLE HYPHEN;REVERSED COMMA
2E42 DOUBLE LOW-REVERSED-9 QUOTATION MARK;DASH WITH LEFT UPTURN;DOUBLE SUSPENSION MARK
2E45 INVERTED LOW KAVYKA;cWITH KAVYKA ABOVE;LOW KAVYKA;bWITH DOT;DOUBLE STACKED COMMA
2E4A DOTTED SOLIDUS;TRIPLE DAGGER;MEDIEVAL COMMA;PARAGRAPHUS MARK;PUNCTUS ELEVATUS MARK
2E4F CORNISH VERSE DIVIDER;CROSS PATTY WITH RIGHT CROSSBAR;cLEFT CROSSBAR;TIRONIAN SIGN CAPITAL ET
2E53 MEDIEVAL EXCLAMATION MARK;aQUESTION MARK;LEFT SQUARE BRACKET WITH STROKE
2E56 RIGHT SQUARE BRACKET WITH STROKE;LEFT SQUARE BRACKET WITH DOUBLE STROKE
2E58 RIGHT SQUARE BRACKET WITH DOUBLE STROKE;TOP HALF LEFT PARENTHESIS;bRIGHT PARENTHESIS
2E5B BOTTOM HALF LEFT PARENTHESIS;bRIGHT PARENTHESIS;OBLIQUE HYPHEN
2E80 CJK RADICAL REPEAT;bCLIFF;bSECOND ONE;cTWO;cTHREE;bPERSON;bBOX;bTABLE;bKNIFE ONE;cTWO
2E8A bDIVINATION;bSEAL;bSMALL ONE;cTWO;bLAME ONE;cTWO;cTHREE;cFOUR;bSNAKE;bTHREAD;bSNOUT ONE;cTWO
2E96 bHEART ONE;cTWO;bHAND;bRAP
2E9B bCHOKE;bSUN;bMOON;bDEATH;bMOTHER;bCIVILIAN;bWATER ONE;cTWO;bFIRE;bPAW ONE;cTWO
2EA6 bSIMPLIFIED HALF TREE TRUNK;bCOW;bDOG;bJADE;bBOLT OF CLOTH;bEYE;bSPIRIT ONE;cTWO;bBAMBOO
2EAF bSILK;bC-SIMPLIFIED SILK;bNET ONE;cTWO;cTHREE;cFOUR;bMESH;bSHEEP;bRAM;bEWE;bOLD;bBRUSH ONE
2EBB cTWO;bMEAT;bMORTAR;bGRASS ONE;cTWO;cTHREE;bTIGER;bCLOTHES;bWEST ONE;cTWO;bC-SIMPLIFIED SEE
2EC6 bSIMPLIFIED HORN;bHORN;bC-SIMPLIFIED SPEECH;cSHELL;bFOOT;bC-SIMPLIFIED CART;bSIMPLIFIED WALK
2ECD bWALK ONE;cTWO;bCITY;bC-SIMPLIFIED GOLD;bLONG ONE;cTWO;bC-SIMPLIFIED LONG;cGATE;bMOUND ONE
2ED6 cTWO;bRAIN;bBLUE;bC-SIMPLIFIED TANNED LEATHER;cLEAF;cWIND;cFLY;bEAT ONE;cTWO;cTHREE
2EE0 bC-SIMPLIFIED EAT;bHEAD;bC-SIMPLIFIED HORSE;bBONE;bGHOST;bC-SIMPLIFIED FISH;cBIRD;cSALT
2EE8 bSIMPLIFIED WHEAT;cYELLOW;bC-SIMPLIFIED FROG;bJ-SIMPLIFIED EVEN;bC-SIMPLIFIED EVEN
2EED bJ-SIMPLIFIED TOOTH;bC-SIMPLIFIED TOOTH;bJ-SIMPLIFIED DRAGON;bC-SIMPLIFIED DRAGON;bTURTLE
2EF2 bJ-SIMPLIFIED TURTLE;bC-SIMPLIFIED TURTLE
2F00 KANGXI RADICAL ONE;bLINE;bDOT;bSLASH;bSECOND;bHOOK;bTWO;bLID;bMAN;bLEGS;bENTER;bEIGHT
2F0C bDOWN BOX;bCOVER;bICE;bTABLE;bOPEN BOX;bKNIFE;bPOWER;bWRAP;bSPOON;bRIGHT OPEN BOX
2F16 bHIDING ENCLOSURE;bTEN;bDIVINATION;bSEAL;bCLIFF;bPRIVATE;bAGAIN;bMOUTH;bENCLOSURE;bEARTH
2F20 bSCHOLAR;bGO;cSLOWLY;bEVENING;bBIG;bWOMAN;bCHILD;bROOF;bINCH;bSMALL;bLAME;bCORPSE;bSPROUT
2F2D bMOUNTAIN;bRIVER;bWORK;bONESELF;bTURBAN;bDRY;bSHORT THREAD;bDOTTED CLIFF;bLONG STRIDE
2F36 bTWO HANDS;bSHOOT;bBOW;bSNOUT;bBRISTLE;bSTEP;bHEART;bHALBERD;bDOOR;bHAND;bBRANCH;bRAP;bSCRIPT
2F43 bDIPPER;bAXE;bSQUARE;bNOT;bSUN;bSAY;bMOON;bTREE;bLACK;bSTOP;bDEATH;bWEAPON;bDO NOT;bCOMPARE
2F51 bFUR;bCLAN;bSTEAM;bWATER;bFIRE;bCLAW;bFATHER;bDOUBLE X;bHALF TREE TRUNK;bSLICE;bFANG;bCOW
2F5D bDOG;bPROFOUND;bJADE;bMELON;bTILE;bSWEET;bLIFE;bUSE;bFIELD;bBOLT OF CLOTH;bSICKNESS
2F68 bDOTTED TENT;bWHITE;bSKIN;bDISH;bEYE;bSPEAR;bARROW;bSTONE;bSPIRIT;bTRACK;bGRAIN;bCAVE;bSTAND
2F75 bBAMBOO;bRICE;bSILK;bJAR;bNET;bSHEEP;bFEATHER;bOLD;bAND;bPLOW;bEAR;bBRUSH;bMEAT;bMINISTER
2F83 bSELF;bARRIVE;bMORTAR;bTONGUE;bOPPOSE;bBOAT;bSTOPPING;bCOLOR;bGRASS;bTIGER;bINSECT;bBLOOD
2F8F bWALK ENCLOSURE;bCLOTHES;bWEST;bSEE;bHORN;bSPEECH;bVALLEY;bBEAN;bPIG;bBADGER;bSHELL;bRED;bRUN
2F9C bFOOT;bBODY;bCART;bBITTER;bMORNING;bWALK;bCITY;bWINE;bDISTINGUISH;bVILLAGE;bGOLD;bLONG;bGATE
2FA9 bMOUND;bSLAVE;bSHORT TAILED BIRD;bRAIN;bBLUE;bWRONG;bFACE;bLEATHER;bTANNED LEATHER;bLEEK
2FB3 bSOUND;bLEAF;bWIND;bFLY;bEAT;bHEAD;bFRAGRANT;bHORSE;bBONE;bTALL;bHAIR;bFIGHT
2FBF bSACRIFICIAL WINE;bCAULDRON;bGHOST;bFISH;bBIRD;bSALT;bDEER;bWHEAT;bHEMP;bYELLOW;bMILLET
2FCA bBLACK;bEMBROIDERY;bFROG;bTRIPOD;bDRUM;bRAT;bNOSE;bEVEN;bTOOTH;bDRAGON;bTURTLE;bFLUTE
2FF0 IDEOGRAPHIC DESCRIPTION CHARACTER LEFT TO RIGHT;cABOVE TO BELOW;cLEFT TO MIDDLE AND RIGHT
2FF3 cABOVE TO MIDDLE AND BELOW;cFULL SURROUND;cSURROUND FROM ABOVE;eBELOW;eLEFT;eUPPER LEFT
2FF9 fRIGHT;eLOWER LEFT;cOVERLAID
3000 aSPACE;aCOMMA;aFULL STOP;DITTO MARK;JAPANESE INDUSTRIAL STANDARD SYMBOL
3005 IDEOGRAPHIC ITERATION MARK;aCLOSING MARK;aNUMBER ZERO;LEFT ANGLE BRACKET;RIGHT ANGLE BRACKET
300A LEFT DOUBLE ANGLE BRACKET;RIGHT DOUBLE ANGLE BRACKET;LEFT CORNER BRACKET;RIGHT CORNER BRACKET
300E LEFT WHITE CORNER BRACKET;RIGHT WHITE CORNER BRACKET;LEFT BLACK LENTICULAR BRACKET
3011 RIGHT BLACK LENTICULAR BRACKET;POSTAL MARK;GETA MARK;LEFT TORTOISE SHELL BRACKET
3015 RIGHT TORTOISE SHELL BRACKET;LEFT WHITE LENTICULAR BRACKET;RIGHT WHITE LENTICULAR BRACKET
3018 LEFT WHITE TORTOISE SHELL BRACKET;RIGHT WHITE TORTOISE SHELL BRACKET
301A LEFT WHITE SQUARE BRACKET;RIGHT WHITE SQUARE BRACKET;WAVE DASH
301D REVERSED DOUBLE PRIME QUOTATION MARK;DOUBLE PRIME QUOTATION MARK
301F LOW DOUBLE PRIME QUOTATION MARK;POSTAL MARK FACE;HANGZHOU NUMERAL ONE;bTWO;bTHREE;bFOUR;bFIVE
3026 bSIX;bSEVEN;bEIGHT;bNINE;IDEOGRAPHIC LEVEL TONE MARK;aRISING TONE MARK;aDEPARTING TONE MARK
302D aENTERING TONE MARK;HANGUL SINGLE DOT TONE MARK;aDOUBLE DOT TONE MARK;WAVY DASH
3031 VERTICAL KANA REPEAT MARK;cWITH VOICED SOUND MARK;cMARK UPPER HALF
3034 cWITH VOICED SOUND MARK UPPER HALF;cMARK LOWER HALF;CIRCLED POSTAL MARK
3037 IDEOGRAPHIC TELEGRAPH LINE FEED SEPARATOR SYMBOL;HANGZHOU NUMERAL TEN;bTWENTY;bTHIRTY
303B VERTICAL IDEOGRAPHIC ITERATION MARK;MASU MARK;PART ALTERNATION MARK
303E IDEOGRAPHIC VARIATION INDICATOR;aHALF FILL SPACE
3041 HIRAGANA LETTER SMALL A;bA;bSMALL I;bI;bSMALL U;bU;bSMALL E;bE;bSMALL O;bO;bKA;bGA;bKI;bGI
304F bKU;bGU;bKE;bGE;bKO;bGO;bSA;bZA;bSI;bZI;bSU;bZU;bSE;bZE;bSO;bZO;bTA;bDA;bTI;bDI;bSMALL TU;bTU
3065 bDU;bTE;bDE;bTO;bDO;bNA;bNI;bNU;bNE;bNO;bHA;bBA;bPA;bHI;bBI;bPI;bHU;bBU;bPU;bHE;bBE;bPE;bHO
307C bBO;bPO;bMA;bMI;bMU;bME;bMO;bSMALL YA;bYA;bSMALL YU;bYU;bSMALL YO;bYO;bRA;bRI;bRU;bRE;bRO
308E bSMALL WA;bWA;bWI;bWE;bWO;bN;bVU;bSMALL KA;cKE
3099 COMBINING KATAKANA-HIRAGANA VOICED SOUND MARK;bSEMI-VOICED SOUND MARK
309B KATAKANA-HIRAGANA VOICED SOUND MARK;aSEMI-VOICED SOUND MARK;HIRAGANA ITERATION MARK
309E aVOICED ITERATION MARK;aDIGRAPH YORI;KATAKANA-HIRAGANA DOUBLE HYPHEN;KATAKANA LETTER SMALL A
30A2 bA;bSMALL I;bI;bSMALL U;bU;bSMALL E;bE;bSMALL O;bO;bKA;bGA;bKI;bGI;bKU;bGU;bKE;bGE;bKO;bGO
30B5 bSA;bZA;bSI;bZI;bSU;bZU;bSE;bZE;bSO;bZO;bTA;bDA;bTI;bDI;bSMALL TU;bTU;bDU;bTE;bDE;bTO;bDO;bNA
30CB bNI;bNU;bNE;bNO;bHA;bBA;bPA;bHI;bBI;bPI;bHU;bBU;bPU;bHE;bBE;bPE;bHO;bBO;bPO;bMA;bMI;bMU;bME
30E2 bMO;bSMALL YA;bYA;bSMALL YU;bYU;bSMALL YO;bYO;bRA;bRI;bRU;bRE;bRO;bSMALL WA;bWA;bWI;bWE;bWO
30F3 bN;bVU;bSMALL KA;cKE;bVA;bVI;bVE;bVO;aMIDDLE DOT;KATAKANA-HIRAGANA PROLONGED SOUND MARK
30FD KATAKANA ITERATION MARK;aVOICED ITERATION MARK;aDIGRAPH KOTO
3105 BOPOMOFO LETTER B;bP;bM;bF;bD;bT;bN;bL;bG;bK;bH;bJ;bQ;bX;bZH;bCH;bSH;bR;bZ;bC;bS;bA;bO;bE;bEH
311E bAI;bEI;bAU;bOU;bAN;bEN;bANG;bENG;bER;bI;bU;bIU;bV;bNG;bGN;bIH;bO WITH DOT ABOVE;bNN
3131 HANGUL LETTER KIYEOK;bSSANGKIYEOK;bKIYEOK-SIOS;bNIEUN;bNIEUN-CIEUC;bNIEUN-HIEUH;bTIKEUT
3138 bSSANGTIKEUT;bRIEUL;bRIEUL-KIYEOK;bRIEUL-MIEUM;bRIEUL-PIEUP;bRIEUL-SIOS;bRIEUL-THIEUTH
313F bRIEUL-PHIEUPH;bRIEUL-HIEUH;bMIEUM;bPIEUP;bSSANGPIEUP;bPIEUP-SIOS;bSIOS;bSSANGSIOS;bIEUNG
3148 bCIEUC;bSSANGCIEUC;bCHIEUCH;bKHIEUKH;bTHIEUTH;bPHIEUPH;bHIEUH;bA;bAE;bYA;bYAE;bEO;bE;bYEO;bYE
3157 bO;bWA;bWAE;bOE;bYO;bU;bWEO;bWE;bWI;bYU;bEU;bYI;bI;aFILLER;aLETTER SSANGNIEUN;bNIEUN-TIKEUT
3167 bNIEUN-SIOS;bNIEUN-PANSIOS;bRIEUL-KIYEOK-SIOS;bRIEUL-TIKEUT;bRIEUL-PIEUP-SIOS;bRIEUL-PANSIOS
316D bRIEUL-YEORINHIEUH;bMIEUM-PIEUP;bMIEUM-SIOS;bMIEUM-PANSIOS;bKAPYEOUNMIEUM;bPIEUP-KIYEOK
3173 bPIEUP-TIKEUT;bPIEUP-SIOS-KIYEOK;bPIEUP-SIOS-TIKEUT;bPIEUP-CIEUC;bPIEUP-THIEUTH
3178 bKAPYEOUNPIEUP;bKAPYEOUNSSANGPIEUP;bSIOS-KIYEOK;bSIOS-NIEUN;bSIOS-TIKEUT;bSIOS-PIEUP
317E bSIOS-CIEUC;bPANSIOS;bSSANGIEUNG;bYESIEUNG;bYESIEUNG-SIOS;bYESIEUNG-PANSIOS;bKAPYEOUNPHIEUPH
3185 bSSANGHIEUH;bYEORINHIEUH;bYO-YA;bYO-YAE;bYO-I;bYU-YEO;bYU-YE;bYU-I;bARAEA;bARAEAE
3190 IDEOGRAPHIC ANNOTATION LINKING MARK;bREVERSE MARK;bONE MARK;bTWO MARK;bTHREE MARK;bFOUR MARK
3196 bTOP MARK;bMIDDLE MARK;bBOTTOM MARK;bFIRST MARK;bSECOND MARK;bTHIRD MARK;bFOURTH MARK
319D bHEAVEN MARK;bEARTH MARK;bMAN MARK;BOPOMOFO LETTER BU;bZI;bJI;bGU;bEE;bENN;bOO;bONN;bIR;bANN
31AA bINN;bUNN;bIM;bNGG;bAINN;bAUNN;bAM;bOM;bONG;bINNN;aFINAL LETTER P;cT;cK;cH;aLETTER GH;bLH;bZY
31BB aFINAL LETTER G;aLETTER GW;bKW;bOE;bAH;CJK STROKE T;bWG;bXG;bBXG;bSW;bHZZ;bHZG;bHP;bHZWG
31C9 bSZWG;bHZT;bHZZP;bHPWG;bHZW;bHZZZ;bN;bH;bS;bP;bSP;bD;bHZ;bHG;bSZ;bSWZ;bST;bSG;bPD;bPZ;bTN
31DE bSZZ;bSWG;bHXWG;bHZZZG;bPG;bQ
31F0 KATAKANA LETTER SMALL KU;cSI;cSU;cTO;cNU;cHA;cHI;cHU;cHE;cHO;cMU;cRA;cRI;cRU;cRE;cRO
3200 PARENTHESIZED HANGUL KIYEOK;bNIEUN;bTIKEUT;bRIEUL;bMIEUM;bPIEUP;bSIOS;bIEUNG;bCIEUC;bCHIEUCH
320A bKHIEUKH;bTHIEUTH;bPHIEUPH;bHIEUH;bKIYEOK A;bNIEUN A;bTIKEUT A;bRIEUL A;bMIEUM A;bPIEUP A
3214 bSIOS A;bIEUNG A;bCIEUC A;bCHIEUCH A;bKHIEUKH A;bTHIEUTH A;bPHIEUPH A;bHIEUH A;bCIEUC U
321D aKOREAN CHARACTER OJEON;cO HU
3220 aIDEOGRAPH ONE;bTWO;bTHREE;bFOUR;bFIVE;bSIX;bSEVEN;bEIGHT;bNINE;bTEN;bMOON;bFIRE;bWATER;bWOOD
322E bMETAL;bEARTH;bSUN;bSTOCK;bHAVE;bSOCIETY;bNAME;bSPECIAL;bFINANCIAL;bCONGRATULATION;bLABOR
3239 bREPRESENT;bCALL;bSTUDY;bSUPERVISE;bENTERPRISE;bRESOURCE;bALLIANCE;bFESTIVAL;bREST;bSELF
3243 bREACH;CIRCLED IDEOGRAPH QUESTION;bKINDERGARTEN;bSCHOOL;bKOTO;aNUMBER TEN ON BLACK SQUARE
3249 bTWENTY ON BLACK SQUARE;bTHIRTY ON BLACK SQUARE;bFORTY ON BLACK SQUARE;bFIFTY ON BLACK SQUARE
324D bSIXTY ON BLACK SQUARE;bSEVENTY ON BLACK SQUARE;bEIGHTY ON BLACK SQUARE;PARTNERSHIP SIGN
3251 CIRCLED NUMBER TWENTY ONE;cTWO;cTHREE;cFOUR;cFIVE;cSIX;cSEVEN;cEIGHT;cNINE;bTHIRTY;cONE;cTWO
325D cTHREE;cFOUR;cFIVE;aHANGUL KIYEOK;bNIEUN;bTIKEUT;bRIEUL;bMIEUM;bPIEUP;bSIOS;bIEUNG;bCIEUC
3269 bCHIEUCH;bKHIEUKH;bTHIEUTH;bPHIEUPH;bHIEUH;bKIYEOK A;bNIEUN A;bTIKEUT A;bRIEUL A;bMIEUM A
3273 bPIEUP A;bSIOS A;bIEUNG A;bCIEUC A;bCHIEUCH A;bKHIEUKH A;bTHIEUTH A;bPHIEUPH A;bHIEUH A
327C aKOREAN CHARACTER CHAMKO;cJUEUI;aHANGUL IEUNG U;KOREAN STANDARD SYMBOL;CIRCLED IDEOGRAPH ONE
3281 bTWO;bTHREE;bFOUR;bFIVE;bSIX;bSEVEN;bEIGHT;bNINE;bTEN;bMOON;bFIRE;bWATER;bWOOD;bMETAL;bEARTH
3290 bSUN;bSTOCK;bHAVE;bSOCIETY;bNAME;bSPECIAL;bFINANCIAL;bCONGRATULATION;bLABOR;bSECRET;bMALE
329B bFEMALE;bSUITABLE;bEXCELLENT;bPRINT;bATTENTION;bITEM;bREST;bCOPY;bCORRECT;bHIGH;bCENTRE;bLOW
32A7 bLEFT;bRIGHT;bMEDICINE;bRELIGION;bSTUDY;bSUPERVISE;bENTERPRISE;bRESOURCE;bALLIANCE;bNIGHT
32B1 aNUMBER THIRTY SIX;cSEVEN;cEIGHT;cNINE;bFORTY;cONE;cTWO;cTHREE;cFOUR;cFIVE;cSIX;cSEVEN;cEIGHT
32BE cNINE;bFIFTY;IDEOGRAPHIC TELEGRAPH SYMBOL FOR JANUARY;dFEBRUARY;dMARCH;dAPRIL;dMAY;dJUNE
32C6 dJULY;dAUGUST;dSEPTEMBER;dOCTOBER;dNOVEMBER;dDECEMBER;SQUARE HG;aERG;aEV
32CF LIMITED LIABILITY SIGN;CIRCLED KATAKANA A;bI;bU;bE;bO;bKA;bKI;bKU;bKE;bKO;bSA;bSI;bSU;bSE;bSO
32DF bTA;bTI;bTU;bTE;bTO;bNA;bNI;bNU;bNE;bNO;bHA;bHI;bHU;bHE;bHO;bMA;bMI;bMU;bME;bMO;bYA;bYU;bYO
32F6 bRA;bRI;bRU;bRE;bRO;bWA;bWI;bWE;bWO;SQUARE ERA NAME REIWA;aAPAATO;aARUHUA;aANPEA;aAARU
3304 aININGU;aINTI;aUON;aESUKUUDO;aEEKAA;aONSU;aOOMU;aKAIRI;aKARATTO;aKARORII;aGARON;aGANMA;aGIGA
3311 aGINII;aKYURII;aGIRUDAA;aKIRO;aKIROGURAMU;aKIROMEETORU;aKIROWATTO;aGURAMU;aGURAMUTON
331A aKURUZEIRO;aKUROONE;aKEESU;aKORUNA;aKOOPO;aSAIKURU;aSANTIIMU;aSIRINGU;aSENTI;aSENTO;aDAASU
3325 aDESI;aDORU;aTON;aNANO;aNOTTO;aHAITU;aPAASENTO;aPAATU;aBAARERU;aPIASUTORU;aPIKURU;aPIKO;aBIRU
3332 aHUARADDO;aHUIITO;aBUSSYERU;aHURAN;aHEKUTAARU;aPESO;aPENIHI;aHERUTU;aPENSU;aPEEZI;aBEETA
333D aPOINTO;aBORUTO;aHON;aPONDO;aHOORU;aHOON;aMAIKURO;aMAIRU;aMAHHA;aMARUKU;aMANSYON;aMIKURON
3349 aMIRI;aMIRIBAARU;aMEGA;aMEGATON;aMEETORU;aYAADO;aYAARU;aYUAN;aRITTORU;aRIRA;aRUPII;aRUUBURU
3355 aREMU;aRENTOGEN;aWATTO;IDEOGRAPHIC TELEGRAPH SYMBOL FOR HOUR ZERO;eONE;eTWO;eTHREE;eFOUR
335D eFIVE;eSIX;eSEVEN;eEIGHT;eNINE;eTEN;eELEVEN;eTWELVE;eTHIRTEEN;eFOURTEEN;eFIFTEEN;eSIXTEEN
3369 eSEVENTEEN;eEIGHTEEN;eNINETEEN;eTWENTY;eTWENTY-ONE;eTWENTY-TWO;eTWENTY-THREE;eTWENTY-FOUR
3371 SQUARE HPA;aDA;aAU;aBAR;aOV;aPC;aDM;bSQUARED;bCUBED;aIU;aERA NAME HEISEI;cSYOUWA;cTAISYOU
337E cMEIZI;aCORPORATION;aPA AMPS;aNA;aMU A;aMA;aKA;aKB;aMB;aGB;aCAL;aKCAL;aPF;aNF;aMU F;bG;aMG
338F aKG;aHZ;aKHZ;aMHZ;aGHZ;aTHZ;aMU L;aML;aDL;aKL;aFM;aNM;aMU M;aMM;aCM;aKM;aMM SQUARED
33A0 aCM SQUARED;aM SQUARED;aKM SQUARED;aMM CUBED;aCM CUBED;aM CUBED;aKM CUBED;aM OVER S;dSQUARED
33A9 aPA;aKPA;aMPA;aGPA;aRAD;bOVER S;dSQUARED;aPS;aNS;aMU S;aMS;aPV;aNV;aMU V;aMV;aKV;aMV MEGA;aPW
33BB aNW;aMU W;aMW;aKW;aMW MEGA;aK OHM;aM OHM;aAM;aBQ;aCC;aCD;aC OVER KG;aCO;aDB;aGY;aHA;aHP;aIN
33CD aKK;aKM CAPITAL;aKT;aLM;aLN;aLOG;aLX;aMB SMALL;aMIL;aMOL;aPH;aPM;aPPM;aPR;aSR;aSV;aWB
33DE aV OVER M;aA OVER M;IDEOGRAPHIC TELEGRAPH SYMBOL FOR DAY ONE;eTWO;eTHREE;eFOUR;eFIVE;eSIX
33E6 eSEVEN;eEIGHT;eNINE;eTEN;eELEVEN;eTWELVE;eTHIRTEEN;eFOURTEEN;eFIFTEEN;eSIXTEEN;eSEVENTEEN
33F1 eEIGHTEEN;eNINETEEN;eTWENTY;eTWENTY-ONE;eTWENTY-TWO;eTWENTY-THREE;eTWENTY-FOUR;eTWENTY-FIVE
33F9 eTWENTY-SIX;eTWENTY-SEVEN;eTWENTY-EIGHT;eTWENTY-NINE;eTHIRTY;eTHIRTY-ONE;SQUARE GAL
4DC0 HEXAGRAM FOR THE CREATIVE HEAVEN;cRECEPTIVE EARTH;bDIFFICULTY AT THE BEGINNING
4DC3 bYOUTHFUL FOLLY;bWAITING;bCONFLICT;bTHE ARMY;bHOLDING TOGETHER;bSMALL TAMING;bTREADING;bPEACE
4DCB bSTANDSTILL;bFELLOWSHIP;bGREAT POSSESSION;bMODESTY;bENTHUSIASM;bFOLLOWING
4DD1 bWORK ON THE DECAYED;bAPPROACH;bCONTEMPLATION;bBITING THROUGH;bGRACE;bSPLITTING APART;bRETURN
4DD8 bINNOCENCE;bGREAT TAMING;bMOUTH CORNERS;bGREAT PREPONDERANCE;bTHE ABYSMAL WATER
4DDD cCLINGING FIRE;bINFLUENCE;bDURATION;bRETREAT;bGREAT POWER;bPROGRESS;bDARKENING OF THE LIGHT
4DE4 bTHE FAMILY;bOPPOSITION;bOBSTRUCTION;bDELIVERANCE;bDECREASE;bINCREASE;bBREAKTHROUGH
4DEB bCOMING TO MEET;bGATHERING TOGETHER;bPUSHING UPWARD;bOPPRESSION;bTHE WELL;bREVOLUTION
4DF1 bTHE CAULDRON;cAROUSING THUNDER;cKEEPING STILL MOUNTAIN;bDEVELOPMENT;bTHE MARRYING MAIDEN
4DF6 bABUNDANCE;bTHE WANDERER;cGENTLE WIND;cJOYOUS LAKE;bDISPERSION;bLIMITATION;bINNER TRUTH
4DFD bSMALL PREPONDERANCE;bAFTER COMPLETION;bBEFORE COMPLETION
A000 YI SYLLABLE IT;bIX;bI;bIP;bIET;bIEX;bIE;bIEP;bAT;bAX;bA;bAP;bUOX;bUO;bUOP;bOT;bOX;bO;bOP;bEX
A014 bE;bWU;bBIT;bBIX;bBI;bBIP;bBIET;bBIEX;bBIE;bBIEP;bBAT;bBAX;bBA;bBAP;bBUOX;bBUO;bBUOP;bBOT
A026 bBOX;bBO;bBOP;bBEX;bBE;bBEP;bBUT;bBUX;bBU;bBUP;bBURX;bBUR;bBYT;bBYX;bBY;bBYP;bBYRX;bBYR;bPIT
A039 bPIX;bPI;bPIP;bPIEX;bPIE;bPIEP;bPAT;bPAX;bPA;bPAP;bPUOX;bPUO;bPUOP;bPOT;bPOX;bPO;bPOP;bPUT
A04B bPUX;bPU;bPUP;bPURX;bPUR;bPYT;bPYX;bPY;bPYP;bPYRX;bPYR;bBBIT;bBBIX;bBBI;bBBIP;bBBIET;bBBIEX
A05C bBBIE;bBBIEP;bBBAT;bBBAX;bBBA;bBBAP;bBBUOX;bBBUO;bBBUOP;bBBOT;bBBOX;bBBO;bBBOP;bBBEX;bBBE
A06B bBBEP;bBBUT;bBBUX;bBBU;bBBUP;bBBURX;bBBUR;bBBYT;bBBYX;bBBY;bBBYP;bNBIT;bNBIX;bNBI;bNBIP
A07A bNBIEX;bNBIE;bNBIEP;bNBAT;bNBAX;bNBA;bNBAP;bNBOT;bNBOX;bNBO;bNBOP;bNBUT;bNBUX;bNBU;bNBUP
A089 bNBURX;bNBUR;bNBYT;bNBYX;bNBY;bNBYP;bNBYRX;bNBYR;bHMIT;bHMIX;bHMI;bHMIP;bHMIEX;bHMIE;bHMIEP
A098 bHMAT;bHMAX;bHMA;bHMAP;bHMUOX;bHMUO;bHMUOP;bHMOT;bHMOX;bHMO;bHMOP;bHMUT;bHMUX;bHMU;bHMUP
A0A7 bHMURX;bHMUR;bHMYX;bHMY;bHMYP;bHMYRX;bHMYR;bMIT;bMIX;bMI;bMIP;bMIEX;bMIE;bMIEP;bMAT;bMAX;bMA
A0B8 bMAP;bMUOT;bMUOX;bMUO;bMUOP;bMOT;bMOX;bMO;bMOP;bMEX;bME;bMUT;bMUX;bMU;bMUP;bMURX;bMUR;bMYT
A0CA bMYX;bMY;bMYP;bFIT;bFIX;bFI;bFIP;bFAT;bFAX;bFA;bFAP;bFOX;bFO;bFOP;bFUT;bFUX;bFU;bFUP;bFURX
A0DD bFUR;bFYT;bFYX;bFY;bFYP;bVIT;bVIX;bVI;bVIP;bVIET;bVIEX;bVIE;bVIEP;bVAT;bVAX;bVA;bVAP;bVOT
A0EF bVOX;bVO;bVOP;bVEX;bVEP;bVUT;bVUX;bVU;bVUP;bVURX;bVUR;bVYT;bVYX;bVY;bVYP;bVYRX;bVYR;bDIT;bDIX
A102 bDI;bDIP;bDIEX;bDIE;bDIEP;bDAT;bDAX;bDA;bDAP;bDUOX;bDUO;bDOT;bDOX;bDO;bDOP;bDEX;bDE;bDEP;bDUT
A115 bDUX;bDU;bDUP;bDURX;bDUR;bTIT;bTIX;bTI;bTIP;bTIEX;bTIE;bTIEP;bTAT;bTAX;bTA;bTAP;bTUOT;bTUOX
A127 bTUO;bTUOP;bTOT;bTOX;bTO;bTOP;bTEX;bTE;bTEP;bTUT;bTUX;bTU;bTUP;bTURX;bTUR;bDDIT;bDDIX;bDDI
A139 bDDIP;bDDIEX;bDDIE;bDDIEP;bDDAT;bDDAX;bDDA;bDDAP;bDDUOX;bDDUO;bDDUOP;bDDOT;bDDOX;bDDO;bDDOP
A148 bDDEX;bDDE;bDDEP;bDDUT;bDDUX;bDDU;bDDUP;bDDURX;bDDUR;bNDIT;bNDIX;bNDI;bNDIP;bNDIEX;bNDIE
A157 bNDAT;bNDAX;bNDA;bNDAP;bNDOT;bNDOX;bNDO;bNDOP;bNDEX;bNDE;bNDEP;bNDUT;bNDUX;bNDU;bNDUP;bNDURX
A167 bNDUR;bHNIT;bHNIX;bHNI;bHNIP;bHNIET;bHNIEX;bHNIE;bHNIEP;bHNAT;bHNAX;bHNA;bHNAP;bHNUOX;bHNUO
A176 bHNOT;bHNOX;bHNOP;bHNEX;bHNE;bHNEP;bHNUT;bNIT;bNIX;bNI;bNIP;bNIEX;bNIE;bNIEP;bNAX;bNA;bNAP
A187 bNUOX;bNUO;bNUOP;bNOT;bNOX;bNO;bNOP;bNEX;bNE;bNEP;bNUT;bNUX;bNU;bNUP;bNURX;bNUR;bHLIT;bHLIX
A199 bHLI;bHLIP;bHLIEX;bHLIE;bHLIEP;bHLAT;bHLAX;bHLA;bHLAP;bHLUOX;bHLUO;bHLUOP;bHLOX;bHLO;bHLOP
A1A8 bHLEX;bHLE;bHLEP;bHLUT;bHLUX;bHLU;bHLUP;bHLURX;bHLUR;bHLYT;bHLYX;bHLY;bHLYP;bHLYRX;bHLYR;bLIT
A1B8 bLIX;bLI;bLIP;bLIET;bLIEX;bLIE;bLIEP;bLAT;bLAX;bLA;bLAP;bLUOT;bLUOX;bLUO;bLUOP;bLOT;bLOX;bLO
A1CA bLOP;bLEX;bLE;bLEP;bLUT;bLUX;bLU;bLUP;bLURX;bLUR;bLYT;bLYX;bLY;bLYP;bLYRX;bLYR;bGIT;bGIX;bGI
A1DD bGIP;bGIET;bGIEX;bGIE;bGIEP;bGAT;bGAX;bGA;bGAP;bGUOT;bGUOX;bGUO;bGUOP;bGOT;bGOX;bGO;bGOP;bGET
A1EF bGEX;bGE;bGEP;bGUT;bGUX;bGU;bGUP;bGURX;bGUR;bKIT;bKIX;bKI;bKIP;bKIEX;bKIE;bKIEP;bKAT;bKAX;bKA
A202 bKAP;bKUOX;bKUO;bKUOP;bKOT;bKOX;bKO;bKOP;bKET;bKEX;bKE;bKEP;bKUT;bKUX;bKU;bKUP;bKURX;bKUR
A214 bGGIT;bGGIX;bGGI;bGGIEX;bGGIE;bGGIEP;bGGAT;bGGAX;bGGA;bGGAP;bGGUOT;bGGUOX;bGGUO;bGGUOP;bGGOT
A223 bGGOX;bGGO;bGGOP;bGGET;bGGEX;bGGE;bGGEP;bGGUT;bGGUX;bGGU;bGGUP;bGGURX;bGGUR;bMGIEX;bMGIE
A232 bMGAT;bMGAX;bMGA;bMGAP;bMGUOX;bMGUO;bMGUOP;bMGOT;bMGOX;bMGO;bMGOP;bMGEX;bMGE;bMGEP;bMGUT
A241 bMGUX;bMGU;bMGUP;bMGURX;bMGUR;bHXIT;bHXIX;bHXI;bHXIP;bHXIET;bHXIEX;bHXIE;bHXIEP;bHXAT;bHXAX
A250 bHXA;bHXAP;bHXUOT;bHXUOX;bHXUO;bHXUOP;bHXOT;bHXOX;bHXO;bHXOP;bHXEX;bHXE;bHXEP;bNGIEX;bNGIE
A25F bNGIEP;bNGAT;bNGAX;bNGA;bNGAP;bNGUOT;bNGUOX;bNGUO;bNGOT;bNGOX;bNGO;bNGOP;bNGEX;bNGE;bNGEP
A26E bHIT;bHIEX;bHIE;bHAT;bHAX;bHA;bHAP;bHUOT;bHUOX;bHUO;bHUOP;bHOT;bHOX;bHO;bHOP;bHEX;bHE;bHEP
A280 bWAT;bWAX;bWA;bWAP;bWUOX;bWUO;bWUOP;bWOX;bWO;bWOP;bWEX;bWE;bWEP;bZIT;bZIX;bZI;bZIP;bZIEX;bZIE
A293 bZIEP;bZAT;bZAX;bZA;bZAP;bZUOX;bZUO;bZUOP;bZOT;bZOX;bZO;bZOP;bZEX;bZE;bZEP;bZUT;bZUX;bZU;bZUP
A2A6 bZURX;bZUR;bZYT;bZYX;bZY;bZYP;bZYRX;bZYR;bCIT;bCIX;bCI;bCIP;bCIET;bCIEX;bCIE;bCIEP;bCAT;bCAX
A2B8 bCA;bCAP;bCUOX;bCUO;bCUOP;bCOT;bCOX;bCO;bCOP;bCEX;bCE;bCEP;bCUT;bCUX;bCU;bCUP;bCURX;bCUR;bCYT
A2CB bCYX;bCY;bCYP;bCYRX;bCYR;bZZIT;bZZIX;bZZI;bZZIP;bZZIET;bZZIEX;bZZIE;bZZIEP;bZZAT;bZZAX;bZZA
A2DB bZZAP;bZZOX;bZZO;bZZOP;bZZEX;bZZE;bZZEP;bZZUX;bZZU;bZZUP;bZZURX;bZZUR;bZZYT;bZZYX;bZZY;bZZYP
A2EB bZZYRX;bZZYR;bNZIT;bNZIX;bNZI;bNZIP;bNZIEX;bNZIE;bNZIEP;bNZAT;bNZAX;bNZA;bNZAP;bNZUOX;bNZUO
A2FA bNZOX;bNZOP;bNZEX;bNZE;bNZUX;bNZU;bNZUP;bNZURX;bNZUR;bNZYT;bNZYX;bNZY;bNZYP;bNZYRX;bNZYR;bSIT
A30A bSIX;bSI;bSIP;bSIEX;bSIE;bSIEP;bSAT;bSAX;bSA;bSAP;bSUOX;bSUO;bSUOP;bSOT;bSOX;bSO;bSOP;bSEX
A31C bSE;bSEP;bSUT;bSUX;bSU;bSUP;bSURX;bSUR;bSYT;bSYX;bSY;bSYP;bSYRX;bSYR;bSSIT;bSSIX;bSSI;bSSIP
A32E bSSIEX;bSSIE;bSSIEP;bSSAT;bSSAX;bSSA;bSSAP;bSSOT;bSSOX;bSSO;bSSOP;bSSEX;bSSE;bSSEP;bSSUT
A33D bSSUX;bSSU;bSSUP;bSSYT;bSSYX;bSSY;bSSYP;bSSYRX;bSSYR;bZHAT;bZHAX;bZHA;bZHAP;bZHUOX;bZHUO
A34C bZHUOP;bZHOT;bZHOX;bZHO;bZHOP;bZHET;bZHEX;bZHE;bZHEP;bZHUT;bZHUX;bZHU;bZHUP;bZHURX;bZHUR
A35B bZHYT;bZHYX;bZHY;bZHYP;bZHYRX;bZHYR;bCHAT;bCHAX;bCHA;bCHAP;bCHUOT;bCHUOX;bCHUO;bCHUOP;bCHOT
A36A bCHOX;bCHO;bCHOP;bCHET;bCHEX;bCHE;bCHEP;bCHUX;bCHU;bCHUP;bCHURX;bCHUR;bCHYT;bCHYX;bCHY;bCHYP
A37A bCHYRX;bCHYR;bRRAX;bRRA;bRRUOX;bRRUO;bRROT;bRROX;bRRO;bRROP;bRRET;bRREX;bRRE;bRREP;bRRUT
A389 bRRUX;bRRU;bRRUP;bRRURX;bRRUR;bRRYT;bRRYX;bRRY;bRRYP;bRRYRX;bRRYR;bNRAT;bNRAX;bNRA;bNRAP
A398 bNROX;bNRO;bNROP;bNRET;bNREX;bNRE;bNREP;bNRUT;bNRUX;bNRU;bNRUP;bNRURX;bNRUR;bNRYT;bNRYX;bNRY
A3A8 bNRYP;bNRYRX;bNRYR;bSHAT;bSHAX;bSHA;bSHAP;bSHUOX;bSHUO;bSHUOP;bSHOT;bSHOX;bSHO;bSHOP;bSHET
A3B7 bSHEX;bSHE;bSHEP;bSHUT;bSHUX;bSHU;bSHUP;bSHURX;bSHUR;bSHYT;bSHYX;bSHY;bSHYP;bSHYRX;bSHYR;bRAT
A3C7 bRAX;bRA;bRAP;bRUOX;bRUO;bRUOP;bROT;bROX;bRO;bROP;bREX;bRE;bREP;bRUT;bRUX;bRU;bRUP;bRURX;bRUR
A3DA bRYT;bRYX;bRY;bRYP;bRYRX;bRYR;bJIT;bJIX;bJI;bJIP;bJIET;bJIEX;bJIE;bJIEP;bJUOT;bJUOX;bJUO
A3EB bJUOP;bJOT;bJOX;bJO;bJOP;bJUT;bJUX;bJU;bJUP;bJURX;bJUR;bJYT;bJYX;bJY;bJYP;bJYRX;bJYR;bQIT
A3FD bQIX;bQI;bQIP;bQIET;bQIEX;bQIE;bQIEP;bQUOT;bQUOX;bQUO;bQUOP;bQOT;bQOX;bQO;bQOP;bQUT;bQUX;bQU
A40F bQUP;bQURX;bQUR;bQYT;bQYX;bQY;bQYP;bQYRX;bQYR;bJJIT;bJJIX;bJJI;bJJIP;bJJIET;bJJIEX;bJJIE
A41F bJJIEP;bJJUOX;bJJUO;bJJUOP;bJJOT;bJJOX;bJJO;bJJOP;bJJUT;bJJUX;bJJU;bJJUP;bJJURX;bJJUR;bJJYT
A42E bJJYX;bJJY;bJJYP;bNJIT;bNJIX;bNJI;bNJIP;bNJIET;bNJIEX;bNJIE;bNJIEP;bNJUOX;bNJUO;bNJOT;bNJOX
A43D bNJO;bNJOP;bNJUX;bNJU;bNJUP;bNJURX;bNJUR;bNJYT;bNJYX;bNJY;bNJYP;bNJYRX;bNJYR;bNYIT;bNYIX;bNYI
A44D bNYIP;bNYIET;bNYIEX;bNYIE;bNYIEP;bNYUOX;bNYUO;bNYUOP;bNYOT;bNYOX;bNYO;bNYOP;bNYUT;bNYUX;bNYU
A45C bNYUP;bXIT;bXIX;bXI;bXIP;bXIET;bXIEX;bXIE;bXIEP;bXUOX;bXUO;bXOT;bXOX;bXO;bXOP;bXYT;bXYX;bXY
A46E bXYP;bXYRX;bXYR;bYIT;bYIX;bYI;bYIP;bYIET;bYIEX;bYIE;bYIEP;bYUOT;bYUOX;bYUO;bYUOP;bYOT;bYOX
A47F bYO;bYOP;bYUT;bYUX;bYU;bYUP;bYURX;bYUR;bYYT;bYYX;bYY;bYYP;bYYRX;bYYR
A490 aRADICAL QOT;bLI;bKIT;bNYIP;bCYP;bSSI;bGGOP;bGEP;bMI;bHXIT;bLYR;bBBUT;bMOP;bYO;bPUT;bHXUO
A4A0 bTAT;bGA;bZUP;bCYT;bDDUR;bBUR;bGGUO;bNYOP;bTU;bOP;bJJUT;bZOT;bPYT;bHMO;bYIT;bVUR;bSHY;bVEP
A4B2 bZA;bJO;bNZUP;bJJY;bGOT;bJJIE;bWO;bDU;bSHUR;bLIE;bCY;bCUOP;bCIP;bHXOP;bSHAT;bZUR;bSHOP;bCHE
A4C4 bZZIET;bNBIE;bKE
A4D0 LISU LETTER BA;bPA;bPHA;bDA;bTA;bTHA;bGA;bKA;bKHA;bJA;bCA;bCHA;bDZA;bTSA;bTSHA;bMA;bNA;bLA
A4E2 bSA;bZHA;bZA;bNGA;bHA;bXA;bHHA;bFA;bWA;bSHA;bYA;bGHA;bA;bAE;bE;bEU;bI;bO;bU;bUE;bUH;bOE
A4F8 bTONE MYA TI;cNA PO;cMYA CYA;dBO;dNA;dJEU;aPUNCTUATION COMMA;bFULL STOP;VAI SYLLABLE EE;bEEN
A502 bHEE;bWEE;bWEEN;bPEE;bBHEE;bBEE;bMBEE;bKPEE;bMGBEE;bGBEE;bFEE;bVEE;bTEE;bTHEE;bDHEE;bDHHEE
A512 bLEE;bREE;bDEE;bNDEE;bSEE;bSHEE;bZEE;bZHEE;bCEE;bJEE;bNJEE;bYEE;bKEE;bNGGEE;bGEE;bMEE;bNEE
A523 bNYEE;bI;bIN;bHI;bHIN;bWI;bWIN;bPI;bBHI;bBI;bMBI;bKPI;bMGBI;bGBI;bFI;bVI;bTI;bTHI;bDHI;bDHHI
A537 bLI;bRI;bDI;bNDI;bSI;bSHI;bZI;bZHI;bCI;bJI;bNJI;bYI;bKI;bNGGI;bGI;bMI;bNI;bNYI;bA;bAN;bNGAN
A54C bHA;bHAN;bWA;bWAN;bPA;bBHA;bBA;bMBA;bKPA;bKPAN;bMGBA;bGBA;bFA;bVA;bTA;bTHA;bDHA;bDHHA;bLA;bRA
A560 bDA;bNDA;bSA;bSHA;bZA;bZHA;bCA;bJA;bNJA;bYA;bKA;bKAN;bNGGA;bGA;bMA;bNA;bNYA;bOO;bOON;bHOO
A574 bWOO;bWOON;bPOO;bBHOO;bBOO;bMBOO;bKPOO;bMGBOO;bGBOO;bFOO;bVOO;bTOO;bTHOO;bDHOO;bDHHOO;bLOO
A584 bROO;bDOO;bNDOO;bSOO;bSHOO;bZOO;bZHOO;bCOO;bJOO;bNJOO;bYOO;bKOO;bNGGOO;bGOO;bMOO;bNOO;bNYOO
A595 bU;bUN;bHU;bHUN;bWU;bWUN;bPU;bBHU;bBU;bMBU;bKPU;bMGBU;bGBU;bFU;bVU;bTU;bTHU;bDHU;bDHHU;bLU
A5A9 bRU;bDU;bNDU;bSU;bSHU;bZU;bZHU;bCU;bJU;bNJU;bYU;bKU;bNGGU;bGU;bMU;bNU;bNYU;bO;bON;bNGON;bHO
A5BE bHON;bWO;bWON;bPO;bBHO;bBO;bMBO;bKPO;bMGBO;bGBO;bGBON;bFO;bVO;bTO;bTHO;bDHO;bDHHO;bLO;bRO;bDO
A5D2 bNDO;bSO;bSHO;bZO;bZHO;bCO;bJO;bNJO;bYO;bKO;bNGGO;bGO;bMO;bNO;bNYO;bE;bEN;bNGEN;bHE;bHEN;bWE
A5E7 bWEN;bPE;bBHE;bBE;bMBE;bKPE;bKPEN;bMGBE;bGBE;bGBEN;bFE;bVE;bTE;bTHE;bDHE;bDHHE;bLE;bRE;bDE
A5FA bNDE;bSE;bSHE;bZE;bZHE;bCE;bJE;bNJE;bYE;bKE;bNGGE;bNGGEN;bGE;bGEN;bME;bNE;bNYE;bNG
A60C bLENGTHENER;aCOMMA;aFULL STOP;aQUESTION MARK;aSYLLABLE NDOLE FA;cKA;cSOO;aSYMBOL FEENG;bKEENG
A615 bTING;bNII;bBANG;bFAA;bTAA;bDANG;bDOONG;bKUNG;bTONG;bDO-O;bJONG;aDIGIT ZERO;bONE;bTWO;bTHREE
A624 bFOUR;bFIVE;bSIX;bSEVEN;bEIGHT;bNINE;aSYLLABLE NDOLE MA;cDO
A640 CYRILLIC CAPITAL LETTER ZEMLYA;aSMALL LETTER ZEMLYA;aCAPITAL LETTER DZELO;aSMALL LETTER DZELO
A644 aCAPITAL LETTER REVERSED DZE;aSMALL LETTER REVERSED DZE;aCAPITAL LETTER IOTA
A647 aSMALL LETTER IOTA;aCAPITAL LETTER DJERV;aSMALL LETTER DJERV;aCAPITAL LETTER MONOGRAPH UK
A64B aSMALL LETTER MONOGRAPH UK;aCAPITAL LETTER BROAD OMEGA;aSMALL LETTER BROAD OMEGA
A64E aCAPITAL LETTER NEUTRAL YER;aSMALL LETTER NEUTRAL YER;aCAPITAL LETTER YERU WITH BACK YER
A651 aSMALL LETTER YERU WITH BACK YER;aCAPITAL LETTER IOTIFIED YAT;aSMALL LETTER IOTIFIED YAT
A654 aCAPITAL LETTER REVERSED YU;aSMALL LETTER REVERSED YU;aCAPITAL LETTER IOTIFIED A
A657 aSMALL LETTER IOTIFIED A;aCAPITAL LETTER CLOSED LITTLE YUS;aSMALL LETTER CLOSED LITTLE YUS
A65A aCAPITAL LETTER BLENDED YUS;aSMALL LETTER BLENDED YUS
A65C aCAPITAL LETTER IOTIFIED CLOSED LITTLE YUS;aSMALL LETTER IOTIFIED CLOSED LITTLE YUS
A65E aCAPITAL LETTER YN;aSMALL LETTER YN;aCAPITAL LETTER REVERSED TSE;aSMALL LETTER REVERSED TSE
A662 aCAPITAL LETTER SOFT DE;aSMALL LETTER SOFT DE;aCAPITAL LETTER SOFT EL;aSMALL LETTER SOFT EL
A666 aCAPITAL LETTER SOFT EM;aSMALL LETTER SOFT EM;aCAPITAL LETTER MONOCULAR O
A669 aSMALL LETTER MONOCULAR O;aCAPITAL LETTER BINOCULAR O;aSMALL LETTER BINOCULAR O
A66C aCAPITAL LETTER DOUBLE MONOCULAR O;aSMALL LETTER DOUBLE MONOCULAR O;aLETTER MULTIOCULAR O
A66F COMBINING CYRILLIC VZMET;bTEN MILLIONS SIGN;bHUNDRED MILLIONS SIGN;bTHOUSAND MILLIONS SIGN
A673 SLAVONIC ASTERISK;COMBINING CYRILLIC LETTER UKRAINIAN IE;cI;cYI;cU;cHARD SIGN;cYERU
A67A cSOFT SIGN;cOMEGA;bKAVYKA;bPAYEROK;CYRILLIC KAVYKA;aPAYEROK;aCAPITAL LETTER DWE
A681 aSMALL LETTER DWE;aCAPITAL LETTER DZWE;aSMALL LETTER DZWE;aCAPITAL LETTER ZHWE
A685 aSMALL LETTER ZHWE;aCAPITAL LETTER CCHE;aSMALL LETTER CCHE;aCAPITAL LETTER DZZE
A689 aSMALL LETTER DZZE;aCAPITAL LETTER TE WITH MIDDLE HOOK;aSMALL LETTER TE WITH MIDDLE HOOK
A68C aCAPITAL LETTER TWE;aSMALL LETTER TWE;aCAPITAL LETTER TSWE;aSMALL LETTER TSWE
A690 aCAPITAL LETTER TSSE;aSMALL LETTER TSSE;aCAPITAL LETTER TCHE;aSMALL LETTER TCHE
A694 aCAPITAL LETTER HWE;aSMALL LETTER HWE;aCAPITAL LETTER SHWE;aSMALL LETTER SHWE
A698 aCAPITAL LETTER DOUBLE O;aSMALL LETTER DOUBLE O;aCAPITAL LETTER CROSSED O
A69B aSMALL LETTER CROSSED O;MODIFIER LETTER CYRILLIC HARD SIGN;cSOFT SIGN
A69E COMBINING CYRILLIC LETTER EF;cIOTIFIED E;BAMUM LETTER A;bKA;bU;bKU;bEE;bREE;bTAE;bO;bNYI;bI
A6AA bLA;bPA;bRII;bRIEE;bLEEEE;bMEEEE;bTAA;bNDAA;bNJAEM;bM;bSUU;bMU;bSHII;bSI;bSHEUX;bSEUX;bKYEE
A6BB bKET;bNUAE;bNU;bNJUAE;bYOQ;bSHU;bYUQ;bYA;bNSHA;bKEUX;bPEUX;bNJEE;bNTEE;bPUE;bWUE;bPEE;bFEE
A6CC bRU;bLU;bMI;bNI;bREUX;bRAE;bKEN;bNGKWAEN;bNGGA;bNGA;bSHO;bPUAE;bFU;bFOM;bWA;bNA;bLI;bPI;bLOQ
A6DF bKO;bMBEN;bREN;bMEN;bMA;bTI;bKI;bMO;bMBAA;bTET;bKPA;bTEN;bNTUU;bSAMBA;bFAAMAE;bKOVUU;bKOGHOM
A6F0 aCOMBINING MARK KOQNDON;cTUKWENTIS;aNJAEMLI;aFULL STOP;aCOLON;aCOMMA;aSEMICOLON
A6F7 aQUESTION MARK
A700 MODIFIER LETTER CHINESE TONE YIN PING;dYANG PING;dYIN SHANG;dYANG SHANG;dYIN QU;dYANG QU
A706 dYIN RU;dYANG RU;bEXTRA-HIGH DOTTED TONE BAR;bHIGH DOTTED TONE BAR;bMID DOTTED TONE BAR
A70B bLOW DOTTED TONE BAR;bEXTRA-LOW DOTTED TONE BAR;bEXTRA-HIGH DOTTED LEFT-STEM TONE BAR
A70E bHIGH DOTTED LEFT-STEM TONE BAR;bMID DOTTED LEFT-STEM TONE BAR;bLOW DOTTED LEFT-STEM TONE BAR
A711 bEXTRA-LOW DOTTED LEFT-STEM TONE BAR;bEXTRA-HIGH LEFT-STEM TONE BAR;bHIGH LEFT-STEM TONE BAR
A714 bMID LEFT-STEM TONE BAR;bLOW LEFT-STEM TONE BAR;bEXTRA-LOW LEFT-STEM TONE BAR
A717 bDOT VERTICAL BAR;cSLASH;cHORIZONTAL BAR;bLOWER RIGHT CORNER ANGLE;bRAISED UP ARROW
A71C cDOWN ARROW;cEXCLAMATION MARK;cINVERTED EXCLAMATION MARK;bLOW INVERTED EXCLAMATION MARK
A720 bSTRESS AND HIGH TONE;dLOW TONE;LATIN CAPITAL LETTER EGYPTOLOGICAL ALEF
A723 aSMALL LETTER EGYPTOLOGICAL ALEF;aCAPITAL LETTER EGYPTOLOGICAL AIN
A725 aSMALL LETTER EGYPTOLOGICAL AIN;aCAPITAL LETTER HENG;aSMALL LETTER HENG;aCAPITAL LETTER TZ
A729 aSMALL LETTER TZ;aCAPITAL LETTER TRESILLO;aSMALL LETTER TRESILLO;aCAPITAL LETTER CUATRILLO
A72D aSMALL LETTER CUATRILLO;aCAPITAL LETTER CUATRILLO WITH COMMA
A72F aSMALL LETTER CUATRILLO WITH COMMA;aLETTER SMALL CAPITAL F;dS;aCAPITAL LETTER AA
A733 aSMALL LETTER AA;aCAPITAL LETTER AO;aSMALL LETTER AO;aCAPITAL LETTER AU;aSMALL LETTER AU
A738 aCAPITAL LETTER AV;aSMALL LETTER AV;aCAPITAL LETTER AV WITH HORIZONTAL BAR
A73B aSMALL LETTER AV WITH HORIZONTAL BAR;aCAPITAL LETTER AY;aSMALL LETTER AY
A73E aCAPITAL LETTER REVERSED C WITH DOT;aSMALL LETTER REVERSED C WITH DOT
A740 aCAPITAL LETTER K WITH STROKE;aSMALL LETTER K WITH STROKE
A742 aCAPITAL LETTER K WITH DIAGONAL STROKE;aSMALL LETTER K WITH DIAGONAL STROKE
A744 aCAPITAL LETTER K WITH STROKE AND DIAGONAL STROKE
A745 aSMALL LETTER K WITH STROKE AND DIAGONAL STROKE;aCAPITAL LETTER BROKEN L
A747 aSMALL LETTER BROKEN L;aCAPITAL LETTER L WITH HIGH STROKE;aSMALL LETTER L WITH HIGH STROKE
A74A aCAPITAL LETTER O WITH LONG STROKE OVERLAY;aSMALL LETTER O WITH LONG STROKE OVERLAY
A74C aCAPITAL LETTER O WITH LOOP;aSMALL LETTER O WITH LOOP;aCAPITAL LETTER OO;aSMALL LETTER OO
A750 aCAPITAL LETTER P WITH STROKE THROUGH DESCENDER;aSMALL LETTER P WITH STROKE THROUGH DESCENDER
A752 aCAPITAL LETTER P WITH FLOURISH;aSMALL LETTER P WITH FLOURISH
A754 aCAPITAL LETTER P WITH SQUIRREL TAIL;aSMALL LETTER P WITH SQUIRREL TAIL
A756 aCAPITAL LETTER Q WITH STROKE THROUGH DESCENDER;aSMALL LETTER Q WITH STROKE THROUGH DESCENDER
A758 aCAPITAL LETTER Q WITH DIAGONAL STROKE;aSMALL LETTER Q WITH DIAGONAL STROKE
A75A aCAPITAL LETTER R ROTUNDA;aSMALL LETTER R ROTUNDA;aCAPITAL LETTER RUM ROTUNDA
A75D aSMALL LETTER RUM ROTUNDA;aCAPITAL LETTER V WITH DIAGONAL STROKE
A75F aSMALL LETTER V WITH DIAGONAL STROKE;aCAPITAL LETTER VY;aSMALL LETTER VY
A762 aCAPITAL LETTER VISIGOTHIC Z;aSMALL LETTER VISIGOTHIC Z;aCAPITAL LETTER THORN WITH STROKE
A765 aSMALL LETTER THORN WITH STROKE;aCAPITAL LETTER THORN WITH STROKE THROUGH DESCENDER
A767 aSMALL LETTER THORN WITH STROKE THROUGH DESCENDER;aCAPITAL LETTER VEND;aSMALL LETTER VEND
A76A aCAPITAL LETTER ET;aSMALL LETTER ET;aCAPITAL LETTER IS;aSMALL LETTER IS;aCAPITAL LETTER CON
A76F aSMALL LETTER CON;MODIFIER LETTER US;LATIN SMALL LETTER DUM;cLUM;cMUM;cNUM;cRUM
A776 aLETTER SMALL CAPITAL RUM;aSMALL LETTER TUM;cUM;aCAPITAL LETTER INSULAR D
A77A aSMALL LETTER INSULAR D;aCAPITAL LETTER INSULAR F;aSMALL LETTER INSULAR F
A77D aCAPITAL LETTER INSULAR G;cTURNED INSULAR G;aSMALL LETTER TURNED INSULAR G
A780 aCAPITAL LETTER TURNED L;aSMALL LETTER TURNED L;aCAPITAL LETTER INSULAR R
A783 aSMALL LETTER INSULAR R;aCAPITAL LETTER INSULAR S;aSMALL LETTER INSULAR S
A786 aCAPITAL LETTER INSULAR T;aSMALL LETTER INSULAR T;MODIFIER LETTER LOW CIRCUMFLEX ACCENT
A789 bCOLON;bSHORT EQUALS SIGN;LATIN CAPITAL LETTER SALTILLO;aSMALL LETTER SALTILLO
A78D aCAPITAL LETTER TURNED H;aSMALL LETTER L WITH RETROFLEX HOOK AND BELT;aLETTER SINOLOGICAL DOT
A790 aCAPITAL LETTER N WITH DESCENDER;aSMALL LETTER N WITH DESCENDER;aCAPITAL LETTER C WITH BAR
A793 aSMALL LETTER C WITH BAR;ePALATAL HOOK;cH WITH PALATAL HOOK;aCAPITAL LETTER B WITH FLOURISH
A797 aSMALL LETTER B WITH FLOURISH;aCAPITAL LETTER F WITH STROKE;aSMALL LETTER F WITH STROKE
A79A aCAPITAL LETTER VOLAPUK AE;aSMALL LETTER VOLAPUK AE;aCAPITAL LETTER VOLAPUK OE
A79D aSMALL LETTER VOLAPUK OE;aCAPITAL LETTER VOLAPUK UE;aSMALL LETTER VOLAPUK UE
A7A0 aCAPITAL LETTER G WITH OBLIQUE STROKE;aSMALL LETTER G WITH OBLIQUE STROKE
A7A2 aCAPITAL LETTER K WITH OBLIQUE STROKE;aSMALL LETTER K WITH OBLIQUE STROKE
A7A4 aCAPITAL LETTER N WITH OBLIQUE STROKE;aSMALL LETTER N WITH OBLIQUE STROKE
A7A6 aCAPITAL LETTER R WITH OBLIQUE STROKE;aSMALL LETTER R WITH OBLIQUE STROKE
A7A8 aCAPITAL LETTER S WITH OBLIQUE STROKE;aSMALL LETTER S WITH OBLIQUE STROKE
A7AA aCAPITAL LETTER H WITH HOOK;cREVERSED OPEN E;cSCRIPT G;cL WITH BELT;cSMALL CAPITAL I
A7AF aLETTER SMALL CAPITAL Q;aCAPITAL LETTER TURNED K;dT;cJ WITH CROSSED-TAIL;cCHI;cBETA
A7B5 aSMALL LETTER BETA;aCAPITAL LETTER OMEGA;aSMALL LETTER OMEGA;aCAPITAL LETTER U WITH STROKE
A7B9 aSMALL LETTER U WITH STROKE;aCAPITAL LETTER GLOTTAL A;aSMALL LETTER GLOTTAL A
A7BC aCAPITAL LETTER GLOTTAL I;aSMALL LETTER GLOTTAL I;aCAPITAL LETTER GLOTTAL U
A7BF aSMALL LETTER GLOTTAL U;aCAPITAL LETTER OLD POLISH O;aSMALL LETTER OLD POLISH O
A7C2 aCAPITAL LETTER ANGLICANA W;aSMALL LETTER ANGLICANA W;aCAPITAL LETTER C WITH PALATAL HOOK
A7C5 cS WITH HOOK;cZ WITH PALATAL HOOK;cD WITH SHORT STROKE OVERLAY
A7C8 aSMALL LETTER D WITH SHORT STROKE OVERLAY;aCAPITAL LETTER S WITH SHORT STROKE OVERLAY
A7CA aSMALL LETTER S WITH SHORT STROKE OVERLAY
A7D0 aCAPITAL LETTER CLOSED INSULAR G;aSMALL LETTER CLOSED INSULAR G
A7D3 cDOUBLE THORN
A7D5 dWYNN;aCAPITAL LETTER MIDDLE SCOTS S;aSMALL LETTER MIDDLE SCOTS S;aCAPITAL LETTER SIGMOID S
A7D9 aSMALL LETTER SIGMOID S
A7F2 MODIFIER LETTER CAPITAL C;cF;cQ;LATIN CAPITAL LETTER REVERSED HALF H
A7F6 aSMALL LETTER REVERSED HALF H;aEPIGRAPHIC LETTER SIDEWAYS I
A7F8 MODIFIER LETTER CAPITAL H WITH STROKE;bSMALL LIGATURE OE;LATIN LETTER SMALL CAPITAL TURNED M
A7FB aEPIGRAPHIC LETTER REVERSED F;dP;cINVERTED M;cI LONGA;cARCHAIC M;SYLOTI NAGRI LETTER A;cI
A802 bSIGN DVISVARA;bLETTER U;cE;cO;bSIGN HASANTA;bLETTER KO;cKHO;cGO;cGHO;bSIGN ANUSVARA
A80C bLETTER CO;cCHO;cJO;cJHO;cTTO;cTTHO;cDDO;cDDHO;cTO;cTHO;cDO;cDHO;cNO;cPO;cPHO;cBO;cBHO;cMO
A81E cRO;cLO;cRRO;cSO;cHO;bVOWEL SIGN A;dI;dU;dE;dOO;bPOETRY MARK-1;cMARK-2;cMARK-3;cMARK-4
A82C bSIGN ALTERNATE HASANTA
A830 NORTH INDIC FRACTION ONE QUARTER;dHALF;cTHREE QUARTERS;cONE SIXTEENTH;dEIGHTH
A835 cTHREE SIXTEENTHS;bQUARTER MARK;bPLACEHOLDER MARK;bRUPEE MARK;bQUANTITY MARK
A840 PHAGS-PA LETTER KA;bKHA;bGA;bNGA;bCA;bCHA;bJA;bNYA;bTA;bTHA;bDA;bNA;bPA;bPHA;bBA;bMA;bTSA
A851 bTSHA;bDZA;bWA;bZHA;bZA;bSMALL A;bYA;bRA;bLA;bSHA;bSA;bHA;bA;bI;bU;bE;bO;bQA;bXA;bFA;bGGA;bEE
A867 aSUBJOINED LETTER WA;cYA;aLETTER TTA;bTTHA;bDDA;bNNA;bALTERNATE YA;bVOICELESS SHA;bVOICED HA
A870 bASPIRATED FA;aSUBJOINED LETTER RA;aSUPERFIXED LETTER RA;aLETTER CANDRABINDU
A874 aSINGLE HEAD MARK;aDOUBLE HEAD MARK;aMARK SHAD;bDOUBLE SHAD
A880 SAURASHTRA SIGN ANUSVARA;bVISARGA;aLETTER A;bAA;bI;bII;bU;bUU;bVOCALIC R;cRR;cL;cLL;bE;bEE
A88E bAI;bO;bOO;bAU;bKA;bKHA;bGA;bGHA;bNGA;bCA;bCHA;bJA;bJHA;bNYA;bTTA;bTTHA;bDDA;bDDHA;bNNA;bTA
A8A2 bTHA;bDA;bDHA;bNA;bPA;bPHA;bBA;bBHA;bMA;bYA;bRA;bLA;bVA;bSHA;bSSA;bSA;bHA;bLLA
A8B4 aCONSONANT SIGN HAARU;aVOWEL SIGN AA;cI;cII;cU;cUU;cVOCALIC R;dRR;dL;dLL;cE;cEE;cAI;cO;cOO
A8C3 cAU;aSIGN VIRAMA;bCANDRABINDU
A8CE aDANDA;aDOUBLE DANDA;aDIGIT ZERO;bONE;bTWO;bTHREE;bFOUR;bFIVE;bSIX;bSEVEN;bEIGHT;bNINE
A8E0 COMBINING DEVANAGARI DIGIT ZERO;cONE;cTWO;cTHREE;cFOUR;cFIVE;cSIX;cSEVEN;cEIGHT;cNINE
A8EA bLETTER A;cU;cKA;cNA;cPA;cRA;cVI;bSIGN AVAGRAHA;DEVANAGARI SIGN SPACING CANDRABINDU
A8F3 bCANDRABINDU VIRAMA;bDOUBLE CANDRABINDU VIRAMA;bCANDRABINDU TWO;cTHREE;cAVAGRAHA;bPUSHPIKA
A8F9 aGAP FILLER;aCARET;aHEADSTROKE;aSIGN SIDDHAM;aJAIN OM;aLETTER AY;aVOWEL SIGN AY
A900 KAYAH LI DIGIT ZERO;cONE;cTWO;cTHREE;cFOUR;cFIVE;cSIX;cSEVEN;cEIGHT;cNINE;bLETTER KA;cKHA;cGA
A90D cNGA;cSA;cSHA;cZA;cNYA;cTA;cHTA;cNA;cPA;cPHA;cMA;cDA;cBA;cRA;cYA;cLA;cWA;cTHA;cHA;cVA;cCA;cA
A923 cOE;cI;cOO;bVOWEL UE;cE;cU;cEE;cO;bTONE PLOPHU;cCALYA;dPLOPHU;bSIGN CWI;cSHYA
A930 REJANG LETTER KA;bGA;bNGA;bTA;bDA;bNA;bPA;bBA;bMA;bCA;bJA;bNYA;bSA;bRA;bLA;bYA;bWA;bHA;bMBA
A943 bNGGA;bNDA;bNYJA;bA;aVOWEL SIGN I;cU;cE;cAI;cO;cAU;cEU;cEA;aCONSONANT SIGN NG;cN;cR;cH
A953 aVIRAMA
A95F aSECTION MARK;HANGUL CHOSEONG TIKEUT-MIEUM;bTIKEUT-PIEUP;bTIKEUT-SIOS;bTIKEUT-CIEUC
A964 bRIEUL-KIYEOK;bRIEUL-SSANGKIYEOK;bRIEUL-TIKEUT;bRIEUL-SSANGTIKEUT;bRIEUL-MIEUM;bRIEUL-PIEUP
A96A bRIEUL-SSANGPIEUP;bRIEUL-KAPYEOUNPIEUP;bRIEUL-SIOS;bRIEUL-CIEUC;bRIEUL-KHIEUKH;bMIEUM-KIYEOK
A970 bMIEUM-TIKEUT;bMIEUM-SIOS;bPIEUP-SIOS-THIEUTH;bPIEUP-KHIEUKH;bPIEUP-HIEUH;bSSANGSIOS-PIEUP
A976 bIEUNG-RIEUL;bIEUNG-HIEUH;bSSANGCIEUC-HIEUH;bSSANGTHIEUTH;bPHIEUPH-HIEUH;bHIEUH-SIOS
A97C bSSANGYEORINHIEUH
A980 JAVANESE SIGN PANYANGGA;bCECAK;bLAYAR;bWIGNYAN;aLETTER A;bI KAWI;bI;bII;bU;bPA CEREK
A98A bNGA LELET;dRASWADI;bE;bAI;bO;bKA;cSASAK;cMURDA;bGA;cMURDA;bNGA;bCA;cMURDA;bJA;bNYA MURDA
A999 bJA MAHAPRANA;bNYA;bTTA;cMAHAPRANA;bDDA;cMAHAPRANA;bNA MURDA;bTA;cMURDA;bDA;cMAHAPRANA;bNA
A9A5 bPA;cMURDA;bBA;cMURDA;bMA;bYA;bRA;cAGUNG;bLA;bWA;bSA MURDA;cMAHAPRANA;bSA;bHA
A9B3 aSIGN CECAK TELU;aVOWEL SIGN TARUNG;cTOLONG;cWULU;dMELIK;cSUKU;dMENDUT;cTALING;cDIRGA MURE
A9BC cPEPET;aCONSONANT SIGN KERET;cPENGKAL;cCAKRA;aPANGKON;aLEFT RERENGGAN;aRIGHT RERENGGAN
A9C3 aPADA ANDAP;bMADYA;bLUHUR;bWINDU;bPANGKAT;bLINGSA;bLUNGSI;bADEG;cADEG;bPISELEH
A9CD aTURNED PADA PISELEH
A9CF aPANGRANGKEP;aDIGIT ZERO;bONE;bTWO;bTHREE;bFOUR;bFIVE;bSIX;bSEVEN;bEIGHT;bNINE
A9DE aPADA TIRTA TUMETES;bISEN-ISEN;MYANMAR LETTER SHAN GHA;cCHA;cJHA;cNNA;cBHA;aSIGN SHAN SAW
A9E6 aMODIFIER LETTER SHAN REDUPLICATION;aLETTER TAI LAING NYA;dFA;dGA;dGHA;dJA;dJHA;dDDA;dDDHA
A9EF dNNA;aTAI LAING DIGIT ZERO;dONE;dTWO;dTHREE;dFOUR;dFIVE;dSIX;dSEVEN;dEIGHT;dNINE
A9FA aLETTER TAI LAING LLA;dDA;dDHA;dBA;dBHA
AA00 CHAM LETTER A;bI;bU;bE;bAI;bO;bKA;bKHA;bGA;bGHA;bNGUE;bNGA;bCHA;bCHHA;bJA;bJHA;bNHUE;bNHA
AA12 bNHJA;bTA;bTHA;bDA;bDHA;bNUE;bNA;bDDA;bPA;bPPA;bPHA;bBA;bBHA;bMUE;bMA;bBBA;bYA;bRA;bLA;bVA
AA26 bSSA;bSA;bHA;aVOWEL SIGN AA;cI;cII;cEI;cU;cOE;cO;cAI;cAU;cUE;aCONSONANT SIGN YA;cRA;cLA;cWA
AA40 aLETTER FINAL K;cG;cNG;aCONSONANT SIGN FINAL NG;aLETTER FINAL CH;cT;cN;cP;cY;cR;cL;cSS
AA4C aCONSONANT SIGN FINAL M;dH
AA50 aDIGIT ZERO;bONE;bTWO;bTHREE;bFOUR;bFIVE;bSIX;bSEVEN;bEIGHT;bNINE
AA5C aPUNCTUATION SPIRAL;bDANDA;bDOUBLE DANDA;bTRIPLE DANDA;MYANMAR LETTER KHAMTI GA;cCA;cCHA;cJA
AA64 cJHA;cNYA;cTTA;cTTHA;cDDA;cDDHA;cDHA;cNA;cSA;cHA;cHHA;cFA
AA70 aMODIFIER LETTER KHAMTI REDUPLICATION;aLETTER KHAMTI XA;cZA;cRA;aLOGOGRAM KHAMTI OAY;cQN;cHM
AA77 aSYMBOL AITON EXCLAMATION;cONE;cTWO;aLETTER AITON RA;aSIGN PAO KAREN TONE;bTAI LAING TONE-2
AA7D dTONE-5;aLETTER SHWE PALAUNG CHA;dSHA;TAI VIET LETTER LOW KO;cHIGH KO;cLOW KHO;cHIGH KHO
AA84 cLOW KHHO;cHIGH KHHO;cLOW GO;cHIGH GO;cLOW NGO;cHIGH NGO;cLOW CO;cHIGH CO;cLOW CHO;cHIGH CHO
AA8E cLOW SO;cHIGH SO;cLOW NYO;cHIGH NYO;cLOW DO;cHIGH DO;cLOW TO;cHIGH TO;cLOW THO;cHIGH THO
AA98 cLOW NO;cHIGH NO;cLOW BO;cHIGH BO;cLOW PO;cHIGH PO;cLOW PHO;cHIGH PHO;cLOW FO;cHIGH FO
AAA2 cLOW MO;cHIGH MO;cLOW YO;cHIGH YO;cLOW RO;cHIGH RO;cLOW LO;cHIGH LO;cLOW VO;cHIGH VO;cLOW HO
AAAD cHIGH HO;cLOW O;cHIGH O;bMAI KANG;bVOWEL AA;cI;cUE;cU;cE;cO;bMAI KHIT;bVOWEL IA;cUEA;cUA;cAUE
AABC cAY;cAN;cAM;bTONE MAI EK;dNUENG;dTHO;dSONG
AADB bSYMBOL KON;cNUENG;cSAM;cHO HOI;cKOI KOI;MEETEI MAYEK LETTER E;cO;cCHA;cNYA;cTTA;cTTHA;cDDA
AAE7 cDDHA;cNNA;cSHA;cSSA;bVOWEL SIGN II;dUU;dAAI;dAU;dAAU;bCHEIKHAN;bAHANG KHUDAM;bANJI
AAF3 bSYLLABLE REPETITION MARK;bWORD REPETITION MARK;bVOWEL SIGN VISARGA;bVIRAMA
AB01 ETHIOPIC SYLLABLE TTHU;bTTHI;bTTHAA;bTTHEE;bTTHE;bTTHO
AB09 bDDHU;bDDHI;bDDHAA;bDDHEE;bDDHE;bDDHO
AB11 bDZU;bDZI;bDZAA;bDZEE;bDZE;bDZO
AB20 bCCHHA;bCCHHU;bCCHHI;bCCHHAA;bCCHHEE;bCCHHE;bCCHHO
AB28 bBBA;bBBU;bBBI;bBBAA;bBBEE;bBBE;bBBO
AB30 LATIN SMALL LETTER BARRED ALPHA;cA REVERSED-SCHWA;cBLACKLETTER E;cBARRED E;cE WITH FLOURISH
AB35 cLENIS F;cSCRIPT G WITH CROSSED-TAIL;cL WITH INVERTED LAZY S;eDOUBLE MIDDLE TILDE
AB39 eMIDDLE RING;cM WITH CROSSED-TAIL;cN WITH CROSSED-TAIL;cENG WITH CROSSED-TAIL;cBLACKLETTER O
AB3E eWITH STROKE;cOPEN O WITH STROKE;cINVERTED OE;cTURNED OE WITH STROKE;fHORIZONTAL STROKE
AB43 dO OPEN-O;fWITH STROKE;cSTIRRUP R;aLETTER SMALL CAPITAL R WITH RIGHT LEG
AB47 aSMALL LETTER R WITHOUT HANDLE;cDOUBLE R;cR WITH CROSSED-TAIL;cDOUBLE R WITH CROSSED-TAIL
AB4B cSCRIPT R;eWITH RING;cBASELINE ESH;cU WITH SHORT RIGHT LEG;dBAR WITH SHORT RIGHT LEG;cUI
AB51 cTURNED UI;cU WITH LEFT HOOK;cCHI;dWITH LOW RIGHT RING;fLEFT SERIF;cX WITH LOW RIGHT RING
AB57 eLONG LEFT LEG;hAND LOW RIGHT RING;hWITH SERIF;cY WITH SHORT RIGHT LEG
AB5B MODIFIER BREVE WITH INVERTED BREVE;aLETTER SMALL HENG;cL WITH INVERTED LAZY S;eMIDDLE TILDE
AB5F cU WITH LEFT HOOK;LATIN SMALL LETTER SAKHA YAT;cIOTIFIED E;cOPEN OE;cUO;cINVERTED ALPHA
AB65 GREEK LETTER SMALL CAPITAL OMEGA;LATIN SMALL LETTER DZ DIGRAPH WITH RETROFLEX HOOK
AB67 cTS DIGRAPH WITH RETROFLEX HOOK;cTURNED R WITH MIDDLE TILDE;MODIFIER LETTER SMALL TURNED W
AB6A bLEFT TACK;bRIGHT TACK
AB70 CHEROKEE SMALL LETTER A;cE;cI;cO;cU;cV;cGA;cKA;cGE;cGI;cGO;cGU;cGV;cHA;cHE;cHI;cHO;cHU;cHV
AB83 cLA;cLE;cLI;cLO;cLU;cLV;cMA;cME;cMI;cMO;cMU;cNA;cHNA;cNAH;cNE;cNI;cNO;cNU;cNV;cQUA;cQUE;cQUI
AB99 cQUO;cQUU;cQUV;cSA;cS;cSE;cSI;cSO;cSU;cSV;cDA;cTA;cDE;cTE;cDI;cTI;cDO;cDU;cDV;cDLA;cTLA;cTLE
ABAF cTLI;cTLO;cTLU;cTLV;cTSA;cTSE;cTSI;cTSO;cTSU;cTSV;cWA;cWE;cWI;cWO;cWU;cWV;cYA
ABC0 MEETEI MAYEK LETTER KOK;cSAM;cLAI;cMIT;cPA;cNA;cCHIL;cTIL;cKHOU;cNGOU;cTHOU;cWAI;cYANG;cHUK
ABCE cUN;cI;cPHAM;cATIYA;cGOK;cJHAM;cRAI;cBA;cJIL;cDIL;cGHOU;cDHOU;cBHAM;cKOK LONSUM;cLAI LONSUM
ABDD cMIT LONSUM;cPA LONSUM;cNA LONSUM;cTIL LONSUM;cNGOU LONSUM;cI LONSUM;bVOWEL SIGN ONAP;dINAP
ABE5 dANAP;dYENAP;dSOUNAP;dUNAP;dCHEINAP;dNUNG;bCHEIKHEI;bLUM IYEK;bAPUN IYEK
ABF0 bDIGIT ZERO;cONE;cTWO;cTHREE;cFOUR;cFIVE;cSIX;cSEVEN;cEIGHT;cNINE"

end Stencil.CharacterName
