/-! # Names of code points: sign writing, games, faces and other pictures

The lines are those of a table of names (`Stencil.NameTable`).
-/

namespace Stencil.CharacterName

/-- The names of sign writing, games, faces and other pictures. -/
def pictures : String :=
"1D800 SIGNWRITING HAND-FIST INDEX;aHAND-CIRCLE INDEX;aHAND-CUP INDEX;aHAND-OVAL INDEX
1D804 aHAND-HINGE INDEX;aHAND-ANGLE INDEX;aHAND-FIST INDEX BENT;aHAND-CIRCLE INDEX BENT
1D808 aHAND-FIST THUMB UNDER INDEX BENT;bINDEX RAISED KNUCKLE;cCUPPED;cHINGED;dLOW
1D80D aHAND-CIRCLE INDEX HINGE;aHAND-FIST INDEX MIDDLE;aHAND-CIRCLE INDEX MIDDLE
1D810 aHAND-FIST INDEX MIDDLE BENT;dRAISED KNUCKLES;dHINGED;cUP MIDDLE HINGED;cHINGED MIDDLE UP
1D815 cMIDDLE CONJOINED;eINDEX BENT;eMIDDLE BENT;eCUPPED;eHINGED;dCROSSED
1D81B aHAND-CIRCLE INDEX MIDDLE CROSSED;aHAND-FIST MIDDLE BENT OVER INDEX;bINDEX BENT OVER MIDDLE
1D81E cMIDDLE THUMB;aHAND-CIRCLE INDEX MIDDLE THUMB;aHAND-FIST INDEX MIDDLE STRAIGHT THUMB BENT
1D821 dBENT THUMB STRAIGHT;dTHUMB BENT;dHINGED SPREAD THUMB SIDE;cUP MIDDLE HINGED THUMB SIDE
1D825 gCONJOINED;cHINGED MIDDLE UP THUMB SIDE;cMIDDLE UP SPREAD THUMB FORWARD;dTHUMB CUPPED
1D829 eCIRCLED;eHOOKED;eHINGED;bTHUMB BETWEEN INDEX MIDDLE STRAIGHT
1D82D bINDEX MIDDLE CONJOINED THUMB SIDE;gCONJOINED;gBENT;bMIDDLE THUMB HOOKED INDEX UP
1D831 bINDEX THUMB HOOKED MIDDLE UP;cMIDDLE CONJOINED HINGED THUMB SIDE;dCROSSED THUMB SIDE
1D834 dCONJOINED THUMB FORWARD;eCUPPED THUMB FORWARD;bMIDDLE THUMB CUPPED INDEX UP
1D837 bINDEX THUMB CUPPED MIDDLE UP;bMIDDLE THUMB CIRCLED INDEX UP;fHINGED
1D83A bINDEX THUMB ANGLED OUT MIDDLE UP;eIN MIDDLE UP;dCIRCLED MIDDLE UP
1D83D cMIDDLE THUMB CONJOINED HINGED;eANGLED OUT;eANGLED;bMIDDLE THUMB ANGLED OUT INDEX UP
1D841 gCROSSED;eINDEX UP;bINDEX THUMB HOOKED MIDDLE HINGED;aHAND-FLAT FOUR FINGERS;dBENT;dHINGED
1D847 dCONJOINED;eSPLIT;aHAND-CLAW FOUR FINGERS CONJOINED;aHAND-FIST FOUR FINGERS CONJOINED BENT
1D84B aHAND-HINGE FOUR FINGERS CONJOINED;aHAND-FLAT FIVE FINGERS SPREAD;bHEEL FIVE FINGERS SPREAD
1D84E bFIVE FINGERS SPREAD FOUR BENT;bHEEL FIVE FINGERS SPREAD FOUR BENT;bFIVE FINGERS SPREAD BENT
1D851 bHEEL FIVE FINGERS SPREAD BENT;bFIVE FINGERS SPREAD THUMB FORWARD
1D853 aHAND-CUP FIVE FINGERS SPREAD;eOPEN;aHAND-HINGE FIVE FINGERS SPREAD OPEN
1D856 aHAND-OVAL FIVE FINGERS SPREAD;aHAND-FLAT FIVE FINGERS SPREAD HINGED;fTHUMB SIDE;fNO THUMB
1D85A aHAND-FLAT;bBETWEEN PALM FACINGS;bHEEL;bTHUMB SIDE;bHEEL THUMB SIDE;bTHUMB BENT;cFORWARD
1D861 bSPLIT INDEX THUMB SIDE;cCENTRE;dTHUMB SIDE;fBENT;cLITTLE;aHAND-CLAW;bTHUMB SIDE;bNO THUMB
1D869 bTHUMB FORWARD;aHAND-HOOK CURLICUE;aHAND-HOOK;aHAND-CUP OPEN;aHAND-CUP;bOPEN THUMB SIDE
1D86F bTHUMB SIDE;bOPEN NO THUMB;bNO THUMB;bOPEN THUMB FORWARD;bTHUMB FORWARD;aHAND-CURLICUE OPEN
1D875 aHAND-CURLICUE;aHAND-CIRCLE;aHAND-OVAL;bTHUMB SIDE;bNO THUMB;bTHUMB FORWARD;aHAND-HINGE OPEN
1D87C cTHUMB FORWARD;aHAND-HINGE;bSMALL;bOPEN THUMB SIDE;bTHUMB SIDE;bOPEN NO THUMB;bNO THUMB
1D883 bTHUMB SIDE TOUCHING INDEX;cBETWEEN MIDDLE RING;aHAND-ANGLE;aHAND-FIST INDEX MIDDLE RING
1D887 aHAND-CIRCLE INDEX MIDDLE RING;aHAND-HINGE INDEX MIDDLE RING;aHAND-ANGLE INDEX MIDDLE RING
1D88A aHAND-HINGE LITTLE;aHAND-FIST INDEX MIDDLE RING BENT;eCONJOINED
1D88D aHAND-HINGE INDEX MIDDLE RING CONJOINED;aHAND-FIST LITTLE DOWN;dRIPPLE STRAIGHT;eCURVED
1D891 dOTHERS CIRCLED;cUP;bTHUMB UNDER LITTLE UP;aHAND-CIRCLE LITTLE UP;aHAND-OVAL LITTLE UP
1D896 aHAND-ANGLE LITTLE UP;aHAND-FIST LITTLE RAISED KNUCKLE;cBENT;cTOUCHES THUMB;cTHUMB
1D89B aHAND-HINGE LITTLE THUMB;aHAND-FIST LITTLE INDEX THUMB;aHAND-HINGE LITTLE INDEX THUMB
1D89E aHAND-ANGLE LITTLE INDEX THUMB INDEX THUMB OUT;fTHUMB;aHAND-FIST LITTLE INDEX
1D8A1 aHAND-CIRCLE LITTLE INDEX;aHAND-HINGE LITTLE INDEX;aHAND-ANGLE LITTLE INDEX
1D8A4 aHAND-FIST INDEX MIDDLE LITTLE;aHAND-CIRCLE INDEX MIDDLE LITTLE
1D8A6 aHAND-HINGE INDEX MIDDLE LITTLE;bRING;aHAND-ANGLE INDEX MIDDLE LITTLE
1D8A9 aHAND-FIST INDEX MIDDLE CROSS LITTLE;aHAND-CIRCLE INDEX MIDDLE CROSS LITTLE
1D8AB aHAND-FIST RING DOWN;aHAND-HINGE RING DOWN INDEX THUMB HOOK MIDDLE
1D8AD aHAND-ANGLE RING DOWN MIDDLE THUMB INDEX CROSS;aHAND-FIST RING UP;cRAISED KNUCKLE;cLITTLE
1D8B1 aHAND-CIRCLE RING LITTLE;aHAND-OVAL RING LITTLE;aHAND-ANGLE RING LITTLE
1D8B4 aHAND-FIST RING MIDDLE;dCONJOINED;dRAISED KNUCKLES;cINDEX;cTHUMB;aHAND-HOOK RING THUMB
1D8BA aHAND-FIST INDEX RING LITTLE;aHAND-CIRCLE INDEX RING LITTLE
1D8BC aHAND-CURLICUE INDEX RING LITTLE ON;aHAND-HOOK INDEX RING LITTLE OUT;eIN;eUNDER
1D8C0 aHAND-CUP INDEX RING LITTLE;aHAND-HINGE INDEX RING LITTLE;aHAND-ANGLE INDEX RING LITTLE OUT
1D8C3 dLITTLE;aHAND-FIST MIDDLE DOWN;aHAND-HINGE MIDDLE;aHAND-FIST MIDDLE UP
1D8C7 aHAND-CIRCLE MIDDLE UP;aHAND-FIST MIDDLE RAISED KNUCKLE;cUP THUMB SIDE
1D8CA aHAND-HOOK MIDDLE THUMB;aHAND-FIST MIDDLE THUMB LITTLE;cLITTLE;cRING LITTLE
1D8CE aHAND-CIRCLE MIDDLE RING LITTLE;aHAND-CURLICUE MIDDLE RING LITTLE ON
1D8D0 aHAND-CUP MIDDLE RING LITTLE;aHAND-HINGE MIDDLE RING LITTLE
1D8D2 aHAND-ANGLE MIDDLE RING LITTLE OUT;eIN;dLITTLE;aHAND-CIRCLE MIDDLE RING LITTLE BENT
1D8D6 aHAND-CLAW MIDDLE RING LITTLE CONJOINED;fSIDE;aHAND-HOOK MIDDLE RING LITTLE CONJOINED OUT
1D8D9 fIN;eCONJOINED;aHAND-HINGE INDEX HINGED;aHAND-FIST INDEX THUMB SIDE
1D8DD aHAND-HINGE INDEX THUMB SIDE;aHAND-FIST INDEX THUMB SIDE THUMB DIAGONAL;fCONJOINED;fBENT
1D8E1 eINDEX BENT;eBOTH BENT;eINDEX HINGE;dFORWARD INDEX STRAIGHT;fBENT;dHOOK;dCURLICUE
1D8E8 dCURVE THUMB INSIDE;aHAND-CLAW INDEX THUMB CURVE THUMB INSIDE
1D8EA aHAND-FIST INDEX THUMB CURVE THUMB UNDER;dCIRCLE;aHAND-CUP INDEX THUMB;dOPEN
1D8EE aHAND-HINGE INDEX THUMB OPEN;dLARGE;cTHUMB;dSMALL;aHAND-ANGLE INDEX THUMB OUT;dIN;cTHUMB
1D8F5 aHAND-FIST THUMB;cHEEL;cSIDE DIAGONAL;dCONJOINED;dBENT;cFORWARD;cBETWEEN INDEX MIDDLE
1D8FC dMIDDLE RING;dRING LITTLE;cUNDER TWO FINGERS;cOVER TWO FINGERS;cUNDER THREE FINGERS
1D901 dFOUR FINGERS;cOVER FOUR RAISED KNUCKLES;aHAND-FIST;bHEEL;aTOUCH SINGLE;bMULTIPLE;bBETWEEN
1D908 aGRASP SINGLE;bMULTIPLE;bBETWEEN;aSTRIKE SINGLE;bMULTIPLE;bBETWEEN;aBRUSH SINGLE;bMULTIPLE
1D910 bBETWEEN;aRUB SINGLE;bMULTIPLE;bBETWEEN;aSURFACE SYMBOLS;bBETWEEN;aSQUEEZE LARGE SINGLE
1D917 bSMALL SINGLE;bLARGE MULTIPLE;bSMALL MULTIPLE;bSEQUENTIAL;aFLICK LARGE SINGLE;bSMALL SINGLE
1D91D bLARGE MULTIPLE;bSMALL MULTIPLE;bSEQUENTIAL;aSQUEEZE FLICK ALTERNATING
1D921 aMOVEMENT-HINGE UP DOWN LARGE;dSMALL;cSEQUENTIAL;bDOWN SEQUENTIAL;bUP DOWN ALTERNATING LARGE
1D926 eSMALL;bSIDE TO SIDE SCISSORS;aMOVEMENT-WALLPLANE FINGER CONTACT
1D929 aMOVEMENT-FLOORPLANE FINGER CONTACT;aMOVEMENT-WALLPLANE SINGLE STRAIGHT SMALL;dMEDIUM;dLARGE
1D92D dLARGEST;cWRIST FLEX;bDOUBLE STRAIGHT;cWRIST FLEX;cALTERNATING;dWRIST FLEX;bCROSS
1D934 bTRIPLE STRAIGHT MOVEMENT;cWRIST FLEX;cALTERNATING;dWRIST FLEX;bBEND SMALL;cMEDIUM;cLARGE
1D93B bCORNER SMALL;cMEDIUM;cLARGE;cROTATION;bCHECK SMALL;cMEDIUM;cLARGE;bBOX SMALL;cMEDIUM;cLARGE
1D945 bZIGZAG SMALL;cMEDIUM;cLARGE;bPEAKS SMALL;cMEDIUM;cLARGE
1D94B aTRAVEL-WALLPLANE ROTATION-WALLPLANE SINGLE;cDOUBLE;cALTERNATING;bROTATION-FLOORPLANE SINGLE
1D94F cDOUBLE;cALTERNATING;bSHAKING;bARM SPIRAL SINGLE;dDOUBLE;dTRIPLE
1D955 aMOVEMENT-DIAGONAL AWAY SMALL;cMEDIUM;cLARGE;cLARGEST;bTOWARDS SMALL;cMEDIUM;cLARGE;cLARGEST
1D95D bBETWEEN AWAY SMALL;dMEDIUM;dLARGE;dLARGEST;cTOWARDS SMALL;dMEDIUM;dLARGE;dLARGEST
1D965 aMOVEMENT-FLOORPLANE SINGLE STRAIGHT SMALL;dMEDIUM;dLARGE;dLARGEST;cWRIST FLEX
1D96A bDOUBLE STRAIGHT;cWRIST FLEX;cALTERNATING;dWRIST FLEX;bCROSS;bTRIPLE STRAIGHT MOVEMENT
1D970 cWRIST FLEX;cALTERNATING MOVEMENT;dWRIST FLEX;bBEND;bCORNER SMALL;cMEDIUM;cLARGE;bCHECK
1D978 bBOX SMALL;cMEDIUM;cLARGE;bZIGZAG SMALL;cMEDIUM;cLARGE;bPEAKS SMALL;cMEDIUM;cLARGE
1D981 aTRAVEL-FLOORPLANE ROTATION-FLOORPLANE SINGLE;cDOUBLE;cALTERNATING
1D984 bROTATION-WALLPLANE SINGLE;cDOUBLE;cALTERNATING;bSHAKING
1D988 aMOVEMENT-WALLPLANE CURVE QUARTER SMALL;dMEDIUM;dLARGE;dLARGEST;cHALF-CIRCLE SMALL;dMEDIUM
1D98E dLARGE;dLARGEST;cTHREE-QUARTER CIRCLE SMALL;eMEDIUM;bHUMP SMALL;cMEDIUM;cLARGE;bLOOP SMALL
1D996 cMEDIUM;cLARGE;cSMALL DOUBLE;bWAVE CURVE DOUBLE SMALL;eMEDIUM;eLARGE;dTRIPLE SMALL;eMEDIUM
1D99E eLARGE;bCURVE THEN STRAIGHT;bCURVED CROSS SMALL;dMEDIUM;aROTATION-WALLPLANE SINGLE;bDOUBLE
1D9A4 bALTERNATE;aMOVEMENT-WALLPLANE SHAKING;bCURVE HITTING FRONT WALL;bHUMP HITTING FRONT WALL
1D9A8 bLOOP HITTING FRONT WALL;bWAVE HITTING FRONT WALL
1D9AA aROTATION-WALLPLANE SINGLE HITTING FRONT WALL;bDOUBLE HITTING FRONT WALL
1D9AC bALTERNATING HITTING FRONT WALL;aMOVEMENT-WALLPLANE CURVE HITTING CHEST;bHUMP HITTING CHEST
1D9AF bLOOP HITTING CHEST;bWAVE HITTING CHEST;aROTATION-WALLPLANE SINGLE HITTING CHEST
1D9B2 bDOUBLE HITTING CHEST;bALTERNATING HITTING CHEST
1D9B4 aMOVEMENT-WALLPLANE WAVE DIAGONAL PATH SMALL;eMEDIUM;eLARGE
1D9B7 aMOVEMENT-FLOORPLANE CURVE HITTING CEILING SMALL;eLARGE;bHUMP HITTING CEILING SMALL DOUBLE
1D9BA eLARGE DOUBLE;eSMALL TRIPLE;eLARGE TRIPLE;bLOOP HITTING CEILING SMALL SINGLE;eLARGE SINGLE
1D9BF eSMALL DOUBLE;eLARGE DOUBLE;bWAVE HITTING CEILING SMALL;eLARGE
1D9C3 aROTATION-FLOORPLANE SINGLE HITTING CEILING;bDOUBLE HITTING CEILING
1D9C5 bALTERNATING HITTING CEILING;aMOVEMENT-FLOORPLANE CURVE HITTING FLOOR SMALL;eLARGE
1D9C8 bHUMP HITTING FLOOR SMALL DOUBLE;eLARGE DOUBLE;eTRIPLE SMALL TRIPLE;fLARGE TRIPLE
1D9CC bLOOP HITTING FLOOR SMALL SINGLE;eLARGE SINGLE;eSMALL DOUBLE;eLARGE DOUBLE
1D9D0 bWAVE HITTING FLOOR SMALL;eLARGE;aROTATION-FLOORPLANE SINGLE HITTING FLOOR
1D9D3 bDOUBLE HITTING FLOOR;bALTERNATING HITTING FLOOR;aMOVEMENT-FLOORPLANE CURVE SMALL;cMEDIUM
1D9D7 cLARGE;cLARGEST;cCOMBINED;bHUMP SMALL;bLOOP SMALL;bWAVE SNAKE;cSMALL;cLARGE
1D9DF aROTATION-FLOORPLANE SINGLE;bDOUBLE;bALTERNATING;aMOVEMENT-FLOORPLANE SHAKING PARALLEL
1D9E3 aMOVEMENT-WALLPLANE ARM CIRCLE SMALL SINGLE;dMEDIUM SINGLE;dSMALL DOUBLE;dMEDIUM DOUBLE
1D9E7 aMOVEMENT-FLOORPLANE ARM CIRCLE HITTING WALL SMALL SINGLE;fMEDIUM SINGLE;fLARGE SINGLE
1D9EA fSMALL DOUBLE;fMEDIUM DOUBLE;fLARGE DOUBLE;aMOVEMENT-WALLPLANE WRIST CIRCLE FRONT SINGLE
1D9EE eDOUBLE;aMOVEMENT-FLOORPLANE WRIST CIRCLE HITTING WALL SINGLE;fDOUBLE
1D9F1 aMOVEMENT-WALLPLANE FINGER CIRCLES SINGLE;dDOUBLE
1D9F3 aMOVEMENT-FLOORPLANE FINGER CIRCLES HITTING WALL SINGLE;fDOUBLE;aDYNAMIC ARROWHEAD SMALL
1D9F6 cLARGE;bFAST;bSLOW;bTENSE;bRELAXED;bSIMULTANEOUS;cALTERNATING;bEVERY OTHER TIME;bGRADUAL
1D9FF aHEAD;bRIM;bMOVEMENT-WALLPLANE STRAIGHT;cTILT;bMOVEMENT-FLOORPLANE STRAIGHT
1DA04 bMOVEMENT-WALLPLANE CURVE;bMOVEMENT-FLOORPLANE CURVE;bMOVEMENT CIRCLE
1DA07 aFACE DIRECTION POSITION NOSE FORWARD TILTING;eUP OR DOWN;hTILTING;aEYEBROWS STRAIGHT UP
1DA0B cNEUTRAL;cDOWN;aDREAMY EYEBROWS NEUTRAL DOWN;cDOWN NEUTRAL;cUP NEUTRAL;cNEUTRAL UP
1DA11 aFOREHEAD NEUTRAL;bCONTACT;bWRINKLED;aEYES OPEN;bSQUEEZED;bCLOSED;aEYE BLINK SINGLE
1DA18 cMULTIPLE;aEYES HALF OPEN;bWIDE OPEN;bHALF CLOSED;bWIDENING MOVEMENT;aEYE WINK;aEYELASHES UP
1DA1F bDOWN;bFLUTTERING;aEYEGAZE-WALLPLANE STRAIGHT;cDOUBLE;cALTERNATING
1DA24 aEYEGAZE-FLOORPLANE STRAIGHT;cDOUBLE;cALTERNATING;aEYEGAZE-WALLPLANE CURVED
1DA28 aEYEGAZE-FLOORPLANE CURVED;aEYEGAZE-WALLPLANE CIRCLING;aCHEEKS PUFFED;bNEUTRAL;bSUCKED
1DA2D aTENSE CHEEKS HIGH;cMIDDLE;cLOW;aEARS;aNOSE NEUTRAL;bCONTACT;bWRINKLES;bWIGGLES
1DA35 aAIR BLOWING OUT;bSUCKING IN;bBLOW SMALL ROTATIONS;bSUCK SMALL ROTATIONS;aBREATH INHALE
1DA3A bEXHALE;aMOUTH CLOSED NEUTRAL;cFORWARD;cCONTACT;bSMILE;cWRINKLED;cOPEN;bFROWN;cWRINKLED
1DA43 cOPEN;bOPEN CIRCLE;cFORWARD;cWRINKLED;cOVAL;dWRINKLED;dYAWN;cRECTANGLE;dWRINKLED;dYAWN;bKISS
1DA4E cFORWARD;cWRINKLED;bTENSE;cFORWARD;cSUCKED;aLIPS PRESSED TOGETHER;aLIP LOWER OVER UPPER
1DA55 bUPPER OVER LOWER;aMOUTH CORNERS;bWRINKLES SINGLE;cDOUBLE;aTONGUE STICKING OUT FAR
1DA5A bLICKING LIPS;bTIP BETWEEN LIPS;cTOUCHING INSIDE MOUTH;bINSIDE MOUTH RELAXED
1DA5E bMOVES AGAINST CHEEK;bCENTRE STICKING OUT;cINSIDE MOUTH;aTEETH;bMOVEMENT;bON TONGUE
1DA64 dMOVEMENT;cLIPS;dMOVEMENT;bBITE LIPS;aMOVEMENT-WALLPLANE JAW;aMOVEMENT-FLOORPLANE JAW;aNECK
1DA6B aHAIR;aEXCITEMENT;aSHOULDER HIP SPINE;cPOSITIONS;aWALLPLANE SHOULDER HIP MOVE
1DA70 aFLOORPLANE SHOULDER HIP MOVE;aSHOULDER TILTING FROM WAIST;aTORSO-WALLPLANE STRAIGHT STRETCH
1DA73 bCURVED BEND;aTORSO-FLOORPLANE TWISTING;aUPPER BODY TILTING FROM HIP JOINTS
1DA76 aLIMB COMBINATION;bLENGTH-1;bLENGTH-2;bLENGTH-3;bLENGTH-4;bLENGTH-5;bLENGTH-6;bLENGTH-7
1DA7E aFINGER;aLOCATION-WALLPLANE SPACE;aLOCATION-FLOORPLANE SPACE;aLOCATION HEIGHT;bWIDTH;bDEPTH
1DA84 bHEAD NECK;bTORSO;bLIMBS DIGITS;aCOMMA;aFULL STOP;aSEMICOLON;aCOLON;aPARENTHESIS
1DA9B aFILL MODIFIER-2;bMODIFIER-3;bMODIFIER-4;bMODIFIER-5;bMODIFIER-6
1DAA1 aROTATION MODIFIER-2;bMODIFIER-3;bMODIFIER-4;bMODIFIER-5;bMODIFIER-6;bMODIFIER-7;bMODIFIER-8
1DAA8 bMODIFIER-9;bMODIFIER-10;bMODIFIER-11;bMODIFIER-12;bMODIFIER-13;bMODIFIER-14;bMODIFIER-15
1DAAF bMODIFIER-16
1DF00 LATIN SMALL LETTER FENG DIGRAPH WITH TRILL;cREVERSED SCRIPT G;aLETTER SMALL CAPITAL TURNED G
1DF03 aSMALL LETTER REVERSED K;aLETTER SMALL CAPITAL L WITH BELT
1DF05 aSMALL LETTER LEZH WITH RETROFLEX HOOK;cTURNED Y WITH BELT;cREVERSED ENG
1DF08 cTURNED R WITH LONG LEG AND RETROFLEX HOOK;cT WITH HOOK AND RETROFLEX HOOK
1DF0A aLETTER RETROFLEX CLICK WITH RETROFLEX HOOK;aSMALL LETTER ESH WITH DOUBLE BAR;gAND CURL
1DF0D cTURNED T WITH CURL;aLETTER INVERTED GLOTTAL STOP WITH CURL;bSTRETCHED C WITH CURL
1DF10 bSMALL CAPITAL TURNED K;aSMALL LETTER L WITH FISHHOOK;cDEZH DIGRAPH WITH PALATAL HOOK
1DF13 cL WITH BELT AND PALATAL HOOK;cENG WITH PALATAL HOOK;cTURNED R WITH PALATAL HOOK
1DF16 cR WITH FISHHOOK AND PALATAL HOOK;cTESH DIGRAPH WITH PALATAL HOOK;cEZH WITH PALATAL HOOK
1DF19 cDEZH DIGRAPH WITH RETROFLEX HOOK;cI WITH STROKE AND RETROFLEX HOOK;cO WITH RETROFLEX HOOK
1DF1C cTESH DIGRAPH WITH RETROFLEX HOOK;cC WITH RETROFLEX HOOK;cS WITH CURL
1E000 COMBINING GLAGOLITIC LETTER AZU;cBUKY;cVEDE;cGLAGOLI;cDOBRO;cYESTU;cZHIVETE
1E008 cZEMLJA;cIZHE;cINITIAL IZHE;cI;cDJERVI;cKAKO;cLJUDIJE;cMYSLITE;cNASHI;cONU;cPOKOJI;cRITSI
1E014 cSLOVO;cTVRIDO;cUKU;cFRITU;cHERU
1E01B cSHTA;cTSI;cCHRIVI;cSHA;cYERU;cYERI;cYATI
1E023 cYU;cSMALL YUS
1E026 cYO;cIOTATED SMALL YUS;cBIG YUS;cIOTATED BIG YUS;cFITA
1E100 NYIAKENG PUACHUE HMONG LETTER MA;dTSA;dNTA;dTA;dHA;dNA;dXA;dNKA;dCA;dLA;dSA;dZA;dNCA;dNTSA
1E10E dKA;dDA;dNYA;dNRA;dVA;dNTXA;dTXA;dFA;dRA;dQA;dYA;dNQA;dPA;dXYA;dNPA;dDLA;dNPLA;dHAH;dMLA
1E121 dPLA;dGA;dRRA;dA;dAA;dI;dU;dO;dOO;dE;dEE;dW
1E130 cTONE-B;cTONE-M;cTONE-J;cTONE-V;cTONE-S;cTONE-G;cTONE-D;cSIGN FOR PERSON;eTHING;eLOCATION
1E13A eANIMAL;eINVERTEBRATE;dXW XW;cSYLLABLE LENGTHENER
1E140 cDIGIT ZERO;dONE;dTWO;dTHREE;dFOUR;dFIVE;dSIX;dSEVEN;dEIGHT;dNINE
1E14E cLOGOGRAM NYAJ;cCIRCLED CA
1E290 TOTO LETTER PA;bBA;bTA;bDA;bKA;bGA;bMA;bNA;bNGA;bSA;bCHA;bYA;bWA;bJA;bHA;bRA;bLA;bI
1E2A2 bBREATHY I;bIU;bBREATHY IU;bU;bE;bBREATHY E;bEO;bBREATHY EO;bO;bAE;bBREATHY AE;bA
1E2AE aSIGN RISING TONE
1E2C0 WANCHO LETTER AA;bA;bBA;bCA;bDA;bGA;bYA;bPHA;bLA;bNA;bPA;bTA;bTHA;bFA;bSA;bSHA;bJA;bZA;bWA
1E2D3 bVA;bKA;bO;bAU;bRA;bMA;bKHA;bHA;bE;bI;bNGA;bU;bLLHA;bTSA;bTRA;bONG;bAANG;bANG;bING;bON;bEN
1E2E8 bAAN;bNYA;bUEN;bYIH;aTONE TUP;bTUPNI;bKOI;bKOINI;aDIGIT ZERO;bONE;bTWO;bTHREE;bFOUR;bFIVE
1E2F6 bSIX;bSEVEN;bEIGHT;bNINE
1E2FF aNGUN SIGN
1E7E0 ETHIOPIC SYLLABLE HHYA;bHHYU;bHHYI;bHHYAA;bHHYEE;bHHYE;bHHYO
1E7E8 bGURAGE HHWA;bHHWI;bHHWEE;bHHWE
1E7ED bGURAGE MWI;cMWEE
1E7F0 cQWI;cQWEE;cQWE;cBWI;cBWEE;cKWI;cKWEE;cKWE;cGWI;cGWEE;cGWE;cFWI;cFWEE;cPWI;cPWEE
1E800 MENDE KIKAKUI SYLLABLE M001 KI;cM002 KA;cM003 KU;cM065 KEE;cM095 KE;cM076 KOO;cM048 KO
1E807 cM179 KUA;cM004 WI;cM005 WA;cM006 WU;cM126 WEE;cM118 WE;cM114 WOO;cM045 WO;cM194 WUI
1E810 cM143 WEI;cM061 WVI;cM049 WVA;cM139 WVE;cM007 MIN;cM008 MAN;cM009 MUN;cM059 MEN;cM094 MON
1E819 cM154 MUAN;cM189 MUEN;cM010 BI;cM011 BA;cM012 BU;cM150 BEE;cM097 BE;cM103 BOO;cM138 BO
1E822 cM013 I;cM014 A;cM015 U;cM163 EE;cM100 E;cM165 OO;cM147 O;cM137 EI;cM131 IN;cM135 IN
1E82C cM195 AN;cM178 EN;cM019 SI;cM020 SA;cM021 SU;cM162 SEE;cM116 SE;cM136 SOO;cM079 SO;cM196 SIA
1E836 cM025 LI;cM026 LA;cM027 LU;cM084 LEE;cM073 LE;cM054 LOO;cM153 LO;cM110 LONG LE;cM016 DI
1E83F cM017 DA;cM018 DU;cM089 DEE;cM180 DOO;cM181 DO;cM022 TI;cM023 TA;cM024 TU;cM091 TEE;cM055 TE
1E849 cM104 TOO;cM069 TO;cM028 JI;cM029 JA;cM030 JU;cM157 JEE;cM113 JE;cM160 JOO;cM063 JO
1E852 cM175 LONG JO;cM031 YI;cM032 YA;cM033 YU;cM109 YEE;cM080 YE;cM141 YOO;cM121 YO;cM034 FI
1E85B cM035 FA;cM036 FU;cM078 FEE;cM075 FE;cM133 FOO;cM088 FO;cM197 FUA;cM101 FAN;cM037 NIN
1E864 cM038 NAN;cM039 NUN;cM117 NEN;cM169 NON;cM176 HI;cM041 HA;cM186 HU;cM040 HEE;cM096 HE
1E86D cM042 HOO;cM140 HO;cM083 HEEI;cM128 HOOU;cM053 HIN;cM130 HAN;cM087 HUN;cM052 HEN;cM193 HON
1E876 cM046 HUAN;cM090 NGGI;cM043 NGGA;cM082 NGGU;cM115 NGGEE;cM146 NGGE;cM156 NGGOO;cM120 NGGO
1E87E cM159 NGGAA;cM127 NGGUA;cM086 LONG NGGE;cM106 LONG NGGOO;cM183 LONG NGGO;cM155 GI;cM111 GA
1E885 cM168 GU;cM190 GEE;cM166 GUEI;cM167 GUAN;cM184 NGEN;cM057 NGON;cM177 NGUAN;cM068 PI;cM099 PA
1E88E cM050 PU;cM081 PEE;cM051 PE;cM102 POO;cM066 PO;cM145 MBI;cM062 MBA;cM122 MBU;cM047 MBEE
1E897 cM188 MBEE;cM072 MBE;cM172 MBOO;cM174 MBO;cM187 MBUU;cM161 LONG MBE;cM105 LONG MBOO
1E89E cM142 LONG MBO;cM132 KPI;cM092 KPA;cM074 KPU;cM044 KPEE;cM108 KPE;cM112 KPOO;cM158 KPO
1E8A6 cM124 GBI;cM056 GBA;cM148 GBU;cM093 GBEE;cM107 GBE;cM071 GBOO;cM070 GBO;cM171 RA;cM123 NDI
1E8AF cM129 NDA;cM125 NDU;cM191 NDEE;cM119 NDE;cM067 NDOO;cM064 NDO;cM152 NJA;cM192 NJU;cM149 NJEE
1E8B8 cM134 NJOO;cM182 VI;cM185 VA;cM151 VU;cM173 VEE;cM085 VE;cM144 VOO;cM077 VO;cM164 NYIN
1E8C1 cM058 NYAN;cM170 NYUN;cM098 NYEN;cM060 NYON
1E8C7 bDIGIT ONE;cTWO;cTHREE;cFOUR;cFIVE;cSIX;cSEVEN;cEIGHT;cNINE;bCOMBINING NUMBER TEENS;dTENS
1E8D2 dHUNDREDS;dTHOUSANDS;dTEN THOUSANDS;dHUNDRED THOUSANDS;dMILLIONS
1E900 ADLAM CAPITAL LETTER ALIF;cDAALI;cLAAM;cMIIM;cBA;cSINNYIIYHE;cPE;cBHE;cRA;cE;cFA;cI;cO;cDHA
1E90E cYHE;cWAW;cNUN;cKAF;cYA;cU;cJIIM;cCHI;cHA;cQAAF;cGA;cNYA;cTU;cNHA;cVA;cKHA;cGBE;cZAL;cKPO
1E921 cSHA;aSMALL LETTER ALIF;cDAALI;cLAAM;cMIIM;cBA;cSINNYIIYHE;cPE;cBHE;cRA;cE;cFA;cI;cO;cDHA
1E930 cYHE;cWAW;cNUN;cKAF;cYA;cU;cJIIM;cCHI;cHA;cQAAF;cGA;cNYA;cTU;cNHA;cVA;cKHA;cGBE;cZAL;cKPO
1E943 cSHA;aALIF LENGTHENER;aVOWEL LENGTHENER;aGEMINATION MARK;aHAMZA;aCONSONANT MODIFIER
1E949 aGEMINATE CONSONANT MODIFIER;aNUKTA;aNASALIZATION MARK
1E950 aDIGIT ZERO;bONE;bTWO;bTHREE;bFOUR;bFIVE;bSIX;bSEVEN;bEIGHT;bNINE
1E95E aINITIAL EXCLAMATION MARK;bQUESTION MARK
1EC71 INDIC SIYAQ NUMBER ONE;cTWO;cTHREE;cFOUR;cFIVE;cSIX;cSEVEN;cEIGHT;cNINE;cTEN;cTWENTY;cTHIRTY
1EC7D cFORTY;cFIFTY;cSIXTY;cSEVENTY;cEIGHTY;cNINETY;cONE HUNDRED;cTWO HUNDRED;cTHREE HUNDRED
1EC86 cFOUR HUNDRED;cFIVE HUNDRED;cSIX HUNDRED;cSEVEN HUNDRED;cEIGHT HUNDRED;cNINE HUNDRED
1EC8C cONE THOUSAND;cTWO THOUSAND;cTHREE THOUSAND;cFOUR THOUSAND;cFIVE THOUSAND;cSIX THOUSAND
1EC92 cSEVEN THOUSAND;cEIGHT THOUSAND;cNINE THOUSAND;cTEN THOUSAND;cTWENTY THOUSAND
1EC97 cTHIRTY THOUSAND;cFORTY THOUSAND;cFIFTY THOUSAND;cSIXTY THOUSAND;cSEVENTY THOUSAND
1EC9C cEIGHTY THOUSAND;cNINETY THOUSAND;cLAKH;cLAKHAN;bLAKH MARK;bNUMBER KAROR;cKARORAN
1ECA3 cPREFIXED ONE;dTWO;dTHREE;dFOUR;dFIVE;dSIX;dSEVEN;dEIGHT;dNINE;bPLACEHOLDER
1ECAD bFRACTION ONE QUARTER;dHALF;cTHREE QUARTERS;bRUPEE MARK;bNUMBER ALTERNATE ONE;dTWO
1ECB3 dTEN THOUSAND;bALTERNATE LAKH MARK
1ED01 OTTOMAN SIYAQ NUMBER ONE;cTWO;cTHREE;cFOUR;cFIVE;cSIX;cSEVEN;cEIGHT;cNINE;cTEN;cTWENTY
1ED0C cTHIRTY;cFORTY;cFIFTY;cSIXTY;cSEVENTY;cEIGHTY;cNINETY;cONE HUNDRED;cTWO HUNDRED
1ED15 cTHREE HUNDRED;cFOUR HUNDRED;cFIVE HUNDRED;cSIX HUNDRED;cSEVEN HUNDRED;cEIGHT HUNDRED
1ED1B cNINE HUNDRED;cONE THOUSAND;cTWO THOUSAND;cTHREE THOUSAND;cFOUR THOUSAND;cFIVE THOUSAND
1ED21 cSIX THOUSAND;cSEVEN THOUSAND;cEIGHT THOUSAND;cNINE THOUSAND;cTEN THOUSAND;cTWENTY THOUSAND
1ED27 cTHIRTY THOUSAND;cFORTY THOUSAND;cFIFTY THOUSAND;cSIXTY THOUSAND;cSEVENTY THOUSAND
1ED2C cEIGHTY THOUSAND;cNINETY THOUSAND;bMARRATAN;bALTERNATE NUMBER TWO;dTHREE;dFOUR;dFIVE;dSIX
1ED34 dSEVEN;dEIGHT;dNINE;dTEN;dFOUR HUNDRED;dSIX HUNDRED;dTWO THOUSAND;dTEN THOUSAND
1ED3C bFRACTION ONE HALF;dSIXTH
1EE00 ARABIC MATHEMATICAL ALEF;bBEH;bJEEM;bDAL
1EE05 bWAW;bZAIN;bHAH;bTAH;bYEH;bKAF;bLAM;bMEEM;bNOON;bSEEN;bAIN;bFEH;bSAD;bQAF;bREH;bSHEEN;bTEH
1EE16 bTHEH;bKHAH;bTHAL;bDAD;bZAH;bGHAIN;bDOTLESS BEH;cNOON;cFEH;cQAF
1EE21 bINITIAL BEH;cJEEM
1EE24 cHEH
1EE27 cHAH
1EE29 cYEH;cKAF;cLAM;cMEEM;cNOON;cSEEN;cAIN;cFEH;cSAD;cQAF
1EE34 cSHEEN;cTEH;cTHEH;cKHAH
1EE39 cDAD
1EE3B cGHAIN
1EE42 bTAILED JEEM
1EE47 cHAH
1EE49 cYEH
1EE4B cLAM
1EE4D cNOON;cSEEN;cAIN
1EE51 cSAD;cQAF
1EE54 cSHEEN
1EE57 cKHAH
1EE59 cDAD
1EE5B cGHAIN
1EE5D cDOTLESS NOON
1EE5F dQAF
1EE61 bSTRETCHED BEH;cJEEM
1EE64 cHEH
1EE67 cHAH;cTAH;cYEH;cKAF
1EE6C cMEEM;cNOON;cSEEN;cAIN;cFEH;cSAD;cQAF
1EE74 cSHEEN;cTEH;cTHEH;cKHAH
1EE79 cDAD;cZAH;cGHAIN;cDOTLESS BEH
1EE7E dFEH
1EE80 bLOOPED ALEF;cBEH;cJEEM;cDAL;cHEH;cWAW;cZAIN;cHAH;cTAH;cYEH
1EE8B cLAM;cMEEM;cNOON;cSEEN;cAIN;cFEH;cSAD;cQAF;cREH;cSHEEN;cTEH;cTHEH;cKHAH;cTHAL;cDAD;cZAH
1EE9B cGHAIN
1EEA1 bDOUBLE-STRUCK BEH;cJEEM;cDAL
1EEA5 cWAW;cZAIN;cHAH;cTAH;cYEH
1EEAB cLAM;cMEEM;cNOON;cSEEN;cAIN;cFEH;cSAD;cQAF;cREH;cSHEEN;cTEH;cTHEH;cKHAH;cTHAL;cDAD;cZAH
1EEBB cGHAIN
1EEF0 bOPERATOR MEEM WITH HAH WITH TATWEEL;cHAH WITH DAL
1F000 MAHJONG TILE EAST WIND;bSOUTH WIND;bWEST WIND;bNORTH WIND;bRED DRAGON;bGREEN DRAGON
1F006 bWHITE DRAGON;bONE OF CHARACTERS;bTWO OF CHARACTERS;bTHREE OF CHARACTERS;bFOUR OF CHARACTERS
1F00B bFIVE OF CHARACTERS;bSIX OF CHARACTERS;bSEVEN OF CHARACTERS;bEIGHT OF CHARACTERS
1F00F bNINE OF CHARACTERS;bONE OF BAMBOOS;bTWO OF BAMBOOS;bTHREE OF BAMBOOS;bFOUR OF BAMBOOS
1F014 bFIVE OF BAMBOOS;bSIX OF BAMBOOS;bSEVEN OF BAMBOOS;bEIGHT OF BAMBOOS;bNINE OF BAMBOOS
1F019 bONE OF CIRCLES;bTWO OF CIRCLES;bTHREE OF CIRCLES;bFOUR OF CIRCLES;bFIVE OF CIRCLES
1F01E bSIX OF CIRCLES;bSEVEN OF CIRCLES;bEIGHT OF CIRCLES;bNINE OF CIRCLES;bPLUM;bORCHID;bBAMBOO
1F025 bCHRYSANTHEMUM;bSPRING;bSUMMER;bAUTUMN;bWINTER;bJOKER;bBACK
1F030 DOMINO TILE HORIZONTAL BACK;bHORIZONTAL-00-00;bHORIZONTAL-00-01;bHORIZONTAL-00-02
1F034 bHORIZONTAL-00-03;bHORIZONTAL-00-04;bHORIZONTAL-00-05;bHORIZONTAL-00-06;bHORIZONTAL-01-00
1F039 bHORIZONTAL-01-01;bHORIZONTAL-01-02;bHORIZONTAL-01-03;bHORIZONTAL-01-04;bHORIZONTAL-01-05
1F03E bHORIZONTAL-01-06;bHORIZONTAL-02-00;bHORIZONTAL-02-01;bHORIZONTAL-02-02;bHORIZONTAL-02-03
1F043 bHORIZONTAL-02-04;bHORIZONTAL-02-05;bHORIZONTAL-02-06;bHORIZONTAL-03-00;bHORIZONTAL-03-01
1F048 bHORIZONTAL-03-02;bHORIZONTAL-03-03;bHORIZONTAL-03-04;bHORIZONTAL-03-05;bHORIZONTAL-03-06
1F04D bHORIZONTAL-04-00;bHORIZONTAL-04-01;bHORIZONTAL-04-02;bHORIZONTAL-04-03;bHORIZONTAL-04-04
1F052 bHORIZONTAL-04-05;bHORIZONTAL-04-06;bHORIZONTAL-05-00;bHORIZONTAL-05-01;bHORIZONTAL-05-02
1F057 bHORIZONTAL-05-03;bHORIZONTAL-05-04;bHORIZONTAL-05-05;bHORIZONTAL-05-06;bHORIZONTAL-06-00
1F05C bHORIZONTAL-06-01;bHORIZONTAL-06-02;bHORIZONTAL-06-03;bHORIZONTAL-06-04;bHORIZONTAL-06-05
1F061 bHORIZONTAL-06-06;bVERTICAL BACK;bVERTICAL-00-00;bVERTICAL-00-01;bVERTICAL-00-02
1F066 bVERTICAL-00-03;bVERTICAL-00-04;bVERTICAL-00-05;bVERTICAL-00-06;bVERTICAL-01-00
1F06B bVERTICAL-01-01;bVERTICAL-01-02;bVERTICAL-01-03;bVERTICAL-01-04;bVERTICAL-01-05
1F070 bVERTICAL-01-06;bVERTICAL-02-00;bVERTICAL-02-01;bVERTICAL-02-02;bVERTICAL-02-03
1F075 bVERTICAL-02-04;bVERTICAL-02-05;bVERTICAL-02-06;bVERTICAL-03-00;bVERTICAL-03-01
1F07A bVERTICAL-03-02;bVERTICAL-03-03;bVERTICAL-03-04;bVERTICAL-03-05;bVERTICAL-03-06
1F07F bVERTICAL-04-00;bVERTICAL-04-01;bVERTICAL-04-02;bVERTICAL-04-03;bVERTICAL-04-04
1F084 bVERTICAL-04-05;bVERTICAL-04-06;bVERTICAL-05-00;bVERTICAL-05-01;bVERTICAL-05-02
1F089 bVERTICAL-05-03;bVERTICAL-05-04;bVERTICAL-05-05;bVERTICAL-05-06;bVERTICAL-06-00
1F08E bVERTICAL-06-01;bVERTICAL-06-02;bVERTICAL-06-03;bVERTICAL-06-04;bVERTICAL-06-05
1F093 bVERTICAL-06-06
1F0A0 PLAYING CARD BACK;bACE OF SPADES;bTWO OF SPADES;bTHREE OF SPADES;bFOUR OF SPADES
1F0A5 bFIVE OF SPADES;bSIX OF SPADES;bSEVEN OF SPADES;bEIGHT OF SPADES;bNINE OF SPADES
1F0AA bTEN OF SPADES;bJACK OF SPADES;bKNIGHT OF SPADES;bQUEEN OF SPADES;bKING OF SPADES
1F0B1 bACE OF HEARTS;bTWO OF HEARTS;bTHREE OF HEARTS;bFOUR OF HEARTS;bFIVE OF HEARTS
1F0B6 bSIX OF HEARTS;bSEVEN OF HEARTS;bEIGHT OF HEARTS;bNINE OF HEARTS;bTEN OF HEARTS
1F0BB bJACK OF HEARTS;bKNIGHT OF HEARTS;bQUEEN OF HEARTS;bKING OF HEARTS;bRED JOKER
1F0C1 bACE OF DIAMONDS;bTWO OF DIAMONDS;bTHREE OF DIAMONDS;bFOUR OF DIAMONDS;bFIVE OF DIAMONDS
1F0C6 bSIX OF DIAMONDS;bSEVEN OF DIAMONDS;bEIGHT OF DIAMONDS;bNINE OF DIAMONDS;bTEN OF DIAMONDS
1F0CB bJACK OF DIAMONDS;bKNIGHT OF DIAMONDS;bQUEEN OF DIAMONDS;bKING OF DIAMONDS;bBLACK JOKER
1F0D1 bACE OF CLUBS;bTWO OF CLUBS;bTHREE OF CLUBS;bFOUR OF CLUBS;bFIVE OF CLUBS;bSIX OF CLUBS
1F0D7 bSEVEN OF CLUBS;bEIGHT OF CLUBS;bNINE OF CLUBS;bTEN OF CLUBS;bJACK OF CLUBS;bKNIGHT OF CLUBS
1F0DD bQUEEN OF CLUBS;bKING OF CLUBS;bWHITE JOKER;bFOOL;bTRUMP-1;bTRUMP-2;bTRUMP-3;bTRUMP-4
1F0E5 bTRUMP-5;bTRUMP-6;bTRUMP-7;bTRUMP-8;bTRUMP-9;bTRUMP-10;bTRUMP-11;bTRUMP-12;bTRUMP-13
1F0EE bTRUMP-14;bTRUMP-15;bTRUMP-16;bTRUMP-17;bTRUMP-18;bTRUMP-19;bTRUMP-20;bTRUMP-21
1F100 DIGIT ZERO FULL STOP;bCOMMA;aONE COMMA;aTWO COMMA;aTHREE COMMA;aFOUR COMMA;aFIVE COMMA
1F107 aSIX COMMA;aSEVEN COMMA;aEIGHT COMMA;aNINE COMMA;DINGBAT CIRCLED SANS-SERIF DIGIT ZERO
1F10C aNEGATIVE CIRCLED SANS-SERIF DIGIT ZERO;CIRCLED ZERO WITH SLASH;aANTICLOCKWISE ARROW
1F10F aDOLLAR SIGN WITH OVERLAID BACKSLASH;PARENTHESIZED LATIN CAPITAL LETTER A;dB;dC;dD;dE;dF;dG
1F117 dH;dI;dJ;dK;dL;dM;dN;dO;dP;dQ;dR;dS;dT;dU;dV;dW;dX;dY;dZ
1F12A TORTOISE SHELL BRACKETED LATIN CAPITAL LETTER S;CIRCLED ITALIC LATIN CAPITAL LETTER C;eR;aCD
1F12E aWZ;COPYLEFT SYMBOL;SQUARED LATIN CAPITAL LETTER A;dB;dC;dD;dE;dF;dG;dH;dI;dJ;dK;dL;dM;dN;dO
1F13F dP;dQ;dR;dS;dT;dU;dV;dW;dX;dY;dZ;aHV;aMV;aSD;aSS;aPPV;aWC
1F150 NEGATIVE CIRCLED LATIN CAPITAL LETTER A;eB;eC;eD;eE;eF;eG;eH;eI;eJ;eK;eL;eM;eN;eO;eP;eQ;eR
1F162 eS;eT;eU;eV;eW;eX;eY;eZ;RAISED MC SIGN;aMD SIGN;aMR SIGN;CIRCLED CC
1F16E aC WITH OVERLAID BACKSLASH;aHUMAN FIGURE;NEGATIVE SQUARED LATIN CAPITAL LETTER A;eB;eC;eD;eE
1F175 eF;eG;eH;eI;eJ;eK;eL;eM;eN;eO;eP;eQ;eR;eS;eT;eU;eV;eW;eX;eY;eZ
1F18A CROSSED NEGATIVE SQUARED LATIN CAPITAL LETTER P;NEGATIVE SQUARED IC;bPA;bSA;bAB;bWC
1F190 SQUARE DJ;SQUARED CL;aCOOL;aFREE;aID;aNEW;aNG;aOK;aSOS;aUP WITH EXCLAMATION MARK;aVS
1F19B aTHREE D;aSECOND SCREEN;aTWO K;aFOUR K;aEIGHT K;aFIVE POINT ONE;aSEVEN POINT ONE
1F1A2 aTWENTY-TWO POINT TWO;aSIXTY P;aONE HUNDRED TWENTY P;aLATIN SMALL LETTER D;aHC;aHDR;aHI-RES
1F1A9 aLOSSLESS;aSHV;aUHD;aVOD;MASK WORK SYMBOL
1F1E6 REGIONAL INDICATOR SYMBOL LETTER A;dB;dC;dD;dE;dF;dG;dH;dI;dJ;dK;dL;dM;dN;dO;dP;dQ;dR;dS;dT
1F1FA dU;dV;dW;dX;dY;dZ;SQUARE HIRAGANA HOKA;SQUARED KATAKANA KOKO;bSA
1F210 aCJK UNIFIED IDEOGRAPH-624B;cIDEOGRAPH-5B57;cIDEOGRAPH-53CC;aKATAKANA DE
1F214 aCJK UNIFIED IDEOGRAPH-4E8C;cIDEOGRAPH-591A;cIDEOGRAPH-89E3;cIDEOGRAPH-5929;cIDEOGRAPH-4EA4
1F219 cIDEOGRAPH-6620;cIDEOGRAPH-7121;cIDEOGRAPH-6599;cIDEOGRAPH-524D;cIDEOGRAPH-5F8C
1F21E cIDEOGRAPH-518D;cIDEOGRAPH-65B0;cIDEOGRAPH-521D;cIDEOGRAPH-7D42;cIDEOGRAPH-751F
1F223 cIDEOGRAPH-8CA9;cIDEOGRAPH-58F0;cIDEOGRAPH-5439;cIDEOGRAPH-6F14;cIDEOGRAPH-6295
1F228 cIDEOGRAPH-6355;cIDEOGRAPH-4E00;cIDEOGRAPH-4E09;cIDEOGRAPH-904A;cIDEOGRAPH-5DE6
1F22D cIDEOGRAPH-4E2D;cIDEOGRAPH-53F3;cIDEOGRAPH-6307;cIDEOGRAPH-8D70;cIDEOGRAPH-6253
1F232 cIDEOGRAPH-7981;cIDEOGRAPH-7A7A;cIDEOGRAPH-5408;cIDEOGRAPH-6E80;cIDEOGRAPH-6709
1F237 cIDEOGRAPH-6708;cIDEOGRAPH-7533;cIDEOGRAPH-5272;cIDEOGRAPH-55B6;cIDEOGRAPH-914D
1F240 TORTOISE SHELL BRACKETED CJK UNIFIED IDEOGRAPH-672C;eIDEOGRAPH-4E09;eIDEOGRAPH-4E8C
1F243 eIDEOGRAPH-5B89;eIDEOGRAPH-70B9;eIDEOGRAPH-6253;eIDEOGRAPH-76D7;eIDEOGRAPH-52DD
1F248 eIDEOGRAPH-6557
1F250 CIRCLED IDEOGRAPH ADVANTAGE;bACCEPT
1F260 ROUNDED SYMBOL FOR FU;cLU;cSHOU;cXI;cSHUANGXI;cCAI
1F300 CYCLONE;FOGGY;CLOSED UMBRELLA;NIGHT WITH STARS;SUNRISE OVER MOUNTAINS;SUNRISE
1F306 CITYSCAPE AT DUSK;SUNSET OVER BUILDINGS;RAINBOW;BRIDGE AT NIGHT;WATER WAVE;VOLCANO;MILKY WAY
1F30D EARTH GLOBE EUROPE-AFRICA;bAMERICAS;bASIA-AUSTRALIA;GLOBE WITH MERIDIANS;NEW MOON SYMBOL
1F312 WAXING CRESCENT MOON SYMBOL;FIRST QUARTER MOON SYMBOL;WAXING GIBBOUS MOON SYMBOL
1F315 FULL MOON SYMBOL;WANING GIBBOUS MOON SYMBOL;LAST QUARTER MOON SYMBOL
1F318 WANING CRESCENT MOON SYMBOL;CRESCENT MOON;NEW MOON WITH FACE;FIRST QUARTER MOON WITH FACE
1F31C LAST QUARTER MOON WITH FACE;FULL MOON WITH FACE;SUN WITH FACE;GLOWING STAR;SHOOTING STAR
1F321 THERMOMETER;BLACK DROPLET;WHITE SUN;bWITH SMALL CLOUD;bBEHIND CLOUD;dWITH RAIN
1F327 CLOUD WITH RAIN;bSNOW;bLIGHTNING;bTORNADO;FOG;WIND BLOWING FACE;HOT DOG;TACO;BURRITO
1F330 CHESTNUT;SEEDLING;EVERGREEN TREE;DECIDUOUS TREE;PALM TREE;CACTUS;HOT PEPPER;TULIP
1F338 CHERRY BLOSSOM;ROSE;HIBISCUS;SUNFLOWER;BLOSSOM;EAR OF MAIZE;bRICE;HERB;FOUR LEAF CLOVER
1F341 MAPLE LEAF;FALLEN LEAF;LEAF FLUTTERING IN WIND;MUSHROOM;TOMATO;AUBERGINE;GRAPES;MELON
1F349 WATERMELON;TANGERINE;LEMON;BANANA;PINEAPPLE;RED APPLE;GREEN APPLE;PEAR;PEACH;CHERRIES
1F353 STRAWBERRY;HAMBURGER;SLICE OF PIZZA;MEAT ON BONE;POULTRY LEG;RICE CRACKER;aBALL;COOKED RICE
1F35B CURRY AND RICE;STEAMING BOWL;SPAGHETTI;BREAD;FRENCH FRIES;ROASTED SWEET POTATO;DANGO;ODEN
1F363 SUSHI;FRIED SHRIMP;FISH CAKE WITH SWIRL DESIGN;SOFT ICE CREAM;SHAVED ICE;ICE CREAM;DOUGHNUT
1F36A COOKIE;CHOCOLATE BAR;CANDY;LOLLIPOP;CUSTARD;HONEY POT;SHORTCAKE;BENTO BOX;POT OF FOOD
1F373 COOKING;FORK AND KNIFE;TEACUP WITHOUT HANDLE;SAKE BOTTLE AND CUP;WINE GLASS;COCKTAIL GLASS
1F379 TROPICAL DRINK;BEER MUG;CLINKING BEER MUGS;BABY BOTTLE;FORK AND KNIFE WITH PLATE
1F37E BOTTLE WITH POPPING CORK;POPCORN;RIBBON;WRAPPED PRESENT;BIRTHDAY CAKE;JACK-O-LANTERN
1F384 CHRISTMAS TREE;FATHER CHRISTMAS;FIREWORKS;FIREWORK SPARKLER;BALLOON;PARTY POPPER
1F38A CONFETTI BALL;TANABATA TREE;CROSSED FLAGS;PINE DECORATION;JAPANESE DOLLS;CARP STREAMER
1F390 WIND CHIME;MOON VIEWING CEREMONY;SCHOOL SATCHEL;GRADUATION CAP;HEART WITH TIP ON THE LEFT
1F395 BOUQUET OF FLOWERS;MILITARY MEDAL;REMINDER RIBBON;MUSICAL KEYBOARD WITH JACKS
1F399 STUDIO MICROPHONE;LEVEL SLIDER;CONTROL KNOBS;BEAMED ASCENDING MUSICAL NOTES
1F39D aDESCENDING MUSICAL NOTES;FILM FRAMES;ADMISSION TICKETS;CAROUSEL HORSE;FERRIS WHEEL
1F3A2 ROLLER COASTER;FISHING POLE AND FISH;MICROPHONE;MOVIE CAMERA;CINEMA;HEADPHONE;ARTIST PALETTE
1F3A9 TOP HAT;CIRCUS TENT;TICKET;CLAPPER BOARD;PERFORMING ARTS;VIDEO GAME;DIRECT HIT;SLOT MACHINE
1F3B1 BILLIARDS;GAME DIE;BOWLING;FLOWER PLAYING CARDS;MUSICAL NOTE;MULTIPLE MUSICAL NOTES
1F3B7 SAXOPHONE;GUITAR;MUSICAL KEYBOARD;TRUMPET;VIOLIN;MUSICAL SCORE;RUNNING SHIRT WITH SASH
1F3BE TENNIS RACQUET AND BALL;SKI AND SKI BOOT;BASKETBALL AND HOOP;CHEQUERED FLAG;SNOWBOARDER
1F3C3 RUNNER;SURFER;SPORTS MEDAL;TROPHY;HORSE RACING;AMERICAN FOOTBALL;RUGBY FOOTBALL;SWIMMER
1F3CB WEIGHT LIFTER;GOLFER;RACING MOTORCYCLE;aCAR;CRICKET BAT AND BALL;VOLLEYBALL
1F3D1 FIELD HOCKEY STICK AND BALL;ICE HOCKEY STICK AND PUCK;TABLE TENNIS PADDLE AND BALL
1F3D4 SNOW CAPPED MOUNTAIN;CAMPING;BEACH WITH UMBRELLA;BUILDING CONSTRUCTION;HOUSE BUILDINGS
1F3D9 CITYSCAPE;DERELICT HOUSE BUILDING;CLASSICAL BUILDING;DESERT;aISLAND;NATIONAL PARK;STADIUM
1F3E0 HOUSE BUILDING;aWITH GARDEN;OFFICE BUILDING;JAPANESE POST OFFICE;EUROPEAN POST OFFICE
1F3E5 HOSPITAL;BANK;AUTOMATED TELLER MACHINE;HOTEL;LOVE HOTEL;CONVENIENCE STORE;SCHOOL
1F3EC DEPARTMENT STORE;FACTORY;IZAKAYA LANTERN;JAPANESE CASTLE;EUROPEAN CASTLE;WHITE PENNANT
1F3F2 BLACK PENNANT;WAVING WHITE FLAG;aBLACK FLAG;ROSETTE;BLACK ROSETTE;LABEL
1F3F8 BADMINTON RACQUET AND SHUTTLECOCK;BOW AND ARROW;AMPHORA;EMOJI MODIFIER FITZPATRICK TYPE-1-2
1F3FC cTYPE-3;cTYPE-4;cTYPE-5;cTYPE-6;RAT;MOUSE;OX;WATER BUFFALO;COW;TIGER;LEOPARD;RABBIT;CAT
1F409 DRAGON;CROCODILE;WHALE;SNAIL;SNAKE;HORSE;RAM;GOAT;SHEEP;MONKEY;ROOSTER;CHICKEN;DOG;PIG;BOAR
1F418 ELEPHANT;OCTOPUS;SPIRAL SHELL;BUG;ANT;HONEYBEE;LADY BEETLE;FISH;TROPICAL FISH;BLOWFISH
1F422 TURTLE;HATCHING CHICK;BABY CHICK;FRONT-FACING BABY CHICK;BIRD;PENGUIN;KOALA;POODLE
1F42A DROMEDARY CAMEL;BACTRIAN CAMEL;DOLPHIN;MOUSE FACE;COW FACE;TIGER FACE;RABBIT FACE;CAT FACE
1F432 DRAGON FACE;SPOUTING WHALE;HORSE FACE;MONKEY FACE;DOG FACE;PIG FACE;FROG FACE;HAMSTER FACE
1F43A WOLF FACE;BEAR FACE;PANDA FACE;PIG NOSE;PAW PRINTS;CHIPMUNK;EYES;EYE;EAR;NOSE;MOUTH;TONGUE
1F446 WHITE UP POINTING BACKHAND INDEX;aDOWN POINTING BACKHAND INDEX;aLEFT POINTING BACKHAND INDEX
1F449 aRIGHT POINTING BACKHAND INDEX;FISTED HAND SIGN;WAVING HAND SIGN;OK HAND SIGN;THUMBS UP SIGN
1F44E aDOWN SIGN;CLAPPING HANDS SIGN;OPEN HANDS SIGN;CROWN;WOMANS HAT;EYEGLASSES;NECKTIE;T-SHIRT
1F456 JEANS;DRESS;KIMONO;BIKINI;WOMANS CLOTHES;PURSE;HANDBAG;POUCH;MANS SHOE;ATHLETIC SHOE
1F460 HIGH-HEELED SHOE;WOMANS SANDAL;aBOOTS;FOOTPRINTS;BUST IN SILHOUETTE;BUSTS IN SILHOUETTE;BOY
1F467 GIRL;MAN;WOMAN;FAMILY;MAN AND WOMAN HOLDING HANDS;TWO MEN HOLDING HANDS;aWOMEN HOLDING HANDS
1F46E POLICE OFFICER;WOMAN WITH BUNNY EARS;BRIDE WITH VEIL;PERSON WITH BLOND HAIR
1F472 MAN WITH GUA PI MAO;bTURBAN;OLDER MAN;aWOMAN;BABY;CONSTRUCTION WORKER;PRINCESS;JAPANESE OGRE
1F47A aGOBLIN;GHOST;BABY ANGEL;EXTRATERRESTRIAL ALIEN;ALIEN MONSTER;IMP;SKULL
1F481 INFORMATION DESK PERSON;GUARDSMAN;DANCER;LIPSTICK;NAIL POLISH;FACE MASSAGE;HAIRCUT
1F488 BARBER POLE;SYRINGE;PILL;KISS MARK;LOVE LETTER;RING;GEM STONE;KISS;BOUQUET;COUPLE WITH HEART
1F492 WEDDING;BEATING HEART;BROKEN HEART;TWO HEARTS;SPARKLING HEART;GROWING HEART;HEART WITH ARROW
1F499 BLUE HEART;GREEN HEART;YELLOW HEART;PURPLE HEART;HEART WITH RIBBON;REVOLVING HEARTS
1F49F HEART DECORATION;DIAMOND SHAPE WITH A DOT INSIDE;ELECTRIC LIGHT BULB;ANGER SYMBOL;BOMB
1F4A4 SLEEPING SYMBOL;COLLISION SYMBOL;SPLASHING SWEAT SYMBOL;DROPLET;DASH SYMBOL;PILE OF POO
1F4AA FLEXED BICEPS;DIZZY SYMBOL;SPEECH BALLOON;THOUGHT BALLOON;WHITE FLOWER;HUNDRED POINTS SYMBOL
1F4B0 MONEY BAG;CURRENCY EXCHANGE;HEAVY DOLLAR SIGN;CREDIT CARD;BANKNOTE WITH YEN SIGN
1F4B5 bDOLLAR SIGN;bEURO SIGN;bPOUND SIGN;MONEY WITH WINGS;CHART WITH UPWARDS TREND AND YEN SIGN
1F4BA SEAT;PERSONAL COMPUTER;BRIEFCASE;MINIDISC;FLOPPY DISK;OPTICAL DISC;DVD;FILE FOLDER
1F4C2 OPEN FILE FOLDER;PAGE WITH CURL;aFACING UP;CALENDAR;TEAR-OFF CALENDAR;CARD INDEX
1F4C8 CHART WITH UPWARDS TREND;bDOWNWARDS TREND;BAR CHART;CLIPBOARD;PUSHPIN;ROUND PUSHPIN
1F4CE PAPERCLIP;STRAIGHT RULER;TRIANGULAR RULER;BOOKMARK TABS;LEDGER;NOTEBOOK
1F4D4 aWITH DECORATIVE COVER;CLOSED BOOK;OPEN BOOK;GREEN BOOK;BLUE BOOK;ORANGE BOOK;BOOKS
1F4DB NAME BADGE;SCROLL;MEMO;TELEPHONE RECEIVER;PAGER;FAX MACHINE;SATELLITE ANTENNA
1F4E2 PUBLIC ADDRESS LOUDSPEAKER;CHEERING MEGAPHONE;OUTBOX TRAY;INBOX TRAY;PACKAGE;E-MAIL SYMBOL
1F4E8 INCOMING ENVELOPE;ENVELOPE WITH DOWNWARDS ARROW ABOVE;CLOSED MAILBOX WITH LOWERED FLAG
1F4EB cRAISED FLAG;OPEN MAILBOX WITH RAISED FLAG;cLOWERED FLAG;POSTBOX;POSTAL HORN;NEWSPAPER
1F4F1 MOBILE PHONE;bWITH RIGHTWARDS ARROW AT LEFT;VIBRATION MODE;MOBILE PHONE OFF;NO MOBILE PHONES
1F4F6 ANTENNA WITH BARS;CAMERA;aWITH FLASH;VIDEO CAMERA;TELEVISION;RADIO;VIDEOCASSETTE
1F4FD FILM PROJECTOR;PORTABLE STEREO;PRAYER BEADS;TWISTED RIGHTWARDS ARROWS
1F501 CLOCKWISE RIGHTWARDS AND LEFTWARDS OPEN CIRCLE ARROWS;gWITH CIRCLED ONE OVERLAY
1F503 aDOWNWARDS AND UPWARDS OPEN CIRCLE ARROWS
1F504 ANTICLOCKWISE DOWNWARDS AND UPWARDS OPEN CIRCLE ARROWS;LOW BRIGHTNESS SYMBOL
1F506 HIGH BRIGHTNESS SYMBOL;SPEAKER WITH CANCELLATION STROKE;SPEAKER;aWITH ONE SOUND WAVE
1F50A bTHREE SOUND WAVES;BATTERY;ELECTRIC PLUG;LEFT-POINTING MAGNIFYING GLASS
1F50E RIGHT-POINTING MAGNIFYING GLASS;LOCK WITH INK PEN;CLOSED LOCK WITH KEY;KEY;LOCK;OPEN LOCK
1F514 BELL;aWITH CANCELLATION STROKE;BOOKMARK;LINK SYMBOL;RADIO BUTTON
1F519 BACK WITH LEFTWARDS ARROW ABOVE;END WITH LEFTWARDS ARROW ABOVE
1F51B ON WITH EXCLAMATION MARK WITH LEFT RIGHT ARROW ABOVE;SOON WITH RIGHTWARDS ARROW ABOVE
1F51D TOP WITH UPWARDS ARROW ABOVE;NO ONE UNDER EIGHTEEN SYMBOL;KEYCAP TEN
1F520 INPUT SYMBOL FOR LATIN CAPITAL LETTERS;dSMALL LETTERS;cNUMBERS;cSYMBOLS;cLATIN LETTERS;FIRE
1F526 ELECTRIC TORCH;WRENCH;HAMMER;NUT AND BOLT;HOCHO;PISTOL;MICROSCOPE;TELESCOPE;CRYSTAL BALL
1F52F SIX POINTED STAR WITH MIDDLE DOT;JAPANESE SYMBOL FOR BEGINNER;TRIDENT EMBLEM
1F532 BLACK SQUARE BUTTON;WHITE SQUARE BUTTON;LARGE RED CIRCLE;aBLUE CIRCLE;aORANGE DIAMOND
1F537 aBLUE DIAMOND;SMALL ORANGE DIAMOND;aBLUE DIAMOND;UP-POINTING RED TRIANGLE
1F53B DOWN-POINTING RED TRIANGLE;UP-POINTING SMALL RED TRIANGLE;DOWN-POINTING SMALL RED TRIANGLE
1F53E LOWER RIGHT SHADOWED WHITE CIRCLE;UPPER RIGHT SHADOWED WHITE CIRCLE;CIRCLED CROSS POMMEE
1F541 CROSS POMMEE WITH HALF-CIRCLE BELOW;aPOMMEE;NOTCHED LEFT SEMICIRCLE WITH THREE DOTS
1F544 aRIGHT SEMICIRCLE WITH THREE DOTS;SYMBOL FOR MARKS CHAPTER;WHITE LATIN CROSS
1F547 HEAVY LATIN CROSS;CELTIC CROSS;OM SYMBOL;DOVE OF PEACE;KAABA;MOSQUE;SYNAGOGUE
1F54E MENORAH WITH NINE BRANCHES;BOWL OF HYGIEIA;CLOCK FACE ONE OCLOCK;bTWO OCLOCK;bTHREE OCLOCK
1F553 bFOUR OCLOCK;bFIVE OCLOCK;bSIX OCLOCK;bSEVEN OCLOCK;bEIGHT OCLOCK;bNINE OCLOCK;bTEN OCLOCK
1F55A bELEVEN OCLOCK;bTWELVE OCLOCK;bONE-THIRTY;bTWO-THIRTY;bTHREE-THIRTY;bFOUR-THIRTY
1F560 bFIVE-THIRTY;bSIX-THIRTY;bSEVEN-THIRTY;bEIGHT-THIRTY;bNINE-THIRTY;bTEN-THIRTY;bELEVEN-THIRTY
1F567 bTWELVE-THIRTY;RIGHT SPEAKER;bWITH ONE SOUND WAVE;cTHREE SOUND WAVES;BULLHORN
1F56C aWITH SOUND WAVES;RINGING BELL;BOOK;CANDLE;MANTELPIECE CLOCK;BLACK SKULL AND CROSSBONES
1F572 NO PIRACY;HOLE;MAN IN BUSINESS SUIT LEVITATING;SLEUTH OR SPY;DARK SUNGLASSES;SPIDER;aWEB
1F579 JOYSTICK;MAN DANCING;LEFT HAND TELEPHONE RECEIVER;TELEPHONE RECEIVER WITH PAGE
1F57D RIGHT HAND TELEPHONE RECEIVER;WHITE TOUCHTONE TELEPHONE;BLACK TOUCHTONE TELEPHONE
1F580 TELEPHONE ON TOP OF MODEM;CLAMSHELL MOBILE PHONE;BACK OF ENVELOPE;STAMPED ENVELOPE
1F584 ENVELOPE WITH LIGHTNING;FLYING ENVELOPE;PEN OVER STAMPED ENVELOPE;LINKED PAPERCLIPS
1F588 BLACK PUSHPIN;LOWER LEFT PENCIL;bBALLPOINT PEN;bFOUNTAIN PEN;bPAINTBRUSH;bCRAYON
1F58E LEFT WRITING HAND;TURNED OK HAND SIGN;RAISED HAND WITH FINGERS SPLAYED
1F591 REVERSED RAISED HAND WITH FINGERS SPLAYED;aTHUMBS UP SIGN;bDOWN SIGN;aVICTORY HAND
1F595 aHAND WITH MIDDLE FINGER EXTENDED;RAISED HAND WITH PART BETWEEN MIDDLE AND RING FINGERS
1F597 WHITE DOWN POINTING LEFT HAND INDEX;SIDEWAYS WHITE LEFT POINTING INDEX;bRIGHT POINTING INDEX
1F59A aBLACK LEFT POINTING INDEX;bRIGHT POINTING INDEX;BLACK LEFT POINTING BACKHAND INDEX
1F59D aRIGHT POINTING BACKHAND INDEX;SIDEWAYS WHITE UP POINTING INDEX;bDOWN POINTING INDEX
1F5A0 aBLACK UP POINTING INDEX;bDOWN POINTING INDEX;BLACK UP POINTING BACKHAND INDEX
1F5A3 aDOWN POINTING BACKHAND INDEX;aHEART;DESKTOP COMPUTER;KEYBOARD AND MOUSE
1F5A7 THREE NETWORKED COMPUTERS;PRINTER;POCKET CALCULATOR;BLACK HARD SHELL FLOPPY DISK
1F5AB WHITE HARD SHELL FLOPPY DISK;SOFT SHELL FLOPPY DISK;TAPE CARTRIDGE;WIRED KEYBOARD
1F5AF ONE BUTTON MOUSE;TWO BUTTON MOUSE;THREE BUTTON MOUSE;TRACKBALL;OLD PERSONAL COMPUTER
1F5B4 HARD DISK;SCREEN;PRINTER ICON;FAX ICON;OPTICAL DISC ICON;DOCUMENT WITH TEXT;cAND PICTURE
1F5BB bPICTURE;FRAME WITH PICTURE;bTILES;bAN X;BLACK FOLDER;FOLDER;OPEN FOLDER;CARD INDEX DIVIDERS
1F5C3 aFILE BOX;FILE CABINET;EMPTY NOTE;bPAGE;bPAD;NOTE;aPAGE;aPAD;EMPTY DOCUMENT;aPAGE;aPAGES
1F5CE DOCUMENT;PAGE;PAGES;WASTEBASKET;SPIRAL NOTE PAD;aCALENDAR PAD;DESKTOP WINDOW;MINIMIZE
1F5D6 MAXIMIZE;OVERLAP;CLOCKWISE RIGHT AND LEFT SEMICIRCLE ARROWS;CANCELLATION X
1F5DA INCREASE FONT SIZE SYMBOL;DECREASE FONT SIZE SYMBOL;COMPRESSION;OLD KEY;ROLLED-UP NEWSPAPER
1F5DF PAGE WITH CIRCLED TEXT;STOCK CHART;DAGGER KNIFE;LIPS;SPEAKING HEAD IN SILHOUETTE
1F5E4 THREE RAYS ABOVE;bBELOW;bLEFT;bRIGHT;LEFT SPEECH BUBBLE;RIGHT SPEECH BUBBLE
1F5EA TWO SPEECH BUBBLES;THREE SPEECH BUBBLES;LEFT THOUGHT BUBBLE;RIGHT THOUGHT BUBBLE
1F5EE LEFT ANGER BUBBLE;RIGHT ANGER BUBBLE;MOOD BUBBLE;LIGHTNING MOOD BUBBLE;aMOOD
1F5F3 BALLOT BOX WITH BALLOT;aSCRIPT X;aBOX WITH SCRIPT X;aBOLD SCRIPT X;aBOX WITH BOLD SCRIPT X
1F5F8 LIGHT CHECK MARK;BALLOT BOX WITH BOLD CHECK;WORLD MAP;MOUNT FUJI;TOKYO TOWER
1F5FD STATUE OF LIBERTY;SILHOUETTE OF JAPAN;MOYAI;GRINNING FACE;bWITH SMILING EYES
1F602 FACE WITH TEARS OF JOY;SMILING FACE WITH OPEN MOUTH;eAND SMILING EYES;fCOLD SWEAT
1F606 fTIGHTLY-CLOSED EYES;cHALO;cHORNS;WINKING FACE;SMILING FACE WITH SMILING EYES
1F60B FACE SAVOURING DELICIOUS FOOD;RELIEVED FACE;SMILING FACE WITH HEART-SHAPED EYES;cSUNGLASSES
1F60F SMIRKING FACE;NEUTRAL FACE;EXPRESSIONLESS FACE;UNAMUSED FACE;FACE WITH COLD SWEAT
1F614 PENSIVE FACE;CONFUSED FACE;CONFOUNDED FACE;KISSING FACE;FACE THROWING A KISS
1F619 KISSING FACE WITH SMILING EYES;cCLOSED EYES;FACE WITH STUCK-OUT TONGUE;dAND WINKING EYE
1F61D eTIGHTLY-CLOSED EYES;DISAPPOINTED FACE;WORRIED FACE;ANGRY FACE;POUTING FACE;CRYING FACE
1F623 PERSEVERING FACE;FACE WITH LOOK OF TRIUMPH;DISAPPOINTED BUT RELIEVED FACE
1F626 FROWNING FACE WITH OPEN MOUTH;ANGUISHED FACE;FEARFUL FACE;WEARY FACE;SLEEPY FACE;TIRED FACE
1F62C GRIMACING FACE;LOUDLY CRYING FACE;FACE WITH OPEN MOUTH;HUSHED FACE
1F630 FACE WITH OPEN MOUTH AND COLD SWEAT;aSCREAMING IN FEAR;ASTONISHED FACE;FLUSHED FACE
1F634 SLEEPING FACE;DIZZY FACE;FACE WITHOUT MOUTH;aWITH MEDICAL MASK
1F638 GRINNING CAT FACE WITH SMILING EYES;CAT FACE WITH TEARS OF JOY
1F63A SMILING CAT FACE WITH OPEN MOUTH;dHEART-SHAPED EYES;CAT FACE WITH WRY SMILE
1F63D KISSING CAT FACE WITH CLOSED EYES;POUTING CAT FACE;CRYING CAT FACE;WEARY CAT FACE
1F641 SLIGHTLY FROWNING FACE;aSMILING FACE;UPSIDE-DOWN FACE;FACE WITH ROLLING EYES
1F645 bNO GOOD GESTURE;bOK GESTURE;PERSON BOWING DEEPLY;SEE-NO-EVIL MONKEY;HEAR-NO-EVIL MONKEY
1F64A SPEAK-NO-EVIL MONKEY;HAPPY PERSON RAISING ONE HAND;PERSON RAISING BOTH HANDS IN CELEBRATION
1F64D aFROWNING;aWITH POUTING FACE;bFOLDED HANDS;NORTH WEST POINTING LEAF;SOUTH WEST POINTING LEAF
1F652 NORTH EAST POINTING LEAF;SOUTH EAST POINTING LEAF;TURNED NORTH WEST POINTING LEAF
1F655 aSOUTH WEST POINTING LEAF;aNORTH EAST POINTING LEAF;aSOUTH EAST POINTING LEAF
1F658 NORTH WEST POINTING VINE LEAF;SOUTH WEST POINTING VINE LEAF;NORTH EAST POINTING VINE LEAF
1F65B SOUTH EAST POINTING VINE LEAF;HEAVY NORTH WEST POINTING VINE LEAF
1F65D aSOUTH WEST POINTING VINE LEAF;aNORTH EAST POINTING VINE LEAF;aSOUTH EAST POINTING VINE LEAF
1F660 NORTH WEST POINTING BUD;SOUTH WEST POINTING BUD;NORTH EAST POINTING BUD
1F663 SOUTH EAST POINTING BUD;HEAVY NORTH WEST POINTING BUD;aSOUTH WEST POINTING BUD
1F666 aNORTH EAST POINTING BUD;aSOUTH EAST POINTING BUD;HOLLOW QUILT SQUARE ORNAMENT
1F669 dIN BLACK SQUARE;SOLID QUILT SQUARE ORNAMENT;dIN BLACK SQUARE;LEFTWARDS ROCKET
1F66D UPWARDS ROCKET;RIGHTWARDS ROCKET;DOWNWARDS ROCKET;SCRIPT LIGATURE ET ORNAMENT
1F671 HEAVY SCRIPT LIGATURE ET ORNAMENT;LIGATURE OPEN ET ORNAMENT;HEAVY LIGATURE OPEN ET ORNAMENT
1F674 aAMPERSAND ORNAMENT;SWASH AMPERSAND ORNAMENT
1F676 SANS-SERIF HEAVY DOUBLE TURNED COMMA QUOTATION MARK ORNAMENT;cCOMMA QUOTATION MARK ORNAMENT
1F678 bLOW DOUBLE COMMA QUOTATION MARK ORNAMENT;HEAVY INTERROBANG ORNAMENT
1F67A SANS-SERIF INTERROBANG ORNAMENT;HEAVY SANS-SERIF INTERROBANG ORNAMENT;VERY HEAVY SOLIDUS
1F67D bREVERSE SOLIDUS;CHECKER BOARD;REVERSE CHECKER BOARD;ROCKET;HELICOPTER;STEAM LOCOMOTIVE
1F683 RAILWAY CAR;HIGH-SPEED TRAIN;bWITH BULLET NOSE;TRAIN;METRO;LIGHT RAIL;STATION;TRAM;aCAR;BUS
1F68D ONCOMING BUS;TROLLEYBUS;BUS STOP;MINIBUS;AMBULANCE;FIRE ENGINE;POLICE CAR
1F694 ONCOMING POLICE CAR;TAXI;ONCOMING TAXI;AUTOMOBILE;ONCOMING AUTOMOBILE;RECREATIONAL VEHICLE
1F69A DELIVERY TRUCK;ARTICULATED LORRY;TRACTOR;MONORAIL;MOUNTAIN RAILWAY;SUSPENSION RAILWAY
1F6A0 MOUNTAIN CABLEWAY;AERIAL TRAMWAY;SHIP;ROWBOAT;SPEEDBOAT;HORIZONTAL TRAFFIC LIGHT
1F6A6 VERTICAL TRAFFIC LIGHT;CONSTRUCTION SIGN;POLICE CARS REVOLVING LIGHT;TRIANGULAR FLAG ON POST
1F6AA DOOR;NO ENTRY SIGN;SMOKING SYMBOL;NO SMOKING SYMBOL;PUT LITTER IN ITS PLACE SYMBOL
1F6AF DO NOT LITTER SYMBOL;POTABLE WATER SYMBOL;NON-POTABLE WATER SYMBOL;BICYCLE;NO BICYCLES
1F6B4 BICYCLIST;MOUNTAIN BICYCLIST;PEDESTRIAN;NO PEDESTRIANS;CHILDREN CROSSING;MENS SYMBOL
1F6BA WOMENS SYMBOL;RESTROOM;BABY SYMBOL;TOILET;WATER CLOSET;SHOWER;BATH;BATHTUB;PASSPORT CONTROL
1F6C3 CUSTOMS;BAGGAGE CLAIM;LEFT LUGGAGE;TRIANGLE WITH ROUNDED CORNERS;PROHIBITED SIGN
1F6C8 CIRCLED INFORMATION SOURCE;BOYS SYMBOL;GIRLS SYMBOL;COUCH AND LAMP;SLEEPING ACCOMMODATION
1F6CD SHOPPING BAGS;BELLHOP BELL;BED;PLACE OF WORSHIP;OCTAGONAL SIGN;SHOPPING TROLLEY;STUPA;PAGODA
1F6D5 HINDU TEMPLE;HUT;ELEVATOR
1F6DD PLAYGROUND SLIDE;WHEEL;RING BUOY;HAMMER AND WRENCH;SHIELD;OIL DRUM;MOTORWAY;RAILWAY TRACK
1F6E5 MOTOR BOAT;UP-POINTING MILITARY AIRPLANE;aAIRPLANE;aSMALL AIRPLANE;SMALL AIRPLANE
1F6EA NORTHEAST-POINTING AIRPLANE;AIRPLANE DEPARTURE;aARRIVING
1F6F0 SATELLITE;ONCOMING FIRE ENGINE;DIESEL LOCOMOTIVE;PASSENGER SHIP;SCOOTER;MOTOR SCOOTER;CANOE
1F6F7 SLED;FLYING SAUCER;SKATEBOARD;AUTO RICKSHAW;PICKUP TRUCK;ROLLER SKATE
1F700 ALCHEMICAL SYMBOL FOR QUINTESSENCE;cAIR;cFIRE;cEARTH;cWATER;cAQUAFORTIS;cAQUA REGIA;dREGIA-2
1F708 dVITAE;dVITAE-2;cVINEGAR;cVINEGAR-2;cVINEGAR-3;cSULFUR;cPHILOSOPHERS SULFUR;cBLACK SULFUR
1F710 cMERCURY SUBLIMATE;dSUBLIMATE-2;dSUBLIMATE-3;cCINNABAR;cSALT;cNITRE;cVITRIOL;cVITRIOL-2
1F718 cROCK SALT;dSALT-2;cGOLD;cSILVER;cIRON ORE;dORE-2;cCROCUS OF IRON;cREGULUS OF IRON
1F720 cCOPPER ORE;cIRON-COPPER ORE;cSUBLIMATE OF COPPER;cCROCUS OF COPPER;eCOPPER-2
1F725 cCOPPER ANTIMONIATE;cSALT OF COPPER ANTIMONIATE;cSUBLIMATE OF SALT OF COPPER;cVERDIGRIS
1F729 cTIN ORE;cLEAD ORE;cANTIMONY ORE;cSUBLIMATE OF ANTIMONY;cSALT OF ANTIMONY
1F72E cSUBLIMATE OF SALT OF ANTIMONY;cVINEGAR OF ANTIMONY;cREGULUS OF ANTIMONY;eANTIMONY-2
1F732 cREGULUS;cREGULUS-2;cREGULUS-3;cREGULUS-4;cALKALI;cALKALI-2;cMARCASITE;cSAL-AMMONIAC
1F73A cARSENIC;cREALGAR;cREALGAR-2;cAURIPIGMENT;cBISMUTH ORE;cTARTAR;cTARTAR-2;cQUICK LIME;cBORAX
1F743 cBORAX-2;cBORAX-3;cALUM;cOIL;cSPIRIT;cTINCTURE;cGUM;cWAX;cPOWDER;cCALX;cTUTTY;cCAPUT MORTUUM
1F74F cSCEPTER OF JOVE;cCADUCEUS;cTRIDENT;cSTARRED TRIDENT;cLODESTONE;cSOAP;cURINE;cHORSE DUNG
1F757 cASHES;cPOT ASHES;cBRICK;cPOWDERED BRICK;cAMALGAM;cSTRATUM SUPER STRATUM;eSTRATUM-2
1F75E cSUBLIMATION;cPRECIPITATE;cDISTILL;cDISSOLVE;cDISSOLVE-2;cPURIFY;cPUTREFACTION;cCRUCIBLE
1F766 cCRUCIBLE-2;cCRUCIBLE-3;cCRUCIBLE-4;cCRUCIBLE-5;cALEMBIC;cBATH OF MARY;eVAPOURS;cRETORT
1F76E cHOUR;cNIGHT;cDAY-NIGHT;cMONTH;cHALF DRAM;dOUNCE
1F780 BLACK LEFT-POINTING ISOSCELES RIGHT TRIANGLE;aUP-POINTING ISOSCELES RIGHT TRIANGLE
1F782 aRIGHT-POINTING ISOSCELES RIGHT TRIANGLE;aDOWN-POINTING ISOSCELES RIGHT TRIANGLE
1F784 aSLIGHTLY SMALL CIRCLE;MEDIUM BOLD WHITE CIRCLE;BOLD WHITE CIRCLE;HEAVY WHITE CIRCLE
1F788 VERY HEAVY WHITE CIRCLE;EXTREMELY HEAVY WHITE CIRCLE
1F78A WHITE CIRCLE CONTAINING BLACK SMALL CIRCLE;ROUND TARGET;BLACK TINY SQUARE
1F78D aSLIGHTLY SMALL SQUARE;LIGHT WHITE SQUARE;MEDIUM WHITE SQUARE;BOLD WHITE SQUARE
1F791 HEAVY WHITE SQUARE;VERY HEAVY WHITE SQUARE;EXTREMELY HEAVY WHITE SQUARE
1F794 WHITE SQUARE CONTAINING BLACK VERY SMALL SQUARE;dMEDIUM SQUARE;SQUARE TARGET
1F797 BLACK TINY DIAMOND;aVERY SMALL DIAMOND;aMEDIUM SMALL DIAMOND
1F79A WHITE DIAMOND CONTAINING BLACK VERY SMALL DIAMOND;dMEDIUM DIAMOND;DIAMOND TARGET
1F79D BLACK TINY LOZENGE;aVERY SMALL LOZENGE;aMEDIUM SMALL LOZENGE
1F7A0 WHITE LOZENGE CONTAINING BLACK SMALL LOZENGE;THIN GREEK CROSS;LIGHT GREEK CROSS
1F7A3 MEDIUM GREEK CROSS;BOLD GREEK CROSS;VERY BOLD GREEK CROSS;aHEAVY GREEK CROSS
1F7A7 EXTREMELY HEAVY GREEK CROSS;THIN SALTIRE;LIGHT SALTIRE;MEDIUM SALTIRE;BOLD SALTIRE
1F7AC HEAVY SALTIRE;VERY HEAVY SALTIRE;EXTREMELY HEAVY SALTIRE;LIGHT FIVE SPOKED ASTERISK
1F7B0 MEDIUM FIVE SPOKED ASTERISK;BOLD FIVE SPOKED ASTERISK;HEAVY FIVE SPOKED ASTERISK
1F7B3 VERY HEAVY FIVE SPOKED ASTERISK;EXTREMELY HEAVY FIVE SPOKED ASTERISK
1F7B5 LIGHT SIX SPOKED ASTERISK;MEDIUM SIX SPOKED ASTERISK;BOLD SIX SPOKED ASTERISK
1F7B8 HEAVY SIX SPOKED ASTERISK;VERY HEAVY SIX SPOKED ASTERISK;EXTREMELY HEAVY SIX SPOKED ASTERISK
1F7BB LIGHT EIGHT SPOKED ASTERISK;MEDIUM EIGHT SPOKED ASTERISK;BOLD EIGHT SPOKED ASTERISK
1F7BE HEAVY EIGHT SPOKED ASTERISK;VERY HEAVY EIGHT SPOKED ASTERISK;LIGHT THREE POINTED BLACK STAR
1F7C1 MEDIUM THREE POINTED BLACK STAR;THREE POINTED BLACK STAR;MEDIUM THREE POINTED PINWHEEL STAR
1F7C4 LIGHT FOUR POINTED BLACK STAR;MEDIUM FOUR POINTED BLACK STAR;FOUR POINTED BLACK STAR
1F7C7 MEDIUM FOUR POINTED PINWHEEL STAR;REVERSE LIGHT FOUR POINTED PINWHEEL STAR
1F7C9 LIGHT FIVE POINTED BLACK STAR;HEAVY FIVE POINTED BLACK STAR;MEDIUM SIX POINTED BLACK STAR
1F7CC HEAVY SIX POINTED BLACK STAR;SIX POINTED PINWHEEL STAR;MEDIUM EIGHT POINTED BLACK STAR
1F7CF HEAVY EIGHT POINTED BLACK STAR;VERY HEAVY EIGHT POINTED BLACK STAR
1F7D1 HEAVY EIGHT POINTED PINWHEEL STAR;LIGHT TWELVE POINTED BLACK STAR
1F7D3 HEAVY TWELVE POINTED BLACK STAR;cPINWHEEL STAR;CIRCLED TRIANGLE;NEGATIVE CIRCLED TRIANGLE
1F7D7 CIRCLED SQUARE;NEGATIVE CIRCLED SQUARE
1F7E0 LARGE ORANGE CIRCLE;aYELLOW CIRCLE;aGREEN CIRCLE;aPURPLE CIRCLE;aBROWN CIRCLE;aRED SQUARE
1F7E6 aBLUE SQUARE;aORANGE SQUARE;aYELLOW SQUARE;aGREEN SQUARE;aPURPLE SQUARE;aBROWN SQUARE
1F7F0 HEAVY EQUALS SIGN
1F800 LEFTWARDS ARROW WITH SMALL TRIANGLE ARROWHEAD;UPWARDS ARROW WITH SMALL TRIANGLE ARROWHEAD
1F802 RIGHTWARDS ARROW WITH SMALL TRIANGLE ARROWHEAD;DOWNWARDS ARROW WITH SMALL TRIANGLE ARROWHEAD
1F804 LEFTWARDS ARROW WITH MEDIUM TRIANGLE ARROWHEAD;UPWARDS ARROW WITH MEDIUM TRIANGLE ARROWHEAD
1F806 RIGHTWARDS ARROW WITH MEDIUM TRIANGLE ARROWHEAD
1F807 DOWNWARDS ARROW WITH MEDIUM TRIANGLE ARROWHEAD;LEFTWARDS ARROW WITH LARGE TRIANGLE ARROWHEAD
1F809 UPWARDS ARROW WITH LARGE TRIANGLE ARROWHEAD;RIGHTWARDS ARROW WITH LARGE TRIANGLE ARROWHEAD
1F80B DOWNWARDS ARROW WITH LARGE TRIANGLE ARROWHEAD
1F810 LEFTWARDS ARROW WITH SMALL EQUILATERAL ARROWHEAD
1F811 UPWARDS ARROW WITH SMALL EQUILATERAL ARROWHEAD
1F812 RIGHTWARDS ARROW WITH SMALL EQUILATERAL ARROWHEAD
1F813 DOWNWARDS ARROW WITH SMALL EQUILATERAL ARROWHEAD;LEFTWARDS ARROW WITH EQUILATERAL ARROWHEAD
1F815 UPWARDS ARROW WITH EQUILATERAL ARROWHEAD;RIGHTWARDS ARROW WITH EQUILATERAL ARROWHEAD
1F817 DOWNWARDS ARROW WITH EQUILATERAL ARROWHEAD;HEAVY LEFTWARDS ARROW WITH EQUILATERAL ARROWHEAD
1F819 aUPWARDS ARROW WITH EQUILATERAL ARROWHEAD;aRIGHTWARDS ARROW WITH EQUILATERAL ARROWHEAD
1F81B aDOWNWARDS ARROW WITH EQUILATERAL ARROWHEAD
1F81C aLEFTWARDS ARROW WITH LARGE EQUILATERAL ARROWHEAD
1F81D aUPWARDS ARROW WITH LARGE EQUILATERAL ARROWHEAD
1F81E aRIGHTWARDS ARROW WITH LARGE EQUILATERAL ARROWHEAD
1F81F aDOWNWARDS ARROW WITH LARGE EQUILATERAL ARROWHEAD
1F820 LEFTWARDS TRIANGLE-HEADED ARROW WITH NARROW SHAFT
1F821 UPWARDS TRIANGLE-HEADED ARROW WITH NARROW SHAFT
1F822 RIGHTWARDS TRIANGLE-HEADED ARROW WITH NARROW SHAFT
1F823 DOWNWARDS TRIANGLE-HEADED ARROW WITH NARROW SHAFT
1F824 LEFTWARDS TRIANGLE-HEADED ARROW WITH MEDIUM SHAFT
1F825 UPWARDS TRIANGLE-HEADED ARROW WITH MEDIUM SHAFT
1F826 RIGHTWARDS TRIANGLE-HEADED ARROW WITH MEDIUM SHAFT
1F827 DOWNWARDS TRIANGLE-HEADED ARROW WITH MEDIUM SHAFT
1F828 LEFTWARDS TRIANGLE-HEADED ARROW WITH BOLD SHAFT
1F829 UPWARDS TRIANGLE-HEADED ARROW WITH BOLD SHAFT
1F82A RIGHTWARDS TRIANGLE-HEADED ARROW WITH BOLD SHAFT
1F82B DOWNWARDS TRIANGLE-HEADED ARROW WITH BOLD SHAFT
1F82C LEFTWARDS TRIANGLE-HEADED ARROW WITH HEAVY SHAFT
1F82D UPWARDS TRIANGLE-HEADED ARROW WITH HEAVY SHAFT
1F82E RIGHTWARDS TRIANGLE-HEADED ARROW WITH HEAVY SHAFT
1F82F DOWNWARDS TRIANGLE-HEADED ARROW WITH HEAVY SHAFT
1F830 LEFTWARDS TRIANGLE-HEADED ARROW WITH VERY HEAVY SHAFT
1F831 UPWARDS TRIANGLE-HEADED ARROW WITH VERY HEAVY SHAFT
1F832 RIGHTWARDS TRIANGLE-HEADED ARROW WITH VERY HEAVY SHAFT
1F833 DOWNWARDS TRIANGLE-HEADED ARROW WITH VERY HEAVY SHAFT;LEFTWARDS FINGER-POST ARROW
1F835 UPWARDS FINGER-POST ARROW;RIGHTWARDS FINGER-POST ARROW;DOWNWARDS FINGER-POST ARROW
1F838 LEFTWARDS SQUARED ARROW;UPWARDS SQUARED ARROW;RIGHTWARDS SQUARED ARROW
1F83B DOWNWARDS SQUARED ARROW;LEFTWARDS COMPRESSED ARROW;UPWARDS COMPRESSED ARROW
1F83E RIGHTWARDS COMPRESSED ARROW;DOWNWARDS COMPRESSED ARROW;LEFTWARDS HEAVY COMPRESSED ARROW
1F841 UPWARDS HEAVY COMPRESSED ARROW;RIGHTWARDS HEAVY COMPRESSED ARROW
1F843 DOWNWARDS HEAVY COMPRESSED ARROW;LEFTWARDS HEAVY ARROW;UPWARDS HEAVY ARROW
1F846 RIGHTWARDS HEAVY ARROW;DOWNWARDS HEAVY ARROW
1F850 LEFTWARDS SANS-SERIF ARROW;UPWARDS SANS-SERIF ARROW;RIGHTWARDS SANS-SERIF ARROW
1F853 DOWNWARDS SANS-SERIF ARROW;NORTH WEST SANS-SERIF ARROW;aEAST SANS-SERIF ARROW
1F856 SOUTH EAST SANS-SERIF ARROW;aWEST SANS-SERIF ARROW;LEFT RIGHT SANS-SERIF ARROW
1F859 UP DOWN SANS-SERIF ARROW
1F860 WIDE-HEADED LEFTWARDS LIGHT BARB ARROW;aUPWARDS LIGHT BARB ARROW
1F862 aRIGHTWARDS LIGHT BARB ARROW;aDOWNWARDS LIGHT BARB ARROW;aNORTH WEST LIGHT BARB ARROW
1F865 bEAST LIGHT BARB ARROW;aSOUTH EAST LIGHT BARB ARROW;bWEST LIGHT BARB ARROW
1F868 aLEFTWARDS BARB ARROW;aUPWARDS BARB ARROW;aRIGHTWARDS BARB ARROW;aDOWNWARDS BARB ARROW
1F86C aNORTH WEST BARB ARROW;bEAST BARB ARROW;aSOUTH EAST BARB ARROW;bWEST BARB ARROW
1F870 aLEFTWARDS MEDIUM BARB ARROW;aUPWARDS MEDIUM BARB ARROW;aRIGHTWARDS MEDIUM BARB ARROW
1F873 aDOWNWARDS MEDIUM BARB ARROW;aNORTH WEST MEDIUM BARB ARROW;bEAST MEDIUM BARB ARROW
1F876 aSOUTH EAST MEDIUM BARB ARROW;bWEST MEDIUM BARB ARROW;aLEFTWARDS HEAVY BARB ARROW
1F879 aUPWARDS HEAVY BARB ARROW;aRIGHTWARDS HEAVY BARB ARROW;aDOWNWARDS HEAVY BARB ARROW
1F87C aNORTH WEST HEAVY BARB ARROW;bEAST HEAVY BARB ARROW;aSOUTH EAST HEAVY BARB ARROW
1F87F bWEST HEAVY BARB ARROW;aLEFTWARDS VERY HEAVY BARB ARROW;aUPWARDS VERY HEAVY BARB ARROW
1F882 aRIGHTWARDS VERY HEAVY BARB ARROW;aDOWNWARDS VERY HEAVY BARB ARROW
1F884 aNORTH WEST VERY HEAVY BARB ARROW;bEAST VERY HEAVY BARB ARROW
1F886 aSOUTH EAST VERY HEAVY BARB ARROW;bWEST VERY HEAVY BARB ARROW
1F890 LEFTWARDS TRIANGLE ARROWHEAD;UPWARDS TRIANGLE ARROWHEAD;RIGHTWARDS TRIANGLE ARROWHEAD
1F893 DOWNWARDS TRIANGLE ARROWHEAD;LEFTWARDS WHITE ARROW WITHIN TRIANGLE ARROWHEAD
1F895 UPWARDS WHITE ARROW WITHIN TRIANGLE ARROWHEAD
1F896 RIGHTWARDS WHITE ARROW WITHIN TRIANGLE ARROWHEAD
1F897 DOWNWARDS WHITE ARROW WITHIN TRIANGLE ARROWHEAD;LEFTWARDS ARROW WITH NOTCHED TAIL
1F899 UPWARDS ARROW WITH NOTCHED TAIL;RIGHTWARDS ARROW WITH NOTCHED TAIL
1F89B DOWNWARDS ARROW WITH NOTCHED TAIL;HEAVY ARROW SHAFT WIDTH ONE;dTWO THIRDS;dONE HALF;eTHIRD
1F8A0 LEFTWARDS BOTTOM-SHADED WHITE ARROW;RIGHTWARDS BOTTOM SHADED WHITE ARROW
1F8A2 LEFTWARDS TOP SHADED WHITE ARROW;RIGHTWARDS TOP SHADED WHITE ARROW
1F8A4 LEFTWARDS LEFT-SHADED WHITE ARROW;RIGHTWARDS RIGHT-SHADED WHITE ARROW
1F8A6 LEFTWARDS RIGHT-SHADED WHITE ARROW;RIGHTWARDS LEFT-SHADED WHITE ARROW
1F8A8 LEFTWARDS BACK-TILTED SHADOWED WHITE ARROW;RIGHTWARDS BACK-TILTED SHADOWED WHITE ARROW
1F8AA LEFTWARDS FRONT-TILTED SHADOWED WHITE ARROW;RIGHTWARDS FRONT-TILTED SHADOWED WHITE ARROW
1F8AC WHITE ARROW SHAFT WIDTH ONE;dTWO THIRDS
1F8B0 ARROW POINTING UPWARDS THEN NORTH WEST;bRIGHTWARDS THEN CURVING SOUTH WEST
1F900 CIRCLED CROSS FORMEE WITH FOUR DOTS;dTWO DOTS;bFORMEE;LEFT HALF CIRCLE WITH FOUR DOTS
1F904 dTHREE DOTS;dTWO DOTS;dDOT;bCIRCLE;DOWNWARD FACING HOOK;bNOTCHED HOOK;bHOOK WITH DOT
1F90B bNOTCHED HOOK WITH DOT;PINCHED FINGERS;WHITE HEART;BROWN HEART;PINCHING HAND
1F910 ZIPPER-MOUTH FACE;MONEY-MOUTH FACE;FACE WITH THERMOMETER;NERD FACE;THINKING FACE
1F915 FACE WITH HEAD-BANDAGE;ROBOT FACE;HUGGING FACE;SIGN OF THE HORNS;CALL ME HAND
1F91A RAISED BACK OF HAND;LEFT-FACING FIST;RIGHT-FACING FIST;HANDSHAKE
1F91E HAND WITH INDEX AND MIDDLE FINGERS CROSSED;I LOVE YOU HAND SIGN;FACE WITH COWBOY HAT
1F921 CLOWN FACE;NAUSEATED FACE;ROLLING ON THE FLOOR LAUGHING;DROOLING FACE;LYING FACE;FACE PALM
1F927 SNEEZING FACE;FACE WITH ONE EYEBROW RAISED;GRINNING FACE WITH STAR EYES
1F92A cONE LARGE AND ONE SMALL EYE;FACE WITH FINGER COVERING CLOSED LIPS
1F92C SERIOUS FACE WITH SYMBOLS COVERING MOUTH
1F92D SMILING FACE WITH SMILING EYES AND HAND COVERING MOUTH;FACE WITH OPEN MOUTH VOMITING
1F92F SHOCKED FACE WITH EXPLODING HEAD;PREGNANT WOMAN;BREAST-FEEDING;PALMS UP TOGETHER;SELFIE
1F934 PRINCE;MAN IN TUXEDO;MOTHER CHRISTMAS;SHRUG;PERSON DOING CARTWHEEL;JUGGLING;FENCER
1F93B MODERN PENTATHLON;WRESTLERS;WATER POLO;HANDBALL;DIVING MASK;WILTED FLOWER
1F941 DRUM WITH DRUMSTICKS;CLINKING GLASSES;TUMBLER GLASS;SPOON;GOAL NET;RIFLE;FIRST PLACE MEDAL
1F948 SECOND PLACE MEDAL;THIRD PLACE MEDAL;BOXING GLOVE;MARTIAL ARTS UNIFORM;CURLING STONE
1F94D LACROSSE STICK AND BALL;SOFTBALL;FLYING DISC;CROISSANT;AVOCADO;CUCUMBER;BACON;POTATO;CARROT
1F956 BAGUETTE BREAD;GREEN SALAD;SHALLOW PAN OF FOOD;STUFFED FLATBREAD;EGG;GLASS OF MILK;PEANUTS
1F95D KIWIFRUIT;PANCAKES;DUMPLING;FORTUNE COOKIE;TAKEOUT BOX;CHOPSTICKS;BOWL WITH SPOON
1F964 CUP WITH STRAW;COCONUT;BROCCOLI;PIE;PRETZEL;CUT OF MEAT;SANDWICH;CANNED FOOD;LEAFY GREEN
1F96D MANGO;MOON CAKE;BAGEL;SMILING FACE WITH SMILING EYES AND THREE HEARTS;YAWNING FACE
1F972 SMILING FACE WITH TEAR;FACE WITH PARTY HORN AND PARTY HAT;bUNEVEN EYES AND WAVY MOUTH
1F975 OVERHEATED FACE;FREEZING FACE;NINJA;DISGUISED FACE;FACE HOLDING BACK TEARS
1F97A aWITH PLEADING EYES;SARI;LAB COAT;GOGGLES;HIKING BOOT;FLAT SHOE;CRAB;LION FACE;SCORPION
1F983 TURKEY;UNICORN FACE;EAGLE;DUCK;BAT;SHARK;OWL;FOX FACE;BUTTERFLY;DEER;GORILLA;LIZARD
1F98F RHINOCEROS;SHRIMP;SQUID;GIRAFFE FACE;ZEBRA FACE;HEDGEHOG;SAUROPOD;T-REX;CRICKET;KANGAROO
1F999 LLAMA;PEACOCK;HIPPOPOTAMUS;PARROT;RACCOON;LOBSTER;MOSQUITO;MICROBE;BADGER;SWAN;MAMMOTH;DODO
1F9A5 SLOTH;OTTER;ORANGUTAN;SKUNK;FLAMINGO;OYSTER;BEAVER;BISON;SEAL;GUIDE DOG;PROBING CANE
1F9B0 EMOJI COMPONENT RED HAIR;bCURLY HAIR;bBALD;bWHITE HAIR;BONE;LEG;FOOT;TOOTH;SUPERHERO
1F9B9 SUPERVILLAIN;SAFETY VEST;EAR WITH HEARING AID;MOTORIZED WHEELCHAIR;MANUAL WHEELCHAIR
1F9BE MECHANICAL ARM;aLEG;CHEESE WEDGE;CUPCAKE;SALT SHAKER;BEVERAGE BOX;GARLIC;ONION;FALAFEL
1F9C7 WAFFLE;BUTTER;MATE DRINK;ICE CUBE;BUBBLE TEA;TROLL;STANDING PERSON;KNEELING PERSON
1F9CF DEAF PERSON;FACE WITH MONOCLE;ADULT;CHILD;OLDER ADULT;BEARDED PERSON;PERSON WITH HEADSCARF
1F9D6 aIN STEAMY ROOM;aCLIMBING;aIN LOTUS POSITION;MAGE;FAIRY;VAMPIRE;MERPERSON;ELF;GENIE;ZOMBIE
1F9E0 BRAIN;ORANGE HEART;BILLED CAP;SCARF;GLOVES;COAT;SOCKS;RED GIFT ENVELOPE;FIRECRACKER
1F9E9 JIGSAW PUZZLE PIECE;TEST TUBE;PETRI DISH;DNA DOUBLE HELIX;COMPASS;ABACUS;FIRE EXTINGUISHER
1F9F0 TOOLBOX;BRICK;MAGNET;LUGGAGE;LOTION BOTTLE;SPOOL OF THREAD;BALL OF YARN;SAFETY PIN
1F9F8 TEDDY BEAR;BROOM;BASKET;ROLL OF PAPER;BAR OF SOAP;SPONGE;RECEIPT;NAZAR AMULET
1FA00 NEUTRAL CHESS KING;bQUEEN;bROOK;bBISHOP;bKNIGHT;bPAWN
1FA06 WHITE CHESS KNIGHT ROTATED FORTY-FIVE DEGREES;BLACK CHESS KNIGHT ROTATED FORTY-FIVE DEGREES
1FA08 NEUTRAL CHESS KNIGHT ROTATED FORTY-FIVE DEGREES;WHITE CHESS KING ROTATED NINETY DEGREES
1FA0A bQUEEN ROTATED NINETY DEGREES;bROOK ROTATED NINETY DEGREES;bBISHOP ROTATED NINETY DEGREES
1FA0D bKNIGHT ROTATED NINETY DEGREES;bPAWN ROTATED NINETY DEGREES
1FA0F BLACK CHESS KING ROTATED NINETY DEGREES;bQUEEN ROTATED NINETY DEGREES
1FA11 bROOK ROTATED NINETY DEGREES;bBISHOP ROTATED NINETY DEGREES;bKNIGHT ROTATED NINETY DEGREES
1FA14 bPAWN ROTATED NINETY DEGREES;NEUTRAL CHESS KING ROTATED NINETY DEGREES
1FA16 bQUEEN ROTATED NINETY DEGREES;bROOK ROTATED NINETY DEGREES;bBISHOP ROTATED NINETY DEGREES
1FA19 bKNIGHT ROTATED NINETY DEGREES;bPAWN ROTATED NINETY DEGREES
1FA1B WHITE CHESS KNIGHT ROTATED ONE HUNDRED THIRTY-FIVE DEGREES
1FA1C BLACK CHESS KNIGHT ROTATED ONE HUNDRED THIRTY-FIVE DEGREES
1FA1D NEUTRAL CHESS KNIGHT ROTATED ONE HUNDRED THIRTY-FIVE DEGREES;WHITE CHESS TURNED KING;cQUEEN
1FA20 cROOK;cBISHOP;cKNIGHT;cPAWN;BLACK CHESS TURNED KING;cQUEEN;cROOK;cBISHOP;cKNIGHT;cPAWN
1FA2A NEUTRAL CHESS TURNED KING;cQUEEN;cROOK;cBISHOP;cKNIGHT;cPAWN
1FA30 WHITE CHESS KNIGHT ROTATED TWO HUNDRED TWENTY-FIVE DEGREES
1FA31 BLACK CHESS KNIGHT ROTATED TWO HUNDRED TWENTY-FIVE DEGREES
1FA32 NEUTRAL CHESS KNIGHT ROTATED TWO HUNDRED TWENTY-FIVE DEGREES
1FA33 WHITE CHESS KING ROTATED TWO HUNDRED SEVENTY DEGREES
1FA34 bQUEEN ROTATED TWO HUNDRED SEVENTY DEGREES;bROOK ROTATED TWO HUNDRED SEVENTY DEGREES
1FA36 bBISHOP ROTATED TWO HUNDRED SEVENTY DEGREES;bKNIGHT ROTATED TWO HUNDRED SEVENTY DEGREES
1FA38 bPAWN ROTATED TWO HUNDRED SEVENTY DEGREES
1FA39 BLACK CHESS KING ROTATED TWO HUNDRED SEVENTY DEGREES
1FA3A bQUEEN ROTATED TWO HUNDRED SEVENTY DEGREES;bROOK ROTATED TWO HUNDRED SEVENTY DEGREES
1FA3C bBISHOP ROTATED TWO HUNDRED SEVENTY DEGREES;bKNIGHT ROTATED TWO HUNDRED SEVENTY DEGREES
1FA3E bPAWN ROTATED TWO HUNDRED SEVENTY DEGREES
1FA3F NEUTRAL CHESS KING ROTATED TWO HUNDRED SEVENTY DEGREES
1FA40 bQUEEN ROTATED TWO HUNDRED SEVENTY DEGREES;bROOK ROTATED TWO HUNDRED SEVENTY DEGREES
1FA42 bBISHOP ROTATED TWO HUNDRED SEVENTY DEGREES;bKNIGHT ROTATED TWO HUNDRED SEVENTY DEGREES
1FA44 bPAWN ROTATED TWO HUNDRED SEVENTY DEGREES
1FA45 WHITE CHESS KNIGHT ROTATED THREE HUNDRED FIFTEEN DEGREES
1FA46 BLACK CHESS KNIGHT ROTATED THREE HUNDRED FIFTEEN DEGREES
1FA47 NEUTRAL CHESS KNIGHT ROTATED THREE HUNDRED FIFTEEN DEGREES;WHITE CHESS EQUIHOPPER
1FA49 BLACK CHESS EQUIHOPPER;NEUTRAL CHESS EQUIHOPPER
1FA4B WHITE CHESS EQUIHOPPER ROTATED NINETY DEGREES;BLACK CHESS EQUIHOPPER ROTATED NINETY DEGREES
1FA4D NEUTRAL CHESS EQUIHOPPER ROTATED NINETY DEGREES;WHITE CHESS KNIGHT-QUEEN;bKNIGHT-ROOK
1FA50 bKNIGHT-BISHOP;BLACK CHESS KNIGHT-QUEEN;bKNIGHT-ROOK;bKNIGHT-BISHOP
1FA60 XIANGQI RED GENERAL;bMANDARIN;bELEPHANT;bHORSE;bCHARIOT;bCANNON;bSOLDIER;aBLACK GENERAL
1FA68 bMANDARIN;bELEPHANT;bHORSE;bCHARIOT;bCANNON;bSOLDIER
1FA70 BALLET SHOES;ONE-PIECE SWIMSUIT;BRIEFS;SHORTS;THONG SANDAL
1FA78 DROP OF BLOOD;ADHESIVE BANDAGE;STETHOSCOPE;X-RAY;CRUTCH
1FA80 YO-YO;KITE;PARACHUTE;BOOMERANG;MAGIC WAND;PINATA;NESTING DOLLS
1FA90 RINGED PLANET;CHAIR;RAZOR;AXE;DIYA LAMP;BANJO;MILITARY HELMET;ACCORDION;LONG DRUM;COIN
1FA9A CARPENTRY SAW;SCREWDRIVER;LADDER;HOOK;MIRROR;WINDOW;PLUNGER;SEWING NEEDLE;KNOT;BUCKET
1FAA4 MOUSE TRAP;TOOTHBRUSH;HEADSTONE;PLACARD;ROCK;MIRROR BALL;IDENTIFICATION CARD;LOW BATTERY
1FAAC HAMSA
1FAB0 FLY;WORM;BEETLE;COCKROACH;POTTED PLANT;WOOD;FEATHER;LOTUS;CORAL;EMPTY NEST;NEST WITH EGGS
1FAC0 ANATOMICAL HEART;LUNGS;PEOPLE HUGGING;PREGNANT MAN;aPERSON;PERSON WITH CROWN
1FAD0 BLUEBERRIES;BELL PEPPER;OLIVE;FLATBREAD;TAMALE;FONDUE;TEAPOT;POURING LIQUID;BEANS;JAR
1FAE0 MELTING FACE;SALUTING FACE;FACE WITH OPEN EYES AND HAND OVER MOUTH;bPEEKING EYE
1FAE4 bDIAGONAL MOUTH;DOTTED LINE FACE;BITING LIP;BUBBLES
1FAF0 HAND WITH INDEX FINGER AND THUMB CROSSED;RIGHTWARDS HAND;LEFTWARDS HAND;PALM DOWN HAND
1FAF4 aUP HAND;INDEX POINTING AT THE VIEWER;HEART HANDS
1FB00 BLOCK SEXTANT-1;aSEXTANT-2;aSEXTANT-12;aSEXTANT-3;aSEXTANT-13;aSEXTANT-23;aSEXTANT-123
1FB07 aSEXTANT-4;aSEXTANT-14;aSEXTANT-24;aSEXTANT-124;aSEXTANT-34;aSEXTANT-134;aSEXTANT-234
1FB0E aSEXTANT-1234;aSEXTANT-5;aSEXTANT-15;aSEXTANT-25;aSEXTANT-125;aSEXTANT-35;aSEXTANT-235
1FB15 aSEXTANT-1235;aSEXTANT-45;aSEXTANT-145;aSEXTANT-245;aSEXTANT-1245;aSEXTANT-345;aSEXTANT-1345
1FB1C aSEXTANT-2345;aSEXTANT-12345;aSEXTANT-6;aSEXTANT-16;aSEXTANT-26;aSEXTANT-126;aSEXTANT-36
1FB23 aSEXTANT-136;aSEXTANT-236;aSEXTANT-1236;aSEXTANT-46;aSEXTANT-146;aSEXTANT-1246;aSEXTANT-346
1FB2A aSEXTANT-1346;aSEXTANT-2346;aSEXTANT-12346;aSEXTANT-56;aSEXTANT-156;aSEXTANT-256
1FB30 aSEXTANT-1256;aSEXTANT-356;aSEXTANT-1356;aSEXTANT-2356;aSEXTANT-12356;aSEXTANT-456
1FB36 aSEXTANT-1456;aSEXTANT-2456;aSEXTANT-12456;aSEXTANT-3456;aSEXTANT-13456;aSEXTANT-23456
1FB3C LOWER LEFT BLOCK DIAGONAL LOWER MIDDLE LEFT TO LOWER CENTRE;iRIGHT
1FB3E dUPPER MIDDLE LEFT TO LOWER CENTRE;iRIGHT;eLEFT TO LOWER CENTRE
1FB41 aRIGHT BLOCK DIAGONAL UPPER MIDDLE LEFT TO UPPER CENTRE;iRIGHT
1FB43 dLOWER MIDDLE LEFT TO UPPER CENTRE;iRIGHT;eLEFT TO UPPER CENTRE
1FB46 eMIDDLE LEFT TO UPPER MIDDLE RIGHT;eCENTRE TO LOWER MIDDLE RIGHT;eLEFT TO LOWER MIDDLE RIGHT
1FB49 eCENTRE TO UPPER MIDDLE RIGHT;eLEFT TO UPPER MIDDLE RIGHT;eCENTRE TO UPPER RIGHT
1FB4C aLEFT BLOCK DIAGONAL UPPER CENTRE TO UPPER MIDDLE RIGHT;eLEFT TO UPPER MIDDLE RIGHT
1FB4E eCENTRE TO LOWER MIDDLE RIGHT;eLEFT TO LOWER MIDDLE RIGHT;eCENTRE TO LOWER RIGHT
1FB51 eMIDDLE LEFT TO LOWER MIDDLE RIGHT
1FB52 UPPER RIGHT BLOCK DIAGONAL LOWER MIDDLE LEFT TO LOWER CENTRE;iRIGHT
1FB54 dUPPER MIDDLE LEFT TO LOWER CENTRE;iRIGHT;eLEFT TO LOWER CENTRE
1FB57 aLEFT BLOCK DIAGONAL UPPER MIDDLE LEFT TO UPPER CENTRE;iRIGHT
1FB59 dLOWER MIDDLE LEFT TO UPPER CENTRE;iRIGHT;eLEFT TO UPPER CENTRE
1FB5C eMIDDLE LEFT TO UPPER MIDDLE RIGHT;eCENTRE TO LOWER MIDDLE RIGHT;eLEFT TO LOWER MIDDLE RIGHT
1FB5F eCENTRE TO UPPER MIDDLE RIGHT;eLEFT TO UPPER MIDDLE RIGHT;eCENTRE TO UPPER RIGHT
1FB62 aRIGHT BLOCK DIAGONAL UPPER CENTRE TO UPPER MIDDLE RIGHT;eLEFT TO UPPER MIDDLE RIGHT
1FB64 eCENTRE TO LOWER MIDDLE RIGHT;eLEFT TO LOWER MIDDLE RIGHT;eCENTRE TO LOWER RIGHT
1FB67 eMIDDLE LEFT TO LOWER MIDDLE RIGHT;aAND RIGHT AND LOWER TRIANGULAR THREE QUARTERS BLOCK
1FB69 LEFT AND LOWER AND RIGHT TRIANGULAR THREE QUARTERS BLOCK
1FB6A UPPER AND LEFT AND LOWER TRIANGULAR THREE QUARTERS BLOCK
1FB6B LEFT AND UPPER AND RIGHT TRIANGULAR THREE QUARTERS BLOCK;aTRIANGULAR ONE QUARTER BLOCK
1FB6D UPPER TRIANGULAR ONE QUARTER BLOCK;RIGHT TRIANGULAR ONE QUARTER BLOCK
1FB6F LOWER TRIANGULAR ONE QUARTER BLOCK;VERTICAL ONE EIGHTH BLOCK-2;cBLOCK-3;cBLOCK-4;cBLOCK-5
1FB74 cBLOCK-6;cBLOCK-7;HORIZONTAL ONE EIGHTH BLOCK-2;cBLOCK-3;cBLOCK-4;cBLOCK-5;cBLOCK-6;cBLOCK-7
1FB7C LEFT AND LOWER ONE EIGHTH BLOCK;bUPPER ONE EIGHTH BLOCK;RIGHT AND UPPER ONE EIGHTH BLOCK
1FB7F bLOWER ONE EIGHTH BLOCK;UPPER AND LOWER ONE EIGHTH BLOCK;HORIZONTAL ONE EIGHTH BLOCK-1358
1FB82 UPPER ONE QUARTER BLOCK;aTHREE EIGHTHS BLOCK;aFIVE EIGHTHS BLOCK;aTHREE QUARTERS BLOCK
1FB86 aSEVEN EIGHTHS BLOCK;RIGHT ONE QUARTER BLOCK;aTHREE EIGHTHS BLOCK;aFIVE EIGHTHS BLOCK
1FB8A aTHREE QUARTERS BLOCK;aSEVEN EIGHTHS BLOCK;LEFT HALF MEDIUM SHADE;RIGHT HALF MEDIUM SHADE
1FB8E UPPER HALF MEDIUM SHADE;LOWER HALF MEDIUM SHADE;INVERSE MEDIUM SHADE
1FB91 UPPER HALF BLOCK AND LOWER HALF INVERSE MEDIUM SHADE
1FB92 bINVERSE MEDIUM SHADE AND LOWER HALF BLOCK
1FB94 LEFT HALF INVERSE MEDIUM SHADE AND RIGHT HALF BLOCK;CHECKER BOARD FILL
1FB96 INVERSE CHECKER BOARD FILL;HEAVY HORIZONTAL FILL;UPPER LEFT TO LOWER RIGHT FILL
1FB99 aRIGHT TO LOWER LEFT FILL;aAND LOWER TRIANGULAR HALF BLOCK
1FB9B LEFT AND RIGHT TRIANGULAR HALF BLOCK;UPPER LEFT TRIANGULAR MEDIUM SHADE
1FB9D aRIGHT TRIANGULAR MEDIUM SHADE;LOWER RIGHT TRIANGULAR MEDIUM SHADE
1FB9F aLEFT TRIANGULAR MEDIUM SHADE;BOX DRAWINGS LIGHT DIAGONAL UPPER CENTRE TO MIDDLE LEFT;hRIGHT
1FBA2 dMIDDLE LEFT TO LOWER CENTRE;eRIGHT TO LOWER CENTRE
1FBA4 dUPPER CENTRE TO MIDDLE LEFT TO LOWER CENTRE;hRIGHT TO LOWER CENTRE
1FBA6 dMIDDLE LEFT TO LOWER CENTRE TO MIDDLE RIGHT;gUPPER CENTRE TO MIDDLE RIGHT
1FBA8 dUPPER CENTRE TO MIDDLE LEFT AND MIDDLE RIGHT TO LOWER CENTRE
1FBA9 hRIGHT AND MIDDLE LEFT TO LOWER CENTRE;iTO LOWER CENTRE TO MIDDLE LEFT
1FBAB hLEFT TO LOWER CENTRE TO MIDDLE RIGHT
1FBAC dMIDDLE LEFT TO UPPER CENTRE TO MIDDLE RIGHT TO LOWER CENTRE
1FBAD eRIGHT TO UPPER CENTRE TO MIDDLE LEFT TO LOWER CENTRE;dDIAMOND
1FBAF cHORIZONTAL WITH VERTICAL STROKE;ARROWHEAD-SHAPED POINTER;INVERSE CHECK MARK
1FBB2 LEFT HALF RUNNING MAN;RIGHT HALF RUNNING MAN;INVERSE DOWNWARDS ARROW WITH TIP LEFTWARDS
1FBB5 LEFTWARDS ARROW AND UPPER AND LOWER ONE EIGHTH BLOCK
1FBB6 RIGHTWARDS ARROW AND UPPER AND LOWER ONE EIGHTH BLOCK
1FBB7 DOWNWARDS ARROW AND RIGHT ONE EIGHTH BLOCK;UPWARDS ARROW AND RIGHT ONE EIGHTH BLOCK
1FBB9 LEFT HALF FOLDER;RIGHT HALF FOLDER;VOIDED GREEK CROSS;RIGHT OPEN SQUARED DOT
1FBBD NEGATIVE DIAGONAL CROSS;bMIDDLE RIGHT TO LOWER CENTRE;bDIAMOND
1FBC0 WHITE HEAVY SALTIRE WITH ROUNDED CORNERS;LEFT THIRD WHITE RIGHT POINTING INDEX
1FBC2 MIDDLE THIRD WHITE RIGHT POINTING INDEX;RIGHT THIRD WHITE RIGHT POINTING INDEX
1FBC4 NEGATIVE SQUARED QUESTION MARK;STICK FIGURE;bWITH ARMS RAISED;bLEANING LEFT;cRIGHT
1FBC9 bWITH DRESS;WHITE UP-POINTING CHEVRON
1FBF0 SEGMENTED DIGIT ZERO;bONE;bTWO;bTHREE;bFOUR;bFIVE;bSIX;bSEVEN;bEIGHT;bNINE
E0001 LANGUAGE TAG
E0020 TAG SPACE;aEXCLAMATION MARK;aQUOTATION MARK;aNUMBER SIGN;aDOLLAR SIGN;aPERCENT SIGN
E0026 aAMPERSAND;aAPOSTROPHE;aLEFT PARENTHESIS;aRIGHT PARENTHESIS;aASTERISK;aPLUS SIGN;aCOMMA
E002D aHYPHEN-MINUS;aFULL STOP;aSOLIDUS;aDIGIT ZERO;bONE;bTWO;bTHREE;bFOUR;bFIVE;bSIX;bSEVEN
E0038 bEIGHT;bNINE;aCOLON;aSEMICOLON;aLESS-THAN SIGN;aEQUALS SIGN;aGREATER-THAN SIGN
E003F aQUESTION MARK;aCOMMERCIAL AT;aLATIN CAPITAL LETTER A;dB;dC;dD;dE;dF;dG;dH;dI;dJ;dK;dL;dM;dN
E004F dO;dP;dQ;dR;dS;dT;dU;dV;dW;dX;dY;dZ;aLEFT SQUARE BRACKET;aREVERSE SOLIDUS
E005D aRIGHT SQUARE BRACKET;aCIRCUMFLEX ACCENT;aLOW LINE;aGRAVE ACCENT;aLATIN SMALL LETTER A;dB;dC
E0064 dD;dE;dF;dG;dH;dI;dJ;dK;dL;dM;dN;dO;dP;dQ;dR;dS;dT;dU;dV;dW;dX;dY;dZ;aLEFT CURLY BRACKET
E007C aVERTICAL LINE;aRIGHT CURLY BRACKET;aTILDE;CANCEL TAG
E0100 VARIATION SELECTOR-17;aSELECTOR-18;aSELECTOR-19;aSELECTOR-20;aSELECTOR-21;aSELECTOR-22
E0106 aSELECTOR-23;aSELECTOR-24;aSELECTOR-25;aSELECTOR-26;aSELECTOR-27;aSELECTOR-28;aSELECTOR-29
E010D aSELECTOR-30;aSELECTOR-31;aSELECTOR-32;aSELECTOR-33;aSELECTOR-34;aSELECTOR-35;aSELECTOR-36
E0114 aSELECTOR-37;aSELECTOR-38;aSELECTOR-39;aSELECTOR-40;aSELECTOR-41;aSELECTOR-42;aSELECTOR-43
E011B aSELECTOR-44;aSELECTOR-45;aSELECTOR-46;aSELECTOR-47;aSELECTOR-48;aSELECTOR-49;aSELECTOR-50
E0122 aSELECTOR-51;aSELECTOR-52;aSELECTOR-53;aSELECTOR-54;aSELECTOR-55;aSELECTOR-56;aSELECTOR-57
E0129 aSELECTOR-58;aSELECTOR-59;aSELECTOR-60;aSELECTOR-61;aSELECTOR-62;aSELECTOR-63;aSELECTOR-64
E0130 aSELECTOR-65;aSELECTOR-66;aSELECTOR-67;aSELECTOR-68;aSELECTOR-69;aSELECTOR-70;aSELECTOR-71
E0137 aSELECTOR-72;aSELECTOR-73;aSELECTOR-74;aSELECTOR-75;aSELECTOR-76;aSELECTOR-77;aSELECTOR-78
E013E aSELECTOR-79;aSELECTOR-80;aSELECTOR-81;aSELECTOR-82;aSELECTOR-83;aSELECTOR-84;aSELECTOR-85
E0145 aSELECTOR-86;aSELECTOR-87;aSELECTOR-88;aSELECTOR-89;aSELECTOR-90;aSELECTOR-91;aSELECTOR-92
E014C aSELECTOR-93;aSELECTOR-94;aSELECTOR-95;aSELECTOR-96;aSELECTOR-97;aSELECTOR-98;aSELECTOR-99
E0153 aSELECTOR-100;aSELECTOR-101;aSELECTOR-102;aSELECTOR-103;aSELECTOR-104;aSELECTOR-105
E0159 aSELECTOR-106;aSELECTOR-107;aSELECTOR-108;aSELECTOR-109;aSELECTOR-110;aSELECTOR-111
E015F aSELECTOR-112;aSELECTOR-113;aSELECTOR-114;aSELECTOR-115;aSELECTOR-116;aSELECTOR-117
E0165 aSELECTOR-118;aSELECTOR-119;aSELECTOR-120;aSELECTOR-121;aSELECTOR-122;aSELECTOR-123
E016B aSELECTOR-124;aSELECTOR-125;aSELECTOR-126;aSELECTOR-127;aSELECTOR-128;aSELECTOR-129
E0171 aSELECTOR-130;aSELECTOR-131;aSELECTOR-132;aSELECTOR-133;aSELECTOR-134;aSELECTOR-135
E0177 aSELECTOR-136;aSELECTOR-137;aSELECTOR-138;aSELECTOR-139;aSELECTOR-140;aSELECTOR-141
E017D aSELECTOR-142;aSELECTOR-143;aSELECTOR-144;aSELECTOR-145;aSELECTOR-146;aSELECTOR-147
E0183 aSELECTOR-148;aSELECTOR-149;aSELECTOR-150;aSELECTOR-151;aSELECTOR-152;aSELECTOR-153
E0189 aSELECTOR-154;aSELECTOR-155;aSELECTOR-156;aSELECTOR-157;aSELECTOR-158;aSELECTOR-159
E018F aSELECTOR-160;aSELECTOR-161;aSELECTOR-162;aSELECTOR-163;aSELECTOR-164;aSELECTOR-165
E0195 aSELECTOR-166;aSELECTOR-167;aSELECTOR-168;aSELECTOR-169;aSELECTOR-170;aSELECTOR-171
E019B aSELECTOR-172;aSELECTOR-173;aSELECTOR-174;aSELECTOR-175;aSELECTOR-176;aSELECTOR-177
E01A1 aSELECTOR-178;aSELECTOR-179;aSELECTOR-180;aSELECTOR-181;aSELECTOR-182;aSELECTOR-183
E01A7 aSELECTOR-184;aSELECTOR-185;aSELECTOR-186;aSELECTOR-187;aSELECTOR-188;aSELECTOR-189
E01AD aSELECTOR-190;aSELECTOR-191;aSELECTOR-192;aSELECTOR-193;aSELECTOR-194;aSELECTOR-195
E01B3 aSELECTOR-196;aSELECTOR-197;aSELECTOR-198;aSELECTOR-199;aSELECTOR-200;aSELECTOR-201
E01B9 aSELECTOR-202;aSELECTOR-203;aSELECTOR-204;aSELECTOR-205;aSELECTOR-206;aSELECTOR-207
E01BF aSELECTOR-208;aSELECTOR-209;aSELECTOR-210;aSELECTOR-211;aSELECTOR-212;aSELECTOR-213
E01C5 aSELECTOR-214;aSELECTOR-215;aSELECTOR-216;aSELECTOR-217;aSELECTOR-218;aSELECTOR-219
E01CB aSELECTOR-220;aSELECTOR-221;aSELECTOR-222;aSELECTOR-223;aSELECTOR-224;aSELECTOR-225
E01D1 aSELECTOR-226;aSELECTOR-227;aSELECTOR-228;aSELECTOR-229;aSELECTOR-230;aSELECTOR-231
E01D7 aSELECTOR-232;aSELECTOR-233;aSELECTOR-234;aSELECTOR-235;aSELECTOR-236;aSELECTOR-237
E01DD aSELECTOR-238;aSELECTOR-239;aSELECTOR-240;aSELECTOR-241;aSELECTOR-242;aSELECTOR-243
E01E3 aSELECTOR-244;aSELECTOR-245;aSELECTOR-246;aSELECTOR-247;aSELECTOR-248;aSELECTOR-249
E01E9 aSELECTOR-250;aSELECTOR-251;aSELECTOR-252;aSELECTOR-253;aSELECTOR-254;aSELECTOR-255
E01EF aSELECTOR-256"

end Stencil.CharacterName
