/-! # Names of code points: signs and shapes

The lines are those of tables of names (`Stencil.NameTable`).
-/

namespace Stencil.CharacterName

/-- The names of music, shorthand and letters of mathematics. -/
def music : String :=
"1D000 BYZANTINE MUSICAL SYMBOL PSILI;cDASEIA;cPERISPOMENI;cOXEIA EKFONITIKON;dDIPLI
1D005 cVAREIA EKFONITIKON;dDIPLI;cKATHISTI;cSYRMATIKI;cPARAKLITIKI;cYPOKRISIS;dDIPLI;cKREMASTI
1D00D cAPESO EKFONITIKON;cEXO EKFONITIKON;cTELEIA;cKENTIMATA;cAPOSTROFOS;dDIPLI;cSYNEVMA;cTHITA
1D015 cOLIGON ARCHAION;cGORGON ARCHAION;cPSILON;cCHAMILON;cVATHY;cISON ARCHAION;cKENTIMA ARCHAION
1D01C cKENTIMATA ARCHAION;cSAXIMATA;cPARICHON;cSTAVROS APODEXIA;cOXEIAI ARCHAION;cVAREIAI ARCHAION
1D022 cAPODERMA ARCHAION;cAPOTHEMA;cKLASMA;cREVMA;cPIASMA ARCHAION;cTINAGMA;cANATRICHISMA;cSEISMA
1D02A cSYNAGMA ARCHAION;dMETA STAVROU;cOYRANISMA ARCHAION;cTHEMA;cLEMOI;cDYO;cTRIA;cTESSERA
1D032 cKRATIMATA;cAPESO EXO NEO;cFTHORA ARCHAION;cIMIFTHORA;cTROMIKON ARCHAION;cKATAVA TROMIKON
1D038 cPELASTON;cPSIFISTON;cKONTEVMA;cCHOREVMA ARCHAION;cRAPISMA;cPARAKALESMA ARCHAION
1D03E cPARAKLITIKI ARCHAION;cICHADIN;cNANA;cPETASMA;cKONTEVMA ALLO;cTROMIKON ALLO;cSTRAGGISMATA
1D045 cGRONTHISMATA;cISON NEO;cOLIGON NEO;cOXEIA NEO;cPETASTI;cKOUFISMA;cPETASTOKOUFISMA
1D04C cKRATIMOKOUFISMA;cPELASTON NEO;cKENTIMATA NEO ANO;cKENTIMA NEO ANO;cYPSILI;cAPOSTROFOS NEO
1D052 cAPOSTROFOI SYNDESMOS NEO;cYPORROI;cKRATIMOYPORROON;cELAFRON;cCHAMILI;cMIKRON ISON
1D058 cVAREIA NEO;cPIASMA NEO;cPSIFISTON NEO;cOMALON;cANTIKENOMA;cLYGISMA;cPARAKLITIKI NEO
1D05F cPARAKALESMA NEO;cETERON PARAKALESMA;cKYLISMA;cANTIKENOKYLISMA;cTROMIKON NEO;cEKSTREPTON
1D065 cSYNAGMA NEO;cSYRMA;cCHOREVMA NEO;cEPEGERMA;cSEISMA NEO;cXIRON KLASMA;cTROMIKOPSIFISTON
1D06C cPSIFISTOLYGISMA;cTROMIKOLYGISMA;cTROMIKOPARAKALESMA;cPSIFISTOPARAKALESMA;cTROMIKOSYNAGMA
1D071 cPSIFISTOSYNAGMA;cGORGOSYNTHETON;cARGOSYNTHETON;cETERON ARGOSYNTHETON;cOYRANISMA NEO
1D076 cTHEMATISMOS ESO;dEXO;cTHEMA APLOUN;cTHES KAI APOTHES;cKATAVASMA;cENDOFONON;cYFEN KATO;dANO
1D07E cSTAVROS;cKLASMA ANO;cDIPLI ARCHAION;cKRATIMA ARCHAION;dALLO;dNEO;cAPODERMA NEO;cAPLI;cDIPLI
1D087 cTRIPLI;cTETRAPLI;cKORONIS;cLEIMMA ENOS CHRONOU;dDYO CHRONON;dTRION CHRONON
1D08D dTESSARON CHRONON;dIMISEOS CHRONOU;cGORGON NEO ANO;dPARESTIGMENON ARISTERA;eDEXIA;cDIGORGON
1D093 dPARESTIGMENON ARISTERA KATO;fANO;eDEXIA;cTRIGORGON;cARGON;cIMIDIARGON;cDIARGON
1D09A cAGOGI POLI ARGI;dARGOTERI;dARGI;dMETRIA;dMESI;dGORGI;dGORGOTERI;dPOLI GORGI
1D0A2 cMARTYRIA PROTOS ICHOS;dALLI PROTOS ICHOS;dDEYTEROS ICHOS;dALLI DEYTEROS ICHOS;dTRITOS ICHOS
1D0A7 dTRIFONIAS;dTETARTOS ICHOS;eLEGETOS ICHOS;dLEGETOS ICHOS;dPLAGIOS ICHOS
1D0AC cISAKIA TELOUS ICHIMATOS;cAPOSTROFOI TELOUS ICHIMATOS;cFANEROSIS TETRAFONIAS;dMONOFONIAS
1D0B0 dDIFONIAS;cMARTYRIA VARYS ICHOS;dPROTOVARYS ICHOS;dPLAGIOS TETARTOS ICHOS
1D0B4 cGORTHMIKON N APLOUN;eDIPLOUN;cENARXIS KAI FTHORA VOU;cIMIFONON;cIMIFTHORON
1D0B9 cFTHORA ARCHAION DEYTEROU ICHOU;dDIATONIKI PA;eNANA;dNAOS ICHOS;dDIATONIKI DI
1D0BE dSKLIRON DIATONON DI;dDIATONIKI KE;eZO;eNI KATO;fANO;dMALAKON CHROMA DIFONIAS;fMONOFONIAS
1D0C5 cFHTORA SKLIRON CHROMA VASIS;cFTHORA SKLIRON CHROMA SYNAFI;dNENANO;cCHROA ZYGOS;dKLITON
1D0CA dSPATHI;cFTHORA I YFESIS TETARTIMORION;dENARMONIOS ANTIFONIA;cYFESIS TRITIMORION
1D0CE cDIESIS TRITIMORION;dTETARTIMORION;dAPLI DYO DODEKATA;dMONOGRAMMOS TESSERA DODEKATA
1D0D2 dDIGRAMMOS EX DODEKATA;dTRIGRAMMOS OKTO DODEKATA;cYFESIS APLI DYO DODEKATA
1D0D5 dMONOGRAMMOS TESSERA DODEKATA;dDIGRAMMOS EX DODEKATA;dTRIGRAMMOS OKTO DODEKATA
1D0D8 cGENIKI DIESIS;dYFESIS;cDIASTOLI APLI MIKRI;eMEGALI;dDIPLI;dTHESEOS;cSIMANSIS THESEOS
1D0DF eDISIMOU;eTRISIMOU;eTETRASIMOU;dARSEOS;eDISIMOU;eTRISIMOU;eTETRASIMOU;cDIGRAMMA GG
1D0E7 cDIFTOGGOS OU;cSTIGMA;cARKTIKO PA;dVOU;dGA;dDI;dKE;dZO;dNI;cKENTIMATA NEO MESO
1D0F1 cKENTIMA NEO MESO;cKENTIMATA NEO KATO;cKENTIMA NEO KATO;cKLASMA KATO;cGORGON NEO KATO
1D100 MUSICAL SYMBOL SINGLE BARLINE;bDOUBLE BARLINE;bFINAL BARLINE;bREVERSE FINAL BARLINE
1D104 bDASHED BARLINE;bSHORT BARLINE;bLEFT REPEAT SIGN;bRIGHT REPEAT SIGN;bREPEAT DOTS;bDAL SEGNO
1D10A bDA CAPO;bSEGNO;bCODA;bREPEATED FIGURE-1;cFIGURE-2;cFIGURE-3;bFERMATA;cBELOW;bBREATH MARK
1D113 bCAESURA;bBRACE;bBRACKET;bONE-LINE STAFF;bTWO-LINE STAFF;bTHREE-LINE STAFF;bFOUR-LINE STAFF
1D11A bFIVE-LINE STAFF;bSIX-LINE STAFF;bSIX-STRING FRETBOARD;bFOUR-STRING FRETBOARD;bG CLEF
1D11F dOTTAVA ALTA;eBASSA;bC CLEF;bF CLEF;dOTTAVA ALTA;eBASSA;bDRUM CLEF-1;cCLEF-2
1D129 bMULTIPLE MEASURE REST;bDOUBLE SHARP;cFLAT;bFLAT UP;cDOWN;bNATURAL UP;cDOWN;bSHARP UP;cDOWN
1D132 bQUARTER TONE SHARP;dFLAT;bCOMMON TIME;bCUT TIME;bOTTAVA ALTA;cBASSA;bQUINDICESIMA ALTA
1D139 cBASSA;bMULTI REST;bWHOLE REST;bHALF REST;bQUARTER REST;bEIGHTH REST;bSIXTEENTH REST
1D140 bTHIRTY-SECOND REST;bSIXTY-FOURTH REST;bONE HUNDRED TWENTY-EIGHTH REST;bX NOTEHEAD
1D144 bPLUS NOTEHEAD;bCIRCLE X NOTEHEAD;bSQUARE NOTEHEAD WHITE;dBLACK;bTRIANGLE NOTEHEAD UP WHITE
1D149 eBLACK;dLEFT WHITE;eBLACK;dRIGHT WHITE;eBLACK;dDOWN WHITE;eBLACK;dUP RIGHT WHITE;fBLACK
1D152 bMOON NOTEHEAD WHITE;dBLACK;bTRIANGLE-ROUND NOTEHEAD DOWN WHITE;eBLACK;bPARENTHESIS NOTEHEAD
1D157 bVOID NOTEHEAD;bNOTEHEAD BLACK;bNULL NOTEHEAD;bCLUSTER NOTEHEAD WHITE;dBLACK;bBREVE
1D15D bWHOLE NOTE;bHALF NOTE;bQUARTER NOTE;bEIGHTH NOTE;bSIXTEENTH NOTE;bTHIRTY-SECOND NOTE
1D163 bSIXTY-FOURTH NOTE;bONE HUNDRED TWENTY-EIGHTH NOTE;bCOMBINING STEM;cSPRECHGESANG STEM
1D167 cTREMOLO-1;cTREMOLO-2;cTREMOLO-3;bFINGERED TREMOLO-1;cTREMOLO-2;cTREMOLO-3
1D16D bCOMBINING AUGMENTATION DOT;cFLAG-1;cFLAG-2;cFLAG-3;cFLAG-4;cFLAG-5;bBEGIN BEAM;bEND BEAM
1D175 bBEGIN TIE;bEND TIE;bBEGIN SLUR;bEND SLUR;bBEGIN PHRASE;bEND PHRASE;bCOMBINING ACCENT
1D17C cSTACCATO;cTENUTO;cSTACCATISSIMO;cMARCATO;cMARCATO-STACCATO;cACCENT-STACCATO;cLOURE
1D183 bARPEGGIATO UP;cDOWN;bCOMBINING DOIT;cRIP;cFLIP;cSMEAR;cBEND;cDOUBLE TONGUE;cTRIPLE TONGUE
1D18C bRINFORZANDO;bSUBITO;bZ;bPIANO;bMEZZO;bFORTE;bCRESCENDO;bDECRESCENDO;bGRACE NOTE SLASH
1D195 dNO SLASH;bTR;bTURN;bINVERTED TURN;bTURN SLASH;cUP;bORNAMENT STROKE-1;cSTROKE-2;cSTROKE-3
1D19E cSTROKE-4;cSTROKE-5;cSTROKE-6;cSTROKE-7;cSTROKE-8;cSTROKE-9;cSTROKE-10;cSTROKE-11
1D1A6 bHAUPTSTIMME;bNEBENSTIMME;bEND OF STIMME;bDEGREE SLASH;bCOMBINING DOWN BOW;cUP BOW;cHARMONIC
1D1AD cSNAP PIZZICATO;bPEDAL MARK;cUP MARK;bHALF PEDAL MARK;bGLISSANDO UP;cDOWN;bWITH FINGERNAILS
1D1B4 bDAMP;cALL;bMAXIMA;bLONGA;bBREVIS;bSEMIBREVIS WHITE;cBLACK;bMINIMA;cBLACK;bSEMIMINIMA WHITE
1D1BE cBLACK;bFUSA WHITE;cBLACK;bLONGA PERFECTA REST;cIMPERFECTA REST;bBREVIS REST
1D1C4 bSEMIBREVIS REST;bMINIMA REST;bSEMIMINIMA REST;bTEMPUS PERFECTUM CUM PROLATIONE PERFECTA
1D1C8 fIMPERFECTA;fPERFECTA DIMINUTION-1;cIMPERFECTUM CUM PROLATIONE PERFECTA;fIMPERFECTA
1D1CC gDIMINUTION-1;gDIMINUTION-2;gDIMINUTION-3;bCROIX;bGREGORIAN C CLEF;cF CLEF;bSQUARE B;bVIRGA
1D1D4 bPODATUS;bCLIVIS;bSCANDICUS;bCLIMACUS;bTORCULUS;bPORRECTUS;cFLEXUS;bSCANDICUS FLEXUS
1D1DC bTORCULUS RESUPINUS;bPES SUBPUNCTIS;bKIEVAN C CLEF;cEND OF PIECE;cFINAL NOTE
1D1E1 cRECITATIVE MARK;cWHOLE NOTE;cHALF NOTE;cQUARTER NOTE STEM DOWN;fUP;cEIGHTH NOTE STEM DOWN
1D1E7 fUP;cFLAT SIGN;bSORI;bKORON
1D200 GREEK VOCAL NOTATION SYMBOL-1;cSYMBOL-2;cSYMBOL-3;cSYMBOL-4;cSYMBOL-5;cSYMBOL-6;cSYMBOL-7
1D207 cSYMBOL-8;cSYMBOL-9;cSYMBOL-10;cSYMBOL-11;cSYMBOL-12;cSYMBOL-13;cSYMBOL-14;cSYMBOL-15
1D20F cSYMBOL-16;cSYMBOL-17;cSYMBOL-18;cSYMBOL-19;cSYMBOL-20;cSYMBOL-21;cSYMBOL-22;cSYMBOL-23
1D217 cSYMBOL-24;cSYMBOL-50;cSYMBOL-51;cSYMBOL-52;cSYMBOL-53;cSYMBOL-54
1D21D aINSTRUMENTAL NOTATION SYMBOL-1;cSYMBOL-2;cSYMBOL-4;cSYMBOL-5;cSYMBOL-7;cSYMBOL-8;cSYMBOL-11
1D224 cSYMBOL-12;cSYMBOL-13;cSYMBOL-14;cSYMBOL-17;cSYMBOL-18;cSYMBOL-19;cSYMBOL-23;cSYMBOL-24
1D22C cSYMBOL-25;cSYMBOL-26;cSYMBOL-27;cSYMBOL-29;cSYMBOL-30;cSYMBOL-32;cSYMBOL-36;cSYMBOL-37
1D234 cSYMBOL-38;cSYMBOL-39;cSYMBOL-40;cSYMBOL-42;cSYMBOL-43;cSYMBOL-45;cSYMBOL-47;cSYMBOL-48
1D23C cSYMBOL-49;cSYMBOL-50;cSYMBOL-51;cSYMBOL-52;cSYMBOL-53;cSYMBOL-54
1D242 COMBINING GREEK MUSICAL TRISEME;cTETRASEME;cPENTASEME;GREEK MUSICAL LEIMMA
1D2E0 MAYAN NUMERAL ZERO;bONE;bTWO;bTHREE;bFOUR;bFIVE;bSIX;bSEVEN;bEIGHT;bNINE;bTEN;bELEVEN
1D2EC bTWELVE;bTHIRTEEN;bFOURTEEN;bFIFTEEN;bSIXTEEN;bSEVENTEEN;bEIGHTEEN;bNINETEEN
1D300 MONOGRAM FOR EARTH;DIGRAM FOR HEAVENLY EARTH;bHUMAN EARTH;bEARTHLY HEAVEN;cHUMAN;bEARTH
1D306 TETRAGRAM FOR CENTRE;bFULL CIRCLE;bMIRED;bBARRIER;bKEEPING SMALL;bCONTRARIETY;bASCENT
1D30D bOPPOSITION;bBRANCHING OUT;bDEFECTIVENESS OR DISTORTION;bDIVERGENCE;bYOUTHFULNESS;bINCREASE
1D313 bPENETRATION;bREACH;bCONTACT;bHOLDING BACK;bWAITING;bFOLLOWING;bADVANCE;bRELEASE;bRESISTANCE
1D31C bEASE;bJOY;bCONTENTION;bENDEAVOUR;bDUTIES;bCHANGE;bDECISIVENESS;bBOLD RESOLUTION;bPACKING
1D325 bLEGION;bCLOSENESS;bKINSHIP;bGATHERING;bSTRENGTH;bPURITY;bFULLNESS;bRESIDENCE;bLAW OR MODEL
1D32E bRESPONSE;bGOING TO MEET;bENCOUNTERS;bSTOVE;bGREATNESS;bENLARGEMENT;bPATTERN;bRITUAL;bFLIGHT
1D337 bVASTNESS OR WASTING;bCONSTANCY;bMEASURE;bETERNITY;bUNITY;bDIMINISHMENT;bCLOSED MOUTH
1D33E bGUARDEDNESS;bGATHERING IN;bMASSING;bACCUMULATION;bEMBELLISHMENT;bDOUBT;bWATCH;bSINKING
1D346 bINNER;bDEPARTURE;bDARKENING;bDIMMING;bEXHAUSTION;bSEVERANCE;bSTOPPAGE;bHARDNESS;bCOMPLETION
1D34F bCLOSURE;bFAILURE;bAGGRAVATION;bCOMPLIANCE;bON THE VERGE;bDIFFICULTIES;bLABOURING;bFOSTERING
1D360 COUNTING ROD UNIT DIGIT ONE;dTWO;dTHREE;dFOUR;dFIVE;dSIX;dSEVEN;dEIGHT;dNINE;bTENS DIGIT ONE
1D36A dTWO;dTHREE;dFOUR;dFIVE;dSIX;dSEVEN;dEIGHT;dNINE;IDEOGRAPHIC TALLY MARK ONE;cTWO;cTHREE
1D375 cFOUR;cFIVE;TALLY MARK ONE;bFIVE
1D400 MATHEMATICAL BOLD CAPITAL A;cB;cC;cD;cE;cF;cG;cH;cI;cJ;cK;cL;cM;cN;cO;cP;cQ;cR;cS;cT;cU;cV
1D416 cW;cX;cY;cZ;bSMALL A;cB;cC;cD;cE;cF;cG;cH;cI;cJ;cK;cL;cM;cN;cO;cP;cQ;cR;cS;cT;cU;cV;cW;cX;cY
1D433 cZ;aITALIC CAPITAL A;cB;cC;cD;cE;cF;cG;cH;cI;cJ;cK;cL;cM;cN;cO;cP;cQ;cR;cS;cT;cU;cV;cW;cX;cY
1D44D cZ;bSMALL A;cB;cC;cD;cE;cF;cG
1D456 cI;cJ;cK;cL;cM;cN;cO;cP;cQ;cR;cS;cT;cU;cV;cW;cX;cY;cZ;aBOLD ITALIC CAPITAL A;dB;dC;dD;dE;dF
1D46E dG;dH;dI;dJ;dK;dL;dM;dN;dO;dP;dQ;dR;dS;dT;dU;dV;dW;dX;dY;dZ;cSMALL A;dB;dC;dD;dE;dF;dG;dH;dI
1D48B dJ;dK;dL;dM;dN;dO;dP;dQ;dR;dS;dT;dU;dV;dW;dX;dY;dZ;aSCRIPT CAPITAL A
1D49E cC;cD
1D4A2 cG
1D4A5 cJ;cK
1D4A9 cN;cO;cP;cQ
1D4AE cS;cT;cU;cV;cW;cX;cY;cZ;bSMALL A;cB;cC;cD
1D4BB cF
1D4BD cH;cI;cJ;cK;cL;cM;cN
1D4C5 cP;cQ;cR;cS;cT;cU;cV;cW;cX;cY;cZ;aBOLD SCRIPT CAPITAL A;dB;dC;dD;dE;dF;dG;dH;dI;dJ;dK;dL;dM
1D4DD dN;dO;dP;dQ;dR;dS;dT;dU;dV;dW;dX;dY;dZ;cSMALL A;dB;dC;dD;dE;dF;dG;dH;dI;dJ;dK;dL;dM;dN;dO;dP
1D4FA dQ;dR;dS;dT;dU;dV;dW;dX;dY;dZ;aFRAKTUR CAPITAL A;cB
1D507 cD;cE;cF;cG
1D50D cJ;cK;cL;cM;cN;cO;cP;cQ
1D516 cS;cT;cU;cV;cW;cX;cY
1D51E bSMALL A;cB;cC;cD;cE;cF;cG;cH;cI;cJ;cK;cL;cM;cN;cO;cP;cQ;cR;cS;cT;cU;cV;cW;cX;cY;cZ
1D538 aDOUBLE-STRUCK CAPITAL A;cB
1D53B cD;cE;cF;cG
1D540 cI;cJ;cK;cL;cM
1D546 cO
1D54A cS;cT;cU;cV;cW;cX;cY
1D552 bSMALL A;cB;cC;cD;cE;cF;cG;cH;cI;cJ;cK;cL;cM;cN;cO;cP;cQ;cR;cS;cT;cU;cV;cW;cX;cY;cZ
1D56C aBOLD FRAKTUR CAPITAL A;dB;dC;dD;dE;dF;dG;dH;dI;dJ;dK;dL;dM;dN;dO;dP;dQ;dR;dS;dT;dU;dV;dW;dX
1D584 dY;dZ;cSMALL A;dB;dC;dD;dE;dF;dG;dH;dI;dJ;dK;dL;dM;dN;dO;dP;dQ;dR;dS;dT;dU;dV;dW;dX;dY;dZ
1D5A0 aSANS-SERIF CAPITAL A;cB;cC;cD;cE;cF;cG;cH;cI;cJ;cK;cL;cM;cN;cO;cP;cQ;cR;cS;cT;cU;cV;cW;cX
1D5B8 cY;cZ;bSMALL A;cB;cC;cD;cE;cF;cG;cH;cI;cJ;cK;cL;cM;cN;cO;cP;cQ;cR;cS;cT;cU;cV;cW;cX;cY;cZ
1D5D4 bBOLD CAPITAL A;dB;dC;dD;dE;dF;dG;dH;dI;dJ;dK;dL;dM;dN;dO;dP;dQ;dR;dS;dT;dU;dV;dW;dX;dY;dZ
1D5EE cSMALL A;dB;dC;dD;dE;dF;dG;dH;dI;dJ;dK;dL;dM;dN;dO;dP;dQ;dR;dS;dT;dU;dV;dW;dX;dY;dZ
1D608 bITALIC CAPITAL A;dB;dC;dD;dE;dF;dG;dH;dI;dJ;dK;dL;dM;dN;dO;dP;dQ;dR;dS;dT;dU;dV;dW;dX;dY;dZ
1D622 cSMALL A;dB;dC;dD;dE;dF;dG;dH;dI;dJ;dK;dL;dM;dN;dO;dP;dQ;dR;dS;dT;dU;dV;dW;dX;dY;dZ
1D63C bBOLD ITALIC CAPITAL A;eB;eC;eD;eE;eF;eG;eH;eI;eJ;eK;eL;eM;eN;eO;eP;eQ;eR;eS;eT;eU;eV;eW;eX
1D654 eY;eZ;dSMALL A;eB;eC;eD;eE;eF;eG;eH;eI;eJ;eK;eL;eM;eN;eO;eP;eQ;eR;eS;eT;eU;eV;eW;eX;eY;eZ
1D670 aMONOSPACE CAPITAL A;cB;cC;cD;cE;cF;cG;cH;cI;cJ;cK;cL;cM;cN;cO;cP;cQ;cR;cS;cT;cU;cV;cW;cX;cY
1D689 cZ;bSMALL A;cB;cC;cD;cE;cF;cG;cH;cI;cJ;cK;cL;cM;cN;cO;cP;cQ;cR;cS;cT;cU;cV;cW;cX;cY;cZ
1D6A4 aITALIC SMALL DOTLESS I;dJ
1D6A8 aBOLD CAPITAL ALPHA;cBETA;cGAMMA;cDELTA;cEPSILON;cZETA;cETA;cTHETA;cIOTA;cKAPPA;cLAMDA;cMU
1D6B4 cNU;cXI;cOMICRON;cPI;cRHO;cTHETA SYMBOL;cSIGMA;cTAU;cUPSILON;cPHI;cCHI;cPSI;cOMEGA;bNABLA
1D6C2 bSMALL ALPHA;cBETA;cGAMMA;cDELTA;cEPSILON;cZETA;cETA;cTHETA;cIOTA;cKAPPA;cLAMDA;cMU;cNU;cXI
1D6D0 cOMICRON;cPI;cRHO;cFINAL SIGMA;cSIGMA;cTAU;cUPSILON;cPHI;cCHI;cPSI;cOMEGA
1D6DB bPARTIAL DIFFERENTIAL;bEPSILON SYMBOL;bTHETA SYMBOL;bKAPPA SYMBOL;bPHI SYMBOL;bRHO SYMBOL
1D6E1 bPI SYMBOL;aITALIC CAPITAL ALPHA;cBETA;cGAMMA;cDELTA;cEPSILON;cZETA;cETA;cTHETA;cIOTA;cKAPPA
1D6EC cLAMDA;cMU;cNU;cXI;cOMICRON;cPI;cRHO;cTHETA SYMBOL;cSIGMA;cTAU;cUPSILON;cPHI;cCHI;cPSI
1D6FA cOMEGA;bNABLA;bSMALL ALPHA;cBETA;cGAMMA;cDELTA;cEPSILON;cZETA;cETA;cTHETA;cIOTA;cKAPPA
1D706 cLAMDA;cMU;cNU;cXI;cOMICRON;cPI;cRHO;cFINAL SIGMA;cSIGMA;cTAU;cUPSILON;cPHI;cCHI;cPSI;cOMEGA
1D715 bPARTIAL DIFFERENTIAL;bEPSILON SYMBOL;bTHETA SYMBOL;bKAPPA SYMBOL;bPHI SYMBOL;bRHO SYMBOL
1D71B bPI SYMBOL;aBOLD ITALIC CAPITAL ALPHA;dBETA;dGAMMA;dDELTA;dEPSILON;dZETA;dETA;dTHETA;dIOTA
1D725 dKAPPA;dLAMDA;dMU;dNU;dXI;dOMICRON;dPI;dRHO;dTHETA SYMBOL;dSIGMA;dTAU;dUPSILON;dPHI;dCHI
1D733 dPSI;dOMEGA;cNABLA;cSMALL ALPHA;dBETA;dGAMMA;dDELTA;dEPSILON;dZETA;dETA;dTHETA;dIOTA;dKAPPA
1D740 dLAMDA;dMU;dNU;dXI;dOMICRON;dPI;dRHO;dFINAL SIGMA;dSIGMA;dTAU;dUPSILON;dPHI;dCHI;dPSI;dOMEGA
1D74F cPARTIAL DIFFERENTIAL;cEPSILON SYMBOL;cTHETA SYMBOL;cKAPPA SYMBOL;cPHI SYMBOL;cRHO SYMBOL
1D755 cPI SYMBOL;aSANS-SERIF BOLD CAPITAL ALPHA;dBETA;dGAMMA;dDELTA;dEPSILON;dZETA;dETA;dTHETA
1D75E dIOTA;dKAPPA;dLAMDA;dMU;dNU;dXI;dOMICRON;dPI;dRHO;dTHETA SYMBOL;dSIGMA;dTAU;dUPSILON;dPHI
1D76C dCHI;dPSI;dOMEGA;cNABLA;cSMALL ALPHA;dBETA;dGAMMA;dDELTA;dEPSILON;dZETA;dETA;dTHETA;dIOTA
1D779 dKAPPA;dLAMDA;dMU;dNU;dXI;dOMICRON;dPI;dRHO;dFINAL SIGMA;dSIGMA;dTAU;dUPSILON;dPHI;dCHI;dPSI
1D788 dOMEGA;cPARTIAL DIFFERENTIAL;cEPSILON SYMBOL;cTHETA SYMBOL;cKAPPA SYMBOL;cPHI SYMBOL
1D78E cRHO SYMBOL;cPI SYMBOL;cITALIC CAPITAL ALPHA;eBETA;eGAMMA;eDELTA;eEPSILON;eZETA;eETA;eTHETA
1D798 eIOTA;eKAPPA;eLAMDA;eMU;eNU;eXI;eOMICRON;ePI;eRHO;eTHETA SYMBOL;eSIGMA;eTAU;eUPSILON;ePHI
1D7A6 eCHI;ePSI;eOMEGA;dNABLA;dSMALL ALPHA;eBETA;eGAMMA;eDELTA;eEPSILON;eZETA;eETA;eTHETA;eIOTA
1D7B3 eKAPPA;eLAMDA;eMU;eNU;eXI;eOMICRON;ePI;eRHO;eFINAL SIGMA;eSIGMA;eTAU;eUPSILON;ePHI;eCHI;ePSI
1D7C2 eOMEGA;dPARTIAL DIFFERENTIAL;dEPSILON SYMBOL;dTHETA SYMBOL;dKAPPA SYMBOL;dPHI SYMBOL
1D7C8 dRHO SYMBOL;dPI SYMBOL;aBOLD CAPITAL DIGAMMA;bSMALL DIGAMMA
1D7CE bDIGIT ZERO;cONE;cTWO;cTHREE;cFOUR;cFIVE;cSIX;cSEVEN;cEIGHT;cNINE;aDOUBLE-STRUCK DIGIT ZERO
1D7D9 cONE;cTWO;cTHREE;cFOUR;cFIVE;cSIX;cSEVEN;cEIGHT;cNINE;aSANS-SERIF DIGIT ZERO;cONE;cTWO
1D7E5 cTHREE;cFOUR;cFIVE;cSIX;cSEVEN;cEIGHT;cNINE;bBOLD DIGIT ZERO;dONE;dTWO;dTHREE;dFOUR;dFIVE
1D7F2 dSIX;dSEVEN;dEIGHT;dNINE;aMONOSPACE DIGIT ZERO;cONE;cTWO;cTHREE;cFOUR;cFIVE;cSIX;cSEVEN
1D7FE cEIGHT;cNINE"

/-- The names of shapes, dingbats, braille patterns and more signs of mathematics. -/
def shapes : String :=
"2400 SYMBOL FOR NULL;bSTART OF HEADING;dTEXT;bEND OF TEXT;dTRANSMISSION;bENQUIRY;bACKNOWLEDGE
2407 bBELL;bBACKSPACE;bHORIZONTAL TABULATION;bLINE FEED;bVERTICAL TABULATION;bFORM FEED
240D bCARRIAGE RETURN;bSHIFT OUT;cIN;bDATA LINK ESCAPE;bDEVICE CONTROL ONE;dTWO;dTHREE;dFOUR
2415 bNEGATIVE ACKNOWLEDGE;bSYNCHRONOUS IDLE;bEND OF TRANSMISSION BLOCK;bCANCEL;bEND OF MEDIUM
241A bSUBSTITUTE;bESCAPE;bFILE SEPARATOR;bGROUP SEPARATOR;bRECORD SEPARATOR;bUNIT SEPARATOR;bSPACE
2421 bDELETE;BLANK SYMBOL;OPEN BOX;SYMBOL FOR NEWLINE;bDELETE FORM TWO;bSUBSTITUTE FORM TWO
2440 OCR HOOK;aCHAIR;aFORK;aINVERTED FORK;aBELT BUCKLE;aBOW TIE;aBRANCH BANK IDENTIFICATION
2447 aAMOUNT OF CHECK;aDASH;aCUSTOMER ACCOUNT NUMBER;aDOUBLE BACKSLASH
2460 CIRCLED DIGIT ONE;bTWO;bTHREE;bFOUR;bFIVE;bSIX;bSEVEN;bEIGHT;bNINE;aNUMBER TEN;bELEVEN
246B bTWELVE;bTHIRTEEN;bFOURTEEN;bFIFTEEN;bSIXTEEN;bSEVENTEEN;bEIGHTEEN;bNINETEEN;bTWENTY
2474 PARENTHESIZED DIGIT ONE;bTWO;bTHREE;bFOUR;bFIVE;bSIX;bSEVEN;bEIGHT;bNINE;aNUMBER TEN;bELEVEN
247F bTWELVE;bTHIRTEEN;bFOURTEEN;bFIFTEEN;bSIXTEEN;bSEVENTEEN;bEIGHTEEN;bNINETEEN;bTWENTY
2488 DIGIT ONE FULL STOP;aTWO FULL STOP;aTHREE FULL STOP;aFOUR FULL STOP;aFIVE FULL STOP
248D aSIX FULL STOP;aSEVEN FULL STOP;aEIGHT FULL STOP;aNINE FULL STOP;NUMBER TEN FULL STOP
2492 aELEVEN FULL STOP;aTWELVE FULL STOP;aTHIRTEEN FULL STOP;aFOURTEEN FULL STOP
2496 aFIFTEEN FULL STOP;aSIXTEEN FULL STOP;aSEVENTEEN FULL STOP;aEIGHTEEN FULL STOP
249A aNINETEEN FULL STOP;aTWENTY FULL STOP;PARENTHESIZED LATIN SMALL LETTER A;dB;dC;dD;dE;dF;dG;dH
24A4 dI;dJ;dK;dL;dM;dN;dO;dP;dQ;dR;dS;dT;dU;dV;dW;dX;dY;dZ;CIRCLED LATIN CAPITAL LETTER A;dB;dC;dD
24BA dE;dF;dG;dH;dI;dJ;dK;dL;dM;dN;dO;dP;dQ;dR;dS;dT;dU;dV;dW;dX;dY;dZ;bSMALL LETTER A;dB;dC;dD;dE
24D5 dF;dG;dH;dI;dJ;dK;dL;dM;dN;dO;dP;dQ;dR;dS;dT;dU;dV;dW;dX;dY;dZ;aDIGIT ZERO
24EB NEGATIVE CIRCLED NUMBER ELEVEN;cTWELVE;cTHIRTEEN;cFOURTEEN;cFIFTEEN;cSIXTEEN;cSEVENTEEN
24F2 cEIGHTEEN;cNINETEEN;cTWENTY;DOUBLE CIRCLED DIGIT ONE;cTWO;cTHREE;cFOUR;cFIVE;cSIX;cSEVEN
24FC cEIGHT;cNINE;bNUMBER TEN;NEGATIVE CIRCLED DIGIT ZERO;BOX DRAWINGS LIGHT HORIZONTAL
2501 bHEAVY HORIZONTAL;bLIGHT VERTICAL;bHEAVY VERTICAL;bLIGHT TRIPLE DASH HORIZONTAL
2505 bHEAVY TRIPLE DASH HORIZONTAL;bLIGHT TRIPLE DASH VERTICAL;bHEAVY TRIPLE DASH VERTICAL
2508 bLIGHT QUADRUPLE DASH HORIZONTAL;bHEAVY QUADRUPLE DASH HORIZONTAL
250A bLIGHT QUADRUPLE DASH VERTICAL;bHEAVY QUADRUPLE DASH VERTICAL;bLIGHT DOWN AND RIGHT
250D bDOWN LIGHT AND RIGHT HEAVY;cHEAVY AND RIGHT LIGHT;bHEAVY DOWN AND RIGHT;bLIGHT DOWN AND LEFT
2511 bDOWN LIGHT AND LEFT HEAVY;cHEAVY AND LEFT LIGHT;bHEAVY DOWN AND LEFT;bLIGHT UP AND RIGHT
2515 bUP LIGHT AND RIGHT HEAVY;cHEAVY AND RIGHT LIGHT;bHEAVY UP AND RIGHT;bLIGHT UP AND LEFT
2519 bUP LIGHT AND LEFT HEAVY;cHEAVY AND LEFT LIGHT;bHEAVY UP AND LEFT;bLIGHT VERTICAL AND RIGHT
251D bVERTICAL LIGHT AND RIGHT HEAVY;bUP HEAVY AND RIGHT DOWN LIGHT;bDOWN HEAVY AND RIGHT UP LIGHT
2520 bVERTICAL HEAVY AND RIGHT LIGHT;bDOWN LIGHT AND RIGHT UP HEAVY;bUP LIGHT AND RIGHT DOWN HEAVY
2523 bHEAVY VERTICAL AND RIGHT;bLIGHT VERTICAL AND LEFT;bVERTICAL LIGHT AND LEFT HEAVY
2526 bUP HEAVY AND LEFT DOWN LIGHT;bDOWN HEAVY AND LEFT UP LIGHT;bVERTICAL HEAVY AND LEFT LIGHT
2529 bDOWN LIGHT AND LEFT UP HEAVY;bUP LIGHT AND LEFT DOWN HEAVY;bHEAVY VERTICAL AND LEFT
252C bLIGHT DOWN AND HORIZONTAL;bLEFT HEAVY AND RIGHT DOWN LIGHT;bRIGHT HEAVY AND LEFT DOWN LIGHT
252F bDOWN LIGHT AND HORIZONTAL HEAVY;cHEAVY AND HORIZONTAL LIGHT;bRIGHT LIGHT AND LEFT DOWN HEAVY
2532 bLEFT LIGHT AND RIGHT DOWN HEAVY;bHEAVY DOWN AND HORIZONTAL;bLIGHT UP AND HORIZONTAL
2535 bLEFT HEAVY AND RIGHT UP LIGHT;bRIGHT HEAVY AND LEFT UP LIGHT;bUP LIGHT AND HORIZONTAL HEAVY
2538 cHEAVY AND HORIZONTAL LIGHT;bRIGHT LIGHT AND LEFT UP HEAVY;bLEFT LIGHT AND RIGHT UP HEAVY
253B bHEAVY UP AND HORIZONTAL;bLIGHT VERTICAL AND HORIZONTAL;bLEFT HEAVY AND RIGHT VERTICAL LIGHT
253E bRIGHT HEAVY AND LEFT VERTICAL LIGHT;bVERTICAL LIGHT AND HORIZONTAL HEAVY
2540 bUP HEAVY AND DOWN HORIZONTAL LIGHT;bDOWN HEAVY AND UP HORIZONTAL LIGHT
2542 bVERTICAL HEAVY AND HORIZONTAL LIGHT;bLEFT UP HEAVY AND RIGHT DOWN LIGHT
2544 bRIGHT UP HEAVY AND LEFT DOWN LIGHT;bLEFT DOWN HEAVY AND RIGHT UP LIGHT
2546 bRIGHT DOWN HEAVY AND LEFT UP LIGHT;bDOWN LIGHT AND UP HORIZONTAL HEAVY
2548 bUP LIGHT AND DOWN HORIZONTAL HEAVY;bRIGHT LIGHT AND LEFT VERTICAL HEAVY
254A bLEFT LIGHT AND RIGHT VERTICAL HEAVY;bHEAVY VERTICAL AND HORIZONTAL
254C bLIGHT DOUBLE DASH HORIZONTAL;bHEAVY DOUBLE DASH HORIZONTAL;bLIGHT DOUBLE DASH VERTICAL
254F bHEAVY DOUBLE DASH VERTICAL;bDOUBLE HORIZONTAL;cVERTICAL;bDOWN SINGLE AND RIGHT DOUBLE
2553 cDOUBLE AND RIGHT SINGLE;bDOUBLE DOWN AND RIGHT;bDOWN SINGLE AND LEFT DOUBLE
2556 cDOUBLE AND LEFT SINGLE;bDOUBLE DOWN AND LEFT;bUP SINGLE AND RIGHT DOUBLE
2559 cDOUBLE AND RIGHT SINGLE;bDOUBLE UP AND RIGHT;bUP SINGLE AND LEFT DOUBLE
255C cDOUBLE AND LEFT SINGLE;bDOUBLE UP AND LEFT;bVERTICAL SINGLE AND RIGHT DOUBLE
255F cDOUBLE AND RIGHT SINGLE;bDOUBLE VERTICAL AND RIGHT;bVERTICAL SINGLE AND LEFT DOUBLE
2562 cDOUBLE AND LEFT SINGLE;bDOUBLE VERTICAL AND LEFT;bDOWN SINGLE AND HORIZONTAL DOUBLE
2565 cDOUBLE AND HORIZONTAL SINGLE;bDOUBLE DOWN AND HORIZONTAL;bUP SINGLE AND HORIZONTAL DOUBLE
2568 cDOUBLE AND HORIZONTAL SINGLE;bDOUBLE UP AND HORIZONTAL
256A bVERTICAL SINGLE AND HORIZONTAL DOUBLE;cDOUBLE AND HORIZONTAL SINGLE
256C bDOUBLE VERTICAL AND HORIZONTAL;bLIGHT ARC DOWN AND RIGHT;fLEFT;dUP AND LEFT;fRIGHT
2571 cDIAGONAL UPPER RIGHT TO LOWER LEFT;eLEFT TO LOWER RIGHT;dCROSS;cLEFT;cUP;cRIGHT;cDOWN
2578 bHEAVY LEFT;cUP;cRIGHT;cDOWN;bLIGHT LEFT AND HEAVY RIGHT;cUP AND HEAVY DOWN
257E bHEAVY LEFT AND LIGHT RIGHT;cUP AND LIGHT DOWN;UPPER HALF BLOCK;LOWER ONE EIGHTH BLOCK
2582 bQUARTER BLOCK;aTHREE EIGHTHS BLOCK;aHALF BLOCK;aFIVE EIGHTHS BLOCK;aTHREE QUARTERS BLOCK
2587 aSEVEN EIGHTHS BLOCK;FULL BLOCK;LEFT SEVEN EIGHTHS BLOCK;aTHREE QUARTERS BLOCK
258B aFIVE EIGHTHS BLOCK;aHALF BLOCK;aTHREE EIGHTHS BLOCK;aONE QUARTER BLOCK;bEIGHTH BLOCK
2590 RIGHT HALF BLOCK;LIGHT SHADE;MEDIUM SHADE;DARK SHADE;UPPER ONE EIGHTH BLOCK
2595 RIGHT ONE EIGHTH BLOCK;QUADRANT LOWER LEFT;bRIGHT;aUPPER LEFT;cAND LOWER LEFT AND LOWER RIGHT
259A eRIGHT;dUPPER RIGHT AND LOWER LEFT;hRIGHT;bRIGHT;cAND LOWER LEFT;fAND LOWER RIGHT
25A0 BLACK SQUARE;WHITE SQUARE;bWITH ROUNDED CORNERS;bCONTAINING BLACK SMALL SQUARE
25A4 SQUARE WITH HORIZONTAL FILL;bVERTICAL FILL;bORTHOGONAL CROSSHATCH FILL
25A7 bUPPER LEFT TO LOWER RIGHT FILL;cRIGHT TO LOWER LEFT FILL;bDIAGONAL CROSSHATCH FILL
25AA BLACK SMALL SQUARE;WHITE SMALL SQUARE;BLACK RECTANGLE;WHITE RECTANGLE
25AE BLACK VERTICAL RECTANGLE;WHITE VERTICAL RECTANGLE;BLACK PARALLELOGRAM;WHITE PARALLELOGRAM
25B2 BLACK UP-POINTING TRIANGLE;WHITE UP-POINTING TRIANGLE;BLACK UP-POINTING SMALL TRIANGLE
25B5 WHITE UP-POINTING SMALL TRIANGLE;BLACK RIGHT-POINTING TRIANGLE;WHITE RIGHT-POINTING TRIANGLE
25B8 BLACK RIGHT-POINTING SMALL TRIANGLE;WHITE RIGHT-POINTING SMALL TRIANGLE
25BA BLACK RIGHT-POINTING POINTER;WHITE RIGHT-POINTING POINTER;BLACK DOWN-POINTING TRIANGLE
25BD WHITE DOWN-POINTING TRIANGLE;BLACK DOWN-POINTING SMALL TRIANGLE
25BF WHITE DOWN-POINTING SMALL TRIANGLE;BLACK LEFT-POINTING TRIANGLE;WHITE LEFT-POINTING TRIANGLE
25C2 BLACK LEFT-POINTING SMALL TRIANGLE;WHITE LEFT-POINTING SMALL TRIANGLE
25C4 BLACK LEFT-POINTING POINTER;WHITE LEFT-POINTING POINTER;BLACK DIAMOND;WHITE DIAMOND
25C8 bCONTAINING BLACK SMALL DIAMOND;FISHEYE;LOZENGE;WHITE CIRCLE;DOTTED CIRCLE
25CD CIRCLE WITH VERTICAL FILL;BULLSEYE;BLACK CIRCLE;CIRCLE WITH LEFT HALF BLACK;bRIGHT HALF BLACK
25D2 bLOWER HALF BLACK;bUPPER HALF BLACK;cRIGHT QUADRANT BLACK;bALL BUT UPPER LEFT QUADRANT BLACK
25D6 LEFT HALF BLACK CIRCLE;RIGHT HALF BLACK CIRCLE;INVERSE BULLET;aWHITE CIRCLE
25DA UPPER HALF INVERSE WHITE CIRCLE;LOWER HALF INVERSE WHITE CIRCLE
25DC UPPER LEFT QUADRANT CIRCULAR ARC;aRIGHT QUADRANT CIRCULAR ARC
25DE LOWER RIGHT QUADRANT CIRCULAR ARC;aLEFT QUADRANT CIRCULAR ARC;UPPER HALF CIRCLE
25E1 LOWER HALF CIRCLE;BLACK LOWER RIGHT TRIANGLE;bLEFT TRIANGLE;aUPPER LEFT TRIANGLE
25E5 bRIGHT TRIANGLE;WHITE BULLET;SQUARE WITH LEFT HALF BLACK;bRIGHT HALF BLACK
25E9 bUPPER LEFT DIAGONAL HALF BLACK;bLOWER RIGHT DIAGONAL HALF BLACK
25EB WHITE SQUARE WITH VERTICAL BISECTING LINE;aUP-POINTING TRIANGLE WITH DOT
25ED UP-POINTING TRIANGLE WITH LEFT HALF BLACK;cRIGHT HALF BLACK;LARGE CIRCLE
25F0 WHITE SQUARE WITH UPPER LEFT QUADRANT;cLOWER LEFT QUADRANT;dRIGHT QUADRANT
25F3 cUPPER RIGHT QUADRANT;aCIRCLE WITH UPPER LEFT QUADRANT;cLOWER LEFT QUADRANT;dRIGHT QUADRANT
25F7 cUPPER RIGHT QUADRANT;UPPER LEFT TRIANGLE;aRIGHT TRIANGLE;LOWER LEFT TRIANGLE
25FB WHITE MEDIUM SQUARE;BLACK MEDIUM SQUARE;WHITE MEDIUM SMALL SQUARE;BLACK MEDIUM SMALL SQUARE
25FF LOWER RIGHT TRIANGLE;BLACK SUN WITH RAYS;CLOUD;UMBRELLA;SNOWMAN;COMET;BLACK STAR;WHITE STAR
2607 LIGHTNING;THUNDERSTORM;SUN;ASCENDING NODE;DESCENDING NODE;CONJUNCTION;OPPOSITION
260E BLACK TELEPHONE;WHITE TELEPHONE;BALLOT BOX;bWITH CHECK;cX;SALTIRE;UMBRELLA WITH RAIN DROPS
2615 HOT BEVERAGE;WHITE SHOGI PIECE;BLACK SHOGI PIECE;SHAMROCK
2619 REVERSED ROTATED FLORAL HEART BULLET;BLACK LEFT POINTING INDEX;aRIGHT POINTING INDEX
261C WHITE LEFT POINTING INDEX;aUP POINTING INDEX;aRIGHT POINTING INDEX;aDOWN POINTING INDEX
2620 SKULL AND CROSSBONES;CAUTION SIGN;RADIOACTIVE SIGN;BIOHAZARD SIGN;CADUCEUS;ANKH
2626 ORTHODOX CROSS;CHI RHO;CROSS OF LORRAINE;bJERUSALEM;STAR AND CRESCENT;FARSI SYMBOL;ADI SHAKTI
262D HAMMER AND SICKLE;PEACE SYMBOL;YIN YANG;TRIGRAM FOR HEAVEN;bLAKE;bFIRE;bTHUNDER;bWIND;bWATER
2636 bMOUNTAIN;bEARTH;WHEEL OF DHARMA;WHITE FROWNING FACE;aSMILING FACE;BLACK SMILING FACE
263C WHITE SUN WITH RAYS;FIRST QUARTER MOON;LAST QUARTER MOON;MERCURY;FEMALE SIGN;EARTH;MALE SIGN
2643 JUPITER;SATURN;URANUS;NEPTUNE;PLUTO;ARIES;TAURUS;GEMINI;CANCER;LEO;VIRGO;LIBRA;SCORPIUS
2650 SAGITTARIUS;CAPRICORN;AQUARIUS;PISCES;WHITE CHESS KING;bQUEEN;bROOK;bBISHOP;bKNIGHT;bPAWN
265A BLACK CHESS KING;bQUEEN;bROOK;bBISHOP;bKNIGHT;bPAWN;aSPADE SUIT;WHITE HEART SUIT
2662 aDIAMOND SUIT;BLACK CLUB SUIT;WHITE SPADE SUIT;BLACK HEART SUIT;aDIAMOND SUIT;WHITE CLUB SUIT
2668 HOT SPRINGS;QUARTER NOTE;EIGHTH NOTE;BEAMED EIGHTH NOTES;aSIXTEENTH NOTES;MUSIC FLAT SIGN
266E aNATURAL SIGN;aSHARP SIGN;WEST SYRIAC CROSS;EAST SYRIAC CROSS;UNIVERSAL RECYCLING SYMBOL
2673 RECYCLING SYMBOL FOR TYPE-1 PLASTICS;cTYPE-2 PLASTICS;cTYPE-3 PLASTICS;cTYPE-4 PLASTICS
2677 cTYPE-5 PLASTICS;cTYPE-6 PLASTICS;cTYPE-7 PLASTICS;cGENERIC MATERIALS
267B BLACK UNIVERSAL RECYCLING SYMBOL;RECYCLED PAPER SYMBOL;PARTIALLY-RECYCLED PAPER SYMBOL
267E PERMANENT PAPER SIGN;WHEELCHAIR SYMBOL;DIE FACE-1;aFACE-2;aFACE-3;aFACE-4;aFACE-5;aFACE-6
2686 WHITE CIRCLE WITH DOT RIGHT;cTWO DOTS;BLACK CIRCLE WITH WHITE DOT RIGHT;cTWO WHITE DOTS
268A MONOGRAM FOR YANG;bYIN;DIGRAM FOR GREATER YANG;bLESSER YIN;cYANG;bGREATER YIN;WHITE FLAG
2691 BLACK FLAG;HAMMER AND PICK;ANCHOR;CROSSED SWORDS;STAFF OF AESCULAPIUS;SCALES;ALEMBIC;FLOWER
2699 GEAR;STAFF OF HERMES;ATOM SYMBOL;FLEUR-DE-LIS;OUTLINED WHITE STAR
269E THREE LINES CONVERGING RIGHT;cLEFT;WARNING SIGN;HIGH VOLTAGE SIGN;DOUBLED FEMALE SIGN
26A3 aMALE SIGN;INTERLOCKED FEMALE AND MALE SIGN;MALE AND FEMALE SIGN;aWITH STROKE SIGN
26A7 cAND MALE AND FEMALE SIGN;VERTICAL MALE WITH STROKE SIGN;HORIZONTAL MALE WITH STROKE SIGN
26AA MEDIUM WHITE CIRCLE;aBLACK CIRCLE;aSMALL WHITE CIRCLE;MARRIAGE SYMBOL;DIVORCE SYMBOL
26AF UNMARRIED PARTNERSHIP SYMBOL;COFFIN;FUNERAL URN;NEUTER;CERES;PALLAS;JUNO;VESTA;CHIRON
26B8 BLACK MOON LILITH;SEXTILE;SEMISEXTILE;QUINCUNX;SESQUIQUADRATE;SOCCER BALL;BASEBALL
26BF SQUARED KEY;WHITE DRAUGHTS MAN;bKING;BLACK DRAUGHTS MAN;bKING;SNOWMAN WITHOUT SNOW
26C5 SUN BEHIND CLOUD;RAIN;BLACK SNOWMAN;THUNDER CLOUD AND RAIN;TURNED WHITE SHOGI PIECE
26CA aBLACK SHOGI PIECE;WHITE DIAMOND IN SQUARE;CROSSING LANES;DISABLED CAR;OPHIUCHUS;PICK
26D0 CAR SLIDING;HELMET WITH WHITE CROSS;CIRCLED CROSSING LANES;CHAINS;NO ENTRY
26D5 ALTERNATE ONE-WAY LEFT WAY TRAFFIC;BLACK TWO-WAY LEFT WAY TRAFFIC
26D7 WHITE TWO-WAY LEFT WAY TRAFFIC;BLACK LEFT LANE MERGE;WHITE LEFT LANE MERGE;DRIVE SLOW SIGN
26DB HEAVY WHITE DOWN-POINTING TRIANGLE;LEFT CLOSED ENTRY;SQUARED SALTIRE
26DE FALLING DIAGONAL IN WHITE CIRCLE IN BLACK SQUARE;BLACK TRUCK;RESTRICTED LEFT ENTRY-1;bENTRY-2
26E2 ASTRONOMICAL SYMBOL FOR URANUS;HEAVY CIRCLE WITH STROKE AND TWO DOTS ABOVE;PENTAGRAM
26E5 RIGHT-HANDED INTERLACED PENTAGRAM;LEFT-HANDED INTERLACED PENTAGRAM;INVERTED PENTAGRAM
26E8 BLACK CROSS ON SHIELD;SHINTO SHRINE;CHURCH;CASTLE;HISTORIC SITE;GEAR WITHOUT HUB
26EE aWITH HANDLES;MAP SYMBOL FOR LIGHTHOUSE;MOUNTAIN;UMBRELLA ON GROUND;FOUNTAIN;FLAG IN HOLE
26F4 FERRY;SAILBOAT;SQUARE FOUR CORNERS;SKIER;ICE SKATE;PERSON WITH BALL;TENT;JAPANESE BANK SYMBOL
26FC HEADSTONE GRAVEYARD SYMBOL;FUEL PUMP;CUP ON BLACK SQUARE
26FF WHITE FLAG WITH HORIZONTAL MIDDLE BLACK STRIPE;BLACK SAFETY SCISSORS;UPPER BLADE SCISSORS
2702 BLACK SCISSORS;LOWER BLADE SCISSORS;WHITE SCISSORS;aHEAVY CHECK MARK;TELEPHONE LOCATION SIGN
2707 TAPE DRIVE;AIRPLANE;ENVELOPE;RAISED FIST;aHAND;VICTORY HAND;WRITING HAND;LOWER RIGHT PENCIL
270F PENCIL;UPPER RIGHT PENCIL;WHITE NIB;BLACK NIB;CHECK MARK;HEAVY CHECK MARK;MULTIPLICATION X
2716 HEAVY MULTIPLICATION X;BALLOT X;HEAVY BALLOT X;OUTLINED GREEK CROSS;HEAVY GREEK CROSS
271B OPEN CENTRE CROSS;HEAVY OPEN CENTRE CROSS;LATIN CROSS;SHADOWED WHITE LATIN CROSS
271F OUTLINED LATIN CROSS;MALTESE CROSS;STAR OF DAVID;FOUR TEARDROP-SPOKED ASTERISK
2723 aBALLOON-SPOKED ASTERISK;HEAVY FOUR BALLOON-SPOKED ASTERISK;FOUR CLUB-SPOKED ASTERISK
2726 BLACK FOUR POINTED STAR;WHITE FOUR POINTED STAR;SPARKLES;STRESS OUTLINED WHITE STAR
272A CIRCLED WHITE STAR;OPEN CENTRE BLACK STAR;BLACK CENTRE WHITE STAR;OUTLINED BLACK STAR
272E HEAVY OUTLINED BLACK STAR;PINWHEEL STAR;SHADOWED WHITE STAR;HEAVY ASTERISK
2732 OPEN CENTRE ASTERISK;EIGHT SPOKED ASTERISK;aPOINTED BLACK STAR;bPINWHEEL STAR
2736 SIX POINTED BLACK STAR;EIGHT POINTED RECTILINEAR BLACK STAR
2738 HEAVY EIGHT POINTED RECTILINEAR BLACK STAR;TWELVE POINTED BLACK STAR;SIXTEEN POINTED ASTERISK
273B TEARDROP-SPOKED ASTERISK;OPEN CENTRE TEARDROP-SPOKED ASTERISK;HEAVY TEARDROP-SPOKED ASTERISK
273E SIX PETALLED BLACK AND WHITE FLORETTE;BLACK FLORETTE;WHITE FLORETTE
2741 EIGHT PETALLED OUTLINED BLACK FLORETTE;CIRCLED OPEN CENTRE EIGHT POINTED STAR
2743 HEAVY TEARDROP-SPOKED PINWHEEL ASTERISK;SNOWFLAKE;TIGHT TRIFOLIATE SNOWFLAKE
2746 HEAVY CHEVRON SNOWFLAKE;SPARKLE;HEAVY SPARKLE;BALLOON-SPOKED ASTERISK
274A EIGHT TEARDROP-SPOKED PROPELLER ASTERISK;HEAVY EIGHT TEARDROP-SPOKED PROPELLER ASTERISK
274C CROSS MARK;SHADOWED WHITE CIRCLE;NEGATIVE SQUARED CROSS MARK
274F LOWER RIGHT DROP-SHADOWED WHITE SQUARE;UPPER RIGHT DROP-SHADOWED WHITE SQUARE
2751 LOWER RIGHT SHADOWED WHITE SQUARE;UPPER RIGHT SHADOWED WHITE SQUARE
2753 BLACK QUESTION MARK ORNAMENT;WHITE QUESTION MARK ORNAMENT;aEXCLAMATION MARK ORNAMENT
2756 BLACK DIAMOND MINUS WHITE X;HEAVY EXCLAMATION MARK SYMBOL;LIGHT VERTICAL BAR
2759 MEDIUM VERTICAL BAR;HEAVY VERTICAL BAR;aSINGLE TURNED COMMA QUOTATION MARK ORNAMENT
275C bCOMMA QUOTATION MARK ORNAMENT;aDOUBLE TURNED COMMA QUOTATION MARK ORNAMENT
275E bCOMMA QUOTATION MARK ORNAMENT;aLOW SINGLE COMMA QUOTATION MARK ORNAMENT
2760 bDOUBLE COMMA QUOTATION MARK ORNAMENT;CURVED STEM PARAGRAPH SIGN ORNAMENT
2762 HEAVY EXCLAMATION MARK ORNAMENT;aHEART EXCLAMATION MARK ORNAMENT;aBLACK HEART
2765 ROTATED HEAVY BLACK HEART BULLET;FLORAL HEART;ROTATED FLORAL HEART BULLET
2768 MEDIUM LEFT PARENTHESIS ORNAMENT;aRIGHT PARENTHESIS ORNAMENT
276A aFLATTENED LEFT PARENTHESIS ORNAMENT;bRIGHT PARENTHESIS ORNAMENT
276C aLEFT-POINTING ANGLE BRACKET ORNAMENT;aRIGHT-POINTING ANGLE BRACKET ORNAMENT
276E HEAVY LEFT-POINTING ANGLE QUOTATION MARK ORNAMENT
276F aRIGHT-POINTING ANGLE QUOTATION MARK ORNAMENT;aLEFT-POINTING ANGLE BRACKET ORNAMENT
2771 aRIGHT-POINTING ANGLE BRACKET ORNAMENT;LIGHT LEFT TORTOISE SHELL BRACKET ORNAMENT
2773 aRIGHT TORTOISE SHELL BRACKET ORNAMENT;MEDIUM LEFT CURLY BRACKET ORNAMENT
2775 aRIGHT CURLY BRACKET ORNAMENT;DINGBAT NEGATIVE CIRCLED DIGIT ONE;dTWO;dTHREE;dFOUR;dFIVE;dSIX
277C dSEVEN;dEIGHT;dNINE;cNUMBER TEN;aCIRCLED SANS-SERIF DIGIT ONE;dTWO;dTHREE;dFOUR;dFIVE;dSIX
2786 dSEVEN;dEIGHT;dNINE;cNUMBER TEN;aNEGATIVE CIRCLED SANS-SERIF DIGIT ONE;eTWO;eTHREE;eFOUR
278E eFIVE;eSIX;eSEVEN;eEIGHT;eNINE;dNUMBER TEN;HEAVY WIDE-HEADED RIGHTWARDS ARROW;aPLUS SIGN
2796 aMINUS SIGN;aDIVISION SIGN;aSOUTH EAST ARROW;aRIGHTWARDS ARROW;aNORTH EAST ARROW
279B DRAFTING POINT RIGHTWARDS ARROW;HEAVY ROUND-TIPPED RIGHTWARDS ARROW
279D TRIANGLE-HEADED RIGHTWARDS ARROW;HEAVY TRIANGLE-HEADED RIGHTWARDS ARROW
279F DASHED TRIANGLE-HEADED RIGHTWARDS ARROW;HEAVY DASHED TRIANGLE-HEADED RIGHTWARDS ARROW
27A1 BLACK RIGHTWARDS ARROW;THREE-D TOP-LIGHTED RIGHTWARDS ARROWHEAD
27A3 aBOTTOM-LIGHTED RIGHTWARDS ARROWHEAD;BLACK RIGHTWARDS ARROWHEAD
27A5 HEAVY BLACK CURVED DOWNWARDS AND RIGHTWARDS ARROW;cUPWARDS AND RIGHTWARDS ARROW
27A7 SQUAT BLACK RIGHTWARDS ARROW;HEAVY CONCAVE-POINTED BLACK RIGHTWARDS ARROW
27A9 RIGHT-SHADED WHITE RIGHTWARDS ARROW;LEFT-SHADED WHITE RIGHTWARDS ARROW
27AB BACK-TILTED SHADOWED WHITE RIGHTWARDS ARROW;FRONT-TILTED SHADOWED WHITE RIGHTWARDS ARROW
27AD HEAVY LOWER RIGHT-SHADOWED WHITE RIGHTWARDS ARROW
27AE aUPPER RIGHT-SHADOWED WHITE RIGHTWARDS ARROW
27AF NOTCHED LOWER RIGHT-SHADOWED WHITE RIGHTWARDS ARROW;CURLY LOOP
27B1 NOTCHED UPPER RIGHT-SHADOWED WHITE RIGHTWARDS ARROW;CIRCLED HEAVY WHITE RIGHTWARDS ARROW
27B3 WHITE-FEATHERED RIGHTWARDS ARROW;BLACK-FEATHERED SOUTH EAST ARROW;aRIGHTWARDS ARROW
27B6 aNORTH EAST ARROW;HEAVY BLACK-FEATHERED SOUTH EAST ARROW;bRIGHTWARDS ARROW;bNORTH EAST ARROW
27BA TEARDROP-BARBED RIGHTWARDS ARROW;HEAVY TEARDROP-SHANKED RIGHTWARDS ARROW
27BC WEDGE-TAILED RIGHTWARDS ARROW;HEAVY WEDGE-TAILED RIGHTWARDS ARROW
27BE OPEN-OUTLINED RIGHTWARDS ARROW;DOUBLE CURLY LOOP;THREE DIMENSIONAL ANGLE
27C1 WHITE TRIANGLE CONTAINING SMALL WHITE TRIANGLE;PERPENDICULAR;OPEN SUBSET;aSUPERSET
27C5 LEFT S-SHAPED BAG DELIMITER;RIGHT S-SHAPED BAG DELIMITER;OR WITH DOT INSIDE
27C8 REVERSE SOLIDUS PRECEDING SUBSET;SUPERSET PRECEDING SOLIDUS
27CA VERTICAL BAR WITH HORIZONTAL STROKE;MATHEMATICAL RISING DIAGONAL;LONG DIVISION
27CD MATHEMATICAL FALLING DIAGONAL;SQUARED LOGICAL AND;bOR;WHITE DIAMOND WITH CENTRED DOT
27D1 AND WITH DOT;ELEMENT OF OPENING UPWARDS;LOWER RIGHT CORNER WITH DOT
27D4 UPPER LEFT CORNER WITH DOT;LEFT OUTER JOIN;RIGHT OUTER JOIN;FULL OUTER JOIN;LARGE UP TACK
27D9 aDOWN TACK;LEFT AND RIGHT DOUBLE TURNSTILE;cTACK;aMULTIMAP;LONG RIGHT TACK;aLEFT TACK
27DF UP TACK WITH CIRCLE ABOVE;LOZENGE DIVIDED BY HORIZONTAL RULE;WHITE CONCAVE-SIDED DIAMOND
27E2 cWITH LEFTWARDS TICK;dRIGHTWARDS TICK;aSQUARE WITH LEFTWARDS TICK;cRIGHTWARDS TICK
27E6 MATHEMATICAL LEFT WHITE SQUARE BRACKET;aRIGHT WHITE SQUARE BRACKET;aLEFT ANGLE BRACKET
27E9 aRIGHT ANGLE BRACKET;aLEFT DOUBLE ANGLE BRACKET;aRIGHT DOUBLE ANGLE BRACKET
27EC aLEFT WHITE TORTOISE SHELL BRACKET;aRIGHT WHITE TORTOISE SHELL BRACKET
27EE aLEFT FLATTENED PARENTHESIS;aRIGHT FLATTENED PARENTHESIS;UPWARDS QUADRUPLE ARROW
27F1 DOWNWARDS QUADRUPLE ARROW;ANTICLOCKWISE GAPPED CIRCLE ARROW;CLOCKWISE GAPPED CIRCLE ARROW
27F4 RIGHT ARROW WITH CIRCLED PLUS;LONG LEFTWARDS ARROW;aRIGHTWARDS ARROW;aLEFT RIGHT ARROW
27F8 aLEFTWARDS DOUBLE ARROW;aRIGHTWARDS DOUBLE ARROW;aLEFT RIGHT DOUBLE ARROW
27FB aLEFTWARDS ARROW FROM BAR;aRIGHTWARDS ARROW FROM BAR;aLEFTWARDS DOUBLE ARROW FROM BAR
27FE aRIGHTWARDS DOUBLE ARROW FROM BAR;bSQUIGGLE ARROW;BRAILLE PATTERN BLANK;bDOTS-1;bDOTS-2
2803 bDOTS-12;bDOTS-3;bDOTS-13;bDOTS-23;bDOTS-123;bDOTS-4;bDOTS-14;bDOTS-24;bDOTS-124;bDOTS-34
280D bDOTS-134;bDOTS-234;bDOTS-1234;bDOTS-5;bDOTS-15;bDOTS-25;bDOTS-125;bDOTS-35;bDOTS-135
2816 bDOTS-235;bDOTS-1235;bDOTS-45;bDOTS-145;bDOTS-245;bDOTS-1245;bDOTS-345;bDOTS-1345;bDOTS-2345
281F bDOTS-12345;bDOTS-6;bDOTS-16;bDOTS-26;bDOTS-126;bDOTS-36;bDOTS-136;bDOTS-236;bDOTS-1236
2828 bDOTS-46;bDOTS-146;bDOTS-246;bDOTS-1246;bDOTS-346;bDOTS-1346;bDOTS-2346;bDOTS-12346;bDOTS-56
2831 bDOTS-156;bDOTS-256;bDOTS-1256;bDOTS-356;bDOTS-1356;bDOTS-2356;bDOTS-12356;bDOTS-456
2839 bDOTS-1456;bDOTS-2456;bDOTS-12456;bDOTS-3456;bDOTS-13456;bDOTS-23456;bDOTS-123456;bDOTS-7
2841 bDOTS-17;bDOTS-27;bDOTS-127;bDOTS-37;bDOTS-137;bDOTS-237;bDOTS-1237;bDOTS-47;bDOTS-147
284A bDOTS-247;bDOTS-1247;bDOTS-347;bDOTS-1347;bDOTS-2347;bDOTS-12347;bDOTS-57;bDOTS-157;bDOTS-257
2853 bDOTS-1257;bDOTS-357;bDOTS-1357;bDOTS-2357;bDOTS-12357;bDOTS-457;bDOTS-1457;bDOTS-2457
285B bDOTS-12457;bDOTS-3457;bDOTS-13457;bDOTS-23457;bDOTS-123457;bDOTS-67;bDOTS-167;bDOTS-267
2863 bDOTS-1267;bDOTS-367;bDOTS-1367;bDOTS-2367;bDOTS-12367;bDOTS-467;bDOTS-1467;bDOTS-2467
286B bDOTS-12467;bDOTS-3467;bDOTS-13467;bDOTS-23467;bDOTS-123467;bDOTS-567;bDOTS-1567;bDOTS-2567
2873 bDOTS-12567;bDOTS-3567;bDOTS-13567;bDOTS-23567;bDOTS-123567;bDOTS-4567;bDOTS-14567
287A bDOTS-24567;bDOTS-124567;bDOTS-34567;bDOTS-134567;bDOTS-234567;bDOTS-1234567;bDOTS-8;bDOTS-18
2882 bDOTS-28;bDOTS-128;bDOTS-38;bDOTS-138;bDOTS-238;bDOTS-1238;bDOTS-48;bDOTS-148;bDOTS-248
288B bDOTS-1248;bDOTS-348;bDOTS-1348;bDOTS-2348;bDOTS-12348;bDOTS-58;bDOTS-158;bDOTS-258
2893 bDOTS-1258;bDOTS-358;bDOTS-1358;bDOTS-2358;bDOTS-12358;bDOTS-458;bDOTS-1458;bDOTS-2458
289B bDOTS-12458;bDOTS-3458;bDOTS-13458;bDOTS-23458;bDOTS-123458;bDOTS-68;bDOTS-168;bDOTS-268
28A3 bDOTS-1268;bDOTS-368;bDOTS-1368;bDOTS-2368;bDOTS-12368;bDOTS-468;bDOTS-1468;bDOTS-2468
28AB bDOTS-12468;bDOTS-3468;bDOTS-13468;bDOTS-23468;bDOTS-123468;bDOTS-568;bDOTS-1568;bDOTS-2568
28B3 bDOTS-12568;bDOTS-3568;bDOTS-13568;bDOTS-23568;bDOTS-123568;bDOTS-4568;bDOTS-14568
28BA bDOTS-24568;bDOTS-124568;bDOTS-34568;bDOTS-134568;bDOTS-234568;bDOTS-1234568;bDOTS-78
28C1 bDOTS-178;bDOTS-278;bDOTS-1278;bDOTS-378;bDOTS-1378;bDOTS-2378;bDOTS-12378;bDOTS-478
28C9 bDOTS-1478;bDOTS-2478;bDOTS-12478;bDOTS-3478;bDOTS-13478;bDOTS-23478;bDOTS-123478;bDOTS-578
28D1 bDOTS-1578;bDOTS-2578;bDOTS-12578;bDOTS-3578;bDOTS-13578;bDOTS-23578;bDOTS-123578;bDOTS-4578
28D9 bDOTS-14578;bDOTS-24578;bDOTS-124578;bDOTS-34578;bDOTS-134578;bDOTS-234578;bDOTS-1234578
28E0 bDOTS-678;bDOTS-1678;bDOTS-2678;bDOTS-12678;bDOTS-3678;bDOTS-13678;bDOTS-23678;bDOTS-123678
28E8 bDOTS-4678;bDOTS-14678;bDOTS-24678;bDOTS-124678;bDOTS-34678;bDOTS-134678;bDOTS-234678
28EF bDOTS-1234678;bDOTS-5678;bDOTS-15678;bDOTS-25678;bDOTS-125678;bDOTS-35678;bDOTS-135678
28F6 bDOTS-235678;bDOTS-1235678;bDOTS-45678;bDOTS-145678;bDOTS-245678;bDOTS-1245678;bDOTS-345678
28FD bDOTS-1345678;bDOTS-2345678;bDOTS-12345678;RIGHTWARDS TWO-HEADED ARROW WITH VERTICAL STROKE
2901 dDOUBLE VERTICAL STROKE;LEFTWARDS DOUBLE ARROW WITH VERTICAL STROKE
2903 RIGHTWARDS DOUBLE ARROW WITH VERTICAL STROKE;LEFT RIGHT DOUBLE ARROW WITH VERTICAL STROKE
2905 RIGHTWARDS TWO-HEADED ARROW FROM BAR;LEFTWARDS DOUBLE ARROW FROM BAR
2907 RIGHTWARDS DOUBLE ARROW FROM BAR;DOWNWARDS ARROW WITH HORIZONTAL STROKE
2909 UPWARDS ARROW WITH HORIZONTAL STROKE;aTRIPLE ARROW;DOWNWARDS TRIPLE ARROW
290C LEFTWARDS DOUBLE DASH ARROW;RIGHTWARDS DOUBLE DASH ARROW;LEFTWARDS TRIPLE DASH ARROW
290F RIGHTWARDS TRIPLE DASH ARROW;aTWO-HEADED TRIPLE DASH ARROW;aARROW WITH DOTTED STEM
2912 UPWARDS ARROW TO BAR;DOWNWARDS ARROW TO BAR;RIGHTWARDS ARROW WITH TAIL WITH VERTICAL STROKE
2915 eDOUBLE VERTICAL STROKE;aTWO-HEADED ARROW WITH TAIL;eWITH VERTICAL STROKE
2918 fDOUBLE VERTICAL STROKE;LEFTWARDS ARROW-TAIL;RIGHTWARDS ARROW-TAIL
291B LEFTWARDS DOUBLE ARROW-TAIL;RIGHTWARDS DOUBLE ARROW-TAIL;LEFTWARDS ARROW TO BLACK DIAMOND
291E RIGHTWARDS ARROW TO BLACK DIAMOND;LEFTWARDS ARROW FROM BAR TO BLACK DIAMOND
2920 RIGHTWARDS ARROW FROM BAR TO BLACK DIAMOND;NORTH WEST AND SOUTH EAST ARROW
2922 aEAST AND SOUTH WEST ARROW;aWEST ARROW WITH HOOK;aEAST ARROW WITH HOOK
2925 SOUTH EAST ARROW WITH HOOK;aWEST ARROW WITH HOOK;NORTH WEST ARROW AND NORTH EAST ARROW
2928 aEAST ARROW AND SOUTH EAST ARROW;SOUTH EAST ARROW AND SOUTH WEST ARROW
292A aWEST ARROW AND NORTH WEST ARROW;RISING DIAGONAL CROSSING FALLING DIAGONAL
292C FALLING DIAGONAL CROSSING RISING DIAGONAL;SOUTH EAST ARROW CROSSING NORTH EAST ARROW
292E NORTH EAST ARROW CROSSING SOUTH EAST ARROW;FALLING DIAGONAL CROSSING NORTH EAST ARROW
2930 RISING DIAGONAL CROSSING SOUTH EAST ARROW;NORTH EAST ARROW CROSSING NORTH WEST ARROW
2932 aWEST ARROW CROSSING NORTH EAST ARROW;WAVE ARROW POINTING DIRECTLY RIGHT
2934 ARROW POINTING RIGHTWARDS THEN CURVING UPWARDS;eDOWNWARDS;bDOWNWARDS THEN CURVING LEFTWARDS
2937 eRIGHTWARDS;RIGHT-SIDE ARC CLOCKWISE ARROW;LEFT-SIDE ARC ANTICLOCKWISE ARROW
293A TOP ARC ANTICLOCKWISE ARROW;BOTTOM ARC ANTICLOCKWISE ARROW;TOP ARC CLOCKWISE ARROW WITH MINUS
293D bANTICLOCKWISE ARROW WITH PLUS;LOWER RIGHT SEMICIRCULAR CLOCKWISE ARROW
293F aLEFT SEMICIRCULAR ANTICLOCKWISE ARROW;ANTICLOCKWISE CLOSED CIRCLE ARROW
2941 CLOCKWISE CLOSED CIRCLE ARROW;RIGHTWARDS ARROW ABOVE SHORT LEFTWARDS ARROW
2943 LEFTWARDS ARROW ABOVE SHORT RIGHTWARDS ARROW;SHORT RIGHTWARDS ARROW ABOVE LEFTWARDS ARROW
2945 RIGHTWARDS ARROW WITH PLUS BELOW;LEFTWARDS ARROW WITH PLUS BELOW;RIGHTWARDS ARROW THROUGH X
2948 LEFT RIGHT ARROW THROUGH SMALL CIRCLE;UPWARDS TWO-HEADED ARROW FROM SMALL CIRCLE
294A LEFT BARB UP RIGHT BARB DOWN HARPOON;bDOWN RIGHT BARB UP HARPOON
294C UP BARB RIGHT DOWN BARB LEFT HARPOON;bLEFT DOWN BARB RIGHT HARPOON
294E LEFT BARB UP RIGHT BARB UP HARPOON;UP BARB RIGHT DOWN BARB RIGHT HARPOON
2950 LEFT BARB DOWN RIGHT BARB DOWN HARPOON;UP BARB LEFT DOWN BARB LEFT HARPOON
2952 LEFTWARDS HARPOON WITH BARB UP TO BAR;RIGHTWARDS HARPOON WITH BARB UP TO BAR
2954 UPWARDS HARPOON WITH BARB RIGHT TO BAR;DOWNWARDS HARPOON WITH BARB RIGHT TO BAR
2956 LEFTWARDS HARPOON WITH BARB DOWN TO BAR;RIGHTWARDS HARPOON WITH BARB DOWN TO BAR
2958 UPWARDS HARPOON WITH BARB LEFT TO BAR;DOWNWARDS HARPOON WITH BARB LEFT TO BAR
295A LEFTWARDS HARPOON WITH BARB UP FROM BAR;RIGHTWARDS HARPOON WITH BARB UP FROM BAR
295C UPWARDS HARPOON WITH BARB RIGHT FROM BAR;DOWNWARDS HARPOON WITH BARB RIGHT FROM BAR
295E LEFTWARDS HARPOON WITH BARB DOWN FROM BAR;RIGHTWARDS HARPOON WITH BARB DOWN FROM BAR
2960 UPWARDS HARPOON WITH BARB LEFT FROM BAR;DOWNWARDS HARPOON WITH BARB LEFT FROM BAR
2962 LEFTWARDS HARPOON WITH BARB UP ABOVE LEFTWARDS HARPOON WITH BARB DOWN
2963 UPWARDS HARPOON WITH BARB LEFT BESIDE UPWARDS HARPOON WITH BARB RIGHT
2964 RIGHTWARDS HARPOON WITH BARB UP ABOVE RIGHTWARDS HARPOON WITH BARB DOWN
2965 DOWNWARDS HARPOON WITH BARB LEFT BESIDE DOWNWARDS HARPOON WITH BARB RIGHT
2966 LEFTWARDS HARPOON WITH BARB UP ABOVE RIGHTWARDS HARPOON WITH BARB UP
2967 dDOWN ABOVE RIGHTWARDS HARPOON WITH BARB DOWN
2968 RIGHTWARDS HARPOON WITH BARB UP ABOVE LEFTWARDS HARPOON WITH BARB UP
2969 dDOWN ABOVE LEFTWARDS HARPOON WITH BARB DOWN;LEFTWARDS HARPOON WITH BARB UP ABOVE LONG DASH
296B dDOWN BELOW LONG DASH;RIGHTWARDS HARPOON WITH BARB UP ABOVE LONG DASH;dDOWN BELOW LONG DASH
296E UPWARDS HARPOON WITH BARB LEFT BESIDE DOWNWARDS HARPOON WITH BARB RIGHT
296F DOWNWARDS HARPOON WITH BARB LEFT BESIDE UPWARDS HARPOON WITH BARB RIGHT
2970 RIGHT DOUBLE ARROW WITH ROUNDED HEAD;EQUALS SIGN ABOVE RIGHTWARDS ARROW
2972 TILDE OPERATOR ABOVE RIGHTWARDS ARROW;LEFTWARDS ARROW ABOVE TILDE OPERATOR
2974 RIGHTWARDS ARROW ABOVE TILDE OPERATOR;cALMOST EQUAL TO;LESS-THAN ABOVE LEFTWARDS ARROW
2977 LEFTWARDS ARROW THROUGH LESS-THAN;GREATER-THAN ABOVE RIGHTWARDS ARROW
2979 SUBSET ABOVE RIGHTWARDS ARROW;LEFTWARDS ARROW THROUGH SUBSET;SUPERSET ABOVE LEFTWARDS ARROW
297C LEFT FISH TAIL;RIGHT FISH TAIL;UP FISH TAIL;DOWN FISH TAIL;TRIPLE VERTICAL BAR DELIMITER
2981 Z NOTATION SPOT;bTYPE COLON;LEFT WHITE CURLY BRACKET;RIGHT WHITE CURLY BRACKET
2985 LEFT WHITE PARENTHESIS;RIGHT WHITE PARENTHESIS;Z NOTATION LEFT IMAGE BRACKET
2988 bRIGHT IMAGE BRACKET;bLEFT BINDING BRACKET;bRIGHT BINDING BRACKET
298B LEFT SQUARE BRACKET WITH UNDERBAR;RIGHT SQUARE BRACKET WITH UNDERBAR
298D LEFT SQUARE BRACKET WITH TICK IN TOP CORNER;RIGHT SQUARE BRACKET WITH TICK IN BOTTOM CORNER
298F LEFT SQUARE BRACKET WITH TICK IN BOTTOM CORNER;RIGHT SQUARE BRACKET WITH TICK IN TOP CORNER
2991 LEFT ANGLE BRACKET WITH DOT;RIGHT ANGLE BRACKET WITH DOT;LEFT ARC LESS-THAN BRACKET
2994 RIGHT ARC GREATER-THAN BRACKET;DOUBLE LEFT ARC GREATER-THAN BRACKET
2996 aRIGHT ARC LESS-THAN BRACKET;LEFT BLACK TORTOISE SHELL BRACKET
2998 RIGHT BLACK TORTOISE SHELL BRACKET;DOTTED FENCE;VERTICAL ZIGZAG LINE
299B MEASURED ANGLE OPENING LEFT;RIGHT ANGLE VARIANT WITH SQUARE;MEASURED RIGHT ANGLE WITH DOT
299E ANGLE WITH S INSIDE;ACUTE ANGLE;SPHERICAL ANGLE OPENING LEFT;cUP;TURNED ANGLE;REVERSED ANGLE
29A4 ANGLE WITH UNDERBAR;REVERSED ANGLE WITH UNDERBAR;OBLIQUE ANGLE OPENING UP;cDOWN
29A8 MEASURED ANGLE WITH OPEN ARM ENDING IN ARROW POINTING UP AND RIGHT;kLEFT;iDOWN AND RIGHT
29AB kLEFT;iRIGHT AND UP;iLEFT AND UP;iRIGHT AND DOWN;iLEFT AND DOWN;REVERSED EMPTY SET
29B1 EMPTY SET WITH OVERBAR;cSMALL CIRCLE ABOVE;cRIGHT ARROW ABOVE;cLEFT ARROW ABOVE
29B5 CIRCLE WITH HORIZONTAL BAR;CIRCLED VERTICAL BAR;aPARALLEL;aREVERSE SOLIDUS;aPERPENDICULAR
29BA CIRCLE DIVIDED BY HORIZONTAL BAR AND TOP HALF DIVIDED BY VERTICAL BAR;aWITH SUPERIMPOSED X
29BC CIRCLED ANTICLOCKWISE-ROTATED DIVISION SIGN;UP ARROW THROUGH CIRCLE;CIRCLED WHITE BULLET
29BF aBULLET;aLESS-THAN;aGREATER-THAN;CIRCLE WITH SMALL CIRCLE TO THE RIGHT
29C3 bTWO HORIZONTAL STROKES TO THE RIGHT;SQUARED RISING DIAGONAL SLASH;aFALLING DIAGONAL SLASH
29C6 aASTERISK;aSMALL CIRCLE;aSQUARE;TWO JOINED SQUARES;TRIANGLE WITH DOT ABOVE;bUNDERBAR
29CC S IN TRIANGLE;TRIANGLE WITH SERIFS AT BOTTOM;RIGHT TRIANGLE ABOVE LEFT TRIANGLE
29CF LEFT TRIANGLE BESIDE VERTICAL BAR;VERTICAL BAR BESIDE RIGHT TRIANGLE
29D1 BOWTIE WITH LEFT HALF BLACK;bRIGHT HALF BLACK;BLACK BOWTIE;TIMES WITH LEFT HALF BLACK
29D5 bRIGHT HALF BLACK;WHITE HOURGLASS;BLACK HOURGLASS;LEFT WIGGLY FENCE;RIGHT WIGGLY FENCE
29DA LEFT DOUBLE WIGGLY FENCE;RIGHT DOUBLE WIGGLY FENCE;INCOMPLETE INFINITY;TIE OVER INFINITY
29DE INFINITY NEGATED WITH VERTICAL BAR;DOUBLE-ENDED MULTIMAP;SQUARE WITH CONTOURED OUTLINE
29E1 INCREASES AS;SHUFFLE PRODUCT;EQUALS SIGN AND SLANTED PARALLEL;eWITH TILDE ABOVE
29E5 IDENTICAL TO AND SLANTED PARALLEL;GLEICH STARK;THERMODYNAMIC
29E8 DOWN-POINTING TRIANGLE WITH LEFT HALF BLACK;cRIGHT HALF BLACK;BLACK DIAMOND WITH DOWN ARROW
29EB aLOZENGE;WHITE CIRCLE WITH DOWN ARROW;BLACK CIRCLE WITH DOWN ARROW;ERROR-BARRED WHITE SQUARE
29EF aBLACK SQUARE;aWHITE DIAMOND;aBLACK DIAMOND;aWHITE CIRCLE;aBLACK CIRCLE;RULE-DELAYED
29F5 REVERSE SOLIDUS OPERATOR;SOLIDUS WITH OVERBAR;REVERSE SOLIDUS WITH HORIZONTAL STROKE
29F8 BIG SOLIDUS;aREVERSE SOLIDUS;DOUBLE PLUS;TRIPLE PLUS;LEFT-POINTING CURVED ANGLE BRACKET
29FD RIGHT-POINTING CURVED ANGLE BRACKET;TINY;MINY;N-ARY CIRCLED DOT OPERATOR;bPLUS OPERATOR
2A02 bTIMES OPERATOR;aUNION OPERATOR WITH DOT;dPLUS;aSQUARE INTERSECTION OPERATOR;bUNION OPERATOR
2A07 TWO LOGICAL AND OPERATOR;bOR OPERATOR;N-ARY TIMES OPERATOR;MODULO TWO SUM
2A0B SUMMATION WITH INTEGRAL;QUADRUPLE INTEGRAL OPERATOR;FINITE PART INTEGRAL
2A0E INTEGRAL WITH DOUBLE STROKE;aAVERAGE WITH SLASH;CIRCULATION FUNCTION
2A11 ANTICLOCKWISE INTEGRATION;LINE INTEGRATION WITH RECTANGULAR PATH AROUND POLE
2A13 cSEMICIRCULAR PATH AROUND POLE;bNOT INCLUDING THE POLE;INTEGRAL AROUND A POINT OPERATOR
2A16 QUATERNION INTEGRAL OPERATOR;INTEGRAL WITH LEFTWARDS ARROW WITH HOOK;bTIMES SIGN
2A19 bINTERSECTION;bUNION;bOVERBAR;bUNDERBAR;JOIN;LARGE LEFT TRIANGLE OPERATOR
2A1F Z NOTATION SCHEMA COMPOSITION;cPIPING;cPROJECTION;PLUS SIGN WITH SMALL CIRCLE ABOVE
2A23 cCIRCUMFLEX ACCENT ABOVE;cTILDE ABOVE;cDOT BELOW;cTILDE BELOW;cSUBSCRIPT TWO;cBLACK TRIANGLE
2A29 MINUS SIGN WITH COMMA ABOVE;cDOT BELOW;cFALLING DOTS;cRISING DOTS
2A2D PLUS SIGN IN LEFT HALF CIRCLE;cRIGHT HALF CIRCLE;VECTOR OR CROSS PRODUCT
2A30 MULTIPLICATION SIGN WITH DOT ABOVE;cUNDERBAR;SEMIDIRECT PRODUCT WITH BOTTOM CLOSED
2A33 SMASH PRODUCT;MULTIPLICATION SIGN IN LEFT HALF CIRCLE;cRIGHT HALF CIRCLE
2A36 CIRCLED MULTIPLICATION SIGN WITH CIRCUMFLEX ACCENT;MULTIPLICATION SIGN IN DOUBLE CIRCLE
2A38 CIRCLED DIVISION SIGN;PLUS SIGN IN TRIANGLE;MINUS SIGN IN TRIANGLE
2A3B MULTIPLICATION SIGN IN TRIANGLE;INTERIOR PRODUCT;RIGHTHAND INTERIOR PRODUCT
2A3E Z NOTATION RELATIONAL COMPOSITION;AMALGAMATION OR COPRODUCT;INTERSECTION WITH DOT
2A41 UNION WITH MINUS SIGN;bOVERBAR;INTERSECTION WITH OVERBAR;bLOGICAL AND;UNION WITH LOGICAL OR
2A46 aABOVE INTERSECTION;INTERSECTION ABOVE UNION;UNION ABOVE BAR ABOVE INTERSECTION
2A49 INTERSECTION ABOVE BAR ABOVE UNION;UNION BESIDE AND JOINED WITH UNION
2A4B INTERSECTION BESIDE AND JOINED WITH INTERSECTION;CLOSED UNION WITH SERIFS
2A4D aINTERSECTION WITH SERIFS;DOUBLE SQUARE INTERSECTION;bUNION
2A50 CLOSED UNION WITH SERIFS AND SMASH PRODUCT;LOGICAL AND WITH DOT ABOVE;aOR WITH DOT ABOVE
2A53 DOUBLE LOGICAL AND;bOR;TWO INTERSECTING LOGICAL AND;cOR;SLOPING LARGE OR;bAND
2A59 LOGICAL OR OVERLAPPING LOGICAL AND;aAND WITH MIDDLE STEM;aOR WITH MIDDLE STEM
2A5C aAND WITH HORIZONTAL DASH;aOR WITH HORIZONTAL DASH;aAND WITH DOUBLE OVERBAR;cUNDERBAR
2A60 cDOUBLE UNDERBAR;SMALL VEE WITH UNDERBAR;LOGICAL OR WITH DOUBLE OVERBAR;dUNDERBAR
2A64 Z NOTATION DOMAIN ANTIRESTRICTION;bRANGE ANTIRESTRICTION;EQUALS SIGN WITH DOT BELOW
2A67 IDENTICAL WITH DOT ABOVE;TRIPLE HORIZONTAL BAR WITH DOUBLE VERTICAL STROKE
2A69 dTRIPLE VERTICAL STROKE;TILDE OPERATOR WITH DOT ABOVE;cRISING DOTS;SIMILAR MINUS SIMILAR
2A6D CONGRUENT WITH DOT ABOVE;EQUALS WITH ASTERISK;ALMOST EQUAL TO WITH CIRCUMFLEX ACCENT
2A70 APPROXIMATELY EQUAL OR EQUAL TO;EQUALS SIGN ABOVE PLUS SIGN;PLUS SIGN ABOVE EQUALS SIGN
2A73 EQUALS SIGN ABOVE TILDE OPERATOR;DOUBLE COLON EQUAL;TWO CONSECUTIVE EQUALS SIGNS
2A76 THREE CONSECUTIVE EQUALS SIGNS;EQUALS SIGN WITH TWO DOTS ABOVE AND TWO DOTS BELOW
2A78 EQUIVALENT WITH FOUR DOTS ABOVE;LESS-THAN WITH CIRCLE INSIDE;GREATER-THAN WITH CIRCLE INSIDE
2A7B LESS-THAN WITH QUESTION MARK ABOVE;GREATER-THAN WITH QUESTION MARK ABOVE
2A7D LESS-THAN OR SLANTED EQUAL TO;GREATER-THAN OR SLANTED EQUAL TO
2A7F LESS-THAN OR SLANTED EQUAL TO WITH DOT INSIDE
2A80 GREATER-THAN OR SLANTED EQUAL TO WITH DOT INSIDE;LESS-THAN OR SLANTED EQUAL TO WITH DOT ABOVE
2A82 GREATER-THAN OR SLANTED EQUAL TO WITH DOT ABOVE
2A83 LESS-THAN OR SLANTED EQUAL TO WITH DOT ABOVE RIGHT
2A84 GREATER-THAN OR SLANTED EQUAL TO WITH DOT ABOVE LEFT;LESS-THAN OR APPROXIMATE
2A86 GREATER-THAN OR APPROXIMATE;LESS-THAN AND SINGLE-LINE NOT EQUAL TO
2A88 GREATER-THAN AND SINGLE-LINE NOT EQUAL TO;LESS-THAN AND NOT APPROXIMATE
2A8A GREATER-THAN AND NOT APPROXIMATE;LESS-THAN ABOVE DOUBLE-LINE EQUAL ABOVE GREATER-THAN
2A8C GREATER-THAN ABOVE DOUBLE-LINE EQUAL ABOVE LESS-THAN;LESS-THAN ABOVE SIMILAR OR EQUAL
2A8E GREATER-THAN ABOVE SIMILAR OR EQUAL;LESS-THAN ABOVE SIMILAR ABOVE GREATER-THAN
2A90 GREATER-THAN ABOVE SIMILAR ABOVE LESS-THAN
2A91 LESS-THAN ABOVE GREATER-THAN ABOVE DOUBLE-LINE EQUAL
2A92 GREATER-THAN ABOVE LESS-THAN ABOVE DOUBLE-LINE EQUAL
2A93 LESS-THAN ABOVE SLANTED EQUAL ABOVE GREATER-THAN ABOVE SLANTED EQUAL
2A94 GREATER-THAN ABOVE SLANTED EQUAL ABOVE LESS-THAN ABOVE SLANTED EQUAL
2A95 SLANTED EQUAL TO OR LESS-THAN;dGREATER-THAN;dLESS-THAN WITH DOT INSIDE
2A98 dGREATER-THAN WITH DOT INSIDE;DOUBLE-LINE EQUAL TO OR LESS-THAN;dGREATER-THAN
2A9B aSLANTED EQUAL TO OR LESS-THAN;eGREATER-THAN;SIMILAR OR LESS-THAN;bGREATER-THAN
2A9F aABOVE LESS-THAN ABOVE EQUALS SIGN;bGREATER-THAN ABOVE EQUALS SIGN;DOUBLE NESTED LESS-THAN
2AA2 bGREATER-THAN;bLESS-THAN WITH UNDERBAR;GREATER-THAN OVERLAPPING LESS-THAN;aBESIDE LESS-THAN
2AA6 LESS-THAN CLOSED BY CURVE;GREATER-THAN CLOSED BY CURVE
2AA8 LESS-THAN CLOSED BY CURVE ABOVE SLANTED EQUAL
2AA9 GREATER-THAN CLOSED BY CURVE ABOVE SLANTED EQUAL;SMALLER THAN;LARGER THAN
2AAC SMALLER THAN OR EQUAL TO;LARGER THAN OR EQUAL TO;EQUALS SIGN WITH BUMPY ABOVE
2AAF PRECEDES ABOVE SINGLE-LINE EQUALS SIGN;SUCCEEDS ABOVE SINGLE-LINE EQUALS SIGN
2AB1 PRECEDES ABOVE SINGLE-LINE NOT EQUAL TO;SUCCEEDS ABOVE SINGLE-LINE NOT EQUAL TO
2AB3 PRECEDES ABOVE EQUALS SIGN;SUCCEEDS ABOVE EQUALS SIGN;PRECEDES ABOVE NOT EQUAL TO
2AB6 SUCCEEDS ABOVE NOT EQUAL TO;PRECEDES ABOVE ALMOST EQUAL TO;SUCCEEDS ABOVE ALMOST EQUAL TO
2AB9 PRECEDES ABOVE NOT ALMOST EQUAL TO;SUCCEEDS ABOVE NOT ALMOST EQUAL TO;DOUBLE PRECEDES
2ABC aSUCCEEDS;SUBSET WITH DOT;SUPERSET WITH DOT;SUBSET WITH PLUS SIGN BELOW
2AC0 SUPERSET WITH PLUS SIGN BELOW;SUBSET WITH MULTIPLICATION SIGN BELOW
2AC2 SUPERSET WITH MULTIPLICATION SIGN BELOW;SUBSET OF OR EQUAL TO WITH DOT ABOVE
2AC4 SUPERSET OF OR EQUAL TO WITH DOT ABOVE;SUBSET OF ABOVE EQUALS SIGN
2AC6 SUPERSET OF ABOVE EQUALS SIGN;SUBSET OF ABOVE TILDE OPERATOR;SUPERSET OF ABOVE TILDE OPERATOR
2AC9 SUBSET OF ABOVE ALMOST EQUAL TO;SUPERSET OF ABOVE ALMOST EQUAL TO
2ACB SUBSET OF ABOVE NOT EQUAL TO;SUPERSET OF ABOVE NOT EQUAL TO;SQUARE LEFT OPEN BOX OPERATOR
2ACE aRIGHT OPEN BOX OPERATOR;CLOSED SUBSET;aSUPERSET;aSUBSET OR EQUAL TO;aSUPERSET OR EQUAL TO
2AD3 SUBSET ABOVE SUPERSET;SUPERSET ABOVE SUBSET;SUBSET ABOVE SUBSET;SUPERSET ABOVE SUPERSET
2AD7 aBESIDE SUBSET;bAND JOINED BY DASH WITH SUBSET;ELEMENT OF OPENING DOWNWARDS
2ADA PITCHFORK WITH TEE TOP;TRANSVERSAL INTERSECTION;FORKING;NONFORKING;SHORT LEFT TACK;aDOWN TACK
2AE0 aUP TACK;PERPENDICULAR WITH S;VERTICAL BAR TRIPLE RIGHT TURNSTILE
2AE3 DOUBLE VERTICAL BAR LEFT TURNSTILE;VERTICAL BAR DOUBLE LEFT TURNSTILE
2AE5 DOUBLE VERTICAL BAR DOUBLE LEFT TURNSTILE;LONG DASH FROM LEFT MEMBER OF DOUBLE VERTICAL
2AE7 SHORT DOWN TACK WITH OVERBAR;aUP TACK WITH UNDERBAR;cABOVE SHORT DOWN TACK;DOUBLE DOWN TACK
2AEB aUP TACK;aSTROKE NOT SIGN;REVERSED DOUBLE STROKE NOT SIGN
2AEE DOES NOT DIVIDE WITH REVERSED NEGATION SLASH;VERTICAL LINE WITH CIRCLE ABOVE;dBELOW
2AF1 DOWN TACK WITH CIRCLE BELOW;PARALLEL WITH HORIZONTAL STROKE;bTILDE OPERATOR
2AF4 TRIPLE VERTICAL BAR BINARY RELATION;cWITH HORIZONTAL STROKE;aCOLON OPERATOR;aNESTED LESS-THAN
2AF8 bGREATER-THAN;DOUBLE-LINE SLANTED LESS-THAN OR EQUAL TO;bGREATER-THAN OR EQUAL TO
2AFB TRIPLE SOLIDUS BINARY RELATION;LARGE TRIPLE VERTICAL BAR OPERATOR;DOUBLE SOLIDUS OPERATOR
2AFE WHITE VERTICAL BAR;N-ARY WHITE VERTICAL BAR;NORTH EAST WHITE ARROW;aWEST WHITE ARROW
2B02 SOUTH EAST WHITE ARROW;aWEST WHITE ARROW;LEFT RIGHT WHITE ARROW;LEFTWARDS BLACK ARROW
2B06 UPWARDS BLACK ARROW;DOWNWARDS BLACK ARROW;NORTH EAST BLACK ARROW;aWEST BLACK ARROW
2B0A SOUTH EAST BLACK ARROW;aWEST BLACK ARROW;LEFT RIGHT BLACK ARROW;UP DOWN BLACK ARROW
2B0E RIGHTWARDS ARROW WITH TIP DOWNWARDS;dUPWARDS;LEFTWARDS ARROW WITH TIP DOWNWARDS;dUPWARDS
2B12 SQUARE WITH TOP HALF BLACK;bBOTTOM HALF BLACK;bUPPER RIGHT DIAGONAL HALF BLACK
2B15 bLOWER LEFT DIAGONAL HALF BLACK;DIAMOND WITH LEFT HALF BLACK;bRIGHT HALF BLACK
2B18 bTOP HALF BLACK;bBOTTOM HALF BLACK;DOTTED SQUARE;BLACK LARGE SQUARE;WHITE LARGE SQUARE
2B1D BLACK VERY SMALL SQUARE;WHITE VERY SMALL SQUARE;BLACK PENTAGON;WHITE PENTAGON;aHEXAGON
2B22 BLACK HEXAGON;HORIZONTAL BLACK HEXAGON;BLACK LARGE CIRCLE;aMEDIUM DIAMOND
2B26 WHITE MEDIUM DIAMOND;BLACK MEDIUM LOZENGE;WHITE MEDIUM LOZENGE;BLACK SMALL DIAMOND;bLOZENGE
2B2B WHITE SMALL LOZENGE;BLACK HORIZONTAL ELLIPSE;WHITE HORIZONTAL ELLIPSE;BLACK VERTICAL ELLIPSE
2B2F WHITE VERTICAL ELLIPSE;LEFT ARROW WITH SMALL CIRCLE;THREE LEFTWARDS ARROWS
2B32 LEFT ARROW WITH CIRCLED PLUS;LONG LEFTWARDS SQUIGGLE ARROW
2B34 LEFTWARDS TWO-HEADED ARROW WITH VERTICAL STROKE;dDOUBLE VERTICAL STROKE;cFROM BAR
2B37 bTRIPLE DASH ARROW;aARROW WITH DOTTED STEM;cTAIL WITH VERTICAL STROKE;eDOUBLE VERTICAL STROKE
2B3B aTWO-HEADED ARROW WITH TAIL;eWITH VERTICAL STROKE;fDOUBLE VERTICAL STROKE;aARROW THROUGH X
2B3F WAVE ARROW POINTING DIRECTLY LEFT;EQUALS SIGN ABOVE LEFTWARDS ARROW
2B41 REVERSE TILDE OPERATOR ABOVE LEFTWARDS ARROW;LEFTWARDS ARROW ABOVE REVERSE ALMOST EQUAL TO
2B43 RIGHTWARDS ARROW THROUGH GREATER-THAN;cSUPERSET;LEFTWARDS QUADRUPLE ARROW
2B46 RIGHTWARDS QUADRUPLE ARROW;REVERSE TILDE OPERATOR ABOVE RIGHTWARDS ARROW
2B48 RIGHTWARDS ARROW ABOVE REVERSE ALMOST EQUAL TO;TILDE OPERATOR ABOVE LEFTWARDS ARROW
2B4A LEFTWARDS ARROW ABOVE ALMOST EQUAL TO;cREVERSE TILDE OPERATOR
2B4C RIGHTWARDS ARROW ABOVE REVERSE TILDE OPERATOR;DOWNWARDS TRIANGLE-HEADED ZIGZAG ARROW
2B4E SHORT SLANTED NORTH ARROW;aBACKSLANTED SOUTH ARROW;WHITE MEDIUM STAR;BLACK SMALL STAR
2B52 WHITE SMALL STAR;BLACK RIGHT-POINTING PENTAGON;WHITE RIGHT-POINTING PENTAGON
2B55 HEAVY LARGE CIRCLE;aOVAL WITH OVAL INSIDE;aCIRCLE WITH CIRCLE INSIDE;aCIRCLE;aCIRCLED SALTIRE
2B5A SLANTED NORTH ARROW WITH HOOKED HEAD;BACKSLANTED SOUTH ARROW WITH HOOKED TAIL
2B5C SLANTED NORTH ARROW WITH HORIZONTAL TAIL;BACKSLANTED SOUTH ARROW WITH HORIZONTAL TAIL
2B5E BENT ARROW POINTING DOWNWARDS THEN NORTH EAST
2B5F SHORT BENT ARROW POINTING DOWNWARDS THEN NORTH EAST;LEFTWARDS TRIANGLE-HEADED ARROW
2B61 UPWARDS TRIANGLE-HEADED ARROW;RIGHTWARDS TRIANGLE-HEADED ARROW
2B63 DOWNWARDS TRIANGLE-HEADED ARROW;LEFT RIGHT TRIANGLE-HEADED ARROW
2B65 UP DOWN TRIANGLE-HEADED ARROW;NORTH WEST TRIANGLE-HEADED ARROW;aEAST TRIANGLE-HEADED ARROW
2B68 SOUTH EAST TRIANGLE-HEADED ARROW;aWEST TRIANGLE-HEADED ARROW
2B6A LEFTWARDS TRIANGLE-HEADED DASHED ARROW;UPWARDS TRIANGLE-HEADED DASHED ARROW
2B6C RIGHTWARDS TRIANGLE-HEADED DASHED ARROW;DOWNWARDS TRIANGLE-HEADED DASHED ARROW
2B6E CLOCKWISE TRIANGLE-HEADED OPEN CIRCLE ARROW;ANTICLOCKWISE TRIANGLE-HEADED OPEN CIRCLE ARROW
2B70 LEFTWARDS TRIANGLE-HEADED ARROW TO BAR;UPWARDS TRIANGLE-HEADED ARROW TO BAR
2B72 RIGHTWARDS TRIANGLE-HEADED ARROW TO BAR;DOWNWARDS TRIANGLE-HEADED ARROW TO BAR
2B76 NORTH WEST TRIANGLE-HEADED ARROW TO BAR;aEAST TRIANGLE-HEADED ARROW TO BAR
2B78 SOUTH EAST TRIANGLE-HEADED ARROW TO BAR;aWEST TRIANGLE-HEADED ARROW TO BAR
2B7A LEFTWARDS TRIANGLE-HEADED ARROW WITH DOUBLE HORIZONTAL STROKE
2B7B UPWARDS TRIANGLE-HEADED ARROW WITH DOUBLE HORIZONTAL STROKE
2B7C RIGHTWARDS TRIANGLE-HEADED ARROW WITH DOUBLE HORIZONTAL STROKE
2B7D DOWNWARDS TRIANGLE-HEADED ARROW WITH DOUBLE HORIZONTAL STROKE;HORIZONTAL TAB KEY
2B7F VERTICAL TAB KEY;LEFTWARDS TRIANGLE-HEADED ARROW OVER RIGHTWARDS TRIANGLE-HEADED ARROW
2B81 UPWARDS TRIANGLE-HEADED ARROW LEFTWARDS OF DOWNWARDS TRIANGLE-HEADED ARROW
2B82 RIGHTWARDS TRIANGLE-HEADED ARROW OVER LEFTWARDS TRIANGLE-HEADED ARROW
2B83 DOWNWARDS TRIANGLE-HEADED ARROW LEFTWARDS OF UPWARDS TRIANGLE-HEADED ARROW
2B84 LEFTWARDS TRIANGLE-HEADED PAIRED ARROWS;UPWARDS TRIANGLE-HEADED PAIRED ARROWS
2B86 RIGHTWARDS TRIANGLE-HEADED PAIRED ARROWS;DOWNWARDS TRIANGLE-HEADED PAIRED ARROWS
2B88 LEFTWARDS BLACK CIRCLED WHITE ARROW;UPWARDS BLACK CIRCLED WHITE ARROW
2B8A RIGHTWARDS BLACK CIRCLED WHITE ARROW;DOWNWARDS BLACK CIRCLED WHITE ARROW
2B8C ANTICLOCKWISE TRIANGLE-HEADED RIGHT U-SHAPED ARROW;bBOTTOM U-SHAPED ARROW
2B8E bLEFT U-SHAPED ARROW;bTOP U-SHAPED ARROW;RETURN LEFT;aRIGHT;NEWLINE LEFT;aRIGHT
2B94 FOUR CORNER ARROWS CIRCLING ANTICLOCKWISE;RIGHTWARDS BLACK ARROW
2B97 SYMBOL FOR TYPE A ELECTRONICS;THREE-D TOP-LIGHTED LEFTWARDS EQUILATERAL ARROWHEAD
2B99 aRIGHT-LIGHTED UPWARDS EQUILATERAL ARROWHEAD;aTOP-LIGHTED RIGHTWARDS EQUILATERAL ARROWHEAD
2B9B aLEFT-LIGHTED DOWNWARDS EQUILATERAL ARROWHEAD;BLACK LEFTWARDS EQUILATERAL ARROWHEAD
2B9D aUPWARDS EQUILATERAL ARROWHEAD;aRIGHTWARDS EQUILATERAL ARROWHEAD
2B9F aDOWNWARDS EQUILATERAL ARROWHEAD;DOWNWARDS TRIANGLE-HEADED ARROW WITH LONG TIP LEFTWARDS
2BA1 fRIGHTWARDS;UPWARDS TRIANGLE-HEADED ARROW WITH LONG TIP LEFTWARDS;fRIGHTWARDS
2BA4 LEFTWARDS TRIANGLE-HEADED ARROW WITH LONG TIP UPWARDS
2BA5 RIGHTWARDS TRIANGLE-HEADED ARROW WITH LONG TIP UPWARDS
2BA6 LEFTWARDS TRIANGLE-HEADED ARROW WITH LONG TIP DOWNWARDS
2BA7 RIGHTWARDS TRIANGLE-HEADED ARROW WITH LONG TIP DOWNWARDS
2BA8 BLACK CURVED DOWNWARDS AND LEFTWARDS ARROW;dRIGHTWARDS ARROW;bUPWARDS AND LEFTWARDS ARROW
2BAB dRIGHTWARDS ARROW;bLEFTWARDS AND UPWARDS ARROW;bRIGHTWARDS AND UPWARDS ARROW
2BAE bLEFTWARDS AND DOWNWARDS ARROW;bRIGHTWARDS AND DOWNWARDS ARROW;RIBBON ARROW DOWN LEFT;cRIGHT
2BB2 bUP LEFT;cRIGHT;bLEFT UP;bRIGHT UP;bLEFT DOWN;bRIGHT DOWN
2BB8 UPWARDS WHITE ARROW FROM BAR WITH HORIZONTAL BAR;UP ARROWHEAD IN A RECTANGLE BOX
2BBA OVERLAPPING WHITE SQUARES;bAND BLACK SQUARES;aBLACK SQUARES;BALLOT BOX WITH LIGHT X;CIRCLED X
2BBF aBOLD X;BLACK SQUARE CENTRED;aDIAMOND CENTRED;TURNED BLACK PENTAGON;HORIZONTAL BLACK OCTAGON
2BC4 BLACK OCTAGON;aMEDIUM UP-POINTING TRIANGLE CENTRED;bDOWN-POINTING TRIANGLE CENTRED
2BC7 bLEFT-POINTING TRIANGLE CENTRED;bRIGHT-POINTING TRIANGLE CENTRED;NEPTUNE FORM TWO
2BCA TOP HALF BLACK CIRCLE;BOTTOM HALF BLACK CIRCLE;LIGHT FOUR POINTED BLACK CUSP
2BCD ROTATED LIGHT FOUR POINTED BLACK CUSP;WHITE FOUR POINTED CUSP;ROTATED WHITE FOUR POINTED CUSP
2BD0 SQUARE POSITION INDICATOR;UNCERTAINTY SIGN;GROUP MARK;PLUTO FORM TWO;bTHREE;bFOUR;bFIVE
2BD7 TRANSPLUTO;PROSERPINA;ASTRAEA;HYGIEA;PHOLUS;NESSUS;WHITE MOON SELENA;BLACK DIAMOND ON CROSS
2BDF TRUE LIGHT MOON ARTA;CUPIDO;HADES;ZEUS;KRONOS;APOLLON;ADMETOS;VULCANUS;POSEIDON
2BE8 LEFT HALF BLACK STAR;RIGHT HALF BLACK STAR;STAR WITH LEFT HALF BLACK;bRIGHT HALF BLACK
2BEC LEFTWARDS TWO-HEADED ARROW WITH TRIANGLE ARROWHEADS
2BED UPWARDS TWO-HEADED ARROW WITH TRIANGLE ARROWHEADS
2BEE RIGHTWARDS TWO-HEADED ARROW WITH TRIANGLE ARROWHEADS
2BEF DOWNWARDS TWO-HEADED ARROW WITH TRIANGLE ARROWHEADS;ERIS FORM ONE;bTWO;SEDNA
2BF3 RUSSIAN ASTROLOGICAL SYMBOL VIGINTILE;cNOVILE;cQUINTILE;cBINOVILE;cSENTAGON;cTREDECILE
2BF9 EQUALS SIGN WITH INFINITY BELOW;UNITED SYMBOL;SEPARATED SYMBOL;DOUBLED SYMBOL;PASSED SYMBOL
2BFE REVERSED RIGHT ANGLE;HELLSCHREIBER PAUSE SYMBOL"

/-- The names of punctuation, currencies, arrows and technical signs. -/
def signs : String :=
"2000 EN QUAD;EM QUAD;EN SPACE;EM SPACE;THREE-PER-EM SPACE;FOUR-PER-EM SPACE;SIX-PER-EM SPACE
2007 FIGURE SPACE;PUNCTUATION SPACE;THIN SPACE;HAIR SPACE;ZERO WIDTH SPACE;bNON-JOINER;bJOINER
200E LEFT-TO-RIGHT MARK;RIGHT-TO-LEFT MARK;HYPHEN;NON-BREAKING HYPHEN;FIGURE DASH;EN DASH;EM DASH
2015 HORIZONTAL BAR;DOUBLE VERTICAL LINE;aLOW LINE;LEFT SINGLE QUOTATION MARK
2019 RIGHT SINGLE QUOTATION MARK;SINGLE LOW-9 QUOTATION MARK;aHIGH-REVERSED-9 QUOTATION MARK
201C LEFT DOUBLE QUOTATION MARK;RIGHT DOUBLE QUOTATION MARK;DOUBLE LOW-9 QUOTATION MARK
201F aHIGH-REVERSED-9 QUOTATION MARK;DAGGER;DOUBLE DAGGER;BULLET;TRIANGULAR BULLET;ONE DOT LEADER
2025 TWO DOT LEADER;HORIZONTAL ELLIPSIS;HYPHENATION POINT;LINE SEPARATOR;PARAGRAPH SEPARATOR
202A LEFT-TO-RIGHT EMBEDDING;RIGHT-TO-LEFT EMBEDDING;POP DIRECTIONAL FORMATTING
202D LEFT-TO-RIGHT OVERRIDE;RIGHT-TO-LEFT OVERRIDE;NARROW NO-BREAK SPACE;PER MILLE SIGN
2031 aTEN THOUSAND SIGN;PRIME;DOUBLE PRIME;TRIPLE PRIME;REVERSED PRIME;aDOUBLE PRIME;aTRIPLE PRIME
2038 CARET;SINGLE LEFT-POINTING ANGLE QUOTATION MARK;aRIGHT-POINTING ANGLE QUOTATION MARK
203B REFERENCE MARK;DOUBLE EXCLAMATION MARK;INTERROBANG;OVERLINE;UNDERTIE;CHARACTER TIE
2041 CARET INSERTION POINT;ASTERISM;HYPHEN BULLET;FRACTION SLASH;LEFT SQUARE BRACKET WITH QUILL
2046 RIGHT SQUARE BRACKET WITH QUILL;DOUBLE QUESTION MARK;QUESTION EXCLAMATION MARK
2049 EXCLAMATION QUESTION MARK;TIRONIAN SIGN ET;REVERSED PILCROW SIGN;BLACK LEFTWARDS BULLET
204D aRIGHTWARDS BULLET;LOW ASTERISK;REVERSED SEMICOLON;CLOSE UP;TWO ASTERISKS ALIGNED VERTICALLY
2052 COMMERCIAL MINUS SIGN;SWUNG DASH;INVERTED UNDERTIE;FLOWER PUNCTUATION MARK
2056 THREE DOT PUNCTUATION;QUADRUPLE PRIME;FOUR DOT PUNCTUATION;FIVE DOT PUNCTUATION
205A TWO DOT PUNCTUATION;FOUR DOT MARK;DOTTED CROSS;TRICOLON;VERTICAL FOUR DOTS
205F MEDIUM MATHEMATICAL SPACE;WORD JOINER;FUNCTION APPLICATION;INVISIBLE TIMES;aSEPARATOR;aPLUS
2066 LEFT-TO-RIGHT ISOLATE;RIGHT-TO-LEFT ISOLATE;FIRST STRONG ISOLATE;POP DIRECTIONAL ISOLATE
206A INHIBIT SYMMETRIC SWAPPING;ACTIVATE SYMMETRIC SWAPPING;INHIBIT ARABIC FORM SHAPING
206D ACTIVATE ARABIC FORM SHAPING;NATIONAL DIGIT SHAPES;NOMINAL DIGIT SHAPES;SUPERSCRIPT ZERO
2071 aLATIN SMALL LETTER I
2074 aFOUR;aFIVE;aSIX;aSEVEN;aEIGHT;aNINE;aPLUS SIGN;aMINUS;aEQUALS SIGN;aLEFT PARENTHESIS
207E aRIGHT PARENTHESIS;aLATIN SMALL LETTER N;SUBSCRIPT ZERO;aONE;aTWO;aTHREE;aFOUR;aFIVE;aSIX
2087 aSEVEN;aEIGHT;aNINE;aPLUS SIGN;aMINUS;aEQUALS SIGN;aLEFT PARENTHESIS;aRIGHT PARENTHESIS
2090 LATIN SUBSCRIPT SMALL LETTER A;dE;dO;dX;dSCHWA;dH;dK;dL;dM;dN;dP;dS;dT
20A0 EURO-CURRENCY SIGN;COLON SIGN;CRUZEIRO SIGN;FRENCH FRANC SIGN;LIRA SIGN;MILL SIGN;NAIRA SIGN
20A7 PESETA SIGN;RUPEE SIGN;WON SIGN;NEW SHEQEL SIGN;DONG SIGN;EURO SIGN;KIP SIGN;TUGRIK SIGN
20AF DRACHMA SIGN;GERMAN PENNY SIGN;PESO SIGN;GUARANI SIGN;AUSTRAL SIGN;HRYVNIA SIGN;CEDI SIGN
20B6 LIVRE TOURNOIS SIGN;SPESMILO SIGN;TENGE SIGN;INDIAN RUPEE SIGN;TURKISH LIRA SIGN
20BB NORDIC MARK SIGN;MANAT SIGN;RUBLE SIGN;LARI SIGN;BITCOIN SIGN;SOM SIGN
20D0 COMBINING LEFT HARPOON ABOVE;aRIGHT HARPOON ABOVE;aLONG VERTICAL LINE OVERLAY
20D3 aSHORT VERTICAL LINE OVERLAY;aANTICLOCKWISE ARROW ABOVE;aCLOCKWISE ARROW ABOVE
20D6 aLEFT ARROW ABOVE;aRIGHT ARROW ABOVE;aRING OVERLAY;aCLOCKWISE RING OVERLAY
20DA aANTICLOCKWISE RING OVERLAY;aTHREE DOTS ABOVE;aFOUR DOTS ABOVE;aENCLOSING CIRCLE;bSQUARE
20DF bDIAMOND;bCIRCLE BACKSLASH;aLEFT RIGHT ARROW ABOVE;aENCLOSING SCREEN;bKEYCAP
20E4 bUPWARD POINTING TRIANGLE;aREVERSE SOLIDUS OVERLAY;aDOUBLE VERTICAL STROKE OVERLAY
20E7 aANNUITY SYMBOL;aTRIPLE UNDERDOT;aWIDE BRIDGE ABOVE;aLEFTWARDS ARROW OVERLAY
20EB aLONG DOUBLE SOLIDUS OVERLAY;aRIGHTWARDS HARPOON WITH BARB DOWNWARDS
20ED aLEFTWARDS HARPOON WITH BARB DOWNWARDS;aLEFT ARROW BELOW;aRIGHT ARROW BELOW;aASTERISK ABOVE
2100 ACCOUNT OF;ADDRESSED TO THE SUBJECT;DOUBLE-STRUCK CAPITAL C;DEGREE CELSIUS;CENTRE LINE SYMBOL
2105 CARE OF;CADA UNA;EULER CONSTANT;SCRUPLE;DEGREE FAHRENHEIT;SCRIPT SMALL G;aCAPITAL H
210C BLACK-LETTER CAPITAL H;DOUBLE-STRUCK CAPITAL H;PLANCK CONSTANT;bOVER TWO PI;SCRIPT CAPITAL I
2111 BLACK-LETTER CAPITAL I;SCRIPT CAPITAL L;aSMALL L;L B BAR SYMBOL;DOUBLE-STRUCK CAPITAL N
2116 NUMERO SIGN;SOUND RECORDING COPYRIGHT;SCRIPT CAPITAL P;DOUBLE-STRUCK CAPITAL P;bQ
211B SCRIPT CAPITAL R;BLACK-LETTER CAPITAL R;DOUBLE-STRUCK CAPITAL R;PRESCRIPTION TAKE;RESPONSE
2120 SERVICE MARK;TELEPHONE SIGN;TRADE MARK SIGN;VERSICLE;DOUBLE-STRUCK CAPITAL Z;OUNCE SIGN
2126 OHM SIGN;INVERTED OHM SIGN;BLACK-LETTER CAPITAL Z;TURNED GREEK SMALL LETTER IOTA;KELVIN SIGN
212B ANGSTROM SIGN;SCRIPT CAPITAL B;BLACK-LETTER CAPITAL C;ESTIMATED SYMBOL;SCRIPT SMALL E
2130 aCAPITAL E;bF;TURNED CAPITAL F;SCRIPT CAPITAL M;aSMALL O;ALEF SYMBOL;BET SYMBOL;GIMEL SYMBOL
2138 DALET SYMBOL;INFORMATION SOURCE;ROTATED CAPITAL Q;FACSIMILE SIGN;DOUBLE-STRUCK SMALL PI
213D bGAMMA;aCAPITAL GAMMA;bPI;aN-ARY SUMMATION;TURNED SANS-SERIF CAPITAL G;cL
2143 REVERSED SANS-SERIF CAPITAL L;TURNED SANS-SERIF CAPITAL Y;DOUBLE-STRUCK ITALIC CAPITAL D
2146 bSMALL D;cE;cI;cJ;PROPERTY LINE;TURNED AMPERSAND;PER SIGN;AKTIESELSKAB;TURNED SMALL F
214F SYMBOL FOR SAMARITAN SOURCE;VULGAR FRACTION ONE SEVENTH;cNINTH;cTENTH;cTHIRD;bTWO THIRDS
2155 bONE FIFTH;bTWO FIFTHS;bTHREE FIFTHS;bFOUR FIFTHS;bONE SIXTH;bFIVE SIXTHS;bONE EIGHTH
215C bTHREE EIGHTHS;bFIVE EIGHTHS;bSEVEN EIGHTHS;FRACTION NUMERATOR ONE;ROMAN NUMERAL ONE;bTWO
2162 bTHREE;bFOUR;bFIVE;bSIX;bSEVEN;bEIGHT;bNINE;bTEN;bELEVEN;bTWELVE;bFIFTY;bONE HUNDRED
216E bFIVE HUNDRED;bONE THOUSAND;SMALL ROMAN NUMERAL ONE;cTWO;cTHREE;cFOUR;cFIVE;cSIX;cSEVEN
2177 cEIGHT;cNINE;cTEN;cELEVEN;cTWELVE;cFIFTY;cONE HUNDRED;cFIVE HUNDRED;cONE THOUSAND
2180 ROMAN NUMERAL ONE THOUSAND C D;bFIVE THOUSAND;bTEN THOUSAND;bREVERSED ONE HUNDRED
2184 LATIN SMALL LETTER REVERSED C;ROMAN NUMERAL SIX LATE FORM;bFIFTY EARLY FORM;cTHOUSAND
2188 bONE HUNDRED THOUSAND;VULGAR FRACTION ZERO THIRDS;TURNED DIGIT TWO;bTHREE
2190 LEFTWARDS ARROW;UPWARDS ARROW;RIGHTWARDS ARROW;DOWNWARDS ARROW;LEFT RIGHT ARROW;UP DOWN ARROW
2196 NORTH WEST ARROW;aEAST ARROW;SOUTH EAST ARROW;aWEST ARROW;LEFTWARDS ARROW WITH STROKE
219B RIGHTWARDS ARROW WITH STROKE;LEFTWARDS WAVE ARROW;RIGHTWARDS WAVE ARROW
219E LEFTWARDS TWO HEADED ARROW;UPWARDS TWO HEADED ARROW;RIGHTWARDS TWO HEADED ARROW
21A1 DOWNWARDS TWO HEADED ARROW;LEFTWARDS ARROW WITH TAIL;RIGHTWARDS ARROW WITH TAIL
21A4 LEFTWARDS ARROW FROM BAR;UPWARDS ARROW FROM BAR;RIGHTWARDS ARROW FROM BAR
21A7 DOWNWARDS ARROW FROM BAR;UP DOWN ARROW WITH BASE;LEFTWARDS ARROW WITH HOOK
21AA RIGHTWARDS ARROW WITH HOOK;LEFTWARDS ARROW WITH LOOP;RIGHTWARDS ARROW WITH LOOP
21AD LEFT RIGHT WAVE ARROW;bARROW WITH STROKE;DOWNWARDS ZIGZAG ARROW
21B0 UPWARDS ARROW WITH TIP LEFTWARDS;dRIGHTWARDS;DOWNWARDS ARROW WITH TIP LEFTWARDS;dRIGHTWARDS
21B4 RIGHTWARDS ARROW WITH CORNER DOWNWARDS;DOWNWARDS ARROW WITH CORNER LEFTWARDS
21B6 ANTICLOCKWISE TOP SEMICIRCLE ARROW;CLOCKWISE TOP SEMICIRCLE ARROW
21B8 NORTH WEST ARROW TO LONG BAR;LEFTWARDS ARROW TO BAR OVER RIGHTWARDS ARROW TO BAR
21BA ANTICLOCKWISE OPEN CIRCLE ARROW;CLOCKWISE OPEN CIRCLE ARROW
21BC LEFTWARDS HARPOON WITH BARB UPWARDS;dDOWNWARDS;UPWARDS HARPOON WITH BARB RIGHTWARDS
21BF dLEFTWARDS;RIGHTWARDS HARPOON WITH BARB UPWARDS;dDOWNWARDS
21C2 DOWNWARDS HARPOON WITH BARB RIGHTWARDS;dLEFTWARDS;RIGHTWARDS ARROW OVER LEFTWARDS ARROW
21C5 UPWARDS ARROW LEFTWARDS OF DOWNWARDS ARROW;LEFTWARDS ARROW OVER RIGHTWARDS ARROW
21C7 aPAIRED ARROWS;UPWARDS PAIRED ARROWS;RIGHTWARDS PAIRED ARROWS;DOWNWARDS PAIRED ARROWS
21CB LEFTWARDS HARPOON OVER RIGHTWARDS HARPOON;RIGHTWARDS HARPOON OVER LEFTWARDS HARPOON
21CD LEFTWARDS DOUBLE ARROW WITH STROKE;LEFT RIGHT DOUBLE ARROW WITH STROKE
21CF RIGHTWARDS DOUBLE ARROW WITH STROKE;LEFTWARDS DOUBLE ARROW;UPWARDS DOUBLE ARROW
21D2 RIGHTWARDS DOUBLE ARROW;DOWNWARDS DOUBLE ARROW;LEFT RIGHT DOUBLE ARROW;UP DOWN DOUBLE ARROW
21D6 NORTH WEST DOUBLE ARROW;aEAST DOUBLE ARROW;SOUTH EAST DOUBLE ARROW;aWEST DOUBLE ARROW
21DA LEFTWARDS TRIPLE ARROW;RIGHTWARDS TRIPLE ARROW;LEFTWARDS SQUIGGLE ARROW
21DD RIGHTWARDS SQUIGGLE ARROW;UPWARDS ARROW WITH DOUBLE STROKE;DOWNWARDS ARROW WITH DOUBLE STROKE
21E0 LEFTWARDS DASHED ARROW;UPWARDS DASHED ARROW;RIGHTWARDS DASHED ARROW;DOWNWARDS DASHED ARROW
21E4 LEFTWARDS ARROW TO BAR;RIGHTWARDS ARROW TO BAR;LEFTWARDS WHITE ARROW;UPWARDS WHITE ARROW
21E8 RIGHTWARDS WHITE ARROW;DOWNWARDS WHITE ARROW;UPWARDS WHITE ARROW FROM BAR;cON PEDESTAL
21EC eWITH HORIZONTAL BAR;fVERTICAL BAR;bDOUBLE ARROW;dON PEDESTAL
21F0 RIGHTWARDS WHITE ARROW FROM WALL;NORTH WEST ARROW TO CORNER;SOUTH EAST ARROW TO CORNER
21F3 UP DOWN WHITE ARROW;RIGHT ARROW WITH SMALL CIRCLE;DOWNWARDS ARROW LEFTWARDS OF UPWARDS ARROW
21F6 THREE RIGHTWARDS ARROWS;LEFTWARDS ARROW WITH VERTICAL STROKE
21F8 RIGHTWARDS ARROW WITH VERTICAL STROKE;LEFT RIGHT ARROW WITH VERTICAL STROKE
21FA LEFTWARDS ARROW WITH DOUBLE VERTICAL STROKE;RIGHTWARDS ARROW WITH DOUBLE VERTICAL STROKE
21FC LEFT RIGHT ARROW WITH DOUBLE VERTICAL STROKE;LEFTWARDS OPEN-HEADED ARROW
21FE RIGHTWARDS OPEN-HEADED ARROW;LEFT RIGHT OPEN-HEADED ARROW;FOR ALL;COMPLEMENT
2202 PARTIAL DIFFERENTIAL;THERE EXISTS;aDOES NOT EXIST;EMPTY SET;INCREMENT;NABLA;ELEMENT OF
2209 NOT AN ELEMENT OF;SMALL ELEMENT OF;CONTAINS AS MEMBER;DOES NOT CONTAIN AS MEMBER
220D SMALL CONTAINS AS MEMBER;END OF PROOF;N-ARY PRODUCT;aCOPRODUCT;aSUMMATION;MINUS SIGN
2213 MINUS-OR-PLUS SIGN;DOT PLUS;DIVISION SLASH;SET MINUS;ASTERISK OPERATOR;RING OPERATOR
2219 BULLET OPERATOR;SQUARE ROOT;CUBE ROOT;FOURTH ROOT;PROPORTIONAL TO;INFINITY;RIGHT ANGLE;ANGLE
2221 MEASURED ANGLE;SPHERICAL ANGLE;DIVIDES;DOES NOT DIVIDE;PARALLEL TO;NOT PARALLEL TO
2227 LOGICAL AND;aOR;INTERSECTION;UNION;INTEGRAL;DOUBLE INTEGRAL;TRIPLE INTEGRAL;CONTOUR INTEGRAL
222F SURFACE INTEGRAL;VOLUME INTEGRAL;CLOCKWISE INTEGRAL;aCONTOUR INTEGRAL
2233 ANTICLOCKWISE CONTOUR INTEGRAL;THEREFORE;BECAUSE;RATIO;PROPORTION;DOT MINUS;EXCESS
223A GEOMETRIC PROPORTION;HOMOTHETIC;TILDE OPERATOR;REVERSED TILDE;INVERTED LAZY S;SINE WAVE
2240 WREATH PRODUCT;NOT TILDE;MINUS TILDE;ASYMPTOTICALLY EQUAL TO;NOT ASYMPTOTICALLY EQUAL TO
2245 APPROXIMATELY EQUAL TO;aBUT NOT ACTUALLY EQUAL TO;NEITHER APPROXIMATELY NOR ACTUALLY EQUAL TO
2248 ALMOST EQUAL TO;NOT ALMOST EQUAL TO;ALMOST EQUAL OR EQUAL TO;TRIPLE TILDE;ALL EQUAL TO
224D EQUIVALENT TO;GEOMETRICALLY EQUIVALENT TO;DIFFERENCE BETWEEN;APPROACHES THE LIMIT
2251 GEOMETRICALLY EQUAL TO;APPROXIMATELY EQUAL TO OR THE IMAGE OF
2253 IMAGE OF OR APPROXIMATELY EQUAL TO;COLON EQUALS;EQUALS COLON;RING IN EQUAL TO;aEQUAL TO
2258 CORRESPONDS TO;ESTIMATES;EQUIANGULAR TO;STAR EQUALS;DELTA EQUAL TO;EQUAL TO BY DEFINITION
225E MEASURED BY;QUESTIONED EQUAL TO;NOT EQUAL TO;IDENTICAL TO;NOT IDENTICAL TO
2263 STRICTLY EQUIVALENT TO;LESS-THAN OR EQUAL TO;GREATER-THAN OR EQUAL TO;LESS-THAN OVER EQUAL TO
2267 GREATER-THAN OVER EQUAL TO;LESS-THAN BUT NOT EQUAL TO;GREATER-THAN BUT NOT EQUAL TO
226A MUCH LESS-THAN;aGREATER-THAN;BETWEEN;NOT EQUIVALENT TO;aLESS-THAN;aGREATER-THAN
2270 NEITHER LESS-THAN NOR EQUAL TO;aGREATER-THAN NOR EQUAL TO;LESS-THAN OR EQUIVALENT TO
2273 GREATER-THAN OR EQUIVALENT TO;NEITHER LESS-THAN NOR EQUIVALENT TO
2275 aGREATER-THAN NOR EQUIVALENT TO;LESS-THAN OR GREATER-THAN;GREATER-THAN OR LESS-THAN
2278 NEITHER LESS-THAN NOR GREATER-THAN;aGREATER-THAN NOR LESS-THAN;PRECEDES;SUCCEEDS
227C PRECEDES OR EQUAL TO;SUCCEEDS OR EQUAL TO;PRECEDES OR EQUIVALENT TO;SUCCEEDS OR EQUIVALENT TO
2280 DOES NOT PRECEDE;bSUCCEED;SUBSET OF;SUPERSET OF;NOT A SUBSET OF;bSUPERSET OF
2286 SUBSET OF OR EQUAL TO;SUPERSET OF OR EQUAL TO;NEITHER A SUBSET OF NOR EQUAL TO
2289 bSUPERSET OF NOR EQUAL TO;SUBSET OF WITH NOT EQUAL TO;SUPERSET OF WITH NOT EQUAL TO;MULTISET
228D aMULTIPLICATION;aUNION;SQUARE IMAGE OF;aORIGINAL OF;aIMAGE OF OR EQUAL TO
2292 aORIGINAL OF OR EQUAL TO;aCAP;aCUP;CIRCLED PLUS;aMINUS;aTIMES;aDIVISION SLASH;aDOT OPERATOR
229A aRING OPERATOR;aASTERISK OPERATOR;aEQUALS;aDASH;SQUARED PLUS;aMINUS;aTIMES;aDOT OPERATOR
22A2 RIGHT TACK;LEFT TACK;DOWN TACK;UP TACK;ASSERTION;MODELS;TRUE;FORCES
22AA TRIPLE VERTICAL BAR RIGHT TURNSTILE;DOUBLE VERTICAL BAR DOUBLE RIGHT TURNSTILE;DOES NOT PROVE
22AD NOT TRUE;DOES NOT FORCE;NEGATED DOUBLE VERTICAL BAR DOUBLE RIGHT TURNSTILE
22B0 PRECEDES UNDER RELATION;SUCCEEDS UNDER RELATION;NORMAL SUBGROUP OF
22B3 CONTAINS AS NORMAL SUBGROUP;NORMAL SUBGROUP OF OR EQUAL TO
22B5 CONTAINS AS NORMAL SUBGROUP OR EQUAL TO;ORIGINAL OF;IMAGE OF;MULTIMAP
22B9 HERMITIAN CONJUGATE MATRIX;INTERCALATE;XOR;NAND;NOR;RIGHT ANGLE WITH ARC;aTRIANGLE
22C0 N-ARY LOGICAL AND;bOR;aINTERSECTION;aUNION;DIAMOND OPERATOR;DOT OPERATOR;STAR OPERATOR
22C7 DIVISION TIMES;BOWTIE;LEFT NORMAL FACTOR SEMIDIRECT PRODUCT
22CA RIGHT NORMAL FACTOR SEMIDIRECT PRODUCT;LEFT SEMIDIRECT PRODUCT;RIGHT SEMIDIRECT PRODUCT
22CD REVERSED TILDE EQUALS;CURLY LOGICAL OR;bAND;DOUBLE SUBSET;aSUPERSET;aINTERSECTION;aUNION
22D4 PITCHFORK;EQUAL AND PARALLEL TO;LESS-THAN WITH DOT;GREATER-THAN WITH DOT;VERY MUCH LESS-THAN
22D9 bGREATER-THAN;LESS-THAN EQUAL TO OR GREATER-THAN;GREATER-THAN EQUAL TO OR LESS-THAN
22DC EQUAL TO OR LESS-THAN;cGREATER-THAN;cPRECEDES;cSUCCEEDS;DOES NOT PRECEDE OR EQUAL
22E1 bSUCCEED OR EQUAL;NOT SQUARE IMAGE OF OR EQUAL TO;bORIGINAL OF OR EQUAL TO
22E4 SQUARE IMAGE OF OR NOT EQUAL TO;aORIGINAL OF OR NOT EQUAL TO;LESS-THAN BUT NOT EQUIVALENT TO
22E7 GREATER-THAN BUT NOT EQUIVALENT TO;PRECEDES BUT NOT EQUIVALENT TO
22E9 SUCCEEDS BUT NOT EQUIVALENT TO;NOT NORMAL SUBGROUP OF;DOES NOT CONTAIN AS NORMAL SUBGROUP
22EC NOT NORMAL SUBGROUP OF OR EQUAL TO;DOES NOT CONTAIN AS NORMAL SUBGROUP OR EQUAL
22EE VERTICAL ELLIPSIS;MIDLINE HORIZONTAL ELLIPSIS;UP RIGHT DIAGONAL ELLIPSIS
22F1 DOWN RIGHT DIAGONAL ELLIPSIS;ELEMENT OF WITH LONG HORIZONTAL STROKE
22F3 cVERTICAL BAR AT END OF HORIZONTAL STROKE
22F4 SMALL ELEMENT OF WITH VERTICAL BAR AT END OF HORIZONTAL STROKE;ELEMENT OF WITH DOT ABOVE
22F6 cOVERBAR;SMALL ELEMENT OF WITH OVERBAR;ELEMENT OF WITH UNDERBAR;cTWO HORIZONTAL STROKES
22FA CONTAINS WITH LONG HORIZONTAL STROKE;bVERTICAL BAR AT END OF HORIZONTAL STROKE
22FC SMALL CONTAINS WITH VERTICAL BAR AT END OF HORIZONTAL STROKE;CONTAINS WITH OVERBAR
22FE SMALL CONTAINS WITH OVERBAR;Z NOTATION BAG MEMBERSHIP;DIAMETER SIGN;ELECTRIC ARROW;HOUSE
2303 UP ARROWHEAD;DOWN ARROWHEAD;PROJECTIVE;PERSPECTIVE;WAVY LINE;LEFT CEILING;RIGHT CEILING
230A LEFT FLOOR;RIGHT FLOOR;BOTTOM RIGHT CROP;aLEFT CROP;TOP RIGHT CROP;aLEFT CROP
2310 REVERSED NOT SIGN;SQUARE LOZENGE;ARC;SEGMENT;SECTOR;TELEPHONE RECORDER;POSITION INDICATOR
2317 VIEWDATA SQUARE;PLACE OF INTEREST SIGN;TURNED NOT SIGN;WATCH;HOURGLASS;TOP LEFT CORNER
231D aRIGHT CORNER;BOTTOM LEFT CORNER;aRIGHT CORNER;TOP HALF INTEGRAL;BOTTOM HALF INTEGRAL;FROWN
2323 SMILE;UP ARROWHEAD BETWEEN TWO HORIZONTAL BARS;OPTION KEY;ERASE TO THE RIGHT
2327 X IN A RECTANGLE BOX;KEYBOARD;LEFT-POINTING ANGLE BRACKET;RIGHT-POINTING ANGLE BRACKET
232B ERASE TO THE LEFT;BENZENE RING;CYLINDRICITY;ALL AROUND-PROFILE;SYMMETRY;TOTAL RUNOUT
2331 DIMENSION ORIGIN;CONICAL TAPER;SLOPE;COUNTERBORE;COUNTERSINK;APL FUNCTIONAL SYMBOL I-BEAM
2337 cSQUISH QUAD;cQUAD EQUAL;dDIVIDE;dDIAMOND;dJOT;dCIRCLE;cCIRCLE STILE;dJOT;cSLASH BAR
2340 cBACKSLASH BAR;cQUAD SLASH;dBACKSLASH;dLESS-THAN;dGREATER-THAN;cLEFTWARDS VANE
2346 cRIGHTWARDS VANE;cQUAD LEFTWARDS ARROW;dRIGHTWARDS ARROW;cCIRCLE BACKSLASH
234A cDOWN TACK UNDERBAR;cDELTA STILE;cQUAD DOWN CARET;dDELTA;cDOWN TACK JOT;cUPWARDS VANE
2350 cQUAD UPWARDS ARROW;cUP TACK OVERBAR;cDEL STILE;cQUAD UP CARET;dDEL;cUP TACK JOT
2356 cDOWNWARDS VANE;cQUAD DOWNWARDS ARROW;cQUOTE UNDERBAR;cDELTA UNDERBAR;cDIAMOND UNDERBAR
235B cJOT UNDERBAR;cCIRCLE UNDERBAR;cUP SHOE JOT;cQUOTE QUAD;cCIRCLE STAR;cQUAD COLON
2361 cUP TACK DIAERESIS;cDEL DIAERESIS;cSTAR DIAERESIS;cJOT DIAERESIS;cCIRCLE DIAERESIS
2366 cDOWN SHOE STILE;cLEFT SHOE STILE;cTILDE DIAERESIS;cGREATER-THAN DIAERESIS;cCOMMA BAR
236B cDEL TILDE;cZILDE;cSTILE TILDE;cSEMICOLON UNDERBAR;cQUAD NOT EQUAL;dQUESTION
2371 cDOWN CARET TILDE;cUP CARET TILDE;cIOTA;cRHO;cOMEGA;cALPHA UNDERBAR;cEPSILON UNDERBAR
2378 cIOTA UNDERBAR;cOMEGA UNDERBAR;cALPHA;NOT CHECK MARK;RIGHT ANGLE WITH DOWNWARDS ZIGZAG ARROW
237D SHOULDERED OPEN BOX;BELL SYMBOL;VERTICAL LINE WITH MIDDLE DOT;INSERTION SYMBOL
2381 CONTINUOUS UNDERLINE SYMBOL;DISCONTINUOUS UNDERLINE SYMBOL;EMPHASIS SYMBOL;COMPOSITION SYMBOL
2385 WHITE SQUARE WITH CENTRE VERTICAL LINE;ENTER SYMBOL;ALTERNATIVE KEY SYMBOL;HELM SYMBOL
2389 CIRCLED HORIZONTAL BAR WITH NOTCH;aTRIANGLE DOWN;BROKEN CIRCLE WITH NORTHWEST ARROW
238C UNDO SYMBOL;MONOSTABLE SYMBOL;HYSTERESIS SYMBOL;OPEN-CIRCUIT-OUTPUT H-TYPE SYMBOL
2390 aL-TYPE SYMBOL;PASSIVE-PULL-DOWN-OUTPUT SYMBOL;PASSIVE-PULL-UP-OUTPUT SYMBOL
2393 DIRECT CURRENT SYMBOL FORM TWO;SOFTWARE-FUNCTION SYMBOL;APL FUNCTIONAL SYMBOL QUAD
2396 DECIMAL SEPARATOR KEY SYMBOL;PREVIOUS PAGE;NEXT PAGE;PRINT SCREEN SYMBOL;CLEAR SCREEN SYMBOL
239B LEFT PARENTHESIS UPPER HOOK;bEXTENSION;bLOWER HOOK;RIGHT PARENTHESIS UPPER HOOK;bEXTENSION
23A0 bLOWER HOOK;LEFT SQUARE BRACKET UPPER CORNER;cEXTENSION;cLOWER CORNER
23A4 RIGHT SQUARE BRACKET UPPER CORNER;cEXTENSION;cLOWER CORNER;LEFT CURLY BRACKET UPPER HOOK
23A8 cMIDDLE PIECE;cLOWER HOOK;CURLY BRACKET EXTENSION;RIGHT CURLY BRACKET UPPER HOOK
23AC cMIDDLE PIECE;cLOWER HOOK;INTEGRAL EXTENSION;HORIZONTAL LINE EXTENSION
23B0 UPPER LEFT OR LOWER RIGHT CURLY BRACKET SECTION;aRIGHT OR LOWER LEFT CURLY BRACKET SECTION
23B2 SUMMATION TOP;aBOTTOM;TOP SQUARE BRACKET;BOTTOM SQUARE BRACKET;cOVER TOP SQUARE BRACKET
23B7 RADICAL SYMBOL BOTTOM;LEFT VERTICAL BOX LINE;RIGHT VERTICAL BOX LINE;HORIZONTAL SCAN LINE-1
23BB bLINE-3;bLINE-7;bLINE-9;DENTISTRY SYMBOL LIGHT VERTICAL AND TOP RIGHT;eBOTTOM RIGHT
23C0 dWITH CIRCLE;cDOWN AND HORIZONTAL WITH CIRCLE;cUP AND HORIZONTAL WITH CIRCLE
23C3 cVERTICAL WITH TRIANGLE;cDOWN AND HORIZONTAL WITH TRIANGLE;cUP AND HORIZONTAL WITH TRIANGLE
23C6 cVERTICAL AND WAVE;cDOWN AND HORIZONTAL WITH WAVE;cUP AND HORIZONTAL WITH WAVE
23C9 cDOWN AND HORIZONTAL;cUP AND HORIZONTAL;cVERTICAL AND TOP LEFT;eBOTTOM LEFT;SQUARE FOOT
23CE RETURN SYMBOL;EJECT SYMBOL;VERTICAL LINE EXTENSION;METRICAL BREVE;aLONG OVER SHORT
23D3 aSHORT OVER LONG;aLONG OVER TWO SHORTS;aTWO SHORTS OVER LONG;cJOINED;aTRISEME;aTETRASEME
23D9 aPENTASEME;EARTH GROUND;FUSE;TOP PARENTHESIS;BOTTOM PARENTHESIS;TOP CURLY BRACKET
23DF BOTTOM CURLY BRACKET;TOP TORTOISE SHELL BRACKET;BOTTOM TORTOISE SHELL BRACKET;WHITE TRAPEZIUM
23E3 BENZENE RING WITH CIRCLE;STRAIGHTNESS;FLATNESS;AC CURRENT;ELECTRICAL INTERSECTION
23E8 DECIMAL EXPONENT SYMBOL;BLACK RIGHT-POINTING DOUBLE TRIANGLE;aLEFT-POINTING DOUBLE TRIANGLE
23EB aUP-POINTING DOUBLE TRIANGLE;aDOWN-POINTING DOUBLE TRIANGLE
23ED aRIGHT-POINTING DOUBLE TRIANGLE WITH VERTICAL BAR
23EE aLEFT-POINTING DOUBLE TRIANGLE WITH VERTICAL BAR
23EF aRIGHT-POINTING TRIANGLE WITH DOUBLE VERTICAL BAR;ALARM CLOCK;STOPWATCH;TIMER CLOCK
23F3 HOURGLASS WITH FLOWING SAND;BLACK MEDIUM LEFT-POINTING TRIANGLE;bRIGHT-POINTING TRIANGLE
23F6 bUP-POINTING TRIANGLE;bDOWN-POINTING TRIANGLE;DOUBLE VERTICAL BAR;BLACK SQUARE FOR STOP
23FA aCIRCLE FOR RECORD;POWER SYMBOL;aON-OFF SYMBOL;aON SYMBOL;aSLEEP SYMBOL;OBSERVER EYE SYMBOL"

end Stencil.CharacterName
