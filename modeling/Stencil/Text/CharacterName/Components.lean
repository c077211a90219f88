/-! # Names of code points: the scripts of western Africa, Kana of old and components of characters

The lines are those of a table of names (`Stencil.NameTable`).
-/

namespace Stencil.CharacterName

/-- The names of the scripts of western Africa, Kana of old and components of characters. -/
def components : String :=
"16800 BAMUM LETTER PHASE-A NGKUE MFON;cGBIEE FON;cPON MFON PIPAEMGBIEE;ePIPAEMBA;cNAA MFON
16805 cSHUENSHUET;cTITA MFON;cNZA MFON;cSHINDA PA NJI;cPON PA NJI PIPAEMGBIEE;fPIPAEMBA
1680B cMAEMBGBIEE;cTU MAEMBA;cNGANGU;cMAEMVEUX;cMANSUAE;cMVEUAENGAM;cSEUNYAM;cNTOQPEN;cKEUKEUTNDA
16814 cNKINDI;cSUU;cNGKUENZEUM;cLAPAQ;cLET KUT;cNTAP MFAA;cMAEKEUP;cPASHAE;cGHEUAERAE;cPAMSHAE
1681E cMON NGGEUAET;cNZUN MEUT;cU YUQ NAE;cGHEUAEGHEUAE;cNTAP NTAA;cSISA;cMGBASA;cMEUNJOMNDEUQ
16826 cMOOMPUQ;cKAFA;cPA LEERAEWA;cNDA LEERAEWA;cPET;cMAEMKPEN;cNIKA;cPUP;cTUAEP;cLUAEP;cSONJAM
16831 cTEUTEUWEN;cMAENYI;cKET;cNDAANGGEUAET;cKUOQ;cMOOMEUT;cSHUM;cLOMMAE;cFIRI;cROM;cKPOQ;cSOQ
1683D cMAP PIEET;cSHIRAE;cNTAP;cSHOQ NSHUT YUM;cNYIT MONGKEUAEQ;cPAARAE;cNKAARAE;cUNKNOWN;cNGGEN
16846 cMAESI;cNJAM;cMBANYI;cNYET;cTEUAEN;cSOT;cPAAM;cNSHIEE;cMAEM;cNYI;cKAQ;cNSHA;cVEE;cLU;cNEN
16855 cNAQ;cMBAQ;bPHASE-B NSHUET;cTU MAEMGBIEE;cSIEE;cSET TU;cLOM NTEUM;cMBA MAELEE;cKIEEM;cYEURAE
1685F cMBAARAE;cKAM;cPEESHI;cYAFU LEERAEWA;cLAM NSHUT NYAM;cNTIEE SHEUOQ;cNDU NJAA;cGHEUGHEUAEM
16867 cPIT;cTU NSIEE;cSHET NJAQ;cSHEUAEQTU;cMFON TEUAEQ;cMBIT MBAAKET;cNYI NTEUM;cKEUPUQ;cGHEUGHEN
16870 cKEUYEUX;cLAANAE;cPARUM;cVEUM;cNGKINDI MVOP;cNGGEU MBU;cWUAET;cSAKEUAE;cTAAM;cMEUQ;cNGGUOQ
1687B dLARGE;cMFIYAQ;cSUE;cMBEURI;cMONTIEEN;cNYAEMAE;cPUNGAAM;cMEUT NGGEET;cFEUX;cMBUOQ;cFEE
16886 cKEUAEM;cMA NJEUAENA;dNJUQA;cLET;cNGGAAM;cNSEN;cMA;cKIQ;cNGOM;bPHASE-C NGKUE MAEMBA;cNZA
16891 cYUM;cWANGKUOQ;cNGGEN;cNDEUAEREE;cNGKAQ;cGHARAE;cMBEEKEET;cGBAYI;cNYIR MKPARAQ MEUN
1689A cNTU MBIT;cMBEUM;cPIRIEEN;cNDOMBU;cMBAA CABBAGE-TREE;cKEUSHEUAEP;cGHAP;cKEUKAQ;cYU MUOMAE
168A3 cNZEUM;cMBUE;cNSEUAEN;cMBIT;cYEUQ;cKPARAQ;cKAA;cSEUX;cNDIDA;cTAASHAE;cNJUEQ;cTITA YUE;cSUAET
168B0 cNGGUAEN NYAM;cVEUX;cNANSANAQ;cMA KEUAERI;cNTAA;cNGGUON;cLAP;cMBIRIEEN;cMGBASAQ;cNTEUNGBA
168BA cTEUTEUX;cNGGUM;cFUE;cNDEUT;cNSA;cNSHAQ;cBUNG;cVEUAEPEN;cMBERAE;cRU;cNJAEM;cLAM;cTITUAEP
168C7 cNSUOT NGOM;cNJEEEE;cKET;cNGGU;cMAESI;cMBUAEM;cLU;cKUT;cNJAM;cNGOM;cWUP;cNGGUEET;cNSOM;cNTEN
168D5 cKUOP NKAARAE;cNSUN;cNDAM;cMA NSIEE;cYAA;cNDAP;cSHUEQ;cSETFON;cMBI;cMAEMBA;cMBANYI;cKEUSEUX
168E1 cMBEUX;cKEUM;cMBAA PICKET;cYUWOQ;cNJEUX;cMIEE;cMUAE;cSHIQ;cKEN LAW;dFATIGUE;cNGAQ;cNAQ;cLIQ
168EE cPIN;cPEN;cTET;bPHASE-D MBUO;cWAP;cNJI;cMFON;cNJIEE;cLIEE;cNJEUT;cNSHEE;cNGGAAMAE;cNYAM
168FB cWUAEN;cNGKUN;cSHEE;cNGKAP;cKEUAETMEUN;cTEUT;cSHEUAE;cNJAP;cSUE;cKET;cYAEMMAE;cKUOM;cSAP
16908 cMFEUT;cNDEUX;cMALEERI;cMEUT;cSEUAEQ;cYEN;cNJEUAEM;cKEUOT MBUAE;cNGKEURI;cTU;cGHAA;cNGKYEE
16914 cFEUFEUAET;cNDEE;cMGBOFUM;cLEUAEP;cNDON;cMONI;cMGBEUN;cPUUT;cMGBIEE;cMFO;cLUM;cNSIEEP;cMBAA
16921 cKWAET;cNYET;cTEUAEN;cSOT;cYUWOQ;cKEUM;cRAEM;cTEEEE;cNGKEUAEQ;cMFEUAE;cNSIEET;cKEUP;cPIP
1692E cPEUTAE;cNYUE;cLET;cNGGAAM;cMFIEE;cNGGWAEN;cYUOM;cPAP;cYUOP;cNDAM;cNTEUM;cSUAE;cKUN;cNGGEUX
1693C cNGKIEE;cTUOT;cMEUN;cKUQ;cNSUM;cTEUN;cMAENJET;cNGGAP;cLEUM;cNGGUOM;cNSHUT;cNJUEQ;cGHEUAE;cKU
1694A cREN OLD;cTAE;cTOQ;cNYI;cRII;cLEEEE;cMEEEE;cM;cSUU;cMU;cSHII;cSHEUX;cKYEE;cNU;cSHU;cNTEE
1695A cPEE;cNI;cSHOQ;cPUQ;cMVOP;cLOQ;cREN MUCH;cTI;cNTUU;cMBAA SEVEN;cSAQ;cFAA;bPHASE-E NDAP;cTOON
16968 cMBEUM;cLAP;cVOM;cLOON;cPAA;cSOM;cRAQ;cNSHUOP;cNDUN;cPUAE;cTAM;cNGKA;cKPEUX;cWUO;cSEE
16977 cNGGEUAET;cPAAM;cTOO;cKUOP;cLOM;cNSHIEE;cNGOP;cMAEM;cNGKEUX;cNGOQ;cNSHUE;cRIMGBA;cNJEUX
16984 cPEEM;cSAA;cNGGURAE;cMGBA;cGHEUX;cNGKEUAEM;cNJAEMLI;cMAP;cLOOT;cNGGEEEE;cNDIQ;cTAEN NTEUM
16990 cSET;cPUM;cNDAA SOFTNESS;cNGGUAESHAE NYAM;cYIEE;cGHEUN;cTUAE;cYEUAE;cPO;cTUMAE;cKEUAE;cSUAEN
1699C cTEUAEQ;cVEUAE;cWEUX;cLAAM;cPU;cTAAQ;cGHAAMAE;cNGEUREUT;cSHEUAEQ;cMGBEN;cMBEE;cNZAQ;cNKOM
169A9 cGBET;cTUM;cKUET;cYAP;cNYI CLEAVER;cYIT;cMFEUQ;cNDIAQ;cPIEEQ;cYUEQ;cLEUAEM;cFUE;cGBEUX
169B6 cNGKUP;cKET;cMAE;cNGKAAMI;cGHET;cFA;cNTUM;cPEUT;cYEUM;cNGGEUAE;cNYI BETWEEN;cNZUQ;cPOON
169C3 cMIEE;cFUET;cNAE;cMUAE;cGHEUAE;cFU I;cMVI;cPUAQ;cNGKUM;cKUT;cPIET;cNTAP;cYEUAET;cNGGUP
169D1 cPA PEOPLE;cFU CALL;cFOM;cNJEE;cA;cTOQ;cO;cI;cLAQ;cPA PLURAL;cTAA;cTAQ;cNDAA MY HOUSE;cSHIQ
169DF cYEUX;cNGUAE;cYUAEN;cYOQ SWIMMING;dCOVER;cYUQ;cYUN;cKEUX;cPEUX;cNJEE EPOCH;cPUE;cWUE;cFEE
169EC cVEE;cLU;cMI;cREUX;cRAE;cNGUAET;cNGA;cSHO;cSHOQ;cFU REMEDY;cNA;cPI;cLOQ;cKO;cMEN;cMA;cMAQ
169FD cTEU;cKI;cMON;cTEN;cFAQ;cGHOM;bPHASE-F KA;cU;cKU;cEE;cREE;cTAE;cNYI;cLA;cRII;cRIEE;cMEEEE
16A0E cTAA;cNDAA;cNJAEM;cM;cSUU;cSHII;cSI;cSEUX;cKYEE;cKET;cNUAE;cNU;cNJUAE;cYOQ;cSHU;cYA;cNSHA
16A1F cPEUX;cNTEE;cWUE;cPEE;cRU;cNI;cREUX;cKEN;cNGKWAEN;cNGGA;cSHO;cPUAE;cFOM;cWA;cLI;cLOQ;cKO
16A30 cMBEN;cREN;cMA;cMO;cMBAA;cTET;cKPA;cSAMBA;cVUEQ
16A40 MRO LETTER TA;bNGI;bYO;bMIM;bBA;bDA;bA;bPHI;bKHAI;bHAO;bDAI;bCHU;bKEAAE;bOL;bMAEM;bNIN;bPA
16A51 bOO;bO;bRO;bSHI;bTHEA;bEA;bWA;bE;bKO;bLAN;bLA;bHAI;bRI;bTEK
16A60 aDIGIT ZERO;bONE;bTWO;bTHREE;bFOUR;bFIVE;bSIX;bSEVEN;bEIGHT;bNINE
16A6E aDANDA;aDOUBLE DANDA;TANGSA LETTER OZ;bOC;bOQ;bOX;bAZ;bAC;bAQ;bAX;bVZ;bVC;bVQ;bVX;bEZ;bEC
16A7E bEQ;bEX;bIZ;bIC;bIQ;bIX;bUZ;bUC;bUQ;bUX;bAWZ;bAWC;bAWQ;bAWX;bUIZ;bUIC;bUIQ;bUIX;bFINAL NG
16A91 bLONG UEX;bSHORT UEZ;cAWX;bUEC;bUEZ;bUEQ;bUEX;bUIUZ;bUIUC;bUIUQ;bUIUX;bMZ;bMC;bMQ;bMX;bKA
16AA1 bKHA;bGA;bNGA;bSA;bYA;bWA;bPA;bNYA;bPHA;bBA;bMA;bNA;bHA;bLA;bHTA;bTA;bDA;bRA;bNHA;bSHA;bCA
16AB6 bTSA;bGHA;bHTTA;bTHA;bXA;bFA;bDHA;bCHA;bZA
16AC0 aDIGIT ZERO;bONE;bTWO;bTHREE;bFOUR;bFIVE;bSIX;bSEVEN;bEIGHT;bNINE
16AD0 BASSA VAH LETTER ENNI;cKA;cSE;cFA;cMBE;cYIE;cGAH;cDHII;cKPAH;cJO;cHWAH;cWA;cZO;cGBU;cDO;cCE
16AE0 cUWU;cTO;cBA;cVU;cYEIN;cPA;cWADDA;cA;cO;cOO;cU;cEE;cE;cI
16AF0 bCOMBINING HIGH TONE;cLOW TONE;cMID TONE;cLOW-MID TONE;cHIGH-LOW TONE;bFULL STOP
16B00 PAHAWH HMONG VOWEL KEEB;cKEEV;cKIB;cKIV;cKAUB;cKAUV;cKUB;cKUV;cKEB;cKEV;cKAIB;cKAIV;cKOOB
16B0D cKOOV;cKAWB;cKAWV;cKUAB;cKUAV;cKOB;cKOV;cKIAB;cKIAV;cKAB;cKAV;cKWB;cKWV;cKAAB;cKAAV
16B1C bCONSONANT VAU;cNTSAU;cLAU;cHAU;cNLAU;cRAU;cNKAU;cQHAU;cYAU;cHLAU;cMAU;cCHAU;cNCHAU;cHNAU
16B2A cPLHAU;cNTHAU;cNAU;cAU;cXAU;cCAU;bMARK CIM TUB;dSO;dKES;dKHAV;dSUAM;dHOM;dTAUM
16B37 bSIGN VOS THOM;dTSHAB CEEB;cCIM CHEEM;cVOS THIAB;dFEEM;cXYEEM NTXIV;dRHO;dTOV;dFAIB
16B40 cVOS SEEV;cMEEJ SUAB;cVOS NRUA;cIB YAM;cXAUS;cCIM TSOV ROG
16B50 bDIGIT ZERO;cONE;cTWO;cTHREE;cFOUR;cFIVE;cSIX;cSEVEN;cEIGHT;cNINE
16B5B bNUMBER TENS;cHUNDREDS;cTEN THOUSANDS;cMILLIONS;cHUNDRED MILLIONS;cTEN BILLIONS;cTRILLIONS
16B63 bSIGN VOS LUB;cXYOO;cHLI;cTHIRD-STAGE HLI;cZWJ THAJ;cHNUB;cNQIG;cXIAB;cNTUJ;cAV;cTXHEEJ CEEV
16B6E cMEEJ TSEEB;cTAU;cLOS;cMUS;cCIM HAIS LUS NTOG NTOG;dCUAM TSHOOJ;dTXWV;eCHWV;dPUB DAWB
16B77 dNRES TOS
16B7D bCLAN SIGN TSHEEJ;dYEEG;dLIS;dLAUJ;dXYOOJ;dKOO;dHAWJ;dMUAS;dTHOJ;dTSAB;dPHAB;dKHAB;dHAM;dVAJ
16B8B dFAJ;dYAJ;dTSWB;dKWM;dVWJ
16E40 MEDEFAIDRIN CAPITAL LETTER M;cS;cV;cW;cATIU;cZ;cKP;cP;cT;cG;cF;cI;cK;cA;cJ;cE;cB;cC;cU;cYU
16E54 cL;cQ;cHP;cNY;cX;cD;cOE;cN;cR;cO;cAI;cY;aSMALL LETTER M;cS;cV;cW;cATIU;cZ;cKP;cP;cT;cG;cF;cI
16E6C cK;cA;cJ;cE;cB;cC;cU;cYU;cL;cQ;cHP;cNY;cX;cD;cOE;cN;cR;cO;cAI;cY;aDIGIT ZERO;bONE;bTWO
16E83 bTHREE;bFOUR;bFIVE;bSIX;bSEVEN;bEIGHT;bNINE;aNUMBER TEN;bELEVEN;bTWELVE;bTHIRTEEN;bFOURTEEN
16E8F bFIFTEEN;bSIXTEEN;bSEVENTEEN;bEIGHTEEN;bNINETEEN;aDIGIT ONE ALTERNATE FORM
16E95 bTWO ALTERNATE FORM;bTHREE ALTERNATE FORM;aCOMMA;aFULL STOP;aSYMBOL AIVA;aEXCLAMATION OH
16F00 MIAO LETTER PA;bBA;bYI PA;bPLA;bMA;bMHA;bARCHAIC MA;bFA;bVA;bVFA;bTA;bDA;bYI TTA;cTA;bTTA
16F0F bDDA;bNA;bNHA;bYI NNA;bARCHAIC NA;bNNA;bNNHA;bLA;bLYA;bLHA;bLHYA;bTLHA;bDLHA;bTLHYA;bDLHYA
16F1E bKA;bGA;bYI KA;bQA;bQGA;bNGA;bNGHA;bARCHAIC NGA;bHA;bXA;bGHA;bGHHA;bTSSA;bDZZA;bNYA;bNYHA
16F2E bTSHA;bDZHA;bYI TSHA;cDZHA;bREFORMED TSHA;bSHA;bSSA;bZHA;bZSHA;bTSA;bDZA;bYI TSA;bSA;bZA
16F3C bZSA;bZZA;bZZSA;bARCHAIC ZZA;bZZYA;bZZSYA;bWA;bAH;bHHA;bBRI;bSYI;bDZYI;bTE;bTSE;bRTE
16F4F aSIGN CONSONANT MODIFIER BAR;aLETTER NASALIZATION;aSIGN ASPIRATION;bREFORMED VOICING
16F53 cASPIRATION;aVOWEL SIGN A;cAA;cAHH;cAN;cANG;cO;cOO;cWO;cW;cE;cEN;cENG;cOEY;cI;cIA;cIAN;cIANG
16F65 cIO;cIE;cII;cIU;cING;cU;cUA;cUAN;cUANG;cUU;cUEI;cUNG;cY;cYI;cAE;cAEE;cERR;cROUNDED ERR;cER
16F78 cROUNDED ER;cAI;cEI;cAU;cOU;cN;cNG;cUOG;cYUI;cOG;cOER;cVW;cIG;cEA;cIONG;cUI
16F8F aTONE RIGHT;bTOP RIGHT;bABOVE;bBELOW;aLETTER TONE-2;bTONE-3;bTONE-4;bTONE-5;bTONE-6;bTONE-7
16F99 bTONE-8;bREFORMED TONE-1;cTONE-2;cTONE-4;cTONE-5;cTONE-6;cTONE-8
16FE0 TANGUT ITERATION MARK;NUSHU ITERATION MARK;OLD CHINESE HOOK MARK;bITERATION MARK
16FE4 KHITAN SMALL SCRIPT FILLER
16FF0 VIETNAMESE ALTERNATE READING MARK CA;dNHAY
18800 TANGUT COMPONENT-001;aCOMPONENT-002;aCOMPONENT-003;aCOMPONENT-004;aCOMPONENT-005
18805 aCOMPONENT-006;aCOMPONENT-007;aCOMPONENT-008;aCOMPONENT-009;aCOMPONENT-010;aCOMPONENT-011
1880B aCOMPONENT-012;aCOMPONENT-013;aCOMPONENT-014;aCOMPONENT-015;aCOMPONENT-016;aCOMPONENT-017
18811 aCOMPONENT-018;aCOMPONENT-019;aCOMPONENT-020;aCOMPONENT-021;aCOMPONENT-022;aCOMPONENT-023
18817 aCOMPONENT-024;aCOMPONENT-025;aCOMPONENT-026;aCOMPONENT-027;aCOMPONENT-028;aCOMPONENT-029
1881D aCOMPONENT-030;aCOMPONENT-031;aCOMPONENT-032;aCOMPONENT-033;aCOMPONENT-034;aCOMPONENT-035
18823 aCOMPONENT-036;aCOMPONENT-037;aCOMPONENT-038;aCOMPONENT-039;aCOMPONENT-040;aCOMPONENT-041
18829 aCOMPONENT-042;aCOMPONENT-043;aCOMPONENT-044;aCOMPONENT-045;aCOMPONENT-046;aCOMPONENT-047
1882F aCOMPONENT-048;aCOMPONENT-049;aCOMPONENT-050;aCOMPONENT-051;aCOMPONENT-052;aCOMPONENT-053
18835 aCOMPONENT-054;aCOMPONENT-055;aCOMPONENT-056;aCOMPONENT-057;aCOMPONENT-058;aCOMPONENT-059
1883B aCOMPONENT-060;aCOMPONENT-061;aCOMPONENT-062;aCOMPONENT-063;aCOMPONENT-064;aCOMPONENT-065
18841 aCOMPONENT-066;aCOMPONENT-067;aCOMPONENT-068;aCOMPONENT-069;aCOMPONENT-070;aCOMPONENT-071
18847 aCOMPONENT-072;aCOMPONENT-073;aCOMPONENT-074;aCOMPONENT-075;aCOMPONENT-076;aCOMPONENT-077
1884D aCOMPONENT-078;aCOMPONENT-079;aCOMPONENT-080;aCOMPONENT-081;aCOMPONENT-082;aCOMPONENT-083
18853 aCOMPONENT-084;aCOMPONENT-085;aCOMPONENT-086;aCOMPONENT-087;aCOMPONENT-088;aCOMPONENT-089
18859 aCOMPONENT-090;aCOMPONENT-091;aCOMPONENT-092;aCOMPONENT-093;aCOMPONENT-094;aCOMPONENT-095
1885F aCOMPONENT-096;aCOMPONENT-097;aCOMPONENT-098;aCOMPONENT-099;aCOMPONENT-100;aCOMPONENT-101
18865 aCOMPONENT-102;aCOMPONENT-103;aCOMPONENT-104;aCOMPONENT-105;aCOMPONENT-106;aCOMPONENT-107
1886B aCOMPONENT-108;aCOMPONENT-109;aCOMPONENT-110;aCOMPONENT-111;aCOMPONENT-112;aCOMPONENT-113
18871 aCOMPONENT-114;aCOMPONENT-115;aCOMPONENT-116;aCOMPONENT-117;aCOMPONENT-118;aCOMPONENT-119
18877 aCOMPONENT-120;aCOMPONENT-121;aCOMPONENT-122;aCOMPONENT-123;aCOMPONENT-124;aCOMPONENT-125
1887D aCOMPONENT-126;aCOMPONENT-127;aCOMPONENT-128;aCOMPONENT-129;aCOMPONENT-130;aCOMPONENT-131
18883 aCOMPONENT-132;aCOMPONENT-133;aCOMPONENT-134;aCOMPONENT-135;aCOMPONENT-136;aCOMPONENT-137
18889 aCOMPONENT-138;aCOMPONENT-139;aCOMPONENT-140;aCOMPONENT-141;aCOMPONENT-142;aCOMPONENT-143
1888F aCOMPONENT-144;aCOMPONENT-145;aCOMPONENT-146;aCOMPONENT-147;aCOMPONENT-148;aCOMPONENT-149
18895 aCOMPONENT-150;aCOMPONENT-151;aCOMPONENT-152;aCOMPONENT-153;aCOMPONENT-154;aCOMPONENT-155
1889B aCOMPONENT-156;aCOMPONENT-157;aCOMPONENT-158;aCOMPONENT-159;aCOMPONENT-160;aCOMPONENT-161
188A1 aCOMPONENT-162;aCOMPONENT-163;aCOMPONENT-164;aCOMPONENT-165;aCOMPONENT-166;aCOMPONENT-167
188A7 aCOMPONENT-168;aCOMPONENT-169;aCOMPONENT-170;aCOMPONENT-171;aCOMPONENT-172;aCOMPONENT-173
188AD aCOMPONENT-174;aCOMPONENT-175;aCOMPONENT-176;aCOMPONENT-177;aCOMPONENT-178;aCOMPONENT-179
188B3 aCOMPONENT-180;aCOMPONENT-181;aCOMPONENT-182;aCOMPONENT-183;aCOMPONENT-184;aCOMPONENT-185
188B9 aCOMPONENT-186;aCOMPONENT-187;aCOMPONENT-188;aCOMPONENT-189;aCOMPONENT-190;aCOMPONENT-191
188BF aCOMPONENT-192;aCOMPONENT-193;aCOMPONENT-194;aCOMPONENT-195;aCOMPONENT-196;aCOMPONENT-197
188C5 aCOMPONENT-198;aCOMPONENT-199;aCOMPONENT-200;aCOMPONENT-201;aCOMPONENT-202;aCOMPONENT-203
188CB aCOMPONENT-204;aCOMPONENT-205;aCOMPONENT-206;aCOMPONENT-207;aCOMPONENT-208;aCOMPONENT-209
188D1 aCOMPONENT-210;aCOMPONENT-211;aCOMPONENT-212;aCOMPONENT-213;aCOMPONENT-214;aCOMPONENT-215
188D7 aCOMPONENT-216;aCOMPONENT-217;aCOMPONENT-218;aCOMPONENT-219;aCOMPONENT-220;aCOMPONENT-221
188DD aCOMPONENT-222;aCOMPONENT-223;aCOMPONENT-224;aCOMPONENT-225;aCOMPONENT-226;aCOMPONENT-227
188E3 aCOMPONENT-228;aCOMPONENT-229;aCOMPONENT-230;aCOMPONENT-231;aCOMPONENT-232;aCOMPONENT-233
188E9 aCOMPONENT-234;aCOMPONENT-235;aCOMPONENT-236;aCOMPONENT-237;aCOMPONENT-238;aCOMPONENT-239
188EF aCOMPONENT-240;aCOMPONENT-241;aCOMPONENT-242;aCOMPONENT-243;aCOMPONENT-244;aCOMPONENT-245
188F5 aCOMPONENT-246;aCOMPONENT-247;aCOMPONENT-248;aCOMPONENT-249;aCOMPONENT-250;aCOMPONENT-251
188FB aCOMPONENT-252;aCOMPONENT-253;aCOMPONENT-254;aCOMPONENT-255;aCOMPONENT-256;aCOMPONENT-257
18901 aCOMPONENT-258;aCOMPONENT-259;aCOMPONENT-260;aCOMPONENT-261;aCOMPONENT-262;aCOMPONENT-263
18907 aCOMPONENT-264;aCOMPONENT-265;aCOMPONENT-266;aCOMPONENT-267;aCOMPONENT-268;aCOMPONENT-269
1890D aCOMPONENT-270;aCOMPONENT-271;aCOMPONENT-272;aCOMPONENT-273;aCOMPONENT-274;aCOMPONENT-275
18913 aCOMPONENT-276;aCOMPONENT-277;aCOMPONENT-278;aCOMPONENT-279;aCOMPONENT-280;aCOMPONENT-281
18919 aCOMPONENT-282;aCOMPONENT-283;aCOMPONENT-284;aCOMPONENT-285;aCOMPONENT-286;aCOMPONENT-287
1891F aCOMPONENT-288;aCOMPONENT-289;aCOMPONENT-290;aCOMPONENT-291;aCOMPONENT-292;aCOMPONENT-293
18925 aCOMPONENT-294;aCOMPONENT-295;aCOMPONENT-296;aCOMPONENT-297;aCOMPONENT-298;aCOMPONENT-299
1892B aCOMPONENT-300;aCOMPONENT-301;aCOMPONENT-302;aCOMPONENT-303;aCOMPONENT-304;aCOMPONENT-305
18931 aCOMPONENT-306;aCOMPONENT-307;aCOMPONENT-308;aCOMPONENT-309;aCOMPONENT-310;aCOMPONENT-311
18937 aCOMPONENT-312;aCOMPONENT-313;aCOMPONENT-314;aCOMPONENT-315;aCOMPONENT-316;aCOMPONENT-317
1893D aCOMPONENT-318;aCOMPONENT-319;aCOMPONENT-320;aCOMPONENT-321;aCOMPONENT-322;aCOMPONENT-323
18943 aCOMPONENT-324;aCOMPONENT-325;aCOMPONENT-326;aCOMPONENT-327;aCOMPONENT-328;aCOMPONENT-329
18949 aCOMPONENT-330;aCOMPONENT-331;aCOMPONENT-332;aCOMPONENT-333;aCOMPONENT-334;aCOMPONENT-335
1894F aCOMPONENT-336;aCOMPONENT-337;aCOMPONENT-338;aCOMPONENT-339;aCOMPONENT-340;aCOMPONENT-341
18955 aCOMPONENT-342;aCOMPONENT-343;aCOMPONENT-344;aCOMPONENT-345;aCOMPONENT-346;aCOMPONENT-347
1895B aCOMPONENT-348;aCOMPONENT-349;aCOMPONENT-350;aCOMPONENT-351;aCOMPONENT-352;aCOMPONENT-353
18961 aCOMPONENT-354;aCOMPONENT-355;aCOMPONENT-356;aCOMPONENT-357;aCOMPONENT-358;aCOMPONENT-359
18967 aCOMPONENT-360;aCOMPONENT-361;aCOMPONENT-362;aCOMPONENT-363;aCOMPONENT-364;aCOMPONENT-365
1896D aCOMPONENT-366;aCOMPONENT-367;aCOMPONENT-368;aCOMPONENT-369;aCOMPONENT-370;aCOMPONENT-371
18973 aCOMPONENT-372;aCOMPONENT-373;aCOMPONENT-374;aCOMPONENT-375;aCOMPONENT-376;aCOMPONENT-377
18979 aCOMPONENT-378;aCOMPONENT-379;aCOMPONENT-380;aCOMPONENT-381;aCOMPONENT-382;aCOMPONENT-383
1897F aCOMPONENT-384;aCOMPONENT-385;aCOMPONENT-386;aCOMPONENT-387;aCOMPONENT-388;aCOMPONENT-389
18985 aCOMPONENT-390;aCOMPONENT-391;aCOMPONENT-392;aCOMPONENT-393;aCOMPONENT-394;aCOMPONENT-395
1898B aCOMPONENT-396;aCOMPONENT-397;aCOMPONENT-398;aCOMPONENT-399;aCOMPONENT-400;aCOMPONENT-401
18991 aCOMPONENT-402;aCOMPONENT-403;aCOMPONENT-404;aCOMPONENT-405;aCOMPONENT-406;aCOMPONENT-407
18997 aCOMPONENT-408;aCOMPONENT-409;aCOMPONENT-410;aCOMPONENT-411;aCOMPONENT-412;aCOMPONENT-413
1899D aCOMPONENT-414;aCOMPONENT-415;aCOMPONENT-416;aCOMPONENT-417;aCOMPONENT-418;aCOMPONENT-419
189A3 aCOMPONENT-420;aCOMPONENT-421;aCOMPONENT-422;aCOMPONENT-423;aCOMPONENT-424;aCOMPONENT-425
189A9 aCOMPONENT-426;aCOMPONENT-427;aCOMPONENT-428;aCOMPONENT-429;aCOMPONENT-430;aCOMPONENT-431
189AF aCOMPONENT-432;aCOMPONENT-433;aCOMPONENT-434;aCOMPONENT-435;aCOMPONENT-436;aCOMPONENT-437
189B5 aCOMPONENT-438;aCOMPONENT-439;aCOMPONENT-440;aCOMPONENT-441;aCOMPONENT-442;aCOMPONENT-443
189BB aCOMPONENT-444;aCOMPONENT-445;aCOMPONENT-446;aCOMPONENT-447;aCOMPONENT-448;aCOMPONENT-449
189C1 aCOMPONENT-450;aCOMPONENT-451;aCOMPONENT-452;aCOMPONENT-453;aCOMPONENT-454;aCOMPONENT-455
189C7 aCOMPONENT-456;aCOMPONENT-457;aCOMPONENT-458;aCOMPONENT-459;aCOMPONENT-460;aCOMPONENT-461
189CD aCOMPONENT-462;aCOMPONENT-463;aCOMPONENT-464;aCOMPONENT-465;aCOMPONENT-466;aCOMPONENT-467
189D3 aCOMPONENT-468;aCOMPONENT-469;aCOMPONENT-470;aCOMPONENT-471;aCOMPONENT-472;aCOMPONENT-473
189D9 aCOMPONENT-474;aCOMPONENT-475;aCOMPONENT-476;aCOMPONENT-477;aCOMPONENT-478;aCOMPONENT-479
189DF aCOMPONENT-480;aCOMPONENT-481;aCOMPONENT-482;aCOMPONENT-483;aCOMPONENT-484;aCOMPONENT-485
189E5 aCOMPONENT-486;aCOMPONENT-487;aCOMPONENT-488;aCOMPONENT-489;aCOMPONENT-490;aCOMPONENT-491
189EB aCOMPONENT-492;aCOMPONENT-493;aCOMPONENT-494;aCOMPONENT-495;aCOMPONENT-496;aCOMPONENT-497
189F1 aCOMPONENT-498;aCOMPONENT-499;aCOMPONENT-500;aCOMPONENT-501;aCOMPONENT-502;aCOMPONENT-503
189F7 aCOMPONENT-504;aCOMPONENT-505;aCOMPONENT-506;aCOMPONENT-507;aCOMPONENT-508;aCOMPONENT-509
189FD aCOMPONENT-510;aCOMPONENT-511;aCOMPONENT-512;aCOMPONENT-513;aCOMPONENT-514;aCOMPONENT-515
18A03 aCOMPONENT-516;aCOMPONENT-517;aCOMPONENT-518;aCOMPONENT-519;aCOMPONENT-520;aCOMPONENT-521
18A09 aCOMPONENT-522;aCOMPONENT-523;aCOMPONENT-524;aCOMPONENT-525;aCOMPONENT-526;aCOMPONENT-527
18A0F aCOMPONENT-528;aCOMPONENT-529;aCOMPONENT-530;aCOMPONENT-531;aCOMPONENT-532;aCOMPONENT-533
18A15 aCOMPONENT-534;aCOMPONENT-535;aCOMPONENT-536;aCOMPONENT-537;aCOMPONENT-538;aCOMPONENT-539
18A1B aCOMPONENT-540;aCOMPONENT-541;aCOMPONENT-542;aCOMPONENT-543;aCOMPONENT-544;aCOMPONENT-545
18A21 aCOMPONENT-546;aCOMPONENT-547;aCOMPONENT-548;aCOMPONENT-549;aCOMPONENT-550;aCOMPONENT-551
18A27 aCOMPONENT-552;aCOMPONENT-553;aCOMPONENT-554;aCOMPONENT-555;aCOMPONENT-556;aCOMPONENT-557
18A2D aCOMPONENT-558;aCOMPONENT-559;aCOMPONENT-560;aCOMPONENT-561;aCOMPONENT-562;aCOMPONENT-563
18A33 aCOMPONENT-564;aCOMPONENT-565;aCOMPONENT-566;aCOMPONENT-567;aCOMPONENT-568;aCOMPONENT-569
18A39 aCOMPONENT-570;aCOMPONENT-571;aCOMPONENT-572;aCOMPONENT-573;aCOMPONENT-574;aCOMPONENT-575
18A3F aCOMPONENT-576;aCOMPONENT-577;aCOMPONENT-578;aCOMPONENT-579;aCOMPONENT-580;aCOMPONENT-581
18A45 aCOMPONENT-582;aCOMPONENT-583;aCOMPONENT-584;aCOMPONENT-585;aCOMPONENT-586;aCOMPONENT-587
18A4B aCOMPONENT-588;aCOMPONENT-589;aCOMPONENT-590;aCOMPONENT-591;aCOMPONENT-592;aCOMPONENT-593
18A51 aCOMPONENT-594;aCOMPONENT-595;aCOMPONENT-596;aCOMPONENT-597;aCOMPONENT-598;aCOMPONENT-599
18A57 aCOMPONENT-600;aCOMPONENT-601;aCOMPONENT-602;aCOMPONENT-603;aCOMPONENT-604;aCOMPONENT-605
18A5D aCOMPONENT-606;aCOMPONENT-607;aCOMPONENT-608;aCOMPONENT-609;aCOMPONENT-610;aCOMPONENT-611
18A63 aCOMPONENT-612;aCOMPONENT-613;aCOMPONENT-614;aCOMPONENT-615;aCOMPONENT-616;aCOMPONENT-617
18A69 aCOMPONENT-618;aCOMPONENT-619;aCOMPONENT-620;aCOMPONENT-621;aCOMPONENT-622;aCOMPONENT-623
18A6F aCOMPONENT-624;aCOMPONENT-625;aCOMPONENT-626;aCOMPONENT-627;aCOMPONENT-628;aCOMPONENT-629
18A75 aCOMPONENT-630;aCOMPONENT-631;aCOMPONENT-632;aCOMPONENT-633;aCOMPONENT-634;aCOMPONENT-635
18A7B aCOMPONENT-636;aCOMPONENT-637;aCOMPONENT-638;aCOMPONENT-639;aCOMPONENT-640;aCOMPONENT-641
18A81 aCOMPONENT-642;aCOMPONENT-643;aCOMPONENT-644;aCOMPONENT-645;aCOMPONENT-646;aCOMPONENT-647
18A87 aCOMPONENT-648;aCOMPONENT-649;aCOMPONENT-650;aCOMPONENT-651;aCOMPONENT-652;aCOMPONENT-653
18A8D aCOMPONENT-654;aCOMPONENT-655;aCOMPONENT-656;aCOMPONENT-657;aCOMPONENT-658;aCOMPONENT-659
18A93 aCOMPONENT-660;aCOMPONENT-661;aCOMPONENT-662;aCOMPONENT-663;aCOMPONENT-664;aCOMPONENT-665
18A99 aCOMPONENT-666;aCOMPONENT-667;aCOMPONENT-668;aCOMPONENT-669;aCOMPONENT-670;aCOMPONENT-671
18A9F aCOMPONENT-672;aCOMPONENT-673;aCOMPONENT-674;aCOMPONENT-675;aCOMPONENT-676;aCOMPONENT-677
18AA5 aCOMPONENT-678;aCOMPONENT-679;aCOMPONENT-680;aCOMPONENT-681;aCOMPONENT-682;aCOMPONENT-683
18AAB aCOMPONENT-684;aCOMPONENT-685;aCOMPONENT-686;aCOMPONENT-687;aCOMPONENT-688;aCOMPONENT-689
18AB1 aCOMPONENT-690;aCOMPONENT-691;aCOMPONENT-692;aCOMPONENT-693;aCOMPONENT-694;aCOMPONENT-695
18AB7 aCOMPONENT-696;aCOMPONENT-697;aCOMPONENT-698;aCOMPONENT-699;aCOMPONENT-700;aCOMPONENT-701
18ABD aCOMPONENT-702;aCOMPONENT-703;aCOMPONENT-704;aCOMPONENT-705;aCOMPONENT-706;aCOMPONENT-707
18AC3 aCOMPONENT-708;aCOMPONENT-709;aCOMPONENT-710;aCOMPONENT-711;aCOMPONENT-712;aCOMPONENT-713
18AC9 aCOMPONENT-714;aCOMPONENT-715;aCOMPONENT-716;aCOMPONENT-717;aCOMPONENT-718;aCOMPONENT-719
18ACF aCOMPONENT-720;aCOMPONENT-721;aCOMPONENT-722;aCOMPONENT-723;aCOMPONENT-724;aCOMPONENT-725
18AD5 aCOMPONENT-726;aCOMPONENT-727;aCOMPONENT-728;aCOMPONENT-729;aCOMPONENT-730;aCOMPONENT-731
18ADB aCOMPONENT-732;aCOMPONENT-733;aCOMPONENT-734;aCOMPONENT-735;aCOMPONENT-736;aCOMPONENT-737
18AE1 aCOMPONENT-738;aCOMPONENT-739;aCOMPONENT-740;aCOMPONENT-741;aCOMPONENT-742;aCOMPONENT-743
18AE7 aCOMPONENT-744;aCOMPONENT-745;aCOMPONENT-746;aCOMPONENT-747;aCOMPONENT-748;aCOMPONENT-749
18AED aCOMPONENT-750;aCOMPONENT-751;aCOMPONENT-752;aCOMPONENT-753;aCOMPONENT-754;aCOMPONENT-755
18AF3 aCOMPONENT-756;aCOMPONENT-757;aCOMPONENT-758;aCOMPONENT-759;aCOMPONENT-760;aCOMPONENT-761
18AF9 aCOMPONENT-762;aCOMPONENT-763;aCOMPONENT-764;aCOMPONENT-765;aCOMPONENT-766;aCOMPONENT-767
18AFF aCOMPONENT-768
1AFF0 KATAKANA LETTER MINNAN TONE-2;cTONE-3;cTONE-4;cTONE-5
1AFF5 cTONE-7;cTONE-8;cNASALIZED TONE-1;dTONE-2;dTONE-3;dTONE-4;dTONE-5
1AFFD dTONE-7;dTONE-8
1B000 bARCHAIC E;HIRAGANA LETTER ARCHAIC YE;HENTAIGANA LETTER A-1;bA-2;bA-3;bA-WO;bI-1;bI-2;bI-3
1B009 bI-4;bU-1;bU-2;bU-3;bU-4;bU-5;bE-2;bE-3;bE-4;bE-5;bE-6;bO-1;bO-2;bO-3;bKA-1;bKA-2;bKA-3
1B01A bKA-4;bKA-5;bKA-6;bKA-7;bKA-8;bKA-9;bKA-10;bKA-11;bKA-KE;bKI-1;bKI-2;bKI-3;bKI-4;bKI-5;bKI-6
1B029 bKI-7;bKI-8;bKU-1;bKU-2;bKU-3;bKU-4;bKU-5;bKU-6;bKU-7;bKE-1;bKE-2;bKE-3;bKE-4;bKE-5;bKE-6
1B038 bKO-1;bKO-2;bKO-3;bKO-KI;bSA-1;bSA-2;bSA-3;bSA-4;bSA-5;bSA-6;bSA-7;bSA-8;bSI-1;bSI-2;bSI-3
1B047 bSI-4;bSI-5;bSI-6;bSU-1;bSU-2;bSU-3;bSU-4;bSU-5;bSU-6;bSU-7;bSU-8;bSE-1;bSE-2;bSE-3;bSE-4
1B056 bSE-5;bSO-1;bSO-2;bSO-3;bSO-4;bSO-5;bSO-6;bSO-7;bTA-1;bTA-2;bTA-3;bTA-4;bTI-1;bTI-2;bTI-3
1B065 bTI-4;bTI-5;bTI-6;bTI-7;bTU-1;bTU-2;bTU-3;bTU-4;bTU-TO;bTE-1;bTE-2;bTE-3;bTE-4;bTE-5;bTE-6
1B074 bTE-7;bTE-8;bTE-9;bTO-1;bTO-2;bTO-3;bTO-4;bTO-5;bTO-6;bTO-RA;bNA-1;bNA-2;bNA-3;bNA-4;bNA-5
1B083 bNA-6;bNA-7;bNA-8;bNA-9;bNI-1;bNI-2;bNI-3;bNI-4;bNI-5;bNI-6;bNI-7;bNI-TE;bNU-1;bNU-2;bNU-3
1B092 bNE-1;bNE-2;bNE-3;bNE-4;bNE-5;bNE-6;bNE-KO;bNO-1;bNO-2;bNO-3;bNO-4;bNO-5;bHA-1;bHA-2;bHA-3
1B0A1 bHA-4;bHA-5;bHA-6;bHA-7;bHA-8;bHA-9;bHA-10;bHA-11;bHI-1;bHI-2;bHI-3;bHI-4;bHI-5;bHI-6;bHI-7
1B0B0 bHU-1;bHU-2;bHU-3;bHE-1;bHE-2;bHE-3;bHE-4;bHE-5;bHE-6;bHE-7;bHO-1;bHO-2;bHO-3;bHO-4;bHO-5
1B0BF bHO-6;bHO-7;bHO-8;bMA-1;bMA-2;bMA-3;bMA-4;bMA-5;bMA-6;bMA-7;bMI-1;bMI-2;bMI-3;bMI-4;bMI-5
1B0CE bMI-6;bMI-7;bMU-1;bMU-2;bMU-3;bMU-4;bME-1;bME-2;bME-MA;bMO-1;bMO-2;bMO-3;bMO-4;bMO-5;bMO-6
1B0DD bYA-1;bYA-2;bYA-3;bYA-4;bYA-5;bYA-YO;bYU-1;bYU-2;bYU-3;bYU-4;bYO-1;bYO-2;bYO-3;bYO-4;bYO-5
1B0EC bYO-6;bRA-1;bRA-2;bRA-3;bRA-4;bRI-1;bRI-2;bRI-3;bRI-4;bRI-5;bRI-6;bRI-7;bRU-1;bRU-2;bRU-3
1B0FB bRU-4;bRU-5;bRU-6;bRE-1;bRE-2;bRE-3;bRE-4;bRO-1;bRO-2;bRO-3;bRO-4;bRO-5;bRO-6;bWA-1;bWA-2
1B10A bWA-3;bWA-4;bWA-5;bWI-1;bWI-2;bWI-3;bWI-4;bWI-5;bWE-1;bWE-2;bWE-3;bWE-4;bWO-1;bWO-2;bWO-3
1B119 bWO-4;bWO-5;bWO-6;bWO-7;bN-MU-MO-1;bN-MU-MO-2;HIRAGANA LETTER ARCHAIC WU
1B120 KATAKANA LETTER ARCHAIC YI;cYE;cWU
1B150 HIRAGANA LETTER SMALL WI;cWE;cWO
1B164 KATAKANA LETTER SMALL WI;cWE;cWO;cN
1BC00 DUPLOYAN LETTER H;bX;bP;bT;bF;bK;bL;bB;bD;bV;bG;bR;bP N;bD S;bF N;bK M;bR S;bTH;bSLOAN DH
1BC13 bDH;bKK;bSLOAN J;bHL;bLH;bRH;bM;bN;bJ;bS;bM N;bN M;bJ M;bS J;bM WITH DOT;bN WITH DOT
1BC23 bJ WITH DOT;dDOTS INSIDE AND ABOVE;bS WITH DOT;eBELOW;bM S;bN S;bJ S;bS S;bM N S;bN M S
1BC2D bJ M S;bS J S;bJ S WITH DOT;cN;dS;bS T;dR;cP;dR;bT S;cR S;bW;bWH;bW R;bS N;cM;bK R S;bG R S
1BC3F bS K;dR;bA;bSLOAN OW;bOA;bO;bAOU;bI;bE;bIE;bSHORT I;bUI;bEE;bSLOAN EH;bROMANIAN I;bSLOAN EE
1BC4F bLONG I;bYE;bU;bEU;bXW;bU N;bLONG U;bROMANIAN U;bUH;bSLOAN U;bOOH;bOW;bOU;bWA;bWO;bWI;bWEI
1BC60 bWOW;bNASAL U;cO;cI;cA;bPERNIN AN;cAM;bSLOAN EN;cAN;cON;bVOCALIC M
1BC70 aAFFIX LEFT HORIZONTAL SECANT;bMID HORIZONTAL SECANT;bRIGHT HORIZONTAL SECANT
1BC73 bLOW VERTICAL SECANT;bMID VERTICAL SECANT;bHIGH VERTICAL SECANT;bATTACHED SECANT
1BC77 cLEFT-TO-RIGHT SECANT;cTANGENT;cTAIL;cE HOOK;cI HOOK;cTANGENT HOOK
1BC80 bHIGH ACUTE;cTIGHT ACUTE;cGRAVE;cLONG GRAVE;cDOT;cCIRCLE;cLINE;cWAVE;cVERTICAL
1BC90 bLOW ACUTE;cTIGHT ACUTE;cGRAVE;cLONG GRAVE;cDOT;cCIRCLE;cLINE;cWAVE;cVERTICAL;cARROW
1BC9C aSIGN O WITH CROSS;aTHICK LETTER SELECTOR;aDOUBLE MARK;aPUNCTUATION CHINOOK FULL STOP
1BCA0 SHORTHAND FORMAT LETTER OVERLAP;bCONTINUING OVERLAP;bDOWN STEP;bUP STEP
1CF00 ZNAMENNY COMBINING MARK GORAZDO NIZKO S KRYZHEM ON LEFT;cNIZKO S KRYZHEM ON LEFT
1CF02 cTSATA ON LEFT;cGORAZDO NIZKO ON LEFT;cNIZKO ON LEFT;cSREDNE ON LEFT;cMALO POVYSHE ON LEFT
1CF07 cPOVYSHE ON LEFT;cVYSOKO ON LEFT;cMALO POVYSHE S KHOKHLOM ON LEFT
1CF0A cPOVYSHE S KHOKHLOM ON LEFT;cVYSOKO S KHOKHLOM ON LEFT;cGORAZDO NIZKO S KRYZHEM ON RIGHT
1CF0D cNIZKO S KRYZHEM ON RIGHT;cTSATA ON RIGHT;cGORAZDO NIZKO ON RIGHT;cNIZKO ON RIGHT
1CF11 cSREDNE ON RIGHT;cMALO POVYSHE ON RIGHT;cPOVYSHE ON RIGHT;cVYSOKO ON RIGHT
1CF15 cMALO POVYSHE S KHOKHLOM ON RIGHT;cPOVYSHE S KHOKHLOM ON RIGHT;cVYSOKO S KHOKHLOM ON RIGHT
1CF18 cTSATA S KRYZHEM;cMALO POVYSHE S KRYZHEM;cSTRANNO MALO POVYSHE;cPOVYSHE S KRYZHEM;dSTRANNO
1CF1D cVYSOKO S KRYZHEM;cMALO POVYSHE STRANNO;cGORAZDO VYSOKO;cZELO;cON;cRAVNO;cTIKHAYA;cBORZAYA
1CF25 cUDARKA;cPODVERTKA;cLOMKA;cKUPNAYA;cKACHKA;cZEVOK;cSKOBA;cRAZSEKA;cKRYZH ON LEFT
1CF30 bTONAL RANGE MARK MRACHNO;eSVETLO;eTRESVETLO;bMARK ZADERZHKA;cDEMESTVENNY ZADERZHKA
1CF35 cOTSECHKA;cPODCHASHIE;dWITH VERTICAL STROKE;cCHASHKA;dPOLNAYA;cOBLACHKO;cSOROCHYA NOZHKA
1CF3C cTOCHKA;cDVOETOCHIE;bATTACHING VERTICAL OMET;bMARK CURVED OMET;cKRYZH
1CF41 bLOWER TONAL RANGE INDICATOR;aPRIZNAK MODIFIER LEVEL-2;cLEVEL-3;cDIRECTION FLIP;cKRYZH;cROG
1CF50 aNEUME KRYUK;cTIKHY;bPARAKLIT;bDVA V CHELNU;bKLYUCH;bZANOZHEK;bSTOPITSA;cS OCHKOM;bPEREVODKA
1CF59 cNEPOSTOYANNAYA;bSTOPITSA WITH SOROCHYA NOZHKA;bCHELYUSTKA;bPALKA;bZAPYATAYA
1CF5E bGOLUBCHIK BORZY;cTIKHY;cMRACHNY;cSVETLY;cTRESVETLY;bVRAKHIYA PROSTAYA;cMRACHNAYA;cSVETLAYA
1CF66 cTRESVETLAYA;cKLYUCHEVAYA PROSTAYA;dMRACHNAYA;dSVETLAYA;dTRESVETLAYA;bDOUBLE ZAPYATAYA
1CF6C bREVERSED CHELYUSTKA;bDERBITSA;bKHAMILO;bCHASHKA;bPODCHASHIE;bSKAMEYTSA MRACHNAYA;cSVETLAYA
1CF73 cTRESVETLAYA;cTIKHAYA;bDEMESTVENNY KLYUCH;bSKAMEYTSA KLYUCHEVAYA SVETLAYA
1CF77 cKLYUCHENEPOSTOYANNAYA;cKLYUCHEVAYA TIKHAYA;cDVOECHELNAYA PROSTAYA;dSVETLAYA;dNEPOSTOYANNAYA
1CF7C dKLYUCHEVAYA;bSLOZHITIE;cS ZAPYATOY;cZAKRYTOE;cS KRYZHEM;bKRYZH;bROG;bFITA;bKOBYLA;bZMEYTSA
1CF86 bSTATYA;cS ZAPYATOY;dKRYZHEM;dZAPYATOY I KRYZHEM;dKRYZHEM I ZAPYATOY;cZAKRYTAYA;dS ZAPYATOY
1CF8D cS ROGOM;dDVUMYA ZAPYATYMI;dZAPYATOY I PODCHASHIEM;bPOLKULIZMY;bSTATYA NEPOSTOYANNAYA
1CF92 bSTRELA PROSTAYA;cMRACHNOTIKHAYA;cKRYZHEVAYA;cPOLUPOVODNAYA;cPOVODNAYA;cNEPOSTOYANNAYA
1CF98 cKLYUCHEPOVODNAYA;cKLYUCHENEPOSTOYANNAYA;cTIKHAYA PUTNAYA;cDVOECHELNAYA
1CF9C cDVOECHELNOKRYZHEVAYA;cDVOECHELNOPOVODNAYA;cDVOECHELNAYA KLYUCHEVAYA
1CF9F cDVOECHELNOPOVODNAYA KLYUCHEVAYA;cGROMNAYA WITH SINGLE ZAPYATAYA
1CFA1 cGROMOPOVODNAYA WITH SINGLE ZAPYATAYA;cGROMNAYA;cGROMOPOVODNAYA;dWITH DOUBLE ZAPYATAYA
1CFA5 cGROMOKRYZHEVAYA;dPOVODNAYA;bMECHIK;cPOVODNY;cKLYUCHEVOY;cKLYUCHEPOVODNY
1CFAB cKLYUCHENEPOSTOYANNY;bSTRELA TRYASOGLASNAYA;cTRYASOPOVODNAYA;cTRYASOSTRELNAYA;bOSOKA
1CFB0 cSVETLAYA;cTRESVETLAYA;cKRYUKOVAYA SVETLAYA;cKLYUCHEVAYA SVETLAYA;dNEPOSTOYANNAYA
1CFB5 bSTRELA KRYUKOVAYA;dPOVODNAYA;dGROMNAYA WITH SINGLE ZAPYATAYA
1CFB8 dGROMOPOVODNAYA WITH SINGLE ZAPYATAYA;dGROMNAYA;dGROMOPOVODNAYA;eWITH DOUBLE ZAPYATAYA
1CFBC dGROMOKRYZHEVAYA;ePOVODNAYA;dTRYASKA;bKUFISMA;bOBLAKO;bDUDA;bNEMKA;bPAUK"

end Stencil.CharacterName
