/-! # Names of code points: the scripts of Asia, of Africa and of the Americas

The lines are those of tables of names (`Stencil.NameTable`).
-/

namespace Stencil.CharacterName

/-- The names of the scripts of eastern Asia, of Africa and of the Americas. -/
def eastAsia : String :=
"E01 THAI CHARACTER KO KAI;bKHO KHAI;cKHUAT;cKHWAI;cKHON;cRAKHANG;bNGO NGU;bCHO CHAN;cCHING;cCHANG
E0B bSO SO;bCHO CHOE;bYO YING;bDO CHADA;bTO PATAK;bTHO THAN;cNANGMONTHO;cPHUTHAO;bNO NEN;bDO DEK
E15 bTO TAO;bTHO THUNG;cTHAHAN;cTHONG;bNO NU;bBO BAIMAI;bPO PLA;bPHO PHUNG;bFO FA;bPHO PHAN
E1F bFO FAN;bPHO SAMPHAO;bMO MA;bYO YAK;bRO RUA;bRU;bLO LING;bLU;bWO WAEN;bSO SALA;cRUSI;cSUA
E2B bHO HIP;bLO CHULA;bO ANG;bHO NOKHUK;bPAIYANNOI;bSARA A;bMAI HAN-AKAT;bSARA AA;cAM;cI;cII;cUE
E37 cUEE;cU;cUU;bPHINTHU
E3F aCURRENCY SYMBOL BAHT;aCHARACTER SARA E;cAE;cO;cAI MAIMUAN;dMAIMALAI;bLAKKHANGYAO;bMAIYAMOK
E47 bMAITAIKHU;bMAI EK;cTHO;cTRI;cCHATTAWA;bTHANTHAKHAT;bNIKHAHIT;bYAMAKKAN;bFONGMAN;aDIGIT ZERO
E51 bONE;bTWO;bTHREE;bFOUR;bFIVE;bSIX;bSEVEN;bEIGHT;bNINE;aCHARACTER ANGKHANKHU;bKHOMUT
E81 LAO LETTER KO;bKHO SUNG
E84 cTAM
E86 bPALI GHA;bNGO;bCO;bPALI CHA;bSO TAM
E8C bPALI JHA;bNYO;bPALI NYA;cTTA;cTTHA;cDDA;cDDHA;cNNA;bDO;bTO;bTHO SUNG;cTAM;bPALI DHA;bNO;bBO
E9B bPO;bPHO SUNG;bFO TAM;bPHO TAM;bFO SUNG;bPALI BHA;bMO;bYO;bLO LING
EA5 cLOOT
EA7 bWO;bSANSKRIT SHA;cSSA;bSO SUNG;bHO SUNG;bPALI LLA;bO;bHO TAM;aELLIPSIS;aVOWEL SIGN A;cMAI KAN
EB2 cAA;cAM;cI;cII;cY;cYY;cU;cUU;aSIGN PALI VIRAMA;aVOWEL SIGN MAI KON;aSEMIVOWEL SIGN LO;cNYO
EC0 aVOWEL SIGN E;cEI;cO;cAY;cAI
EC6 aKO LA
EC8 aTONE MAI EK;cTHO;cTI;cCATAWA;aCANCELLATION MARK;aNIGGAHITA
ED0 aDIGIT ZERO;bONE;bTWO;bTHREE;bFOUR;bFIVE;bSIX;bSEVEN;bEIGHT;bNINE
EDC aHO NO;bMO;aLETTER KHMU GO;cNYO
F00 TIBETAN SYLLABLE OM;aMARK GTER YIG MGO TRUNCATED A;e-UM RNAM BCAD MA;fGTER TSHEG MA
F04 bINITIAL YIG MGO MDUN MA;bCLOSING YIG MGO SGAB MA;bCARET YIG MGO PHUR SHAD MA
F07 bYIG MGO TSHEG SHAD MA;bSBRUL SHAD;bBSKUR YIG MGO;bBKA- SHOG YIG MGO;bINTERSYLLABIC TSHEG
F0C bDELIMITER TSHEG BSTAR;bSHAD;bNYIS SHAD;bTSHEG SHAD;bNYIS TSHEG SHAD;bRIN CHEN SPUNGS SHAD
F12 bRGYA GRAM SHAD;bCARET -DZUD RTAGS ME LONG CAN;bGTER TSHEG;aLOGOTYPE SIGN CHAD RTAGS
F16 cLHAG RTAGS;aASTROLOGICAL SIGN SGRA GCAN -CHAR RTAGS;c-KHYUD PA;cSDONG TSHUGS
F1A aSIGN RDEL DKAR GCIG;dGNYIS;dGSUM;cNAG GCIG;dGNYIS;cDKAR RDEL NAG;aDIGIT ZERO;bONE;bTWO;bTHREE
F24 bFOUR;bFIVE;bSIX;bSEVEN;bEIGHT;bNINE;bHALF ONE;cTWO;cTHREE;cFOUR;cFIVE;cSIX;cSEVEN;cEIGHT
F32 cNINE;cZERO;aMARK BSDUS RTAGS;bNGAS BZUNG NYI ZLA;bCARET -DZUD RTAGS BZHI MIG CAN
F37 bNGAS BZUNG SGOR RTAGS;bCHE MGO;bTSA -PHRU;bGUG RTAGS GYON;dGYAS;bANG KHANG GYON;dGYAS
F3E aSIGN YAR TSHES;bMAR TSHES;aLETTER KA;bKHA;bGA;bGHA;bNGA;bCA;bCHA;bJA
F49 bNYA;bTTA;bTTHA;bDDA;bDDHA;bNNA;bTA;bTHA;bDA;bDHA;bNA;bPA;bPHA;bBA;bBHA;bMA;bTSA;bTSHA;bDZA
F5C bDZHA;bWA;bZHA;bZA;b-A;bYA;bRA;bLA;bSHA;bSSA;bSA;bHA;bA;bKSSA;bFIXED-FORM RA;bKKA;bRRA
F71 aVOWEL SIGN AA;cI;cII;cU;cUU;cVOCALIC R;dRR;dL;dLL;cE;cEE;cO;cOO;aSIGN RJES SU NGA RO
F7F bRNAM BCAD;aVOWEL SIGN REVERSED I;dII;aSIGN NYI ZLA NAA DA;bSNA LDAN;aMARK HALANTA;bPALUTA
F86 aSIGN LCI RTAGS;bYANG RTAGS;bLCE TSA CAN;bMCHU CAN;bGRU CAN RGYINGS;cMED RGYINGS
F8C bINVERTED MCHU CAN;aSUBJOINED SIGN LCE TSA CAN;cMCHU CAN;cINVERTED MCHU CAN;bLETTER KA;cKHA
F92 cGA;cGHA;cNGA;cCA;cCHA;cJA
F99 cNYA;cTTA;cTTHA;cDDA;cDDHA;cNNA;cTA;cTHA;cDA;cDHA;cNA;cPA;cPHA;cBA;cBHA;cMA;cTSA;cTSHA;cDZA
FAC cDZHA;cWA;cZHA;cZA;c-A;cYA;cRA;cLA;cSHA;cSSA;cSA;cHA;cA;cKSSA;cFIXED-FORM WA;dYA;dRA
FBE aKU RU KHA;dBZHI MIG CAN;aCANTILLATION SIGN HEAVY BEAT;cLIGHT BEAT;cCANG TE-U;cSBUB -CHAL
FC4 aSYMBOL DRIL BU;bRDO RJE;bPADMA GDAN;bRDO RJE RGYA GRAM;bPHUR PA;bNOR BU;dNYIS -KHYIL
FCB dGSUM -KHYIL;dBZHI -KHYIL
FCE aSIGN RDEL NAG RDEL DKAR;dGSUM;aMARK BSKA- SHOG GI MGO RGYAN;bMNYAM YIG GI MGO RGYAN
FD2 bNYIS TSHEG;bINITIAL BRDA RNYING YIG MGO MDUN MA;bCLOSING BRDA RNYING YIG MGO SGAB MA
FD5 RIGHT-FACING SVASTI SIGN;LEFT-FACING SVASTI SIGN;RIGHT-FACING SVASTI SIGN WITH DOTS
FD8 LEFT-FACING SVASTI SIGN WITH DOTS;TIBETAN MARK LEADING MCHAN RTAGS;bTRAILING MCHAN RTAGS
1000 MYANMAR LETTER KA;bKHA;bGA;bGHA;bNGA;bCA;bCHA;bJA;bJHA;bNYA;bNNYA;bTTA;bTTHA;bDDA;bDDHA;bNNA
1010 bTA;bTHA;bDA;bDHA;bNA;bPA;bPHA;bBA;bBHA;bMA;bYA;bRA;bLA;bWA;bSA;bHA;bLLA;bA;bSHAN A;bI;bII;bU
1026 bUU;bE;bMON E;bO;bAU;aVOWEL SIGN TALL AA;cAA;cI;cII;cU;cUU;cE;cAI;cMON II;dO;cE ABOVE
1036 aSIGN ANUSVARA;bDOT BELOW;bVISARGA;bVIRAMA;bASAT;aCONSONANT SIGN MEDIAL YA;dRA;dWA;dHA
103F aLETTER GREAT SA;aDIGIT ZERO;bONE;bTWO;bTHREE;bFOUR;bFIVE;bSIX;bSEVEN;bEIGHT;bNINE
104A aSIGN LITTLE SECTION;bSECTION;aSYMBOL LOCATIVE;bCOMPLETED;bAFOREMENTIONED;bGENITIVE
1050 aLETTER SHA;bSSA;bVOCALIC R;cRR;cL;cLL;aVOWEL SIGN VOCALIC R;dRR;dL;dLL;aLETTER MON NGA;cJHA
105C cBBA;cBBE;aCONSONANT SIGN MON MEDIAL NA;eMA;eLA;aLETTER SGAW KAREN SHA
1062 aVOWEL SIGN SGAW KAREN EU;aTONE MARK SGAW KAREN HATHI;eKE PHO;aLETTER WESTERN PWO KAREN THA
1066 ePWA;aVOWEL SIGN WESTERN PWO KAREN EU;fUE;aSIGN WESTERN PWO KAREN TONE-1;eTONE-2;eTONE-3
106C eTONE-4;eTONE-5;aLETTER EASTERN PWO KAREN NNA;eYWA;eGHWA;aVOWEL SIGN GEBA KAREN I;cKAYAH OE
1073 dU;dEE;aLETTER SHAN KA;cKHA;cGA;cCA;cZA;cNYA;cDA;cNA;cPHA;cFA;cBA;cTHA;cHA
1082 aCONSONANT SIGN SHAN MEDIAL WA;aVOWEL SIGN SHAN AA;dE;eABOVE;dFINAL Y;aSIGN SHAN TONE-2
1088 cTONE-3;cTONE-5;cTONE-6;cCOUNCIL TONE-2;dTONE-3;dEMPHATIC TONE;aLETTER RUMAI PALAUNG FA
108F aSIGN RUMAI PALAUNG TONE-5;aSHAN DIGIT ZERO;cONE;cTWO;cTHREE;cFOUR;cFIVE;cSIX;cSEVEN;cEIGHT
1099 cNINE;aSIGN KHAMTI TONE-1;cTONE-3;aVOWEL SIGN AITON A;dAI;aSYMBOL SHAN ONE;cEXCLAMATION
10A0 GEORGIAN CAPITAL LETTER AN;cBAN;cGAN;cDON;cEN;cVIN;cZEN;cTAN;cIN;cKAN;cLAS;cMAN;cNAR;cON;cPAR
10AF cZHAR;cRAE;cSAN;cTAR;cUN;cPHAR;cKHAR;cGHAN;cQAR;cSHIN;cCHIN;cCAN;cJIL;cCIL;cCHAR;cXAN;cJHAN
10C0 cHAE;cHE;cHIE;cWE;cHAR;cHOE
10C7 cYN
10CD cAEN
10D0 aLETTER AN;bBAN;bGAN;bDON;bEN;bVIN;bZEN;bTAN;bIN;bKAN;bLAS;bMAN;bNAR;bON;bPAR;bZHAR;bRAE;bSAN
10E2 bTAR;bUN;bPHAR;bKHAR;bGHAN;bQAR;bSHIN;bCHIN;bCAN;bJIL;bCIL;bCHAR;bXAN;bJHAN;bHAE;bHE;bHIE;bWE
10F4 bHAR;bHOE;bFI;bYN;bELIFI;bTURNED GAN;bAIN;aPARAGRAPH SEPARATOR;MODIFIER LETTER GEORGIAN NAR
10FD GEORGIAN LETTER AEN;bHARD SIGN;bLABIAL SIGN;HANGUL CHOSEONG KIYEOK;bSSANGKIYEOK;bNIEUN
1103 bTIKEUT;bSSANGTIKEUT;bRIEUL;bMIEUM;bPIEUP;bSSANGPIEUP;bSIOS;bSSANGSIOS;bIEUNG;bCIEUC
110D bSSANGCIEUC;bCHIEUCH;bKHIEUKH;bTHIEUTH;bPHIEUPH;bHIEUH;bNIEUN-KIYEOK;bSSANGNIEUN
1115 bNIEUN-TIKEUT;bNIEUN-PIEUP;bTIKEUT-KIYEOK;bRIEUL-NIEUN;bSSANGRIEUL;bRIEUL-HIEUH
111B bKAPYEOUNRIEUL;bMIEUM-PIEUP;bKAPYEOUNMIEUM;bPIEUP-KIYEOK;bPIEUP-NIEUN;bPIEUP-TIKEUT
1121 bPIEUP-SIOS;bPIEUP-SIOS-KIYEOK;bPIEUP-SIOS-TIKEUT;bPIEUP-SIOS-PIEUP;bPIEUP-SSANGSIOS
1126 bPIEUP-SIOS-CIEUC;bPIEUP-CIEUC;bPIEUP-CHIEUCH;bPIEUP-THIEUTH;bPIEUP-PHIEUPH;bKAPYEOUNPIEUP
112C bKAPYEOUNSSANGPIEUP;bSIOS-KIYEOK;bSIOS-NIEUN;bSIOS-TIKEUT;bSIOS-RIEUL;bSIOS-MIEUM;bSIOS-PIEUP
1133 bSIOS-PIEUP-KIYEOK;bSIOS-SSANGSIOS;bSIOS-IEUNG;bSIOS-CIEUC;bSIOS-CHIEUCH;bSIOS-KHIEUKH
1139 bSIOS-THIEUTH;bSIOS-PHIEUPH;bSIOS-HIEUH;bCHITUEUMSIOS;bCHITUEUMSSANGSIOS;bCEONGCHIEUMSIOS
113F bCEONGCHIEUMSSANGSIOS;bPANSIOS;bIEUNG-KIYEOK;bIEUNG-TIKEUT;bIEUNG-MIEUM;bIEUNG-PIEUP
1145 bIEUNG-SIOS;bIEUNG-PANSIOS;bSSANGIEUNG;bIEUNG-CIEUC;bIEUNG-CHIEUCH;bIEUNG-THIEUTH
114B bIEUNG-PHIEUPH;bYESIEUNG;bCIEUC-IEUNG;bCHITUEUMCIEUC;bCHITUEUMSSANGCIEUC;bCEONGCHIEUMCIEUC
1151 bCEONGCHIEUMSSANGCIEUC;bCHIEUCH-KHIEUKH;bCHIEUCH-HIEUH;bCHITUEUMCHIEUCH;bCEONGCHIEUMCHIEUCH
1156 bPHIEUPH-PIEUP;bKAPYEOUNPHIEUPH;bSSANGHIEUH;bYEORINHIEUH;bKIYEOK-TIKEUT;bNIEUN-SIOS
115C bNIEUN-CIEUC;bNIEUN-HIEUH;bTIKEUT-RIEUL;bFILLER;aJUNGSEONG FILLER;bA;bAE;bYA;bYAE;bEO;bE;bYEO
1168 bYE;bO;bWA;bWAE;bOE;bYO;bU;bWEO;bWE;bWI;bYU;bEU;bYI;bI;bA-O;bA-U;bYA-O;bYA-YO;bEO-O;bEO-U
117C bEO-EU;bYEO-O;bYEO-U;bO-EO;bO-E;bO-YE;bO-O;bO-U;bYO-YA;bYO-YAE;bYO-YEO;bYO-O;bYO-I;bU-A;bU-AE
118B bU-EO-EU;bU-YE;bU-U;bYU-A;bYU-EO;bYU-E;bYU-YEO;bYU-YE;bYU-U;bYU-I;bEU-U;bEU-EU;bYI-U;bI-A
1199 bI-YA;bI-O;bI-U;bI-EU;bI-ARAEA;bARAEA;bARAEA-EO;bARAEA-U;bARAEA-I;bSSANGARAEA;bA-EU;bYA-U
11A5 bYEO-YA;bO-YA;bO-YAE;aJONGSEONG KIYEOK;bSSANGKIYEOK;bKIYEOK-SIOS;bNIEUN;bNIEUN-CIEUC
11AD bNIEUN-HIEUH;bTIKEUT;bRIEUL;bRIEUL-KIYEOK;bRIEUL-MIEUM;bRIEUL-PIEUP;bRIEUL-SIOS
11B4 bRIEUL-THIEUTH;bRIEUL-PHIEUPH;bRIEUL-HIEUH;bMIEUM;bPIEUP;bPIEUP-SIOS;bSIOS;bSSANGSIOS;bIEUNG
11BD bCIEUC;bCHIEUCH;bKHIEUKH;bTHIEUTH;bPHIEUPH;bHIEUH;bKIYEOK-RIEUL;bKIYEOK-SIOS-KIYEOK
11C5 bNIEUN-KIYEOK;bNIEUN-TIKEUT;bNIEUN-SIOS;bNIEUN-PANSIOS;bNIEUN-THIEUTH;bTIKEUT-KIYEOK
11CB bTIKEUT-RIEUL;bRIEUL-KIYEOK-SIOS;bRIEUL-NIEUN;bRIEUL-TIKEUT;bRIEUL-TIKEUT-HIEUH;bSSANGRIEUL
11D1 bRIEUL-MIEUM-KIYEOK;bRIEUL-MIEUM-SIOS;bRIEUL-PIEUP-SIOS;bRIEUL-PIEUP-HIEUH
11D5 bRIEUL-KAPYEOUNPIEUP;bRIEUL-SSANGSIOS;bRIEUL-PANSIOS;bRIEUL-KHIEUKH;bRIEUL-YEORINHIEUH
11DA bMIEUM-KIYEOK;bMIEUM-RIEUL;bMIEUM-PIEUP;bMIEUM-SIOS;bMIEUM-SSANGSIOS;bMIEUM-PANSIOS
11E0 bMIEUM-CHIEUCH;bMIEUM-HIEUH;bKAPYEOUNMIEUM;bPIEUP-RIEUL;bPIEUP-PHIEUPH;bPIEUP-HIEUH
11E6 bKAPYEOUNPIEUP;bSIOS-KIYEOK;bSIOS-TIKEUT;bSIOS-RIEUL;bSIOS-PIEUP;bPANSIOS;bIEUNG-KIYEOK
11ED bIEUNG-SSANGKIYEOK;bSSANGIEUNG;bIEUNG-KHIEUKH;bYESIEUNG;bYESIEUNG-SIOS;bYESIEUNG-PANSIOS
11F3 bPHIEUPH-PIEUP;bKAPYEOUNPHIEUPH;bHIEUH-NIEUN;bHIEUH-RIEUL;bHIEUH-MIEUM;bHIEUH-PIEUP
11F9 bYEORINHIEUH;bKIYEOK-NIEUN;bKIYEOK-PIEUP;bKIYEOK-CHIEUCH;bKIYEOK-KHIEUKH;bKIYEOK-HIEUH
11FF bSSANGNIEUN;ETHIOPIC SYLLABLE HA;bHU;bHI;bHAA;bHEE;bHE;bHO;bHOA;bLA;bLU;bLI;bLAA;bLEE;bLE;bLO
120F bLWA;bHHA;bHHU;bHHI;bHHAA;bHHEE;bHHE;bHHO;bHHWA;bMA;bMU;bMI;bMAA;bMEE;bME;bMO;bMWA;bSZA;bSZU
1222 bSZI;bSZAA;bSZEE;bSZE;bSZO;bSZWA;bRA;bRU;bRI;bRAA;bREE;bRE;bRO;bRWA;bSA;bSU;bSI;bSAA;bSEE;bSE
1236 bSO;bSWA;bSHA;bSHU;bSHI;bSHAA;bSHEE;bSHE;bSHO;bSHWA;bQA;bQU;bQI;bQAA;bQEE;bQE;bQO;bQOA;bQWA
124A bQWI;bQWAA;bQWEE;bQWE
1250 bQHA;bQHU;bQHI;bQHAA;bQHEE;bQHE;bQHO
1258 bQHWA
125A bQHWI;bQHWAA;bQHWEE;bQHWE
1260 bBA;bBU;bBI;bBAA;bBEE;bBE;bBO;bBWA;bVA;bVU;bVI;bVAA;bVEE;bVE;bVO;bVWA;bTA;bTU;bTI;bTAA;bTEE
1275 bTE;bTO;bTWA;bCA;bCU;bCI;bCAA;bCEE;bCE;bCO;bCWA;bXA;bXU;bXI;bXAA;bXEE;bXE;bXO;bXOA;bXWA
128A bXWI;bXWAA;bXWEE;bXWE
1290 bNA;bNU;bNI;bNAA;bNEE;bNE;bNO;bNWA;bNYA;bNYU;bNYI;bNYAA;bNYEE;bNYE;bNYO;bNYWA;bGLOTTAL A;cU
12A2 cI;cAA;cEE;cE;cO;cWA;bKA;bKU;bKI;bKAA;bKEE;bKE;bKO;bKOA;bKWA
12B2 bKWI;bKWAA;bKWEE;bKWE
12B8 bKXA;bKXU;bKXI;bKXAA;bKXEE;bKXE;bKXO
12C0 bKXWA
12C2 bKXWI;bKXWAA;bKXWEE;bKXWE
12C8 bWA;bWU;bWI;bWAA;bWEE;bWE;bWO;bWOA;bPHARYNGEAL A;cU;cI;cAA;cEE;cE;cO
12D8 bZA;bZU;bZI;bZAA;bZEE;bZE;bZO;bZWA;bZHA;bZHU;bZHI;bZHAA;bZHEE;bZHE;bZHO;bZHWA;bYA;bYU;bYI
12EB bYAA;bYEE;bYE;bYO;bYOA;bDA;bDU;bDI;bDAA;bDEE;bDE;bDO;bDWA;bDDA;bDDU;bDDI;bDDAA;bDDEE;bDDE
12FE bDDO;bDDWA;bJA;bJU;bJI;bJAA;bJEE;bJE;bJO;bJWA;bGA;bGU;bGI;bGAA;bGEE;bGE;bGO;bGOA;bGWA
1312 bGWI;bGWAA;bGWEE;bGWE
1318 bGGA;bGGU;bGGI;bGGAA;bGGEE;bGGE;bGGO;bGGWAA;bTHA;bTHU;bTHI;bTHAA;bTHEE;bTHE;bTHO;bTHWA;bCHA
1329 bCHU;bCHI;bCHAA;bCHEE;bCHE;bCHO;bCHWA;bPHA;bPHU;bPHI;bPHAA;bPHEE;bPHE;bPHO;bPHWA;bTSA;bTSU
133A bTSI;bTSAA;bTSEE;bTSE;bTSO;bTSWA;bTZA;bTZU;bTZI;bTZAA;bTZEE;bTZE;bTZO;bTZOA;bFA;bFU;bFI;bFAA
134C bFEE;bFE;bFO;bFWA;bPA;bPU;bPI;bPAA;bPEE;bPE;bPO;bPWA;bRYA;bMYA;bFYA
135D aCOMBINING GEMINATION AND VOWEL LENGTH MARK;bVOWEL LENGTH MARK;bGEMINATION MARK;aSECTION MARK
1361 aWORDSPACE;aFULL STOP;aCOMMA;aSEMICOLON;aCOLON;aPREFACE COLON;aQUESTION MARK
1368 aPARAGRAPH SEPARATOR;aDIGIT ONE;bTWO;bTHREE;bFOUR;bFIVE;bSIX;bSEVEN;bEIGHT;bNINE;aNUMBER TEN
1373 bTWENTY;bTHIRTY;bFORTY;bFIFTY;bSIXTY;bSEVENTY;bEIGHTY;bNINETY;bHUNDRED;bTEN THOUSAND
1380 aSYLLABLE SEBATBEIT MWA;bMWI;bMWEE;bMWE;bSEBATBEIT BWA;bBWI;bBWEE;bBWE;bSEBATBEIT FWA;bFWI
138A bFWEE;bFWE;bSEBATBEIT PWA;bPWI;bPWEE;bPWE;aTONAL MARK YIZET;cDERET;cRIKRIK;cSHORT RIKRIK
1394 cDIFAT;cKENAT;cCHIRET;cHIDET;cDERET-HIDET;cKURT
13A0 CHEROKEE LETTER A;bE;bI;bO;bU;bV;bGA;bKA;bGE;bGI;bGO;bGU;bGV;bHA;bHE;bHI;bHO;bHU;bHV;bLA;bLE
13B5 bLI;bLO;bLU;bLV;bMA;bME;bMI;bMO;bMU;bNA;bHNA;bNAH;bNE;bNI;bNO;bNU;bNV;bQUA;bQUE;bQUI;bQUO
13CA bQUU;bQUV;bSA;bS;bSE;bSI;bSO;bSU;bSV;bDA;bTA;bDE;bTE;bDI;bTI;bDO;bDU;bDV;bDLA;bTLA;bTLE;bTLI
13E0 bTLO;bTLU;bTLV;bTSA;bTSE;bTSI;bTSO;bTSU;bTSV;bWA;bWE;bWI;bWO;bWU;bWV;bYA;bYE;bYI;bYO;bYU;bYV
13F5 bMV
13F8 aSMALL LETTER YE;cYI;cYO;cYU;cYV;cMV
1400 CANADIAN SYLLABICS HYPHEN;bE;bAAI;bI;bII;bO;bOO;bY-CREE OO;bCARRIER EE;cI;bA;bAA;bWE
140D bWEST-CREE WE;bWI;bWEST-CREE WI;bWII;bWEST-CREE WII;bWO;bWEST-CREE WO;bWOO;bWEST-CREE WOO
1416 bNASKAPI WOO;bWA;bWEST-CREE WA;bWAA;bWEST-CREE WAA;bNASKAPI WAA;bAI;bY-CREE W;bGLOTTAL STOP
141F bFINAL ACUTE;cGRAVE;cBOTTOM HALF RING;cTOP HALF RING;cRIGHT HALF RING;cRING;cDOUBLE ACUTE
1426 dSHORT VERTICAL STROKES;cMIDDLE DOT;cSHORT HORIZONTAL STROKE;cPLUS;cDOWN TACK;bEN;bIN;bON;bAN
142F bPE;bPAAI;bPI;bPII;bPO;bPOO;bY-CREE POO;bCARRIER HEE;cHI;bPA;bPAA;bPWE;bWEST-CREE PWE;bPWI
143D bWEST-CREE PWI;bPWII;bWEST-CREE PWII;bPWO;bWEST-CREE PWO;bPWOO;bWEST-CREE PWOO;bPWA
1445 bWEST-CREE PWA;bPWAA;bWEST-CREE PWAA;bY-CREE PWAA;bP;bWEST-CREE P;bCARRIER H;bTE;bTAAI;bTI
144F bTII;bTO;bTOO;bY-CREE TOO;bCARRIER DEE;cDI;bTA;bTAA;bTWE;bWEST-CREE TWE;bTWI;bWEST-CREE TWI
145B bTWII;bWEST-CREE TWII;bTWO;bWEST-CREE TWO;bTWOO;bWEST-CREE TWOO;bTWA;bWEST-CREE TWA;bTWAA
1464 bWEST-CREE TWAA;bNASKAPI TWAA;bT;bTTE;bTTI;bTTO;bTTA;bKE;bKAAI;bKI;bKII;bKO;bKOO;bY-CREE KOO
1472 bKA;bKAA;bKWE;bWEST-CREE KWE;bKWI;bWEST-CREE KWI;bKWII;bWEST-CREE KWII;bKWO;bWEST-CREE KWO
147C bKWOO;bWEST-CREE KWOO;bKWA;bWEST-CREE KWA;bKWAA;bWEST-CREE KWAA;bNASKAPI KWAA;bK;bKW
1485 bSOUTH-SLAVEY KEH;cKIH;cKOH;cKAH;bCE;bCAAI;bCI;bCII;bCO;bCOO;bY-CREE COO;bCA;bCAA;bCWE
1493 bWEST-CREE CWE;bCWI;bWEST-CREE CWI;bCWII;bWEST-CREE CWII;bCWO;bWEST-CREE CWO;bCWOO
149B bWEST-CREE CWOO;bCWA;bWEST-CREE CWA;bCWAA;bWEST-CREE CWAA;bNASKAPI CWAA;bC;bSAYISI TH;bME
14A4 bMAAI;bMI;bMII;bMO;bMOO;bY-CREE MOO;bMA;bMAA;bMWE;bWEST-CREE MWE;bMWI;bWEST-CREE MWI;bMWII
14B1 bWEST-CREE MWII;bMWO;bWEST-CREE MWO;bMWOO;bWEST-CREE MWOO;bMWA;bWEST-CREE MWA;bMWAA
14B9 bWEST-CREE MWAA;bNASKAPI MWAA;bM;bWEST-CREE M;bMH;bATHAPASCAN M;bSAYISI M;bNE;bNAAI;bNI;bNII
14C4 bNO;bNOO;bY-CREE NOO;bNA;bNAA;bNWE;bWEST-CREE NWE;bNWA;bWEST-CREE NWA;bNWAA;bWEST-CREE NWAA
14CF bNASKAPI NWAA;bN;bCARRIER NG;bNH;bLE;bLAAI;bLI;bLII;bLO;bLOO;bY-CREE LOO;bLA;bLAA;bLWE
14DD bWEST-CREE LWE;bLWI;bWEST-CREE LWI;bLWII;bWEST-CREE LWII;bLWO;bWEST-CREE LWO;bLWOO
14E5 bWEST-CREE LWOO;bLWA;bWEST-CREE LWA;bLWAA;bWEST-CREE LWAA;bL;bWEST-CREE L;bMEDIAL L;bSE;bSAAI
14EF bSI;bSII;bSO;bSOO;bY-CREE SOO;bSA;bSAA;bSWE;bWEST-CREE SWE;bSWI;bWEST-CREE SWI;bSWII
14FB bWEST-CREE SWII;bSWO;bWEST-CREE SWO;bSWOO;bWEST-CREE SWOO;bSWA;bWEST-CREE SWA;bSWAA
1503 bWEST-CREE SWAA;bNASKAPI SWAA;bS;bATHAPASCAN S;bSW;bBLACKFOOT S;bMOOSE-CREE SK;bNASKAPI SKW
150B cS-W;cSPWA;cSTWA;cSKWA;cSCWA;bSHE;bSHI;bSHII;bSHO;bSHOO;bSHA;bSHAA;bSHWE;bWEST-CREE SHWE
1519 bSHWI;bWEST-CREE SHWI;bSHWII;bWEST-CREE SHWII;bSHWO;bWEST-CREE SHWO;bSHWOO;bWEST-CREE SHWOO
1521 bSHWA;bWEST-CREE SHWA;bSHWAA;bWEST-CREE SHWAA;bSH;bYE;bYAAI;bYI;bYII;bYO;bYOO;bY-CREE YOO;bYA
152E bYAA;bYWE;bWEST-CREE YWE;bYWI;bWEST-CREE YWI;bYWII;bWEST-CREE YWII;bYWO;bWEST-CREE YWO;bYWOO
1538 bWEST-CREE YWOO;bYWA;bWEST-CREE YWA;bYWAA;bWEST-CREE YWAA;bNASKAPI YWAA;bY;bBIBLE-CREE Y
1540 bWEST-CREE Y;bSAYISI YI;bRE;bR-CREE RE;bWEST-CREE LE;bRAAI;bRI;bRII;bRO;bROO;bWEST-CREE LO
154B bRA;bRAA;bWEST-CREE LA;bRWAA;bWEST-CREE RWAA;bR;bWEST-CREE R;bMEDIAL R;bFE;bFAAI;bFI;bFII;bFO
1558 bFOO;bFA;bFAA;bFWAA;bWEST-CREE FWAA;bF;bTHE;bN-CREE THE;bTHI;bN-CREE THI;bTHII;bN-CREE THII
1564 bTHO;bTHOO;bTHA;bTHAA;bTHWAA;bWEST-CREE THWAA;bTH;bTTHE;bTTHI;bTTHO;bTTHA;bTTH;bTYE;bTYI;bTYO
1573 bTYA;bNUNAVIK HE;cHI;cHII;cHO;cHOO;cHA;cHAA;cH;bNUNAVUT H;bHK;bQAAI;bQI;bQII;bQO;bQOO;bQA
1584 bQAA;bQ;bTLHE;bTLHI;bTLHO;bTLHA;bWEST-CREE RE;cRI;cRO;cRA;bNGAAI;bNGI;bNGII;bNGO;bNGOO;bNGA
1594 bNGAA;bNG;bNNG;bSAYISI SHE;cSHI;cSHO;cSHA;bWOODS-CREE THE;cTHI;cTHO;cTHA;cTH;bLHI;bLHII;bLHO
15A3 bLHOO;bLHA;bLHAA;bLH;bTH-CREE THE;cTHI;cTHII;cTHO;cTHOO;cTHA;cTHAA;cTH;bAIVILIK B
15B0 bBLACKFOOT E;cI;cO;cA;cWE;cWI;cWO;cWA;cNE;cNI;cNO;cNA;cKE;cKI;cKO;cKA;bSAYISI HE;cHI;cHO;cHA
15C4 bCARRIER GHU;cGHO;cGHE;cGHEE;cGHI;cGHA;cRU;cRO;cRE;cREE;cRI;cRA;cWU;cWO;cWE;cWEE;cWI;cWA;cHWU
15D7 cHWO;cHWE;cHWEE;cHWI;cHWA;cTHU;cTHO;cTHE;cTHEE;cTHI;cTHA;cTTU;cTTO;cTTE;cTTEE;cTTI;cTTA;cPU
15E9 cPO;cPE;cPEE;cPI;cPA;cP;cGU;cGO;cGE;cGEE;cGI;cGA;cKHU;cKHO;cKHE;cKHEE;cKHI;cKHA;cKKU;cKKO
15FD cKKE;cKKEE;cKKI;cKKA;cKK;cNU;cNO;cNE;cNEE;cNI;cNA;cMU;cMO;cME;cMEE;cMI;cMA;cYU;cYO;cYE;cYEE
1612 cYI;cYA;cJU;bSAYISI JU;bCARRIER JO;cJE;cJEE;cJI;bSAYISI JI;bCARRIER JA;cJJU;cJJO;cJJE;cJJEE
1620 cJJI;cJJA;cLU;cLO;cLE;cLEE;cLI;cLA;cDLU;cDLO;cDLE;cDLEE;cDLI;cDLA;cLHU;cLHO;cLHE;cLHEE;cLHI
1633 cLHA;cTLHU;cTLHO;cTLHE;cTLHEE;cTLHI;cTLHA;cTLU;cTLO;cTLE;cTLEE;cTLI;cTLA;cZU;cZO;cZE;cZEE;cZI
1645 cZA;cZ;cINITIAL Z;cDZU;cDZO;cDZE;cDZEE;cDZI;cDZA;cSU;cSO;cSE;cSEE;cSI;cSA;cSHU;cSHO;cSHE
1657 cSHEE;cSHI;cSHA;cSH;cTSU;cTSO;cTSE;cTSEE;cTSI;cTSA;cCHU;cCHO;cCHE;cCHEE;cCHI;cCHA;cTTSU;cTTSO
1669 cTTSE;cTTSEE;cTTSI;cTTSA;bCHI SIGN;bFULL STOP;bQAI;bNGAI;bNNGI;bNNGII;bNNGO;bNNGOO;bNNGA
1676 bNNGAA;bWOODS-CREE THWEE;cTHWI;cTHWII;cTHWO;cTHWOO;cTHWA;cTHWAA;cFINAL TH;bBLACKFOOT W
1680 OGHAM SPACE MARK;aLETTER BEITH;bLUIS;bFEARN;bSAIL;bNION;bUATH;bDAIR;bTINNE;bCOLL;bCEIRT;bMUIN
168C bGORT;bNGEADAL;bSTRAIF;bRUIS;bAILM;bONN;bUR;bEADHADH;bIODHADH;bEABHADH;bOR;bUILLEANN;bIFIN
1699 bEAMHANCHOLL;bPEITH;aFEATHER MARK;aREVERSED FEATHER MARK
16A0 RUNIC LETTER FEHU FEOH FE F;bV;bURUZ UR U;bYR;bY;bW;bTHURISAZ THURS THORN;bETH;bANSUZ A;bOS O
16AA bAC A;bAESC;bLONG-BRANCH-OSS O;bSHORT-TWIG-OSS O;bO;bOE;bON;bRAIDO RAD REID R;bKAUNA;bCEN
16B4 bKAUN K;bG;bENG;bGEBO GYFU G;bGAR;bWUNJO WYNN W;bHAGLAZ H;bHAEGL H;bLONG-BRANCH-HAGALL H
16BD bSHORT-TWIG-HAGALL H;bNAUDIZ NYD NAUD N;bSHORT-TWIG-NAUD N;bDOTTED-N;bISAZ IS ISS I;bE
16C3 bJERAN J;bGER;bLONG-BRANCH-AR AE;bSHORT-TWIG-AR A;bIWAZ EOH;bPERTHO PEORTH P;bALGIZ EOLHX
16CA bSOWILO S;bSIGEL LONG-BRANCH-SOL S;bSHORT-TWIG-SOL S;bC;bZ;bTIWAZ TIR TYR T;bSHORT-TWIG-TYR T
16D1 bD;bBERKANAN BEORC BJARKAN B;bSHORT-TWIG-BJARKAN B;bDOTTED-P;bOPEN-P;bEHWAZ EH E
16D7 bMANNAZ MAN M;bLONG-BRANCH-MADR M;bSHORT-TWIG-MADR M;bLAUKAZ LAGU LOGR L;bDOTTED-L;bINGWAZ
16DD bING;bDAGAZ DAEG D;bOTHALAN ETHEL O;bEAR;bIOR;bCWEORTH;bCALC;bCEALC;bSTAN;bLONG-BRANCH-YR
16E7 bSHORT-TWIG-YR;bICELANDIC-YR;bQ;bX;aSINGLE PUNCTUATION;aMULTIPLE PUNCTUATION
16ED aCROSS PUNCTUATION;aARLAUG SYMBOL;aTVIMADUR SYMBOL;aBELGTHOR SYMBOL;aLETTER K;bSH;bOO
16F4 bFRANKS CASKET OS;dIS;dEH;dAC;dAESC
1700 TAGALOG LETTER A;bI;bU;bKA;bGA;bNGA;bTA;bDA;bNA;bPA;bBA;bMA;bYA;bRA;bLA;bWA;bSA;bHA
1712 aVOWEL SIGN I;cU;aSIGN VIRAMA;bPAMUDPOD
171F aLETTER ARCHAIC RA;HANUNOO LETTER A;bI;bU;bKA;bGA;bNGA;bTA;bDA;bNA;bPA;bBA;bMA;bYA;bRA;bLA
172F bWA;bSA;bHA;aVOWEL SIGN I;cU;aSIGN PAMUDPOD;PHILIPPINE SINGLE PUNCTUATION;aDOUBLE PUNCTUATION
1740 BUHID LETTER A;bI;bU;bKA;bGA;bNGA;bTA;bDA;bNA;bPA;bBA;bMA;bYA;bRA;bLA;bWA;bSA;bHA
1752 aVOWEL SIGN I;cU
1760 TAGBANWA LETTER A;bI;bU;bKA;bGA;bNGA;bTA;bDA;bNA;bPA;bBA;bMA;bYA
176E bLA;bWA;bSA
1772 aVOWEL SIGN I;cU
1780 KHMER LETTER KA;bKHA;bKO;bKHO;bNGO;bCA;bCHA;bCO;bCHO;bNYO;bDA;bTTHA;bDO;bTTHO;bNNO;bTA;bTHA
1791 bTO;bTHO;bNO;bBA;bPHA;bPO;bPHO;bMO;bYO;bRO;bLO;bVO;bSHA;bSSO;bSA;bHA;bLA;bQA
17A3 aINDEPENDENT VOWEL QAQ;cQAA;cQI;cQII;cQU;cQUK;cQUU;cQUUV;cRY;cRYY;cLY;cLYY;cQE;cQAI
17B1 cQOO TYPE ONE;eTWO;cQAU;aVOWEL INHERENT AQ;cAA;bSIGN AA;cI;cII;cY;cYY;cU;cUU;cUA;cOE;cYA;cIE
17C1 cE;cAE;cAI;cOO;cAU;aSIGN NIKAHIT;bREAHMUK;bYUUKALEAPINTU;bMUUSIKATOAN;bTRIISAP;bBANTOC;bROBAT
17CD bTOANDAKHIAT;bKAKABAT;bAHSDA;bSAMYOK SANNYA;bVIRIAM;bCOENG;bBATHAMASAT;bKHAN;bBARIYOOSAN
17D6 bCAMNUC PII KUUH;bLEK TOO;bBEYYAL;bPHNAEK MUAN;bKOOMUUT;aCURRENCY SYMBOL RIEL
17DC aSIGN AVAKRAHASANYA;bATTHACAN
17E0 aDIGIT ZERO;bONE;bTWO;bTHREE;bFOUR;bFIVE;bSIX;bSEVEN;bEIGHT;bNINE
17F0 aSYMBOL LEK ATTAK SON;dMUOY;dPII;dBEI;dBUON;dPRAM;dPRAM-MUOY;dPRAM-PII;dPRAM-BEI;dPRAM-BUON
1800 MONGOLIAN BIRGA;aELLIPSIS;aCOMMA;aFULL STOP;aCOLON;aFOUR DOTS;aTODO SOFT HYPHEN
1807 aSIBE SYLLABLE BOUNDARY MARKER;aMANCHU COMMA;bFULL STOP;aNIRUGU;aFREE VARIATION SELECTOR ONE
180C dTWO;dTHREE;aVOWEL SEPARATOR;aFREE VARIATION SELECTOR FOUR;aDIGIT ZERO;bONE;bTWO;bTHREE;bFOUR
1815 bFIVE;bSIX;bSEVEN;bEIGHT;bNINE
1820 aLETTER A;bE;bI;bO;bU;bOE;bUE;bEE;bNA;bANG;bBA;bPA;bQA;bGA;bMA;bLA;bSA;bSHA;bTA;bDA;bCHA;bJA
1836 bYA;bRA;bWA;bFA;bKA;bKHA;bTSA;bZA;bHAA;bZRA;bLHA;bZHI;bCHI;bTODO LONG VOWEL SIGN;cE;cI;cO;cU
1848 cOE;cUE;cANG;cBA;cPA;cQA;cGA;cMA;cTA;cDA;cCHA;cJA;cTSA;cYA;cWA;cKA;cGAA;cHAA;cJIA;cNIA;cDZA
185D bSIBE E;cI;cIY;cUE;cU;cANG;cKA;cGA;cHA;cPA;cSHA;cTA;cDA;cJA;cFA;cGAA;cHAA;cTSA;cZA;cRAA;cCHA
1872 cZHA;bMANCHU I;cKA;cRA;cFA;cZHA;bCHA WITH TWO DOTS
1880 bALI GALI ANUSVARA ONE;dVISARGA ONE;dDAMARU;dUBADAMA;dINVERTED UBADAMA;dBALUDA;dTHREE BALUDA
1887 dA;dI;dKA;dNGA;dCA;dTTA;dTTHA;dDDA;dNNA;dTA;dDA;dPA;dPHA;dSSA;dZHA;dZA;dAH;bTODO ALI GALI TA
1899 eZHA;bMANCHU ALI GALI GHA;eNGA;eCA;eJHA;eTTA;eDDHA;eTA;eDHA;eSSA;eCYA;eZHA;eZA
18A6 bALI GALI HALF U;eYA;bMANCHU ALI GALI BHA;bALI GALI DAGALGA;bMANCHU ALI GALI LHA
18B0 CANADIAN SYLLABICS OY;bAY;bAAY;bWAY;bPOY;bPAY;bPWOY;bTAY;bKAY;bKWAY;bMAY;bNOY;bNAY;bLAY;bSOY
18BF bSAY;bSHOY;bSHAY;bSHWOY;bYOY;bYAY;bRAY;bNWI;bOJIBWAY NWI;bNWII;bOJIBWAY NWII;bNWO
18CB bOJIBWAY NWO;bNWOO;bOJIBWAY NWOO;bRWEE;bRWI;bRWII;bRWO;bRWOO;bRWA;bOJIBWAY P;cT;cK;cC;cM;cN
18DA cS;cSH;bEASTERN W;bWESTERN W;bFINAL SMALL RING;cRAISED DOT;bR-CREE RWE;bWEST-CREE LOO;cLAA
18E3 bTHWE;bTHWA;bTTHWE;bTTHOO;bTTHAA;bTLHWE;bTLHOO;bSAYISI SHWE;cSHOO;cHOO;bCARRIER GWU;cDENE GEE
18EF cGAA;cGWA;bSAYISI JUU;bCARRIER JWA;bBEAVER DENE L;dR;bCARRIER DENTAL S
1900 LIMBU VOWEL-CARRIER LETTER;aLETTER KA;bKHA;bGA;bGHA;bNGA;bCA;bCHA;bJA;bJHA;bYAN;bTA;bTHA;bDA
190E bDHA;bNA;bPA;bPHA;bBA;bBHA;bMA;bYA;bRA;bLA;bWA;bSHA;bSSA;bSA;bHA;bGYAN;bTRA
1920 aVOWEL SIGN A;cI;cU;cEE;cAI;cOO;cAU;cE;cO;aSUBJOINED LETTER YA;cRA;cWA
1930 aSMALL LETTER KA;cNGA;cANUSVARA;cTA;cNA;cPA;cMA;cRA;cLA;aSIGN MUKPHRENG;bKEMPHRENG;bSA-I
1940 bLOO
1944 aEXCLAMATION MARK;aQUESTION MARK;aDIGIT ZERO;bONE;bTWO;bTHREE;bFOUR;bFIVE;bSIX;bSEVEN;bEIGHT
194F bNINE;TAI LE LETTER KA;cXA;cNGA;cTSA;cSA;cYA;cTA;cTHA;cLA;cPA;cPHA;cMA;cFA;cVA;cHA;cQA;cKHA
1961 cTSHA;cNA;cA;cI;cEE;cEH;cU;cOO;cO;cUE;cE;cAUE;cAI
1970 cTONE-2;cTONE-3;cTONE-4;cTONE-5;cTONE-6
1980 NEW TAI LUE LETTER HIGH QA;dLOW QA;dHIGH KA;eXA;eNGA;dLOW KA;eXA;eNGA;dHIGH TSA;eSA;eYA
198B dLOW TSA;eSA;eYA;dHIGH TA;eTHA;eNA;dLOW TA;eTHA;eNA;dHIGH PA;ePHA;eMA;dLOW PA;ePHA;eMA
199A dHIGH FA;eVA;eLA;dLOW FA;eVA;eLA;dHIGH HA;eDA;eBA;dLOW HA;eDA;eBA;dHIGH KVA;eXVA;dLOW KVA
19A9 eXVA;dHIGH SUA;dLOW SUA
19B0 cVOWEL SIGN VOWEL SHORTENER;eAA;eII;eU;eUU;eE;eAE;eO;eOA;eUE;eAY;eAAY;eUY;eOY;eOAY;eUEY;eIY
19C1 cLETTER FINAL V;eNG;eN;eM;eK;eD;eB;cTONE MARK-1;dMARK-2
19D0 cDIGIT ZERO;dONE;dTWO;dTHREE;dFOUR;dFIVE;dSIX;dSEVEN;dEIGHT;dNINE;cTHAM DIGIT ONE
19DE cSIGN LAE;dLAEV;KHMER SYMBOL PATHAMASAT;bMUOY KOET;bPII KOET;bBEI KOET;bBUON KOET;bPRAM KOET
19E6 bPRAM-MUOY KOET;bPRAM-PII KOET;bPRAM-BEI KOET;bPRAM-BUON KOET;bDAP KOET;bDAP-MUOY KOET
19EC bDAP-PII KOET;bDAP-BEI KOET;bDAP-BUON KOET;bDAP-PRAM KOET;bTUTEYASAT;bMUOY ROC;bPII ROC
19F3 bBEI ROC;bBUON ROC;bPRAM ROC;bPRAM-MUOY ROC;bPRAM-PII ROC;bPRAM-BEI ROC;bPRAM-BUON ROC
19FA bDAP ROC;bDAP-MUOY ROC;bDAP-PII ROC;bDAP-BEI ROC;bDAP-BUON ROC;bDAP-PRAM ROC
1A00 BUGINESE LETTER KA;bGA;bNGA;bNGKA;bPA;bBA;bMA;bMPA;bTA;bDA;bNA;bNRA;bCA;bJA;bNYA;bNYCA;bYA
1A11 bRA;bLA;bVA;bSA;bA;bHA;aVOWEL SIGN I;cU;cE;cO;cAE
1A1E aPALLAWA;aEND OF SECTION;TAI THAM LETTER HIGH KA;dKHA;dKXA;cLOW KA;dKXA;dKHA;cNGA;cHIGH CA
1A28 dCHA;cLOW CA;dSA;dCHA;cNYA;cRATA;cHIGH RATHA;cDA;cLOW RATHA;cRANA;cHIGH TA;dTHA;cLOW TA;dTHA
1A36 cNA;cBA;cHIGH PA;dPHA;dFA;cLOW PA;dFA;dPHA;cMA;cLOW YA;cHIGH YA;cRA;cRUE;cLA;cLUE;cWA
1A46 cHIGH SHA;dSSA;dSA;dHA;cLLA;cA;cLOW HA;cI;cII;cU;cUU;cEE;cOO;cLAE;cGREAT SA
1A55 bCONSONANT SIGN MEDIAL RA;eLA;dLA TANG LAI;bSIGN MAI KANG LAI;bCONSONANT SIGN FINAL NGA
1A5A dLOW PA;dHIGH RATHA OR LOW PA;dMA;dBA;dSA
1A60 bSIGN SAKOT;bVOWEL SIGN A;dMAI SAT;dAA;dTALL AA;dI;dII;dUE;dUUE;dU;dUU;dO;dOA BELOW;dOY;dE
1A6F dAE;dOO;dAI;dTHAM AI;dOA ABOVE;bSIGN MAI KANG;cTONE-1;cTONE-2;cKHUEN TONE-3;dTONE-4;dTONE-5
1A7A cRA HAAM;cMAI SAM;cKHUEN-LUE KARAN
1A7F bCOMBINING CRYPTOGRAMMIC DOT;bHORA DIGIT ZERO;dONE;dTWO;dTHREE;dFOUR;dFIVE;dSIX;dSEVEN;dEIGHT
1A89 dNINE
1A90 bTHAM DIGIT ZERO;dONE;dTWO;dTHREE;dFOUR;dFIVE;dSIX;dSEVEN;dEIGHT;dNINE
1AA0 bSIGN WIANG;cWIANGWAAK;cSAWAN;cKEOW;cHOY;cDOKMAI;cREVERSED ROTATED RANA;cMAI YAMOK;cKAAN
1AA9 cKAANKUU;cSATKAAN;cSATKAANKUU;cHANG;cCAANG
1AB0 COMBINING DOUBLED CIRCUMFLEX ACCENT;aDIAERESIS-RING;aINFINITY;aDOWNWARDS ARROW;aTRIPLE DOT
1AB5 aX-X BELOW;aWIGGLY LINE BELOW;aOPEN MARK BELOW;aDOUBLE OPEN MARK BELOW
1AB9 aLIGHT CENTRALIZATION STROKE BELOW;aSTRONG CENTRALIZATION STROKE BELOW;aPARENTHESES ABOVE
1ABC aDOUBLE PARENTHESES ABOVE;aPARENTHESES BELOW;bOVERLAY;aLATIN SMALL LETTER W BELOW
1AC0 dTURNED W BELOW;aLEFT PARENTHESIS ABOVE LEFT;aRIGHT PARENTHESIS ABOVE RIGHT
1AC3 aLEFT PARENTHESIS BELOW LEFT;aRIGHT PARENTHESIS BELOW RIGHT;aSQUARE BRACKETS ABOVE
1AC6 aNUMBER SIGN ABOVE;aINVERTED DOUBLE ARCH ABOVE;aPLUS SIGN ABOVE;aDOUBLE PLUS SIGN ABOVE
1ACA dBELOW;aTRIPLE ACUTE ACCENT;aLATIN SMALL LETTER INSULAR G;eR;eT
1B00 BALINESE SIGN ULU RICEM;cCANDRA;bCECEK;bSURANG;bBISAH;aLETTER AKARA;cTEDUNG;bIKARA;cTEDUNG
1B09 bUKARA;cTEDUNG;bRA REPA;dTEDUNG;bLA LENGA;dTEDUNG;bEKARA;bAIKARA;bOKARA;cTEDUNG;bKA
1B14 cMAHAPRANA;bGA;cGORA;bNGA;bCA;cLACA;bJA;cJERA;bNYA;bTA LATIK;cMURDA MAHAPRANA
1B1F bDA MURDA ALPAPRANA;dMAHAPRANA;bNA RAMBAT;bTA;cTAWA;bDA;cMADU;bNA;bPA;cKAPAL;bBA;cKEMBANG;bMA
1B2C bYA;bRA;bLA;bWA;bSA SAGA;cSAPA;bSA;bHA;aSIGN REREKAN;aVOWEL SIGN TEDUNG;cULU;dSARI;cSUKU
1B39 dILUT;cRA REPA;eTEDUNG;cLA LENGA;eTEDUNG;cTALING;dREPA;dTEDUNG;dREPA TEDUNG;cPEPET;dTEDUNG
1B44 aADEG ADEG;aLETTER KAF SASAK;bKHOT SASAK;bTZIR SASAK;bEF SASAK;bVE SASAK;bZAL SASAK
1B4B bASYURA SASAK;bARCHAIC JNYA
1B50 aDIGIT ZERO;bONE;bTWO;bTHREE;bFOUR;bFIVE;bSIX;bSEVEN;bEIGHT;bNINE;aPANTI;aPAMADA;aWINDU
1B5D aCARIK PAMUNGKAH;bSIKI;bPAREREN;aPAMENENG;aMUSICAL SYMBOL DONG;cDENG;cDUNG;cDANG;dSURANG
1B66 cDING;cDAENG;cDEUNG;cDAING;cDANG GEDE;cCOMBINING TEGEH;dENDEP;dKEMPUL;dKEMPLI;dJEGOGAN
1B70 dKEMPUL WITH JEGOGAN;dKEMPLI WITH JEGOGAN;dBENDE;dGONG;cRIGHT-HAND OPEN DUG;eDAG;dCLOSED TUK
1B77 eTAK;cLEFT-HAND OPEN PANG;ePUNG;dCLOSED PLAK;ePLUK;dOPEN PING;aPANTI LANTANG;aPAMADA LANTANG
1B80 SUNDANESE SIGN PANYECEK;bPANGLAYAR;bPANGWISAD;aLETTER A;bI;bU;bAE;bO;bE;bEU;bKA;bQA;bGA;bNGA
1B8E bCA;bJA;bZA;bNYA;bTA;bDA;bNA;bPA;bFA;bVA;bBA;bMA;bYA;bRA;bLA;bWA;bSA;bXA;bHA
1BA1 aCONSONANT SIGN PAMINGKAL;cPANYAKRA;cPANYIKU;aVOWEL SIGN PANGHULU;cPANYUKU;cPANAELAENG
1BA7 cPANOLONG;cPAMEPET;cPANEULEUNG;aSIGN PAMAAEH;bVIRAMA;aCONSONANT SIGN PASANGAN MA;dWA
1BAE aLETTER KHA;bSYA;aDIGIT ZERO;bONE;bTWO;bTHREE;bFOUR;bFIVE;bSIX;bSEVEN;bEIGHT;bNINE;aAVAGRAHA
1BBB aLETTER REU;bLEU;bBHA;bFINAL K;cM;BATAK LETTER A;bSIMALUNGUN A;bHA;bSIMALUNGUN HA
1BC4 bMANDAILING HA;bBA;bKARO BA;bPA;bSIMALUNGUN PA;bNA;bMANDAILING NA;bWA;bSIMALUNGUN WA
1BCD bPAKPAK WA;bGA;bSIMALUNGUN GA;bJA;bDA;bRA;bSIMALUNGUN RA;bMA;bSIMALUNGUN MA;bSOUTHERN TA
1BD7 bNORTHERN TA;bSA;bSIMALUNGUN SA;bMANDAILING SA;bYA;bSIMALUNGUN YA;bNGA;bLA;bSIMALUNGUN LA
1BE0 bNYA;bCA;bNDA;bMBA;bI;bU;aSIGN TOMPI;aVOWEL SIGN E;cPAKPAK E;cEE;cI;cKARO I;cO;cKARO O;cU
1BEF dFOR SIMALUNGUN SA;aCONSONANT SIGN NG;cH;aPANGOLAT;aPANONGONAN
1BFC aSYMBOL BINDU NA METEK;cPINARBORAS;cJUDUL;cPANGOLAT;LEPCHA LETTER KA;bKLA;bKHA;bGA;bGLA;bNGA
1C06 bCA;bCHA;bJA;bNYA;bTA;bTHA;bDA;bNA;bPA;bPLA;bPHA;bFA;bFLA;bBA;bBLA;bMA;bMLA;bTSA;bTSHA;bDZA
1C1A bYA;bRA;bLA;bHA;bHLA;bVA;bSA;bSHA;bWA;bA;aSUBJOINED LETTER YA;cRA;aVOWEL SIGN AA;cI;cO;cOO;cU
1C2B cUU;cE;aCONSONANT SIGN K;cM;cL;cN;cP;cR;cT;cNYIN-DO;cKANG;aSIGN RAN;bNUKTA
1C3B aPUNCTUATION TA-ROL;bNYET THYOOM TA-ROL;bCER-WA;bTSHOOK CER-WA;bTSHOOK;aDIGIT ZERO;bONE;bTWO
1C43 bTHREE;bFOUR;bFIVE;bSIX;bSEVEN;bEIGHT;bNINE
1C4D aLETTER TTA;bTTHA;bDDA;OL CHIKI DIGIT ZERO;cONE;cTWO;cTHREE;cFOUR;cFIVE;cSIX;cSEVEN;cEIGHT
1C59 cNINE;bLETTER LA;cAT;cAG;cANG;cAL;cLAA;cAAK;cAAJ;cAAM;cAAW;cLI;cIS;cIH;cINY;cIR;cLU;cUC;cUD
1C6C cUNN;cUY;cLE;cEP;cEDD;cEN;cERR;cLO;cOTT;cOB;cOV;cOH;bMU TTUDDAG;bGAAHLAA TTUDDAAG
1C7A bMU-GAAHLAA TTUDDAAG;bRELAA;bPHAARKAA;bAHAD;bPUNCTUATION MUCAAD;cDOUBLE MUCAAD
1C80 CYRILLIC SMALL LETTER ROUNDED VE;cLONG-LEGGED DE;cNARROW O;cWIDE ES;cTALL TE;cTHREE-LEGGED TE
1C86 cTALL HARD SIGN;dYAT;cUNBLENDED UK
1C90 GEORGIAN MTAVRULI CAPITAL LETTER AN;dBAN;dGAN;dDON;dEN;dVIN;dZEN;dTAN;dIN;dKAN;dLAS;dMAN;dNAR
1C9D dON;dPAR;dZHAR;dRAE;dSAN;dTAR;dUN;dPHAR;dKHAR;dGHAN;dQAR;dSHIN;dCHIN;dCAN;dJIL;dCIL;dCHAR
1CAE dXAN;dJHAN;dHAE;dHE;dHIE;dWE;dHAR;dHOE;dFI;dYN;dELIFI;dTURNED GAN;dAIN
1CBD dAEN;dHARD SIGN;dLABIAL SIGN;SUNDANESE PUNCTUATION BINDU SURYA;cPANGLONG;cPURNAMA;cCAKRA
1CC4 cLEU SATANGA;cKA SATANGA;cDA SATANGA;cBA SATANGA
1CD0 VEDIC TONE KARSHANA;bSHARA;bPRENKHA;aSIGN NIHSHVASA;bYAJURVEDIC MIDLINE SVARITA
1CD5 aTONE YAJURVEDIC AGGRAVATED INDEPENDENT SVARITA;cINDEPENDENT SVARITA
1CD7 cKATHAKA INDEPENDENT SVARITA;bCANDRA BELOW;bYAJURVEDIC KATHAKA INDEPENDENT SVARITA SCHROEDER
1CDA bDOUBLE SVARITA;bTRIPLE SVARITA;bKATHAKA ANUDATTA;bDOT BELOW;bTWO DOTS BELOW
1CDF bTHREE DOTS BELOW;bRIGVEDIC KASHMIRI INDEPENDENT SVARITA;bATHARVAVEDIC INDEPENDENT SVARITA
1CE2 aSIGN VISARGA SVARITA;cUDATTA;bREVERSED VISARGA UDATTA;bVISARGA ANUDATTA
1CE6 bREVERSED VISARGA ANUDATTA;bVISARGA UDATTA WITH TAIL;cANUDATTA WITH TAIL
1CE9 bANUSVARA ANTARGOMUKHA;cBAHIRGOMUKHA;cVAMAGOMUKHA;dWITH TAIL;bTIRYAK;bHEXIFORM LONG ANUSVARA
1CEF bLONG ANUSVARA;bRTHANG LONG ANUSVARA;bANUSVARA UBHAYATO MUKHA;bARDHAVISARGA
1CF3 bROTATED ARDHAVISARGA;aTONE CANDRA ABOVE;aSIGN JIHVAMULIYA;bUPADHMANIYA;bATIKRAMA
1CF8 aTONE RING ABOVE;bDOUBLE RING ABOVE;aSIGN DOUBLE ANUSVARA ANTARGOMUKHA"

/-- The names of the scripts of the Near East. -/
def nearEast : String :=
"591 HEBREW ACCENT ETNAHTA;bSEGOL;bSHALSHELET;bZAQEF QATAN;cGADOL;bTIPEHA;bREVIA;bZARQA;bPASHTA
59A bYETIV;bTEVIR;bGERESH;cMUQDAM;bGERSHAYIM;bQARNEY PARA;bTELISHA GEDOLA;bPAZER;bATNAH HAFUKH
5A3 bMUNAH;bMAHAPAKH;bMERKHA;cKEFULA;bDARGA;bQADMA;bTELISHA QETANA;bYERAH BEN YOMO;bOLE;bILUY
5AD bDEHI;bZINOR;aMARK MASORA CIRCLE;aPOINT SHEVA;bHATAF SEGOL;cPATAH;cQAMATS;bHIRIQ;bTSERE;bSEGOL
5B7 bPATAH;bQAMATS;bHOLAM;cHASER FOR VAV;bQUBUTS;bDAGESH OR MAPIQ;bMETEG;aPUNCTUATION MAQAF
5BF aPOINT RAFE;aPUNCTUATION PASEQ;aPOINT SHIN DOT;bSIN DOT;aPUNCTUATION SOF PASUQ;aMARK UPPER DOT
5C5 bLOWER DOT;aPUNCTUATION NUN HAFUKHA;aPOINT QAMATS QATAN
5D0 aLETTER ALEF;bBET;bGIMEL;bDALET;bHE;bVAV;bZAYIN;bHET;bTET;bYOD;bFINAL KAF;bKAF;bLAMED
5DD bFINAL MEM;bMEM;bFINAL NUN;bNUN;bSAMEKH;bAYIN;bFINAL PE;bPE;bFINAL TSADI;bTSADI;bQOF;bRESH
5E9 bSHIN;bTAV
5EF aYOD TRIANGLE;aLIGATURE YIDDISH DOUBLE VAV;cVAV YOD;cDOUBLE YOD;aPUNCTUATION GERESH;bGERSHAYIM
600 ARABIC NUMBER SIGN;aSIGN SANAH;aFOOTNOTE MARKER;aSIGN SAFHA;bSAMVAT;aNUMBER MARK ABOVE
606 ARABIC-INDIC CUBE ROOT;aFOURTH ROOT;ARABIC RAY;ARABIC-INDIC PER MILLE SIGN;bTEN THOUSAND SIGN
60B AFGHANI SIGN;ARABIC COMMA;aDATE SEPARATOR;aPOETIC VERSE SIGN;aSIGN MISRA
610 bSALLALLAHOU ALAYHE WASSALLAM;bALAYHE ASSALLAM;bRAHMATULLAH ALAYHE;bRADI ALLAHOU ANHU
614 bTAKHALLUS;aSMALL HIGH TAH;cLIGATURE ALEF WITH LAM WITH YEH;cZAIN;bFATHA;bDAMMA;bKASRA
61B aSEMICOLON;aLETTER MARK;aEND OF TEXT MARK;aTRIPLE DOT PUNCTUATION MARK;aQUESTION MARK
620 aLETTER KASHMIRI YEH;bHAMZA;bALEF WITH MADDA ABOVE;dHAMZA ABOVE;bWAW WITH HAMZA ABOVE
625 bALEF WITH HAMZA BELOW;bYEH WITH HAMZA ABOVE;bALEF;bBEH;bTEH MARBUTA;bTEH;bTHEH;bJEEM;bHAH
62E bKHAH;bDAL;bTHAL;bREH;bZAIN;bSEEN;bSHEEN;bSAD;bDAD;bTAH;bZAH;bAIN;bGHAIN
63B bKEHEH WITH TWO DOTS ABOVE;dTHREE DOTS BELOW;bFARSI YEH WITH INVERTED V;eTWO DOTS ABOVE
63F eTHREE DOTS ABOVE;aTATWEEL;aLETTER FEH;bQAF;bKAF;bLAM;bMEEM;bNOON;bHEH;bWAW;bALEF MAKSURA;bYEH
64B aFATHATAN;aDAMMATAN;aKASRATAN;aFATHA;aDAMMA;aKASRA;aSHADDA;aSUKUN;aMADDAH ABOVE;aHAMZA ABOVE
655 bBELOW;aSUBSCRIPT ALEF;aINVERTED DAMMA;aMARK NOON GHUNNA;aZWARAKAY;aVOWEL SIGN SMALL V ABOVE
65B cINVERTED SMALL V ABOVE;cDOT BELOW;aREVERSED DAMMA;aFATHA WITH TWO DOTS;aWAVY HAMZA BELOW
660 ARABIC-INDIC DIGIT ZERO;bONE;bTWO;bTHREE;bFOUR;bFIVE;bSIX;bSEVEN;bEIGHT;bNINE
66A ARABIC PERCENT SIGN;aDECIMAL SEPARATOR;aTHOUSANDS SEPARATOR;aFIVE POINTED STAR
66E aLETTER DOTLESS BEH;cQAF;bSUPERSCRIPT ALEF;bALEF WASLA;cWITH WAVY HAMZA ABOVE;fBELOW
674 bHIGH HAMZA;dALEF;dWAW;bU WITH HAMZA ABOVE;bHIGH HAMZA YEH;bTTEH;bTTEHEH;bBEEH;bTEH WITH RING
67D dTHREE DOTS ABOVE DOWNWARDS;bPEH;bTEHEH;bBEHEH;bHAH WITH HAMZA ABOVE;dTWO DOTS VERTICAL ABOVE
683 bNYEH;bDYEH;bHAH WITH THREE DOTS ABOVE;bTCHEH;bTCHEHEH;bDDAL;bDAL WITH RING;dDOT BELOW
68B fAND SMALL TAH;bDAHAL;bDDAHAL;bDUL;bDAL WITH THREE DOTS ABOVE DOWNWARDS;dFOUR DOTS ABOVE;bRREH
692 bREH WITH SMALL V;dRING;dDOT BELOW;dSMALL V BELOW;dDOT BELOW AND DOT ABOVE;dTWO DOTS ABOVE
698 bJEH;bREH WITH FOUR DOTS ABOVE;bSEEN WITH DOT BELOW AND DOT ABOVE;dTHREE DOTS BELOW
69C gAND THREE DOTS ABOVE;bSAD WITH TWO DOTS BELOW;dTHREE DOTS ABOVE;bTAH WITH THREE DOTS ABOVE
6A0 bAIN WITH THREE DOTS ABOVE;bDOTLESS FEH;bFEH WITH DOT MOVED BELOW;eBELOW;bVEH
6A5 bFEH WITH THREE DOTS BELOW;bPEHEH;bQAF WITH DOT ABOVE;dTHREE DOTS ABOVE;bKEHEH;bSWASH KAF
6AB bKAF WITH RING;dDOT ABOVE;bNG;bKAF WITH THREE DOTS BELOW;bGAF;cWITH RING;bNGOEH
6B2 bGAF WITH TWO DOTS BELOW;bGUEH;bGAF WITH THREE DOTS ABOVE;bLAM WITH SMALL V;dDOT ABOVE
6B7 dTHREE DOTS ABOVE;fBELOW;bNOON WITH DOT BELOW;cGHUNNA;bRNOON;bNOON WITH RING;dTHREE DOTS ABOVE
6BE bHEH DOACHASHMEE;bTCHEH WITH DOT ABOVE;bHEH WITH YEH ABOVE;cGOAL;dWITH HAMZA ABOVE
6C3 bTEH MARBUTA GOAL;bWAW WITH RING;bKIRGHIZ OE;bOE;bU;bYU;bKIRGHIZ YU;bWAW WITH TWO DOTS ABOVE
6CB bVE;bFARSI YEH;bYEH WITH TAIL;dSMALL V;bWAW WITH DOT ABOVE;bE;bYEH WITH THREE DOTS BELOW
6D2 cBARREE;dWITH HAMZA ABOVE;aFULL STOP;aLETTER AE
6D6 aSMALL HIGH LIGATURE SAD WITH LAM WITH ALEF MAKSURA;dQAF WITH LAM WITH ALEF MAKSURA
6D8 cMEEM INITIAL FORM;cLAM ALEF;cJEEM;cTHREE DOTS;cSEEN;aEND OF AYAH;aSTART OF RUB EL HIZB
6DF aSMALL HIGH ROUNDED ZERO;cUPRIGHT RECTANGULAR ZERO;cDOTLESS HEAD OF KHAH;cMEEM ISOLATED FORM
6E3 bLOW SEEN;bHIGH MADDA;bWAW;bYEH;bHIGH YEH;cNOON;aPLACE OF SAJDAH;aEMPTY CENTRE LOW STOP
6EB cHIGH STOP;aROUNDED HIGH STOP WITH FILLED CENTRE;aSMALL LOW MEEM;aLETTER DAL WITH INVERTED V
6EF bREH WITH INVERTED V;EXTENDED ARABIC-INDIC DIGIT ZERO;cONE;cTWO;cTHREE;cFOUR;cFIVE;cSIX;cSEVEN
6F8 cEIGHT;cNINE;ARABIC LETTER SHEEN WITH DOT BELOW;bDAD WITH DOT BELOW;bGHAIN WITH DOT BELOW
6FD aSIGN SINDHI AMPERSAND;cPOSTPOSITION MEN;aLETTER HEH WITH INVERTED V;SYRIAC END OF PARAGRAPH
701 aSUPRALINEAR FULL STOP;aSUBLINEAR FULL STOP;aSUPRALINEAR COLON;aSUBLINEAR COLON
705 aHORIZONTAL COLON;aCOLON SKEWED LEFT;cRIGHT;aSUPRALINEAR COLON SKEWED LEFT
709 aSUBLINEAR COLON SKEWED RIGHT;aCONTRACTION;aHARKLEAN OBELUS;bMETOBELUS;bASTERISCUS
70F aABBREVIATION MARK;aLETTER ALAPH;bSUPERSCRIPT ALAPH;bBETH;bGAMAL;cGARSHUNI;bDALATH
716 bDOTLESS DALATH RISH;bHE;bWAW;bZAIN;bHETH;bTETH;cGARSHUNI;bYUDH;cHE;bKAPH;bLAMADH;bMIM;bNUN
723 bSEMKATH;bFINAL SEMKATH;bE;bPE;bREVERSED PE;bSADHE;bQAPH;bRISH;bSHIN;bTAW;bPERSIAN BHETH
72E cGHAMAL;cDHALATH;aPTHAHA ABOVE;bBELOW;bDOTTED;aZQAPHA ABOVE;bBELOW;bDOTTED;aRBASA ABOVE;bBELOW
738 aDOTTED ZLAMA HORIZONTAL;cANGULAR;aHBASA ABOVE;bBELOW;aHBASA-ESASA DOTTED;aESASA ABOVE;bBELOW
73F aRWAHA;aFEMININE DOT;aQUSHSHAYA;aRUKKAKHA;aTWO VERTICAL DOTS ABOVE;dBELOW;aTHREE DOTS ABOVE
746 cBELOW;aOBLIQUE LINE ABOVE;cBELOW;aMUSIC;aBARREKH
74D aLETTER SOGDIAN ZHAIN;cKHAPH;cFE;ARABIC LETTER BEH WITH THREE DOTS HORIZONTALLY BELOW
751 dDOT BELOW AND THREE DOTS ABOVE;dTHREE DOTS POINTING UPWARDS BELOW;iAND TWO DOTS ABOVE
754 dTWO DOTS BELOW AND DOT ABOVE;dINVERTED SMALL V BELOW;dSMALL V;bHAH WITH TWO DOTS ABOVE
758 dTHREE DOTS POINTING UPWARDS BELOW;bDAL WITH TWO DOTS VERTICALLY BELOW AND SMALL TAH
75A dINVERTED SMALL V BELOW;bREH WITH STROKE;bSEEN WITH FOUR DOTS ABOVE;bAIN WITH TWO DOTS ABOVE
75E dTHREE DOTS POINTING DOWNWARDS ABOVE;dTWO DOTS VERTICALLY ABOVE;bFEH WITH TWO DOTS BELOW
761 dTHREE DOTS POINTING UPWARDS BELOW;bKEHEH WITH DOT ABOVE;dTHREE DOTS ABOVE
764 fPOINTING UPWARDS BELOW;bMEEM WITH DOT ABOVE;eBELOW;bNOON WITH TWO DOTS BELOW;dSMALL TAH;eV
76A bLAM WITH BAR;bREH WITH TWO DOTS VERTICALLY ABOVE;dHAMZA ABOVE
76D bSEEN WITH TWO DOTS VERTICALLY ABOVE;bHAH WITH SMALL ARABIC LETTER TAH BELOW;hAND TWO DOTS
770 bSEEN WITH SMALL ARABIC LETTER TAH AND TWO DOTS;bREH WITH SMALL ARABIC LETTER TAH AND TWO DOTS
772 bHAH WITH SMALL ARABIC LETTER TAH ABOVE;bALEF WITH EXTENDED ARABIC-INDIC DIGIT TWO ABOVE
774 gTHREE ABOVE;bFARSI YEH WITH EXTENDED ARABIC-INDIC DIGIT TWO ABOVE;hTHREE ABOVE;hFOUR BELOW
778 bWAW WITH EXTENDED ARABIC-INDIC DIGIT TWO ABOVE;gTHREE ABOVE
77A bYEH BARREE WITH EXTENDED ARABIC-INDIC DIGIT TWO ABOVE;hTHREE ABOVE
77C bHAH WITH EXTENDED ARABIC-INDIC DIGIT FOUR BELOW
77D bSEEN WITH EXTENDED ARABIC-INDIC DIGIT FOUR ABOVE;dINVERTED V;bKAF WITH TWO DOTS ABOVE
780 THAANA LETTER HAA;bSHAVIYANI;bNOONU;bRAA;bBAA;bLHAVIYANI;bKAAFU;bALIFU;bVAAVU;bMEEMU;bFAAFU
78B bDHAALU;bTHAA;bLAAMU;bGAAFU;bGNAVIYANI;bSEENU;bDAVIYANI;bZAVIYANI;bTAVIYANI;bYAA;bPAVIYANI
796 bJAVIYANI;bCHAVIYANI;bTTAA;bHHAA;bKHAA;bTHAALU;bZAA;bSHEENU;bSAADHU;bDAADHU;bTO;bZO;bAINU
7A3 bGHAINU;bQAAFU;bWAAVU;aABAFILI;aAABAAFILI;aIBIFILI;aEEBEEFILI;aUBUFILI;aOOBOOFILI;aEBEFILI
7AD aEYBEYFILI;aOBOFILI;aOABOAFILI;aSUKUN;aLETTER NAA
7C0 NKO DIGIT ZERO;bONE;bTWO;bTHREE;bFOUR;bFIVE;bSIX;bSEVEN;bEIGHT;bNINE;aLETTER A;bEE;bI;bE;bU
7CF bOO;bO;bDAGBASINNA;bN;bBA;bPA;bTA;bJA;bCHA;bDA;bRA;bRRA;bSA;bGBA;bFA;bKA;bLA;bNA WOLOSO;bMA
7E2 bNYA;bNA;bHA;bWA;bYA;bNYA WOLOSO;bJONA JA;cCHA;cRA;aCOMBINING SHORT HIGH TONE;cLOW TONE
7ED cRISING TONE;bLONG DESCENDING TONE;cHIGH TONE;cLOW TONE;cRISING TONE;bNASALIZATION MARK
7F3 bDOUBLE DOT ABOVE;aHIGH TONE APOSTROPHE;aLOW TONE APOSTROPHE;aSYMBOL OO DENNEN;bGBAKURUNEN
7F8 aCOMMA;aEXCLAMATION MARK;aLAJANYALAN
7FD aDANTAYALAN;aDOROME SIGN;aTAMAN SIGN;SAMARITAN LETTER ALAF;bBIT;bGAMAN;bDALAT;bIY;bBAA;bZEN
807 bIT;bTIT;bYUT;bKAAF;bLABAT;bMIM;bNUN;bSINGAAT;bIN;bFI;bTSAADIY;bQUF;bRISH;bSHAN;bTAAF;aMARK IN
817 bIN-ALAF;bOCCLUSION;bDAGESH;aMODIFIER LETTER EPENTHETIC YUT;aMARK EPENTHETIC YUT
81C aVOWEL SIGN LONG E;cE;cOVERLONG AA;cLONG AA;cAA;cOVERLONG A;cLONG A;cA
824 aMODIFIER LETTER SHORT A;aVOWEL SIGN SHORT A;cLONG U;cU;aMODIFIER LETTER I;aVOWEL SIGN LONG I
82A cI;cO;cSUKUN;aMARK NEQUDAA
830 aPUNCTUATION NEQUDAA;bAFSAAQ;bANGED;bBAU;bATMAAU;bSHIYYAALAA;aABBREVIATION MARK
837 aPUNCTUATION MELODIC QITSA;bZIQAA;bQITSA;bZAEF;bTURU;bARKAANU;bSOF MASHFAAT;bANNAAU
840 MANDAIC LETTER HALQA;bAB;bAG;bAD;bAH;bUSHENNA;bAZ;bIT;bATT;bAKSA;bAK;bAL;bAM;bAN;bAS;bIN;bAP
851 bASZ;bAQ;bAR;bASH;bAT;bDUSHENNA;bKAD;bAIN;aAFFRICATION MARK;aVOCALIZATION MARK
85B aGEMINATION MARK
85E aPUNCTUATION
860 SYRIAC LETTER MALAYALAM NGA;cJA;cNYA;cTTA;cNNA;cNNNA;cBHA;cRA;cLLA;cLLLA;cSSA
870 ARABIC LETTER ALEF WITH ATTACHED FATHA;eTOP RIGHT FATHA;dRIGHT MIDDLE STROKE
873 dLEFT MIDDLE STROKE;dATTACHED KASRA;eBOTTOM RIGHT KASRA;eROUND DOT ABOVE;eRIGHT ROUND DOT
878 eLEFT ROUND DOT;eROUND DOT BELOW;dDOT ABOVE;dATTACHED TOP RIGHT FATHA AND DOT ABOVE
87C dRIGHT MIDDLE STROKE AND DOT ABOVE;dATTACHED BOTTOM RIGHT KASRA AND DOT ABOVE
87E eTOP RIGHT FATHA AND LEFT RING;dRIGHT MIDDLE STROKE AND LEFT RING
880 dATTACHED BOTTOM RIGHT KASRA AND LEFT RING;eRIGHT HAMZA;eLEFT HAMZA
883 aTATWEEL WITH OVERSTRUCK HAMZA;dWAW;cTWO DOTS BELOW;aLETTER THIN YEH;aBASELINE ROUND DOT
888 aRAISED ROUND DOT;aLETTER NOON WITH INVERTED SMALL V;bHAH WITH INVERTED SMALL V BELOW
88B bTAH WITH DOT BELOW;dTHREE DOTS BELOW;bKEHEH WITH TWO DOTS VERTICALLY BELOW;aVERTICAL TAIL
890 aPOUND MARK ABOVE;aPIASTRE MARK ABOVE
898 aSMALL HIGH WORD AL-JUZ;bLOW WORD ISHMAAM;dIMAALA;dTASHEEL;aMADDA WAAJIB
89D aSUPERSCRIPT ALEF MOKHASSAS;aDOUBLED MADDA;aHALF MADDA OVER MADDA
8A0 aLETTER BEH WITH SMALL V BELOW;dHAMZA ABOVE;bJEEM WITH TWO DOTS ABOVE;bTAH WITH TWO DOTS ABOVE
8A4 bFEH WITH DOT BELOW AND THREE DOTS ABOVE;bQAF WITH DOT BELOW;bLAM WITH DOUBLE BAR
8A7 bMEEM WITH THREE DOTS ABOVE;bYEH WITH TWO DOTS BELOW AND HAMZA ABOVE;hDOT ABOVE;bREH WITH LOOP
8AB bWAW WITH DOT WITHIN;bROHINGYA YEH;bLOW ALEF;bDAL WITH THREE DOTS BELOW
8AF bSAD WITH THREE DOTS BELOW;bGAF WITH INVERTED STROKE;bSTRAIGHT WAW;bZAIN WITH INVERTED V ABOVE
8B3 bAIN WITH THREE DOTS BELOW;bKAF WITH DOT BELOW;bQAF WITH DOT BELOW AND NO DOTS ABOVE
8B6 bBEH WITH SMALL MEEM ABOVE;bPEH WITH SMALL MEEM ABOVE;bTEH WITH SMALL TEH ABOVE
8B9 bREH WITH SMALL NOON ABOVE;bYEH WITH TWO DOTS BELOW AND SMALL NOON ABOVE;bAFRICAN FEH;cQAF
8BD cNOON;bPEH WITH SMALL V;bTEH WITH SMALL V;bTTEH WITH SMALL V;bTCHEH WITH SMALL V
8C2 bKEHEH WITH SMALL V;bGHAIN WITH THREE DOTS ABOVE;bAFRICAN QAF WITH THREE DOTS ABOVE
8C5 bJEEM WITH THREE DOTS ABOVE;fBELOW;bLAM WITH SMALL ARABIC LETTER TAH ABOVE;bGRAF
8C9 aSMALL FARSI YEH;bHIGH FARSI YEH;cYEH BARREE WITH TWO DOTS BELOW;cWORD SAH;cZAH
8CE aLARGE ROUND DOT ABOVE;dBELOW;aSUKUN BELOW;aLARGE CIRCLE BELOW;bROUND DOT INSIDE CIRCLE BELOW
8D3 aSMALL LOW WAW;bHIGH WORD AR-RUB;cSAD;cAIN;cQAF;cNOON WITH KASRA;bLOW NOON WITH KASRA
8DA bHIGH WORD ATH-THALATHA;dAS-SAJDA;dAN-NISF;dSAKTA;dQIF;dWAQFA;cFOOTNOTE MARKER;cSIGN SAFHA
8E2 aDISPUTED END OF AYAH;aTURNED DAMMA BELOW;aCURLY FATHA;bDAMMA;bKASRA;bFATHATAN;bDAMMATAN
8E9 bKASRATAN;aTONE ONE DOT ABOVE;bTWO DOTS ABOVE;bLOOP ABOVE;bONE DOT BELOW;bTWO DOTS BELOW
8EF bLOOP BELOW;aOPEN FATHATAN;bDAMMATAN;bKASRATAN;aSMALL HIGH WAW;aFATHA WITH RING;cDOT ABOVE
8F6 aKASRA WITH DOT BELOW;aLEFT ARROWHEAD ABOVE;aRIGHT ARROWHEAD ABOVE;aLEFT ARROWHEAD BELOW
8FA aRIGHT ARROWHEAD BELOW;aDOUBLE RIGHT ARROWHEAD ABOVE;eWITH DOT;aRIGHT ARROWHEAD ABOVE WITH DOT
8FE aDAMMA WITH DOT;aMARK SIDEWAYS NOON GHUNNA"

/-- The names of the scripts of southern Asia. -/
def southAsia : String :=
"900 DEVANAGARI SIGN INVERTED CANDRABINDU;bCANDRABINDU;bANUSVARA;bVISARGA;aLETTER SHORT A;bA;bAA;bI
908 bII;bU;bUU;bVOCALIC R;cL;bCANDRA E;bSHORT E;bE;bAI;bCANDRA O;bSHORT O;bO;bAU;bKA;bKHA;bGA;bGHA
919 bNGA;bCA;bCHA;bJA;bJHA;bNYA;bTTA;bTTHA;bDDA;bDDHA;bNNA;bTA;bTHA;bDA;bDHA;bNA;bNNNA;bPA;bPHA
92C bBA;bBHA;bMA;bYA;bRA;bRRA;bLA;bLLA;bLLLA;bVA;bSHA;bSSA;bSA;bHA;aVOWEL SIGN OE;cOOE;aSIGN NUKTA
93D bAVAGRAHA;aVOWEL SIGN AA;cI;cII;cU;cUU;cVOCALIC R;dRR;cCANDRA E;cSHORT E;cE;cAI;cCANDRA O
94A cSHORT O;cO;cAU;aSIGN VIRAMA;aVOWEL SIGN PRISHTHAMATRA E;cAW;aOM;aSTRESS SIGN UDATTA;cANUDATTA
953 aGRAVE ACCENT;aACUTE ACCENT;aVOWEL SIGN CANDRA LONG E;cUE;cUUE;aLETTER QA;bKHHA;bGHHA;bZA
95C bDDDHA;bRHA;bFA;bYYA;bVOCALIC RR;cLL;aVOWEL SIGN VOCALIC L;dLL;aDANDA;aDOUBLE DANDA
966 aDIGIT ZERO;bONE;bTWO;bTHREE;bFOUR;bFIVE;bSIX;bSEVEN;bEIGHT;bNINE;aABBREVIATION SIGN
971 aSIGN HIGH SPACING DOT;aLETTER CANDRA A;bOE;bOOE;bAW;bUE;bUUE;bMARWARI DDA;bZHA;bHEAVY YA;bGGA
97C bJJA;bGLOTTAL STOP;bDDDA;bBBA;BENGALI ANJI;aSIGN CANDRABINDU;bANUSVARA;bVISARGA
985 aLETTER A;bAA;bI;bII;bU;bUU;bVOCALIC R;cL
98F bE;bAI
993 bO;bAU;bKA;bKHA;bGA;bGHA;bNGA;bCA;bCHA;bJA;bJHA;bNYA;bTTA;bTTHA;bDDA;bDDHA;bNNA;bTA;bTHA;bDA
9A7 bDHA;bNA
9AA bPA;bPHA;bBA;bBHA;bMA;bYA;bRA
9B2 bLA
9B6 bSHA;bSSA;bSA;bHA
9BC aSIGN NUKTA;bAVAGRAHA;aVOWEL SIGN AA;cI;cII;cU;cUU;cVOCALIC R;dRR
9C7 cE;cAI
9CB cO;cAU;aSIGN VIRAMA;aLETTER KHANDA TA
9D7 aAU LENGTH MARK
9DC aLETTER RRA;bRHA
9DF bYYA;bVOCALIC RR;cLL;aVOWEL SIGN VOCALIC L;dLL
9E6 aDIGIT ZERO;bONE;bTWO;bTHREE;bFOUR;bFIVE;bSIX;bSEVEN;bEIGHT;bNINE
9F0 aLETTER RA WITH MIDDLE DIAGONAL;dLOWER DIAGONAL;aRUPEE MARK;bSIGN;aCURRENCY NUMERATOR ONE;cTWO
9F6 cTHREE;cFOUR;cONE LESS THAN THE DENOMINATOR;bDENOMINATOR SIXTEEN;aISSHAR;aGANDA MARK
9FC aLETTER VEDIC ANUSVARA;aABBREVIATION SIGN;aSANDHI MARK
A01 GURMUKHI SIGN ADAK BINDI;bBINDI;bVISARGA
A05 aLETTER A;bAA;bI;bII;bU;bUU
A0F bEE;bAI
A13 bOO;bAU;bKA;bKHA;bGA;bGHA;bNGA;bCA;bCHA;bJA;bJHA;bNYA;bTTA;bTTHA;bDDA;bDDHA;bNNA;bTA;bTHA;bDA
A27 bDHA;bNA
A2A bPA;bPHA;bBA;bBHA;bMA;bYA;bRA
A32 bLA;bLLA
A35 bVA;bSHA
A38 bSA;bHA
A3C aSIGN NUKTA
A3E aVOWEL SIGN AA;cI;cII;cU;cUU
A47 cEE;cAI
A4B cOO;cAU;aSIGN VIRAMA
A51 bUDAAT
A59 aLETTER KHHA;bGHHA;bZA;bRRA
A5E bFA
A66 aDIGIT ZERO;bONE;bTWO;bTHREE;bFOUR;bFIVE;bSIX;bSEVEN;bEIGHT;bNINE;aTIPPI;aADDAK;aIRI;aURA
A74 aEK ONKAR;aSIGN YAKASH;aABBREVIATION SIGN
A81 GUJARATI SIGN CANDRABINDU;bANUSVARA;bVISARGA
A85 aLETTER A;bAA;bI;bII;bU;bUU;bVOCALIC R;cL;aVOWEL CANDRA E
A8F aLETTER E;bAI;aVOWEL CANDRA O
A93 aLETTER O;bAU;bKA;bKHA;bGA;bGHA;bNGA;bCA;bCHA;bJA;bJHA;bNYA;bTTA;bTTHA;bDDA;bDDHA;bNNA;bTA
AA5 bTHA;bDA;bDHA;bNA
AAA bPA;bPHA;bBA;bBHA;bMA;bYA;bRA
AB2 bLA;bLLA
AB5 bVA;bSHA;bSSA;bSA;bHA
ABC aSIGN NUKTA;bAVAGRAHA;aVOWEL SIGN AA;cI;cII;cU;cUU;cVOCALIC R;dRR;cCANDRA E
AC7 cE;cAI;cCANDRA O
ACB cO;cAU;aSIGN VIRAMA
AD0 aOM
AE0 aLETTER VOCALIC RR;cLL;aVOWEL SIGN VOCALIC L;dLL
AE6 aDIGIT ZERO;bONE;bTWO;bTHREE;bFOUR;bFIVE;bSIX;bSEVEN;bEIGHT;bNINE;aABBREVIATION SIGN
AF1 aRUPEE SIGN
AF9 aLETTER ZHA;aSIGN SUKUN;bSHADDA;bMADDAH;bTHREE-DOT NUKTA ABOVE;bCIRCLE NUKTA ABOVE
AFF bTWO-CIRCLE NUKTA ABOVE
B01 ORIYA SIGN CANDRABINDU;bANUSVARA;bVISARGA
B05 aLETTER A;bAA;bI;bII;bU;bUU;bVOCALIC R;cL
B0F bE;bAI
B13 bO;bAU;bKA;bKHA;bGA;bGHA;bNGA;bCA;bCHA;bJA;bJHA;bNYA;bTTA;bTTHA;bDDA;bDDHA;bNNA;bTA;bTHA;bDA
B27 bDHA;bNA
B2A bPA;bPHA;bBA;bBHA;bMA;bYA;bRA
B32 bLA;bLLA
B35 bVA;bSHA;bSSA;bSA;bHA
B3C aSIGN NUKTA;bAVAGRAHA;aVOWEL SIGN AA;cI;cII;cU;cUU;cVOCALIC R;dRR
B47 cE;cAI
B4B cO;cAU;aSIGN VIRAMA
B55 bOVERLINE;aAI LENGTH MARK;aAU LENGTH MARK
B5C aLETTER RRA;bRHA
B5F bYYA;bVOCALIC RR;cLL;aVOWEL SIGN VOCALIC L;dLL
B66 aDIGIT ZERO;bONE;bTWO;bTHREE;bFOUR;bFIVE;bSIX;bSEVEN;bEIGHT;bNINE;aISSHAR;aLETTER WA
B72 aFRACTION ONE QUARTER;cHALF;bTHREE QUARTERS;bONE SIXTEENTH;cEIGHTH;bTHREE SIXTEENTHS
B82 TAMIL SIGN ANUSVARA;bVISARGA
B85 aLETTER A;bAA;bI;bII;bU;bUU
B8E bE;bEE;bAI
B92 bO;bOO;bAU;bKA
B99 bNGA;bCA
B9C bJA
B9E bNYA;bTTA
BA3 bNNA;bTA
BA8 bNA;bNNNA;bPA
BAE bMA;bYA;bRA;bRRA;bLA;bLLA;bLLLA;bVA;bSHA;bSSA;bSA;bHA
BBE aVOWEL SIGN AA;cI;cII;cU;cUU
BC6 cE;cEE;cAI
BCA cO;cOO;cAU;aSIGN VIRAMA
BD0 aOM
BD7 aAU LENGTH MARK
BE6 aDIGIT ZERO;bONE;bTWO;bTHREE;bFOUR;bFIVE;bSIX;bSEVEN;bEIGHT;bNINE;aNUMBER TEN;bONE HUNDRED
BF2 cTHOUSAND;aDAY SIGN;aMONTH SIGN;aYEAR SIGN;aDEBIT SIGN;aCREDIT SIGN;aAS ABOVE SIGN;aRUPEE SIGN
BFA aNUMBER SIGN
C00 TELUGU SIGN COMBINING CANDRABINDU ABOVE;bCANDRABINDU;bANUSVARA;bVISARGA
C04 bCOMBINING ANUSVARA ABOVE;aLETTER A;bAA;bI;bII;bU;bUU;bVOCALIC R;cL
C0E bE;bEE;bAI
C12 bO;bOO;bAU;bKA;bKHA;bGA;bGHA;bNGA;bCA;bCHA;bJA;bJHA;bNYA;bTTA;bTTHA;bDDA;bDDHA;bNNA;bTA;bTHA
C26 bDA;bDHA;bNA
C2A bPA;bPHA;bBA;bBHA;bMA;bYA;bRA;bRRA;bLA;bLLA;bLLLA;bVA;bSHA;bSSA;bSA;bHA
C3C aSIGN NUKTA;bAVAGRAHA;aVOWEL SIGN AA;cI;cII;cU;cUU;cVOCALIC R;dRR
C46 cE;cEE;cAI
C4A cO;cOO;cAU;aSIGN VIRAMA
C55 aLENGTH MARK;aAI LENGTH MARK
C58 aLETTER TSA;bDZA;bRRRA
C5D bNAKAARA POLLU
C60 bVOCALIC RR;cLL;aVOWEL SIGN VOCALIC L;dLL
C66 aDIGIT ZERO;bONE;bTWO;bTHREE;bFOUR;bFIVE;bSIX;bSEVEN;bEIGHT;bNINE
C77 aSIGN SIDDHAM;aFRACTION DIGIT ZERO FOR ODD POWERS OF FOUR;cONE FOR ODD POWERS OF FOUR
C7A cTWO FOR ODD POWERS OF FOUR;cTHREE FOR ODD POWERS OF FOUR;cONE FOR EVEN POWERS OF FOUR
C7D cTWO FOR EVEN POWERS OF FOUR;cTHREE FOR EVEN POWERS OF FOUR;aSIGN TUUMU
C80 KANNADA SIGN SPACING CANDRABINDU;bCANDRABINDU;bANUSVARA;bVISARGA;bSIDDHAM;aLETTER A;bAA;bI;bII
C89 bU;bUU;bVOCALIC R;cL
C8E bE;bEE;bAI
C92 bO;bOO;bAU;bKA;bKHA;bGA;bGHA;bNGA;bCA;bCHA;bJA;bJHA;bNYA;bTTA;bTTHA;bDDA;bDDHA;bNNA;bTA;bTHA
CA6 bDA;bDHA;bNA
CAA bPA;bPHA;bBA;bBHA;bMA;bYA;bRA;bRRA;bLA;bLLA
CB5 bVA;bSHA;bSSA;bSA;bHA
CBC aSIGN NUKTA;bAVAGRAHA;aVOWEL SIGN AA;cI;cII;cU;cUU;cVOCALIC R;dRR
CC6 cE;cEE;cAI
CCA cO;cOO;cAU;aSIGN VIRAMA
CD5 aLENGTH MARK;aAI LENGTH MARK
CDD aLETTER NAKAARA POLLU;bFA
CE0 bVOCALIC RR;cLL;aVOWEL SIGN VOCALIC L;dLL
CE6 aDIGIT ZERO;bONE;bTWO;bTHREE;bFOUR;bFIVE;bSIX;bSEVEN;bEIGHT;bNINE
CF1 aSIGN JIHVAMULIYA;bUPADHMANIYA
D00 MALAYALAM SIGN COMBINING ANUSVARA ABOVE;bCANDRABINDU;bANUSVARA;bVISARGA;aLETTER VEDIC ANUSVARA
D05 bA;bAA;bI;bII;bU;bUU;bVOCALIC R;cL
D0E bE;bEE;bAI
D12 bO;bOO;bAU;bKA;bKHA;bGA;bGHA;bNGA;bCA;bCHA;bJA;bJHA;bNYA;bTTA;bTTHA;bDDA;bDDHA;bNNA;bTA;bTHA
D26 bDA;bDHA;bNA;bNNNA;bPA;bPHA;bBA;bBHA;bMA;bYA;bRA;bRRA;bLA;bLLA;bLLLA;bVA;bSHA;bSSA;bSA;bHA
D3A bTTTA;aSIGN VERTICAL BAR VIRAMA;bCIRCULAR VIRAMA;bAVAGRAHA;aVOWEL SIGN AA;cI;cII;cU;cUU
D43 cVOCALIC R;dRR
D46 cE;cEE;cAI
D4A cO;cOO;cAU;aSIGN VIRAMA;aLETTER DOT REPH;aSIGN PARA
D54 aLETTER CHILLU M;cY;cLLL;aAU LENGTH MARK;aFRACTION ONE ONE-HUNDRED-AND-SIXTIETH;cFORTIETH
D5A bTHREE EIGHTIETHS;bONE TWENTIETH;cTENTH;bTHREE TWENTIETHS;bONE FIFTH;aLETTER ARCHAIC II
D60 bVOCALIC RR;cLL;aVOWEL SIGN VOCALIC L;dLL
D66 aDIGIT ZERO;bONE;bTWO;bTHREE;bFOUR;bFIVE;bSIX;bSEVEN;bEIGHT;bNINE;aNUMBER TEN;bONE HUNDRED
D72 cTHOUSAND;aFRACTION ONE QUARTER;cHALF;bTHREE QUARTERS;bONE SIXTEENTH;cEIGHTH;bTHREE SIXTEENTHS
D79 aDATE MARK;aLETTER CHILLU NN;cN;cRR;cL;cLL;cK
D81 SINHALA SIGN CANDRABINDU;bANUSVARAYA;bVISARGAYA
D85 aLETTER AYANNA;bAAYANNA;bAEYANNA;bAEEYANNA;bIYANNA;bIIYANNA;bUYANNA;bUUYANNA;bIRUYANNA
D8E bIRUUYANNA;bILUYANNA;bILUUYANNA;bEYANNA;bEEYANNA;bAIYANNA;bOYANNA;bOOYANNA;bAUYANNA
D9A bALPAPRAANA KAYANNA;bMAHAAPRAANA KAYANNA;bALPAPRAANA GAYANNA;bMAHAAPRAANA GAYANNA
D9E bKANTAJA NAASIKYAYA;bSANYAKA GAYANNA;bALPAPRAANA CAYANNA;bMAHAAPRAANA CAYANNA
DA2 bALPAPRAANA JAYANNA;bMAHAAPRAANA JAYANNA;bTAALUJA NAASIKYAYA;cSANYOOGA NAAKSIKYAYA
DA6 bSANYAKA JAYANNA;bALPAPRAANA TTAYANNA;bMAHAAPRAANA TTAYANNA;bALPAPRAANA DDAYANNA
DAA bMAHAAPRAANA DDAYANNA;bMUURDHAJA NAYANNA;bSANYAKA DDAYANNA;bALPAPRAANA TAYANNA
DAE bMAHAAPRAANA TAYANNA;bALPAPRAANA DAYANNA;bMAHAAPRAANA DAYANNA;bDANTAJA NAYANNA
DB3 bSANYAKA DAYANNA;bALPAPRAANA PAYANNA;bMAHAAPRAANA PAYANNA;bALPAPRAANA BAYANNA
DB7 bMAHAAPRAANA BAYANNA;bMAYANNA;bAMBA BAYANNA;bYAYANNA;bRAYANNA
DBD bDANTAJA LAYANNA
DC0 bVAYANNA;bTAALUJA SAYANNA;bMUURDHAJA SAYANNA;bDANTAJA SAYANNA;bHAYANNA;bMUURDHAJA LAYANNA
DC6 bFAYANNA
DCA aSIGN AL-LAKUNA
DCF aVOWEL SIGN AELA-PILLA;cKETTI AEDA-PILLA;cDIGA AEDA-PILLA;cKETTI IS-PILLA;cDIGA IS-PILLA
DD4 cKETTI PAA-PILLA
DD6 cDIGA PAA-PILLA
DD8 cGAETTA-PILLA;cKOMBUVA;cDIGA KOMBUVA;cKOMBU DEKA;cKOMBUVA HAA AELA-PILLA;eDIGA AELA-PILLA
DDE eGAYANUKITTA;cGAYANUKITTA
DE6 aLITH DIGIT ZERO;cONE;cTWO;cTHREE;cFOUR;cFIVE;cSIX;cSEVEN;cEIGHT;cNINE
DF2 aVOWEL SIGN DIGA GAETTA-PILLA;dGAYANUKITTA;aPUNCTUATION KUNDDALIYA"

end Stencil.CharacterName
