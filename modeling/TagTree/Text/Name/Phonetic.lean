import TagTree.Text.Name.Basic

/-!
# Names of characters: phonetic and additional letters

From Lepcha to polytonic Greek, with the phonetic extensions among them.
-/

namespace TagTree.Text

/-- The runs of named characters from 0x1c00 to 0x1fff. -/
def phoneticNames : List NameRun :=
  [ ⟨0x1c00, "LEPCHA . KA;2KLA;KHA;GA;GLA;NGA;CA;CHA;JA;NYA;TA;THA;DA;NA;PA;PLA;PHA;FA;FLA;BA;BLA
MA;MLA;TSA;TSHA;DZA;YA;RA;LA;HA;HLA;VA;SA;SHA;WA;A;1SUBJOINED . YA;3RA;1VOWEL $ AA;3I;O;OO;U;UU;E
1CONSONANT $ K;3M;L;N;P;R;T;NYIN-DO;KANG;1$ RAN;2NUKTA"⟩,
    ⟨0x1c3b, "LEPCHA PUNCTUATION TA-ROL;2aNYET THYOOM;CER-WA;aTSHOOK;TSHOOK;1DIGIT ZERO;2ONE;TWO
%;FOUR;FIVE;SIX;SEVEN;EIGHT;NINE"⟩,
    ⟨0x1c4d, "LEPCHA . TTA;2TTHA;DDA;0OL CHIKI DIGIT ZERO;3ONE;TWO;%;FOUR;FIVE;SIX;SEVEN;EIGHT
NINE;2. LA;3AT;AG;ANG;AL;LAA;AAK;AAJ;AAM;AAW;LI;IS;IH;INY;IR;LU;UC;+1;UNN;UY;LE;EP;EDD;EN;ERR;LO
OTT;OB;OV;OH;2MU TTUDDAG;GAAHLAA TTUDDAAG;aMU-GAAHLAA;RELAA;PHAARKAA;AHAD;PUNCTUATION MUCAAD;3a=
0CYRILLIC _ . ROUNDED VE;3LONG-LEGGED DE;NARROW O;WIDE ES;TALL TE;aTHREE-LEGGED;TALL HARD $;4YAT
3UNBLENDED UK"⟩,
    ⟨0x1c90, "GEORGIAN MTAVRULI ^ . AN;4BAN;GAN;DON;EN;VIN;ZEN;TAN;IN;KAN;LAS;MAN;NAR;ON;PAR;ZHAR
RAE;SAN;TAR;UN;PHAR;KHAR;GHAN;QAR;SHIN;CHIN;CAN;JIL;CIL;CHAR;XAN;JHAN;HAE;HE;HIE;WE;HAR;HOE;FI;YN
ELIFI;TURNED GAN;AIN"⟩,
    ⟨0x1cbd, "GEORGIAN MTAVRULI ^ . AEN;4HARD $;aLABIAL;0SUNDANESE PUNCTUATION BINDU SURYA
3PANGLONG;PURNAMA;CAKRA;LEU SATANGA;aKA;aDA;aBA"⟩,
    ⟨0x1cd0, "VEDIC TONE KARSHANA;2SHARA;PRENKHA;1$ NIHSHVASA;2YAJURVEDIC MIDLINE SVARITA
1aTONE YAJURVEDIC AGGRAVATED INDEPENDENT;2bYAJURVEDIC;3bKATHAKA;2CANDRA BELOW
YAJURVEDIC KATHAKA INDEPENDENT SVARITA SCHROEDER;= SVARITA;aTRIPLE;KATHAKA ANUDATTA;DOT BELOW
aTWO DOTS;b%;RIGVEDIC KASHMIRI INDEPENDENT SVARITA;bATHARVAVEDIC;1a$ VISARGA;3UDATTA;2bREVERSED
VISARGA ANUDATTA;bREVERSED;VISARGA UDATTA & TAIL;3bANUDATTA;2ANUSVARA ANTARGOMUKHA;3BAHIRGOMUKHA
VAMAGOMUKHA;4& TAIL;2TIRYAK;HEXIFORM LONG ANUSVARA;1b$;2bRTHANG;ANUSVARA UBHAYATO MUKHA
ARDHAVISARGA;aROTATED;1TONE CANDRA *;$ JIHVAMULIYA;2UPADHMANIYA;ATIKRAMA;1TONE RING *;2b=
1$ = ANUSVARA ANTARGOMUKHA"⟩,
    ⟨0x1d00, "LATIN . _ ^ A;4AE;1a_ . TURNED;. _ ^ BARRED B;4C;+1;ETH;E;1a_ . TURNED OPEN;4I
1. _ ^ J;+1;4L & STROKE;M;REVERSED N;O;aOPEN;1a_ . SIDEWAYS;4aOPEN;O & STROKE;3TURNED OE
1. _ ^ OU;_ . TOP HALF O;3bBOTTOM;1. _ ^ P;4REVERSED R;aTURNED;T;+1;1a_ . SIDEWAYS;4aDIAERESIZED
TURNED M;1. _ ^ V;+1;4Z;EZH;2VOICED LARYNGEAL SPIRANT;AIN;0GREEK . _ ^ GAMMA;4LAMDA;PI;RHO;PSI
0CYRILLIC . _ ^ EL;MODIFIER . ^ A;3AE;B;aBARRED;D;+1;aREVERSED;G;+7;aREVERSED;O;OU;P;R;T;+1;W
2_ A;3aTURNED;ALPHA;TURNED AE;B;D;+1;SCHWA;OPEN E;bTURNED;G;TURNED I;K;M;ENG;O;aOPEN;aTOP HALF
bBOTTOM;P;T;+1;aSIDEWAYS;TURNED M;V;AIN;BETA;GREEK GAMMA;DELTA;GREEK PHI;CHI
0LATIN SUBSCRIPT _ . I;4R;U;+1;0GREEK SUBSCRIPT _ . BETA;4GAMMA;RHO;PHI;CHI;0LATIN _ . UE
3B & MIDDLE TILDE;cD;cF;cM;cN;cP;cR;5bFISHHOOK ?;3bS &;cT;cZ;TURNED G;0MODIFIER . CYRILLIC EN
LATIN _ . INSULAR G;3TH & STRIKETHROUGH;2^ . I & STROKE;b. IOTA;3bP;2b^ . U;b. UPSILON
3B & PALATAL HOOK;cD;cF;cG;cK;cL;cM;cN;cP;cR;cS;cESH;cV;cX;cZ;aA & RETROFLEX;cALPHA
D & HOOK ? TAIL;E & RETROFLEX HOOK;dOPEN;eREVERSED;cSCHWA;cI;cOPEN O;cESH;cU;cEZH
0MODIFIER . _ TURNED ALPHA;3C;4& CURL;3ETH;REVERSED OPEN E;F;DOTLESS J & STROKE;SCRIPT G;TURNED H
I & STROKE;IOTA;^ I;5& STROKE;3J & CROSSED-TAIL;L & RETROFLEX HOOK;5aPALATAL;3^ L;M & HOOK
TURNED M & LONG LEG;N & < HOOK;5aRETROFLEX;3^ N;BARRED O;PHI;S & HOOK;ESH;T & PALATAL HOOK;U BAR
UPSILON;^ U;V & HOOK;TURNED V;Z;4& RETROFLEX HOOK;5CURL;3EZH;THETA;0COMBINING DOTTED GRAVE ACCENT
2aACUTE;1SNAKE BELOW;SUSPENSION MARK;MACRON-ACUTE;GRAVE-MACRON;MACRON-GRAVE;ACUTE-MACRON
GRAVE-ACUTE-GRAVE;ACUTE-GRAVE-ACUTE;LATIN _ . R BELOW;BREVE-MACRON;MACRON-BREVE;= CIRCUMFLEX *
aOGONEK;ZIGZAG BELOW;aIS;UR *;aUS;aLATIN _ . FLATTENED OPEN A;4AE;AO;AV;C CEDILLA;INSULAR D;ETH;G
2a. _ ^;_ . K;+1;a. _ ^;+1;_ . N;a. _ ^;5R;2_ . R ROTUNDA;4S;aLONG;Z;ALPHA;B;BETA;SCHWA;F
L & = MIDDLE TILDE;O & LIGHT CENTRALIZATION STROKE;P;ESH;U & LIGHT CENTRALIZATION STROKE;W
A & DIAERESIS;bO;bU;1UP TACK *;KAVYKA * >;3<;1bDOT;WIDE INVERTED BRIDGE BELOW;DOT BELOW <
DELETION MARK;= INVERTED BREVE BELOW;aALMOST EQUAL TO;< ARROWHEAD *
> ARROWHEAD ? DOWN ARROWHEAD BELOW;0aLATIN ^ . A & RING;1e_;^ . B & DOT *;e_;^ . B & DOT BELOW;e_
a^ . B & LINE;e_;^ . C & CEDILLA ? ACUTE;f_;^ . D & DOT *;e_;^ . D & DOT BELOW;e_;a^ . D & LINE
e_;^ . D & CEDILLA;d_;^ . D & CIRCUMFLEX BELOW;e_;^ . E & MACRON ? GRAVE;f_
^ . E & MACRON ? ACUTE;f_;^ . E & CIRCUMFLEX BELOW;e_;a^ . E & TILDE;e_;^ . E & CEDILLA ? BREVE
f_;^ . F & DOT *;e_;^ . G & MACRON;d_;^ . H & DOT *;e_;^ . H & DOT BELOW;e_;^ . H & DIAERESIS;d_
^ . H & CEDILLA;d_;^ . H & BREVE BELOW;e_;a^ . I & TILDE;e_;^ . I & DIAERESIS ? ACUTE;f_;a^ . K &
d_;^ . K & DOT BELOW;e_;a^ . K & LINE;e_;a^ . L & DOT;e_;^ . L & DOT BELOW ? MACRON;g_
^ . L & LINE BELOW;e_;a^ . L & CIRCUMFLEX;e_;^ . M & ACUTE;d_;^ . M & DOT *;e_;^ . M & DOT BELOW
e_;^ . N & DOT *;e_;^ . N & DOT BELOW;e_;a^ . N & LINE;e_;a^ . N & CIRCUMFLEX;e_
^ . O & TILDE ? ACUTE;f_;^ . O & TILDE ? DIAERESIS;f_;^ . O & MACRON ? GRAVE;f_
^ . O & MACRON ? ACUTE;f_;a^ . P &;d_;^ . P & DOT *;e_;c^ . R;e_;^ . R & DOT BELOW;e_
^ . R & DOT BELOW ? MACRON;g_;^ . R & LINE BELOW;e_;^ . S & DOT *;e_;^ . S & DOT BELOW;e_
^ . S & ACUTE ? DOT *;g_;c^ . S & CARON;g_;c^ . S & DOT BELOW;h_;b^ . T &;e_;^ . T & DOT BELOW;e_
a^ . T & LINE;e_;a^ . T & CIRCUMFLEX;e_;a^ . U & DIAERESIS;e_;a^ . U & TILDE;e_
a^ . U & CIRCUMFLEX;e_;^ . U & TILDE ? ACUTE;f_;^ . U & MACRON ? DIAERESIS;f_;^ . V & TILDE;d_
^ . V & DOT BELOW;e_;^ . W & GRAVE;d_;^ . W & ACUTE;d_;^ . W & DIAERESIS;d_;^ . W & DOT *;e_
^ . W & DOT BELOW;e_;^ . X & DOT *;e_;^ . X & DIAERESIS;d_;^ . Y & DOT *;e_;^ . Z & CIRCUMFLEX;d_
^ . Z & DOT BELOW;e_;a^ . Z & LINE;e_;3cH;T & DIAERESIS;W & RING *;cY;A & > HALF RING
LONG S & DOT *;6DIAGONAL STROKE;aHIGH;1^ . SHARP S;_ . DELTA;^ . A & DOT BELOW;e_;^ . A & HOOK *
e_;^ . A & CIRCUMFLEX ? ACUTE;f_;^ . A & CIRCUMFLEX ? GRAVE;f_;^ . A & CIRCUMFLEX ? HOOK *;g_
^ . A & CIRCUMFLEX ? TILDE;f_;^ . A & CIRCUMFLEX ? DOT BELOW;g_;^ . A & BREVE ? ACUTE;f_
^ . A & BREVE ? GRAVE;f_;^ . A & BREVE ? HOOK *;g_;^ . A & BREVE ? TILDE;f_
^ . A & BREVE ? DOT BELOW;g_;b^ . E &;e_;^ . E & HOOK *;e_;^ . E & TILDE;d_
^ . E & CIRCUMFLEX ? ACUTE;f_;^ . E & CIRCUMFLEX ? GRAVE;f_;^ . E & CIRCUMFLEX ? HOOK *;g_
^ . E & CIRCUMFLEX ? TILDE;f_;^ . E & CIRCUMFLEX ? DOT BELOW;g_;^ . I & HOOK *;e_
^ . I & DOT BELOW;e_;c^ . O;e_;^ . O & HOOK *;e_;^ . O & CIRCUMFLEX ? ACUTE;f_
^ . O & CIRCUMFLEX ? GRAVE;f_;^ . O & CIRCUMFLEX ? HOOK *;g_;^ . O & CIRCUMFLEX ? TILDE;f_
^ . O & CIRCUMFLEX ? DOT BELOW;g_;^ . O & HORN ? ACUTE;f_;^ . O & HORN ? GRAVE;f_
^ . O & HORN ? HOOK *;g_;^ . O & HORN ? TILDE;f_;^ . O & HORN ? DOT BELOW;g_;b^ . U &;e_
^ . U & HOOK *;e_;^ . U & HORN ? ACUTE;f_;^ . U & HORN ? GRAVE;f_;^ . U & HORN ? HOOK *;g_
^ . U & HORN ? TILDE;f_;^ . U & HORN ? DOT BELOW;g_;^ . Y & GRAVE;d_;^ . Y & DOT BELOW;e_
^ . Y & HOOK *;e_;^ . Y & TILDE;d_;^ . MIDDLE-WELSH LL;c_;^ . MIDDLE-WELSH V;c_;^ . Y & LOOP;d_
0GREEK _ . ALPHA & PSILI;5DASIA;PSILI ? VARIA;bDASIA;PSILI ? OXIA;bDASIA;PSILI ? PERISPOMENI
bDASIA;1^ . ALPHA & PSILI;5DASIA;PSILI ? VARIA;bDASIA;PSILI ? OXIA;bDASIA;PSILI ? PERISPOMENI
bDASIA;1_ . EPSILON & PSILI;5DASIA;PSILI ? VARIA;bDASIA;PSILI ? OXIA;bDASIA"⟩,
    ⟨0x1f18, "GREEK ^ . EPSILON & PSILI;5DASIA;PSILI ? VARIA;bDASIA;PSILI ? OXIA;bDASIA"⟩,
    ⟨0x1f20, "GREEK _ . ETA & PSILI;5DASIA;PSILI ? VARIA;bDASIA;PSILI ? OXIA;bDASIA
PSILI ? PERISPOMENI;bDASIA;1^ . ETA & PSILI;5DASIA;PSILI ? VARIA;bDASIA;PSILI ? OXIA;bDASIA
PSILI ? PERISPOMENI;bDASIA;1_ . IOTA & PSILI;5DASIA;PSILI ? VARIA;bDASIA;PSILI ? OXIA;bDASIA
PSILI ? PERISPOMENI;bDASIA;1^ . IOTA & PSILI;5DASIA;PSILI ? VARIA;bDASIA;PSILI ? OXIA;bDASIA
PSILI ? PERISPOMENI;bDASIA;1_ . OMICRON & PSILI;5DASIA;PSILI ? VARIA;bDASIA;PSILI ? OXIA;bDASIA"⟩,
    ⟨0x1f48, "GREEK ^ . OMICRON & PSILI;5DASIA;PSILI ? VARIA;bDASIA;PSILI ? OXIA;bDASIA"⟩,
    ⟨0x1f50, "GREEK _ . UPSILON & PSILI;5DASIA;PSILI ? VARIA;bDASIA;PSILI ? OXIA;bDASIA
PSILI ? PERISPOMENI;bDASIA"⟩,
    ⟨0x1f59, "GREEK ^ . UPSILON & DASIA"⟩,
    ⟨0x1f5b, "GREEK ^ . UPSILON & DASIA ? VARIA"⟩,
    ⟨0x1f5d, "GREEK ^ . UPSILON & DASIA ? OXIA"⟩,
    ⟨0x1f5f, "GREEK ^ . UPSILON & DASIA ? PERISPOMENI;1_ . OMEGA & PSILI;5DASIA;PSILI ? VARIA
bDASIA;PSILI ? OXIA;bDASIA;PSILI ? PERISPOMENI;bDASIA;1^ . OMEGA & PSILI;5DASIA;PSILI ? VARIA
bDASIA;PSILI ? OXIA;bDASIA;PSILI ? PERISPOMENI;bDASIA;1_ . ALPHA & VARIA;5OXIA;3EPSILON & VARIA
5OXIA;3ETA & VARIA;5OXIA;3IOTA & VARIA;5OXIA;3OMICRON & VARIA;5OXIA;3UPSILON & VARIA;5OXIA
3OMEGA & VARIA;5OXIA"⟩,
    ⟨0x1f80, "GREEK _ . ALPHA & PSILI ? YPOGEGRAMMENI;5bDASIA;bPSILI ? VARIA;dDASIA;bPSILI ? OXIA
dDASIA;bPSILI ? PERISPOMENI;dDASIA;1^ . ALPHA & PSILI ? PROSGEGRAMMENI;5bDASIA;bPSILI ? VARIA
dDASIA;bPSILI ? OXIA;dDASIA;bPSILI ? PERISPOMENI;dDASIA;1_ . ETA & PSILI ? YPOGEGRAMMENI;5bDASIA
bPSILI ? VARIA;dDASIA;bPSILI ? OXIA;dDASIA;bPSILI ? PERISPOMENI;dDASIA
1^ . ETA & PSILI ? PROSGEGRAMMENI;5bDASIA;bPSILI ? VARIA;dDASIA;bPSILI ? OXIA;dDASIA
bPSILI ? PERISPOMENI;dDASIA;1_ . OMEGA & PSILI ? YPOGEGRAMMENI;5bDASIA;bPSILI ? VARIA;dDASIA
bPSILI ? OXIA;dDASIA;bPSILI ? PERISPOMENI;dDASIA;1^ . OMEGA & PSILI ? PROSGEGRAMMENI;5bDASIA
bPSILI ? VARIA;dDASIA;bPSILI ? OXIA;dDASIA;bPSILI ? PERISPOMENI;dDASIA;1_ . ALPHA & VRACHY
5MACRON;VARIA ? YPOGEGRAMMENI;4a&;5aOXIA ?"⟩,
    ⟨0x1fb6, "GREEK _ . ALPHA & PERISPOMENI;6? YPOGEGRAMMENI;1^ . ALPHA & VRACHY;5MACRON;VARIA
OXIA;PROSGEGRAMMENI;1KORONIS;PROSGEGRAMMENI;PSILI;PERISPOMENI;aDIALYTIKA ?
_ . ETA & VARIA ? YPOGEGRAMMENI;4a&;5aOXIA ?"⟩,
    ⟨0x1fc6, "GREEK _ . ETA & PERISPOMENI;6? YPOGEGRAMMENI;1^ . EPSILON & VARIA;5OXIA
3ETA & VARIA;5OXIA;PROSGEGRAMMENI;1PSILI ? VARIA;3OXIA;PERISPOMENI;1_ . IOTA & VRACHY;5MACRON
DIALYTIKA ? VARIA;7OXIA"⟩,
    ⟨0x1fd6, "GREEK _ . IOTA & PERISPOMENI;5aDIALYTIKA ?;1^ . IOTA & VRACHY;5MACRON;VARIA;OXIA"⟩,
    ⟨0x1fdd, "GREEK DASIA ? VARIA;3OXIA;PERISPOMENI;1_ . UPSILON & VRACHY;5MACRON
DIALYTIKA ? VARIA;7OXIA;3RHO & PSILI;5DASIA;3UPSILON & PERISPOMENI;5aDIALYTIKA ?
1^ . UPSILON & VRACHY;5MACRON;VARIA;OXIA;3RHO & DASIA;1DIALYTIKA ? VARIA;3OXIA;1VARIA"⟩,
    ⟨0x1ff2, "GREEK _ . OMEGA & VARIA ? YPOGEGRAMMENI;4a&;5aOXIA ?"⟩,
    ⟨0x1ff6, "GREEK _ . OMEGA & PERISPOMENI;6? YPOGEGRAMMENI;1^ . OMICRON & VARIA;5OXIA
3OMEGA & VARIA;5OXIA;PROSGEGRAMMENI;1OXIA;DASIA"⟩ ]

end TagTree.Text
