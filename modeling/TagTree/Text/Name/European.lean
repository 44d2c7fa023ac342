import TagTree.Text.Name.Basic

/-!
# Names of characters: European and Near Eastern scripts

The scripts of Europe and the Near East, from Latin to N'Ko.
-/

namespace TagTree.Text

/-- The runs of named characters from 0x0 to 0x7ff. -/
def europeanNames : List NameRun :=
  [ ⟨0x20, "SPACE;EXCLAMATION MARK;aQUOTATION;NUMBER $;aDOLLAR;aPERCENT;AMPERSAND;APOSTROPHE
< PARENTHESIS;a>;ASTERISK;PLUS $;COMMA;HYPHEN-MINUS;FULL STOP;SOLIDUS;DIGIT ZERO;1ONE;TWO;%;FOUR
FIVE;SIX;SEVEN;EIGHT;NINE;0COLON;SEMICOLON;LESS-THAN $;aEQUALS;aGREATER-THAN;QUESTION MARK
COMMERCIAL AT;LATIN ^ . A;+25;< SQUARE BRACKET;REVERSE SOLIDUS;> SQUARE BRACKET;CIRCUMFLEX ACCENT
LOW LINE;GRAVE ACCENT;LATIN _ . A;+25;< CURLY BRACKET;! LINE;> CURLY BRACKET;TILDE"⟩,
    ⟨0xa0, "NO-BREAK SPACE;INVERTED EXCLAMATION MARK;CENT $;aPOUND;aCURRENCY;aYEN;BROKEN BAR
SECTION $;DIAERESIS;COPYRIGHT $;FEMININE ORDINAL INDICATOR;LEFT-POINTING = ANGLE QUOTATION MARK
NOT $;SOFT HYPHEN;REGISTERED $;MACRON;DEGREE $;aPLUS-MINUS;SUPERSCRIPT TWO;1%;0ACUTE ACCENT
MICRO $;aPILCROW;MIDDLE DOT;CEDILLA;SUPERSCRIPT ONE;MASCULINE ORDINAL INDICATOR
RIGHT-POINTING = ANGLE QUOTATION MARK;VULGAR FRACTION ONE QUARTER;3HALF;2% QUARTERS
0INVERTED QUESTION MARK;LATIN ^ . A & GRAVE;5ACUTE;CIRCUMFLEX;TILDE;DIAERESIS;RING *;3AE
C & CEDILLA;E & GRAVE;5ACUTE;CIRCUMFLEX;DIAERESIS;3I & GRAVE;5ACUTE;CIRCUMFLEX;DIAERESIS;3ETH
N & TILDE;O & GRAVE;5ACUTE;CIRCUMFLEX;TILDE;DIAERESIS;0MULTIPLICATION $;LATIN ^ . O & STROKE
3U & GRAVE;5ACUTE;CIRCUMFLEX;DIAERESIS;3Y & ACUTE;THORN;1_ . SHARP S;3A & GRAVE;5ACUTE;CIRCUMFLEX
TILDE;DIAERESIS;RING *;3AE;C & CEDILLA;E & GRAVE;5ACUTE;CIRCUMFLEX;DIAERESIS;3I & GRAVE;5ACUTE
CIRCUMFLEX;DIAERESIS;3ETH;N & TILDE;O & GRAVE;5ACUTE;CIRCUMFLEX;TILDE;DIAERESIS;0DIVISION $
LATIN _ . O & STROKE;3U & GRAVE;5ACUTE;CIRCUMFLEX;DIAERESIS;3Y & ACUTE;THORN;Y & DIAERESIS
1^ . A & MACRON;d_;^ . A & BREVE;d_;^ . A & OGONEK;d_;^ . C & ACUTE;d_;^ . C & CIRCUMFLEX;d_
^ . C & DOT *;e_;^ . C & CARON;d_;b^ . D;d_;^ . D & STROKE;d_;^ . E & MACRON;d_;^ . E & BREVE;d_
^ . E & DOT *;e_;^ . E & OGONEK;d_;^ . E & CARON;d_;^ . G & CIRCUMFLEX;d_;^ . G & BREVE;d_
^ . G & DOT *;e_;^ . G & CEDILLA;d_;^ . H & CIRCUMFLEX;d_;^ . H & STROKE;d_;^ . I & TILDE;d_
^ . I & MACRON;d_;^ . I & BREVE;d_;^ . I & OGONEK;d_;^ . I & DOT *;_ . DOTLESS I;^ LIGATURE IJ;b_
^ . J & CIRCUMFLEX;d_;^ . K & CEDILLA;d_;3KRA;1^ . L & ACUTE;d_;^ . L & CEDILLA;d_;^ . L & CARON
d_;^ . L & MIDDLE DOT;e_;^ . L & STROKE;d_;^ . N & ACUTE;d_;^ . N & CEDILLA;d_;^ . N & CARON;d_
4PRECEDED BY APOSTROPHE;1^ . ENG;b_;^ . O & MACRON;d_;^ . O & BREVE;d_;^ . O & = ACUTE;e_
^ LIGATURE OE;b_;^ . R & ACUTE;d_;^ . R & CEDILLA;d_;^ . R & CARON;d_;^ . S & ACUTE;d_
^ . S & CIRCUMFLEX;d_;^ . S & CEDILLA;d_;^ . S & CARON;d_;^ . T & CEDILLA;d_;^ . T & CARON;d_
^ . T & STROKE;d_;^ . U & TILDE;d_;^ . U & MACRON;d_;^ . U & BREVE;d_;^ . U & RING *;e_
^ . U & = ACUTE;e_;^ . U & OGONEK;d_;^ . W & CIRCUMFLEX;d_;b^ . Y;d_;^ . Y & DIAERESIS;3Z & ACUTE
1d_;^ . Z & DOT *;e_;^ . Z & CARON;d_;3LONG S;B & STROKE;1^ . B & HOOK;5TOPBAR;1d_;^ . TONE SIX
c_;^ . OPEN O;3C & HOOK;1d_;^ . AFRICAN D;3D & HOOK;5TOPBAR;1d_;3TURNED DELTA;1^ . REVERSED E
3SCHWA;OPEN E;F & HOOK;1d_;b^ . G;3GAMMA;1_ . HV;^ . IOTA;3I & STROKE;K & HOOK;1d_;3L & BAR
LAMBDA & STROKE;1^ . TURNED M;3N & < HOOK;1_ . N & LONG > LEG;^ . O & MIDDLE TILDE;5HORN;1d_
^ . OI;b_;^ . P & HOOK;d_;. YR;^ . TONE TWO;c_;^ . ESH;. REVERSED ESH LOOP;_ . T & PALATAL HOOK
a^ . T &;d_;a^ . T & RETROFLEX;3U & HORN;1d_;^ . UPSILON;3V & HOOK;bY;1d_;^ . Z & STROKE;d_
^ . EZH;4REVERSED;1c_;4& TAIL;1. TWO & STROKE;^ . TONE FIVE;c_;. INVERTED GLOTTAL STOP & STROKE
2WYNN;DENTAL CLICK;aLATERAL;aALVEOLAR;aRETROFLEX;1^ . DZ & CARON;3bD & _ . Z;1b_ . DZ;^ . LJ
3L & _ . J;1_ . LJ;^ . NJ;3N & _ . J;1_ . NJ;^ . A & CARON;d_;b^ . I;d_;b^ . O;d_;b^ . U;d_
^ . U & DIAERESIS ? MACRON;f_;^ . U & DIAERESIS ? ACUTE;f_;^ . U & DIAERESIS ? CARON;f_
^ . U & DIAERESIS ? GRAVE;f_;3TURNED E;1^ . A & DIAERESIS ? MACRON;f_;b^ . A & DOT *;g_;a^ . AE &
d_;^ . G & STROKE;d_;^ . G & CARON;d_;b^ . K;d_;^ . O & OGONEK;d_;^ . O & OGONEK ? MACRON;f_
^ . EZH & CARON;d_;3bJ;1^ . DZ;3D & _ . Z;1_ . DZ;^ . G & ACUTE;d_;^ . HWAIR;3WYNN;N & GRAVE;1d_
^ . A & RING * ? ACUTE;g_;a^ . AE &;d_;a^ . O & STROKE ?;f_;^ . A & = GRAVE;e_
^ . A & INVERTED BREVE;e_;^ . E & = GRAVE;e_;^ . E & INVERTED BREVE;e_;^ . I & = GRAVE;e_
^ . I & INVERTED BREVE;e_;^ . O & = GRAVE;e_;^ . O & INVERTED BREVE;e_;^ . R & = GRAVE;e_
^ . R & INVERTED BREVE;e_;^ . U & = GRAVE;e_;^ . U & INVERTED BREVE;e_;^ . S & COMMA BELOW;e_
c^ . T;e_;^ . YOGH;b_;^ . H & CARON;d_;^ . N & LONG > LEG;_ . D & CURL;^ . OU;b_;^ . Z & HOOK;d_
^ . A & DOT *;e_;^ . E & CEDILLA;d_;^ . O & DIAERESIS ? MACRON;f_;b^ . O & TILDE;f_;^ . O & DOT *
e_;^ . O & DOT * ? MACRON;g_;a^ . Y &;d_;3L & CURL;bN;bT;DOTLESS J;DB DIGRAPH;aQP;1^ . A & STROKE
3bC;1d_;^ . L & BAR;3T & DIAGONAL STROKE;1_ . S & SWASH TAIL;3cZ;1^ . GLOTTAL STOP;c_
^ . B & STROKE;3U BAR;TURNED V;E & STROKE;1d_;b^ . J;d_;^ . _ Q & HOOK TAIL;d_ .;^ . R & STROKE
d_;b^ . Y;d_;3TURNED A;ALPHA;aTURNED;B & HOOK;OPEN O;C & CURL;D & TAIL;5HOOK;3REVERSED E;SCHWA
4& HOOK;3OPEN E;bREVERSED;6& HOOK;3CLOSED REVERSED OPEN E;DOTLESS J & STROKE;G & HOOK;SCRIPT G
1a. _ ^;_ . GAMMA;3RAMS HORN;TURNED H;H & HOOK;bHENG;I & STROKE;IOTA;1. _ ^ I
_ . L & MIDDLE TILDE;5BELT;RETROFLEX HOOK;3LEZH;TURNED M;5& LONG LEG;3M & HOOK;aN & <;5aRETROFLEX
1. _ ^ N;_ . BARRED O;. _ ^ OE;_ . CLOSED OMEGA;3PHI;TURNED R;5& LONG LEG;6HOOK;3R & LONG LEG
5TAIL;FISHHOOK;3cREVERSED;1. _ ^ R;4aINVERTED;1_ . S & HOOK;3ESH;DOTLESS J & STROKE ? HOOK
SQUAT REVERSED ESH;ESH & CURL;TURNED T;T & RETROFLEX HOOK;U BAR;UPSILON;V & HOOK;TURNED V;+1;4Y
1a. _ ^;_ . Z & RETROFLEX HOOK;5CURL;3EZH;4& CURL;1. GLOTTAL STOP;2PHARYNGEAL VOICED FRICATIVE
INVERTED GLOTTAL STOP;STRETCHED C;BILABIAL CLICK;_ ^ B;1_ . CLOSED OPEN E;. _ ^ G & HOOK;4H
1_ . J & CROSSED-TAIL;3TURNED K;1. _ ^ L;_ . Q & HOOK;. GLOTTAL STOP & STROKE;2dREVERSED
1_ . DZ DIGRAPH;3aDEZH;DZ DIGRAPH & CURL;TS DIGRAPH;aTESH;TC DIGRAPH & CURL;FENG DIGRAPH;aLS;aLZ
1. BILABIAL PERCUSSIVE;2aBIDENTAL;1_ . TURNED H & FISHHOOK;7? TAIL;0MODIFIER . _ H;4& HOOK;3J;R
aTURNED;5& HOOK;3^ INVERTED R;W;Y;2PRIME;a=;TURNED COMMA;APOSTROPHE;REVERSED COMMA;> HALF RING;b<
GLOTTAL STOP;bREVERSED;< ARROWHEAD;a>;aUP;aDOWN;CIRCUMFLEX ACCENT;0CARON;MODIFIER . ! LINE
2MACRON;ACUTE ACCENT;aGRAVE;LOW ! LINE;3MACRON;GRAVE ACCENT;aACUTE;2TRIANGULAR COLON;bHALF
CENTRED > HALF RING;3b<;2UP TACK;aDOWN;PLUS $;aMINUS;0BREVE;DOT *;aRING;OGONEK;_ TILDE
= ACUTE ACCENT;MODIFIER . RHOTIC HOOK;2CROSS ACCENT;_ GAMMA;3L;S;X;REVERSED GLOTTAL STOP
2EXTRA-HIGH TONE BAR;bHIGH;bMID;bLOW;bEXTRA-LOW;YIN DEPARTING TONE MARK;cYANG;VOICING;UNASPIRATED
= APOSTROPHE;LOW DOWN ARROWHEAD;3aUP;a<;a>;RING;2MIDDLE GRAVE ACCENT;3b=;4aACUTE;2LOW TILDE
RAISED COLON;BEGIN HIGH TONE;bEND;aBEGIN LOW;bEND;SHELF;aOPEN;LOW < :;0COMBINING GRAVE ACCENT
1aACUTE;aCIRCUMFLEX;TILDE;MACRON;OVERLINE;BREVE;DOT *;DIAERESIS;HOOK *;aRING;= ACUTE ACCENT;CARON
! LINE *;c=;2GRAVE ACCENT;1CANDRABINDU;INVERTED BREVE;TURNED COMMA *;aCOMMA;bREVERSED;COMMA * >
GRAVE ACCENT BELOW;bACUTE;a< TACK;b>;< ANGLE *;HORN;< HALF RING BELOW;aUP TACK;bDOWN;aPLUS $
bMINUS;aPALATALIZED HOOK;bRETROFLEX;aDOT;aDIAERESIS;aRING;aCOMMA;CEDILLA;OGONEK;! LINE BELOW
aBRIDGE;aINVERTED = ARCH;aCARON;aCIRCUMFLEX ACCENT;aBREVE;bINVERTED;aTILDE;aMACRON;LOW LINE;b=
TILDE OVERLAY;aSHORT STROKE;bLONG;aSHORT SOLIDUS;bLONG;> HALF RING BELOW;aINVERTED BRIDGE;aSQUARE
aSEAGULL;X *;! TILDE;= OVERLINE;GRAVE TONE MARK;bACUTE;GREEK PERISPOMENI;2KORONIS;DIALYTIKA TONOS
YPOGEGRAMMENI;1BRIDGE *;EQUALS $ BELOW;a= ! LINE;a< ANGLE;NOT TILDE *;aHOMOTHETIC
aALMOST EQUAL TO;< > : BELOW;bUPWARDS;GRAPHEME JOINER;> ARROWHEAD *;a< HALF RING;FERMATA;X BELOW
a< ARROWHEAD;b>;3b? UP;2HALF RING *;1DOT * >;ASTERISK BELOW;a= RING;ZIGZAG *;= BREVE BELOW;2BREVE
MACRON;3BELOW;2TILDE;INVERTED BREVE;~ : BELOW;1LATIN _ . A;4E;I;O;U;C;+1;H;M;R;T;V;X
0GREEK ^ . HETA;1b_;^ . ARCHAIC SAMPI;c_;NUMERAL $;bLOWER;^ . PAMPHYLIAN DIGAMMA;c_"⟩,
    ⟨0x37a, "GREEK YPOGEGRAMMENI;1_ REVERSED LUNATE SIGMA SYMBOL;2cDOTTED;dREVERSED
1QUESTION MARK;^ . YOT"⟩,
    ⟨0x384, "GREEK TONOS;1aDIALYTIKA;a^ . ALPHA &;ANO TELEIA;^ . EPSILON & TONOS;3bETA;bIOTA"⟩,
    ⟨0x38c, "GREEK ^ . OMICRON & TONOS"⟩,
    ⟨0x38e, "GREEK ^ . UPSILON & TONOS;3bOMEGA;1a_ . IOTA & DIALYTIKA ?;^ . ALPHA;3BETA;GAMMA
DELTA;EPSILON;ZETA;ETA;THETA;IOTA;KAPPA;LAMDA;MU;NU;XI;OMICRON;PI;RHO"⟩,
    ⟨0x3a3, "GREEK ^ . SIGMA;3TAU;UPSILON;PHI;CHI;PSI;OMEGA;IOTA & DIALYTIKA;bUPSILON
1_ . ALPHA & TONOS;3bEPSILON;bETA;bIOTA;aUPSILON & DIALYTIKA ?;ALPHA;BETA;GAMMA;DELTA;EPSILON
ZETA;ETA;THETA;IOTA;KAPPA;LAMDA;MU;NU;XI;OMICRON;PI;RHO;) SIGMA;2a.;3TAU;UPSILON;PHI;CHI;PSI
OMEGA;IOTA & DIALYTIKA;bUPSILON;OMICRON & TONOS;bUPSILON;bOMEGA;1^ KAI SYMBOL;aBETA;aTHETA
aUPSILON & HOOK;3bACUTE ?;cDIAERESIS;1aPHI;aPI;aKAI;. ARCHAIC KOPPA;c_;. STIGMA;b_;. DIGAMMA;b_
. KOPPA;b_;. SAMPI;b_;0COPTIC ^ . SHEI;1b_;^ . FEI;b_;^ . KHEI;b_;^ . HORI;b_;^ . GANGIA;b_
^ . SHIMA;b_;^ . DEI;b_;0GREEK KAPPA SYMBOL;1aRHO;aLUNATE SIGMA;. YOT;^ THETA SYMBOL
aLUNATE EPSILON;cREVERSED;^ . SHO;b_;^ LUNATE SIGMA SYMBOL;2. SAN;1b_;RHO & STROKE SYMBOL
a^ REVERSED LUNATE SIGMA;2cDOTTED;dREVERSED;0CYRILLIC ^ . IE & GRAVE;3IO;DJE;GJE;UKRAINIAN IE;DZE
BYELORUSSIAN-UKRAINIAN I;YI;JE;LJE;NJE;TSHE;KJE;I & GRAVE;SHORT U;DZHE;A;BE;VE;GHE;DE;IE;ZHE;ZE;I
aSHORT;KA;EL;+2;O;PE;ER;+1;TE;U;EF;HA;TSE;CHE;SHA;SHCHA;HARD $;YERU;SOFT $;E;YU;YA;1_ . A;3BE;VE
GHE;DE;IE;ZHE;ZE;I;aSHORT;KA;EL;+2;O;PE;ER;+1;TE;U;EF;HA;TSE;CHE;SHA;SHCHA;HARD $;YERU;SOFT $;E
YU;YA;IE & GRAVE;IO;DJE;GJE;UKRAINIAN IE;DZE;BYELORUSSIAN-UKRAINIAN I;YI;JE;LJE;NJE;TSHE;KJE
I & GRAVE;SHORT U;DZHE;1^ . OMEGA;b_;^ . YAT;b_;^ . IOTIFIED E;c_;^ . LITTLE YUS;c_;b^ . IOTIFIED
d_;a^ . BIG;c_;b^ . IOTIFIED;d_;^ . KSI;b_;^ . PSI;b_;^ . FITA;b_;^ . IZHITSA;b_
^ . IZHITSA & = GRAVE ACCENT;f_;^ . UK;b_;^ . ROUND OMEGA;c_;^ . OMEGA & TITLO;d_;^ . OT;b_
^ . KOPPA;b_;THOUSANDS $;0COMBINING CYRILLIC TITLO;2PALATALIZATION;DASIA PNEUMATA;aPSILI;POKRYTIE
HUNDRED THOUSANDS $;aMILLIONS;0CYRILLIC ^ . SHORT I & TAIL;1e_;^ . SEMISOFT $;c_;^ . ER & TICK;d_
^ . GHE & UPTURN;d_;^ . GHE & STROKE;d_;^ . GHE & MIDDLE HOOK;e_;^ . ZHE & DESCENDER;d_;b^ . ZE
d_;b^ . KA;d_;^ . KA & ! STROKE;e_;a^ . KA &;d_;^ . BASHKIR KA;c_;^ . EN & DESCENDER;d_
^ LIGATURE EN GHE;c_;^ . PE & MIDDLE HOOK;e_;^ . ABKHASIAN HA;c_;^ . ES & DESCENDER;d_;b^ . TE;d_
^ . STRAIGHT U;c_;^ . STRAIGHT U & STROKE;e_;^ . HA & DESCENDER;d_;^ LIGATURE TE TSE;c_
^ . CHE & DESCENDER;d_;^ . CHE & ! STROKE;e_;^ . SHHA;b_;^ . ABKHASIAN CHE;c_
^ . ABKHASIAN CHE & DESCENDER;e_;. PALOCHKA;^ . ZHE & BREVE;d_;^ . KA & HOOK;d_;^ . EL & TAIL;d_
^ . EN & HOOK;d_;^ . EN & TAIL;d_;^ . KHAKASSIAN CHE;c_;^ . EM & TAIL;d_;3PALOCHKA;1^ . A & BREVE
d_;^ . A & DIAERESIS;d_;^ LIGATURE A IE;c_;^ . IE & BREVE;d_;^ . SCHWA;b_;^ . SCHWA & DIAERESIS
d_;b^ . ZHE;d_;b^ . ZE;d_;^ . ABKHASIAN DZE;c_;^ . I & MACRON;d_;^ . I & DIAERESIS;d_;b^ . O;d_
^ . BARRED O;c_;^ . BARRED O & DIAERESIS;e_;b^ . E;d_;^ . U & MACRON;d_;^ . U & DIAERESIS;d_
^ . U & = ACUTE;e_;^ . CHE & DIAERESIS;d_;^ . GHE & DESCENDER;d_;^ . YERU & DIAERESIS;d_
^ . GHE & STROKE ? HOOK;f_;a^ . HA &;d_;^ . HA & STROKE;d_;^ . KOMI DE;c_;^ . KOMI DJE;c_
^ . KOMI ZJE;c_;^ . KOMI DZJE;c_;^ . KOMI LJE;c_;^ . KOMI NJE;c_;^ . KOMI SJE;c_;^ . KOMI TJE;c_
^ . REVERSED ZE;c_;^ . EL & HOOK;d_;^ . LHA;b_;^ . RHA;b_;^ . YAE;b_;^ . QA;b_;^ . WE;b_
^ . ALEUT KA;c_;^ . EL & MIDDLE HOOK;e_;c^ . EN;e_;^ . PE & DESCENDER;d_;b^ . SHHA;d_
^ . EN & < HOOK;e_;^ . DZZHE;b_;^ . DCHE;b_;^ . EL & DESCENDER;d_"⟩,
    ⟨0x531, "ARMENIAN ^ . AYB;3BEN;GIM;DA;ECH;ZA;EH;ET;TO;ZHE;INI;LIWN;XEH;CA;KEN;HO;JA;GHAD;CHEH
MEN;YI;NOW;SHA;VO;CHA;PEH;JHEH;RA;SEH;VEW;TIWN;REH;CO;YIWN;PIWR;KEH;OH;FEH"⟩,
    ⟨0x559, "ARMENIAN MODIFIER . < HALF RING;1APOSTROPHE;EMPHASIS MARK;aEXCLAMATION;COMMA
QUESTION MARK;aABBREVIATION;_ . TURNED AYB;2a.;3BEN;GIM;DA;ECH;ZA;EH;ET;TO;ZHE;INI;LIWN;XEH;CA
KEN;HO;JA;GHAD;CHEH;MEN;YI;NOW;SHA;VO;CHA;PEH;JHEH;RA;SEH;VEW;TIWN;REH;CO;YIWN;PIWR;KEH;OH;FEH
2LIGATURE ECH YIWN;. YI & STROKE;1FULL STOP;HYPHEN"⟩,
    ⟨0x58d, "RIGHT-FACING ARMENIAN ETERNITY $;cLEFT-FACING;aARMENIAN DRAM"⟩,
    ⟨0x591, "HEBREW ACCENT ETNAHTA;2SEGOL;SHALSHELET;ZAQEF QATAN;3GADOL;2TIPEHA;REVIA;ZARQA
PASHTA;YETIV;TEVIR;GERESH;3MUQDAM;2GERSHAYIM;QARNEY PARA;TELISHA GEDOLA;PAZER;ATNAH HAFUKH;MUNAH
MAHAPAKH;MERKHA;3KEFULA;2DARGA;QADMA;TELISHA QETANA;YERAH BEN YOMO;OLE;ILUY;DEHI;ZINOR
1MARK MASORA CIRCLE;POINT SHEVA;2HATAF SEGOL;3PATAH;QAMATS;2HIRIQ;TSERE;SEGOL;PATAH;QAMATS;HOLAM
3HASER FOR VAV;2QUBUTS;DAGESH OR MAPIQ;METEG;1PUNCTUATION MAQAF;POINT RAFE;PUNCTUATION PASEQ
POINT SHIN DOT;2aSIN;1PUNCTUATION SOF PASUQ;MARK UPPER DOT;2aLOWER;1PUNCTUATION NUN HAFUKHA
POINT QAMATS QATAN"⟩,
    ⟨0x5d0, "HEBREW . ALEF;2BET;GIMEL;DALET;HE;VAV;ZAYIN;HET;TET;YOD;) KAF;KAF;LAMED;) MEM;MEM
) NUN;NUN;SAMEKH;AYIN;) PE;PE;) TSADI;1a.;2QOF;RESH;SHIN;TAV"⟩,
    ⟨0x5ef, "HEBREW YOD TRIANGLE;1LIGATURE YIDDISH = VAV;3VAV YOD;a=;1PUNCTUATION GERESH
2GERSHAYIM"⟩,
    ⟨0x600, "ARABIC NUMBER $;1$ SANAH;FOOTNOTE MARKER;$ SAFHA;2SAMVAT;1NUMBER MARK *
0ARABIC-INDIC CUBE ROOT;1aFOURTH;0ARABIC RAY;ARABIC-INDIC PER MILLE $;2aTEN THOUSAND;0aAFGHANI
ARABIC COMMA;1DATE SEPARATOR;POETIC VERSE $;$ MISRA;2SALLALLAHOU ALAYHE WASSALLAM;ALAYHE ASSALLAM
RAHMATULLAH ALAYHE;RADI ALLAHOU ANHU;TAKHALLUS;1_ HIGH TAH;3LIGATURE ALEF & LAM & YEH;ZAIN;2FATHA
DAMMA;KASRA;1SEMICOLON;. MARK;aEND OF TEXT;aTRIPLE DOT PUNCTUATION;aQUESTION;. KASHMIRI YEH
2HAMZA;ALEF & MADDA *;4aHAMZA;2cWAW;ALEF & HAMZA BELOW;YEH & HAMZA *;ALEF;BEH;TEH MARBUTA;TEH
THEH;JEEM;HAH;KHAH;DAL;THAL;REH;ZAIN;SEEN;SHEEN;SAD;DAD;TAH;ZAH;AIN;GHAIN;KEHEH & TWO DOTS *
4% DOTS BELOW;2FARSI YEH & INVERTED V;5TWO DOTS *;b%;1TATWEEL;. FEH;2QAF;KAF;LAM;MEEM;NOON;HEH
WAW;ALEF MAKSURA;YEH;1FATHATAN;DAMMATAN;KASRATAN;FATHA;DAMMA;KASRA;SHADDA;SUKUN;MADDAH *;aHAMZA
2BELOW;1SUBSCRIPT ALEF;INVERTED DAMMA;MARK NOON GHUNNA;ZWARAKAY;VOWEL $ _ V *;3cINVERTED
DOT BELOW;1REVERSED DAMMA;FATHA & TWO DOTS;WAVY HAMZA BELOW;0ARABIC-INDIC DIGIT ZERO;2ONE;TWO;%
FOUR;FIVE;SIX;SEVEN;EIGHT;NINE;0ARABIC PERCENT $;1DECIMAL SEPARATOR;aTHOUSANDS;FIVE POINTED STAR
. DOTLESS BEH;3QAF;2SUPERSCRIPT ALEF;ALEF WASLA;3& WAVY HAMZA *;6BELOW;2HIGH HAMZA;4ALEF;WAW
2U & HAMZA *;HIGH HAMZA YEH;TTEH;TTEHEH;BEEH;TEH & RING;4% DOTS * @;2PEH;TEHEH;BEHEH
HAH & HAMZA *;4aTWO DOTS !;2NYEH;DYEH;HAH & % DOTS *;TCHEH;TCHEHEH;DDAL;DAL & RING;4DOT BELOW
6? _ TAH;2DAHAL;DDAHAL;DUL;DAL & % DOTS * @;4FOUR DOTS *;2RREH;REH & _ V;4RING;DOT BELOW;a_ V
DOT BELOW ? DOT *;aTWO DOTS;2JEH;REH & FOUR DOTS *;aSEEN & DOT BELOW ? DOT;4% DOTS BELOW
7? % DOTS *;2SAD & TWO DOTS BELOW;4% DOTS *;2dTAH;dAIN;DOTLESS FEH;FEH & DOT MOVED BELOW;4aDOT
2VEH;FEH & % DOTS BELOW;PEHEH;QAF & DOT *;4a% DOTS;2KEHEH;SWASH KAF;KAF & RING;4DOT *;2NG
KAF & % DOTS BELOW;GAF;3& RING;2NGOEH;GAF & TWO DOTS BELOW;GUEH;GAF & % DOTS *;LAM & _ V;4DOT *
a% DOTS;6BELOW;2aNOON & DOT;3GHUNNA;2RNOON;NOON & RING;4% DOTS *;2HEH DOACHASHMEE;TCHEH & DOT *
aHEH & YEH;3GOAL;4& HAMZA *;2TEH MARBUTA GOAL;WAW & RING;KIRGHIZ OE;OE;U;YU;aKIRGHIZ
WAW & TWO DOTS *;VE;FARSI YEH;YEH & TAIL;4_ V;2WAW & DOT *;E;YEH & % DOTS BELOW;3BARREE
4& HAMZA *;1FULL STOP;. AE;_ HIGH LIGATURE SAD & LAM & ALEF MAKSURA;4eQAF;3MEEM INITIAL FORM
LAM ALEF;JEEM;% DOTS;SEEN;1END OF AYAH;START OF RUB EL HIZB;_ HIGH ROUNDED ZERO
3aUPRIGHT RECTANGULAR;DOTLESS HEAD OF KHAH;MEEM ( FORM;2LOW SEEN;HIGH MADDA;WAW;YEH;aHIGH;3NOON
1PLACE OF SAJDAH;EMPTY CENTRE LOW STOP;3aHIGH;1ROUNDED HIGH STOP & FILLED CENTRE;_ LOW MEEM
. DAL & INVERTED V;2cREH;0EXTENDED ARABIC-INDIC DIGIT ZERO;3ONE;TWO;%;FOUR;FIVE;SIX;SEVEN;EIGHT
NINE;0ARABIC . SHEEN & DOT BELOW;2cDAD;cGHAIN;1$ SINDHI AMPERSAND;3POSTPOSITION MEN
1. HEH & INVERTED V;0SYRIAC END OF PARAGRAPH;1SUPRALINEAR FULL STOP;bSUBLINEAR;SUPRALINEAR COLON
aSUBLINEAR;a];COLON SKEWED <;3>;1SUPRALINEAR COLON SKEWED <;SUBLINEAR COLON SKEWED >;CONTRACTION
HARKLEAN OBELUS;2METOBELUS;ASTERISCUS"⟩,
    ⟨0x70f, "SYRIAC ABBREVIATION MARK;1. ALAPH;2aSUPERSCRIPT;BETH;GAMAL;3GARSHUNI;2DALATH
DOTLESS DALATH RISH;HE;WAW;ZAIN;HETH;TETH;3GARSHUNI;2YUDH;3HE;2KAPH;LAMADH;MIM;NUN;SEMKATH;a);E
PE;aREVERSED;SADHE;QAPH;RISH;SHIN;TAW;PERSIAN BHETH;3GHAMAL;DHALATH;1PTHAHA *;2BELOW;DOTTED
1ZQAPHA *;2BELOW;DOTTED;1RBASA *;2BELOW;1DOTTED ZLAMA ];3ANGULAR;1HBASA *;2BELOW
1HBASA-ESASA DOTTED;ESASA *;2BELOW;1RWAHA;FEMININE DOT;QUSHSHAYA;RUKKAKHA;TWO ! DOTS *;4BELOW
1% DOTS *;3BELOW;1OBLIQUE LINE *;3BELOW;1MUSIC;BARREKH"⟩,
    ⟨0x74d, "SYRIAC . SOGDIAN ZHAIN;3KHAPH;FE;0ARABIC . BEH & % DOTS HORIZONTALLY BELOW
4DOT BELOW ? % DOTS *;% DOTS POINTING UPWARDS BELOW;9? TWO DOTS *;4aTWO DOTS BELOW ? DOT
INVERTED _ V BELOW;_ V;2HAH & TWO DOTS *;4% DOTS POINTING UPWARDS BELOW
2DAL & TWO DOTS VERTICALLY BELOW ? _ TAH;4INVERTED _ V BELOW;2REH & STROKE;SEEN & FOUR DOTS *
bAIN & TWO;4a% DOTS POINTING @;aTWO DOTS VERTICALLY;2FEH & TWO DOTS BELOW
4a% DOTS POINTING UPWARDS;2KEHEH & DOT *;4a% DOTS;6POINTING UPWARDS BELOW;2MEEM & DOT *;5BELOW
2aNOON & TWO DOTS;4_ TAH;5V;2LAM & BAR;REH & TWO DOTS VERTICALLY *;4aHAMZA
2aSEEN & TWO DOTS VERTICALLY;HAH & _ ARABIC . TAH BELOW;8? TWO DOTS;2hSEEN;hREH
HAH & _ ARABIC . TAH *;aALEF & EXTENDED ARABIC-INDIC DIGIT TWO;7a%
2aFARSI YEH & EXTENDED ARABIC-INDIC DIGIT TWO;8a%;FOUR BELOW
2WAW & EXTENDED ARABIC-INDIC DIGIT TWO *;7a%;2aYEH BARREE & EXTENDED ARABIC-INDIC DIGIT TWO;8a%
2HAH & EXTENDED ARABIC-INDIC DIGIT FOUR BELOW;SEEN & EXTENDED ARABIC-INDIC DIGIT FOUR *
4INVERTED V;2KAF & TWO DOTS *;0THAANA . HAA;2SHAVIYANI;NOONU;RAA;BAA;LHAVIYANI;KAAFU;ALIFU;VAAVU
MEEMU;FAAFU;DHAALU;THAA;LAAMU;GAAFU;GNAVIYANI;SEENU;DAVIYANI;ZAVIYANI;TAVIYANI;YAA;PAVIYANI
JAVIYANI;CHAVIYANI;TTAA;HHAA;KHAA;THAALU;ZAA;SHEENU;SAADHU;DAADHU;TO;ZO;AINU;GHAINU;QAAFU;WAAVU
1ABAFILI;AABAAFILI;IBIFILI;EEBEEFILI;UBUFILI;OOBOOFILI;EBEFILI;EYBEYFILI;OBOFILI;OABOAFILI;SUKUN
. NAA"⟩,
    ⟨0x7c0, "NKO DIGIT ZERO;2ONE;TWO;%;FOUR;FIVE;SIX;SEVEN;EIGHT;NINE;1. A;2EE;I;E;U;OO;O
DAGBASINNA;N;BA;PA;TA;JA;CHA;DA;RA;RRA;SA;GBA;FA;KA;LA;NA WOLOSO;MA;NYA;NA;HA;WA;YA;NYA WOLOSO
JONA JA;3CHA;RA;1COMBINING SHORT HIGH TONE;3aLOW;aRISING;2aLONG DESCENDING;3aHIGH;aLOW;aRISING
2NASALIZATION MARK;= DOT *;1HIGH TONE APOSTROPHE;bLOW;SYMBOL OO DENNEN;2GBAKURUNEN;1COMMA
EXCLAMATION MARK;LAJANYALAN"⟩,
    ⟨0x7fd, "NKO DANTAYALAN;1DOROME $;aTAMAN"⟩ ]

end TagTree.Text
