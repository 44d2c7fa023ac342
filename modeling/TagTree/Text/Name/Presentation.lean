import TagTree.Text.Name.Basic

/-!
# Names of characters: presentation forms

Ligatures, positional forms and forms of a fixed width.
-/

namespace TagTree.Text

/-- The runs of named characters from 0xe000 to 0xffff. -/
def presentationNames : List NameRun :=
  [ ⟨0xfb00, "LATIN _ LIGATURE FF;3FI;FL;FFI;FFL;LONG S T;ST"⟩,
    ⟨0xfb13, "ARMENIAN _ LIGATURE MEN NOW;4ECH;INI;3VEW NOW;MEN XEH"⟩,
    ⟨0xfb1d, "HEBREW . YOD & HIRIQ;1POINT JUDEO-SPANISH VARIKA;LIGATURE YIDDISH YOD YOD PATAH
. ALTERNATIVE AYIN;2WIDE ALEF;3DALET;HE;KAF;LAMED;) MEM;RESH;TAV;2ALTERNATIVE PLUS $
SHIN & SHIN DOT;4aSIN;aDAGESH ? SHIN;6aSIN;2ALEF & PATAH;4QAMATS;MAPIQ;2BET & DAGESH;bGIMEL
bDALET;HE & MAPIQ;VAV & DAGESH;bZAYIN"⟩,
    ⟨0xfb38, "HEBREW . TET & DAGESH;2bYOD;b) KAF;1c.;2bLAMED"⟩,
    ⟨0xfb3e, "HEBREW . MEM & DAGESH"⟩,
    ⟨0xfb40, "HEBREW . NUN & DAGESH;2bSAMEKH"⟩,
    ⟨0xfb43, "HEBREW . ) PE & DAGESH;1c."⟩,
    ⟨0xfb46, "HEBREW . TSADI & DAGESH;2bQOF;bRESH;bSHIN;bTAV;VAV & HOLAM;BET & RAFE;bKAF;bPE
1LIGATURE ALEF LAMED;0ARABIC . ALEF WASLA ( FORM;4a);2aBEEH (;3a);aINITIAL;aMEDIAL;2aPEH (;3a)
aINITIAL;aMEDIAL;2aBEHEH (;3a);aINITIAL;aMEDIAL;2aTTEHEH (;3a);aINITIAL;aMEDIAL;2aTEHEH (;3a)
aINITIAL;aMEDIAL;2aTTEH (;3a);aINITIAL;aMEDIAL;2aVEH (;3a);aINITIAL;aMEDIAL;2aPEHEH (;3a)
aINITIAL;aMEDIAL;2aDYEH (;3a);aINITIAL;aMEDIAL;2aNYEH (;3a);aINITIAL;aMEDIAL;2aTCHEH (;3a)
aINITIAL;aMEDIAL;2aTCHEHEH (;3a);aINITIAL;aMEDIAL;2aDDAHAL (;3a);2aDAHAL (;3a);2aDUL (;3a)
2aDDAL (;3a);2aJEH (;3a);2aRREH (;3a);2aKEHEH (;3a);aINITIAL;aMEDIAL;2aGAF (;3a);aINITIAL;aMEDIAL
2aGUEH (;3a);aINITIAL;aMEDIAL;2aNGOEH (;3a);aINITIAL;aMEDIAL;2aNOON GHUNNA (;4a);2aRNOON (;3a)
aINITIAL;aMEDIAL;2aHEH & YEH * (;6a);3aGOAL (;4a);aINITIAL;aMEDIAL;3aDOACHASHMEE (;4a);aINITIAL
aMEDIAL;2aYEH BARREE (;4a);a& HAMZA * (;7a);1SYMBOL DOT *;3BELOW;2TWO DOTS *;4BELOW;2% DOTS *
4BELOW;POINTING @ *;6BELOW;2FOUR DOTS *;4BELOW;2a= ! BAR;TWO DOTS VERTICALLY *;5BELOW;2RING
_ TAH *;4BELOW;2WASLA *"⟩,
    ⟨0xfbd3, "ARABIC . NG ( FORM;3a);aINITIAL;aMEDIAL;2aU (;3a);2aOE (;3a);2aYU (;3a)
2aU & HAMZA * (;bVE;3a);2aKIRGHIZ OE (;4a);3aYU (;4a);2aE (;3a);aINITIAL;aMEDIAL
2aUIGHUR KAZAKH KIRGHIZ ALEF MAKSURA INITIAL;7aMEDIAL;1aLIGATURE YEH & HAMZA * & ALEF (;8a)
7aAE (;8a);7aWAW (;8a);7aU (;8a);7aOE (;8a);7aYU (;8a);7aE (;8a);aINITIAL
2aUIGHUR KIRGHIZ YEH & HAMZA * & ALEF MAKSURA (;9aALEF MAKSURA );aALEF MAKSURA INITIAL
1a. FARSI YEH (;4a);aINITIAL;aMEDIAL;1aLIGATURE YEH & HAMZA * & JEEM (;7bHAH;bMEEM;bALEF MAKSURA
bYEH;2bBEH & JEEM;4bHAH;bKHAH;bMEEM;bALEF MAKSURA;bYEH;2bTEH & JEEM;4bHAH;bKHAH;bMEEM
bALEF MAKSURA;bYEH;2bTHEH & JEEM;4bMEEM;bALEF MAKSURA;bYEH;2bJEEM & HAH;4bMEEM;2bHAH & JEEM
4bMEEM;2bKHAH & JEEM;4bHAH;bMEEM;2bSEEN & JEEM;4bHAH;bKHAH;bMEEM;2bSAD & HAH;4bMEEM;2bDAD & JEEM
4bHAH;bKHAH;bMEEM;2bTAH & HAH;4bMEEM;2dZAH;bAIN & JEEM;4bMEEM;2bGHAIN & JEEM;4bMEEM;2bFEH & JEEM
4bHAH;bKHAH;bMEEM;bALEF MAKSURA;bYEH;2bQAF & HAH;4bMEEM;bALEF MAKSURA;bYEH;2bKAF & ALEF;4bJEEM
bHAH;bKHAH;bLAM;bMEEM;bALEF MAKSURA;bYEH;2bLAM & JEEM;4bHAH;bKHAH;bMEEM;bALEF MAKSURA;bYEH
2bMEEM & JEEM;4bHAH;bKHAH;bMEEM;bALEF MAKSURA;bYEH;2bNOON & JEEM;4bHAH;bKHAH;bMEEM;bALEF MAKSURA
bYEH;2bHEH & JEEM;4bMEEM;bALEF MAKSURA;bYEH;2bYEH & JEEM;4bHAH;bKHAH;bMEEM;bALEF MAKSURA;bYEH
2bTHAL & SUPERSCRIPT ALEF;eREH;eALEF MAKSURA;bSHADDA & DAMMATAN;4bKASRATAN;bFATHA;bDAMMA;bKASRA
bSUPERSCRIPT ALEF;2aYEH & HAMZA * & REH );7bZAIN;bMEEM;bNOON;bALEF MAKSURA;bYEH;2bBEH & REH
4bZAIN;bMEEM;bNOON;bALEF MAKSURA;bYEH;2bTEH & REH;4bZAIN;bMEEM;bNOON;bALEF MAKSURA;bYEH
2bTHEH & REH;4bZAIN;bMEEM;bNOON;bALEF MAKSURA;bYEH;2bFEH & ALEF MAKSURA;4bYEH
2bQAF & ALEF MAKSURA;4bYEH;2bKAF & ALEF;4bLAM;bMEEM;bALEF MAKSURA;bYEH;2bLAM & MEEM
4bALEF MAKSURA;bYEH;2bMEEM & ALEF;4bMEEM;2bNOON & REH;4bZAIN;bMEEM;bNOON;bALEF MAKSURA;bYEH
2bALEF MAKSURA & SUPERSCRIPT ALEF;bYEH & REH;4bZAIN;bMEEM;bNOON;bALEF MAKSURA;bYEH
aHAMZA * & JEEM INITIAL;7bHAH;bKHAH;bMEEM;bHEH;2bBEH & JEEM;4bHAH;bKHAH;bMEEM;bHEH;2bTEH & JEEM
4bHAH;bKHAH;bMEEM;bHEH;2bTHEH & MEEM;bJEEM & HAH;4bMEEM;2bHAH & JEEM;4bMEEM;2bKHAH & JEEM;4bMEEM
2bSEEN & JEEM;4bHAH;bKHAH;bMEEM;2bSAD & HAH;4bKHAH;bMEEM;2bDAD & JEEM;4bHAH;bKHAH;bMEEM
2bTAH & HAH;bZAH & MEEM;bAIN & JEEM;4bMEEM;2bGHAIN & JEEM;4bMEEM;2bFEH & JEEM;4bHAH;bKHAH;bMEEM
2bQAF & HAH;4bMEEM;2bKAF & JEEM;4bHAH;bKHAH;bLAM;bMEEM;2bLAM & JEEM;4bHAH;bKHAH;bMEEM;bHEH
2bMEEM & JEEM;4bHAH;bKHAH;bMEEM;2bNOON & JEEM;4bHAH;bKHAH;bMEEM;bHEH;2bHEH & JEEM;4bMEEM
bSUPERSCRIPT ALEF;2bYEH & JEEM;4bHAH;bKHAH;bMEEM;bHEH;aHAMZA * & MEEM MEDIAL;7bHEH;2bBEH & MEEM
4bHEH;2bTEH & MEEM;4bHEH;2bTHEH & MEEM;4bHEH;2bSEEN & MEEM;4bHEH;2bSHEEN & MEEM;4bHEH;2bKAF & LAM
4bMEEM;2dLAM;dNOON;4bHEH;2bYEH & MEEM;4bHEH;2bSHADDA & FATHA;4bDAMMA;bKASRA
2aTAH & ALEF MAKSURA (;4bYEH;2bAIN & ALEF MAKSURA;4bYEH;2bGHAIN & ALEF MAKSURA;4bYEH
2bSEEN & ALEF MAKSURA;4bYEH;2bSHEEN & ALEF MAKSURA;4bYEH;2bHAH & ALEF MAKSURA;4bYEH
2bJEEM & ALEF MAKSURA;4bYEH;2bKHAH & ALEF MAKSURA;4bYEH;2bSAD & ALEF MAKSURA;4bYEH
2bDAD & ALEF MAKSURA;4bYEH;2bSHEEN & JEEM;4bHAH;bKHAH;bMEEM;bREH;2dSEEN;dSAD;dDAD
aTAH & ALEF MAKSURA );4bYEH;2bAIN & ALEF MAKSURA;4bYEH;2bGHAIN & ALEF MAKSURA;4bYEH
2bSEEN & ALEF MAKSURA;4bYEH;2bSHEEN & ALEF MAKSURA;4bYEH;2bHAH & ALEF MAKSURA;4bYEH
2bJEEM & ALEF MAKSURA;4bYEH;2bKHAH & ALEF MAKSURA;4bYEH;2bSAD & ALEF MAKSURA;4bYEH
2bDAD & ALEF MAKSURA;4bYEH;2bSHEEN & JEEM;4bHAH;bKHAH;bMEEM;bREH;2dSEEN;dSAD;dDAD
aSHEEN & JEEM INITIAL;4bHAH;bKHAH;bMEEM;2bSEEN & HEH;dSHEEN;bTAH & MEEM;aSEEN & JEEM MEDIAL;4bHAH
bKHAH;2bSHEEN & JEEM;4bHAH;bKHAH;2bTAH & MEEM;dZAH;aALEF & FATHATAN );5a(;0ORNATE < PARENTHESIS
1a>;0ARABIC LIGATURE RAHIMAHU ALLAAH;2RADI ALLAAHU ANH;4ANHAA;ANHUM;ANHUMAA;ANHUNNA
2SALLALLAAHU ALAYHI WA-AALIH;ALAYHI AS-SALAAM;aALAYHIM;aALAYHIMAA;ALAYHI AS-SALAATU WAS-SALAAM
QUDDISA SIRRAH;SALLALLAHU ALAYHI WAAALIHEE WA-SALLAM;ALAYHAA AS-SALAAM;TABAARAKA WA-TAAALAA
RAHIMAHUM ALLAAH;TEH & JEEM & MEEM INITIAL FORM;4aHAH & JEEM );7aINITIAL;6bMEEM;4dKHAH
bMEEM & JEEM;6bHAH;bKHAH;2aJEEM & MEEM & HAH );7aINITIAL;2aHAH & MEEM & YEH );6bALEF MAKSURA
2aSEEN & HAH & JEEM INITIAL;4bJEEM & HAH;6aALEF MAKSURA );4bMEEM & HAH;7aINITIAL;6bJEEM;aMEEM )
7aINITIAL;2aSAD & HAH & HAH );7aINITIAL;4aMEEM & MEEM );2dSHEEN & HAH;7aINITIAL;4aJEEM & YEH )
bMEEM & KHAH;7aINITIAL;6aMEEM );7aINITIAL;2aDAD & HAH & ALEF MAKSURA );4bKHAH & MEEM;7aINITIAL
2aTAH & MEEM & HAH );7aINITIAL;6bMEEM;aYEH );2bAIN & JEEM & MEEM;4dMEEM;7aINITIAL
6aALEF MAKSURA );2bGHAIN & MEEM & MEEM;6bYEH;bALEF MAKSURA;2bFEH & KHAH & MEEM;7aINITIAL
2aQAF & MEEM & HAH );6bMEEM;2dLAM & HAH;6bYEH;bALEF MAKSURA;4aJEEM & JEEM INITIAL;7a)
4bKHAH & MEEM;7aINITIAL;4aMEEM & HAH );7aINITIAL;2bMEEM & HAH & JEEM;6bMEEM;aYEH )
4aJEEM & HAH INITIAL;6bMEEM;4bKHAH & JEEM;6bMEEM"⟩,
    ⟨0xfd92, "ARABIC LIGATURE MEEM & JEEM & KHAH INITIAL FORM;2bHEH & MEEM & JEEM;6bMEEM
2dNOON & HAH;6aALEF MAKSURA );4bJEEM & MEEM;7aINITIAL;6aALEF MAKSURA );4bMEEM & YEH
6bALEF MAKSURA;2bYEH & MEEM & MEEM;7aINITIAL;2aBEH & KHAH & YEH );dTEH & JEEM;6bALEF MAKSURA
4bKHAH & YEH;6bALEF MAKSURA;4bMEEM & YEH;6bALEF MAKSURA;2bJEEM & MEEM & YEH;4bHAH & ALEF MAKSURA
eMEEM;2eSEEN & KHAH;bSAD & HAH & YEH;fSHEEN;fDAD;dLAM & JEEM;4dMEEM;2dYEH & HAH;4dJEEM;dMEEM
2fMEEM;fQAF;dNOON & HAH;aQAF & MEEM & HAH INITIAL;bLAM & HAH & MEEM;aAIN & MEEM & YEH );fKAF
aNOON & JEEM & HAH INITIAL;aMEEM & KHAH & YEH );aLAM & JEEM & MEEM INITIAL;aKAF & MEEM & MEEM )
dLAM & JEEM;bNOON & JEEM & HAH;bJEEM & HAH & YEH;dHAH & JEEM;fMEEM;dFEH & MEEM;dBEH & HAH
aKAF & MEEM & MEEM INITIAL;dAIN & JEEM;dSAD & MEEM;aSEEN & KHAH & YEH );dNOON & JEEM"⟩,
    ⟨0xfdcf, "ARABIC LIGATURE SALAAMUHU ALAYNAA"⟩,
    ⟨0xfdf0, "ARABIC LIGATURE SALLA USED AS KORANIC STOP $ ( FORM;2gQALA;bALLAH;bAKBAR;bMOHAMMAD
bSALAM;bRASOUL;bALAYHE;bWASALLAM;bSALLA;SALLALLAHOU ALAYHE WASALLAM;JALLAJALALOUHOU;0RIAL $
ARABIC LIGATURE BISMILLAH AR-RAHMAN AR-RAHEEM;2SUBHAANAHU WA TAAALAA;AZZA WA JALL
0VARIATION SELECTOR-1;+15;PRESENTATION FORM FOR ! COMMA;4aIDEOGRAPHIC;5FULL STOP;4COLON;SEMICOLON
EXCLAMATION MARK;aQUESTION;< WHITE LENTICULAR BRACKET;> WHITE LENTICULAR BRAKCET;] ELLIPSIS"⟩,
    ⟨0xfe20, "COMBINING LIGATURE < HALF;2a>;1a= TILDE <;3a>;1aMACRON <;2a>;1CONJOINING MACRON
LIGATURE < HALF BELOW;2b>;1bTILDE <;2b>;1bMACRON <;2b>;1aCONJOINING MACRON;CYRILLIC TITLO < HALF
3a>;0PRESENTATION FORM FOR ! TWO DOT LEADER;4EM DASH;aEN;LOW LINE;bWAVY;< PARENTHESIS;a>
< CURLY BRACKET;b>;a< TORTOISE SHELL;c>;a< , LENTICULAR;c>;a< = ANGLE;c>;b<;b>;a< CORNER;b>
b< WHITE;c>;0SESAME DOT;bWHITE;PRESENTATION FORM FOR ! < SQUARE BRACKET;4b>;0DASHED OVERLINE
aCENTRELINE;aWAVY;b=;DASHED LOW LINE;bCENTRELINE;bWAVY;_ COMMA;1aIDEOGRAPHIC;FULL STOP"⟩,
    ⟨0xfe54, "_ SEMICOLON;1COLON;QUESTION MARK;aEXCLAMATION;EM DASH;< PARENTHESIS;a>
< CURLY BRACKET;b>;a< TORTOISE SHELL;c>;NUMBER $;AMPERSAND;ASTERISK;PLUS $;HYPHEN-MINUS
LESS-THAN $;aGREATER-THAN;aEQUALS"⟩,
    ⟨0xfe68, "_ REVERSE SOLIDUS;1DOLLAR $;aPERCENT;COMMERCIAL AT"⟩,
    ⟨0xfe70, "ARABIC FATHATAN ( FORM;1TATWEEL & FATHATAN *;DAMMATAN ( FORM;TAIL FRAGMENT
KASRATAN ( FORM"⟩,
    ⟨0xfe76, "ARABIC FATHA ( FORM;2aMEDIAL;1aDAMMA (;2aMEDIAL;1aKASRA (;2aMEDIAL;1aSHADDA (
2aMEDIAL;1aSUKUN (;2aMEDIAL;1a. HAMZA (;2bALEF & MADDA *;6a);4aHAMZA * (;6a);2aWAW & HAMZA * (
6a);2aALEF & HAMZA BELOW (;6a);2aYEH & HAMZA * (;6a);aINITIAL;aMEDIAL;2aALEF (;3a);2aBEH (;3a)
aINITIAL;aMEDIAL;2aTEH MARBUTA (;4a);3a(;a);aINITIAL;aMEDIAL;2aTHEH (;3a);aINITIAL;aMEDIAL
2aJEEM (;3a);aINITIAL;aMEDIAL;2aHAH (;3a);aINITIAL;aMEDIAL;2aKHAH (;3a);aINITIAL;aMEDIAL;2aDAL (
3a);2aTHAL (;3a);2aREH (;3a);2aZAIN (;3a);2aSEEN (;3a);aINITIAL;aMEDIAL;2aSHEEN (;3a);aINITIAL
aMEDIAL;2aSAD (;3a);aINITIAL;aMEDIAL;2aDAD (;3a);aINITIAL;aMEDIAL;2aTAH (;3a);aINITIAL;aMEDIAL
2aZAH (;3a);aINITIAL;aMEDIAL;2aAIN (;3a);aINITIAL;aMEDIAL;2aGHAIN (;3a);aINITIAL;aMEDIAL;2aFEH (
3a);aINITIAL;aMEDIAL;2aQAF (;3a);aINITIAL;aMEDIAL;2aKAF (;3a);aINITIAL;aMEDIAL;2aLAM (;3a)
aINITIAL;aMEDIAL;2aMEEM (;3a);aINITIAL;aMEDIAL;2aNOON (;3a);aINITIAL;aMEDIAL;2aHEH (;3a);aINITIAL
aMEDIAL;2aWAW (;3a);2aALEF MAKSURA (;4a);2aYEH (;3a);aINITIAL;aMEDIAL
1aLIGATURE LAM & ALEF & MADDA * (;8a);6aHAMZA * (;8a);7aBELOW (;8a);5a(;a)"⟩,
    ⟨0xfeff, "ZERO WIDTH NO-BREAK SPACE"⟩,
    ⟨0xff01, "FULLWIDTH EXCLAMATION MARK;1aQUOTATION;NUMBER $;aDOLLAR;aPERCENT;AMPERSAND
APOSTROPHE;< PARENTHESIS;a>;ASTERISK;PLUS $;COMMA;HYPHEN-MINUS;FULL STOP;SOLIDUS;DIGIT ZERO;2ONE
TWO;%;FOUR;FIVE;SIX;SEVEN;EIGHT;NINE;1COLON;SEMICOLON;LESS-THAN $;aEQUALS;aGREATER-THAN
QUESTION MARK;COMMERCIAL AT;LATIN ^ . A;+25;< SQUARE BRACKET;REVERSE SOLIDUS;> SQUARE BRACKET
CIRCUMFLEX ACCENT;LOW LINE;GRAVE ACCENT;LATIN _ . A;+25;< CURLY BRACKET;! LINE;> CURLY BRACKET
TILDE;< WHITE PARENTHESIS;b>;0HALFWIDTH IDEOGRAPHIC FULL STOP;1< CORNER BRACKET;b>
IDEOGRAPHIC COMMA;KATAKANA MIDDLE DOT;2. WO;3_ A;4I;U;E;O;YA;YU;YO;TU
1KATAKANA-HIRAGANA PROLONGED SOUND MARK;KATAKANA . A;3I;U;E;O;KA;KI;KU;KE;KO;SA;SI;SU;SE;SO;TA;TI
TU;TE;TO;NA;NI;NU;NE;NO;HA;HI;HU;HE;HO;MA;MI;MU;ME;MO;YA;YU;YO;RA;RI;RU;RE;RO;WA;N
2VOICED SOUND MARK;bSEMI-VOICED;1HANGUL FILLER;2. KIYEOK;3SSANGKIYEOK;KIYEOK-SIOS;NIEUN
NIEUN-CIEUC;NIEUN-HIEUH;TIKEUT;SSANGTIKEUT;RIEUL;RIEUL-KIYEOK;RIEUL-MIEUM;RIEUL-PIEUP;RIEUL-SIOS
RIEUL-THIEUTH;RIEUL-PHIEUPH;RIEUL-HIEUH;MIEUM;PIEUP;SSANGPIEUP;PIEUP-SIOS;SIOS;SSANGSIOS;IEUNG
CIEUC;SSANGCIEUC;CHIEUCH;KHIEUKH;THIEUTH;PHIEUPH;HIEUH"⟩,
    ⟨0xffc2, "HALFWIDTH HANGUL . A;3AE;YA;YAE;EO;E"⟩,
    ⟨0xffca, "HALFWIDTH HANGUL . YEO;3YE;O;WA;WAE;OE"⟩,
    ⟨0xffd2, "HALFWIDTH HANGUL . YO;3U;WEO;WE;WI;YU"⟩,
    ⟨0xffda, "HALFWIDTH HANGUL . EU;3YI;I"⟩,
    ⟨0xffe0, "FULLWIDTH CENT $;1aPOUND;aNOT;MACRON;BROKEN BAR;YEN $;aWON"⟩,
    ⟨0xffe8, "HALFWIDTH FORMS LIGHT !;1| :;aUPWARDS;a~;a@;, SQUARE;WHITE CIRCLE"⟩,
    ⟨0xfff9, "INTERLINEAR ANNOTATION ANCHOR;2SEPARATOR;TERMINATOR;0OBJECT REPLACEMENT CHARACTER
aREPLACEMENT"⟩ ]

end TagTree.Text
