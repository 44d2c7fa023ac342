import TagTree.Text.Name.Basic

/-!
# Names of characters: notations

Musical, mathematical and sign notations and scripts beside them.
-/

namespace TagTree.Text

/-- The runs of named characters from 0x1c000 to 0x1efff. -/
def notationalNames : List NameRun :=
  [ ⟨0x1cf00, "ZNAMENNY COMBINING MARK GORAZDO NIZKO S KRYZHEM ON <;2eMARK;3bTSATA;bGORAZDO NIZKO
bNIZKO;bSREDNE;bMALO POVYSHE;2cMARK;3bVYSOKO;bMALO POVYSHE S KHOKHLOM;2eMARK;3dVYSOKO
GORAZDO NIZKO S KRYZHEM ON >;dNIZKO;bTSATA;bGORAZDO NIZKO;bNIZKO;bSREDNE;bMALO POVYSHE;2cMARK
3bVYSOKO;bMALO POVYSHE S KHOKHLOM;2eMARK;3dVYSOKO;TSATA S KRYZHEM;bMALO POVYSHE
STRANNO MALO POVYSHE;POVYSHE S KRYZHEM;4STRANNO;3VYSOKO S KRYZHEM;MALO POVYSHE STRANNO
GORAZDO VYSOKO;ZELO;ON;RAVNO;TIKHAYA;BORZAYA;UDARKA;PODVERTKA;LOMKA;KUPNAYA;KACHKA;ZEVOK;SKOBA
RAZSEKA;KRYZH ON <"⟩,
    ⟨0x1cf30, "ZNAMENNY COMBINING TONAL RANGE MARK MRACHNO;5SVETLO;TRESVETLO;2MARK ZADERZHKA
3aDEMESTVENNY;OTSECHKA;PODCHASHIE;4& ! STROKE;3CHASHKA;4POLNAYA;3OBLACHKO;SOROCHYA NOZHKA;TOCHKA
DVOETOCHIE;2ATTACHING ! OMET;aMARK CURVED;3KRYZH;2LOWER TONAL RANGE INDICATOR
1PRIZNAK MODIFIER LEVEL-2;+1;3DIRECTION FLIP;KRYZH;ROG"⟩,
    ⟨0x1cf50, "ZNAMENNY NEUME KRYUK;3TIKHY;2PARAKLIT;DVA V CHELNU;KLYUCH;ZANOZHEK;STOPITSA
3S OCHKOM;2PEREVODKA;3NEPOSTOYANNAYA;2STOPITSA & SOROCHYA NOZHKA;CHELYUSTKA;PALKA;ZAPYATAYA
GOLUBCHIK BORZY;3TIKHY;MRACHNY;SVETLY;TRESVETLY;2VRAKHIYA PROSTAYA;3MRACHNAYA;SVETLAYA
TRESVETLAYA;KLYUCHEVAYA PROSTAYA;4MRACHNAYA;SVETLAYA;TRESVETLAYA;2= ZAPYATAYA;REVERSED CHELYUSTKA
DERBITSA;KHAMILO;CHASHKA;PODCHASHIE;SKAMEYTSA MRACHNAYA;3SVETLAYA;TRESVETLAYA;TIKHAYA
2DEMESTVENNY KLYUCH;SKAMEYTSA KLYUCHEVAYA SVETLAYA;3KLYUCHENEPOSTOYANNAYA;KLYUCHEVAYA TIKHAYA
DVOECHELNAYA PROSTAYA;4SVETLAYA;NEPOSTOYANNAYA;KLYUCHEVAYA;2SLOZHITIE;3S ZAPYATOY;ZAKRYTOE
S KRYZHEM;2KRYZH;ROG;FITA;KOBYLA;ZMEYTSA;STATYA;3S ZAPYATOY;4KRYZHEM;aZAPYATOY I
KRYZHEM I ZAPYATOY;3ZAKRYTAYA;4S ZAPYATOY;3S ROGOM;4DVUMYA ZAPYATYMI;ZAPYATOY I PODCHASHIEM
2POLKULIZMY;STATYA NEPOSTOYANNAYA;STRELA PROSTAYA;3MRACHNOTIKHAYA;KRYZHEVAYA;POLUPOVODNAYA
POVODNAYA;NEPOSTOYANNAYA;KLYUCHEPOVODNAYA;KLYUCHENEPOSTOYANNAYA;TIKHAYA PUTNAYA;DVOECHELNAYA
DVOECHELNOKRYZHEVAYA;DVOECHELNOPOVODNAYA;DVOECHELNAYA KLYUCHEVAYA;aDVOECHELNOPOVODNAYA
GROMNAYA & SINGLE ZAPYATAYA;cGROMOPOVODNAYA;GROMNAYA;GROMOPOVODNAYA;4& = ZAPYATAYA
3GROMOKRYZHEVAYA;4POVODNAYA;2MECHIK;3POVODNY;KLYUCHEVOY;KLYUCHEPOVODNY;KLYUCHENEPOSTOYANNY
2STRELA TRYASOGLASNAYA;3TRYASOPOVODNAYA;TRYASOSTRELNAYA;2OSOKA;3SVETLAYA;TRESVETLAYA
KRYUKOVAYA SVETLAYA;aKLYUCHEVAYA;4NEPOSTOYANNAYA;2STRELA KRYUKOVAYA;4POVODNAYA
GROMNAYA & SINGLE ZAPYATAYA;cGROMOPOVODNAYA;GROMNAYA;GROMOPOVODNAYA;5& = ZAPYATAYA
4GROMOKRYZHEVAYA;5POVODNAYA;4TRYASKA;2KUFISMA;OBLAKO;DUDA;NEMKA;PAUK"⟩,
    ⟨0x1d000, "BYZANTINE MUSICAL SYMBOL PSILI;3DASEIA;PERISPOMENI;OXEIA EKFONITIKON;4DIPLI
3VAREIA EKFONITIKON;4DIPLI;3KATHISTI;SYRMATIKI;PARAKLITIKI;YPOKRISIS;4DIPLI;3KREMASTI
APESO EKFONITIKON;aEXO;TELEIA;KENTIMATA;APOSTROFOS;4DIPLI;3SYNEVMA;THITA;OLIGON ARCHAION;aGORGON
PSILON;CHAMILON;VATHY;ISON ARCHAION;aKENTIMA;aKENTIMATA;SAXIMATA;PARICHON;STAVROS APODEXIA
OXEIAI ARCHAION;aVAREIAI;aAPODERMA;APOTHEMA;KLASMA;REVMA;PIASMA ARCHAION;TINAGMA;ANATRICHISMA
SEISMA;SYNAGMA ARCHAION;4META STAVROU;3OYRANISMA ARCHAION;THEMA;LEMOI;DYO;TRIA;TESSERA;KRATIMATA
APESO EXO NEO;FTHORA ARCHAION;IMIFTHORA;TROMIKON ARCHAION;KATAVA TROMIKON;PELASTON;PSIFISTON
KONTEVMA;CHOREVMA ARCHAION;RAPISMA;PARAKALESMA ARCHAION;aPARAKLITIKI;ICHADIN;NANA;PETASMA
KONTEVMA ALLO;aTROMIKON;STRAGGISMATA;GRONTHISMATA;ISON NEO;aOLIGON;aOXEIA;PETASTI;KOUFISMA
PETASTOKOUFISMA;KRATIMOKOUFISMA;PELASTON NEO;KENTIMATA NEO ANO;bKENTIMA;YPSILI;APOSTROFOS NEO
aAPOSTROFOI SYNDESMOS;YPORROI;KRATIMOYPORROON;ELAFRON;CHAMILI;MIKRON ISON;VAREIA NEO;aPIASMA
aPSIFISTON;OMALON;ANTIKENOMA;LYGISMA;PARAKLITIKI NEO;aPARAKALESMA;ETERON PARAKALESMA;KYLISMA
ANTIKENOKYLISMA;TROMIKON NEO;EKSTREPTON;SYNAGMA NEO;SYRMA;CHOREVMA NEO;EPEGERMA;SEISMA NEO
XIRON KLASMA;TROMIKOPSIFISTON;PSIFISTOLYGISMA;TROMIKOLYGISMA;TROMIKOPARAKALESMA
PSIFISTOPARAKALESMA;TROMIKOSYNAGMA;PSIFISTOSYNAGMA;GORGOSYNTHETON;ARGOSYNTHETON;aETERON
OYRANISMA NEO;THEMATISMOS ESO;4EXO;3THEMA APLOUN;THES KAI APOTHES;KATAVASMA;ENDOFONON;YFEN KATO
4ANO;3STAVROS;KLASMA ANO;DIPLI ARCHAION;aKRATIMA;4ALLO;NEO;3aAPODERMA;APLI;DIPLI;TRIPLI;TETRAPLI
KORONIS;LEIMMA ENOS CHRONOU;4DYO CHRONON;aTRION;aTESSARON;IMISEOS CHRONOU;3GORGON NEO ANO
4PARESTIGMENON ARISTERA;5DEXIA;3DIGORGON;4PARESTIGMENON ARISTERA KATO;6ANO;5DEXIA;3TRIGORGON
ARGON;IMIDIARGON;DIARGON;AGOGI POLI ARGI;4ARGOTERI;ARGI;METRIA;MESI;GORGI;GORGOTERI;POLI GORGI
3MARTYRIA PROTOS ICHOS;4bALLI;aDEYTEROS;bALLI;aTRITOS;TRIFONIAS;TETARTOS ICHOS;5aLEGETOS
4aLEGETOS;aPLAGIOS;3ISAKIA TELOUS ICHIMATOS;bAPOSTROFOI;FANEROSIS TETRAFONIAS;4MONOFONIAS
DIFONIAS;3MARTYRIA VARYS ICHOS;4aPROTOVARYS;aPLAGIOS TETARTOS;3GORTHMIKON N APLOUN;5DIPLOUN
3ENARXIS KAI FTHORA VOU;IMIFONON;IMIFTHORON;FTHORA ARCHAION DEYTEROU ICHOU;4DIATONIKI PA;5NANA
4NAOS ICHOS;DIATONIKI DI;aSKLIRON DIATONON;DIATONIKI KE;5ZO;NI KATO;6ANO;4MALAKON CHROMA DIFONIAS
6MONOFONIAS;3FHTORA SKLIRON CHROMA VASIS;FTHORA SKLIRON CHROMA SYNAFI;4NENANO;3CHROA ZYGOS
4KLITON;SPATHI;3FTHORA I YFESIS TETARTIMORION;4ENARMONIOS ANTIFONIA;3YFESIS TRITIMORION;aDIESIS
4TETARTIMORION;APLI DYO DODEKATA;aMONOGRAMMOS TESSERA;aDIGRAMMOS EX;aTRIGRAMMOS OKTO
3aYFESIS APLI DYO;4aMONOGRAMMOS TESSERA;aDIGRAMMOS EX;aTRIGRAMMOS OKTO;3GENIKI DIESIS;4YFESIS
3DIASTOLI APLI MIKRI;5MEGALI;4DIPLI;THESEOS;3aSIMANSIS;5DISIMOU;TRISIMOU;TETRASIMOU;4ARSEOS
5DISIMOU;TRISIMOU;TETRASIMOU;3DIGRAMMA GG;DIFTOGGOS OU;STIGMA;ARKTIKO PA;4VOU;GA;DI;KE;ZO;NI
3KENTIMATA NEO MESO;bKENTIMA;KENTIMATA NEO KATO;bKENTIMA;aKLASMA;aGORGON NEO"⟩,
    ⟨0x1d100, "MUSICAL SYMBOL SINGLE BARLINE;2a=;a);bREVERSE;aDASHED;aSHORT;< REPEAT $;b>
REPEAT DOTS;DAL SEGNO;DA CAPO;SEGNO;CODA;REPEATED FIGURE-1;+2;FERMATA;3BELOW;2BREATH MARK;CAESURA
BRACE;BRACKET;ONE-LINE STAFF;aTWO-LINE;aTHREE-LINE;aFOUR-LINE;aFIVE-LINE;aSIX-LINE
SIX-STRING FRETBOARD;aFOUR-STRING;G CLEF;4OTTAVA ALTA;5BASSA;2C CLEF;aF;4OTTAVA ALTA;5BASSA
2DRUM CLEF-1;+1"⟩,
    ⟨0x1d129, "MUSICAL SYMBOL MULTIPLE MEASURE REST;2= SHARP;3FLAT;2FLAT UP;3DOWN;2NATURAL UP
3DOWN;2SHARP UP;3DOWN;2QUARTER TONE SHARP;4FLAT;2COMMON TIME;aCUT;OTTAVA ALTA;3BASSA
2QUINDICESIMA ALTA;3BASSA;2MULTI REST;aWHOLE;aHALF;aQUARTER;aEIGHTH;aSIXTEENTH;aTHIRTY-SECOND
aSIXTY-FOURTH;aONE HUNDRED TWENTY-EIGHTH;X NOTEHEAD;aPLUS;aCIRCLE X;SQUARE NOTEHEAD WHITE;4,
2TRIANGLE NOTEHEAD UP WHITE;5,;4< WHITE;5,;4> WHITE;5,;4DOWN WHITE;5,;4UP > WHITE;6,
2MOON NOTEHEAD WHITE;4,;2TRIANGLE-ROUND NOTEHEAD DOWN WHITE;5,;2PARENTHESIS NOTEHEAD;aVOID
NOTEHEAD ,;NULL NOTEHEAD;CLUSTER NOTEHEAD WHITE;4,;2BREVE;WHOLE NOTE;aHALF;aQUARTER;aEIGHTH
aSIXTEENTH;aTHIRTY-SECOND;aSIXTY-FOURTH;aONE HUNDRED TWENTY-EIGHTH;COMBINING STEM;3aSPRECHGESANG
TREMOLO-1;+2;2FINGERED TREMOLO-1;+2;COMBINING AUGMENTATION DOT;3FLAG-1;+4;2BEGIN BEAM;aEND
BEGIN TIE;aEND;BEGIN SLUR;aEND;BEGIN PHRASE;aEND;COMBINING ACCENT;3STACCATO;TENUTO;STACCATISSIMO
MARCATO;MARCATO-STACCATO;ACCENT-STACCATO;LOURE;2ARPEGGIATO UP;3DOWN;2COMBINING DOIT;3RIP;FLIP
SMEAR;BEND;= TONGUE;aTRIPLE;2RINFORZANDO;SUBITO;Z;PIANO;MEZZO;FORTE;CRESCENDO;DECRESCENDO
GRACE NOTE SLASH;4aNO;2TR;TURN;aINVERTED;TURN SLASH;3UP;2ORNAMENT STROKE-1;+10;HAUPTSTIMME
NEBENSTIMME;END OF STIMME;DEGREE SLASH;COMBINING DOWN BOW;3aUP;HARMONIC;SNAP PIZZICATO
2PEDAL MARK;3aUP;2aHALF PEDAL;GLISSANDO UP;3DOWN;2& FINGERNAILS;DAMP;3ALL;2MAXIMA;LONGA;BREVIS
SEMIBREVIS WHITE;3,;2MINIMA;3,;2SEMIMINIMA WHITE;3,;2FUSA WHITE;3,;2LONGA PERFECTA REST
3aIMPERFECTA;2aBREVIS;aSEMIBREVIS;aMINIMA;aSEMIMINIMA;TEMPUS PERFECTUM CUM PROLATIONE PERFECTA
6IMPERFECTA;PERFECTA DIMINUTION-1;3IMPERFECTUM CUM PROLATIONE PERFECTA;6IMPERFECTA;7DIMINUTION-1
+2;2CROIX;GREGORIAN C CLEF;3aF;2SQUARE B;VIRGA;PODATUS;CLIVIS;SCANDICUS;CLIMACUS;TORCULUS
PORRECTUS;3FLEXUS;2aSCANDICUS;TORCULUS RESUPINUS;PES SUBPUNCTIS;KIEVAN C CLEF;3END OF PIECE
) NOTE;RECITATIVE MARK;WHOLE NOTE;aHALF;QUARTER NOTE STEM DOWN;6UP;3EIGHTH NOTE STEM DOWN;6UP
3FLAT $;2SORI;KORON"⟩,
    ⟨0x1d200, "GREEK VOCAL NOTATION SYMBOL-1;+23;3SYMBOL-50;+4;1INSTRUMENTAL NOTATION SYMBOL-1;+1
3SYMBOL-4;+1;SYMBOL-7;+1;SYMBOL-11;+3;SYMBOL-17;+2;SYMBOL-23;+4;SYMBOL-29;+1;SYMBOL-32;SYMBOL-36
+4;SYMBOL-42;+1;SYMBOL-45;SYMBOL-47;+7;0COMBINING GREEK MUSICAL TRISEME;3TETRASEME;PENTASEME
0GREEK MUSICAL LEIMMA"⟩,
    ⟨0x1d2e0, "MAYAN NUMERAL ZERO;2ONE;TWO;%;FOUR;FIVE;SIX;SEVEN;EIGHT;NINE;TEN;ELEVEN;TWELVE
THIRTEEN;FOURTEEN;FIFTEEN;SIXTEEN;SEVENTEEN;EIGHTEEN;NINETEEN"⟩,
    ⟨0x1d300, "MONOGRAM FOR EARTH;aDIGRAM FOR HEAVENLY;2aHUMAN;EARTHLY HEAVEN;3HUMAN;2EARTH
0TETRAGRAM FOR CENTRE;2FULL CIRCLE;MIRED;BARRIER;KEEPING _;CONTRARIETY;ASCENT;OPPOSITION
BRANCHING OUT;DEFECTIVENESS OR DISTORTION;DIVERGENCE;YOUTHFULNESS;INCREASE;PENETRATION;REACH
CONTACT;HOLDING BACK;WAITING;FOLLOWING;ADVANCE;RELEASE;RESISTANCE;EASE;JOY;CONTENTION;ENDEAVOUR
DUTIES;CHANGE;DECISIVENESS;BOLD RESOLUTION;PACKING;LEGION;CLOSENESS;KINSHIP;GATHERING;STRENGTH
PURITY;FULLNESS;RESIDENCE;LAW OR MODEL;RESPONSE;GOING TO MEET;ENCOUNTERS;STOVE;GREATNESS
ENLARGEMENT;PATTERN;RITUAL;FLIGHT;VASTNESS OR WASTING;CONSTANCY;MEASURE;ETERNITY;UNITY
DIMINISHMENT;CLOSED MOUTH;GUARDEDNESS;GATHERING IN;MASSING;ACCUMULATION;EMBELLISHMENT;DOUBT;WATCH
SINKING;INNER;DEPARTURE;DARKENING;DIMMING;EXHAUSTION;SEVERANCE;STOPPAGE;HARDNESS;COMPLETION
CLOSURE;FAILURE;AGGRAVATION;COMPLIANCE;ON THE VERGE;DIFFICULTIES;LABOURING;FOSTERING"⟩,
    ⟨0x1d360, "COUNTING ROD UNIT DIGIT ONE;4TWO;%;FOUR;FIVE;SIX;SEVEN;EIGHT;NINE;2TENS DIGIT ONE
4TWO;%;FOUR;FIVE;SIX;SEVEN;EIGHT;NINE;0IDEOGRAPHIC TALLY MARK ONE;3TWO;%;FOUR;FIVE
0TALLY MARK ONE;2FIVE"⟩,
    ⟨0x1d400, "MATHEMATICAL BOLD ^ A;+25;2_ A;+25;1ITALIC ^ A;+25;2_ A;+6"⟩,
    ⟨0x1d456, "MATHEMATICAL ITALIC _ I;+17;1BOLD ITALIC ^ A;+25;3_ A;+25;1SCRIPT ^ A"⟩,
    ⟨0x1d49e, "MATHEMATICAL SCRIPT ^ C;+1"⟩,
    ⟨0x1d4a2, "MATHEMATICAL SCRIPT ^ G"⟩,
    ⟨0x1d4a5, "MATHEMATICAL SCRIPT ^ J;+1"⟩,
    ⟨0x1d4a9, "MATHEMATICAL SCRIPT ^ N;+3"⟩,
    ⟨0x1d4ae, "MATHEMATICAL SCRIPT ^ S;+7;2_ A;+3"⟩,
    ⟨0x1d4bb, "MATHEMATICAL SCRIPT _ F"⟩,
    ⟨0x1d4bd, "MATHEMATICAL SCRIPT _ H;+6"⟩,
    ⟨0x1d4c5, "MATHEMATICAL SCRIPT _ P;+10;1BOLD SCRIPT ^ A;+25;3_ A;+25;1FRAKTUR ^ A;+1"⟩,
    ⟨0x1d507, "MATHEMATICAL FRAKTUR ^ D;+3"⟩,
    ⟨0x1d50d, "MATHEMATICAL FRAKTUR ^ J;+7"⟩,
    ⟨0x1d516, "MATHEMATICAL FRAKTUR ^ S;+6"⟩,
    ⟨0x1d51e, "MATHEMATICAL FRAKTUR _ A;+25;1DOUBLE-STRUCK ^ A;+1"⟩,
    ⟨0x1d53b, "MATHEMATICAL DOUBLE-STRUCK ^ D;+3"⟩,
    ⟨0x1d540, "MATHEMATICAL DOUBLE-STRUCK ^ I;+4"⟩,
    ⟨0x1d546, "MATHEMATICAL DOUBLE-STRUCK ^ O"⟩,
    ⟨0x1d54a, "MATHEMATICAL DOUBLE-STRUCK ^ S;+6"⟩,
    ⟨0x1d552, "MATHEMATICAL DOUBLE-STRUCK _ A;+25;1BOLD FRAKTUR ^ A;+25;3_ A;+25;1SANS-SERIF ^ A
+25;2_ A;+25;BOLD ^ A;+25;3_ A;+25;2ITALIC ^ A;+25;3_ A;+25;2BOLD ITALIC ^ A;+25;4_ A;+25
1MONOSPACE ^ A;+25;2_ A;+25;1ITALIC _ DOTLESS I;+1"⟩,
    ⟨0x1d6a8, "MATHEMATICAL BOLD ^ ALPHA;3BETA;GAMMA;DELTA;EPSILON;ZETA;ETA;THETA;IOTA;KAPPA
LAMDA;MU;NU;XI;OMICRON;PI;RHO;THETA SYMBOL;SIGMA;TAU;UPSILON;PHI;CHI;PSI;OMEGA;2NABLA;_ ALPHA
3BETA;GAMMA;DELTA;EPSILON;ZETA;ETA;THETA;IOTA;KAPPA;LAMDA;MU;NU;XI;OMICRON;PI;RHO;) SIGMA;2a_
3TAU;UPSILON;PHI;CHI;PSI;OMEGA;2PARTIAL DIFFERENTIAL;EPSILON SYMBOL;aTHETA;aKAPPA;aPHI;aRHO;aPI
1ITALIC ^ ALPHA;3BETA;GAMMA;DELTA;EPSILON;ZETA;ETA;THETA;IOTA;KAPPA;LAMDA;MU;NU;XI;OMICRON;PI;RHO
THETA SYMBOL;SIGMA;TAU;UPSILON;PHI;CHI;PSI;OMEGA;2NABLA;_ ALPHA;3BETA;GAMMA;DELTA;EPSILON;ZETA
ETA;THETA;IOTA;KAPPA;LAMDA;MU;NU;XI;OMICRON;PI;RHO;) SIGMA;2a_;3TAU;UPSILON;PHI;CHI;PSI;OMEGA
2PARTIAL DIFFERENTIAL;EPSILON SYMBOL;aTHETA;aKAPPA;aPHI;aRHO;aPI;1BOLD ITALIC ^ ALPHA;4BETA;GAMMA
DELTA;EPSILON;ZETA;ETA;THETA;IOTA;KAPPA;LAMDA;MU;NU;XI;OMICRON;PI;RHO;THETA SYMBOL;SIGMA;TAU
UPSILON;PHI;CHI;PSI;OMEGA;3NABLA;_ ALPHA;4BETA;GAMMA;DELTA;EPSILON;ZETA;ETA;THETA;IOTA;KAPPA
LAMDA;MU;NU;XI;OMICRON;PI;RHO;) SIGMA;3a_;4TAU;UPSILON;PHI;CHI;PSI;OMEGA;3PARTIAL DIFFERENTIAL
EPSILON SYMBOL;aTHETA;aKAPPA;aPHI;aRHO;aPI;1SANS-SERIF BOLD ^ ALPHA;4BETA;GAMMA;DELTA;EPSILON
ZETA;ETA;THETA;IOTA;KAPPA;LAMDA;MU;NU;XI;OMICRON;PI;RHO;THETA SYMBOL;SIGMA;TAU;UPSILON;PHI;CHI
PSI;OMEGA;3NABLA;_ ALPHA;4BETA;GAMMA;DELTA;EPSILON;ZETA;ETA;THETA;IOTA;KAPPA;LAMDA;MU;NU;XI
OMICRON;PI;RHO;) SIGMA;3a_;4TAU;UPSILON;PHI;CHI;PSI;OMEGA;3PARTIAL DIFFERENTIAL;EPSILON SYMBOL
aTHETA;aKAPPA;aPHI;aRHO;aPI;ITALIC ^ ALPHA;5BETA;GAMMA;DELTA;EPSILON;ZETA;ETA;THETA;IOTA;KAPPA
LAMDA;MU;NU;XI;OMICRON;PI;RHO;THETA SYMBOL;SIGMA;TAU;UPSILON;PHI;CHI;PSI;OMEGA;4NABLA;_ ALPHA
5BETA;GAMMA;DELTA;EPSILON;ZETA;ETA;THETA;IOTA;KAPPA;LAMDA;MU;NU;XI;OMICRON;PI;RHO;) SIGMA;4a_
5TAU;UPSILON;PHI;CHI;PSI;OMEGA;4PARTIAL DIFFERENTIAL;EPSILON SYMBOL;aTHETA;aKAPPA;aPHI;aRHO;aPI
1BOLD ^ DIGAMMA;2a_"⟩,
    ⟨0x1d7ce, "MATHEMATICAL BOLD DIGIT ZERO;3ONE;TWO;%;FOUR;FIVE;SIX;SEVEN;EIGHT;NINE
1DOUBLE-STRUCK DIGIT ZERO;3ONE;TWO;%;FOUR;FIVE;SIX;SEVEN;EIGHT;NINE;1SANS-SERIF DIGIT ZERO;3ONE
TWO;%;FOUR;FIVE;SIX;SEVEN;EIGHT;NINE;2BOLD DIGIT ZERO;4ONE;TWO;%;FOUR;FIVE;SIX;SEVEN;EIGHT;NINE
1MONOSPACE DIGIT ZERO;3ONE;TWO;%;FOUR;FIVE;SIX;SEVEN;EIGHT;NINE;0SIGNWRITING HAND-FIST INDEX
1aHAND-CIRCLE;aHAND-CUP;aHAND-OVAL;aHAND-HINGE;aHAND-ANGLE;HAND-FIST INDEX BENT;bHAND-CIRCLE
bHAND-FIST THUMB UNDER;2INDEX RAISED KNUCKLE;3CUPPED;HINGED;4LOW;1HAND-CIRCLE INDEX HINGE
HAND-FIST INDEX MIDDLE;bHAND-CIRCLE;HAND-FIST INDEX MIDDLE BENT;4RAISED KNUCKLES;HINGED;3bUP
HINGED MIDDLE UP;MIDDLE CONJOINED;5INDEX BENT;aMIDDLE;CUPPED;HINGED;4CROSSED;1cHAND-CIRCLE
HAND-FIST MIDDLE BENT OVER INDEX;2INDEX BENT OVER MIDDLE;3MIDDLE THUMB;1cHAND-CIRCLE
HAND-FIST INDEX MIDDLE STRAIGHT THUMB BENT;4BENT THUMB STRAIGHT;THUMB BENT
HINGED SPREAD THUMB SIDE;3bUP MIDDLE HINGED;7CONJOINED;3HINGED MIDDLE UP THUMB SIDE
MIDDLE UP SPREAD THUMB FORWARD;4THUMB CUPPED;5CIRCLED;HOOKED;HINGED
2THUMB BETWEEN INDEX MIDDLE STRAIGHT;INDEX MIDDLE CONJOINED THUMB SIDE;7CONJOINED;BENT
2MIDDLE THUMB HOOKED INDEX UP;aINDEX THUMB HOOKED MIDDLE;3MIDDLE CONJOINED HINGED THUMB SIDE
4bCROSSED;CONJOINED THUMB FORWARD;5bCUPPED;2MIDDLE THUMB CUPPED INDEX UP
aINDEX THUMB CUPPED MIDDLE;aMIDDLE THUMB CIRCLED INDEX;6HINGED;2INDEX THUMB ANGLED OUT MIDDLE UP
5bIN;4bCIRCLED;3MIDDLE THUMB CONJOINED HINGED;5ANGLED OUT;ANGLED
2MIDDLE THUMB ANGLED OUT INDEX UP;7CROSSED;5INDEX UP;2INDEX THUMB HOOKED MIDDLE HINGED
1HAND-FLAT FOUR FINGERS;4BENT;HINGED;CONJOINED;5SPLIT;1HAND-CLAW FOUR FINGERS CONJOINED
HAND-FIST FOUR FINGERS CONJOINED BENT;HAND-HINGE FOUR FINGERS CONJOINED
HAND-FLAT FIVE FINGERS SPREAD;2cHEEL;FIVE FINGERS SPREAD FOUR BENT;eHEEL;aFIVE FINGERS SPREAD
dHEEL;FIVE FINGERS SPREAD THUMB FORWARD;1HAND-CUP FIVE FINGERS SPREAD;5OPEN;1dHAND-HINGE
HAND-OVAL FIVE FINGERS SPREAD;HAND-FLAT FIVE FINGERS SPREAD HINGED;6THUMB SIDE;NO THUMB
1HAND-FLAT;2BETWEEN PALM FACINGS;HEEL;THUMB SIDE;bHEEL;THUMB BENT;3FORWARD
2SPLIT INDEX THUMB SIDE;3CENTRE;4THUMB SIDE;6BENT;3LITTLE;1HAND-CLAW;2THUMB SIDE;NO THUMB
THUMB FORWARD;1HAND-HOOK CURLICUE;HAND-HOOK;HAND-CUP OPEN;HAND-CUP;2OPEN THUMB SIDE;aTHUMB
OPEN NO THUMB;aNO;OPEN THUMB FORWARD;aTHUMB;1HAND-CURLICUE OPEN;HAND-CURLICUE;HAND-CIRCLE
HAND-OVAL;2THUMB SIDE;NO THUMB;THUMB FORWARD;1HAND-HINGE OPEN;3THUMB FORWARD;1HAND-HINGE;2_
OPEN THUMB SIDE;aTHUMB;OPEN NO THUMB;aNO;THUMB SIDE TOUCHING INDEX;3BETWEEN MIDDLE RING
1HAND-ANGLE;HAND-FIST INDEX MIDDLE RING;cHAND-CIRCLE;cHAND-HINGE;cHAND-ANGLE;HAND-HINGE LITTLE
HAND-FIST INDEX MIDDLE RING BENT;5CONJOINED;1dHAND-HINGE;HAND-FIST LITTLE DOWN;4RIPPLE STRAIGHT
5CURVED;4OTHERS CIRCLED;3UP;2bTHUMB UNDER;1bHAND-CIRCLE;bHAND-OVAL;bHAND-ANGLE
HAND-FIST LITTLE RAISED KNUCKLE;3BENT;TOUCHES THUMB;THUMB;1bHAND-HINGE;aHAND-FIST LITTLE INDEX
cHAND-HINGE;HAND-ANGLE LITTLE INDEX THUMB INDEX THUMB OUT;6THUMB;1HAND-FIST LITTLE INDEX
bHAND-CIRCLE;bHAND-HINGE;bHAND-ANGLE;HAND-FIST INDEX MIDDLE LITTLE;cHAND-CIRCLE;cHAND-HINGE;2RING
1HAND-ANGLE INDEX MIDDLE LITTLE;aHAND-FIST INDEX MIDDLE CROSS;dHAND-CIRCLE;HAND-FIST RING DOWN
HAND-HINGE RING DOWN INDEX THUMB HOOK MIDDLE;HAND-ANGLE RING DOWN MIDDLE THUMB INDEX CROSS
HAND-FIST RING UP;3RAISED KNUCKLE;LITTLE;1bHAND-CIRCLE;bHAND-OVAL;bHAND-ANGLE
HAND-FIST RING MIDDLE;4CONJOINED;RAISED KNUCKLES;3INDEX;THUMB;1bHAND-HOOK
HAND-FIST INDEX RING LITTLE;cHAND-CIRCLE;HAND-CURLICUE INDEX RING LITTLE ON
HAND-HOOK INDEX RING LITTLE OUT;5IN;UNDER;1HAND-CUP INDEX RING LITTLE;cHAND-HINGE
HAND-ANGLE INDEX RING LITTLE OUT;4LITTLE;1HAND-FIST MIDDLE DOWN;HAND-HINGE MIDDLE
HAND-FIST MIDDLE UP;bHAND-CIRCLE;HAND-FIST MIDDLE RAISED KNUCKLE;3UP THUMB SIDE
1HAND-HOOK MIDDLE THUMB;HAND-FIST MIDDLE THUMB LITTLE;3LITTLE;aRING;1cHAND-CIRCLE
HAND-CURLICUE MIDDLE RING LITTLE ON;HAND-CUP MIDDLE RING LITTLE;cHAND-HINGE
HAND-ANGLE MIDDLE RING LITTLE OUT;5IN;4LITTLE;1HAND-CIRCLE MIDDLE RING LITTLE BENT
HAND-CLAW MIDDLE RING LITTLE CONJOINED;6SIDE;1HAND-HOOK MIDDLE RING LITTLE CONJOINED OUT;6IN
5CONJOINED;1HAND-HINGE INDEX HINGED;HAND-FIST INDEX THUMB SIDE;cHAND-HINGE
HAND-FIST INDEX THUMB SIDE THUMB DIAGONAL;6CONJOINED;BENT;5aINDEX;aBOTH;INDEX HINGE
4FORWARD INDEX STRAIGHT;6BENT;4HOOK;CURLICUE;CURVE THUMB INSIDE;1eHAND-CLAW
HAND-FIST INDEX THUMB CURVE THUMB UNDER;4CIRCLE;1HAND-CUP INDEX THUMB;4OPEN;1cHAND-HINGE;4LARGE
3THUMB;4_;1HAND-ANGLE INDEX THUMB OUT;4IN;3THUMB;1aHAND-FIST;3HEEL;SIDE DIAGONAL;4CONJOINED;BENT
3FORWARD;BETWEEN INDEX MIDDLE;4MIDDLE RING;RING LITTLE;3UNDER TWO FINGERS;bOVER;aUNDER %;4aFOUR
3OVER FOUR RAISED KNUCKLES;1HAND-FIST;2HEEL;1TOUCH SINGLE;2MULTIPLE;BETWEEN;1GRASP SINGLE
2MULTIPLE;BETWEEN;1STRIKE SINGLE;2MULTIPLE;BETWEEN;1BRUSH SINGLE;2MULTIPLE;BETWEEN;1RUB SINGLE
2MULTIPLE;BETWEEN;1SURFACE SYMBOLS;2BETWEEN;1SQUEEZE LARGE SINGLE;2a_;LARGE MULTIPLE;a_
SEQUENTIAL;1FLICK LARGE SINGLE;2a_;LARGE MULTIPLE;a_;SEQUENTIAL;1SQUEEZE FLICK ALTERNATING
MOVEMENT-HINGE UP DOWN LARGE;4_;3SEQUENTIAL;2aDOWN;UP DOWN ALTERNATING LARGE;5_
2SIDE TO SIDE SCISSORS;1MOVEMENT-WALLPLANE FINGER CONTACT;bMOVEMENT-FLOORPLANE
MOVEMENT-WALLPLANE SINGLE STRAIGHT _;4MEDIUM;LARGE;LARGEST;3WRIST FLEX;2= STRAIGHT;3WRIST FLEX
ALTERNATING;4WRIST FLEX;2CROSS;TRIPLE STRAIGHT MOVEMENT;3WRIST FLEX;ALTERNATING;4WRIST FLEX
2BEND _;3MEDIUM;LARGE;2CORNER _;3MEDIUM;LARGE;ROTATION;2CHECK _;3MEDIUM;LARGE;2BOX _;3MEDIUM
LARGE;2ZIGZAG _;3MEDIUM;LARGE;2PEAKS _;3MEDIUM;LARGE;1TRAVEL-WALLPLANE ROTATION-WALLPLANE SINGLE
3=;ALTERNATING;2ROTATION-FLOORPLANE SINGLE;3=;ALTERNATING;2SHAKING;ARM SPIRAL SINGLE;4=;TRIPLE
1MOVEMENT-DIAGONAL AWAY _;3MEDIUM;LARGE;LARGEST;2TOWARDS _;3MEDIUM;LARGE;LARGEST;2BETWEEN AWAY _
4MEDIUM;LARGE;LARGEST;3TOWARDS _;4MEDIUM;LARGE;LARGEST;1MOVEMENT-FLOORPLANE SINGLE STRAIGHT _
4MEDIUM;LARGE;LARGEST;3WRIST FLEX;2= STRAIGHT;3WRIST FLEX;ALTERNATING;4WRIST FLEX;2CROSS
TRIPLE STRAIGHT MOVEMENT;3WRIST FLEX;ALTERNATING MOVEMENT;4WRIST FLEX;2BEND;CORNER _;3MEDIUM
LARGE;2CHECK;BOX _;3MEDIUM;LARGE;2ZIGZAG _;3MEDIUM;LARGE;2PEAKS _;3MEDIUM;LARGE
1TRAVEL-FLOORPLANE ROTATION-FLOORPLANE SINGLE;3=;ALTERNATING;2ROTATION-WALLPLANE SINGLE;3=
ALTERNATING;2SHAKING;1MOVEMENT-WALLPLANE CURVE QUARTER _;4MEDIUM;LARGE;LARGEST;3HALF-CIRCLE _
4MEDIUM;LARGE;LARGEST;3THREE-QUARTER CIRCLE _;5MEDIUM;2HUMP _;3MEDIUM;LARGE;2LOOP _;3MEDIUM;LARGE
_ =;2WAVE CURVE = _;5MEDIUM;LARGE;4TRIPLE _;5MEDIUM;LARGE;2CURVE THEN STRAIGHT;CURVED CROSS _
4MEDIUM;1ROTATION-WALLPLANE SINGLE;2=;ALTERNATE;1MOVEMENT-WALLPLANE SHAKING
2CURVE HITTING FRONT WALL;cHUMP;cLOOP;cWAVE;1cROTATION-WALLPLANE SINGLE;2c=;cALTERNATING
1MOVEMENT-WALLPLANE CURVE HITTING CHEST;2bHUMP;bLOOP;bWAVE;1bROTATION-WALLPLANE SINGLE;2b=
bALTERNATING;1MOVEMENT-WALLPLANE WAVE DIAGONAL PATH _;5MEDIUM;LARGE
1MOVEMENT-FLOORPLANE CURVE HITTING CEILING _;5LARGE;2HUMP HITTING CEILING _ =;5aLARGE;_ TRIPLE
aLARGE;2LOOP HITTING CEILING _ SINGLE;5aLARGE;_ =;aLARGE;2WAVE HITTING CEILING _;5LARGE
1ROTATION-FLOORPLANE SINGLE HITTING CEILING;2b=;bALTERNATING
1MOVEMENT-FLOORPLANE CURVE HITTING FLOOR _;5LARGE;2HUMP HITTING FLOOR _ =;5aLARGE;TRIPLE _ TRIPLE
6aLARGE;2LOOP HITTING FLOOR _ SINGLE;5aLARGE;_ =;aLARGE;2WAVE HITTING FLOOR _;5LARGE
1ROTATION-FLOORPLANE SINGLE HITTING FLOOR;2b=;bALTERNATING;1MOVEMENT-FLOORPLANE CURVE _;3MEDIUM
LARGE;LARGEST;COMBINED;2HUMP _;aLOOP;WAVE SNAKE;3_;LARGE;1ROTATION-FLOORPLANE SINGLE;2=
ALTERNATING;1MOVEMENT-FLOORPLANE SHAKING PARALLEL;MOVEMENT-WALLPLANE ARM CIRCLE _ SINGLE;4aMEDIUM
_ =;aMEDIUM;1MOVEMENT-FLOORPLANE ARM CIRCLE HITTING WALL _ SINGLE;6aMEDIUM;aLARGE;_ =;aMEDIUM
aLARGE;1MOVEMENT-WALLPLANE WRIST CIRCLE FRONT SINGLE;5=
1MOVEMENT-FLOORPLANE WRIST CIRCLE HITTING WALL SINGLE;6=
1MOVEMENT-WALLPLANE FINGER CIRCLES SINGLE;4=
1MOVEMENT-FLOORPLANE FINGER CIRCLES HITTING WALL SINGLE;6=;1DYNAMIC ARROWHEAD _;3LARGE;2FAST;SLOW
TENSE;RELAXED;SIMULTANEOUS;3ALTERNATING;2EVERY OTHER TIME;GRADUAL;1HEAD;2RIM
MOVEMENT-WALLPLANE STRAIGHT;3TILT;2MOVEMENT-FLOORPLANE STRAIGHT;MOVEMENT-WALLPLANE CURVE
aMOVEMENT-FLOORPLANE;MOVEMENT CIRCLE;1FACE DIRECTION POSITION NOSE FORWARD TILTING;5UP OR DOWN
8TILTING;1EYEBROWS STRAIGHT UP;3NEUTRAL;DOWN;1aDREAMY EYEBROWS NEUTRAL;3DOWN NEUTRAL;aUP
NEUTRAL UP;1FOREHEAD NEUTRAL;2CONTACT;WRINKLED;1EYES OPEN;2SQUEEZED;CLOSED;1EYE BLINK SINGLE
3MULTIPLE;1EYES HALF OPEN;2aWIDE;HALF CLOSED;WIDENING MOVEMENT;1EYE WINK;EYELASHES UP;2DOWN
FLUTTERING;1EYEGAZE-WALLPLANE STRAIGHT;3=;ALTERNATING;1EYEGAZE-FLOORPLANE STRAIGHT;3=;ALTERNATING
1EYEGAZE-WALLPLANE CURVED;aEYEGAZE-FLOORPLANE;EYEGAZE-WALLPLANE CIRCLING;CHEEKS PUFFED;2NEUTRAL
SUCKED;1TENSE CHEEKS HIGH;3MIDDLE;LOW;1EARS;NOSE NEUTRAL;2CONTACT;WRINKLES;WIGGLES
1AIR BLOWING OUT;2SUCKING IN;BLOW _ ROTATIONS;bSUCK;1BREATH INHALE;2EXHALE;1MOUTH CLOSED NEUTRAL
3FORWARD;CONTACT;2SMILE;3WRINKLED;OPEN;2FROWN;3WRINKLED;OPEN;2OPEN CIRCLE;3FORWARD;WRINKLED;OVAL
4WRINKLED;YAWN;3RECTANGLE;4WRINKLED;YAWN;2KISS;3FORWARD;WRINKLED;2TENSE;3FORWARD;SUCKED
1LIPS PRESSED TOGETHER;LIP LOWER OVER UPPER;2UPPER OVER LOWER;1MOUTH CORNERS;2WRINKLES SINGLE;3=
1TONGUE STICKING OUT FAR;2LICKING LIPS;aTIP BETWEEN;3TOUCHING INSIDE MOUTH;2INSIDE MOUTH RELAXED
MOVES AGAINST CHEEK;CENTRE STICKING OUT;3INSIDE MOUTH;1TEETH;2MOVEMENT;ON TONGUE;4MOVEMENT;3LIPS
4MOVEMENT;2BITE LIPS;1MOVEMENT-WALLPLANE JAW;aMOVEMENT-FLOORPLANE;NECK;HAIR;EXCITEMENT
SHOULDER HIP SPINE;3POSITIONS;1WALLPLANE SHOULDER HIP MOVE;cFLOORPLANE
SHOULDER TILTING FROM WAIST;TORSO-WALLPLANE STRAIGHT STRETCH;2CURVED BEND
1TORSO-FLOORPLANE TWISTING;UPPER BODY TILTING FROM HIP JOINTS;LIMB COMBINATION;2LENGTH-1;+6
1FINGER;LOCATION-WALLPLANE SPACE;aLOCATION-FLOORPLANE;LOCATION HEIGHT;2WIDTH;DEPTH;HEAD NECK
TORSO;LIMBS DIGITS;1COMMA;FULL STOP;SEMICOLON;COLON;PARENTHESIS"⟩,
    ⟨0x1da9b, "SIGNWRITING FILL MODIFIER-2;+4"⟩,
    ⟨0x1daa1, "SIGNWRITING ROTATION MODIFIER-2;+14"⟩,
    ⟨0x1df00, "LATIN _ . FENG DIGRAPH & TRILL;3REVERSED SCRIPT G;1a. _ ^ TURNED;_ . REVERSED K
. _ ^ L & BELT;_ . LEZH & RETROFLEX HOOK;3TURNED Y & BELT;REVERSED ENG
TURNED R & LONG LEG ? RETROFLEX HOOK;cT & HOOK;1b. RETROFLEX CLICK &;_ . ESH & = BAR;7? CURL
3aTURNED T &;1b. INVERTED GLOTTAL STOP;2bSTRETCHED C;_ ^ TURNED K;1_ . L & FISHHOOK
3DEZH DIGRAPH & PALATAL HOOK;bL & BELT ?;bENG &;cTURNED R;bR & FISHHOOK ?;bTESH DIGRAPH &;cEZH
aDEZH DIGRAPH & RETROFLEX;bI & STROKE ?;bO &;cTESH DIGRAPH;cC;S & CURL"⟩,
    ⟨0x1e000, "COMBINING GLAGOLITIC . AZU;3BUKY;VEDE;GLAGOLI;DOBRO;YESTU;ZHIVETE"⟩,
    ⟨0x1e008, "COMBINING GLAGOLITIC . ZEMLJA;3IZHE;aINITIAL;I;DJERVI;KAKO;LJUDIJE;MYSLITE;NASHI
ONU;POKOJI;RITSI;SLOVO;TVRIDO;UKU;FRITU;HERU"⟩,
    ⟨0x1e01b, "COMBINING GLAGOLITIC . SHTA;3TSI;CHRIVI;SHA;YERU;YERI;YATI"⟩,
    ⟨0x1e023, "COMBINING GLAGOLITIC . YU;3_ YUS"⟩,
    ⟨0x1e026, "COMBINING GLAGOLITIC . YO;3IOTATED _ YUS;aBIG;bIOTATED;FITA"⟩,
    ⟨0x1e100, "NYIAKENG PUACHUE HMONG . MA;4TSA;NTA;TA;HA;NA;XA;NKA;CA;LA;SA;ZA;NCA;NTSA;KA;DA
NYA;NRA;VA;NTXA;TXA;FA;RA;QA;YA;NQA;PA;XYA;NPA;DLA;NPLA;HAH;MLA;PLA;GA;RRA;A;AA;I;U;O;OO;E;EE;W"⟩,
    ⟨0x1e130, "NYIAKENG PUACHUE HMONG TONE-B;3TONE-M;TONE-J;TONE-V;TONE-S;TONE-G;TONE-D
$ FOR PERSON;5THING;LOCATION;ANIMAL;INVERTEBRATE;4XW XW;3SYLLABLE LENGTHENER"⟩,
    ⟨0x1e140, "NYIAKENG PUACHUE HMONG DIGIT ZERO;4ONE;TWO;%;FOUR;FIVE;SIX;SEVEN;EIGHT;NINE"⟩,
    ⟨0x1e14e, "NYIAKENG PUACHUE HMONG LOGOGRAM NYAJ;3CIRCLED CA"⟩,
    ⟨0x1e290, "TOTO . PA;2BA;TA;DA;KA;GA;MA;NA;NGA;SA;CHA;YA;WA;JA;HA;RA;LA;I;aBREATHY;IU
aBREATHY;U;E;aBREATHY;EO;aBREATHY;O;AE;aBREATHY;A;1$ RISING TONE"⟩,
    ⟨0x1e2c0, "WANCHO . AA;2A;BA;CA;DA;GA;YA;PHA;LA;NA;PA;TA;THA;FA;SA;SHA;JA;ZA;WA;VA;KA;O;AU;RA
MA;KHA;HA;E;I;NGA;U;LLHA;TSA;TRA;ONG;AANG;ANG;ING;ON;EN;AAN;NYA;UEN;YIH;1TONE TUP;2TUPNI;KOI
KOINI;1DIGIT ZERO;2ONE;TWO;%;FOUR;FIVE;SIX;SEVEN;EIGHT;NINE"⟩,
    ⟨0x1e2ff, "WANCHO NGUN $"⟩,
    ⟨0x1e7e0, "ETHIOPIC SYLLABLE HHYA;2HHYU;HHYI;HHYAA;HHYEE;HHYE;HHYO"⟩,
    ⟨0x1e7e8, "ETHIOPIC SYLLABLE GURAGE HHWA;2HHWI;HHWEE;HHWE"⟩,
    ⟨0x1e7ed, "ETHIOPIC SYLLABLE GURAGE MWI;3MWEE"⟩,
    ⟨0x1e7f0, "ETHIOPIC SYLLABLE GURAGE QWI;3QWEE;QWE;BWI;BWEE;KWI;KWEE;KWE;GWI;GWEE;GWE;FWI;FWEE
PWI;PWEE"⟩,
    ⟨0x1e800, "MENDE KIKAKUI SYLLABLE M001 KI;3M002 KA;M003 KU;M065 KEE;M095 KE;M076 KOO;M048 KO
M179 KUA;M004 WI;M005 WA;M006 WU;M126 WEE;M118 WE;M114 WOO;M045 WO;M194 WUI;M143 WEI;M061 WVI
M049 WVA;M139 WVE;M007 MIN;M008 MAN;M009 MUN;M059 MEN;M094 MON;M154 MUAN;M189 MUEN;M010 BI
M011 BA;M012 BU;M150 BEE;M097 BE;M103 BOO;M138 BO;M013 I;M014 A;M015 U;M163 EE;M100 E;M165 OO
M147 O;M137 EI;M131 IN;aM135;M195 AN;M178 EN;M019 SI;M020 SA;M021 SU;M162 SEE;M116 SE;M136 SOO
M079 SO;M196 SIA;M025 LI;M026 LA;M027 LU;M084 LEE;M073 LE;M054 LOO;M153 LO;M110 LONG LE;M016 DI
M017 DA;M018 DU;M089 DEE;M180 DOO;M181 DO;M022 TI;M023 TA;M024 TU;M091 TEE;M055 TE;M104 TOO
M069 TO;M028 JI;M029 JA;M030 JU;M157 JEE;M113 JE;M160 JOO;M063 JO;aM175 LONG;M031 YI;M032 YA
M033 YU;M109 YEE;M080 YE;M141 YOO;M121 YO;M034 FI;M035 FA;M036 FU;M078 FEE;M075 FE;M133 FOO
M088 FO;M197 FUA;M101 FAN;M037 NIN;M038 NAN;M039 NUN;M117 NEN;M169 NON;M176 HI;M041 HA;M186 HU
M040 HEE;M096 HE;M042 HOO;M140 HO;M083 HEEI;M128 HOOU;M053 HIN;M130 HAN;M087 HUN;M052 HEN
M193 HON;M046 HUAN;M090 NGGI;M043 NGGA;M082 NGGU;M115 NGGEE;M146 NGGE;M156 NGGOO;M120 NGGO
M159 NGGAA;M127 NGGUA;M086 LONG NGGE;M106 LONG NGGOO;M183 LONG NGGO;M155 GI;M111 GA;M168 GU
M190 GEE;M166 GUEI;M167 GUAN;M184 NGEN;M057 NGON;M177 NGUAN;M068 PI;M099 PA;M050 PU;M081 PEE
M051 PE;M102 POO;M066 PO;M145 MBI;M062 MBA;M122 MBU;M047 MBEE;aM188;M072 MBE;M172 MBOO;M174 MBO
M187 MBUU;M161 LONG MBE;M105 LONG MBOO;M142 LONG MBO;M132 KPI;M092 KPA;M074 KPU;M044 KPEE
M108 KPE;M112 KPOO;M158 KPO;M124 GBI;M056 GBA;M148 GBU;M093 GBEE;M107 GBE;M071 GBOO;M070 GBO
M171 RA;M123 NDI;M129 NDA;M125 NDU;M191 NDEE;M119 NDE;M067 NDOO;M064 NDO;M152 NJA;M192 NJU
M149 NJEE;M134 NJOO;M182 VI;M185 VA;M151 VU;M173 VEE;M085 VE;M144 VOO;M077 VO;M164 NYIN;M058 NYAN
M170 NYUN;M098 NYEN;M060 NYON"⟩,
    ⟨0x1e8c7, "MENDE KIKAKUI DIGIT ONE;3TWO;%;FOUR;FIVE;SIX;SEVEN;EIGHT;NINE
2COMBINING NUMBER TEENS;4TENS;HUNDREDS;THOUSANDS;aTEN;aHUNDRED;MILLIONS"⟩,
    ⟨0x1e900, "ADLAM ^ . ALIF;3DAALI;LAAM;MIIM;BA;SINNYIIYHE;PE;BHE;RA;E;FA;I;O;DHA;YHE;WAW;NUN
KAF;YA;U;JIIM;CHI;HA;QAAF;GA;NYA;TU;NHA;VA;KHA;GBE;ZAL;KPO;SHA;1_ . ALIF;3DAALI;LAAM;MIIM;BA
SINNYIIYHE;PE;BHE;RA;E;FA;I;O;DHA;YHE;WAW;NUN;KAF;YA;U;JIIM;CHI;HA;QAAF;GA;NYA;TU;NHA;VA;KHA;GBE
ZAL;KPO;SHA;1ALIF LENGTHENER;aVOWEL;GEMINATION MARK;HAMZA;CONSONANT MODIFIER;bGEMINATE;NUKTA
NASALIZATION MARK"⟩,
    ⟨0x1e950, "ADLAM DIGIT ZERO;2ONE;TWO;%;FOUR;FIVE;SIX;SEVEN;EIGHT;NINE"⟩,
    ⟨0x1e95e, "ADLAM INITIAL EXCLAMATION MARK;2aQUESTION"⟩,
    ⟨0x1ec71, "INDIC SIYAQ NUMBER ONE;3TWO;%;FOUR;FIVE;SIX;SEVEN;EIGHT;NINE;TEN;TWENTY;THIRTY
FORTY;FIFTY;SIXTY;SEVENTY;EIGHTY;NINETY;ONE HUNDRED;aTWO;a%;aFOUR;aFIVE;aSIX;aSEVEN;aEIGHT;aNINE
ONE THOUSAND;aTWO;a%;aFOUR;aFIVE;aSIX;aSEVEN;aEIGHT;aNINE;aTEN;aTWENTY;aTHIRTY;aFORTY;aFIFTY
aSIXTY;aSEVENTY;aEIGHTY;aNINETY;LAKH;LAKHAN;2LAKH MARK;NUMBER KAROR;3KARORAN;PREFIXED ONE;4TWO;%
FOUR;FIVE;SIX;SEVEN;EIGHT;NINE;2PLACEHOLDER;FRACTION ONE QUARTER;4HALF;3% QUARTERS;2RUPEE MARK
NUMBER ALTERNATE ONE;4TWO;TEN THOUSAND;2ALTERNATE LAKH MARK"⟩,
    ⟨0x1ed01, "OTTOMAN SIYAQ NUMBER ONE;3TWO;%;FOUR;FIVE;SIX;SEVEN;EIGHT;NINE;TEN;TWENTY;THIRTY
FORTY;FIFTY;SIXTY;SEVENTY;EIGHTY;NINETY;ONE HUNDRED;aTWO;a%;aFOUR;aFIVE;aSIX;aSEVEN;aEIGHT;aNINE
ONE THOUSAND;aTWO;a%;aFOUR;aFIVE;aSIX;aSEVEN;aEIGHT;aNINE;aTEN;aTWENTY;aTHIRTY;aFORTY;aFIFTY
aSIXTY;aSEVENTY;aEIGHTY;aNINETY;2MARRATAN;ALTERNATE NUMBER TWO;4%;FOUR;FIVE;SIX;SEVEN;EIGHT;NINE
TEN;FOUR HUNDRED;aSIX;TWO THOUSAND;aTEN;2FRACTION ONE HALF;4SIXTH"⟩,
    ⟨0x1ee00, "ARABIC MATHEMATICAL ALEF;2BEH;JEEM;DAL"⟩,
    ⟨0x1ee05, "ARABIC MATHEMATICAL WAW;2ZAIN;HAH;TAH;YEH;KAF;LAM;MEEM;NOON;SEEN;AIN;FEH;SAD;QAF
REH;SHEEN;TEH;THEH;KHAH;THAL;DAD;ZAH;GHAIN;DOTLESS BEH;3NOON;FEH;QAF"⟩,
    ⟨0x1ee21, "ARABIC MATHEMATICAL INITIAL BEH;3JEEM"⟩,
    ⟨0x1ee24, "ARABIC MATHEMATICAL INITIAL HEH"⟩,
    ⟨0x1ee27, "ARABIC MATHEMATICAL INITIAL HAH"⟩,
    ⟨0x1ee29, "ARABIC MATHEMATICAL INITIAL YEH;3KAF;LAM;MEEM;NOON;SEEN;AIN;FEH;SAD;QAF"⟩,
    ⟨0x1ee34, "ARABIC MATHEMATICAL INITIAL SHEEN;3TEH;THEH;KHAH"⟩,
    ⟨0x1ee39, "ARABIC MATHEMATICAL INITIAL DAD"⟩,
    ⟨0x1ee3b, "ARABIC MATHEMATICAL INITIAL GHAIN"⟩,
    ⟨0x1ee42, "ARABIC MATHEMATICAL TAILED JEEM"⟩,
    ⟨0x1ee47, "ARABIC MATHEMATICAL TAILED HAH"⟩,
    ⟨0x1ee49, "ARABIC MATHEMATICAL TAILED YEH"⟩,
    ⟨0x1ee4b, "ARABIC MATHEMATICAL TAILED LAM"⟩,
    ⟨0x1ee4d, "ARABIC MATHEMATICAL TAILED NOON;3SEEN;AIN"⟩,
    ⟨0x1ee51, "ARABIC MATHEMATICAL TAILED SAD;3QAF"⟩,
    ⟨0x1ee54, "ARABIC MATHEMATICAL TAILED SHEEN"⟩,
    ⟨0x1ee57, "ARABIC MATHEMATICAL TAILED KHAH"⟩,
    ⟨0x1ee59, "ARABIC MATHEMATICAL TAILED DAD"⟩,
    ⟨0x1ee5b, "ARABIC MATHEMATICAL TAILED GHAIN"⟩,
    ⟨0x1ee5d, "ARABIC MATHEMATICAL TAILED DOTLESS NOON"⟩,
    ⟨0x1ee5f, "ARABIC MATHEMATICAL TAILED DOTLESS QAF"⟩,
    ⟨0x1ee61, "ARABIC MATHEMATICAL STRETCHED BEH;3JEEM"⟩,
    ⟨0x1ee64, "ARABIC MATHEMATICAL STRETCHED HEH"⟩,
    ⟨0x1ee67, "ARABIC MATHEMATICAL STRETCHED HAH;3TAH;YEH;KAF"⟩,
    ⟨0x1ee6c, "ARABIC MATHEMATICAL STRETCHED MEEM;3NOON;SEEN;AIN;FEH;SAD;QAF"⟩,
    ⟨0x1ee74, "ARABIC MATHEMATICAL STRETCHED SHEEN;3TEH;THEH;KHAH"⟩,
    ⟨0x1ee79, "ARABIC MATHEMATICAL STRETCHED DAD;3ZAH;GHAIN;DOTLESS BEH"⟩,
    ⟨0x1ee7e, "ARABIC MATHEMATICAL STRETCHED DOTLESS FEH"⟩,
    ⟨0x1ee80, "ARABIC MATHEMATICAL LOOPED ALEF;3BEH;JEEM;DAL;HEH;WAW;ZAIN;HAH;TAH;YEH"⟩,
    ⟨0x1ee8b, "ARABIC MATHEMATICAL LOOPED LAM;3MEEM;NOON;SEEN;AIN;FEH;SAD;QAF;REH;SHEEN;TEH;THEH
KHAH;THAL;DAD;ZAH;GHAIN"⟩,
    ⟨0x1eea1, "ARABIC MATHEMATICAL DOUBLE-STRUCK BEH;3JEEM;DAL"⟩,
    ⟨0x1eea5, "ARABIC MATHEMATICAL DOUBLE-STRUCK WAW;3ZAIN;HAH;TAH;YEH"⟩,
    ⟨0x1eeab, "ARABIC MATHEMATICAL DOUBLE-STRUCK LAM;3MEEM;NOON;SEEN;AIN;FEH;SAD;QAF;REH;SHEEN
TEH;THEH;KHAH;THAL;DAD;ZAH;GHAIN"⟩,
    ⟨0x1eef0, "ARABIC MATHEMATICAL OPERATOR MEEM & HAH & TATWEEL;3HAH & DAL"⟩ ]

end TagTree.Text
