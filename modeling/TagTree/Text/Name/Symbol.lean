import TagTree.Text.Name.Basic

/-!
# Names of characters: punctuation and symbols

Punctuation, arrows, mathematical operators, box drawing and Braille patterns.
-/

namespace TagTree.Text

/-- The runs of named characters from 0x2000 to 0x2bff. -/
def symbolNames : List NameRun :=
  [ ⟨0x2000, "EN QUAD;aEM;EN SPACE;aEM;aTHREE-PER-EM;aFOUR-PER-EM;aSIX-PER-EM;aFIGURE
aPUNCTUATION;aTHIN;aHAIR;aZERO WIDTH;2NON-JOINER;JOINER;0LEFT-TO-RIGHT MARK;aRIGHT-TO-LEFT;HYPHEN
aNON-BREAKING;FIGURE DASH;aEN;aEM;] BAR;= ! LINE;1aLOW;0< SINGLE QUOTATION MARK;c>;bSINGLE LOW-9
1bHIGH-REVERSED-9;0b< =;c>;b= LOW-9;1bHIGH-REVERSED-9;0DAGGER;a=;BULLET;aTRIANGULAR
ONE DOT LEADER;bTWO;] ELLIPSIS;HYPHENATION POINT;LINE SEPARATOR;aPARAGRAPH
LEFT-TO-RIGHT EMBEDDING;aRIGHT-TO-LEFT;POP DIRECTIONAL FORMATTING;LEFT-TO-RIGHT OVERRIDE
aRIGHT-TO-LEFT;NARROW NO-BREAK SPACE;PER MILLE $;1aTEN THOUSAND;0PRIME;a=;aTRIPLE;aREVERSED;1a=
aTRIPLE;0CARET;SINGLE LEFT-POINTING ANGLE QUOTATION MARK;1cRIGHT-POINTING;0aREFERENCE
a= EXCLAMATION;INTERROBANG;OVERLINE;UNDERTIE;CHARACTER TIE;CARET INSERTION POINT;ASTERISM
HYPHEN BULLET;FRACTION SLASH;< SQUARE BRACKET & QUILL;d>;= QUESTION MARK;aQUESTION EXCLAMATION
aEXCLAMATION QUESTION;TIRONIAN $ ET;REVERSED PILCROW $;, | BULLET;1a~;0LOW ASTERISK
REVERSED SEMICOLON;CLOSE UP;TWO ASTERISKS ALIGNED VERTICALLY;COMMERCIAL MINUS $;SWUNG DASH
INVERTED UNDERTIE;FLOWER PUNCTUATION MARK;% DOT PUNCTUATION;QUADRUPLE PRIME;FOUR DOT PUNCTUATION
bFIVE;bTWO;FOUR DOT MARK;DOTTED CROSS;TRICOLON;! FOUR DOTS;MEDIUM MATHEMATICAL SPACE;WORD JOINER
FUNCTION APPLICATION;INVISIBLE TIMES;1SEPARATOR;PLUS"⟩,
    ⟨0x2066, "LEFT-TO-RIGHT ISOLATE;aRIGHT-TO-LEFT;aFIRST STRONG;aPOP DIRECTIONAL
INHIBIT SYMMETRIC SWAPPING;bACTIVATE;INHIBIT ARABIC FORM SHAPING;cACTIVATE;NATIONAL DIGIT SHAPES
bNOMINAL;SUPERSCRIPT ZERO;1LATIN _ . I"⟩,
    ⟨0x2074, "SUPERSCRIPT FOUR;1FIVE;SIX;SEVEN;EIGHT;NINE;PLUS $;MINUS;EQUALS $;< PARENTHESIS;a>
LATIN _ . N;0SUBSCRIPT ZERO;1ONE;TWO;%;FOUR;FIVE;SIX;SEVEN;EIGHT;NINE;PLUS $;MINUS;EQUALS $
< PARENTHESIS;a>"⟩,
    ⟨0x2090, "LATIN SUBSCRIPT _ . A;4E;O;X;SCHWA;H;K;+3;P;S;+1"⟩,
    ⟨0x20a0, "EURO-CURRENCY $;aCOLON;aCRUZEIRO;aFRENCH FRANC;aLIRA;aMILL;aNAIRA;aPESETA;aRUPEE
aWON;aNEW SHEQEL;aDONG;aEURO;aKIP;aTUGRIK;aDRACHMA;aGERMAN PENNY;aPESO;aGUARANI;aAUSTRAL;aHRYVNIA
aCEDI;aLIVRE TOURNOIS;aSPESMILO;aTENGE;aINDIAN RUPEE;aTURKISH LIRA;aNORDIC MARK;aMANAT;aRUBLE
aLARI;aBITCOIN;aSOM"⟩,
    ⟨0x20d0, "COMBINING < HARPOON *;1b>;LONG ! LINE OVERLAY;cSHORT;ANTICLOCKWISE : *;bCLOCKWISE
b<;b>;RING OVERLAY;bCLOCKWISE;bANTICLOCKWISE;% DOTS *;bFOUR;ENCLOSING CIRCLE;2SQUARE;DIAMOND
CIRCLE BACKSLASH;1< > : *;ENCLOSING SCREEN;2KEYCAP;UPWARD POINTING TRIANGLE
1REVERSE SOLIDUS OVERLAY;a= ! STROKE;ANNUITY SYMBOL;TRIPLE UNDERDOT;WIDE BRIDGE *;| : OVERLAY
aLONG = SOLIDUS;~ HARPOON & BARB @;d|;< : BELOW;b>;ASTERISK *"⟩,
    ⟨0x2100, "ACCOUNT OF;ADDRESSED TO THE SUBJECT;DOUBLE-STRUCK ^ C;DEGREE CELSIUS
CENTRE LINE SYMBOL;CARE OF;CADA UNA;EULER CONSTANT;SCRUPLE;DEGREE FAHRENHEIT;SCRIPT _ G;1^ H
0bBLACK-LETTER;bDOUBLE-STRUCK;PLANCK CONSTANT;2OVER TWO PI;0SCRIPT ^ I;bBLACK-LETTER;SCRIPT ^ L
1a_;0L B BAR SYMBOL;DOUBLE-STRUCK ^ N;NUMERO $;SOUND RECORDING COPYRIGHT;SCRIPT ^ P
bDOUBLE-STRUCK;+1;SCRIPT ^ R;bBLACK-LETTER;bDOUBLE-STRUCK;PRESCRIPTION TAKE;RESPONSE;SERVICE MARK
TELEPHONE $;aTRADE MARK;VERSICLE;DOUBLE-STRUCK ^ Z;OUNCE $;aOHM;bINVERTED;BLACK-LETTER ^ Z
TURNED GREEK _ . IOTA;KELVIN $;aANGSTROM;SCRIPT ^ B;BLACK-LETTER ^ C;ESTIMATED SYMBOL;SCRIPT _ E
1a^;+1;0bTURNED;SCRIPT ^ M;1_ O;0ALEF SYMBOL;aBET;aGIMEL;aDALET;INFORMATION SOURCE;ROTATED ^ Q
FACSIMILE $;DOUBLE-STRUCK _ PI;2GAMMA;1a^;2PI;1N-ARY SUMMATION;0TURNED SANS-SERIF ^ G;3L
0cREVERSED;TURNED SANS-SERIF ^ Y;DOUBLE-STRUCK ITALIC ^ D;2a_;+1;3I;+1;0PROPERTY LINE
TURNED AMPERSAND;PER $;AKTIESELSKAB;TURNED _ F;SYMBOL FOR SAMARITAN SOURCE
VULGAR FRACTION ONE SEVENTH;3NINTH;TENTH;THIRD;2TWO THIRDS;ONE FIFTH;TWO FIFTHS;a%;aFOUR
ONE SIXTH;FIVE SIXTHS;ONE EIGHTH;% EIGHTHS;aFIVE;aSEVEN;0FRACTION NUMERATOR ONE;aROMAN NUMERAL
2TWO;%;FOUR;FIVE;SIX;SEVEN;EIGHT;NINE;TEN;ELEVEN;TWELVE;FIFTY;ONE HUNDRED;aFIVE;ONE THOUSAND
0_ ROMAN NUMERAL ONE;3TWO;%;FOUR;FIVE;SIX;SEVEN;EIGHT;NINE;TEN;ELEVEN;TWELVE;FIFTY;ONE HUNDRED
aFIVE;ONE THOUSAND;0ROMAN NUMERAL ONE THOUSAND C D;2FIVE THOUSAND;aTEN;REVERSED ONE HUNDRED
0LATIN _ . REVERSED C;ROMAN NUMERAL SIX LATE FORM;2aFIFTY EARLY;3THOUSAND;2aONE HUNDRED
0VULGAR FRACTION ZERO THIRDS;TURNED DIGIT TWO;2%"⟩,
    ⟨0x2190, "| :;aUPWARDS;a~;a@;a< >;aUP DOWN;aNORTH WEST;1aEAST;0bSOUTH;1aWEST;0| : & STROKE;c~
| WAVE :;b~;a| TWO HEADED;cUPWARDS;c~;c@;| : & TAIL;c~;| : FROM BAR;cUPWARDS;c~;c@
UP DOWN : & BASE;| : & HOOK;c~;| : & LOOP;c~;< > WAVE :;2: & STROKE;0@ ZIGZAG :;UPWARDS : & TIP |
4~;0@ : & TIP |;4~;0~ : & CORNER @;@ : & CORNER |;ANTICLOCKWISE TOP SEMICIRCLE :;cCLOCKWISE
NORTH WEST : TO LONG BAR;a| : TO BAR OVER ~ : TO;ANTICLOCKWISE OPEN CIRCLE :;cCLOCKWISE
| HARPOON & BARB UPWARDS;4@;0UPWARDS HARPOON & BARB ~;4|;0~ HARPOON & BARB UPWARDS;4@
0@ HARPOON & BARB ~;4|;0~ : OVER | :;aUPWARDS : | OF @;a| : OVER ~;1PAIRED ARROWS;0bUPWARDS;b~;b@
| HARPOON OVER ~ HARPOON;a~ HARPOON OVER |;| = : & STROKE;d< >;d~;| = :;bUPWARDS;b~;b@;b< >
bUP DOWN;bNORTH WEST;1bEAST;0cSOUTH;1bWEST;0a| TRIPLE;b~;a| SQUIGGLE;b~;UPWARDS : & = STROKE;d@
| DASHED :;bUPWARDS;b~;b@;| : TO BAR;c~;| WHITE :;bUPWARDS;b~;b@;UPWARDS WHITE : FROM BAR
3ON PEDESTAL;5& ] BAR;6a!;2= :;4ON PEDESTAL;0~ WHITE : FROM WALL;NORTH WEST : TO CORNER
cSOUTH EAST;UP DOWN WHITE :;> : & _ CIRCLE;@ : | OF UPWARDS :;% ~ ARROWS;| : & ! STROKE;d~;d< >
b| : & =;e~;e< >;| OPEN-HEADED :;b~;b< >;FOR ALL;COMPLEMENT;PARTIAL DIFFERENTIAL;THERE EXISTS
1DOES NOT EXIST;0EMPTY SET;INCREMENT;NABLA;ELEMENT OF;bNOT AN;b_;CONTAINS AS MEMBER
bDOES NOT CONTAIN;b_ CONTAINS;END OF PROOF;N-ARY PRODUCT;1COPRODUCT;SUMMATION;0MINUS $
aMINUS-OR-PLUS;DOT PLUS;DIVISION SLASH;SET MINUS;ASTERISK OPERATOR;aRING;aBULLET;SQUARE ROOT
aCUBE;aFOURTH;PROPORTIONAL TO;INFINITY;> ANGLE;ANGLE;aMEASURED;aSPHERICAL;DIVIDES;DOES NOT DIVIDE
PARALLEL TO;bNOT;LOGICAL ?;1OR;0INTERSECTION;UNION;INTEGRAL;a=;aTRIPLE;aCONTOUR;aSURFACE;aVOLUME
aCLOCKWISE;1aCONTOUR;0bANTICLOCKWISE;THEREFORE;BECAUSE;RATIO;PROPORTION;DOT MINUS;EXCESS
GEOMETRIC PROPORTION;HOMOTHETIC;TILDE OPERATOR;REVERSED TILDE;INVERTED LAZY S;SINE WAVE
WREATH PRODUCT;NOT TILDE;aMINUS;ASYMPTOTICALLY EQUAL TO;cNOT;bAPPROXIMATELY;1bBUT NOT ACTUALLY
0cNEITHER APPROXIMATELY NOR;bALMOST;cNOT;bALMOST EQUAL OR;TRIPLE TILDE;ALL EQUAL TO;aEQUIVALENT
bGEOMETRICALLY;DIFFERENCE BETWEEN;APPROACHES THE LIMIT;GEOMETRICALLY EQUAL TO
APPROXIMATELY EQUAL TO OR THE IMAGE OF;IMAGE OF OR APPROXIMATELY EQUAL TO;COLON EQUALS
EQUALS COLON;RING IN EQUAL TO;bRING;aCORRESPONDS;ESTIMATES;EQUIANGULAR TO;STAR EQUALS
DELTA EQUAL TO;EQUAL TO BY DEFINITION;MEASURED BY;QUESTIONED EQUAL TO;bNOT;aIDENTICAL;bNOT
aSTRICTLY EQUIVALENT;aLESS-THAN OR EQUAL;cGREATER-THAN;bLESS-THAN OVER;cGREATER-THAN
bLESS-THAN BUT NOT;dGREATER-THAN;MUCH LESS-THAN;1GREATER-THAN;0BETWEEN;NOT EQUIVALENT TO
1LESS-THAN;GREATER-THAN;0NEITHER LESS-THAN NOR EQUAL TO;1cGREATER-THAN;0aLESS-THAN OR EQUIVALENT
cGREATER-THAN;bNEITHER LESS-THAN NOR;1cGREATER-THAN;0LESS-THAN OR GREATER-THAN
GREATER-THAN OR LESS-THAN;NEITHER LESS-THAN NOR GREATER-THAN;1GREATER-THAN NOR LESS-THAN
0PRECEDES;SUCCEEDS;PRECEDES OR EQUAL TO;cSUCCEEDS;aPRECEDES OR EQUIVALENT;cSUCCEEDS
DOES NOT PRECEDE;2SUCCEED;0SUBSET OF;aSUPERSET;aNOT A SUBSET;2aSUPERSET;0SUBSET OF OR EQUAL TO
dSUPERSET;bNEITHER A SUBSET OF NOR;2dSUPERSET;0bSUBSET OF & NOT;eSUPERSET;MULTISET
1MULTIPLICATION;UNION;0SQUARE IMAGE OF;1aORIGINAL;IMAGE OF OR EQUAL TO;dORIGINAL;CAP;CUP
0CIRCLED PLUS;1MINUS;TIMES;DIVISION SLASH;DOT OPERATOR;aRING;aASTERISK;EQUALS;DASH;0SQUARED PLUS
1MINUS;TIMES;DOT OPERATOR;0> TACK;a<;aDOWN;aUP;ASSERTION;MODELS;TRUE;FORCES
TRIPLE ! BAR > TURNSTILE;b= ! BAR =;DOES NOT PROVE;NOT TRUE;DOES NOT FORCE
NEGATED = ! BAR = > TURNSTILE;PRECEDES UNDER RELATION;bSUCCEEDS;NORMAL SUBGROUP OF
CONTAINS AS NORMAL SUBGROUP;NORMAL SUBGROUP OF OR EQUAL TO;cCONTAINS AS NORMAL SUBGROUP
ORIGINAL OF;aIMAGE;MULTIMAP;HERMITIAN CONJUGATE MATRIX;INTERCALATE;XOR;NAND;NOR;> ANGLE & ARC
1TRIANGLE;0N-ARY LOGICAL ?;2OR;1INTERSECTION;UNION;0DIAMOND OPERATOR;aDOT;aSTAR;DIVISION TIMES
BOWTIE;< NORMAL FACTOR SEMIDIRECT PRODUCT;d>;b<;b>;REVERSED TILDE EQUALS;CURLY LOGICAL OR;2?
0= SUBSET;1SUPERSET;INTERSECTION;UNION;0PITCHFORK;EQUAL ? PARALLEL TO;LESS-THAN & DOT
bGREATER-THAN;VERY MUCH LESS-THAN;2GREATER-THAN;0aLESS-THAN EQUAL TO OR
GREATER-THAN EQUAL TO OR LESS-THAN;cEQUAL;3GREATER-THAN;PRECEDES;SUCCEEDS
0DOES NOT PRECEDE OR EQUAL;2bSUCCEED;0NOT SQUARE IMAGE OF OR EQUAL TO;2dORIGINAL
0bSQUARE IMAGE OF OR NOT;1eORIGINAL;0aLESS-THAN BUT NOT EQUIVALENT;dGREATER-THAN;dPRECEDES
dSUCCEEDS;NOT NORMAL SUBGROUP OF;DOES NOT CONTAIN AS NORMAL SUBGROUP
NOT NORMAL SUBGROUP OF OR EQUAL TO;DOES NOT CONTAIN AS NORMAL SUBGROUP OR EQUAL;! ELLIPSIS
aMIDLINE ];aUP > DIAGONAL;cDOWN;ELEMENT OF & LONG ] STROKE;3b! BAR AT END OF;0j_
ELEMENT OF & DOT *;3OVERBAR;0d_;ELEMENT OF & UNDERBAR;3TWO ] STROKES;0CONTAINS & LONG ] STROKE
2b! BAR AT END OF;0i_;CONTAINS & OVERBAR;c_;Z NOTATION BAG MEMBERSHIP;DIAMETER $;ELECTRIC :;HOUSE
UP ARROWHEAD;aDOWN;PROJECTIVE;PERSPECTIVE;WAVY LINE;< CEILING;a>;< FLOOR;a>;BOTTOM > CROP;1a<
0aTOP >;1a<;0REVERSED NOT $;SQUARE LOZENGE;ARC;SEGMENT;SECTOR;TELEPHONE RECORDER
POSITION INDICATOR;VIEWDATA SQUARE;PLACE OF INTEREST $;aTURNED NOT;WATCH;HOURGLASS;TOP < CORNER
1a>;0aBOTTOM <;1a>;0TOP HALF INTEGRAL;bBOTTOM;FROWN;SMILE;UP ARROWHEAD BETWEEN TWO ] BARS
OPTION KEY;ERASE TO THE >;X IN A RECTANGLE BOX;KEYBOARD;LEFT-POINTING ANGLE BRACKET
bRIGHT-POINTING;ERASE TO THE <;BENZENE RING;CYLINDRICITY;ALL AROUND-PROFILE;SYMMETRY;TOTAL RUNOUT
DIMENSION ORIGIN;CONICAL TAPER;SLOPE;COUNTERBORE;COUNTERSINK;APL FUNCTIONAL SYMBOL I-BEAM
3SQUISH QUAD;QUAD EQUAL;4DIVIDE;DIAMOND;JOT;CIRCLE;3CIRCLE STILE;4JOT;3SLASH BAR;aBACKSLASH
QUAD SLASH;4BACKSLASH;LESS-THAN;GREATER-THAN;3| VANE;a~;QUAD | :;4a~;3CIRCLE BACKSLASH
DOWN TACK UNDERBAR;DELTA STILE;QUAD DOWN CARET;4DELTA;3DOWN TACK JOT;UPWARDS VANE;QUAD UPWARDS :
UP TACK OVERBAR;DEL STILE;QUAD UP CARET;4DEL;3UP TACK JOT;@ VANE;QUAD @ :;QUOTE UNDERBAR;aDELTA
aDIAMOND;aJOT;aCIRCLE;UP SHOE JOT;QUOTE QUAD;CIRCLE STAR;QUAD COLON;UP TACK DIAERESIS;aDEL;aSTAR
aJOT;aCIRCLE;DOWN SHOE STILE;b<;TILDE DIAERESIS;aGREATER-THAN;COMMA BAR;DEL TILDE;ZILDE
STILE TILDE;SEMICOLON UNDERBAR;QUAD NOT EQUAL;4QUESTION;3DOWN CARET TILDE;bUP;IOTA;RHO;OMEGA
ALPHA UNDERBAR;aEPSILON;aIOTA;aOMEGA;ALPHA;0NOT CHECK MARK;> ANGLE & @ ZIGZAG :
SHOULDERED OPEN BOX;BELL SYMBOL;! LINE & MIDDLE DOT;INSERTION SYMBOL;aCONTINUOUS UNDERLINE
bDISCONTINUOUS;aEMPHASIS;aCOMPOSITION;WHITE SQUARE & CENTRE ! LINE;ENTER SYMBOL;aALTERNATIVE KEY
aHELM;CIRCLED ] BAR & NOTCH;1TRIANGLE DOWN;0BROKEN CIRCLE & NORTHWEST :;UNDO SYMBOL;aMONOSTABLE
aHYSTERESIS;aOPEN-CIRCUIT-OUTPUT H-TYPE;1aL-TYPE;0aPASSIVE-PULL-DOWN-OUTPUT
aPASSIVE-PULL-UP-OUTPUT;DIRECT CURRENT SYMBOL FORM TWO;SOFTWARE-FUNCTION SYMBOL
APL FUNCTIONAL SYMBOL QUAD;DECIMAL SEPARATOR KEY SYMBOL;PREVIOUS PAGE;aNEXT;PRINT SCREEN SYMBOL
bCLEAR;< PARENTHESIS UPPER HOOK;2EXTENSION;LOWER HOOK;0a> PARENTHESIS UPPER;2EXTENSION;LOWER HOOK
0< SQUARE BRACKET UPPER CORNER;3EXTENSION;LOWER CORNER;0a> SQUARE BRACKET UPPER;3EXTENSION
LOWER CORNER;0< CURLY BRACKET UPPER HOOK;3MIDDLE PIECE;LOWER HOOK;0CURLY BRACKET EXTENSION
> CURLY BRACKET UPPER HOOK;3MIDDLE PIECE;LOWER HOOK;0INTEGRAL EXTENSION;a] LINE
UPPER < OR LOWER > CURLY BRACKET SECTION;1c> OR LOWER <;0SUMMATION TOP;1BOTTOM
0TOP SQUARE BRACKET;bBOTTOM;3bOVER TOP;0RADICAL SYMBOL BOTTOM;< ! BOX LINE;c>;] SCAN LINE-1
2LINE-3;LINE-7;LINE-9;0DENTISTRY SYMBOL LIGHT ! ? TOP >;5aBOTTOM;4& CIRCLE;3bDOWN ? ];dUP
! & TRIANGLE;bDOWN ? ];dUP;! ? WAVE;aDOWN ? ] &;dUP;DOWN ? ];bUP;! ? TOP <;5aBOTTOM;0SQUARE FOOT
RETURN SYMBOL;aEJECT;! LINE EXTENSION;METRICAL BREVE;1LONG OVER SHORT;SHORT OVER LONG
LONG OVER TWO SHORTS;TWO SHORTS OVER LONG;3JOINED;1TRISEME;TETRASEME;PENTASEME;0EARTH GROUND;FUSE
TOP PARENTHESIS;aBOTTOM;TOP CURLY BRACKET;bBOTTOM;aTOP TORTOISE SHELL;cBOTTOM;WHITE TRAPEZIUM
BENZENE RING & CIRCLE;STRAIGHTNESS;FLATNESS;AC CURRENT;ELECTRICAL INTERSECTION
DECIMAL EXPONENT SYMBOL;, RIGHT-POINTING = TRIANGLE;1bLEFT-POINTING;bUP-POINTING;bDOWN-POINTING
RIGHT-POINTING = TRIANGLE & ! BAR;eLEFT-POINTING;bRIGHT-POINTING TRIANGLE & =;0ALARM CLOCK
STOPWATCH;TIMER CLOCK;HOURGLASS & FLOWING SAND;, MEDIUM LEFT-POINTING TRIANGLE;2aRIGHT-POINTING
aUP-POINTING;aDOWN-POINTING;0= ! BAR;, SQUARE FOR STOP;1CIRCLE FOR RECORD;0POWER SYMBOL;1aON-OFF
aON;aSLEEP;0aOBSERVER EYE;SYMBOL FOR NULL;2START OF HEADING;4TEXT;2bEND;4TRANSMISSION;2ENQUIRY
ACKNOWLEDGE;BELL;BACKSPACE;] TABULATION;LINE FEED;! TABULATION;FORM FEED;CARRIAGE RETURN
SHIFT OUT;3IN;2DATA LINK ESCAPE;DEVICE CONTROL ONE;4TWO;%;FOUR;2NEGATIVE ACKNOWLEDGE
SYNCHRONOUS IDLE;END OF TRANSMISSION BLOCK;CANCEL;END OF MEDIUM;SUBSTITUTE;ESCAPE;FILE SEPARATOR
aGROUP;aRECORD;aUNIT;SPACE;DELETE;0BLANK SYMBOL;OPEN BOX;SYMBOL FOR NEWLINE;2DELETE FORM TWO
bSUBSTITUTE"⟩,
    ⟨0x2440, "OCR HOOK;1CHAIR;FORK;aINVERTED;BELT BUCKLE;BOW TIE;BRANCH BANK IDENTIFICATION
AMOUNT OF CHECK;DASH;CUSTOMER ACCOUNT NUMBER;= BACKSLASH"⟩,
    ⟨0x2460, "CIRCLED DIGIT ONE;2TWO;%;FOUR;FIVE;SIX;SEVEN;EIGHT;NINE;1NUMBER TEN;2ELEVEN;TWELVE
THIRTEEN;FOURTEEN;FIFTEEN;SIXTEEN;SEVENTEEN;EIGHTEEN;NINETEEN;TWENTY;0PARENTHESIZED DIGIT ONE
2TWO;%;FOUR;FIVE;SIX;SEVEN;EIGHT;NINE;1NUMBER TEN;2ELEVEN;TWELVE;THIRTEEN;FOURTEEN;FIFTEEN
SIXTEEN;SEVENTEEN;EIGHTEEN;NINETEEN;TWENTY;0DIGIT ONE FULL STOP;1bTWO;b%;bFOUR;bFIVE;bSIX;bSEVEN
bEIGHT;bNINE;0bNUMBER TEN;1bELEVEN;bTWELVE;bTHIRTEEN;bFOURTEEN;bFIFTEEN;bSIXTEEN;bSEVENTEEN
bEIGHTEEN;bNINETEEN;bTWENTY;0PARENTHESIZED LATIN _ . A;+25;CIRCLED LATIN ^ . A;+25;2_ . A;+25
1DIGIT ZERO;0NEGATIVE CIRCLED NUMBER ELEVEN;3TWELVE;THIRTEEN;FOURTEEN;FIFTEEN;SIXTEEN;SEVENTEEN
EIGHTEEN;NINETEEN;TWENTY;0= CIRCLED DIGIT ONE;3TWO;%;FOUR;FIVE;SIX;SEVEN;EIGHT;NINE;2NUMBER TEN
0NEGATIVE CIRCLED DIGIT ZERO;BOX DRAWINGS LIGHT ];2aHEAVY;LIGHT !;aHEAVY;LIGHT TRIPLE DASH ]
cHEAVY;LIGHT TRIPLE DASH !;cHEAVY;LIGHT QUADRUPLE DASH ];cHEAVY;LIGHT QUADRUPLE DASH !;cHEAVY
LIGHT DOWN ? >;DOWN LIGHT ? > HEAVY;3HEAVY ? > LIGHT;2HEAVY DOWN ? >;LIGHT DOWN ? <
DOWN LIGHT ? < HEAVY;3HEAVY ? < LIGHT;2HEAVY DOWN ? <;LIGHT UP ? >;UP LIGHT ? > HEAVY
3HEAVY ? > LIGHT;2HEAVY UP ? >;LIGHT UP ? <;UP LIGHT ? < HEAVY;3HEAVY ? < LIGHT;2HEAVY UP ? <
LIGHT ! ? >;! LIGHT ? > HEAVY;UP HEAVY ? > DOWN LIGHT;aDOWN HEAVY ? > UP;a! HEAVY ? >
DOWN LIGHT ? > UP HEAVY;aUP LIGHT ? > DOWN;HEAVY ! ? >;LIGHT ! ? <;! LIGHT ? < HEAVY
UP HEAVY ? < DOWN LIGHT;aDOWN HEAVY ? < UP;a! HEAVY ? <;DOWN LIGHT ? < UP HEAVY
aUP LIGHT ? < DOWN;HEAVY ! ? <;LIGHT DOWN ? ];< HEAVY ? > DOWN LIGHT;b> HEAVY ? <
DOWN LIGHT ? ] HEAVY;3HEAVY ? ] LIGHT;2> LIGHT ? < DOWN HEAVY;b< LIGHT ? >;HEAVY DOWN ? ]
bLIGHT UP;< HEAVY ? > UP LIGHT;b> HEAVY ? <;UP LIGHT ? ] HEAVY;3HEAVY ? ] LIGHT
2> LIGHT ? < UP HEAVY;b< LIGHT ? >;HEAVY UP ? ];bLIGHT !;< HEAVY ? > ! LIGHT;b> HEAVY ? <
! LIGHT ? ] HEAVY;UP HEAVY ? DOWN ] LIGHT;bDOWN HEAVY ? UP;b! HEAVY ?;a< UP HEAVY ? > DOWN
b> UP HEAVY ? <;a< DOWN HEAVY ? > UP;b> DOWN HEAVY ? <;DOWN LIGHT ? UP ] HEAVY;bUP LIGHT ? DOWN
a> LIGHT ? < !;b< LIGHT ? >;HEAVY ! ? ];aLIGHT = DASH;cHEAVY;LIGHT = DASH !;cHEAVY;= ];3!
2DOWN SINGLE ? > =;3= ? > SINGLE;2= DOWN ? >;DOWN SINGLE ? < =;3= ? < SINGLE;2= DOWN ? <
UP SINGLE ? > =;3= ? > SINGLE;2= UP ? >;UP SINGLE ? < =;3= ? < SINGLE;2= UP ? <;! SINGLE ? > =
3= ? > SINGLE;2= ! ? >;! SINGLE ? < =;3= ? < SINGLE;2= ! ? <;DOWN SINGLE ? ] =;3= ? ] SINGLE
2= DOWN ? ];UP SINGLE ? ] =;3= ? ] SINGLE;2= UP ? ];! SINGLE ? ] =;3= ? ] SINGLE;2= ! ? ]
LIGHT ARC DOWN ? >;6<;4bUP;6>;3DIAGONAL UPPER > TO LOWER <;5< TO LOWER >;4CROSS;3<;UP;>;DOWN
2HEAVY <;3UP;>;DOWN;2LIGHT < ? HEAVY >;3UP ? HEAVY DOWN;2HEAVY < ? LIGHT >;3UP ? LIGHT DOWN
0UPPER HALF BLOCK;aLOWER ONE EIGHTH;2aQUARTER;1a% EIGHTHS;aHALF;aFIVE EIGHTHS;a% QUARTERS
aSEVEN EIGHTHS;0aFULL;a< SEVEN EIGHTHS;1a% QUARTERS;aFIVE EIGHTHS;aHALF;a% EIGHTHS;aONE QUARTER
2aEIGHTH;0a> HALF;LIGHT SHADE;aMEDIUM;aDARK;UPPER ONE EIGHTH BLOCK;c>;QUADRANT LOWER <;2>
1UPPER <;3? LOWER < ? LOWER >;b?;4UPPER > ? LOWER <;8>;2>;3? LOWER <;6? LOWER >;0, SQUARE;aWHITE
2& ROUNDED CORNERS;CONTAINING , _ SQUARE;0SQUARE & ] FILL;2a!;aORTHOGONAL CROSSHATCH
aUPPER < TO LOWER >;3a> TO LOWER <;2aDIAGONAL CROSSHATCH;0, _ SQUARE;bWHITE;, RECTANGLE;aWHITE
a, !;bWHITE;, PARALLELOGRAM;aWHITE;, UP-POINTING TRIANGLE;bWHITE;a, UP-POINTING _;cWHITE
a, RIGHT-POINTING;bWHITE;a, RIGHT-POINTING _;cWHITE;, RIGHT-POINTING POINTER;bWHITE
, DOWN-POINTING TRIANGLE;bWHITE;a, DOWN-POINTING _;cWHITE;a, LEFT-POINTING;bWHITE
a, LEFT-POINTING _;cWHITE;, LEFT-POINTING POINTER;bWHITE;, DIAMOND;aWHITE;2aCONTAINING , _
0FISHEYE;LOZENGE;WHITE CIRCLE;aDOTTED;CIRCLE & ! FILL;BULLSEYE;, CIRCLE;CIRCLE & < HALF ,;2b>
bLOWER;bUPPER;3a> QUADRANT;2bALL BUT UPPER <;0< HALF , CIRCLE;c>;INVERSE BULLET;1WHITE CIRCLE
0cUPPER HALF;dLOWER;UPPER < QUADRANT CIRCULAR ARC;1c>;0dLOWER;1c<;0UPPER HALF CIRCLE;bLOWER
, LOWER > TRIANGLE;2a<;1bUPPER;2a>;0WHITE BULLET;SQUARE & < HALF ,;2b>;bUPPER < DIAGONAL;cLOWER >
0WHITE SQUARE & ! BISECTING LINE;1UP-POINTING TRIANGLE & DOT;0UP-POINTING TRIANGLE & < HALF ,;3b>
0LARGE CIRCLE;WHITE SQUARE & UPPER < QUADRANT;3bLOWER;4a>;3bUPPER;1aCIRCLE & UPPER <;3bLOWER;4a>
3bUPPER;0UPPER < TRIANGLE;1a>;0aLOWER <;WHITE MEDIUM SQUARE;b,;aWHITE MEDIUM _;c,
LOWER > TRIANGLE;, SUN & RAYS;CLOUD;UMBRELLA;SNOWMAN;COMET;, STAR;aWHITE;LIGHTNING;THUNDERSTORM
SUN;ASCENDING NODE;aDESCENDING;CONJUNCTION;OPPOSITION;, TELEPHONE;aWHITE;BALLOT BOX;2& CHECK;3X
0SALTIRE;UMBRELLA & RAIN DROPS;HOT BEVERAGE;WHITE SHOGI PIECE;b,;SHAMROCK
REVERSED ROTATED FLORAL HEART BULLET;, < POINTING INDEX;1b>;0bWHITE <;1bUP;b>;bDOWN
0SKULL ? CROSSBONES;CAUTION $;aRADIOACTIVE;aBIOHAZARD;CADUCEUS;ANKH;ORTHODOX CROSS;CHI RHO
CROSS OF LORRAINE;2JERUSALEM;0STAR ? CRESCENT;FARSI SYMBOL;ADI SHAKTI;HAMMER ? SICKLE
PEACE SYMBOL;YIN YANG;TRIGRAM FOR HEAVEN;2LAKE;FIRE;THUNDER;WIND;WATER;MOUNTAIN;EARTH
0WHEEL OF DHARMA;WHITE FROWNING FACE;1aSMILING;0b,;WHITE SUN & RAYS;FIRST QUARTER MOON;bLAST
MERCURY;FEMALE $;EARTH;MALE $;JUPITER;SATURN;URANUS;NEPTUNE;PLUTO;ARIES;TAURUS;GEMINI;CANCER;LEO
VIRGO;LIBRA;SCORPIUS;SAGITTARIUS;CAPRICORN;AQUARIUS;PISCES;WHITE CHESS KING;2QUEEN;ROOK;BISHOP
KNIGHT;PAWN;0, CHESS KING;2QUEEN;ROOK;BISHOP;KNIGHT;PAWN;1SPADE SUIT;0aWHITE HEART;1aDIAMOND
0a, CLUB;aWHITE SPADE;a, HEART;1aDIAMOND;0aWHITE CLUB;HOT SPRINGS;QUARTER NOTE;aEIGHTH
BEAMED EIGHTH NOTES;1aSIXTEENTH;0MUSIC FLAT $;1aNATURAL;aSHARP;0WEST SYRIAC CROSS;bEAST
UNIVERSAL RECYCLING SYMBOL;RECYCLING SYMBOL FOR TYPE-1 PLASTICS;3aTYPE-2;aTYPE-3;aTYPE-4;aTYPE-5
aTYPE-6;aTYPE-7;GENERIC MATERIALS;0, UNIVERSAL RECYCLING SYMBOL;aRECYCLED PAPER
bPARTIALLY-RECYCLED;PERMANENT PAPER $;WHEELCHAIR SYMBOL;DIE FACE-1;+5;WHITE CIRCLE & DOT >
3TWO DOTS;0, CIRCLE & WHITE DOT >;3TWO WHITE DOTS;0MONOGRAM FOR YANG;2YIN
0DIGRAM FOR GREATER YANG;2LESSER YIN;3YANG;2GREATER YIN;0WHITE FLAG;a,;HAMMER ? PICK;ANCHOR
CROSSED SWORDS;STAFF OF AESCULAPIUS;SCALES;ALEMBIC;FLOWER;GEAR;STAFF OF HERMES;ATOM SYMBOL
FLEUR-DE-LIS;OUTLINED WHITE STAR;% LINES CONVERGING >;3<;0WARNING $;aHIGH VOLTAGE;aDOUBLED FEMALE
1aMALE;0bINTERLOCKED FEMALE ?;aMALE ? FEMALE;1a& STROKE;3a? MALE ? FEMALE;0a! MALE & STROKE;d]
MEDIUM WHITE CIRCLE;1a,;a_ WHITE;0MARRIAGE SYMBOL;aDIVORCE;aUNMARRIED PARTNERSHIP;COFFIN
FUNERAL URN;NEUTER;CERES;PALLAS;JUNO;VESTA;CHIRON;, MOON LILITH;SEXTILE;SEMISEXTILE;QUINCUNX
SESQUIQUADRATE;SOCCER BALL;BASEBALL;SQUARED KEY;WHITE DRAUGHTS MAN;2KING;0, DRAUGHTS MAN;2KING
0SNOWMAN WITHOUT SNOW;SUN BEHIND CLOUD;RAIN;, SNOWMAN;THUNDER CLOUD ? RAIN
TURNED WHITE SHOGI PIECE;1b,;0WHITE DIAMOND IN SQUARE;CROSSING LANES;DISABLED CAR;OPHIUCHUS;PICK
CAR SLIDING;HELMET & WHITE CROSS;CIRCLED CROSSING LANES;CHAINS;NO ENTRY
ALTERNATE ONE-WAY < WAY TRAFFIC;c, TWO-WAY;dWHITE;, < LANE MERGE;cWHITE;DRIVE SLOW $
HEAVY WHITE DOWN-POINTING TRIANGLE;< CLOSED ENTRY;SQUARED SALTIRE
FALLING DIAGONAL IN WHITE CIRCLE IN , SQUARE;, TRUCK;RESTRICTED < ENTRY-1;+1
ASTRONOMICAL SYMBOL FOR URANUS;HEAVY CIRCLE & STROKE ? TWO DOTS *;PENTAGRAM
aRIGHT-HANDED INTERLACED;bLEFT-HANDED;aINVERTED;, CROSS ON SHIELD;SHINTO SHRINE;CHURCH;CASTLE
HISTORIC SITE;GEAR WITHOUT HUB;1& HANDLES;0MAP SYMBOL FOR LIGHTHOUSE;MOUNTAIN;UMBRELLA ON GROUND
FOUNTAIN;FLAG IN HOLE;FERRY;SAILBOAT;SQUARE FOUR CORNERS;SKIER;ICE SKATE;PERSON & BALL;TENT
JAPANESE BANK SYMBOL;aHEADSTONE GRAVEYARD;FUEL PUMP;CUP ON , SQUARE
WHITE FLAG & ] MIDDLE , STRIPE;, SAFETY SCISSORS;aUPPER BLADE;a,;aLOWER BLADE;aWHITE
1HEAVY CHECK MARK;0TELEPHONE LOCATION $;TAPE DRIVE;AIRPLANE;ENVELOPE;RAISED FIST;1HAND;0aVICTORY
aWRITING;LOWER > PENCIL;PENCIL;aUPPER >;WHITE NIB;a,;CHECK MARK;bHEAVY;MULTIPLICATION X;bHEAVY
aBALLOT;bHEAVY;OUTLINED GREEK CROSS;bHEAVY;aOPEN CENTRE;cHEAVY;aLATIN;bSHADOWED WHITE;bOUTLINED
aMALTESE;STAR OF DAVID;FOUR TEARDROP-SPOKED ASTERISK;1aBALLOON-SPOKED;0cHEAVY;aFOUR CLUB-SPOKED
, FOUR POINTED STAR;cWHITE;SPARKLES;STRESS OUTLINED WHITE STAR;bCIRCLED;aOPEN CENTRE ,
a, CENTRE WHITE;aOUTLINED ,;cHEAVY;aPINWHEEL;aSHADOWED WHITE;HEAVY ASTERISK;aOPEN CENTRE
aEIGHT SPOKED;1POINTED , STAR;2aPINWHEEL;0aSIX POINTED ,;bEIGHT POINTED RECTILINEAR;eHEAVY
bTWELVE POINTED;SIXTEEN POINTED ASTERISK;aTEARDROP-SPOKED;bOPEN CENTRE;bHEAVY
SIX PETALLED , ? WHITE FLORETTE;a,;aWHITE;aEIGHT PETALLED OUTLINED ,
CIRCLED OPEN CENTRE EIGHT POINTED STAR;HEAVY TEARDROP-SPOKED PINWHEEL ASTERISK;SNOWFLAKE
aTIGHT TRIFOLIATE;aHEAVY CHEVRON;SPARKLE;aHEAVY;BALLOON-SPOKED ASTERISK
aEIGHT TEARDROP-SPOKED PROPELLER;dHEAVY;CROSS MARK;SHADOWED WHITE CIRCLE
NEGATIVE SQUARED CROSS MARK;LOWER > DROP-SHADOWED WHITE SQUARE;dUPPER;bLOWER > SHADOWED;dUPPER
, QUESTION MARK ORNAMENT;cWHITE;1bEXCLAMATION;0, DIAMOND MINUS WHITE X
HEAVY EXCLAMATION MARK SYMBOL;LIGHT ! BAR;bMEDIUM;bHEAVY
1SINGLE TURNED COMMA QUOTATION MARK ORNAMENT;dSINGLE;d= TURNED;d=;dLOW SINGLE;2d=
0aCURVED STEM PARAGRAPH $;aHEAVY EXCLAMATION MARK;1cHEART;, HEART;0ROTATED HEAVY , HEART BULLET
FLORAL HEART;ROTATED FLORAL HEART BULLET;MEDIUM < PARENTHESIS ORNAMENT;1b>;bFLATTENED <;2b>
1aLEFT-POINTING ANGLE BRACKET;cRIGHT-POINTING;0aHEAVY LEFT-POINTING ANGLE QUOTATION MARK
1dRIGHT-POINTING;aLEFT-POINTING ANGLE BRACKET;cRIGHT-POINTING;0bLIGHT < TORTOISE SHELL;1d>
0bMEDIUM < CURLY;1c>;0DINGBAT NEGATIVE CIRCLED DIGIT ONE;4TWO;%;FOUR;FIVE;SIX;SEVEN;EIGHT;NINE
3NUMBER TEN;1CIRCLED SANS-SERIF DIGIT ONE;4TWO;%;FOUR;FIVE;SIX;SEVEN;EIGHT;NINE;3NUMBER TEN
1NEGATIVE CIRCLED SANS-SERIF DIGIT ONE;5TWO;%;FOUR;FIVE;SIX;SEVEN;EIGHT;NINE;4NUMBER TEN
0HEAVY WIDE-HEADED ~ :;1PLUS $;aMINUS;aDIVISION;SOUTH EAST :;a~;aNORTH EAST;0aDRAFTING POINT ~
bHEAVY ROUND-TIPPED;bTRIANGLE-HEADED;cHEAVY;cDASHED;dHEAVY;b,;THREE-D TOP-LIGHTED ~ ARROWHEAD
1bBOTTOM-LIGHTED;0b,;HEAVY , CURVED @ ? ~ :;3cUPWARDS;0bSQUAT ,;cHEAVY CONCAVE-POINTED
bRIGHT-SHADED WHITE;cLEFT-SHADED;cBACK-TILTED SHADOWED;dFRONT-TILTED;cHEAVY LOWER RIGHT-SHADOWED
1dUPPER;0dNOTCHED LOWER;CURLY LOOP;NOTCHED UPPER RIGHT-SHADOWED WHITE ~ :;cCIRCLED HEAVY
bWHITE-FEATHERED;aBLACK-FEATHERED SOUTH EAST;1a~;aNORTH EAST;0bHEAVY BLACK-FEATHERED SOUTH;2a~
aNORTH EAST;0aTEARDROP-BARBED ~;bHEAVY TEARDROP-SHANKED;bWEDGE-TAILED;cHEAVY;bOPEN-OUTLINED
= CURLY LOOP;% DIMENSIONAL ANGLE;WHITE TRIANGLE CONTAINING _ WHITE TRIANGLE;PERPENDICULAR
OPEN SUBSET;1SUPERSET;0< S-SHAPED BAG DELIMITER;c>;OR & DOT INSIDE
REVERSE SOLIDUS PRECEDING SUBSET;SUPERSET PRECEDING SOLIDUS;! BAR & ] STROKE
MATHEMATICAL RISING DIAGONAL;LONG DIVISION;MATHEMATICAL FALLING DIAGONAL;SQUARED LOGICAL ?;2OR
0WHITE DIAMOND & CENTRED DOT;a? &;ELEMENT OF OPENING UPWARDS;LOWER > CORNER & DOT;cUPPER <
< OUTER JOIN;b>;bFULL;LARGE UP TACK;1aDOWN;0< ? > = TURNSTILE;3TACK;1MULTIMAP;0LONG > TACK;1a<
0UP TACK & CIRCLE *;LOZENGE DIVIDED BY ] RULE;WHITE CONCAVE-SIDED DIAMOND;3& | TICK;4a~
1aSQUARE & |;3a~;0MATHEMATICAL < WHITE SQUARE BRACKET;1c>;a< ANGLE;b>;b< =;c>
a< WHITE TORTOISE SHELL;d>;< FLATTENED PARENTHESIS;b>;0UPWARDS QUADRUPLE :;b@
aANTICLOCKWISE GAPPED CIRCLE;cCLOCKWISE;> : & CIRCLED PLUS;LONG | :;1a~;a< >;a| =;b~;b< >
| : FROM BAR;c~;c| =;d~;2SQUIGGLE :;0BRAILLE PATTERN BLANK;2DOTS-1;+1;DOTS-12;DOTS-3;DOTS-13
DOTS-23;DOTS-123;DOTS-4;DOTS-14;DOTS-24;DOTS-124;DOTS-34;DOTS-134;DOTS-234;DOTS-1234;DOTS-5
DOTS-15;DOTS-25;DOTS-125;DOTS-35;DOTS-135;DOTS-235;DOTS-1235;DOTS-45;DOTS-145;DOTS-245;DOTS-1245
DOTS-345;DOTS-1345;DOTS-2345;DOTS-12345;DOTS-6;DOTS-16;DOTS-26;DOTS-126;DOTS-36;DOTS-136;DOTS-236
DOTS-1236;DOTS-46;DOTS-146;DOTS-246;DOTS-1246;DOTS-346;DOTS-1346;DOTS-2346;DOTS-12346;DOTS-56
DOTS-156;DOTS-256;DOTS-1256;DOTS-356;DOTS-1356;DOTS-2356;DOTS-12356;DOTS-456;DOTS-1456;DOTS-2456
DOTS-12456;DOTS-3456;DOTS-13456;DOTS-23456;DOTS-123456;DOTS-7;DOTS-17;DOTS-27;DOTS-127;DOTS-37
DOTS-137;DOTS-237;DOTS-1237;DOTS-47;DOTS-147;DOTS-247;DOTS-1247;DOTS-347;DOTS-1347;DOTS-2347
DOTS-12347;DOTS-57;DOTS-157;DOTS-257;DOTS-1257;DOTS-357;DOTS-1357;DOTS-2357;DOTS-12357;DOTS-457
DOTS-1457;DOTS-2457;DOTS-12457;DOTS-3457;DOTS-13457;DOTS-23457;DOTS-123457;DOTS-67;DOTS-167
DOTS-267;DOTS-1267;DOTS-367;DOTS-1367;DOTS-2367;DOTS-12367;DOTS-467;DOTS-1467;DOTS-2467
DOTS-12467;DOTS-3467;DOTS-13467;DOTS-23467;DOTS-123467;DOTS-567;DOTS-1567;DOTS-2567;DOTS-12567
DOTS-3567;DOTS-13567;DOTS-23567;DOTS-123567;DOTS-4567;DOTS-14567;DOTS-24567;DOTS-124567
DOTS-34567;DOTS-134567;DOTS-234567;DOTS-1234567;DOTS-8;DOTS-18;DOTS-28;DOTS-128;DOTS-38;DOTS-138
DOTS-238;DOTS-1238;DOTS-48;DOTS-148;DOTS-248;DOTS-1248;DOTS-348;DOTS-1348;DOTS-2348;DOTS-12348
DOTS-58;DOTS-158;DOTS-258;DOTS-1258;DOTS-358;DOTS-1358;DOTS-2358;DOTS-12358;DOTS-458;DOTS-1458
DOTS-2458;DOTS-12458;DOTS-3458;DOTS-13458;DOTS-23458;DOTS-123458;DOTS-68;DOTS-168;DOTS-268
DOTS-1268;DOTS-368;DOTS-1368;DOTS-2368;DOTS-12368;DOTS-468;DOTS-1468;DOTS-2468;DOTS-12468
DOTS-3468;DOTS-13468;DOTS-23468;DOTS-123468;DOTS-568;DOTS-1568;DOTS-2568;DOTS-12568;DOTS-3568
DOTS-13568;DOTS-23568;DOTS-123568;DOTS-4568;DOTS-14568;DOTS-24568;DOTS-124568;DOTS-34568
DOTS-134568;DOTS-234568;DOTS-1234568;DOTS-78;DOTS-178;DOTS-278;DOTS-1278;DOTS-378;DOTS-1378
DOTS-2378;DOTS-12378;DOTS-478;DOTS-1478;DOTS-2478;DOTS-12478;DOTS-3478;DOTS-13478;DOTS-23478
DOTS-123478;DOTS-578;DOTS-1578;DOTS-2578;DOTS-12578;DOTS-3578;DOTS-13578;DOTS-23578;DOTS-123578
DOTS-4578;DOTS-14578;DOTS-24578;DOTS-124578;DOTS-34578;DOTS-134578;DOTS-234578;DOTS-1234578
DOTS-678;DOTS-1678;DOTS-2678;DOTS-12678;DOTS-3678;DOTS-13678;DOTS-23678;DOTS-123678;DOTS-4678
DOTS-14678;DOTS-24678;DOTS-124678;DOTS-34678;DOTS-134678;DOTS-234678;DOTS-1234678;DOTS-5678
DOTS-15678;DOTS-25678;DOTS-125678;DOTS-35678;DOTS-135678;DOTS-235678;DOTS-1235678;DOTS-45678
DOTS-145678;DOTS-245678;DOTS-1245678;DOTS-345678;DOTS-1345678;DOTS-2345678;DOTS-12345678
0~ TWO-HEADED : & ! STROKE;4b=;0b| = : &;e~;e< >;~ TWO-HEADED : FROM BAR;c| =;d~;@ : & ] STROKE
dUPWARDS;1TRIPLE :;0b@;a| = DASH;c~;b| TRIPLE;c~;1cTWO-HEADED;: & DOTTED STEM;0UPWARDS : TO BAR
c@;~ : & TAIL & ! STROKE;5b=;1TWO-HEADED : & TAIL;5& ! STROKE;6b=;0| ARROW-TAIL;a~;a| =;b~
| : TO , DIAMOND;d~;c| : FROM BAR;f~;NORTH WEST ? SOUTH EAST :;1aEAST ? SOUTH WEST;WEST : & HOOK
cEAST;0dSOUTH;1cWEST;0NORTH WEST : ? NORTH EAST :;1bEAST : ? SOUTH;0aSOUTH EAST : ? SOUTH WEST
1bWEST : ? NORTH;0RISING DIAGONAL CROSSING FALLING DIAGONAL;aFALLING DIAGONAL CROSSING RISING
SOUTH EAST : CROSSING NORTH EAST :;bNORTH EAST : CROSSING SOUTH;bFALLING DIAGONAL CROSSING NORTH
bRISING DIAGONAL CROSSING SOUTH;aNORTH EAST : CROSSING NORTH WEST;1aWEST : CROSSING NORTH EAST
0WAVE : POINTING DIRECTLY >;: POINTING ~ THEN CURVING UPWARDS;5@;2@ THEN CURVING |;5~
0RIGHT-SIDE ARC CLOCKWISE :;aLEFT-SIDE ARC ANTICLOCKWISE;cTOP;cBOTTOM;TOP ARC CLOCKWISE : & MINUS
2ANTICLOCKWISE : & PLUS;0LOWER > SEMICIRCULAR CLOCKWISE :;1a< SEMICIRCULAR ANTICLOCKWISE
0aANTICLOCKWISE CLOSED CIRCLE;cCLOCKWISE;a~ : * SHORT |;a| : * SHORT ~;aSHORT ~ : * |
~ : & PLUS BELOW;d|;~ : THROUGH X;< > : THROUGH _ CIRCLE;bUPWARDS TWO-HEADED : FROM
< BARB UP > BARB DOWN HARPOON;2aDOWN > BARB UP;0aUP BARB > DOWN BARB <;2a< DOWN BARB >
0a< BARB UP > BARB UP;aUP BARB > DOWN BARB >;a< BARB DOWN > BARB DOWN;aUP BARB < DOWN BARB <
| HARPOON & BARB UP TO BAR;f~;bUPWARDS HARPOON & BARB >;f@;b| HARPOON & BARB DOWN;f~
bUPWARDS HARPOON & BARB <;f@;a| HARPOON & BARB UP FROM;f~;bUPWARDS HARPOON & BARB >;f@
b| HARPOON & BARB DOWN;f~;bUPWARDS HARPOON & BARB <;f@
| HARPOON & BARB UP * | HARPOON & BARB DOWN
UPWARDS HARPOON & BARB < BESIDE UPWARDS HARPOON & BARB >
~ HARPOON & BARB UP * ~ HARPOON & BARB DOWN;@ HARPOON & BARB < BESIDE @ HARPOON & BARB >
| HARPOON & BARB UP * ~ HARPOON & BARB UP;4DOWN * ~ HARPOON & BARB DOWN
0~ HARPOON & BARB UP * | HARPOON & BARB UP;4DOWN * | HARPOON & BARB DOWN
0| HARPOON & BARB UP * LONG DASH;4bDOWN BELOW;0b~ HARPOON & BARB UP *;4bDOWN BELOW
0UPWARDS HARPOON & BARB < BESIDE @ HARPOON & BARB >;d@ HARPOON & BARB < BESIDE UPWARDS
> = : & ROUNDED HEAD;EQUALS $ * ~ :;cTILDE OPERATOR;| : * TILDE OPERATOR;d~;3ALMOST EQUAL TO
0LESS-THAN * | :;| : THROUGH LESS-THAN;GREATER-THAN * ~ :;cSUBSET;| : THROUGH SUBSET
SUPERSET * | :;< FISH TAIL;b>;bUP;bDOWN;TRIPLE ! BAR DELIMITER;Z NOTATION SPOT;2TYPE COLON
0< WHITE CURLY BRACKET;c>;< WHITE PARENTHESIS;b>;Z NOTATION < IMAGE BRACKET;2b>;a< BINDING;b>
0< SQUARE BRACKET & UNDERBAR;d>;< SQUARE BRACKET & TICK IN TOP CORNER
a> SQUARE BRACKET & TICK IN BOTTOM;g<;a> SQUARE BRACKET & TICK IN TOP;< ANGLE BRACKET & DOT;d>
< ARC LESS-THAN BRACKET;a> ARC GREATER-THAN;c= <;1a> ARC LESS-THAN;0a< , TORTOISE SHELL;d>
DOTTED FENCE;! ZIGZAG LINE;MEASURED ANGLE OPENING <;> ANGLE VARIANT & SQUARE
MEASURED > ANGLE & DOT;ANGLE & S INSIDE;ACUTE ANGLE;SPHERICAL ANGLE OPENING <;3UP;0TURNED ANGLE
aREVERSED;ANGLE & UNDERBAR;cREVERSED;OBLIQUE ANGLE OPENING UP;3DOWN
0MEASURED ANGLE & OPEN ARM ENDING IN : POINTING UP ? >;9UP ? <;DOWN ? >;DOWN ? <;> ? UP;b<
> ? DOWN;b<;0REVERSED EMPTY SET;EMPTY SET & OVERBAR;3_ CIRCLE *;a> :;b<;0CIRCLE & ] BAR
aCIRCLED !;1PARALLEL;REVERSE SOLIDUS;PERPENDICULAR
0CIRCLE DIVIDED BY ] BAR ? TOP HALF DIVIDED BY ! BAR;1& SUPERIMPOSED X
0CIRCLED ANTICLOCKWISE-ROTATED DIVISION $;UP : THROUGH CIRCLE;CIRCLED WHITE BULLET;1BULLET
LESS-THAN;GREATER-THAN;0CIRCLE & _ CIRCLE TO THE >;2cTWO ] STROKES;0SQUARED RISING DIAGONAL SLASH
1bFALLING;ASTERISK;_ CIRCLE;SQUARE;0TWO JOINED SQUARES;TRIANGLE & DOT *;2UNDERBAR;0S IN TRIANGLE
TRIANGLE & SERIFS AT BOTTOM;> TRIANGLE * < TRIANGLE;< TRIANGLE BESIDE ! BAR
! BAR BESIDE > TRIANGLE;BOWTIE & < HALF ,;2b>;0, BOWTIE;TIMES & < HALF ,;2b>;0WHITE HOURGLASS;a,
< WIGGLY FENCE;b>;b< =;c>;INCOMPLETE INFINITY;aTIE OVER;INFINITY NEGATED & ! BAR
DOUBLE-ENDED MULTIMAP;SQUARE & CONTOURED OUTLINE;INCREASES AS;SHUFFLE PRODUCT
EQUALS $ ? SLANTED PARALLEL;5& TILDE *;0IDENTICAL TO ? SLANTED PARALLEL;GLEICH STARK
THERMODYNAMIC;DOWN-POINTING TRIANGLE & < HALF ,;3b>;0, DIAMOND & DOWN :;1LOZENGE
0WHITE CIRCLE & DOWN :;d,;ERROR-BARRED WHITE SQUARE;1a,;WHITE DIAMOND;a,;WHITE CIRCLE;a,
0RULE-DELAYED;REVERSE SOLIDUS OPERATOR;SOLIDUS & OVERBAR;REVERSE SOLIDUS & ] STROKE;BIG SOLIDUS
1aREVERSE;0= PLUS;aTRIPLE;LEFT-POINTING CURVED ANGLE BRACKET;cRIGHT-POINTING;TINY;MINY
N-ARY CIRCLED DOT OPERATOR;2aPLUS;aTIMES;1UNION OPERATOR & DOT;4PLUS
1SQUARE INTERSECTION OPERATOR;2aUNION;0aTWO LOGICAL ?;2aOR;0aN-ARY TIMES;MODULO TWO SUM
SUMMATION & INTEGRAL;QUADRUPLE INTEGRAL OPERATOR;FINITE PART INTEGRAL;INTEGRAL & = STROKE
1AVERAGE & SLASH;0CIRCULATION FUNCTION;ANTICLOCKWISE INTEGRATION
LINE INTEGRATION & RECTANGULAR PATH AROUND POLE;3cSEMICIRCULAR;2aNOT INCLUDING THE
0INTEGRAL AROUND A POINT OPERATOR;aQUATERNION INTEGRAL;INTEGRAL & | : & HOOK;2TIMES $
INTERSECTION;UNION;OVERBAR;UNDERBAR;0JOIN;LARGE < TRIANGLE OPERATOR;Z NOTATION SCHEMA COMPOSITION
3PIPING;PROJECTION;0PLUS $ & _ CIRCLE *;3aCIRCUMFLEX ACCENT;aTILDE;DOT BELOW;aTILDE;SUBSCRIPT TWO
, TRIANGLE;0MINUS $ & COMMA *;3DOT BELOW;FALLING DOTS;aRISING;0PLUS $ IN < HALF CIRCLE;3b>
0VECTOR OR CROSS PRODUCT;MULTIPLICATION $ & DOT *;3UNDERBAR;0SEMIDIRECT PRODUCT & BOTTOM CLOSED
SMASH PRODUCT;MULTIPLICATION $ IN < HALF CIRCLE;3b>;0CIRCLED MULTIPLICATION $ & CIRCUMFLEX ACCENT
MULTIPLICATION $ IN = CIRCLE;CIRCLED DIVISION $;PLUS $ IN TRIANGLE;cMINUS;cMULTIPLICATION
INTERIOR PRODUCT;bRIGHTHAND;Z NOTATION RELATIONAL COMPOSITION;AMALGAMATION OR COPRODUCT
INTERSECTION & DOT;UNION & MINUS $;2OVERBAR;0bINTERSECTION;2LOGICAL ?;0UNION & LOGICAL OR
1* INTERSECTION;0INTERSECTION * UNION;UNION * BAR * INTERSECTION;INTERSECTION * BAR * UNION
aUNION BESIDE ? JOINED &;INTERSECTION BESIDE ? JOINED & INTERSECTION;CLOSED UNION & SERIFS
1bINTERSECTION;0= SQUARE INTERSECTION;2UNION;0CLOSED UNION & SERIFS ? SMASH PRODUCT
LOGICAL ? & DOT *;1cOR;0= LOGICAL ?;2OR;0TWO INTERSECTING LOGICAL ?;3OR;0aSLOPING LARGE;2?
0aLOGICAL OR OVERLAPPING LOGICAL;1? & MIDDLE STEM;cOR;? & ] DASH;cOR;? & = OVERBAR;3UNDERBAR;a=
0a_ VEE &;LOGICAL OR & = OVERBAR;4UNDERBAR;0Z NOTATION DOMAIN ANTIRESTRICTION;2aRANGE
0EQUALS $ & DOT BELOW;IDENTICAL & DOT *;TRIPLE ] BAR & = ! STROKE;4bTRIPLE
0TILDE OPERATOR & DOT *;3RISING DOTS;0SIMILAR MINUS SIMILAR;CONGRUENT & DOT *;EQUALS & ASTERISK
ALMOST EQUAL TO & CIRCUMFLEX ACCENT;APPROXIMATELY EQUAL OR EQUAL TO;EQUALS $ * PLUS $
aPLUS $ * EQUALS;EQUALS $ * TILDE OPERATOR;= COLON EQUAL;TWO CONSECUTIVE EQUALS SIGNS;c%
EQUALS $ & TWO DOTS * ? TWO DOTS BELOW;EQUIVALENT & FOUR DOTS *;LESS-THAN & CIRCLE INSIDE
cGREATER-THAN;LESS-THAN & QUESTION MARK *;dGREATER-THAN;LESS-THAN OR SLANTED EQUAL TO
dGREATER-THAN;LESS-THAN OR SLANTED EQUAL TO & DOT INSIDE;gGREATER-THAN
LESS-THAN OR SLANTED EQUAL TO & DOT *;gGREATER-THAN;LESS-THAN OR SLANTED EQUAL TO & DOT * >
GREATER-THAN OR SLANTED EQUAL TO & DOT * <;LESS-THAN OR APPROXIMATE;bGREATER-THAN
LESS-THAN ? SINGLE-LINE NOT EQUAL TO;eGREATER-THAN;LESS-THAN ? NOT APPROXIMATE;cGREATER-THAN
LESS-THAN * DOUBLE-LINE EQUAL * GREATER-THAN;GREATER-THAN * DOUBLE-LINE EQUAL * LESS-THAN
LESS-THAN * SIMILAR OR EQUAL;dGREATER-THAN;LESS-THAN * SIMILAR * GREATER-THAN
GREATER-THAN * SIMILAR * LESS-THAN;LESS-THAN * GREATER-THAN * DOUBLE-LINE EQUAL
cGREATER-THAN * LESS-THAN;aLESS-THAN * SLANTED EQUAL * GREATER-THAN * SLANTED
cGREATER-THAN * SLANTED EQUAL * LESS-THAN;SLANTED EQUAL TO OR LESS-THAN;4GREATER-THAN
LESS-THAN & DOT INSIDE;cGREATER-THAN;0DOUBLE-LINE EQUAL TO OR LESS-THAN;4GREATER-THAN
1SLANTED EQUAL TO OR LESS-THAN;5GREATER-THAN;0SIMILAR OR LESS-THAN;2GREATER-THAN
1* LESS-THAN * EQUALS $;2cGREATER-THAN;0= NESTED LESS-THAN;2GREATER-THAN;LESS-THAN & UNDERBAR
0GREATER-THAN OVERLAPPING LESS-THAN;1aBESIDE;0LESS-THAN CLOSED BY CURVE;cGREATER-THAN
LESS-THAN CLOSED BY CURVE * SLANTED EQUAL;fGREATER-THAN;SMALLER THAN;aLARGER
SMALLER THAN OR EQUAL TO;dLARGER;EQUALS $ & BUMPY *;PRECEDES * SINGLE-LINE EQUALS $;dSUCCEEDS
PRECEDES * SINGLE-LINE NOT EQUAL TO;eSUCCEEDS;PRECEDES * EQUALS $;cSUCCEEDS
PRECEDES * NOT EQUAL TO;dSUCCEEDS;bPRECEDES * ALMOST;dSUCCEEDS;cPRECEDES * NOT;eSUCCEEDS
= PRECEDES;1SUCCEEDS;0SUBSET & DOT;bSUPERSET;SUBSET & PLUS $ BELOW;dSUPERSET
bSUBSET & MULTIPLICATION;dSUPERSET;SUBSET OF OR EQUAL TO & DOT *;gSUPERSET;SUBSET OF * EQUALS $
dSUPERSET;SUBSET OF * TILDE OPERATOR;dSUPERSET;SUBSET OF * ALMOST EQUAL TO;eSUPERSET
bSUBSET OF * NOT;eSUPERSET;SQUARE < OPEN BOX OPERATOR;1c>;0CLOSED SUBSET;1SUPERSET
SUBSET OR EQUAL TO;cSUPERSET;0SUBSET * SUPERSET;SUPERSET * SUBSET;bSUBSET;SUPERSET * SUPERSET
1BESIDE SUBSET;2a? JOINED BY DASH &;0ELEMENT OF OPENING @;PITCHFORK & TEE TOP
TRANSVERSAL INTERSECTION;FORKING;NONFORKING;SHORT < TACK;1aDOWN;aUP;0PERPENDICULAR & S
! BAR TRIPLE > TURNSTILE;a= ! BAR <;b! BAR =;e=;LONG DASH FROM < MEMBER OF = !
SHORT DOWN TACK & OVERBAR;1UP TACK & UNDERBAR;3* SHORT DOWN TACK;0b=;1aUP;STROKE NOT $;0dREVERSED
DOES NOT DIVIDE & REVERSED NEGATION SLASH;! LINE & CIRCLE *;4BELOW;0cDOWN TACK
PARALLEL & ] STROKE;2TILDE OPERATOR;0TRIPLE ! BAR BINARY RELATION;3& ] STROKE;1COLON OPERATOR
NESTED LESS-THAN;2GREATER-THAN;0DOUBLE-LINE SLANTED LESS-THAN OR EQUAL TO;2cGREATER-THAN
0TRIPLE SOLIDUS BINARY RELATION;LARGE TRIPLE ! BAR OPERATOR;a= SOLIDUS;WHITE ! BAR;cN-ARY
NORTH EAST WHITE :;1bWEST;0bSOUTH EAST;1bWEST;0b< >;a| ,;bUPWARDS;b@;bNORTH EAST;1bWEST
0bSOUTH EAST;1bWEST;0b< >;bUP DOWN;~ : & TIP @;4UPWARDS;0| : & TIP @;4UPWARDS
0SQUARE & TOP HALF ,;2bBOTTOM;bUPPER > DIAGONAL;cLOWER <;0bDIAMOND & <;2b>;bTOP;bBOTTOM
0DOTTED SQUARE;a, LARGE;bWHITE;a, VERY _;cWHITE;, PENTAGON;aWHITE;1HEXAGON;0a,;b];, LARGE CIRCLE
1MEDIUM DIAMOND;0bWHITE;, MEDIUM LOZENGE;bWHITE;, _ DIAMOND;2LOZENGE;0bWHITE;, ] ELLIPSE;bWHITE
a, !;bWHITE;< : & _ CIRCLE;% | ARROWS;< : & CIRCLED PLUS;LONG | SQUIGGLE :
| TWO-HEADED : & ! STROKE;4b=;3FROM BAR;2TRIPLE DASH :;1: & DOTTED STEM;3TAIL & ! STROKE;5b=
1TWO-HEADED : & TAIL;5& ! STROKE;6b=;1: THROUGH X;0WAVE : POINTING DIRECTLY <;EQUALS $ * | :
cREVERSE TILDE OPERATOR;| : * REVERSE ALMOST EQUAL TO;~ : THROUGH GREATER-THAN;3SUPERSET
0| QUADRUPLE :;b~;aREVERSE TILDE OPERATOR * ~;~ : * REVERSE ALMOST EQUAL TO;TILDE OPERATOR * | :
| : * ALMOST EQUAL TO;3REVERSE TILDE OPERATOR;0e~;@ TRIANGLE-HEADED ZIGZAG :;aSHORT SLANTED NORTH
1aBACKSLANTED SOUTH;0WHITE MEDIUM STAR;a, _;bWHITE;, RIGHT-POINTING PENTAGON;bWHITE
HEAVY LARGE CIRCLE;1OVAL & OVAL INSIDE;aCIRCLE & CIRCLE;CIRCLE;CIRCLED SALTIRE
0SLANTED NORTH : & HOOKED HEAD;BACKSLANTED SOUTH : & HOOKED TAIL;aSLANTED NORTH : & ]
dBACKSLANTED SOUTH;BENT : POINTING @ THEN NORTH EAST;gSHORT;| TRIANGLE-HEADED :;bUPWARDS;b~;b@
b< >;bUP DOWN;bNORTH WEST;1bEAST;0cSOUTH;1bWEST;0a| TRIANGLE-HEADED DASHED;cUPWARDS;c~;c@
aCLOCKWISE TRIANGLE-HEADED OPEN CIRCLE;dANTICLOCKWISE;| TRIANGLE-HEADED : TO BAR;dUPWARDS;d~;d@"⟩,
    ⟨0x2b76, "NORTH WEST TRIANGLE-HEADED : TO BAR;1dEAST;0eSOUTH;1dWEST
0| TRIANGLE-HEADED : & = ] STROKE;fUPWARDS;f~;f@;] TAB KEY;b!
| TRIANGLE-HEADED : OVER ~ TRIANGLE-HEADED :;bUPWARDS TRIANGLE-HEADED : | OF @
b~ TRIANGLE-HEADED : OVER |;b@ TRIANGLE-HEADED : | OF UPWARDS;| TRIANGLE-HEADED PAIRED ARROWS
cUPWARDS;c~;c@;| , CIRCLED WHITE :;dUPWARDS;d~;d@;aANTICLOCKWISE TRIANGLE-HEADED > U-SHAPED
2bBOTTOM;b<;bTOP;0RETURN <;1>;0NEWLINE <;1>;0FOUR CORNER ARROWS CIRCLING ANTICLOCKWISE;~ , :"⟩,
    ⟨0x2b97, "SYMBOL FOR TYPE A ELECTRONICS;THREE-D TOP-LIGHTED | EQUILATERAL ARROWHEAD
1bRIGHT-LIGHTED UPWARDS;bTOP-LIGHTED ~;bLEFT-LIGHTED @;0b, |;1bUPWARDS;b~;b@
0@ TRIANGLE-HEADED : & LONG TIP |;6~;0UPWARDS TRIANGLE-HEADED : & LONG TIP |;6~
0| TRIANGLE-HEADED : & LONG TIP UPWARDS;f~;| TRIANGLE-HEADED : & LONG TIP @;f~;, CURVED @ ? | :
4a~;2aUPWARDS ? |;4a~;2a| ? UPWARDS;c~;a| ? @;c~;0RIBBON : DOWN <;3>;2UP <;3>;2< UP;a>;< DOWN;a>
0UPWARDS WHITE : FROM BAR & ] BAR;UP ARROWHEAD IN A RECTANGLE BOX;OVERLAPPING WHITE SQUARES;2a? ,
1a,;0BALLOT BOX & LIGHT X;aCIRCLED;1aBOLD;0, SQUARE CENTRED;1aDIAMOND;0TURNED , PENTAGON
] , OCTAGON;a,;1MEDIUM UP-POINTING TRIANGLE CENTRED;2bDOWN-POINTING;bLEFT-POINTING
bRIGHT-POINTING;0NEPTUNE FORM TWO;TOP HALF , CIRCLE;cBOTTOM;LIGHT FOUR POINTED , CUSP;eROTATED
aWHITE FOUR POINTED;dROTATED;SQUARE POSITION INDICATOR;UNCERTAINTY $;GROUP MARK;PLUTO FORM TWO;2%
FOUR;FIVE;0TRANSPLUTO;PROSERPINA;ASTRAEA;HYGIEA;PHOLUS;NESSUS;WHITE MOON SELENA
, DIAMOND ON CROSS;TRUE LIGHT MOON ARTA;CUPIDO;HADES;ZEUS;KRONOS;APOLLON;ADMETOS;VULCANUS
POSEIDON;< HALF , STAR;c>;STAR & < HALF ,;2b>;0| TWO-HEADED : & TRIANGLE ARROWHEADS;eUPWARDS;e~
e@;ERIS FORM ONE;2TWO;0SEDNA;RUSSIAN ASTROLOGICAL SYMBOL VIGINTILE;3NOVILE;QUINTILE;BINOVILE
SENTAGON;TREDECILE;0EQUALS $ & INFINITY BELOW;UNITED SYMBOL;aSEPARATED;aDOUBLED;aPASSED
REVERSED > ANGLE;HELLSCHREIBER PAUSE SYMBOL"⟩ ]

end TagTree.Text
