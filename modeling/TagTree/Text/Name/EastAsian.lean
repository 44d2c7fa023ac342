import TagTree.Text.Name.Basic

/-!
# Names of characters: East Asian scripts

From Glagolitic to the Hangul jamo, with the kana, the radicals and Yi among them.
-/

namespace TagTree.Text

/-- The runs of named characters from 0x2c00 to 0xd7ff. -/
def eastAsianNames : List NameRun :=
  [ ⟨0x2c00, "GLAGOLITIC ^ . AZU;3BUKY;VEDE;GLAGOLI;DOBRO;YESTU;ZHIVETE;DZELO;ZEMLJA;IZHE
aINITIAL;I;DJERVI;KAKO;LJUDIJE;MYSLITE;NASHI;ONU;POKOJI;RITSI;SLOVO;TVRIDO;UKU;FRITU;HERU;OTU;PE
SHTA;TSI;CHRIVI;SHA;YERU;YERI;YATI;SPIDERY HA;YU;_ YUS;5& TAIL;3YO;IOTATED _ YUS;aBIG;bIOTATED
FITA;IZHITSA;SHTAPIC;TROKUTASTI A;LATINATE MYSLITE;CAUDATE CHRIVI;1_ . AZU;3BUKY;VEDE;GLAGOLI
DOBRO;YESTU;ZHIVETE;DZELO;ZEMLJA;IZHE;aINITIAL;I;DJERVI;KAKO;LJUDIJE;MYSLITE;NASHI;ONU;POKOJI
RITSI;SLOVO;TVRIDO;UKU;FRITU;HERU;OTU;PE;SHTA;TSI;CHRIVI;SHA;YERU;YERI;YATI;SPIDERY HA;YU;_ YUS
5& TAIL;3YO;IOTATED _ YUS;aBIG;bIOTATED;FITA;IZHITSA;SHTAPIC;TROKUTASTI A;LATINATE MYSLITE
CAUDATE CHRIVI;0LATIN ^ . L & = BAR;1e_;^ . L & MIDDLE TILDE;3P & STROKE;R & TAIL;1_ . A & STROKE
3aT & DIAGONAL;1^ . H & DESCENDER;d_;b^ . K;d_;b^ . Z;d_;^ . ALPHA;3M & HOOK;TURNED A;4ALPHA
1_ . V & > HOOK;a^ . W &;d_;3V & CURL;1^ . HALF H;c_;3TAILLESS PHI;E & NOTCH;TURNED R & TAIL
O & LOW RING INSIDE;1. _ ^ TURNED E;SUBSCRIPT _ . J;0MODIFIER . ^ V;LATIN ^ . S & SWASH TAIL;3cZ
0COPTIC ^ . ALFA;1b_;^ . VIDA;b_;^ . GAMMA;b_;^ . DALDA;b_;^ . EIE;b_;^ . SOU;b_;^ . ZATA;b_
^ . HATE;b_;^ . THETHE;b_;^ . IAUDA;b_;^ . KAPA;b_;^ . LAULA;b_;^ . MI;b_;^ . NI;b_;^ . KSI;b_
^ . O;b_;^ . PI;b_;^ . RO;b_;^ . SIMA;b_;^ . TAU;b_;^ . UA;b_;^ . FI;b_;^ . KHI;b_;^ . PSI;b_
^ . OOU;b_;^ . DIALECT-P ALEF;c_;^ . OLD COPTIC AIN;d_;^ . CRYPTOGRAMMIC EIE;c_
^ . DIALECT-P KAPA;c_;^ . DIALECT-P NI;c_;a^ . CRYPTOGRAMMIC;c_;^ . OLD COPTIC OOU;d_;^ . SAMPI
b_;^ . CROSSED SHEI;c_;a^ . OLD COPTIC;d_;^ . OLD COPTIC ESH;d_;^ . AKHMIMIC KHEI;c_
^ . DIALECT-P HORI;c_;a^ . OLD COPTIC;d_;^ . OLD COPTIC HA;d_;a^ . L-SHAPED;c_;^ . OLD COPTIC HEI
d_;^ . OLD COPTIC HAT;d_;^ . OLD COPTIC GANGIA;d_;^ . OLD COPTIC DJA;d_;^ . OLD COPTIC SHIMA;d_
a^ . OLD NUBIAN;d_;^ . OLD NUBIAN NGI;d_;^ . OLD NUBIAN NYI;d_;^ . OLD NUBIAN WAU;d_;SYMBOL KAI
2MI RO;aPI;STAUROS;TAU RO;aKHI;SHIMA SIMA;1^ . CRYPTOGRAMMIC SHEI;c_;^ . CRYPTOGRAMMIC GANGIA;c_
COMBINING NI *;2SPIRITUS ASPER;3LENIS;1^ . BOHAIRIC KHEI;c_"⟩,
    ⟨0x2cf9, "COPTIC OLD NUBIAN FULL STOP;3DIRECT QUESTION MARK;bINDIRECT;VERSE DIVIDER
1FRACTION ONE HALF;FULL STOP;MORPHOLOGICAL DIVIDER;0GEORGIAN _ . AN;3BAN;GAN;DON;EN;VIN;ZEN;TAN
IN;KAN;LAS;MAN;NAR;ON;PAR;ZHAR;RAE;SAN;TAR;UN;PHAR;KHAR;GHAN;QAR;SHIN;CHIN;CAN;JIL;CIL;CHAR;XAN
JHAN;HAE;HE;HIE;WE;HAR;HOE"⟩,
    ⟨0x2d27, "GEORGIAN _ . YN"⟩,
    ⟨0x2d2d, "GEORGIAN _ . AEN"⟩,
    ⟨0x2d30, "TIFINAGH . YA;2YAB;YABH;YAG;YAGHH;BERBER ACADEMY YAJ;YAJ;YAD;YADH;YADD;YADDH;YEY
YAF;YAK;aTUAREG;YAKHH;YAH;aBERBER ACADEMY;aTUAREG;YAHH;YAA;YAKH;aTUAREG;YAQ;aTUAREG;YI;YAZH
aAHAGGAR;aTUAREG;YAL;+2;TUAREG YAGN;3YANG;2YAP;YU;YAR;YARR;YAGH;aTUAREG;aAYER;YAS;YASS;YASH;YAT
YATH;YACH;YATT;YAV;+1;YAY;+1;aTAWELLEMET;YAZZ;YE;YO"⟩,
    ⟨0x2d6f, "TIFINAGH MODIFIER . LABIALIZATION MARK;1aSEPARATOR"⟩,
    ⟨0x2d7f, "TIFINAGH CONSONANT JOINER;ETHIOPIC SYLLABLE LOA;2MOA;ROA;SOA;SHOA;BOA;TOA;COA;NOA
NYOA;GLOTTAL OA;ZOA;DOA;DDOA;JOA;THOA;CHOA;PHOA;POA;GGWA;GGWI;GGWEE;GGWE"⟩,
    ⟨0x2da0, "ETHIOPIC SYLLABLE SSA;2SSU;SSI;SSAA;SSEE;SSE;SSO"⟩,
    ⟨0x2da8, "ETHIOPIC SYLLABLE CCA;2CCU;CCI;CCAA;CCEE;CCE;CCO"⟩,
    ⟨0x2db0, "ETHIOPIC SYLLABLE ZZA;2ZZU;ZZI;ZZAA;ZZEE;ZZE;ZZO"⟩,
    ⟨0x2db8, "ETHIOPIC SYLLABLE CCHA;2CCHU;CCHI;CCHAA;CCHEE;CCHE;CCHO"⟩,
    ⟨0x2dc0, "ETHIOPIC SYLLABLE QYA;2QYU;QYI;QYAA;QYEE;QYE;QYO"⟩,
    ⟨0x2dc8, "ETHIOPIC SYLLABLE KYA;2KYU;KYI;KYAA;KYEE;KYE;KYO"⟩,
    ⟨0x2dd0, "ETHIOPIC SYLLABLE XYA;2XYU;XYI;XYAA;XYEE;XYE;XYO"⟩,
    ⟨0x2dd8, "ETHIOPIC SYLLABLE GYA;2GYU;GYI;GYAA;GYEE;GYE;GYO"⟩,
    ⟨0x2de0, "COMBINING CYRILLIC . BE;3VE;GHE;DE;ZHE;ZE;KA;EL;+2;O;PE;ER;+1;TE;HA;TSE;CHE;SHA
SHCHA;FITA;ES-TE;A;IE;DJERV;MONOGRAPH UK;YAT;YU;IOTIFIED A;LITTLE YUS;aBIG;bIOTIFIED
0> ANGLE SUBSTITUTION MARKER;2bDOTTED;0< SUBSTITUTION BRACKET;b>;b< DOTTED;c>
RAISED INTERPOLATION MARKER;1bDOTTED;0aDOTTED TRANSPOSITION;< TRANSPOSITION BRACKET;b>
RAISED SQUARE;< RAISED OMISSION BRACKET;c>;EDITORIAL CORONIS;PARAGRAPHOS;aFORKED;bREVERSED
HYPODIASTOLE;DOTTED OBELOS;@ ANCORA;aUPWARDS;DOTTED RIGHT-POINTING ANGLE;= OBLIQUE HYPHEN
INVERTED INTERROBANG;PALM BRANCH;HYPHEN & DIAERESIS;TILDE & RING *;< LOW PARAPHRASE BRACKET;c>
TILDE & DOT *;3BELOW;0< ! BAR & QUILL;d>;TOP < HALF BRACKET;1b>;0bBOTTOM <;1b>;0a< SIDEWAYS U;c>
< = PARENTHESIS;b>;TWO DOTS OVER ONE DOT PUNCTUATION;aONE DOT OVER TWO DOTS;aSQUARED FOUR DOT
FIVE DOT MARK;aREVERSED QUESTION;! TILDE;RING POINT;WORD SEPARATOR MIDDLE DOT;TURNED COMMA
RAISED DOT;1COMMA;0TURNED SEMICOLON;DAGGER & < GUARD;2a>;0TURNED DAGGER;TOP HALF SECTION $
TWO-EM DASH;aTHREE-EM;STENOGRAPHIC FULL STOP;! SIX DOTS;WIGGLY ! LINE;CAPITULUM;= HYPHEN
REVERSED COMMA;= LOW-REVERSED-9 QUOTATION MARK;DASH & < UPTURN;= SUSPENSION MARK
INVERTED LOW KAVYKA;3& KAVYKA *;0LOW KAVYKA;2& DOT;0= STACKED COMMA;DOTTED SOLIDUS;TRIPLE DAGGER
MEDIEVAL COMMA;PARAGRAPHUS MARK;aPUNCTUS ELEVATUS;CORNISH VERSE DIVIDER;CROSS PATTY & > CROSSBAR
3a<;0TIRONIAN $ ^ ET;MEDIEVAL EXCLAMATION MARK;1aQUESTION;0< SQUARE BRACKET & STROKE;d>
a< SQUARE BRACKET & =;e>;TOP HALF < PARENTHESIS;2a>;0aBOTTOM HALF <;2a>;0OBLIQUE HYPHEN"⟩,
    ⟨0x2e80, "CJK RADICAL REPEAT;2CLIFF;SECOND ONE;3TWO;%;2PERSON;BOX;TABLE;KNIFE ONE;3TWO
2DIVINATION;SEAL;_ ONE;3TWO;2LAME ONE;3TWO;%;FOUR;2SNAKE;THREAD;SNOUT ONE;3TWO;2HEART ONE;3TWO
2HAND;RAP"⟩,
    ⟨0x2e9b, "CJK RADICAL CHOKE;2SUN;MOON;DEATH;MOTHER;CIVILIAN;WATER ONE;3TWO;2FIRE;PAW ONE;3TWO
2SIMPLIFIED HALF TREE TRUNK;COW;DOG;JADE;BOLT OF CLOTH;EYE;SPIRIT ONE;3TWO;2BAMBOO;SILK
aC-SIMPLIFIED;NET ONE;3TWO;%;FOUR;2MESH;SHEEP;RAM;EWE;OLD;BRUSH ONE;3TWO;2MEAT;MORTAR;GRASS ONE
3TWO;%;2TIGER;CLOTHES;WEST ONE;3TWO;2C-SIMPLIFIED SEE;SIMPLIFIED HORN;HORN;C-SIMPLIFIED SPEECH
3SHELL;2FOOT;C-SIMPLIFIED CART;SIMPLIFIED WALK;WALK ONE;3TWO;2CITY;C-SIMPLIFIED GOLD;LONG ONE
3TWO;2C-SIMPLIFIED LONG;3GATE;2MOUND ONE;3TWO;2RAIN;BLUE;C-SIMPLIFIED TANNED LEATHER;3LEAF;WIND
FLY;2EAT ONE;3TWO;%;2C-SIMPLIFIED EAT;HEAD;C-SIMPLIFIED HORSE;BONE;GHOST;C-SIMPLIFIED FISH;3BIRD
SALT;2SIMPLIFIED WHEAT;3YELLOW;2C-SIMPLIFIED FROG;J-SIMPLIFIED EVEN;aC-SIMPLIFIED
J-SIMPLIFIED TOOTH;aC-SIMPLIFIED;J-SIMPLIFIED DRAGON;aC-SIMPLIFIED;TURTLE;aJ-SIMPLIFIED
aC-SIMPLIFIED"⟩,
    ⟨0x2f00, "KANGXI RADICAL ONE;2LINE;DOT;SLASH;SECOND;HOOK;TWO;LID;MAN;LEGS;ENTER;EIGHT
DOWN BOX;COVER;ICE;TABLE;OPEN BOX;KNIFE;POWER;WRAP;SPOON;> OPEN BOX;HIDING ENCLOSURE;TEN
DIVINATION;SEAL;CLIFF;PRIVATE;AGAIN;MOUTH;ENCLOSURE;EARTH;SCHOLAR;GO;3SLOWLY;2EVENING;BIG;WOMAN
CHILD;ROOF;INCH;_;LAME;CORPSE;SPROUT;MOUNTAIN;RIVER;WORK;ONESELF;TURBAN;DRY;SHORT THREAD
DOTTED CLIFF;LONG STRIDE;TWO HANDS;SHOOT;BOW;SNOUT;BRISTLE;STEP;HEART;HALBERD;DOOR;HAND;BRANCH
RAP;SCRIPT;DIPPER;AXE;SQUARE;NOT;SUN;SAY;MOON;TREE;LACK;STOP;DEATH;WEAPON;DO NOT;COMPARE;FUR;CLAN
STEAM;WATER;FIRE;CLAW;FATHER;= X;HALF TREE TRUNK;SLICE;FANG;COW;DOG;PROFOUND;JADE;MELON;TILE
SWEET;LIFE;USE;FIELD;BOLT OF CLOTH;SICKNESS;DOTTED TENT;WHITE;SKIN;DISH;EYE;SPEAR;:;STONE;SPIRIT
TRACK;GRAIN;CAVE;STAND;BAMBOO;RICE;SILK;JAR;NET;SHEEP;FEATHER;OLD;?;PLOW;EAR;BRUSH;MEAT;MINISTER
SELF;ARRIVE;MORTAR;TONGUE;OPPOSE;BOAT;STOPPING;COLOR;GRASS;TIGER;INSECT;BLOOD;WALK ENCLOSURE
CLOTHES;WEST;SEE;HORN;SPEECH;VALLEY;BEAN;PIG;BADGER;SHELL;RED;RUN;FOOT;BODY;CART;BITTER;MORNING
WALK;CITY;WINE;DISTINGUISH;VILLAGE;GOLD;LONG;GATE;MOUND;SLAVE;SHORT TAILED BIRD;RAIN;BLUE;WRONG
FACE;LEATHER;aTANNED;LEEK;SOUND;LEAF;WIND;FLY;EAT;HEAD;FRAGRANT;HORSE;BONE;TALL;HAIR;FIGHT
SACRIFICIAL WINE;CAULDRON;GHOST;FISH;BIRD;SALT;DEER;WHEAT;HEMP;YELLOW;MILLET;,;EMBROIDERY;FROG
TRIPOD;DRUM;RAT;NOSE;EVEN;TOOTH;DRAGON;TURTLE;FLUTE"⟩,
    ⟨0x2ff0, "IDEOGRAPHIC DESCRIPTION CHARACTER < TO >;3* TO BELOW;< TO MIDDLE ? >
* TO MIDDLE ? BELOW;FULL SURROUND;SURROUND FROM *;5BELOW;<;aUPPER;6>;5LOWER <;3OVERLAID"⟩,
    ⟨0x3000, "IDEOGRAPHIC SPACE;1COMMA;FULL STOP;0DITTO MARK;JAPANESE INDUSTRIAL STANDARD SYMBOL
IDEOGRAPHIC ITERATION MARK;1aCLOSING;NUMBER ZERO;0< ANGLE BRACKET;b>;b< =;c>;a< CORNER;b>
b< WHITE;c>;a< , LENTICULAR;c>;POSTAL MARK;aGETA;< TORTOISE SHELL BRACKET;c>;a< WHITE LENTICULAR
c>;a< WHITE TORTOISE SHELL;d>;a< WHITE SQUARE;c>;WAVE DASH;REVERSED = PRIME QUOTATION MARK;c=
dLOW;POSTAL MARK FACE;HANGZHOU NUMERAL ONE;2TWO;%;FOUR;FIVE;SIX;SEVEN;EIGHT;NINE
0IDEOGRAPHIC LEVEL TONE MARK;1bRISING;bDEPARTING;bENTERING;0bHANGUL SINGLE DOT;1c=;0WAVY DASH
! KANA REPEAT MARK;3a& VOICED SOUND;MARK UPPER HALF;c& VOICED SOUND;aMARK LOWER
0CIRCLED POSTAL MARK;IDEOGRAPHIC TELEGRAPH LINE FEED SEPARATOR SYMBOL;HANGZHOU NUMERAL TEN
2TWENTY;THIRTY;0! IDEOGRAPHIC ITERATION MARK;aMASU;aPART ALTERNATION
IDEOGRAPHIC VARIATION INDICATOR;1HALF FILL SPACE"⟩,
    ⟨0x3041, "HIRAGANA . _ A;2A;_ I;I;_ U;U;_ E;E;_ O;O;KA;GA;KI;GI;KU;GU;KE;GE;KO;GO;SA;ZA;SI;ZI
SU;ZU;SE;ZE;SO;ZO;TA;DA;TI;DI;_ TU;TU;DU;TE;DE;TO;DO;NA;NI;NU;NE;NO;HA;BA;PA;HI;BI;PI;HU;BU;PU;HE
BE;PE;HO;BO;PO;MA;MI;MU;ME;MO;_ YA;YA;_ YU;YU;_ YO;YO;RA;RI;RU;RE;RO;_ WA;WA;WI;WE;WO;N;VU;_ KA
3KE"⟩,
    ⟨0x3099, "COMBINING KATAKANA-HIRAGANA VOICED SOUND MARK;2bSEMI-VOICED
0bKATAKANA-HIRAGANA VOICED;1bSEMI-VOICED;0aHIRAGANA ITERATION;1bVOICED;DIGRAPH YORI
0KATAKANA-HIRAGANA = HYPHEN;KATAKANA . _ A;2A;_ I;I;_ U;U;_ E;E;_ O;O;KA;GA;KI;GI;KU;GU;KE;GE;KO
GO;SA;ZA;SI;ZI;SU;ZU;SE;ZE;SO;ZO;TA;DA;TI;DI;_ TU;TU;DU;TE;DE;TO;DO;NA;NI;NU;NE;NO;HA;BA;PA;HI;BI
PI;HU;BU;PU;HE;BE;PE;HO;BO;PO;MA;MI;MU;ME;MO;_ YA;YA;_ YU;YU;_ YO;YO;RA;RI;RU;RE;RO;_ WA;WA;WI;WE
WO;N;VU;_ KA;3KE;2VA;VI;VE;VO;1MIDDLE DOT;0KATAKANA-HIRAGANA PROLONGED SOUND MARK
aKATAKANA ITERATION;1bVOICED;DIGRAPH KOTO"⟩,
    ⟨0x3105, "BOPOMOFO . B;2P;M;F;D;T;N;L;G;K;H;J;Q;X;ZH;CH;SH;R;Z;C;S;A;O;E;EH;AI;EI;AU;OU;AN;EN
ANG;ENG;ER;I;U;IU;V;NG;GN;IH;O & DOT *;NN"⟩,
    ⟨0x3131, "HANGUL . KIYEOK;2SSANGKIYEOK;KIYEOK-SIOS;NIEUN;NIEUN-CIEUC;NIEUN-HIEUH;TIKEUT
SSANGTIKEUT;RIEUL;RIEUL-KIYEOK;RIEUL-MIEUM;RIEUL-PIEUP;RIEUL-SIOS;RIEUL-THIEUTH;RIEUL-PHIEUPH
RIEUL-HIEUH;MIEUM;PIEUP;SSANGPIEUP;PIEUP-SIOS;SIOS;SSANGSIOS;IEUNG;CIEUC;SSANGCIEUC;CHIEUCH
KHIEUKH;THIEUTH;PHIEUPH;HIEUH;A;AE;YA;YAE;EO;E;YEO;YE;O;WA;WAE;OE;YO;U;WEO;WE;WI;YU;EU;YI;I
1FILLER;. SSANGNIEUN;2NIEUN-TIKEUT;NIEUN-SIOS;NIEUN-PANSIOS;RIEUL-KIYEOK-SIOS;RIEUL-TIKEUT
RIEUL-PIEUP-SIOS;RIEUL-PANSIOS;RIEUL-YEORINHIEUH;MIEUM-PIEUP;MIEUM-SIOS;MIEUM-PANSIOS
KAPYEOUNMIEUM;PIEUP-KIYEOK;PIEUP-TIKEUT;PIEUP-SIOS-KIYEOK;PIEUP-SIOS-TIKEUT;PIEUP-CIEUC
PIEUP-THIEUTH;KAPYEOUNPIEUP;KAPYEOUNSSANGPIEUP;SIOS-KIYEOK;SIOS-NIEUN;SIOS-TIKEUT;SIOS-PIEUP
SIOS-CIEUC;PANSIOS;SSANGIEUNG;YESIEUNG;YESIEUNG-SIOS;YESIEUNG-PANSIOS;KAPYEOUNPHIEUPH;SSANGHIEUH
YEORINHIEUH;YO-YA;YO-YAE;YO-I;YU-YEO;YU-YE;YU-I;ARAEA;ARAEAE"⟩,
    ⟨0x3190, "IDEOGRAPHIC ANNOTATION LINKING MARK;2aREVERSE;aONE;aTWO;a%;aFOUR;aTOP;aMIDDLE
aBOTTOM;aFIRST;aSECOND;aTHIRD;aFOURTH;aHEAVEN;aEARTH;aMAN;0BOPOMOFO . BU;2ZI;JI;GU;EE;ENN;OO;ONN
IR;ANN;INN;UNN;IM;NGG;AINN;AUNN;AM;OM;ONG;INNN;1) . P;3T;K;H;1. GH;2LH;ZY;1) . G;. GW;2KW;OE;AH
0CJK STROKE T;2WG;XG;BXG;SW;HZZ;HZG;HP;HZWG;SZWG;HZT;HZZP;HPWG;HZW;HZZZ;N;H;S;P;SP;D;HZ;HG;SZ;SWZ
ST;SG;PD;PZ;TN;SZZ;SWG;HXWG;HZZZG;PG;Q"⟩,
    ⟨0x31f0, "KATAKANA . _ KU;3SI;SU;TO;NU;HA;HI;HU;HE;HO;MU;RA;RI;RU;RE;RO
0PARENTHESIZED HANGUL KIYEOK;2NIEUN;TIKEUT;RIEUL;MIEUM;PIEUP;SIOS;IEUNG;CIEUC;CHIEUCH;KHIEUKH
THIEUTH;PHIEUPH;HIEUH;KIYEOK A;aNIEUN;aTIKEUT;aRIEUL;aMIEUM;aPIEUP;aSIOS;aIEUNG;aCIEUC;aCHIEUCH
aKHIEUKH;aTHIEUTH;aPHIEUPH;aHIEUH;CIEUC U;1KOREAN CHARACTER OJEON;3O HU"⟩,
    ⟨0x3220, "PARENTHESIZED IDEOGRAPH ONE;2TWO;%;FOUR;FIVE;SIX;SEVEN;EIGHT;NINE;TEN;MOON;FIRE
WATER;WOOD;METAL;EARTH;SUN;STOCK;HAVE;SOCIETY;NAME;SPECIAL;FINANCIAL;CONGRATULATION;LABOR
REPRESENT;CALL;STUDY;SUPERVISE;ENTERPRISE;RESOURCE;ALLIANCE;FESTIVAL;REST;SELF;REACH
0CIRCLED IDEOGRAPH QUESTION;2KINDERGARTEN;SCHOOL;KOTO;1NUMBER TEN ON , SQUARE;2cTWENTY;cTHIRTY
cFORTY;cFIFTY;cSIXTY;cSEVENTY;cEIGHTY;0PARTNERSHIP $;CIRCLED NUMBER TWENTY ONE;3TWO;%;FOUR;FIVE
SIX;SEVEN;EIGHT;NINE;2THIRTY;3ONE;TWO;%;FOUR;FIVE;1HANGUL KIYEOK;2NIEUN;TIKEUT;RIEUL;MIEUM;PIEUP
SIOS;IEUNG;CIEUC;CHIEUCH;KHIEUKH;THIEUTH;PHIEUPH;HIEUH;KIYEOK A;aNIEUN;aTIKEUT;aRIEUL;aMIEUM
aPIEUP;aSIOS;aIEUNG;aCIEUC;aCHIEUCH;aKHIEUKH;aTHIEUTH;aPHIEUPH;aHIEUH;1KOREAN CHARACTER CHAMKO
3JUEUI;1HANGUL IEUNG U;0KOREAN STANDARD SYMBOL;CIRCLED IDEOGRAPH ONE;2TWO;%;FOUR;FIVE;SIX;SEVEN
EIGHT;NINE;TEN;MOON;FIRE;WATER;WOOD;METAL;EARTH;SUN;STOCK;HAVE;SOCIETY;NAME;SPECIAL;FINANCIAL
CONGRATULATION;LABOR;SECRET;MALE;FEMALE;SUITABLE;EXCELLENT;PRINT;ATTENTION;ITEM;REST;COPY;CORRECT
HIGH;CENTRE;LOW;<;>;MEDICINE;RELIGION;STUDY;SUPERVISE;ENTERPRISE;RESOURCE;ALLIANCE;NIGHT
1NUMBER THIRTY SIX;3SEVEN;EIGHT;NINE;2FORTY;3ONE;TWO;%;FOUR;FIVE;SIX;SEVEN;EIGHT;NINE;2FIFTY
0IDEOGRAPHIC TELEGRAPH SYMBOL FOR JANUARY;4FEBRUARY;MARCH;APRIL;MAY;JUNE;JULY;AUGUST;SEPTEMBER
OCTOBER;NOVEMBER;DECEMBER;0SQUARE HG;1ERG;EV;0LIMITED LIABILITY $;CIRCLED KATAKANA A;2I;U;E;O;KA
KI;KU;KE;KO;SA;SI;SU;SE;SO;TA;TI;TU;TE;TO;NA;NI;NU;NE;NO;HA;HI;HU;HE;HO;MA;MI;MU;ME;MO;YA;YU;YO
RA;RI;RU;RE;RO;WA;WI;WE;WO;0SQUARE ERA NAME REIWA;1APAATO;ARUHUA;ANPEA;AARU;ININGU;INTI;UON
ESUKUUDO;EEKAA;ONSU;OOMU;KAIRI;KARATTO;KARORII;GARON;GANMA;GIGA;GINII;KYURII;GIRUDAA;KIRO
KIROGURAMU;KIROMEETORU;KIROWATTO;GURAMU;GURAMUTON;KURUZEIRO;KUROONE;KEESU;KORUNA;KOOPO;SAIKURU
SANTIIMU;SIRINGU;SENTI;SENTO;DAASU;DESI;DORU;TON;NANO;NOTTO;HAITU;PAASENTO;PAATU;BAARERU
PIASUTORU;PIKURU;PIKO;BIRU;HUARADDO;HUIITO;BUSSYERU;HURAN;HEKUTAARU;PESO;PENIHI;HERUTU;PENSU
PEEZI;BEETA;POINTO;BORUTO;HON;PONDO;HOORU;HOON;MAIKURO;MAIRU;MAHHA;MARUKU;MANSYON;MIKURON;MIRI
MIRIBAARU;MEGA;MEGATON;MEETORU;YAADO;YAARU;YUAN;RITTORU;RIRA;RUPII;RUUBURU;REMU;RENTOGEN;WATTO
0IDEOGRAPHIC TELEGRAPH SYMBOL FOR HOUR ZERO;5ONE;TWO;%;FOUR;FIVE;SIX;SEVEN;EIGHT;NINE;TEN;ELEVEN
TWELVE;THIRTEEN;FOURTEEN;FIFTEEN;SIXTEEN;SEVENTEEN;EIGHTEEN;NINETEEN;TWENTY;TWENTY-ONE;TWENTY-TWO
TWENTY-THREE;TWENTY-FOUR;0SQUARE HPA;1DA;AU;BAR;OV;PC;DM;2SQUARED;CUBED;1IU;ERA NAME HEISEI
3SYOUWA;TAISYOU;MEIZI;1CORPORATION;PA AMPS;NA;MU A;MA;KA;+1;MB;GB;CAL;KCAL;PF;NF;MU F;+1;MG;KG;HZ
KHZ;MHZ;GHZ;THZ;MU L;ML;DL;KL;FM;NM;MU M;MM;CM;KM;MM SQUARED;aCM;aM;aKM;MM CUBED;aCM;aM;aKM
M OVER S;4SQUARED;1PA;KPA;MPA;GPA;RAD;2OVER S;4SQUARED;1PS;NS;MU S;MS;PV;NV;MU V;MV;KV;MV MEGA;PW
NW;MU W;MW;KW;MW MEGA;K OHM;aM;AM;BQ;CC;+1;C OVER KG;CO;DB;GY;HA;HP;IN;KK;KM ^;KT;LM;+1;LOG;LX
MB _;MIL;MOL;PH;PM;PPM;PR;SR;SV;WB;V OVER M;bA;0IDEOGRAPHIC TELEGRAPH SYMBOL FOR DAY ONE;5TWO;%
FOUR;FIVE;SIX;SEVEN;EIGHT;NINE;TEN;ELEVEN;TWELVE;THIRTEEN;FOURTEEN;FIFTEEN;SIXTEEN;SEVENTEEN
EIGHTEEN;NINETEEN;TWENTY;TWENTY-ONE;TWENTY-TWO;TWENTY-THREE;TWENTY-FOUR;TWENTY-FIVE;TWENTY-SIX
TWENTY-SEVEN;TWENTY-EIGHT;TWENTY-NINE;THIRTY;THIRTY-ONE;0SQUARE GAL"⟩,
    ⟨0x4dc0, "HEXAGRAM FOR THE CREATIVE HEAVEN;3RECEPTIVE EARTH;2DIFFICULTY AT THE BEGINNING
YOUTHFUL FOLLY;WAITING;CONFLICT;THE ARMY;HOLDING TOGETHER;_ TAMING;TREADING;PEACE;STANDSTILL
FELLOWSHIP;GREAT POSSESSION;MODESTY;ENTHUSIASM;FOLLOWING;WORK ON THE DECAYED;APPROACH
CONTEMPLATION;BITING THROUGH;GRACE;SPLITTING APART;RETURN;INNOCENCE;GREAT TAMING;MOUTH CORNERS
GREAT PREPONDERANCE;THE ABYSMAL WATER;3CLINGING FIRE;2INFLUENCE;DURATION;RETREAT;GREAT POWER
PROGRESS;DARKENING OF THE LIGHT;THE FAMILY;OPPOSITION;OBSTRUCTION;DELIVERANCE;DECREASE;INCREASE
BREAKTHROUGH;COMING TO MEET;GATHERING TOGETHER;PUSHING UPWARD;OPPRESSION;THE WELL;REVOLUTION
THE CAULDRON;3AROUSING THUNDER;KEEPING STILL MOUNTAIN;2DEVELOPMENT;THE MARRYING MAIDEN;ABUNDANCE
THE WANDERER;3GENTLE WIND;JOYOUS LAKE;2DISPERSION;LIMITATION;INNER TRUTH;_ PREPONDERANCE
AFTER COMPLETION;aBEFORE"⟩,
    ⟨0xa000, "YI SYLLABLE IT;2IX;I;IP;IET;IEX;IE;IEP;AT;AX;A;AP;UOX;UO;UOP;OT;OX;O;OP;EX;E;WU;BIT
BIX;BI;BIP;BIET;BIEX;BIE;BIEP;BAT;BAX;BA;BAP;BUOX;BUO;BUOP;BOT;BOX;BO;BOP;BEX;BE;BEP;BUT;BUX;BU
BUP;BURX;BUR;BYT;BYX;BY;BYP;BYRX;BYR;PIT;PIX;PI;PIP;PIEX;PIE;PIEP;PAT;PAX;PA;PAP;PUOX;PUO;PUOP
POT;POX;PO;POP;PUT;PUX;PU;PUP;PURX;PUR;PYT;PYX;PY;PYP;PYRX;PYR;BBIT;BBIX;BBI;BBIP;BBIET;BBIEX
BBIE;BBIEP;BBAT;BBAX;BBA;BBAP;BBUOX;BBUO;BBUOP;BBOT;BBOX;BBO;BBOP;BBEX;BBE;BBEP;BBUT;BBUX;BBU
BBUP;BBURX;BBUR;BBYT;BBYX;BBY;BBYP;NBIT;NBIX;NBI;NBIP;NBIEX;NBIE;NBIEP;NBAT;NBAX;NBA;NBAP;NBOT
NBOX;NBO;NBOP;NBUT;NBUX;NBU;NBUP;NBURX;NBUR;NBYT;NBYX;NBY;NBYP;NBYRX;NBYR;HMIT;HMIX;HMI;HMIP
HMIEX;HMIE;HMIEP;HMAT;HMAX;HMA;HMAP;HMUOX;HMUO;HMUOP;HMOT;HMOX;HMO;HMOP;HMUT;HMUX;HMU;HMUP;HMURX
HMUR;HMYX;HMY;HMYP;HMYRX;HMYR;MIT;MIX;MI;MIP;MIEX;MIE;MIEP;MAT;MAX;MA;MAP;MUOT;MUOX;MUO;MUOP;MOT
MOX;MO;MOP;MEX;ME;MUT;MUX;MU;MUP;MURX;MUR;MYT;MYX;MY;MYP;FIT;FIX;FI;FIP;FAT;FAX;FA;FAP;FOX;FO;FOP
FUT;FUX;FU;FUP;FURX;FUR;FYT;FYX;FY;FYP;VIT;VIX;VI;VIP;VIET;VIEX;VIE;VIEP;VAT;VAX;VA;VAP;VOT;VOX
VO;VOP;VEX;VEP;VUT;VUX;VU;VUP;VURX;VUR;VYT;VYX;VY;VYP;VYRX;VYR;DIT;DIX;DI;DIP;DIEX;DIE;DIEP;DAT
DAX;DA;DAP;DUOX;DUO;DOT;DOX;DO;DOP;DEX;DE;DEP;DUT;DUX;DU;DUP;DURX;DUR;TIT;TIX;TI;TIP;TIEX;TIE
TIEP;TAT;TAX;TA;TAP;TUOT;TUOX;TUO;TUOP;TOT;TOX;TO;TOP;TEX;TE;TEP;TUT;TUX;TU;TUP;TURX;TUR;DDIT
DDIX;DDI;DDIP;DDIEX;DDIE;DDIEP;DDAT;DDAX;DDA;DDAP;DDUOX;DDUO;DDUOP;DDOT;DDOX;DDO;DDOP;DDEX;DDE
DDEP;DDUT;DDUX;DDU;DDUP;DDURX;DDUR;NDIT;NDIX;NDI;NDIP;NDIEX;NDIE;NDAT;NDAX;NDA;NDAP;NDOT;NDOX;NDO
NDOP;NDEX;NDE;NDEP;NDUT;NDUX;NDU;NDUP;NDURX;NDUR;HNIT;HNIX;HNI;HNIP;HNIET;HNIEX;HNIE;HNIEP;HNAT
HNAX;HNA;HNAP;HNUOX;HNUO;HNOT;HNOX;HNOP;HNEX;HNE;HNEP;HNUT;NIT;NIX;NI;NIP;NIEX;NIE;NIEP;NAX;NA
NAP;NUOX;NUO;NUOP;NOT;NOX;NO;NOP;NEX;NE;NEP;NUT;NUX;NU;NUP;NURX;NUR;HLIT;HLIX;HLI;HLIP;HLIEX;HLIE
HLIEP;HLAT;HLAX;HLA;HLAP;HLUOX;HLUO;HLUOP;HLOX;HLO;HLOP;HLEX;HLE;HLEP;HLUT;HLUX;HLU;HLUP;HLURX
HLUR;HLYT;HLYX;HLY;HLYP;HLYRX;HLYR;LIT;LIX;LI;LIP;LIET;LIEX;LIE;LIEP;LAT;LAX;LA;LAP;LUOT;LUOX;LUO
LUOP;LOT;LOX;LO;LOP;LEX;LE;LEP;LUT;LUX;LU;LUP;LURX;LUR;LYT;LYX;LY;LYP;LYRX;LYR;GIT;GIX;GI;GIP
GIET;GIEX;GIE;GIEP;GAT;GAX;GA;GAP;GUOT;GUOX;GUO;GUOP;GOT;GOX;GO;GOP;GET;GEX;GE;GEP;GUT;GUX;GU;GUP
GURX;GUR;KIT;KIX;KI;KIP;KIEX;KIE;KIEP;KAT;KAX;KA;KAP;KUOX;KUO;KUOP;KOT;KOX;KO;KOP;KET;KEX;KE;KEP
KUT;KUX;KU;KUP;KURX;KUR;GGIT;GGIX;GGI;GGIEX;GGIE;GGIEP;GGAT;GGAX;GGA;GGAP;GGUOT;GGUOX;GGUO;GGUOP
GGOT;GGOX;GGO;GGOP;GGET;GGEX;GGE;GGEP;GGUT;GGUX;GGU;GGUP;GGURX;GGUR;MGIEX;MGIE;MGAT;MGAX;MGA;MGAP
MGUOX;MGUO;MGUOP;MGOT;MGOX;MGO;MGOP;MGEX;MGE;MGEP;MGUT;MGUX;MGU;MGUP;MGURX;MGUR;HXIT;HXIX;HXI
HXIP;HXIET;HXIEX;HXIE;HXIEP;HXAT;HXAX;HXA;HXAP;HXUOT;HXUOX;HXUO;HXUOP;HXOT;HXOX;HXO;HXOP;HXEX;HXE
HXEP;NGIEX;NGIE;NGIEP;NGAT;NGAX;NGA;NGAP;NGUOT;NGUOX;NGUO;NGOT;NGOX;NGO;NGOP;NGEX;NGE;NGEP;HIT
HIEX;HIE;HAT;HAX;HA;HAP;HUOT;HUOX;HUO;HUOP;HOT;HOX;HO;HOP;HEX;HE;HEP;WAT;WAX;WA;WAP;WUOX;WUO;WUOP
WOX;WO;WOP;WEX;WE;WEP;ZIT;ZIX;ZI;ZIP;ZIEX;ZIE;ZIEP;ZAT;ZAX;ZA;ZAP;ZUOX;ZUO;ZUOP;ZOT;ZOX;ZO;ZOP
ZEX;ZE;ZEP;ZUT;ZUX;ZU;ZUP;ZURX;ZUR;ZYT;ZYX;ZY;ZYP;ZYRX;ZYR;CIT;CIX;CI;CIP;CIET;CIEX;CIE;CIEP;CAT
CAX;CA;CAP;CUOX;CUO;CUOP;COT;COX;CO;COP;CEX;CE;CEP;CUT;CUX;CU;CUP;CURX;CUR;CYT;CYX;CY;CYP;CYRX
CYR;ZZIT;ZZIX;ZZI;ZZIP;ZZIET;ZZIEX;ZZIE;ZZIEP;ZZAT;ZZAX;ZZA;ZZAP;ZZOX;ZZO;ZZOP;ZZEX;ZZE;ZZEP;ZZUX
ZZU;ZZUP;ZZURX;ZZUR;ZZYT;ZZYX;ZZY;ZZYP;ZZYRX;ZZYR;NZIT;NZIX;NZI;NZIP;NZIEX;NZIE;NZIEP;NZAT;NZAX
NZA;NZAP;NZUOX;NZUO;NZOX;NZOP;NZEX;NZE;NZUX;NZU;NZUP;NZURX;NZUR;NZYT;NZYX;NZY;NZYP;NZYRX;NZYR;SIT
SIX;SI;SIP;SIEX;SIE;SIEP;SAT;SAX;SA;SAP;SUOX;SUO;SUOP;SOT;SOX;SO;SOP;SEX;SE;SEP;SUT;SUX;SU;SUP
SURX;SUR;SYT;SYX;SY;SYP;SYRX;SYR;SSIT;SSIX;SSI;SSIP;SSIEX;SSIE;SSIEP;SSAT;SSAX;SSA;SSAP;SSOT;SSOX
SSO;SSOP;SSEX;SSE;SSEP;SSUT;SSUX;SSU;SSUP;SSYT;SSYX;SSY;SSYP;SSYRX;SSYR;ZHAT;ZHAX;ZHA;ZHAP;ZHUOX
ZHUO;ZHUOP;ZHOT;ZHOX;ZHO;ZHOP;ZHET;ZHEX;ZHE;ZHEP;ZHUT;ZHUX;ZHU;ZHUP;ZHURX;ZHUR;ZHYT;ZHYX;ZHY;ZHYP
ZHYRX;ZHYR;CHAT;CHAX;CHA;CHAP;CHUOT;CHUOX;CHUO;CHUOP;CHOT;CHOX;CHO;CHOP;CHET;CHEX;CHE;CHEP;CHUX
CHU;CHUP;CHURX;CHUR;CHYT;CHYX;CHY;CHYP;CHYRX;CHYR;RRAX;RRA;RRUOX;RRUO;RROT;RROX;RRO;RROP;RRET
RREX;RRE;RREP;RRUT;RRUX;RRU;RRUP;RRURX;RRUR;RRYT;RRYX;RRY;RRYP;RRYRX;RRYR;NRAT;NRAX;NRA;NRAP;NROX
NRO;NROP;NRET;NREX;NRE;NREP;NRUT;NRUX;NRU;NRUP;NRURX;NRUR;NRYT;NRYX;NRY;NRYP;NRYRX;NRYR;SHAT;SHAX
SHA;SHAP;SHUOX;SHUO;SHUOP;SHOT;SHOX;SHO;SHOP;SHET;SHEX;SHE;SHEP;SHUT;SHUX;SHU;SHUP;SHURX;SHUR
SHYT;SHYX;SHY;SHYP;SHYRX;SHYR;RAT;RAX;RA;RAP;RUOX;RUO;RUOP;ROT;ROX;RO;ROP;REX;RE;REP;RUT;RUX;RU
RUP;RURX;RUR;RYT;RYX;RY;RYP;RYRX;RYR;JIT;JIX;JI;JIP;JIET;JIEX;JIE;JIEP;JUOT;JUOX;JUO;JUOP;JOT;JOX
JO;JOP;JUT;JUX;JU;JUP;JURX;JUR;JYT;JYX;JY;JYP;JYRX;JYR;QIT;QIX;QI;QIP;QIET;QIEX;QIE;QIEP;QUOT
QUOX;QUO;QUOP;QOT;QOX;QO;QOP;QUT;QUX;QU;QUP;QURX;QUR;QYT;QYX;QY;QYP;QYRX;QYR;JJIT;JJIX;JJI;JJIP
JJIET;JJIEX;JJIE;JJIEP;JJUOX;JJUO;JJUOP;JJOT;JJOX;JJO;JJOP;JJUT;JJUX;JJU;JJUP;JJURX;JJUR;JJYT
JJYX;JJY;JJYP;NJIT;NJIX;NJI;NJIP;NJIET;NJIEX;NJIE;NJIEP;NJUOX;NJUO;NJOT;NJOX;NJO;NJOP;NJUX;NJU
NJUP;NJURX;NJUR;NJYT;NJYX;NJY;NJYP;NJYRX;NJYR;NYIT;NYIX;NYI;NYIP;NYIET;NYIEX;NYIE;NYIEP;NYUOX
NYUO;NYUOP;NYOT;NYOX;NYO;NYOP;NYUT;NYUX;NYU;NYUP;XIT;XIX;XI;XIP;XIET;XIEX;XIE;XIEP;XUOX;XUO;XOT
XOX;XO;XOP;XYT;XYX;XY;XYP;XYRX;XYR;YIT;YIX;YI;YIP;YIET;YIEX;YIE;YIEP;YUOT;YUOX;YUO;YUOP;YOT;YOX
YO;YOP;YUT;YUX;YU;YUP;YURX;YUR;YYT;YYX;YY;YYP;YYRX;YYR"⟩,
    ⟨0xa490, "YI RADICAL QOT;2LI;KIT;NYIP;CYP;SSI;GGOP;GEP;MI;HXIT;LYR;BBUT;MOP;YO;PUT;HXUO;TAT
GA;ZUP;CYT;DDUR;BUR;GGUO;NYOP;TU;OP;JJUT;ZOT;PYT;HMO;YIT;VUR;SHY;VEP;ZA;JO;NZUP;JJY;GOT;JJIE;WO
DU;SHUR;LIE;CY;CUOP;CIP;HXOP;SHAT;ZUR;SHOP;CHE;ZZIET;NBIE;KE"⟩,
    ⟨0xa4d0, "LISU . BA;2PA;PHA;DA;TA;THA;GA;KA;KHA;JA;CA;CHA;DZA;TSA;TSHA;MA;NA;LA;SA;ZHA;ZA;NGA
HA;XA;HHA;FA;WA;SHA;YA;GHA;A;AE;E;EU;I;O;U;UE;UH;OE;TONE MYA TI;3NA PO;MYA CYA;4BO;NA;JEU
1PUNCTUATION COMMA;2FULL STOP;0VAI SYLLABLE EE;2EEN;HEE;WEE;WEEN;PEE;BHEE;BEE;MBEE;KPEE;MGBEE
GBEE;FEE;VEE;TEE;THEE;DHEE;DHHEE;LEE;REE;DEE;NDEE;SEE;SHEE;ZEE;ZHEE;CEE;JEE;NJEE;YEE;KEE;NGGEE
GEE;MEE;NEE;NYEE;I;IN;HI;HIN;WI;WIN;PI;BHI;BI;MBI;KPI;MGBI;GBI;FI;VI;TI;THI;DHI;DHHI;LI;RI;DI;NDI
SI;SHI;ZI;ZHI;CI;JI;NJI;YI;KI;NGGI;GI;MI;NI;NYI;A;AN;NGAN;HA;HAN;WA;WAN;PA;BHA;BA;MBA;KPA;KPAN
MGBA;GBA;FA;VA;TA;THA;DHA;DHHA;LA;RA;DA;NDA;SA;SHA;ZA;ZHA;CA;JA;NJA;YA;KA;KAN;NGGA;GA;MA;NA;NYA
OO;OON;HOO;WOO;WOON;POO;BHOO;BOO;MBOO;KPOO;MGBOO;GBOO;FOO;VOO;TOO;THOO;DHOO;DHHOO;LOO;ROO;DOO
NDOO;SOO;SHOO;ZOO;ZHOO;COO;JOO;NJOO;YOO;KOO;NGGOO;GOO;MOO;NOO;NYOO;U;UN;HU;HUN;WU;WUN;PU;BHU;BU
MBU;KPU;MGBU;GBU;FU;VU;TU;THU;DHU;DHHU;LU;RU;DU;NDU;SU;SHU;ZU;ZHU;CU;JU;NJU;YU;KU;NGGU;GU;MU;NU
NYU;O;ON;NGON;HO;HON;WO;WON;PO;BHO;BO;MBO;KPO;MGBO;GBO;GBON;FO;VO;TO;THO;DHO;DHHO;LO;RO;DO;NDO;SO
SHO;ZO;ZHO;CO;JO;NJO;YO;KO;NGGO;GO;MO;NO;NYO;E;EN;NGEN;HE;HEN;WE;WEN;PE;BHE;BE;MBE;KPE;KPEN;MGBE
GBE;GBEN;FE;VE;TE;THE;DHE;DHHE;LE;RE;DE;NDE;SE;SHE;ZE;ZHE;CE;JE;NJE;YE;KE;NGGE;NGGEN;GE;GEN;ME;NE
NYE;NG;LENGTHENER;1COMMA;FULL STOP;QUESTION MARK;SYLLABLE NDOLE FA;3KA;SOO;1SYMBOL FEENG;2KEENG
TING;NII;BANG;FAA;TAA;DANG;DOONG;KUNG;TONG;DO-O;JONG;1DIGIT ZERO;2ONE;TWO;%;FOUR;FIVE;SIX;SEVEN
EIGHT;NINE;1SYLLABLE NDOLE MA;3DO"⟩,
    ⟨0xa640, "CYRILLIC ^ . ZEMLYA;1b_;^ . DZELO;b_;^ . REVERSED DZE;c_;^ . IOTA;b_;^ . DJERV;b_
^ . MONOGRAPH UK;c_;^ . BROAD OMEGA;c_;^ . NEUTRAL YER;c_;a^ . YERU & BACK;e_;^ . IOTIFIED YAT;c_
^ . REVERSED YU;c_;^ . IOTIFIED A;c_;^ . CLOSED LITTLE YUS;d_;a^ . BLENDED;c_
a^ . IOTIFIED CLOSED LITTLE;e_;^ . YN;b_;^ . REVERSED TSE;c_;^ . SOFT DE;c_;^ . SOFT EL;c_
^ . SOFT EM;c_;^ . MONOCULAR O;c_;a^ . BINOCULAR;c_;a^ . = MONOCULAR;d_;a. MULTIOCULAR
0COMBINING CYRILLIC VZMET;2TEN MILLIONS $;bHUNDRED;bTHOUSAND;0SLAVONIC ASTERISK
COMBINING CYRILLIC . UKRAINIAN IE;3I;YI;U;HARD $;YERU;SOFT $;OMEGA;2KAVYKA;PAYEROK
0CYRILLIC KAVYKA;1PAYEROK;^ . DWE;b_;^ . DZWE;b_;^ . ZHWE;b_;^ . CCHE;b_;^ . DZZE;b_
^ . TE & MIDDLE HOOK;e_;^ . TWE;b_;^ . TSWE;b_;^ . TSSE;b_;^ . TCHE;b_;^ . HWE;b_;^ . SHWE;b_
^ . = O;c_;a^ . CROSSED;c_;0MODIFIER . CYRILLIC HARD $;3aSOFT;0COMBINING CYRILLIC . EF
3IOTIFIED E;0BAMUM . A;2KA;U;KU;EE;REE;TAE;O;NYI;I;LA;PA;RII;RIEE;LEEEE;MEEEE;TAA;NDAA;NJAEM;M
SUU;MU;SHII;SI;SHEUX;SEUX;KYEE;KET;NUAE;NU;NJUAE;YOQ;SHU;YUQ;YA;NSHA;KEUX;PEUX;NJEE;NTEE;PUE;WUE
PEE;FEE;RU;LU;MI;NI;REUX;RAE;KEN;NGKWAEN;NGGA;NGA;SHO;PUAE;FU;FOM;WA;NA;LI;PI;LOQ;KO;MBEN;REN;MEN
MA;TI;KI;MO;MBAA;TET;KPA;TEN;NTUU;SAMBA;FAAMAE;KOVUU;KOGHOM;1COMBINING MARK KOQNDON;3TUKWENTIS
1NJAEMLI;FULL STOP;COLON;COMMA;SEMICOLON;QUESTION MARK"⟩,
    ⟨0xa700, "MODIFIER . CHINESE TONE YIN PING;4aYANG;YIN SHANG;aYANG;YIN QU;aYANG;YIN RU;aYANG
2EXTRA-HIGH DOTTED TONE BAR;cHIGH;cMID;cLOW;cEXTRA-LOW;bEXTRA-HIGH DOTTED LEFT-STEM;dHIGH;dMID
dLOW;dEXTRA-LOW;cEXTRA-HIGH;cHIGH;cMID;cLOW;cEXTRA-LOW;aDOT !;3SLASH;] BAR;2LOWER > CORNER ANGLE
RAISED UP :;3aDOWN;EXCLAMATION MARK;bINVERTED;2cLOW;STRESS ? HIGH TONE;4aLOW
0LATIN ^ . EGYPTOLOGICAL ALEF;1c_;^ . EGYPTOLOGICAL AIN;c_;^ . HENG;b_;^ . TZ;b_;^ . TRESILLO;b_
^ . CUATRILLO;b_;^ . CUATRILLO & COMMA;d_;. _ ^ F;4S;1^ . AA;b_;^ . AO;b_;^ . AU;b_;^ . AV;b_
^ . AV & ] BAR;e_;^ . AY;b_;^ . REVERSED C & DOT;e_;^ . K & STROKE;d_;a^ . K & DIAGONAL;e_
b^ . K & STROKE ?;g_;^ . BROKEN L;c_;^ . L & HIGH STROKE;e_;^ . O & LONG STROKE OVERLAY;f_
^ . O & LOOP;d_;^ . OO;b_;^ . P & STROKE THROUGH DESCENDER;f_;^ . P & FLOURISH;d_
^ . P & SQUIRREL TAIL;e_;^ . Q & STROKE THROUGH DESCENDER;f_;^ . Q & DIAGONAL STROKE;e_
^ . R ROTUNDA;c_;a^ . RUM;c_;^ . V & DIAGONAL STROKE;e_;^ . VY;b_;^ . VISIGOTHIC Z;c_
^ . THORN & STROKE;d_;^ . THORN & STROKE THROUGH DESCENDER;f_;^ . VEND;b_;^ . ET;b_;^ . IS;b_
^ . CON;b_;0MODIFIER . US;LATIN _ . DUM;3LUM;MUM;NUM;RUM;1a. _ ^;_ . TUM;3UM;1^ . INSULAR D;c_
^ . INSULAR F;c_;^ . INSULAR G;3bTURNED;1d_;^ . TURNED L;c_;^ . INSULAR R;c_;^ . INSULAR S;c_
^ . INSULAR T;c_;0MODIFIER . LOW CIRCUMFLEX ACCENT;2COLON;SHORT EQUALS $;0LATIN ^ . SALTILLO;1b_
^ . TURNED H;_ . L & RETROFLEX HOOK ? BELT;. SINOLOGICAL DOT;^ . N & DESCENDER;d_;^ . C & BAR;d_
5PALATAL HOOK;3cH;1^ . B & FLOURISH;d_;^ . F & STROKE;d_;^ . VOLAPUK AE;c_;^ . VOLAPUK OE;c_
^ . VOLAPUK UE;c_;^ . G & OBLIQUE STROKE;e_;c^ . K;e_;c^ . N;e_;c^ . R;e_;c^ . S;e_;^ . H & HOOK
3REVERSED OPEN E;SCRIPT G;L & BELT;_ ^ I;1. _ ^ Q;^ . TURNED K;4T;3J & CROSSED-TAIL;CHI;BETA;1b_
^ . OMEGA;b_;^ . U & STROKE;d_;^ . GLOTTAL A;c_;^ . GLOTTAL I;c_;^ . GLOTTAL U;c_
^ . OLD POLISH O;d_;^ . ANGLICANA W;c_;^ . C & PALATAL HOOK;3aS &;aZ & PALATAL
D & SHORT STROKE OVERLAY;1f_;d^ . S;f_"⟩,
    ⟨0xa7d0, "LATIN ^ . CLOSED INSULAR G;1d_"⟩,
    ⟨0xa7d3, "LATIN _ . = THORN"⟩,
    ⟨0xa7d5, "LATIN _ . = WYNN;1^ . MIDDLE SCOTS S;d_;a^ . SIGMOID;c_"⟩,
    ⟨0xa7f2, "MODIFIER . ^ C;3F;Q;0LATIN ^ . REVERSED HALF H;1d_;EPIGRAPHIC . SIDEWAYS I
0MODIFIER . ^ H & STROKE;2_ LIGATURE OE;0LATIN . _ ^ TURNED M;1EPIGRAPHIC . REVERSED F;4P
3INVERTED M;I LONGA;ARCHAIC M;0SYLOTI NAGRI . A;3I;2$ DVISVARA;. U;3E;O;2$ HASANTA;. KO;3KHO;GO
GHO;2$ ANUSVARA;. CO;3CHO;JO;JHO;TTO;TTHO;DDO;DDHO;TO;THO;DO;DHO;NO;PO;PHO;BO;BHO;MO;RO;LO;RRO;SO
HO;2VOWEL $ A;4I;U;E;OO;2POETRY MARK-1;+3;$ ALTERNATE HASANTA"⟩,
    ⟨0xa830, "NORTH INDIC FRACTION ONE QUARTER;4HALF;3% QUARTERS;ONE SIXTEENTH;4EIGHTH
3% SIXTEENTHS;2QUARTER MARK;aPLACEHOLDER;aRUPEE;aQUANTITY"⟩,
    ⟨0xa840, "PHAGS-PA . KA;2KHA;GA;NGA;CA;CHA;JA;NYA;TA;THA;DA;NA;PA;PHA;BA;MA;TSA;TSHA;DZA;WA
ZHA;ZA;_ A;YA;RA;LA;SHA;SA;HA;A;I;U;E;O;QA;XA;FA;GGA;EE;1SUBJOINED . WA;3YA;1. TTA;2TTHA;DDA;NNA
ALTERNATE YA;VOICELESS SHA;VOICED HA;ASPIRATED FA;1SUBJOINED . RA;bSUPERFIXED;. CANDRABINDU
SINGLE HEAD MARK;b=;MARK SHAD;2a="⟩,
    ⟨0xa880, "SAURASHTRA $ ANUSVARA;2VISARGA;1. A;2AA;I;II;U;UU;VOCALIC R;3RR;L;LL;2E;EE;AI;O;OO
AU;KA;KHA;GA;GHA;NGA;CA;CHA;JA;JHA;NYA;TTA;TTHA;DDA;DDHA;NNA;TA;THA;DA;DHA;NA;PA;PHA;BA;BHA;MA;YA
RA;LA;VA;SHA;SSA;SA;HA;LLA;1CONSONANT $ HAARU;VOWEL $ AA;3I;II;U;UU;VOCALIC R;4RR;L;LL;3E;EE;AI;O
OO;AU;1$ VIRAMA;2CANDRABINDU"⟩,
    ⟨0xa8ce, "SAURASHTRA DANDA;1a=;DIGIT ZERO;2ONE;TWO;%;FOUR;FIVE;SIX;SEVEN;EIGHT;NINE"⟩,
    ⟨0xa8e0, "COMBINING DEVANAGARI DIGIT ZERO;3ONE;TWO;%;FOUR;FIVE;SIX;SEVEN;EIGHT;NINE;2. A;3U
KA;NA;PA;RA;VI;2$ AVAGRAHA;0DEVANAGARI $ SPACING CANDRABINDU;2CANDRABINDU VIRAMA;b=
CANDRABINDU TWO;3%;AVAGRAHA;2PUSHPIKA;1GAP FILLER;CARET;HEADSTROKE;$ SIDDHAM;JAIN OM;. AY
aVOWEL $;0KAYAH LI DIGIT ZERO;3ONE;TWO;%;FOUR;FIVE;SIX;SEVEN;EIGHT;NINE;2. KA;3KHA;GA;NGA;SA;SHA
ZA;NYA;TA;HTA;NA;PA;PHA;MA;DA;BA;RA;YA;LA;WA;THA;HA;VA;CA;A;OE;I;OO;2VOWEL UE;3E;U;EE;O
2TONE PLOPHU;3CALYA;4PLOPHU;2$ CWI;3SHYA;0REJANG . KA;2GA;NGA;TA;DA;NA;PA;BA;MA;CA;JA;NYA;SA;RA
LA;YA;WA;HA;MBA;NGGA;NDA;NYJA;A;1VOWEL $ I;3U;E;AI;O;AU;EU;EA;1CONSONANT $ NG;3N;R;H;1VIRAMA"⟩,
    ⟨0xa95f, "REJANG SECTION MARK;HANGUL CHOSEONG TIKEUT-MIEUM;2TIKEUT-PIEUP;TIKEUT-SIOS
TIKEUT-CIEUC;RIEUL-KIYEOK;RIEUL-SSANGKIYEOK;RIEUL-TIKEUT;RIEUL-SSANGTIKEUT;RIEUL-MIEUM
RIEUL-PIEUP;RIEUL-SSANGPIEUP;RIEUL-KAPYEOUNPIEUP;RIEUL-SIOS;RIEUL-CIEUC;RIEUL-KHIEUKH
MIEUM-KIYEOK;MIEUM-TIKEUT;MIEUM-SIOS;PIEUP-SIOS-THIEUTH;PIEUP-KHIEUKH;PIEUP-HIEUH;SSANGSIOS-PIEUP
IEUNG-RIEUL;IEUNG-HIEUH;SSANGCIEUC-HIEUH;SSANGTHIEUTH;PHIEUPH-HIEUH;HIEUH-SIOS;SSANGYEORINHIEUH"⟩,
    ⟨0xa980, "JAVANESE $ PANYANGGA;2CECAK;LAYAR;WIGNYAN;1. A;2I KAWI;I;II;U;PA CEREK;NGA LELET
4RASWADI;2E;AI;O;KA;3SASAK;MURDA;2GA;3MURDA;2NGA;CA;3MURDA;2JA;NYA MURDA;JA MAHAPRANA;NYA;TTA
3MAHAPRANA;2DDA;3MAHAPRANA;2NA MURDA;TA;3MURDA;2DA;3MAHAPRANA;2NA;PA;3MURDA;2BA;3MURDA;2MA;YA;RA
3AGUNG;2LA;WA;SA MURDA;3MAHAPRANA;2SA;HA;1$ CECAK TELU;VOWEL $ TARUNG;3TOLONG;WULU;4MELIK;3SUKU
4MENDUT;3TALING;DIRGA MURE;PEPET;1CONSONANT $ KERET;3PENGKAL;CAKRA;1PANGKON;< RERENGGAN;a>
PADA ANDAP;2MADYA;LUHUR;WINDU;PANGKAT;LINGSA;LUNGSI;ADEG;aADEG;PISELEH;1bTURNED"⟩,
    ⟨0xa9cf, "JAVANESE PANGRANGKEP;1DIGIT ZERO;2ONE;TWO;%;FOUR;FIVE;SIX;SEVEN;EIGHT;NINE"⟩,
    ⟨0xa9de, "JAVANESE PADA TIRTA TUMETES;2ISEN-ISEN;0MYANMAR . SHAN GHA;3CHA;JHA;NNA;BHA
1$ SHAN SAW;MODIFIER . SHAN REDUPLICATION;. TAI LAING NYA;4FA;GA;GHA;JA;JHA;DDA;DDHA;NNA
1TAI LAING DIGIT ZERO;4ONE;TWO;%;FOUR;FIVE;SIX;SEVEN;EIGHT;NINE;1. TAI LAING LLA;4DA;DHA;BA;BHA"⟩,
    ⟨0xaa00, "CHAM . A;2I;U;E;AI;O;KA;KHA;GA;GHA;NGUE;NGA;CHA;CHHA;JA;JHA;NHUE;NHA;NHJA;TA;THA;DA
DHA;NUE;NA;DDA;PA;PPA;PHA;BA;BHA;MUE;MA;BBA;YA;RA;LA;VA;SSA;SA;HA;1VOWEL $ AA;3I;II;EI;U;OE;O;AI
AU;UE;1CONSONANT $ YA;3RA;LA;WA"⟩,
    ⟨0xaa40, "CHAM . ) K;3G;NG;1bCONSONANT $;. ) CH;3T;N;P;Y;R;L;SS;1CONSONANT $ ) M;4H"⟩,
    ⟨0xaa50, "CHAM DIGIT ZERO;2ONE;TWO;%;FOUR;FIVE;SIX;SEVEN;EIGHT;NINE"⟩,
    ⟨0xaa5c, "CHAM PUNCTUATION SPIRAL;2DANDA;a=;aTRIPLE;0MYANMAR . KHAMTI GA;3CA;CHA;JA;JHA;NYA
TTA;TTHA;DDA;DDHA;DHA;NA;SA;HA;HHA;FA;1MODIFIER . KHAMTI REDUPLICATION;. KHAMTI XA;3ZA;RA
1LOGOGRAM KHAMTI OAY;3QN;HM;1SYMBOL AITON EXCLAMATION;3ONE;TWO;1. AITON RA;$ PAO KAREN TONE
2TAI LAING TONE-2;4TONE-5;1. SHWE PALAUNG CHA;4SHA;0TAI VIET . LOW KO;3aHIGH;LOW KHO;aHIGH
LOW KHHO;aHIGH;LOW GO;aHIGH;LOW NGO;aHIGH;LOW CO;aHIGH;LOW CHO;aHIGH;LOW SO;aHIGH;LOW NYO;aHIGH
LOW DO;aHIGH;LOW TO;aHIGH;LOW THO;aHIGH;LOW NO;aHIGH;LOW BO;aHIGH;LOW PO;aHIGH;LOW PHO;aHIGH
LOW FO;aHIGH;LOW MO;aHIGH;LOW YO;aHIGH;LOW RO;aHIGH;LOW LO;aHIGH;LOW VO;aHIGH;LOW HO;aHIGH;LOW O
aHIGH;2MAI KANG;VOWEL AA;3I;UE;U;E;O;2MAI KHIT;VOWEL IA;3UEA;UA;AUE;AY;AN;AM;2TONE MAI EK;4NUENG
THO;SONG"⟩,
    ⟨0xaadb, "TAI VIET SYMBOL KON;3NUENG;SAM;HO HOI;KOI KOI;0MEETEI MAYEK . E;3O;CHA;NYA;TTA;TTHA
DDA;DDHA;NNA;SHA;SSA;2VOWEL $ II;4UU;AAI;AU;AAU;2CHEIKHAN;AHANG KHUDAM;ANJI
SYLLABLE REPETITION MARK;bWORD;VOWEL $ VISARGA;VIRAMA"⟩,
    ⟨0xab01, "ETHIOPIC SYLLABLE TTHU;2TTHI;TTHAA;TTHEE;TTHE;TTHO"⟩,
    ⟨0xab09, "ETHIOPIC SYLLABLE DDHU;2DDHI;DDHAA;DDHEE;DDHE;DDHO"⟩,
    ⟨0xab11, "ETHIOPIC SYLLABLE DZU;2DZI;DZAA;DZEE;DZE;DZO"⟩,
    ⟨0xab20, "ETHIOPIC SYLLABLE CCHHA;2CCHHU;CCHHI;CCHHAA;CCHHEE;CCHHE;CCHHO"⟩,
    ⟨0xab28, "ETHIOPIC SYLLABLE BBA;2BBU;BBI;BBAA;BBEE;BBE;BBO"⟩,
    ⟨0xab30, "LATIN _ . BARRED ALPHA;3A REVERSED-SCHWA;BLACKLETTER E;aBARRED;E & FLOURISH;LENIS F
SCRIPT G & CROSSED-TAIL;L & INVERTED LAZY S;5= MIDDLE TILDE;MIDDLE RING;3M & CROSSED-TAIL;bN;bENG
BLACKLETTER O;5& STROKE;3cOPEN;INVERTED OE;TURNED OE & STROKE;6a];4O OPEN-O;6& STROKE;3STIRRUP R
1. _ ^ R & > LEG;_ . R WITHOUT HANDLE;3= R;R & CROSSED-TAIL;c=;SCRIPT R;5& RING;3BASELINE ESH
U & SHORT > LEG;4dBAR;3UI;aTURNED;U & < HOOK;CHI;4& LOW > RING;6< SERIF;3X & LOW > RING
5LONG < LEG;8? LOW > RING;& SERIF;3Y & SHORT > LEG;0MODIFIER BREVE & INVERTED BREVE;1. _ HENG
3L & INVERTED LAZY S;5MIDDLE TILDE;3U & < HOOK;0LATIN _ . SAKHA YAT;3IOTIFIED E;OPEN OE;UO
INVERTED ALPHA;0GREEK . _ ^ OMEGA;LATIN _ . DZ DIGRAPH & RETROFLEX HOOK;3dTS
TURNED R & MIDDLE TILDE;0MODIFIER . _ TURNED W;2< TACK;a>"⟩,
    ⟨0xab70, "CHEROKEE _ . A;3E;I;O;U;+1;GA;KA;GE;GI;GO;GU;+1;HA;HE;HI;HO;HU;+1;LA;LE;LI;LO;LU;+1
MA;ME;MI;MO;MU;NA;HNA;NAH;NE;NI;NO;NU;+1;QUA;QUE;QUI;QUO;QUU;+1;SA;S;SE;SI;SO;SU;+1;DA;TA;DE;TE
DI;TI;DO;DU;+1;DLA;TLA;TLE;TLI;TLO;TLU;+1;TSA;TSE;TSI;TSO;TSU;+1;WA;WE;WI;WO;WU;+1;YA
0MEETEI MAYEK . KOK;3SAM;LAI;MIT;PA;NA;CHIL;TIL;KHOU;NGOU;THOU;WAI;YANG;HUK;UN;I;PHAM;ATIYA;GOK
JHAM;RAI;BA;JIL;DIL;GHOU;DHOU;BHAM;KOK LONSUM;aLAI;aMIT;aPA;aNA;aTIL;aNGOU;aI;2VOWEL $ ONAP;4INAP
ANAP;YENAP;SOUNAP;UNAP;CHEINAP;NUNG;2CHEIKHEI;LUM IYEK;aAPUN"⟩,
    ⟨0xabf0, "MEETEI MAYEK DIGIT ZERO;3ONE;TWO;%;FOUR;FIVE;SIX;SEVEN;EIGHT;NINE"⟩,
    ⟨0xd7b0, "HANGUL JUNGSEONG O-YEO;2O-O-I;YO-A;YO-AE;YO-EO;U-YEO;U-I-I;YU-AE;YU-O;EU-A;EU-EO
EU-E;EU-O;I-YA-O;I-YAE;I-YEO;I-YE;I-O-I;I-YO;I-YU;I-I;ARAEA-A;ARAEA-E"⟩,
    ⟨0xd7cb, "HANGUL JONGSEONG NIEUN-RIEUL;2NIEUN-CHIEUCH;SSANGTIKEUT;SSANGTIKEUT-PIEUP
TIKEUT-PIEUP;TIKEUT-SIOS;TIKEUT-SIOS-KIYEOK;TIKEUT-CIEUC;TIKEUT-CHIEUCH;TIKEUT-THIEUTH
RIEUL-SSANGKIYEOK;RIEUL-KIYEOK-HIEUH;SSANGRIEUL-KHIEUKH;RIEUL-MIEUM-HIEUH;RIEUL-PIEUP-TIKEUT
RIEUL-PIEUP-PHIEUPH;RIEUL-YESIEUNG;RIEUL-YEORINHIEUH-HIEUH;KAPYEOUNRIEUL;MIEUM-NIEUN
MIEUM-SSANGNIEUN;SSANGMIEUM;MIEUM-PIEUP-SIOS;MIEUM-CIEUC;PIEUP-TIKEUT;PIEUP-RIEUL-PHIEUPH
PIEUP-MIEUM;SSANGPIEUP;PIEUP-SIOS-TIKEUT;PIEUP-CIEUC;PIEUP-CHIEUCH;SIOS-MIEUM;SIOS-KAPYEOUNPIEUP
SSANGSIOS-KIYEOK;SSANGSIOS-TIKEUT;SIOS-PANSIOS;SIOS-CIEUC;SIOS-CHIEUCH;SIOS-THIEUTH;SIOS-HIEUH
PANSIOS-PIEUP;PANSIOS-KAPYEOUNPIEUP;YESIEUNG-MIEUM;YESIEUNG-HIEUH;CIEUC-PIEUP;CIEUC-SSANGPIEUP
SSANGCIEUC;PHIEUPH-SIOS;PHIEUPH-THIEUTH"⟩ ]

end TagTree.Text
