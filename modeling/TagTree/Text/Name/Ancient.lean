import TagTree.Text.Name.Basic

/-!
# Names of characters: ancient scripts

From Linear B to the hieroglyphs, cuneiform among them.
-/

namespace TagTree.Text

/-- The runs of named characters from 0x10000 to 0x167ff. -/
def ancientNames : List NameRun :=
  [ ⟨0x10000, "LINEAR B SYLLABLE B008 A;3B038 E;B028 I;B061 O;B010 U;B001 DA;B045 DE;B007 DI
B014 DO;B051 DU;B057 JA;B046 JE"⟩,
    ⟨0x1000d, "LINEAR B SYLLABLE B036 JO;3B065 JU;B077 KA;B044 KE;B067 KI;B070 KO;B081 KU;B080 MA
B013 ME;B073 MI;B015 MO;B023 MU;B006 NA;B024 NE;B030 NI;B052 NO;B055 NU;B003 PA;B072 PE;B039 PI
B011 PO;B050 PU;B016 QA;B078 QE;B021 QI;B032 QO"⟩,
    ⟨0x10028, "LINEAR B SYLLABLE B060 RA;3B027 RE;B053 RI;B002 RO;B026 RU;B031 SA;B009 SE;B041 SI
B012 SO;B058 SU;B059 TA;B004 TE;B037 TI;B005 TO;B069 TU;B054 WA;B075 WE;B040 WI;B042 WO"⟩,
    ⟨0x1003c, "LINEAR B SYLLABLE B017 ZA;3B074 ZE"⟩,
    ⟨0x1003f, "LINEAR B SYLLABLE B020 ZO;3B025 A2;B043 A3;B085 AU;B071 DWE;B090 DWO;B048 NWA
B029 PU2;B062 PTE;B076 RA2;B033 RA3;B068 RO2;B066 TA2;B087 TWE;B091 TWO"⟩,
    ⟨0x10050, "LINEAR B SYMBOL B018;+1;3B022;B034;B047;B049;B056;B063;+1;B079;B082;+1;B086;B089"⟩,
    ⟨0x10080, "LINEAR B IDEOGRAM B100 MAN;3B102 WOMAN;B104 DEER;B105 EQUID;B105F MARE
B105M STALLION;B106F EWE;B106M RAM;B107F SHE-GOAT;B107M HE-GOAT;B108F SOW;B108M BOAR;B109F COW
B109M BULL;B120 WHEAT;B121 BARLEY;B122 OLIVE;B123 SPICE;B125 CYPERUS;2MONOGRAM B127 KAPO
3B128 KANAKO;2IDEOGRAM B130 OIL;3B131 WINE;B132;2MONOGRAM B133 AREPA;3B135 MERI
2IDEOGRAM B140 BRONZE;3B141 GOLD;B142;B145 WOOL;B146;B150;B151 HORN;B152;+2;2MONOGRAM B156 TURO2
IDEOGRAM B157;+1;3B159 CLOTH;B160;+1;B162 GARMENT;B163 ARMOUR;B164;+8;B173 MONTH;B174;B176 TREE
B177;+8;B189;+1;B191 HELMET;B220 FOOTSTOOL;B225 BATHTUB;B230 SPEAR;B231 :;B232;B233 SWORD;B234
B236;B240 WHEELED CHARIOT;aB241;B242 CHARIOT FRAME;B243 WHEEL;B245;+1;2MONOGRAM B247 DIPTE
IDEOGRAM B248;+1;3B251;+2;B254 DART;B255;+4;VESSEL B155;4B200;+19;B221;+1;B226;+3;B250;B305"⟩,
    ⟨0x10100, "AEGEAN WORD SEPARATOR LINE;3DOT;1CHECK MARK"⟩,
    ⟨0x10107, "AEGEAN NUMBER ONE;2TWO;%;FOUR;FIVE;SIX;SEVEN;EIGHT;NINE;TEN;TWENTY;THIRTY;FORTY
FIFTY;SIXTY;SEVENTY;EIGHTY;NINETY;ONE HUNDRED;aTWO;a%;aFOUR;aFIVE;aSIX;aSEVEN;aEIGHT;aNINE
ONE THOUSAND;aTWO;a%;aFOUR;aFIVE;aSIX;aSEVEN;aEIGHT;aNINE;aTEN;aTWENTY;aTHIRTY;aFORTY;aFIFTY
aSIXTY;aSEVENTY;aEIGHTY;aNINETY"⟩,
    ⟨0x10137, "AEGEAN WEIGHT BASE UNIT;2FIRST SUBUNIT;aSECOND;aTHIRD;aFOURTH;1aDRY MEASURE FIRST
cLIQUID;aMEASURE SECOND;2aTHIRD;0GREEK ACROPHONIC ATTIC ONE QUARTER;4HALF;DRACHMA;3FIVE;FIFTY
FIVE HUNDRED;4THOUSAND;3aFIFTY;FIVE TALENTS;aTEN;aFIFTY;aONE HUNDRED;bFIVE;aONE THOUSAND;bFIVE
4STATERS;3aTEN;aFIFTY;aONE HUNDRED;bFIVE;aONE THOUSAND;bTEN;bFIFTY;TEN MNAS;2HERAEUM ONE PLETHRON
THESPIAN ONE;aHERMIONIAN;EPIDAUREAN TWO;aTHESPIAN;CYRENAIC TWO DRACHMAS;bEPIDAUREAN
TROEZENIAN FIVE;3TEN;4ALTERNATE FORM;2HERMIONIAN TEN;aMESSENIAN;aTHESPIAN;3THIRTY
2TROEZENIAN FIFTY;4ALTERNATE FORM;2HERMIONIAN FIFTY;aTHESPIAN;3ONE HUNDRED;a%;2aEPIDAUREAN FIVE
bTROEZENIAN;bTHESPIAN;bCARYSTIAN;bNAXIAN;THESPIAN ONE THOUSAND;3aFIVE;2DELPHIC FIVE MNAS
aSTRATIAN FIFTY;1ONE HALF $;4ALTERNATE FORM;1TWO THIRDS $;a% QUARTERS;aYEAR;aTALENT;aDRACHMA
aOBOL;aTWO OBOLS;b%;bFOUR;bFIVE;aMETRETES;aKYATHOS BASE;aLITRA;aOUNKIA;aXESTES;aARTABE;aAROURA
aGRAMMA;aTRYBLION BASE;aZERO;aONE QUARTER;aSINUSOID;aINDICTION;0aNOMISMA"⟩,
    ⟨0x10190, "ROMAN SEXTANS $;1aUNCIA;aSEMUNCIA;aSEXTULA;bDIMIDIA;aSILIQUA;aDENARIUS;aQUINARIUS
aSESTERTIUS;aDUPONDIUS;aAS;aCENTURIAL;0ASCIA SYMBOL"⟩,
    ⟨0x101a0, "GREEK SYMBOL TAU RHO"⟩,
    ⟨0x101d0, "PHAISTOS DISC $ PEDESTRIAN;3PLUMED HEAD;aTATTOOED;CAPTIVE;CHILD;WOMAN;HELMET
GAUNTLET;TIARA;:;BOW;SHIELD;CLUB;MANACLES;MATTOCK;SAW;LID;BOOMERANG;CARPENTRY PLANE;DOLIUM;COMB
SLING;COLUMN;BEEHIVE;SHIP;HORN;HIDE;BULLS LEG;CAT;RAM;EAGLE;DOVE;TUNNY;BEE;PLANE TREE;VINE
PAPYRUS;ROSETTE;LILY;OX BACK;FLUTE;GRATER;STRAINER;_ AXE;WAVY BAND;COMBINING OBLIQUE STROKE"⟩,
    ⟨0x10280, "LYCIAN . A;2E;B;BH;G;D;I;W;Z;TH;J;+1;Q;L;+2;MM;NN;U;P;KK;R;+2;TT;AN;EN;H;X"⟩,
    ⟨0x102a0, "CARIAN . A;2P2;D;L;UUU;R;LD;A2;Q;B;M;O;D2;T;SH;SH2;S;C-18;U;NN;X;N;TT2;P;SS;I;E
UUUU;K;K2;ND;UU;G;G2;ST;ST2;NG;II;C-39;TT;UUU2;RR;MB;MB2;+2;LD2;E2;UUU3"⟩,
    ⟨0x102e0, "COPTIC EPACT THOUSANDS MARK;2DIGIT ONE;3TWO;%;FOUR;FIVE;SIX;SEVEN;EIGHT;NINE
2NUMBER TEN;3TWENTY;THIRTY;FORTY;FIFTY;SIXTY;SEVENTY;EIGHTY;NINETY;ONE HUNDRED;aTWO;a%;aFOUR
aFIVE;aSIX;aSEVEN;aEIGHT;aNINE"⟩,
    ⟨0x10300, "OLD ITALIC . A;3BE;KE;DE;E;VE;ZE;HE;THE;I;KA;EL;+2;ESH;O;PE;SHE;KU;ER;+1;TE;U;EKS
PHE;KHE;EF;ERS;CHE;II;UU;ESS;2NUMERAL ONE;3FIVE;TEN;FIFTY"⟩,
    ⟨0x1032d, "OLD ITALIC . YE;3NORTHERN TSE;aSOUTHERN;0GOTHIC . AHSA;2BAIRKAN;GIBA;DAGS;AIHVUS
QAIRTHRA;IUJA;HAGL;THIUTH;EIS;KUSMA;LAGUS;MANNA;NAUTHS;JER;URUS;PAIRTHRA;NINETY;RAIDA;SAUIL;TEIWS
WINJA;FAIHU;IGGWS;HWAIR;OTHAL;NINE HUNDRED"⟩,
    ⟨0x10350, "OLD PERMIC . AN;3BUR;GAI;DOI;E;ZHOI;DZHOI;ZATA;DZITA;I;KOKE;LEI;MENOE;NENOE;VOOI
PEEI;REI;SII;TAI;U;CHERY;SHOOI;SHCHOOI;YRY;YERU;O;OO;EF;HA;TSIU;VER;YER;YERI;YAT;IE;YU;YA;IA
0COMBINING OLD PERMIC . AN;4DOI;ZATA;NENOE;SII"⟩,
    ⟨0x10380, "UGARITIC . ALPA;2BETA;GAMLA;KHA;DELTA;HO;WO;ZETA;HOTA;TET;YOD;KAF;SHIN;LAMDA;MEM
DHAL;NUN;ZU;SAMKA;AIN;PU;SADE;QOPA;RASHA;THANNA;GHAIN;TO;I;U;SSU"⟩,
    ⟨0x1039f, "UGARITIC WORD DIVIDER;OLD PERSIAN $ A;3I;U;KA;KU;GA;GU;XA;CA;JA;JI;TA;TU;DA;DI;DU
THA;PA;BA;FA;NA;NU;MA;MI;MU;YA;VA;VI;RA;RU;LA;SA;ZA;SHA;SSA;HA"⟩,
    ⟨0x103c8, "OLD PERSIAN $ AURAMAZDAA;3AURAMAZDAA-2;AURAMAZDAAHA;XSHAAYATHIYA;DAHYAAUSH
DAHYAAUSH-2;BAGA;BUUMISH;2WORD DIVIDER;NUMBER ONE;3TWO;TEN;TWENTY;HUNDRED"⟩,
    ⟨0x10400, "DESERET ^ . LONG I;4E;A;AH;O;OO;3SHORT I;4E;A;AH;O;OO;3AY;OW;WU;YEE;H;PEE;BEE;TEE
DEE;CHEE;JEE;KAY;GAY;EF;VEE;ETH;THEE;ES;ZEE;ESH;ZHEE;ER;EL;+2;ENG;OI;EW;1_ . LONG I;4E;A;AH;O;OO
3SHORT I;4E;A;AH;O;OO;3AY;OW;WU;YEE;H;PEE;BEE;TEE;DEE;CHEE;JEE;KAY;GAY;EF;VEE;ETH;THEE;ES;ZEE;ESH
ZHEE;ER;EL;+2;ENG;OI;EW;0SHAVIAN . PEEP;2TOT;KICK;FEE;THIGH;SO;SURE;CHURCH;YEA;HUNG;BIB;DEAD;GAG
VOW;THEY;ZOO;MEASURE;JUDGE;WOE;HA-HA;LOLL;MIME;IF;EGG;ASH;ADO;ON;WOOL;OUT;AH;ROAR;NUN;EAT;AGE;ICE
UP;OAK;OOZE;OIL;AWE;ARE;OR;AIR;ERR;ARRAY;EAR;IAN;YEW;0OSMANYA . ALEF;2BA;TA;JA;XA;KHA;DEEL;RA;SA
SHIIN;DHA;CAYN;GA;FA;QAAF;KAAF;LAAN;MIIN;NUUN;WAW;HA;YA;A;E;I;O;U;AA;EE;OO"⟩,
    ⟨0x104a0, "OSMANYA DIGIT ZERO;2ONE;TWO;%;FOUR;FIVE;SIX;SEVEN;EIGHT;NINE"⟩,
    ⟨0x104b0, "OSAGE ^ . A;3AI;AIN;AH;BRA;CHA;EHCHA;E;EIN;HA;HYA;I;KA;EHKA;KYA;LA;MA;NA;O;OIN;PA
EHPA;SA;SHA;TA;EHTA;TSA;EHTSA;TSHA;DHA;U;WA;KHA;GHA;ZA;ZHA"⟩,
    ⟨0x104d8, "OSAGE _ . A;3AI;AIN;AH;BRA;CHA;EHCHA;E;EIN;HA;HYA;I;KA;EHKA;KYA;LA;MA;NA;O;OIN;PA
EHPA;SA;SHA;TA;EHTA;TSA;EHTSA;TSHA;DHA;U;WA;KHA;GHA;ZA;ZHA"⟩,
    ⟨0x10500, "ELBASAN . A;2BE;CE;CHE;DE;NDE;DHE;EI;E;FE;GE;GJE;HE;I;JE;KE;LE;LLE;ME;NE;NA;NJE;O
PE;QE;RE;RRE;SE;SHE;TE;THE;U;VE;XE;Y;ZE;ZHE;GHE;GHAMMA;KHE"⟩,
    ⟨0x10530, "CAUCASIAN ALBANIAN . ALT;3BET;GIM;DAT;EB;ZARL;EYN;ZHIL;TAS;CHA;YOWD;ZHA;IRB;SHA
LAN;INYA;XEYN;DYAN;CAR;JHOX;KAR;LYIT;HEYT;QAY;AOR;CHOY;CHI;CYAY;MAQ;QAR;NOWC;DZYAY;SHAK;JAYN;ON
TYAY;FAM;DZAY;CHAT;PEN;GHEYS;RAT;SEYK;VEYZ;TIWR;SHOY;IWN;CYAW;CAYN;YAYD;PIWR;KIW"⟩,
    ⟨0x1056f, "CAUCASIAN ALBANIAN CITATION MARK;VITHKUQI ^ . A;3BBE;BE;CE;CHE;DE;DHE;EI;E;FE;GA"⟩,
    ⟨0x1057c, "VITHKUQI ^ . HA;3HHA;I;IJE;JE;KA;LA;LLA;ME;NE;NJE;O;PE;QA;RE"⟩,
    ⟨0x1058c, "VITHKUQI ^ . SE;3SHE;TE;THE;U;VE;XE"⟩,
    ⟨0x10594, "VITHKUQI ^ . Y;3ZE"⟩,
    ⟨0x10597, "VITHKUQI _ . A;3BBE;BE;CE;CHE;DE;DHE;EI;E;FE;GA"⟩,
    ⟨0x105a3, "VITHKUQI _ . HA;3HHA;I;IJE;JE;KA;LA;LLA;ME;NE;NJE;O;PE;QA;RE"⟩,
    ⟨0x105b3, "VITHKUQI _ . SE;3SHE;TE;THE;U;VE;XE"⟩,
    ⟨0x105bb, "VITHKUQI _ . Y;3ZE"⟩,
    ⟨0x10600, "LINEAR A $ AB001;+10;3AB013;AB016;+1;AB020;+1;AB021F;AB021M;AB022;AB022F;AB022M
AB023;AB023M;AB024;AB026;+2;A028B;AB029;+2;AB034;AB037;+4;AB044;+7;AB053;+8;AB065;+2;AB069;+1
AB073;+1;AB076;+6;AB085;+2;A100-102;AB118;AB120;A120B;AB122;+1;AB131A;+1;A131C;AB164;AB171;AB180
AB188;AB191;A301;+7;A309A;+2;A310;+2;A313A;+2;A314;+57;A400-VAS;A401-VAS;A402-VAS;A403-VAS
A404-VAS;A405-VAS;A406-VAS;A407-VAS;A408-VAS;A409-VAS;A410-VAS;A411-VAS;A412-VAS;A413-VAS
A414-VAS;A415-VAS;A416-VAS;A417-VAS;A418-VAS;A501;+5;A508;+5;A515;+1;A520;+1;A523;+9;A534;+8;A545
A547;+10;A559;A563;+3;A568;+21;A591;+1;A594;+2;A598;A600;+4;A606;A608;+16;A626;+3;A634;A637;+1
A640;A642;+4;A648;+1;A651;+13"⟩,
    ⟨0x10740, "LINEAR A $ A701 A;3A702 B;A703 D;A704 E;A705 F;A706 H;A707 J;A708 K;A709 L
A709-2 L2;A709-3 L3;A709-4 L4;A709-6 L6;A710 W;A711 X;A712 Y;A713 OMEGA;A714 ABB;A715 BB;A717 DD
A726 EYYY;A732 JE"⟩,
    ⟨0x10760, "LINEAR A $ A800;+7"⟩,
    ⟨0x10780, "MODIFIER . _ ^ AA;2SUPERSCRIPT TRIANGULAR COLON;3bHALF;2_ AE;3^ B;B & HOOK"⟩,
    ⟨0x10787, "MODIFIER . _ DZ DIGRAPH;5& RETROFLEX HOOK;6CURL;3DEZH DIGRAPH;D & TAIL;5HOOK
6? TAIL;3REVERSED E;aCLOSED REVERSED OPEN;FENG DIGRAPH;RAMS HORN;^ G;G & HOOK;c^;H & STROKE;^ H
HENG & HOOK;aDOTLESS J & STROKE ?;LS DIGRAPH;aLZ;L & BELT;c^;aL & RETROFLEX HOOK ?;LEZH
4& RETROFLEX HOOK;3TURNED Y;5& BELT;3O & STROKE;^ OE;CLOSED OMEGA;Q;TURNED R & LONG LEG
8? RETROFLEX HOOK;3R & TAIL;5FISHHOOK;3^ R;TC DIGRAPH & CURL;TS DIGRAPH;5& RETROFLEX HOOK
3TESH DIGRAPH;T & RETROFLEX HOOK;aV & >"⟩,
    ⟨0x107b2, "MODIFIER . _ ^ Y;2GLOTTAL STOP & STROKE;dREVERSED;BILABIAL CLICK;aDENTAL;aLATERAL
aALVEOLAR;RETROFLEX CLICK & RETROFLEX HOOK;_ S & CURL"⟩,
    ⟨0x10800, "CYPRIOT SYLLABLE A;2E;I;O;U;JA"⟩,
    ⟨0x10808, "CYPRIOT SYLLABLE JO"⟩,
    ⟨0x1080a, "CYPRIOT SYLLABLE KA;2KE;KI;KO;KU;LA;LE;LI;LO;LU;MA;ME;MI;MO;MU;NA;NE;NI;NO;NU;PA
PE;PI;PO;PU;RA;RE;RI;RO;RU;SA;SE;SI;SO;SU;TA;TE;TI;TO;TU;WA;WE;WI;WO"⟩,
    ⟨0x10837, "CYPRIOT SYLLABLE XA;2XE"⟩,
    ⟨0x1083c, "CYPRIOT SYLLABLE ZA"⟩,
    ⟨0x1083f, "CYPRIOT SYLLABLE ZO;IMPERIAL ARAMAIC . ALEPH;3BETH;GIMEL;DALETH;HE;WAW;ZAYIN;HETH
TETH;YODH;KAPH;LAMEDH;MEM;NUN;SAMEKH;AYIN;PE;SADHE;QOPH;RESH;SHIN;TAW"⟩,
    ⟨0x10857, "IMPERIAL ARAMAIC SECTION $;2NUMBER ONE;3TWO;%;TEN;TWENTY;ONE HUNDRED;4THOUSAND
3aTEN;0PALMYRENE . ALEPH;2BETH;GIMEL;DALETH;HE;WAW;ZAYIN;HETH;TETH;YODH;KAPH;LAMEDH;MEM;) NUN;NUN
SAMEKH;AYIN;PE;SADHE;QOPH;RESH;SHIN;TAW;1LEFT-POINTING FLEURON;aRIGHT-POINTING;NUMBER ONE;2TWO;%
FOUR;FIVE;TEN;TWENTY;0NABATAEAN . ) ALEPH;1a.;2) BETH;1a.;2GIMEL;DALETH;) HE;HE;WAW;ZAYIN;HETH
TETH;) YODH;1a.;2) KAPH;1a.;2) LAMEDH;1a.;2) MEM;MEM;) NUN;NUN;SAMEKH;AYIN;PE;SADHE;QOPH;RESH
) SHIN;1a.;2TAW"⟩,
    ⟨0x108a7, "NABATAEAN NUMBER ONE;2TWO;%;FOUR;1bCRUCIFORM;NUMBER FIVE;2TEN;TWENTY;ONE HUNDRED"⟩,
    ⟨0x108e0, "HATRAN . ALEPH;2BETH;GIMEL;DALETH-RESH;HE;WAW;ZAYN;HETH;TETH;YODH;KAPH;LAMEDH;MEM
NUN;SAMEKH;AYN;PE;SADHE;QOPH"⟩,
    ⟨0x108f4, "HATRAN . SHIN;2TAW"⟩,
    ⟨0x108fb, "HATRAN NUMBER ONE;2FIVE;TEN;TWENTY;ONE HUNDRED;0PHOENICIAN . ALF;2BET;GAML;DELT;HE
WAU;ZAI;HET;TET;YOD;KAF;LAMD;MEM;NUN;SEMK;AIN;PE;SADE;QOF;ROSH;SHIN;TAU;1NUMBER ONE;2TEN;TWENTY
ONE HUNDRED;TWO;%"⟩,
    ⟨0x1091f, "PHOENICIAN WORD SEPARATOR;LYDIAN . A;+1;2G;D;+1;V;I;Y;K;+4;R;SS;T;+1;F;Q;S;TT;AN
EN;LY;NN;C"⟩,
    ⟨0x1093f, "LYDIAN TRIANGULAR MARK"⟩,
    ⟨0x10980, "MEROITIC HIEROGLYPHIC . A;3E;I;O;YA;WA;BA;BA-2;PA;MA;NA;NA-2;NE;NE-2;RA;RA-2;LA
KHA;HHA;SA;SA-2;SE;KA;QA;TA;TA-2;TE;TE-2;TO;DA;2SYMBOL VIDJ;3VIDJ-2;1CURSIVE . A;3E;I;O;YA;WA;BA
PA;MA;NA;NE;RA;LA;KHA;HHA;SA;aARCHAIC;SE;KA;QA;TA;TE;TO;DA"⟩,
    ⟨0x109bc, "MEROITIC CURSIVE FRACTION ELEVEN TWELFTHS;3ONE HALF;2LOGOGRAM RMT;3IMN;2NUMBER ONE
3TWO;%;FOUR;FIVE;SIX;SEVEN;EIGHT;NINE;TEN;TWENTY;THIRTY;FORTY;FIFTY;SIXTY;SEVENTY"⟩,
    ⟨0x109d2, "MEROITIC CURSIVE NUMBER ONE HUNDRED;3aTWO;a%;aFOUR;aFIVE;aSIX;aSEVEN;aEIGHT;aNINE
ONE THOUSAND;aTWO;a%;aFOUR;aFIVE;aSIX;aSEVEN;aEIGHT;aNINE;aTEN;aTWENTY;aTHIRTY;aFORTY;aFIFTY
aSIXTY;aSEVENTY;aEIGHTY;aNINETY;aONE HUNDRED;bTWO;b%;bFOUR;bFIVE;bSIX;bSEVEN;bEIGHT;bNINE
2FRACTION ONE TWELFTH;3TWO TWELFTHS;a%;aFOUR;aFIVE;aSIX;aSEVEN;aEIGHT;aNINE;aTEN;0KHAROSHTHI . A
1VOWEL $ I;3U;VOCALIC R"⟩,
    ⟨0x10a05, "KHAROSHTHI VOWEL $ E;3O"⟩,
    ⟨0x10a0c, "KHAROSHTHI VOWEL LENGTH MARK;1$ = RING BELOW;2ANUSVARA;VISARGA;1. KA;2KHA;GA;GHA"⟩,
    ⟨0x10a15, "KHAROSHTHI . CA;2CHA;JA"⟩,
    ⟨0x10a19, "KHAROSHTHI . NYA;2TTA;TTHA;DDA;DDHA;NNA;TA;THA;DA;DHA;NA;PA;PHA;BA;BHA;MA;YA;RA;LA
VA;SHA;SSA;SA;ZA;HA;KKA;TTTHA;TTTA;VHA"⟩,
    ⟨0x10a38, "KHAROSHTHI $ BAR *;2CAUDA;DOT BELOW"⟩,
    ⟨0x10a3f, "KHAROSHTHI VIRAMA;1DIGIT ONE;2TWO;%;FOUR;1NUMBER TEN;2TWENTY;ONE HUNDRED;3THOUSAND
1FRACTION ONE HALF"⟩,
    ⟨0x10a50, "KHAROSHTHI PUNCTUATION DOT;2_ CIRCLE;CIRCLE;CRESCENT BAR;MANGALAM;LOTUS;DANDA;a=
LINES"⟩,
    ⟨0x10a60, "OLD SOUTH ARABIAN . HE;4LAMEDH;HETH;MEM;QOPH;WAW;SHIN;RESH;BETH;TAW;SAT;KAPH;NUN
KHETH;SADHE;SAMEKH;FE;ALEF;AYN;DHADHE;GIMEL;DALETH;GHAYN;TETH;ZAYN;DHALETH;YODH;THAW;THETH
3NUMBER ONE;4FIFTY;3NUMERIC INDICATOR;1NORTH ARABIAN . HEH;4LAM;HAH;MEEM;QAF;WAW;ES-2;REH;BEH;TEH
ES-1;KAF;NOON;KHAH;SAD;ES-3;FEH;ALEF;AIN;DAD;GEEM;DAL;GHAIN;TAH;ZAIN;THAL;YEH;THEH;ZAH
3NUMBER ONE;4TEN;TWENTY"⟩,
    ⟨0x10ac0, "MANICHAEAN . ALEPH;2BETH;BHETH;GIMEL;GHIMEL;DALETH;HE;WAW;1$ UD;. ZAYIN;2ZHAYIN
JAYIN;JHAYIN;HETH;TETH;YODH;KAPH;XAPH;KHAPH;LAMEDH;DHAMEDH;THAMEDH;MEM;NUN;SAMEKH;AYIN;AAYIN;PE
FE;SADHE;QOPH;XOPH;QHOPH;RESH;SHIN;SSHIN;TAW;1ABBREVIATION MARK *;3BELOW"⟩,
    ⟨0x10aeb, "MANICHAEAN NUMBER ONE;2FIVE;TEN;TWENTY;ONE HUNDRED;1PUNCTUATION STAR;2FLEURON
= DOT WITHIN DOT;bDOT;DOT;TWO DOTS;LINE FILLER"⟩,
    ⟨0x10b00, "AVESTAN . A;2AA;AO;AAO;AN;AAN;AE;AEE;E;EE;O;OO;I;II;U;UU;KE;XE;XYE;XVE;GE;GGE;GHE
CE;JE;TE;THE;DE;DHE;TTE;PE;FE;BE;BHE;NGE;NGYE;NGVE;NE;NYE;NNE;ME;HME;YYE;YE;VE;RE;LE;SE;ZE;SHE
ZHE;SHYE;SSHE;HE"⟩,
    ⟨0x10b39, "AVESTAN ABBREVIATION MARK;TINY TWO DOTS OVER ONE DOT PUNCTUATION;f_;fLARGE
1aONE DOT OVER TWO DOTS;aTWO RINGS OVER ONE RING;aONE RING OVER TWO RINGS
0INSCRIPTIONAL PARTHIAN . ALEPH;3BETH;GIMEL;DALETH;HE;WAW;ZAYIN;HETH;TETH;YODH;KAPH;LAMEDH;MEM
NUN;SAMEKH;AYIN;PE;SADHE;QOPH;RESH;SHIN;TAW"⟩,
    ⟨0x10b58, "INSCRIPTIONAL PARTHIAN NUMBER ONE;3TWO;%;FOUR;TEN;TWENTY;ONE HUNDRED;4THOUSAND
1PAHLAVI . ALEPH;3BETH;GIMEL;DALETH;HE;WAW-AYIN-RESH;ZAYIN;HETH;TETH;YODH;KAPH;LAMEDH;MEM-QOPH
NUN;SAMEKH;PE;SADHE;SHIN;TAW"⟩,
    ⟨0x10b78, "INSCRIPTIONAL PAHLAVI NUMBER ONE;3TWO;%;FOUR;TEN;TWENTY;ONE HUNDRED;4THOUSAND
0PSALTER PAHLAVI . ALEPH;3BETH;GIMEL;DALETH;HE;WAW-AYIN-RESH;ZAYIN;HETH;YODH;KAPH;LAMEDH;MEM-QOPH
NUN;SAMEKH;PE;SADHE;SHIN;TAW"⟩,
    ⟨0x10b99, "PSALTER PAHLAVI SECTION MARK;2bTURNED;FOUR DOTS & CROSS;5DOT"⟩,
    ⟨0x10ba9, "PSALTER PAHLAVI NUMBER ONE;3TWO;%;FOUR;TEN;TWENTY;ONE HUNDRED"⟩,
    ⟨0x10c00, "OLD TURKIC . ORKHON A;3aYENISEI;4AE;3ORKHON I;aYENISEI;4E;3ORKHON O;4OE;3aYENISEI
ORKHON AB;aYENISEI;ORKHON AEB;aYENISEI;ORKHON AG;aYENISEI;ORKHON AEG;aYENISEI;ORKHON AD;aYENISEI
ORKHON AED;4EZ;3aYENISEI;ORKHON AY;aYENISEI;ORKHON AEY;aYENISEI;ORKHON AEK;aYENISEI;ORKHON OEK
aYENISEI;ORKHON AL;aYENISEI;ORKHON AEL;4ELT;EM;AN;AEN;3aYENISEI;ORKHON ENT;aYENISEI;ORKHON ENC
aYENISEI;ORKHON ENY;aYENISEI;4ANG;3ORKHON ENG;YENISEI AENG;ORKHON EP;4OP;IC;EC;3aYENISEI
ORKHON AQ;aYENISEI;ORKHON IQ;aYENISEI;ORKHON OQ;aYENISEI;ORKHON AR;aYENISEI;ORKHON AER;4AS;AES
ASH;3aYENISEI;ORKHON ESH;aYENISEI;ORKHON AT;aYENISEI;ORKHON AET;aYENISEI;ORKHON OT;4BASH"⟩,
    ⟨0x10c80, "OLD HUNGARIAN ^ . A;4AA;EB;AMB;EC;ENC;ECS;ED;?;E;aCLOSE;EE;+2;EGY;EH;I;II;EJ;+1;AK
UNK;EL;ELY;EM;+1;ENY;O;OO;NIKOLSBURG OE;aRUDIMENTA;OEE;EP;EMP;ER;aSHORT;ES;ESZ;ET;ENT;ETY;ECH;U
UU;NIKOLSBURG UE;aRUDIMENTA;EV;EZ;EZS;ENT-SHAPED $;US"⟩,
    ⟨0x10cc0, "OLD HUNGARIAN _ . A;4AA;EB;AMB;EC;ENC;ECS;ED;?;E;aCLOSE;EE;+2;EGY;EH;I;II;EJ;+1;AK
UNK;EL;ELY;EM;+1;ENY;O;OO;NIKOLSBURG OE;aRUDIMENTA;OEE;EP;EMP;ER;aSHORT;ES;ESZ;ET;ENT;ETY;ECH;U
UU;NIKOLSBURG UE;aRUDIMENTA;EV;EZ;EZS;ENT-SHAPED $;US"⟩,
    ⟨0x10cfa, "OLD HUNGARIAN NUMBER ONE;3FIVE;TEN;FIFTY;ONE HUNDRED;4THOUSAND
0HANIFI ROHINGYA . A;3BA;PA;TA;TTA;JA;CA;HA;KHA;FA;DA;DDA;RA;RRA;ZA;SA;SHA;KA;GA;LA;MA;NA;WA
aKINNA;YA;aKINNA;NGA;NYA;VA;2VOWEL A;3I;U;E;O;2MARK SAKIN;3NA KHONNA;2$ HARBAHAY;3TAHALA;TANA
TASSI"⟩,
    ⟨0x10d30, "HANIFI ROHINGYA DIGIT ZERO;3ONE;TWO;%;FOUR;FIVE;SIX;SEVEN;EIGHT;NINE"⟩,
    ⟨0x10e60, "RUMI DIGIT ONE;2TWO;%;FOUR;FIVE;SIX;SEVEN;EIGHT;NINE;1NUMBER TEN;2TWENTY;THIRTY
FORTY;FIFTY;SIXTY;SEVENTY;EIGHTY;NINETY;ONE HUNDRED;aTWO;a%;aFOUR;aFIVE;aSIX;aSEVEN;aEIGHT;aNINE
1FRACTION ONE HALF;3QUARTER;THIRD;2TWO THIRDS"⟩,
    ⟨0x10e80, "YEZIDI . ELIF;2BE;PE;PHE;THE;SE;CIM;CHIM;CHHIM;HHA;XA;DAL;ZAL;RA;RHA;ZA;JA;SIN
SHIN;SAD;DAD;TA;ZE;EYN;XHEYN;FA;VA;3ALTERNATE FORM;2QAF;KAF;KHAF;GAF;LAM;MIM;NUN;UM;WAW;OW;EW;HAY
YOT;ET"⟩,
    ⟨0x10eab, "YEZIDI COMBINING HAMZA MARK;2aMADDA;1aHYPHENATION"⟩,
    ⟨0x10eb0, "YEZIDI . LAM & DOT *;2aYOT & CIRCUMFLEX"⟩,
    ⟨0x10f00, "OLD SOGDIAN . ALEPH;3a);BETH;a);GIMEL;HE;a);WAW;ZAYIN;HETH;YODH;KAPH;LAMEDH;MEM
NUN;a);5& ! TAIL;3SAMEKH;AYIN;aALTERNATE;PE;SADHE;a);5& ! TAIL;3RESH-AYIN-DALETH;SHIN;TAW;a)
5& ! TAIL;2NUMBER ONE;3TWO;%;FOUR;FIVE;TEN;TWENTY;THIRTY;ONE HUNDRED;2FRACTION ONE HALF
LIGATURE AYIN-DALETH"⟩,
    ⟨0x10f30, "SOGDIAN . ALEPH;2BETH;GIMEL;HE;WAW;ZAYIN;HETH;YODH;KAPH;LAMEDH;MEM;NUN;SAMEKH;AYIN
PE;SADHE;RESH-AYIN;SHIN;TAW;FETH;LESH;1INDEPENDENT SHIN;COMBINING DOT BELOW;2aTWO DOTS;DOT *
aTWO DOTS;aCURVE;3BELOW;2HOOK *;3BELOW;2bLONG;aRESH;aSTROKE;1NUMBER ONE;2TEN;TWENTY;ONE HUNDRED
1PUNCTUATION TWO ! BARS;5& DOTS;2CIRCLE & DOT;TWO CIRCLES & DOTS;HALF CIRCLE & DOT"⟩,
    ⟨0x10f70, "OLD UYGHUR . ALEPH;3BETH;GIMEL-HETH;WAW;ZAYIN;) HETH;YODH;KAPH;LAMEDH;MEM;NUN
SAMEKH;PE;SADHE;RESH;SHIN;TAW;LESH;2COMBINING DOT *;4BELOW;3TWO DOTS *;5BELOW;2PUNCTUATION BAR
3TWO BARS;4DOTS;3aFOUR"⟩,
    ⟨0x10fb0, "CHORASMIAN . ALEPH;2a_;BETH;GIMEL;DALETH;HE;WAW;aCURLED;ZAYIN;HETH;YODH;KAPH
LAMEDH;MEM;NUN;SAMEKH;AYIN;PE;RESH;SHIN;TAW;1NUMBER ONE;2TWO;%;FOUR;TEN;TWENTY;ONE HUNDRED"⟩,
    ⟨0x10fe0, "ELYMAIC . ALEPH;2BETH;GIMEL;DALETH;HE;WAW;ZAYIN;HETH;TETH;YODH;KAPH;LAMEDH;MEM;NUN
SAMEKH;AYIN;PE;SADHE;QOPH;RESH;SHIN;TAW;1LIGATURE ZAYIN-YODH"⟩,
    ⟨0x11000, "BRAHMI $ CANDRABINDU;2ANUSVARA;VISARGA;JIHVAMULIYA;UPADHMANIYA;1. A;2AA;I;II;U;UU
VOCALIC R;3RR;L;LL;2E;AI;O;AU;KA;KHA;GA;GHA;NGA;CA;CHA;JA;JHA;NYA;TTA;TTHA;DDA;DDHA;NNA;TA;THA;DA
DHA;NA;PA;PHA;BA;BHA;MA;YA;RA;LA;VA;SHA;SSA;SA;HA;LLA;OLD TAMIL LLLA;4RRA;NNNA;1VOWEL $ AA
3aBHATTIPROLU;I;II;U;UU;VOCALIC R;4RR;L;LL;3E;AI;O;AU;1VIRAMA;DANDA;a=;PUNCTUATION DOT;2a=;LINE
CRESCENT BAR;LOTUS"⟩,
    ⟨0x11052, "BRAHMI NUMBER ONE;2TWO;%;FOUR;FIVE;SIX;SEVEN;EIGHT;NINE;TEN;TWENTY;THIRTY;FORTY
FIFTY;SIXTY;SEVENTY;EIGHTY;NINETY;ONE HUNDRED;3THOUSAND;1DIGIT ZERO;2ONE;TWO;%;FOUR;FIVE;SIX
SEVEN;EIGHT;NINE;1$ OLD TAMIL VIRAMA;. OLD TAMIL SHORT E;5O;1VOWEL $ OLD TAMIL SHORT E;6O
1. OLD TAMIL LLA"⟩,
    ⟨0x1107f, "BRAHMI NUMBER JOINER;KAITHI $ CANDRABINDU;2ANUSVARA;VISARGA;1. A;2AA;I;II;U;UU;E
AI;O;AU;KA;KHA;GA;GHA;NGA;CA;CHA;JA;JHA;NYA;TTA;TTHA;DDA;DDDHA;DDHA;RHA;NNA;TA;THA;DA;DHA;NA;PA
PHA;BA;BHA;MA;YA;RA;LA;VA;SHA;SSA;SA;HA;1VOWEL $ AA;3I;II;U;UU;E;AI;O;AU;1$ VIRAMA;2NUKTA
1ABBREVIATION $;aENUMERATION;aNUMBER;SECTION MARK;b=;DANDA;a=;VOWEL $ VOCALIC R"⟩,
    ⟨0x110cd, "KAITHI NUMBER $ *"⟩,
    ⟨0x110d0, "SORA SOMPENG . SAH;3TAH;BAH;CAH;DAH;GAH;MAH;NGAH;LAH;NAH;VAH;PAH;YAH;RAH;HAH;KAH
JAH;NYAH;AH;EEH;IH;UH;OH;EH;MAE"⟩,
    ⟨0x110f0, "SORA SOMPENG DIGIT ZERO;3ONE;TWO;%;FOUR;FIVE;SIX;SEVEN;EIGHT;NINE"⟩,
    ⟨0x11100, "CHAKMA $ CANDRABINDU;2ANUSVARA;VISARGA;1. AA;2I;U;E;KAA;KHAA;GAA;GHAA;NGAA;CAA
CHAA;JAA;JHAA;NYAA;TTAA;TTHAA;DDAA;DDHAA;NNAA;TAA;THAA;DAA;DHAA;NAA;PAA;PHAA;BAA;BHAA;MAA;YYAA
YAA;RAA;LAA;WAA;SAA;HAA;1VOWEL $ A;3I;II;U;UU;E;AI;O;AU;OI;1O MARK;aAU;VIRAMA;MAAYYAA"⟩,
    ⟨0x11136, "CHAKMA DIGIT ZERO;2ONE;TWO;%;FOUR;FIVE;SIX;SEVEN;EIGHT;NINE;1SECTION MARK;DANDA;a=
QUESTION MARK;. LHAA;VOWEL $ AA;3EI;1. VAA"⟩,
    ⟨0x11150, "MAHAJANI . A;2I;U;E;O;KA;KHA;GA;GHA;CA;CHA;JA;JHA;NYA;TTA;TTHA;DDA;DDHA;NNA;TA;THA
DA;DHA;NA;PA;PHA;BA;BHA;MA;RA;LA;VA;SA;HA;RRA;1$ NUKTA;ABBREVIATION $;SECTION MARK;LIGATURE SHRI"⟩,
    ⟨0x11180, "SHARADA $ CANDRABINDU;2ANUSVARA;VISARGA;1. A;2AA;I;II;U;UU;VOCALIC R;3RR;L;LL;2E
AI;O;AU;KA;KHA;GA;GHA;NGA;CA;CHA;JA;JHA;NYA;TTA;TTHA;DDA;DDHA;NNA;TA;THA;DA;DHA;NA;PA;PHA;BA;BHA
MA;YA;RA;LA;LLA;VA;SHA;SSA;SA;HA;1VOWEL $ AA;3I;II;U;UU;VOCALIC R;4RR;L;LL;3E;AI;O;AU;1$ VIRAMA
2AVAGRAHA;JIHVAMULIYA;UPADHMANIYA;1OM;DANDA;a=;ABBREVIATION $;SEPARATOR;SANDHI MARK;$ NUKTA
VOWEL MODIFIER MARK;aEXTRA SHORT VOWEL;aSUTRA;VOWEL $ PRISHTHAMATRA E;$ INVERTED CANDRABINDU
DIGIT ZERO;2ONE;TWO;%;FOUR;FIVE;SIX;SEVEN;EIGHT;NINE;1EKAM;$ SIDDHAM;HEADSTROKE;CONTINUATION $
SECTION MARK-1;+1"⟩,
    ⟨0x111e1, "SINHALA ARCHAIC DIGIT ONE;3TWO;%;FOUR;FIVE;SIX;SEVEN;EIGHT;NINE;2NUMBER TEN
3TWENTY;THIRTY;FORTY;FIFTY;SIXTY;SEVENTY;EIGHTY;NINETY;ONE HUNDRED;4THOUSAND"⟩,
    ⟨0x11200, "KHOJKI . A;2AA;I;U;E;AI;O;AU;KA;KHA;GA;GGA;GHA;NGA;CA;CHA;JA;JJA"⟩,
    ⟨0x11213, "KHOJKI . NYA;2TTA;TTHA;DDA;DDHA;NNA;TA;THA;DA;DDDA;DHA;NA;PA;PHA;BA;BBA;BHA;MA;YA
RA;LA;VA;SA;HA;LLA;1VOWEL $ AA;3I;II;U;E;AI;O;AU;1$ ANUSVARA;2VIRAMA;NUKTA;SHADDA;1DANDA;a=
WORD SEPARATOR;SECTION MARK;b=;ABBREVIATION $;$ SUKUN"⟩,
    ⟨0x11280, "MULTANI . A;2I;U;E;KA;KHA;GA"⟩,
    ⟨0x11288, "MULTANI . GHA"⟩,
    ⟨0x1128a, "MULTANI . CA;2CHA;JA;JJA"⟩,
    ⟨0x1128f, "MULTANI . NYA;2TTA;TTHA;DDA;DDDA;DDHA;NNA;TA;THA;DA;DHA;NA;PA;PHA;BA"⟩,
    ⟨0x1129f, "MULTANI . BHA;2MA;YA;RA;LA;VA;SA;HA;RRA;RHA;1SECTION MARK"⟩,
    ⟨0x112b0, "KHUDAWADI . A;2AA;I;II;U;UU;E;AI;O;AU;KA;KHA;GA;GGA;GHA;NGA;CA;CHA;JA;JJA;JHA;NYA
TTA;TTHA;DDA;DDDA;RRA;DDHA;NNA;TA;THA;DA;DHA;NA;PA;PHA;BA;BBA;BHA;MA;YA;RA;LA;VA;SHA;SA;HA
1$ ANUSVARA;VOWEL $ AA;3I;II;U;UU;E;AI;O;AU;1$ NUKTA;2VIRAMA"⟩,
    ⟨0x112f0, "KHUDAWADI DIGIT ZERO;2ONE;TWO;%;FOUR;FIVE;SIX;SEVEN;EIGHT;NINE"⟩,
    ⟨0x11300, "GRANTHA $ COMBINING ANUSVARA *;2CANDRABINDU;ANUSVARA;VISARGA"⟩,
    ⟨0x11305, "GRANTHA . A;2AA;I;II;U;UU;VOCALIC R;3L"⟩,
    ⟨0x1130f, "GRANTHA . EE;2AI"⟩,
    ⟨0x11313, "GRANTHA . OO;2AU;KA;KHA;GA;GHA;NGA;CA;CHA;JA;JHA;NYA;TTA;TTHA;DDA;DDHA;NNA;TA;THA
DA;DHA;NA"⟩,
    ⟨0x1132a, "GRANTHA . PA;2PHA;BA;BHA;MA;YA;RA"⟩,
    ⟨0x11332, "GRANTHA . LA;2LLA"⟩,
    ⟨0x11335, "GRANTHA . VA;2SHA;SSA;SA;HA"⟩,
    ⟨0x1133b, "COMBINING BINDU BELOW;GRANTHA $ NUKTA;2AVAGRAHA;1VOWEL $ AA;3I;II;U;UU;VOCALIC R
4RR"⟩,
    ⟨0x11347, "GRANTHA VOWEL $ EE;3AI"⟩,
    ⟨0x1134b, "GRANTHA VOWEL $ OO;3AU;1$ VIRAMA"⟩,
    ⟨0x11350, "GRANTHA OM"⟩,
    ⟨0x11357, "GRANTHA AU LENGTH MARK"⟩,
    ⟨0x1135d, "GRANTHA $ PLUTA;1. VEDIC ANUSVARA;3a=;2VOCALIC RR;3LL;1VOWEL $ VOCALIC L;4LL"⟩,
    ⟨0x11366, "COMBINING GRANTHA DIGIT ZERO;3ONE;TWO;%;FOUR;FIVE;SIX"⟩,
    ⟨0x11370, "COMBINING GRANTHA . A;3KA;NA;VI;PA"⟩,
    ⟨0x11400, "NEWA . A;2AA;I;II;U;UU;VOCALIC R;3RR;L;LL;2E;AI;O;AU;KA;KHA;GA;GHA;NGA;NGHA;CA;CHA
JA;JHA;NYA;NYHA;TTA;TTHA;DDA;DDHA;NNA;TA;THA;DA;DHA;NA;NHA;PA;PHA;BA;BHA;MA;MHA;YA;RA;RHA;LA;LHA
WA;SHA;SSA;SA;HA;1VOWEL $ AA;3I;II;U;UU;VOCALIC R;4RR;L;LL;3E;AI;O;AU;1$ VIRAMA;2CANDRABINDU
ANUSVARA;VISARGA;NUKTA;AVAGRAHA;) ANUSVARA;1OM;SIDDHI;DANDA;a=;COMMA;GAP FILLER;ABBREVIATION $
DIGIT ZERO;2ONE;TWO;%;FOUR;FIVE;SIX;SEVEN;EIGHT;NINE;1= COMMA;PLACEHOLDER MARK"⟩,
    ⟨0x1145d, "NEWA INSERTION $;1SANDHI MARK;. VEDIC ANUSVARA;$ JIHVAMULIYA;2UPADHMANIYA"⟩,
    ⟨0x11480, "TIRHUTA ANJI;1. A;2AA;I;II;U;UU;VOCALIC R;3RR;L;LL;2E;AI;O;AU;KA;KHA;GA;GHA;NGA;CA
CHA;JA;JHA;NYA;TTA;TTHA;DDA;DDHA;NNA;TA;THA;DA;DHA;NA;PA;PHA;BA;BHA;MA;YA;RA;LA;VA;SHA;SSA;SA;HA
1VOWEL $ AA;3I;II;U;UU;VOCALIC R;4RR;L;LL;3E;aSHORT;AI;O;aSHORT;AU;1$ CANDRABINDU;2ANUSVARA
VISARGA;VIRAMA;NUKTA;AVAGRAHA;1GVANG;ABBREVIATION $;OM"⟩,
    ⟨0x114d0, "TIRHUTA DIGIT ZERO;2ONE;TWO;%;FOUR;FIVE;SIX;SEVEN;EIGHT;NINE"⟩,
    ⟨0x11580, "SIDDHAM . A;2AA;I;II;U;UU;VOCALIC R;3RR;L;LL;2E;AI;O;AU;KA;KHA;GA;GHA;NGA;CA;CHA
JA;JHA;NYA;TTA;TTHA;DDA;DDHA;NNA;TA;THA;DA;DHA;NA;PA;PHA;BA;BHA;MA;YA;RA;LA;VA;SHA;SSA;SA;HA
1VOWEL $ AA;3I;II;U;UU;VOCALIC R;4RR"⟩,
    ⟨0x115b8, "SIDDHAM VOWEL $ E;3AI;O;AU;1$ CANDRABINDU;2ANUSVARA;VISARGA;VIRAMA;NUKTA;SIDDHAM
1DANDA;a=;SEPARATOR DOT;2BAR;1REPETITION MARK-1;+2;END OF TEXT MARK
SECTION MARK & TRIDENT ? U-SHAPED ORNAMENTS;6DOTTED CRESCENTS;4cRAYS;7a=;aTRIPLE;3= RING;5& RAYS
3& = CRESCENTS;4aTRIPLE;aQUADRUPLE;aSEPTUPLE;CIRCLES ? RAYS;6TWO ENCLOSURES;aFOUR
1. THREE-CIRCLE ALTERNATE I;2bTWO-CIRCLE;4II;2ALTERNATE U;1bVOWEL $;4UU"⟩,
    ⟨0x11600, "MODI . A;2AA;I;II;U;UU;VOCALIC R;3RR;L;LL;2E;AI;O;AU;KA;KHA;GA;GHA;NGA;CA;CHA;JA
JHA;NYA;TTA;TTHA;DDA;DDHA;NNA;TA;THA;DA;DHA;NA;PA;PHA;BA;BHA;MA;YA;RA;LA;VA;SHA;SSA;SA;HA;LLA
1VOWEL $ AA;3I;II;U;UU;VOCALIC R;4RR;L;LL;3E;AI;O;AU;1$ ANUSVARA;2VISARGA;VIRAMA;ARDHACANDRA
1DANDA;a=;ABBREVIATION $;$ HUVA"⟩,
    ⟨0x11650, "MODI DIGIT ZERO;2ONE;TWO;%;FOUR;FIVE;SIX;SEVEN;EIGHT;NINE"⟩,
    ⟨0x11660, "MONGOLIAN BIRGA & ORNAMENT;1ROTATED BIRGA;= BIRGA & ORNAMENT;cTRIPLE;aBIRGA & =
aROTATED BIRGA &;4a=;1INVERTED BIRGA;3& = ORNAMENT;1SWIRL BIRGA;3& ORNAMENT;4a=;1eTURNED"⟩,
    ⟨0x11680, "TAKRI . A;2AA;I;II;U;UU;E;AI;O;AU;KA;KHA;GA;GHA;NGA;CA;CHA;JA;JHA;NYA;TTA;TTHA;DDA
DDHA;NNA;TA;THA;DA;DHA;NA;PA;PHA;BA;BHA;MA;YA;RA;LA;VA;SHA;SA;HA;RRA;1$ ANUSVARA;2VISARGA
1VOWEL $ AA;3I;II;U;UU;E;AI;O;AU;1$ VIRAMA;2NUKTA;1. ARCHAIC KHA;ABBREVIATION $"⟩,
    ⟨0x116c0, "TAKRI DIGIT ZERO;2ONE;TWO;%;FOUR;FIVE;SIX;SEVEN;EIGHT;NINE"⟩,
    ⟨0x11700, "AHOM . KA;2KHA;NGA;NA;TA;aALTERNATE;PA;PHA;BA;MA;JA;CHA;THA;RA;LA;SA;NYA;HA;A;DA
DHA;GA;aALTERNATE;GHA;BHA;JHA;ALTERNATE BA"⟩,
    ⟨0x1171d, "AHOM CONSONANT $ MEDIAL LA;4RA;aLIGATING;1VOWEL $ A;3AA;I;II;U;UU;E;AW;O;AI;AM
1$ KILLER"⟩,
    ⟨0x11730, "AHOM DIGIT ZERO;2ONE;TWO;%;FOUR;FIVE;SIX;SEVEN;EIGHT;NINE;1NUMBER TEN;2TWENTY
1$ _ SECTION;a$;2RULAI;1SYMBOL VI;. CA;2TTA;TTHA;DDA;DDHA;NNA;LLA"⟩,
    ⟨0x11800, "DOGRA . A;2AA;I;II;U;UU;E;AI;O;AU;KA;KHA;GA;GHA;NGA;CA;CHA;JA;JHA;NYA;TTA;TTHA;DDA
DDHA;NNA;TA;THA;DA;DHA;NA;PA;PHA;BA;BHA;MA;YA;RA;LA;VA;SHA;SSA;SA;HA;RRA;1VOWEL $ AA;3I;II;U;UU
VOCALIC R;4RR;3E;AI;O;AU;1$ ANUSVARA;2VISARGA;VIRAMA;NUKTA;1ABBREVIATION $"⟩,
    ⟨0x118a0, "WARANG CITI ^ . NGAA;4A;WI;YU;YA;YO;II;UU;E;O;ANG;GA;KO;ENY;YUJ;UC;ENN;ODD;TTE
NUNG;DA;AT;AM;BU;PU;HIYO;HOLO;HORR;HAR;SSUU;SII;VIYO;2_ . NGAA;4A;WI;YU;YA;YO;II;UU;E;O;ANG;GA;KO
ENY;YUJ;UC;ENN;ODD;TTE;NUNG;DA;AT;AM;BU;PU;HIYO;HOLO;HORR;HAR;SSUU;SII;VIYO;2DIGIT ZERO;3ONE;TWO
%;FOUR;FIVE;SIX;SEVEN;EIGHT;NINE;2NUMBER TEN;3TWENTY;THIRTY;FORTY;FIFTY;SIXTY;SEVENTY;EIGHTY
NINETY"⟩,
    ⟨0x118ff, "WARANG CITI OM;DIVES AKURU . A;3AA;I;II;U;UU;E"⟩,
    ⟨0x11909, "DIVES AKURU . O"⟩,
    ⟨0x1190c, "DIVES AKURU . KA;3KHA;GA;GHA;NGA;CA;CHA;JA"⟩,
    ⟨0x11915, "DIVES AKURU . NYA;3TTA"⟩,
    ⟨0x11918, "DIVES AKURU . DDA;3DDHA;NNA;TA;THA;DA;DHA;NA;PA;PHA;BA;BHA;MA;YA;YYA;RA;LA;VA;SHA
SSA;SA;HA;LLA;ZA;2VOWEL $ AA;4I;II;U;UU;E"⟩,
    ⟨0x11937, "DIVES AKURU VOWEL $ AI;4O"⟩,
    ⟨0x1193b, "DIVES AKURU $ ANUSVARA;3CANDRABINDU;HALANTA;2VIRAMA;PREFIXED NASAL $;MEDIAL YA
INITIAL RA;aMEDIAL;$ NUKTA;= DANDA;GAP FILLER;END OF TEXT MARK"⟩,
    ⟨0x11950, "DIVES AKURU DIGIT ZERO;3ONE;TWO;%;FOUR;FIVE;SIX;SEVEN;EIGHT;NINE"⟩,
    ⟨0x119a0, "NANDINAGARI . A;2AA;I;II;U;UU;VOCALIC R;3RR"⟩,
    ⟨0x119aa, "NANDINAGARI . E;2AI;O;AU;KA;KHA;GA;GHA;NGA;CA;CHA;JA;JHA;NYA;TTA;TTHA;DDA;DDHA;NNA
TA;THA;DA;DHA;NA;PA;PHA;BA;BHA;MA;YA;RA;LA;VA;SHA;SSA;SA;HA;LLA;RRA;1VOWEL $ AA;3I;II;U;UU
VOCALIC R;4RR"⟩,
    ⟨0x119da, "NANDINAGARI VOWEL $ E;3AI;O;AU;1$ ANUSVARA;2VISARGA;VIRAMA;AVAGRAHA;SIDDHAM
1HEADSTROKE;VOWEL $ PRISHTHAMATRA E"⟩,
    ⟨0x11a00, "ZANABAZAR SQUARE . A;2VOWEL $ I;4UE;U;E;OE;O;AI;AU;REVERSED I;3LENGTH MARK;2. KA
3KHA;GA;GHA;NGA;CA;CHA;JA;NYA;TTA;TTHA;DDA;DDHA;NNA;TA;THA;DA;DHA;NA;PA;PHA;BA;BHA;MA;TSA;TSHA
DZA;DZHA;ZHA;ZA;-A;YA;RA;LA;VA;SHA;SSA;SA;HA;KSSA;2) CONSONANT MARK;$ VIRAMA;3CANDRABINDU
4& ORNAMENT;3bCANDRA;ANUSVARA;VISARGA;2CLUSTER-INITIAL . RA;CLUSTER-FINAL . YA;4RA;LA;VA
2INITIAL HEAD MARK;bCLOSING;MARK TSHEG;3SHAD;a=;LONG TSHEG;2INITIAL DOUBLE-LINED HEAD MARK
cCLOSING;SUBJOINER"⟩,
    ⟨0x11a50, "SOYOMBO . A;1VOWEL $ I;3UE;U;E;O;OE;AI;AU;VOCALIC R;4L;2LENGTH MARK;1. KA;2KHA;GA
GHA;NGA;CA;CHA;JA;JHA;NYA;TTA;TTHA;DDA;DDHA;NNA;TA;THA;DA;DHA;NA;PA;PHA;BA;BHA;MA;TSA;TSHA;DZA
ZHA;ZA;-A;YA;RA;LA;VA;SHA;SSA;SA;HA;KSSA;1$ JIHVAMULIYA;2UPADHMANIYA;1CLUSTER-INITIAL . RA;3LA
SHA;SA;1) CONSONANT $ G;4K;NG;D;N;B;M;R;L;SH;S;-A;1$ ANUSVARA;2VISARGA;1GEMINATION MARK;SUBJOINER
MARK TSHEG;2SHAD;a=;PLUTA;1HEAD MARK & MOON ? SUN ? TRIPLE FLAME;7a?;6SUN;1TERMINAL MARK-1;+1"⟩,
    ⟨0x11ab0, "CANADIAN SYLLABICS NATTILIK HI;3HII;HO;HOO;HA;HAA;SHRI;SHRII;SHRO;SHROO;SHRA;SHRAA
2SPE;SPI;SPO;SPA;0PAU CIN HAU . PA;4KA;LA;MA;DA;ZA;VA;NGA;HA;GA;KHA;SA;BA;CA;TA;THA;NA;PHA;RA;FA
CHA;A;E;I;O;U;UA;IA;) P;5K;T;M;+1;L;W;NG;Y;3RISING TONE LONG;4TONE;3SANDHI GLOTTAL STOP
RISING TONE LONG );5);3aSANDHI GLOTTAL STOP;4TONE LONG;TONE;5LONG ););3MID-LEVEL TONE
GLOTTAL STOP VARIANT;MID-LEVEL TONE LONG );5);3LOW-FALLING TONE LONG;4TONE;3GLOTTAL STOP
LOW-FALLING TONE LONG );5);3aGLOTTAL STOP"⟩,
    ⟨0x11c00, "BHAIKSUKI . A;2AA;I;II;U;UU;VOCALIC R;3RR;L"⟩,
    ⟨0x11c0a, "BHAIKSUKI . E;2AI;O;AU;KA;KHA;GA;GHA;NGA;CA;CHA;JA;JHA;NYA;TTA;TTHA;DDA;DDHA;NNA
TA;THA;DA;DHA;NA;PA;PHA;BA;BHA;MA;YA;RA;LA;VA;SHA;SSA;SA;HA;1VOWEL $ AA;3I;II;U;UU;VOCALIC R;4RR
L"⟩,
    ⟨0x11c38, "BHAIKSUKI VOWEL $ E;3AI;O;AU;1$ CANDRABINDU;2ANUSVARA;VISARGA;VIRAMA;AVAGRAHA
1DANDA;a=;WORD SEPARATOR;GAP FILLER-1;+1"⟩,
    ⟨0x11c50, "BHAIKSUKI DIGIT ZERO;2ONE;TWO;%;FOUR;FIVE;SIX;SEVEN;EIGHT;NINE;1NUMBER ONE;2TWO;%
FOUR;FIVE;SIX;SEVEN;EIGHT;NINE;TEN;TWENTY;THIRTY;FORTY;FIFTY;SIXTY;SEVENTY;EIGHTY;NINETY
1HUNDREDS UNIT MARK"⟩,
    ⟨0x11c70, "MARCHEN HEAD MARK;1MARK SHAD;. KA;2KHA;GA;NGA;CA;CHA;JA;NYA;TA;THA;DA;NA;PA;PHA;BA
MA;TSA;TSHA;DZA;WA;ZHA;ZA;-A;YA;RA;LA;SHA;SA;HA;A"⟩,
    ⟨0x11c92, "MARCHEN SUBJOINED . KA;3KHA;GA;NGA;CA;CHA;JA;NYA;TA;THA;DA;NA;PA;PHA;BA;MA;TSA
TSHA;DZA;WA;ZHA;ZA"⟩,
    ⟨0x11ca9, "MARCHEN SUBJOINED . YA;3RA;LA;SHA;SA;HA;A;1VOWEL $ AA;3I;U;E;O;1$ ANUSVARA
2CANDRABINDU"⟩,
    ⟨0x11d00, "MASARAM GONDI . A;3AA;I;II;U;UU;E"⟩,
    ⟨0x11d08, "MASARAM GONDI . AI;3O"⟩,
    ⟨0x11d0b, "MASARAM GONDI . AU;3KA;KHA;GA;GHA;NGA;CA;CHA;JA;JHA;NYA;TTA;TTHA;DDA;DDHA;NNA;TA
THA;DA;DHA;NA;PA;PHA;BA;BHA;MA;YA;RA;LA;VA;SHA;SSA;SA;HA;LLA;KSSA;JNYA;TRA;2VOWEL $ AA;4I;II;U;UU
VOCALIC R"⟩,
    ⟨0x11d3a, "MASARAM GONDI VOWEL $ E"⟩,
    ⟨0x11d3c, "MASARAM GONDI VOWEL $ AI;4O"⟩,
    ⟨0x11d3f, "MASARAM GONDI VOWEL $ AU;2$ ANUSVARA;3VISARGA;NUKTA;CANDRA;HALANTA;2VIRAMA;REPHA
RA-KARA"⟩,
    ⟨0x11d50, "MASARAM GONDI DIGIT ZERO;3ONE;TWO;%;FOUR;FIVE;SIX;SEVEN;EIGHT;NINE"⟩,
    ⟨0x11d60, "GUNJALA GONDI . A;3AA;I;II;U;UU"⟩,
    ⟨0x11d67, "GUNJALA GONDI . EE;3AI"⟩,
    ⟨0x11d6a, "GUNJALA GONDI . OO;3AU;YA;VA;BA;BHA;MA;KA;KHA;TA;THA;LA;GA;GHA;DA;DHA;NA;CA;CHA
TTA;TTHA;LLA;JA;JHA;DDA;DDHA;NGA;PA;PHA;HA;RA;SA;2VOWEL $ AA;4I;II;U;UU"⟩,
    ⟨0x11d90, "GUNJALA GONDI VOWEL $ EE;4AI"⟩,
    ⟨0x11d93, "GUNJALA GONDI VOWEL $ OO;4AU;2$ ANUSVARA;3VISARGA;2VIRAMA;OM"⟩,
    ⟨0x11da0, "GUNJALA GONDI DIGIT ZERO;3ONE;TWO;%;FOUR;FIVE;SIX;SEVEN;EIGHT;NINE"⟩,
    ⟨0x11ee0, "MAKASAR . KA;2GA;NGA;PA;BA;MA;TA;DA;NA;CA;JA;NYA;YA;RA;LA;VA;SA;A;1ANGKA;VOWEL $ I
3U;E;O;1PASSIMBANG;END OF SECTION"⟩,
    ⟨0x11fb0, "LISU . YHA"⟩,
    ⟨0x11fc0, "TAMIL FRACTION ONE THREE-HUNDRED-AND-TWENTIETH;3ONE-HUNDRED-AND-SIXTIETH;EIGHTIETH
SIXTY-FOURTH;FORTIETH;THIRTY-SECOND;2% EIGHTIETHS;3SIXTY-FOURTHS;2ONE TWENTIETH;3SIXTEENTH-1;+1
TENTH;EIGHTH;2% TWENTIETHS;3SIXTEENTHS;2ONE FIFTH;3QUARTER;HALF-1;+1;2% QUARTERS
DOWNSCALING FACTOR KIIZH;1$ NEL;2CEVITU;AAZHAAKKU;UZHAKKU;MUUVUZHAKKU;KURUNI;PATHAKKU;MUKKURUNI
KAACU;PANAM;PON;VARAAKAN;PAARAM;KUZHI;VELI;1WET CULTIVATION $;bDRY;aLAND;aSALT PAN
aTRADITIONAL CREDIT;2aNUMBER;1aCURRENT;a? ODD;aSPENT;aTOTAL;aIN POSSESSION;aSTARTING FROM
$ MUTHALIYA;2VAKAIYARAA"⟩,
    ⟨0x11fff, "TAMIL PUNCTUATION END OF TEXT;CUNEIFORM $ A;3aTIMES;4BAD;GAN2 TENU;HA;IGI
LAGAR GUNU;MUSH;SAG;2A2;AB;3TIMES ASH2;4DUN3 GUNU;GAL;GAN2 TENU;HA;IGI GUNU;IMIN;LAGAB;SHESH
U PLUS U PLUS U;3GUNU;2AB2;3TIMES BALAG;4GAN2 TENU;ME PLUS EN;SHA3;TAK4;2AD;AK;3TIMES ERIN2
4SHITA PLUS GISH;2AL;3aTIMES;4DIM2;GISH;HA;KAD3;KI;SHE;USH;2ALAN;ALEPH;AMAR;3TIMES SHE;2AN;3aOVER
% TIMES;PLUS NAGA OPPOSING AN PLUS NAGA;5SQUARED;2ANSHE;APIN;ARAD;3TIMES KUR;2ARKAB;ASAL2;ASH
3ZIDA TENU;aKABA;OVER ASH TUG2 OVER TUG2 TUG2 OVER TUG2 PAP;5OVER ASH;7eCROSSING;2ASH2;ASHGAB;BA
BAD;BAG3;BAHAR2;BAL;3aOVER;2BALAG;BAR;BARA2;BI;3TIMES A;4GAR;IGI GUNU;2BU;3OVER BU AB;5UN
3CROSSING BU;2BULUG;3aOVER;2BUR;BUR2;DA;DAG;3KISIM5 TIMES A PLUS MASH;5AMAR;BALAG;BI;GA
6PLUS MASH;5GI;GIR2;GUD;HA;IR;6PLUS LU;5KAK;LA;LU;6PLUS MASH2;5LUM;NE;PAP PLUS PAP;SI;TAK4
U2 PLUS GIR2;USH;2DAM;DAR;DARA3;+1;DI;DIB;DIM;3TIMES SHE;2DIM2;DIN;3KASKAL U GUNU DISH;1a$;2DU
3aOVER;GUNU;SHESHIG;2DUB;3TIMES ESH2;2DUB2;DUG;DUGUD;DUH;DUN;DUN3;3GUNU;aGUNU;2DUN4;DUR2;E
3TIMES PAP;OVER E NUN OVER NUN;2E2;3TIMES A PLUS HA PLUS DA;4GAR;MI;SAL;SHE;U;2EDIN;EGIR;EL;EN
3TIMES GAN2;5TENU;4ME;3CROSSING EN;aOPPOSING;SQUARED;2EREN;ERIN2;ESH2;EZEN;3TIMES A;5PLUS LAL
7aTIMES;4AN;BAD;DUN3 GUNU;6GUNU;4HA;5GUNU;4aIGI;KASKAL;5SQUARED;4KU3;LA;LAL TIMES LAL;LI;LU;U2;UD
2GA;3GUNU;2GA2;3TIMES A PLUS DA PLUS HA;6HA;IGI;4AB2 TENU PLUS TAB;AN;ASH;ASH2 PLUS GAL;BAD
BAR PLUS RA;BUR;5PLUS RA;4DA;DI;DIM TIMES SHE;DUB;EL;5PLUS LA;4EN;5TIMES GAN2 TENU;2cGA2;4GAR;GI
GI4;5PLUS A;4GIR2 PLUS SU;HA PLUS LU PLUS ESH2;HAL;5PLUS LA;4HI PLUS LI;HUB2;IGI GUNU
ISH PLUS HU PLUS ASH;KAK;KASKAL;KID;5PLUS LAL;4KU3 PLUS AN;LA;ME PLUS EN;MI;NUN;5aOVER;4PA;SAL
SAR;SHE;5PLUS TUR;4SHID;SUM;TAK4;U;UD;5PLUS DU;3OVER GA2;2GABA;3aCROSSING;2GAD
3OVER GAD GAR OVER GAR;2GAL;3GAD OVER GAD GAR OVER GAR;2GALAM;GAM;+1;GAN2;3TENU;OVER GAN2
aCROSSING;2GAR;GAR3;GASHAN;GESHTIN;3TIMES KUR;2GI;3TIMES E;4U;3CROSSING GI;2GI4;3aOVER;aCROSSING
2GIDIM;GIR2;3GUNU;2GIR3;3TIMES A PLUS IGI;4GAN2 TENU;IGI;aLU PLUS;PA;2GISAL;GISH;3aCROSSING
TIMES BAD;4TAK4;3TENU;2GU;3aCROSSING;2GU2;3TIMES KAK;5TIMES IGI GUNU;4NUN;SAL PLUS TUG2;3GUNU
2GUD;3TIMES A PLUS KUR;4KUR;3OVER GUD LUGAL;2GUL;+1;3TIMES SHE;2GUR;GUR7;GURUN;GURUSH;HA;3TENU
GUNU;2HAL;HI;3TIMES ASH;4ASH2;BAD;DISH;GAD;KIN;NUN;SHE;U;2HU;HUB2;3TIMES AN;4HAL;KASKAL;LISH;UD
2HUL2;I;3A;2IB;IDIM;3OVER IDIM BUR;5SQUARED;2IG;IGI;3DIB;RI;OVER IGI SHIR OVER SHIR UD OVER UD
GUNU;2IL;3TIMES GAN2 TENU;2IL2;IM;3TIMES TAK4;CROSSING IM;aOPPOSING;SQUARED;2IMIN;IN;IR;ISH;KA
3TIMES A;4AD;5PLUS KU3;4ASH2;BAD;BALAG;BAR;BI;ERIN2;ESH2;GA;GAL;GAN2 TENU;GAR;5PLUS SHA3 PLUS A
4GI;GIR2;GISH PLUS SAR;5CROSSING GISH;4GU;GUR7;IGI;IM;KAK;KI;KID;LI;LU;ME;5PLUS DU;6GI;TE;4MI
5PLUS NUNUZ;4NE;NUN;PI;RU;SA;SAR;SHA;SHE;SHID;SHU;SIG;SUHUR;TAR;U;U2;UD;UMUM TIMES PA;USH;ZI;2KA2
3aCROSSING;2KAB;KAD2;+3;3aOVER;2KAK;3TIMES IGI GUNU;2KAL;3TIMES BAD;CROSSING KAL;2KAM2;KAM4
KASKAL;3LAGAB TIMES U OVER LAGAB TIMES U;hOVER;2KESH2;KI;3TIMES BAD;4U;UD;2KID;KIN;KISAL;KISH
KISIM5;3aOVER;2KU;3OVER HI TIMES ASH2 KU OVER HI TIMES ASH2;2KU3;+1;3VARIANT FORM;2KU7;KUL;3GUNU
2KUN;KUR;3aOPPOSING;2KUSHU2;KWU318;LA;LAGAB;3TIMES A;5PLUS DA PLUS HA;6GAR;LAL;4AL;AN
ASH ZIDA TENU;BAD;BI;DAR;EN;GA;GAR;GUD;5aPLUS;4HA;HAL;HI TIMES NUN;IGI GUNU;IM;5PLUS HA;6LU;4KI
KIN;KU3;KUL;5PLUS HI PLUS A;4LAGAB;LISH;LU;LUL;ME;5PLUS EN;4MUSH;NE;SHE PLUS SUM
SHITA PLUS GISH PLUS ERIN2;7TENU;4SHU2;5aPLUS;4SUM;TAG;TAK4;TE PLUS A PLUS SU PLUS NA;U;5PLUS A
6U PLUS U;4U2 PLUS ASH;UD;USH;3SQUARED;2LAGAR;3TIMES SHE;5PLUS SUM;3GUNU;4OVER LAGAR GUNU SHE
2LAHSHU;LAL;3aTIMES;2LAM;3TIMES KUR;5PLUS RU;2LI;LIL;LIMMU2;LISH;LU;3TIMES BAD;2LU2;3TIMES AL
4BAD;ESH2;5TENU;4aGAN2;HI TIMES BAD;IM;KAD2;+1;5PLUS ASH;4KI;LA PLUS ASH;LAGAB;ME PLUS EN;NE;NU
SI PLUS ASH;SIK2 PLUS BU;TUG2;3TENU;CROSSING LU2;aOPPOSING;SQUARED;SHESHIG;2LU3;LUGAL;3aOVER
aOPPOSING;SHESHIG;2LUH;LUL;+1;3aOVER;5GAR OVER GAR;2MA;3TIMES TAK4;GUNU;2MA2;MAH;MAR;MASH;MASH2
ME;MES;MI;MIN;MU;3aOVER;2MUG;3GUNU;2MUNSUB;MURGU2;MUSH;3TIMES A;4KUR;ZA;3OVER MUSH
5TIMES A PLUS NA;3CROSSING MUSH;2MUSH3;3TIMES A;5PLUS DI;4DI;3GUNU;2NA;NA2;NAGA;3INVERTED
TIMES SHU TENU;OPPOSING NAGA;2NAGAR;NAM NUTILLU;NAM;NAM2;NE;3TIMES A;4UD;3SHESHIG;2NI;3TIMES E
2NI2;NIM;3TIMES GAN2 TENU;4bGAR PLUS;2NINDA2;3TIMES AN;4ASH;5aPLUS;4GUD;ME PLUS GAN2 TENU;NE;NUN
SHE;5PLUS A AN;6ASH;bASH;4bU2;USH;2NISAG;NU;NU11;NUN;3LAGAR TIMES GAR;5MASH;SAL;6dOVER;5USH;3TENU
OVER NUN;aCROSSING;5LAGAR OVER LAGAR;2NUNUZ;3AB2 TIMES ASHGAB;5BI;DUG;GUD;IGI GUNU;KAD3;LA;NE
SILA3;U2;3KISIM5 TIMES BI;6U;2PA;PAD;PAN;PAP;PESH2;PI;3TIMES A;4AB;BI;BU;E;I;IB;U;U2;3CROSSING PI
2PIRIG;3TIMES KAL;4UD;ZA;3OPPOSING PIRIG;2RA;RAB;RI;RU;SA;SAG NUTILLU;SAG;3TIMES A;4DU;DUB;HA;KAK
KUR;LUM;MI;NUN;SAL;SHID;TAB;U2;UB;UM;UR;USH;3OVER SAG;GUNU;2SAL;3LAGAB TIMES ASH2;2SANGA2;SAR;SHA
SHA3;3TIMES A;4BAD;GISH;NE;SHU2;TUR;U;5PLUS A;2SHA6;SHAB6;SHAR2;SHE;3HU
OVER SHE GAD OVER GAD GAR OVER GAR;5cTAB OVER TAB;2SHEG9;SHEN;SHESH;SHESH2;SHESHLAM;SHID;3TIMES A
4IM;2SHIM;3TIMES A;4BAL;BULUG;DIN;GAR;IGI;5GUNU;4KUSHU2;LUL;MUG;SAL;2SHINIG;SHIR;3TENU
OVER SHIR BUR OVER BUR;2SHITA;SHU;3aOVER INVERTED;2SHU2;SHUBUR;SI;3GUNU;2SIG;SIG4;3OVER SIG4 SHU2
2SIK2;SILA3;SU;3aOVER;2SUD;SUD2;SUHUR;SUM;SUMASH;SUR;SUR9;TA;3ASTERISK;TIMES HI;4MI;3GUNU;2TAB
3OVER TAB NI OVER NI DISH OVER DISH;SQUARED;2TAG;3TIMES BI;4GUD;SHE;SHU;TUG2;UD;2TAK4;TAR;TE
3GUNU;2TI;3TENU;2TIL;TIR;3TIMES TAK4;OVER TIR;5GAD OVER GAD GAR OVER GAR;2TU;TUG2;TUK;TUM;TUR
3OVER TUR ZA OVER ZA;2U;3GUD;U U;OVER U PA OVER PA GAR OVER GAR;5SUR OVER SUR
U REVERSED OVER U REVERSED;2U2;UB;UD;3KUSHU2;TIMES BAD;4MI;U PLUS U PLUS U;9GUNU;2aUD;3SHESHIG
4TIMES BAD;2UDUG;UM;3TIMES LAGAB;4ME PLUS DA;SHA3;U;2UMBIN;UMUM;3TIMES KASKAL;4PA;2UN;3GUNU;2UR
3aCROSSING;SHESHIG;2UR2;3TIMES A PLUS HA;6NA;4AL;HA;NUN;U2;5PLUS ASH;6BI;2UR4;URI;URI3;URU
3TIMES A;4ASHGAB;BAR;DUN;GA;GAL;GAN2 TENU;GAR;GU;HA;IGI;IM;ISH;KI;LUM;MIN;PA;SHE;SIG4;TU
U PLUS GUD;UD;URUDA;1a$;3TIMES U;2USH;3TIMES A;4KU;KUR;TAK4;2USHX;USH2;USHUMX;UTUKI;UZ3
3TIMES KASKAL;2UZU;ZA;3TENU;SQUARED TIMES KUR;2ZAG;ZAMX;ZE2;ZI;3aOVER;2ZI3;ZIB;3KABA TENU;2ZIG
ZIZ2;ZU;ZU5;3TIMES A;2ZUBUR;ZUM;KAP ELAMITE;AB TIMES NUN;AB2 TIMES A;AMAR TIMES KUG
DAG KISIM5 TIMES U2 PLUS MASH;DAG3;DISH PLUS SHU;DUB TIMES SHE;EZEN TIMES GUD;4SHE
2GA2 TIMES AN PLUS KAK PLUS A;4ASH2;2GE22;GIG;HUSH;KA TIMES ANSHE;4ASH3;GISH;GUD;HI TIMES ASH2
LUM;PA;SHUL;TU;UR2;2LAGAB TIMES GI;LU2 SHESHIG TIMES BAD;3TIMES ESH2 PLUS LAL;4SHU;2MESH
MUSH3 TIMES ZA;NA4;NIN;NIN9;NINDA2 TIMES BAL;4GI;2NU11 ROTATED NINETY DEGREES;PESH2 ASTERISK;PIR2
SAG TIMES IGI GUNU;TI2;UM TIMES ME;U U"⟩,
    ⟨0x12400, "CUNEIFORM NUMERIC $ TWO ASH;3a%;aFOUR;aFIVE;aSIX;aSEVEN;aEIGHT;aNINE;% DISH;aFOUR
aFIVE;aSIX;aSEVEN;aEIGHT;aNINE;FOUR U;aFIVE;aSIX;aSEVEN;aEIGHT;aNINE;ONE GESH2;aTWO;a%;aFOUR
aFIVE;aSIX;aSEVEN;aEIGHT;aNINE;ONE GESHU;aTWO;a%;aFOUR;aFIVE;TWO SHAR2;a%;5VARIANT FORM
3FOUR SHAR2;aFIVE;aSIX;aSEVEN;aEIGHT;aNINE;ONE SHARU;aTWO;a%;5VARIANT FORM;3FOUR SHARU;aFIVE
SHAR2 TIMES GAL PLUS DISH;7MIN;3ONE BURU;aTWO;a%;5VARIANT FORM;3FOUR BURU;aFIVE
% VARIANT FORM ESH16;6ESH21;3FOUR VARIANT FORM LIMMU;6LIMMU4;LIMMU A;+1;3SIX VARIANT FORM ASH9
SEVEN VARIANT FORM IMIN3;6IMIN A;+1;3EIGHT VARIANT FORM USSU;6USSU3;3NINE VARIANT FORM ILIMMU
6ILIMMU3;+1;ILIMMU A;3TWO ASH TENU;b%;bFOUR;bFIVE;bSIX;ONE BAN2;aTWO;a%;aFOUR;5VARIANT FORM
3FIVE BAN2;5VARIANT FORM;3NIGIDAMIN;NIGIDAESH;ONE ESHE3;aTWO;ONE THIRD DISH;aTWO THIRDS
aFIVE SIXTHS;ONE THIRD VARIANT FORM A;cTWO THIRDS;ONE EIGHTH ASH;4aQUARTER
3OLD ASSYRIAN ONE SIXTH;6QUARTER;3ONE QUARTER GUR;4aHALF;3ELAMITE ONE THIRD;4TWO THIRDS;FORTY
FIFTY;3FOUR U VARIANT FORM;cFIVE;cSIX;cSEVEN;cEIGHT;cNINE"⟩,
    ⟨0x12470, "CUNEIFORM PUNCTUATION $ OLD ASSYRIAN WORD DIVIDER;3! COLON;aDIAGONAL;4TRICOLON
QUADCOLON"⟩,
    ⟨0x12480, "CUNEIFORM $ AB TIMES NUN TENU;4SHU2;2AD TIMES ESH2;BAD TIMES DISH TENU
BAHAR2 TIMES AB2;4NI;ZA;2BU OVER BU TIMES NA2;DA TIMES TAK4;DAG TIMES KUR;DIM TIMES IGI;4U U U
2DIM2 TIMES UD;DUG TIMES ANSHE;4ASH;5AT <;4DIN;DUN;ERIN2;GA;GI;GIR2 GUNU;GISH;HA;HI;IGI GUNU
KASKAL;KUR;KUSHU2;5PLUS KASKAL;4LAK-020;LAM;5TIMES KUR;4LUH PLUS GISH;MASH;MES;MI;NI;PI;SHE
SI GUNU;2E2 TIMES KUR;4PAP;2ERIN2 X;ESH2 CROSSING ESH2;EZEN SHESHIG TIMES ASH;5HI;IGI GUNU;LA;LAL
ME;MES;SU;2bEZEN;GA2 TIMES BAHAR2;4DIM GUNU;aDUG TIMES IGI;6KASKAL;4EREN;GA;GAR PLUS DI;6NE
4HA PLUS A;KUSHU2 PLUS KASKAL;LAM;5TIMES KUR;4LUH;MUSH;NE;5PLUS E2;6GI;4SHIM;ZIZ2
2GABA ROTATED NINETY DEGREES;GESHTIN TIMES U;GISH TIMES GISH CROSSING GISH;GU2 TIMES IGI GUNU
GUD PLUS GISH TIMES TAK4;HA TENU GUNU;HI TIMES ASH OVER HI TIMES ASH;KA TIMES BU;4KA;U U U;UR
2LAGAB TIMES ZU OVER ZU;LAK-003;LAK-021;LAK-025;LAK-030;LAK-050;+1;LAK-062
LAK-079 OVER LAK-079 GUNU;LAK-080;LAK-081 OVER LAK-081;LAK-092;LAK-130;LAK-142;LAK-210;LAK-219;+1
LAK-225;LAK-228;LAK-238;LAK-265;+1;LAK-343;LAK-347;+1;LAK-383;+1;LAK-390;LAK-441;LAK-449
3TIMES GU;4IGI;PAP PLUS LU3;6bPAP;4U2 PLUS BA;2LAK-450;LAK-457;LAK-470;LAK-483;LAK-490;LAK-492;+1
LAK-495;LAK-550;LAK-608;LAK-617;3TIMES ASH;4BAD;DUN3 GUNU GUNU;KU3;LA;TAR;TE;U2;UD;URUDA;2LAK-636
LAK-648;3TIMES DUB;4GA;IGI;5GUNU;4NI;PAP PLUS PAP PLUS LU3;SHESH PLUS KI;UD;URUDA;2LAK-724
LAK-749;LU2 GUNU TIMES ASH;3TIMES DISH;4HAL;PAP;5PLUS PAP PLUS LU3;4TAK4;2MI PLUS ZA7
MUSH OVER MUSH TIMES GA;6KAK;2NINDA2 TIMES DIM GUNU;4GISH;GUL;HI;KESH2;LAK-050;MASH;PAP PLUS PAP
U;5aPLUS;4URUDA;2SAG GUNU TIMES HA;3TIMES EN;4SHE AT <;TAK4;2SHA6 TENU;SHE OVER SHE;3PLUS HUB2
4NAM2;SAR;2SHU2 PLUS DUG TIMES NI;4E2 TIMES AN;2SI TIMES TAK4;TAK4 PLUS SAG;TUM TIMES GAN2 TENU
4% DISH;2UR2 INVERTED;3TIMES UD;2URU TIMES DARA3;4LAK-668;LU3;2ZA7;ZU OVER ZU PLUS SAR
ZU5 TIMES % DISH TENU"⟩,
    ⟨0x12f90, "CYPRO-MINOAN $ CM001;+1;2CM004;+8;CM012B;CM013;CM015;CM017;CM019;CM021;CM023;+7
CM033;+8;CM044;CM046;+1;CM049;+7;CM058;+6;CM066;+9;CM075B;CM076;CM078;+14;CM094;+11;CM107;+3
CM112;CM114;CM301;+1"⟩,
    ⟨0x13000, "EGYPTIAN HIEROGLYPH A001;+4;2A005A;A006;A006A;+1;A007;+7;A014A;A015;+2;A017A;A018
+14;A032A;A033;+7;A040A;A041;+1;A042A;A043;A043A;A044;+1;A045A;A046;+24;B001;+4;B005A;B006;+3
C001;+1;C002A;+2;C003;+7;C010A;C011;+13;D001;+7;D008A;D009;+18;D027A;D028;+3;D031A;D032;+2;D034A
D035;+11;D046A;D047;+1;D048A;D049;+1;D050A;+8;D051;+1;D052A;D053;+1;D054A;D055;+12;D067A;+7;E001
+7;E008A;E009;E009A;E010;+6;E016A;E017;E017A;E018;+2;E020A;E021;+7;E028A;E029;+5;E034A;E036;+2
F001;F001A;F002;+11;F013A;F014;+7;F021A;F022;+9;F031A;F032;+5;F037A;F038;F038A;F039;+6;F045A;F046
F046A;F047;F047A;F048;+3;F051A;+2;F052;+1;G001;+5;G006A;G007;G007A;+1;G008;+3;G011A;G012;+8;G020A
G021;+5;G026A;G027;+9;G036A;G037;G037A;G038;+5;G043A;G044;+1;G045A;G046;+8;H001;+5;H006A;H007;+1
I001;+4;I005A;I006;+3;I009A;I010;I010A;I011;I011A;I012;+3;K001;+7;L001;+1;L002A;L003;+3;L006A
L007;+1;M001;M001A;+1;M002;+1;M003A;M004;+6;M010A;M011;+1;M012A;+7;M013;+2;M015A;M016;M016A;M017
M017A;M018;+4;M022A;M023;+1;M024A;M025;+3;M028A;M029;+2;M031A;M032;+1;M033A;+1;M034;+6;M040A;M041
+3;N001;+17;N018A;+1;N019;+6;N025A;N026;+7;N033A;N034;N034A;N035;N035A;N036;+1;N037A;N038;+4
NL001;+4;NL005A;NL006;+11;NL017A;NL018;+2;NU001;+9;NU010A;NU011;NU011A;NU012;+6;NU018A;NU019;+3
NU022A;O001;O001A;O002;+3;O005A;O006;O006A;+5;O007;+3;O010A;+2;O011;+8;O019A;O020;O020A;O021;+3
O024A;O025;O025A;O026;+3;O029A;O030;O030A;O031;+2;O033A;O034;+2;O036A;+3;O037;+13;O050A;+1;O051
P001;P001A;P002;+1;P003A;P004;+7;Q001;+6;R001;+1;R002A;R003;R003A;+1;R004;+6;R010A;R011;+5;R016A
R017;+12;S001;+1;S002A;S003;+3;S006A;S007;+7;S014A;+1;S015;+2;S017A;S018;+8;S026A;+1;S027;+8
S035A;S036;+10;T001;+2;T003A;T004;+3;T007A;T008;T008A;T009;T009A;T010;+1;T011A;T012;+4;T016A;T017
+15;T032A;T033;T033A;T034;+2;U001;+5;U006A;+1;U007;+16;U023A;U024;+5;U029A;U030;+2;U032A;U033;+9
V001;V001A;+8;V002;V002A;V003;+4;V007A;+1;V008;+3;V011A;+2;V012;V012A;+1;V013;+7;V020A;+11;V021
+2;V023A;V024;+4;V028A;V029;V029A;V030;V030A;V031;V031A;V032;+1;V033A;V034;+3;V037A;V038;+2;V040A
W001;+2;W003A;W004;+5;W009A;W010;W010A;W011;+3;W014A;W015;+2;W017A;W018;W018A;W019;+5;W024A;W025
X001;+3;X004A;+1;X005;+1;X006A;X007;+1;X008A;Y001;Y001A;Y002;+6;Z001;+1;Z002A;+3;Z003;Z003A;+1
Z004;Z004A;Z005;Z005A;Z006;+9;Z015A;+8;Z016;Z016A;+7;AA001;+6;AA007A;+1;AA008;+24"⟩,
    ⟨0x13430, "EGYPTIAN HIEROGLYPH ! JOINER;2a];INSERT AT TOP START;4aBOTTOM;TOP END;aBOTTOM
2OVERLAY MIDDLE;BEGIN SEGMENT;aEND"⟩,
    ⟨0x14400, "ANATOLIAN HIEROGLYPH A001;+9;2A010A;A011;+15;A026A;A027;+12;A039A;A040;+1;A041A
A042;+3;A045A;A046;A046A;+1;A047;+19;A066A;+2;A067;+30;A097A;A098;A098A;A099;+1;A100A;A101;A101A
A102;A102A;A103;+1;A104A;+2;A105;A105A;+1;A106;+1;A107A;+2;A108;+2;A110A;+1;A111;+4;A115A;A116;+9
A125A;A126;+9;A135A;A136;+66;A202A;+1;A203;+4;A207A;A208;+1;A209A;A210;+5;A215A;A216;A216A;A217
+10;A227A;A228;+39;A267A;A268;+21;A289A;A290;+4;A294A;A295;+4;A299A;A300;+9;A309A;A310;+19;A329A
A330;+1;A332A;+2;A333;+3;A336A;+2;A337;+22;A359A;A360;+4;A364A;A365;+3;A368A;A369;+2;A371A;A372
+9;A381A;A382;A383 RA OR RI;A383A;A384;+2;A386A;A387;+5;A393 EIGHT;A394;+15
A410 BEGIN LOGOGRAM MARK;bA410A END;A411;+39;A450A;A451;+6;A457A;A458;+39;A501;+29"⟩ ]

end TagTree.Text
