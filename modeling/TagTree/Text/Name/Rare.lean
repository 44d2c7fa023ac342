import TagTree.Text.Name.Basic

/-!
# Names of characters: rare scripts

From Bamum to Duployan, with the components of Tangut among them.
-/

namespace TagTree.Text

/-- The runs of named characters from 0x16800 to 0x1bfff. -/
def rareNames : List NameRun :=
  [ ⟨0x16800, "BAMUM . PHASE-A NGKUE MFON;3GBIEE FON;PON MFON PIPAEMGBIEE;5PIPAEMBA;3NAA MFON
SHUENSHUET;TITA MFON;aNZA;SHINDA PA NJI;PON PA NJI PIPAEMGBIEE;6PIPAEMBA;3MAEMBGBIEE;TU MAEMBA
NGANGU;MAEMVEUX;MANSUAE;MVEUAENGAM;SEUNYAM;NTOQPEN;KEUKEUTNDA;NKINDI;SUU;NGKUENZEUM;LAPAQ;LET KUT
NTAP MFAA;MAEKEUP;PASHAE;GHEUAERAE;PAMSHAE;MON NGGEUAET;NZUN MEUT;U YUQ NAE;GHEUAEGHEUAE
NTAP NTAA;SISA;MGBASA;MEUNJOMNDEUQ;MOOMPUQ;KAFA;PA LEERAEWA;aNDA;PET;MAEMKPEN;NIKA;PUP;TUAEP
LUAEP;SONJAM;TEUTEUWEN;MAENYI;KET;NDAANGGEUAET;KUOQ;MOOMEUT;SHUM;LOMMAE;FIRI;ROM;KPOQ;SOQ
MAP PIEET;SHIRAE;NTAP;SHOQ NSHUT YUM;NYIT MONGKEUAEQ;PAARAE;NKAARAE;UNKNOWN;NGGEN;MAESI;NJAM
MBANYI;NYET;TEUAEN;SOT;PAAM;NSHIEE;MAEM;NYI;KAQ;NSHA;VEE;LU;NEN;NAQ;MBAQ;2PHASE-B NSHUET
3TU MAEMGBIEE;SIEE;SET TU;LOM NTEUM;MBA MAELEE;KIEEM;YEURAE;MBAARAE;KAM;PEESHI;YAFU LEERAEWA
LAM NSHUT NYAM;NTIEE SHEUOQ;NDU NJAA;GHEUGHEUAEM;PIT;TU NSIEE;SHET NJAQ;SHEUAEQTU;MFON TEUAEQ
MBIT MBAAKET;NYI NTEUM;KEUPUQ;GHEUGHEN;KEUYEUX;LAANAE;PARUM;VEUM;NGKINDI MVOP;NGGEU MBU;WUAET
SAKEUAE;TAAM;MEUQ;NGGUOQ;4LARGE;3MFIYAQ;SUE;MBEURI;MONTIEEN;NYAEMAE;PUNGAAM;MEUT NGGEET;FEUX
MBUOQ;FEE;KEUAEM;MA NJEUAENA;4NJUQA;3LET;NGGAAM;NSEN;MA;KIQ;NGOM;2PHASE-C NGKUE MAEMBA;3NZA;YUM
WANGKUOQ;NGGEN;NDEUAEREE;NGKAQ;GHARAE;MBEEKEET;GBAYI;NYIR MKPARAQ MEUN;NTU MBIT;MBEUM;PIRIEEN
NDOMBU;MBAA CABBAGE-TREE;KEUSHEUAEP;GHAP;KEUKAQ;YU MUOMAE;NZEUM;MBUE;NSEUAEN;MBIT;YEUQ;KPARAQ;KAA
SEUX;NDIDA;TAASHAE;NJUEQ;TITA YUE;SUAET;NGGUAEN NYAM;VEUX;NANSANAQ;MA KEUAERI;NTAA;NGGUON;LAP
MBIRIEEN;MGBASAQ;NTEUNGBA;TEUTEUX;NGGUM;FUE;NDEUT;NSA;NSHAQ;BUNG;VEUAEPEN;MBERAE;RU;NJAEM;LAM
TITUAEP;NSUOT NGOM;NJEEEE;KET;NGGU;MAESI;MBUAEM;LU;KUT;NJAM;NGOM;WUP;NGGUEET;NSOM;NTEN
KUOP NKAARAE;NSUN;NDAM;MA NSIEE;YAA;NDAP;SHUEQ;SETFON;MBI;MAEMBA;MBANYI;KEUSEUX;MBEUX;KEUM
MBAA PICKET;YUWOQ;NJEUX;MIEE;MUAE;SHIQ;KEN LAW;4FATIGUE;3NGAQ;NAQ;LIQ;PIN;PEN;TET;2PHASE-D MBUO
3WAP;NJI;MFON;NJIEE;LIEE;NJEUT;NSHEE;NGGAAMAE;NYAM;WUAEN;NGKUN;SHEE;NGKAP;KEUAETMEUN;TEUT;SHEUAE
NJAP;SUE;KET;YAEMMAE;KUOM;SAP;MFEUT;NDEUX;MALEERI;MEUT;SEUAEQ;YEN;NJEUAEM;KEUOT MBUAE;NGKEURI;TU
GHAA;NGKYEE;FEUFEUAET;NDEE;MGBOFUM;LEUAEP;NDON;MONI;MGBEUN;PUUT;MGBIEE;MFO;LUM;NSIEEP;MBAA;KWAET
NYET;TEUAEN;SOT;YUWOQ;KEUM;RAEM;TEEEE;NGKEUAEQ;MFEUAE;NSIEET;KEUP;PIP;PEUTAE;NYUE;LET;NGGAAM
MFIEE;NGGWAEN;YUOM;PAP;YUOP;NDAM;NTEUM;SUAE;KUN;NGGEUX;NGKIEE;TUOT;MEUN;KUQ;NSUM;TEUN;MAENJET
NGGAP;LEUM;NGGUOM;NSHUT;NJUEQ;GHEUAE;KU;REN OLD;TAE;TOQ;NYI;RII;LEEEE;MEEEE;M;SUU;MU;SHII;SHEUX
KYEE;NU;SHU;NTEE;PEE;NI;SHOQ;PUQ;MVOP;LOQ;REN MUCH;TI;NTUU;MBAA SEVEN;SAQ;FAA;2PHASE-E NDAP;3TOON
MBEUM;LAP;VOM;LOON;PAA;SOM;RAQ;NSHUOP;NDUN;PUAE;TAM;NGKA;KPEUX;WUO;SEE;NGGEUAET;PAAM;TOO;KUOP;LOM
NSHIEE;NGOP;MAEM;NGKEUX;NGOQ;NSHUE;RIMGBA;NJEUX;PEEM;SAA;NGGURAE;MGBA;GHEUX;NGKEUAEM;NJAEMLI;MAP
LOOT;NGGEEEE;NDIQ;TAEN NTEUM;SET;PUM;NDAA SOFTNESS;NGGUAESHAE NYAM;YIEE;GHEUN;TUAE;YEUAE;PO;TUMAE
KEUAE;SUAEN;TEUAEQ;VEUAE;WEUX;LAAM;PU;TAAQ;GHAAMAE;NGEUREUT;SHEUAEQ;MGBEN;MBEE;NZAQ;NKOM;GBET;TUM
KUET;YAP;NYI CLEAVER;YIT;MFEUQ;NDIAQ;PIEEQ;YUEQ;LEUAEM;FUE;GBEUX;NGKUP;KET;MAE;NGKAAMI;GHET;FA
NTUM;PEUT;YEUM;NGGEUAE;NYI BETWEEN;NZUQ;POON;MIEE;FUET;NAE;MUAE;GHEUAE;FU I;MVI;PUAQ;NGKUM;KUT
PIET;NTAP;YEUAET;NGGUP;PA PEOPLE;FU CALL;FOM;NJEE;A;TOQ;O;I;LAQ;PA PLURAL;TAA;TAQ;NDAA MY HOUSE
SHIQ;YEUX;NGUAE;YUAEN;YOQ SWIMMING;4COVER;3YUQ;YUN;KEUX;PEUX;NJEE EPOCH;PUE;WUE;FEE;VEE;LU;MI
REUX;RAE;NGUAET;NGA;SHO;SHOQ;FU REMEDY;NA;PI;LOQ;KO;MEN;MA;MAQ;TEU;KI;MON;TEN;FAQ;GHOM
2PHASE-F KA;3U;KU;EE;REE;TAE;NYI;LA;RII;RIEE;MEEEE;TAA;NDAA;NJAEM;M;SUU;SHII;SI;SEUX;KYEE;KET
NUAE;NU;NJUAE;YOQ;SHU;YA;NSHA;PEUX;NTEE;WUE;PEE;RU;NI;REUX;KEN;NGKWAEN;NGGA;SHO;PUAE;FOM;WA;LI
LOQ;KO;MBEN;REN;MA;MO;MBAA;TET;KPA;SAMBA;VUEQ"⟩,
    ⟨0x16a40, "MRO . TA;2NGI;YO;MIM;BA;DA;A;PHI;KHAI;HAO;DAI;CHU;KEAAE;OL;MAEM;NIN;PA;OO;O;RO;SHI
THEA;EA;WA;E;KO;LAN;LA;HAI;RI;TEK"⟩,
    ⟨0x16a60, "MRO DIGIT ZERO;2ONE;TWO;%;FOUR;FIVE;SIX;SEVEN;EIGHT;NINE"⟩,
    ⟨0x16a6e, "MRO DANDA;1a=;0TANGSA . OZ;2OC;OQ;OX;AZ;AC;AQ;AX;VZ;VC;VQ;VX;EZ;EC;EQ;EX;IZ;IC;IQ
IX;UZ;UC;UQ;UX;AWZ;AWC;AWQ;AWX;UIZ;UIC;UIQ;UIX;) NG;LONG UEX;SHORT UEZ;3AWX;2UEC;UEZ;UEQ;UEX;UIUZ
UIUC;UIUQ;UIUX;MZ;MC;MQ;MX;KA;KHA;GA;NGA;SA;YA;WA;PA;NYA;PHA;BA;MA;NA;HA;LA;HTA;TA;DA;RA;NHA;SHA
CA;TSA;GHA;HTTA;THA;XA;FA;DHA;CHA;ZA"⟩,
    ⟨0x16ac0, "TANGSA DIGIT ZERO;2ONE;TWO;%;FOUR;FIVE;SIX;SEVEN;EIGHT;NINE"⟩,
    ⟨0x16ad0, "BASSA VAH . ENNI;3KA;SE;FA;MBE;YIE;GAH;DHII;KPAH;JO;HWAH;WA;ZO;GBU;DO;CE;UWU;TO;BA
VU;YEIN;PA;WADDA;A;O;OO;U;EE;E;I"⟩,
    ⟨0x16af0, "BASSA VAH COMBINING HIGH TONE;3aLOW;aMID;aLOW-MID;aHIGH-LOW;2FULL STOP"⟩,
    ⟨0x16b00, "PAHAWH HMONG VOWEL KEEB;3KEEV;KIB;KIV;KAUB;KAUV;KUB;KUV;KEB;KEV;KAIB;KAIV;KOOB
KOOV;KAWB;KAWV;KUAB;KUAV;KOB;KOV;KIAB;KIAV;KAB;KAV;KWB;KWV;KAAB;KAAV;2CONSONANT VAU;3NTSAU;LAU
HAU;NLAU;RAU;NKAU;QHAU;YAU;HLAU;MAU;CHAU;NCHAU;HNAU;PLHAU;NTHAU;NAU;AU;XAU;CAU;2MARK CIM TUB;4SO
KES;KHAV;SUAM;HOM;TAUM;2$ VOS THOM;4TSHAB CEEB;3CIM CHEEM;VOS THIAB;4FEEM;3XYEEM NTXIV;4RHO;TOV
FAIB;3VOS SEEV;MEEJ SUAB;VOS NRUA;IB YAM;XAUS;CIM TSOV ROG"⟩,
    ⟨0x16b50, "PAHAWH HMONG DIGIT ZERO;3ONE;TWO;%;FOUR;FIVE;SIX;SEVEN;EIGHT;NINE"⟩,
    ⟨0x16b5b, "PAHAWH HMONG NUMBER TENS;3HUNDREDS;TEN THOUSANDS;MILLIONS;aHUNDRED;TEN BILLIONS
TRILLIONS"⟩,
    ⟨0x16b63, "PAHAWH HMONG $ VOS LUB;3XYOO;HLI;aTHIRD-STAGE;ZWJ THAJ;HNUB;NQIG;XIAB;NTUJ;AV
TXHEEJ CEEV;MEEJ TSEEB;TAU;LOS;MUS;CIM HAIS LUS NTOG NTOG;4CUAM TSHOOJ;TXWV;5CHWV;4PUB DAWB
NRES TOS"⟩,
    ⟨0x16b7d, "PAHAWH HMONG CLAN $ TSHEEJ;4YEEG;LIS;LAUJ;XYOOJ;KOO;HAWJ;MUAS;THOJ;TSAB;PHAB;KHAB
HAM;VAJ;FAJ;YAJ;TSWB;KWM;VWJ"⟩,
    ⟨0x16e40, "MEDEFAIDRIN ^ . M;3S;V;+1;ATIU;Z;KP;P;T;G;F;I;K;A;J;E;B;+1;U;YU;L;Q;HP;NY;X;D;OE;N
R;O;AI;Y;1_ . M;3S;V;+1;ATIU;Z;KP;P;T;G;F;I;K;A;J;E;B;+1;U;YU;L;Q;HP;NY;X;D;OE;N;R;O;AI;Y
1DIGIT ZERO;2ONE;TWO;%;FOUR;FIVE;SIX;SEVEN;EIGHT;NINE;1NUMBER TEN;2ELEVEN;TWELVE;THIRTEEN
FOURTEEN;FIFTEEN;SIXTEEN;SEVENTEEN;EIGHTEEN;NINETEEN;1DIGIT ONE ALTERNATE FORM;2bTWO;b%;1COMMA
FULL STOP;SYMBOL AIVA;EXCLAMATION OH"⟩,
    ⟨0x16f00, "MIAO . PA;2BA;YI PA;PLA;MA;MHA;ARCHAIC MA;FA;VA;VFA;TA;DA;YI TTA;3TA;2TTA;DDA;NA
NHA;YI NNA;ARCHAIC NA;NNA;NNHA;LA;LYA;LHA;LHYA;TLHA;DLHA;TLHYA;DLHYA;KA;GA;YI KA;QA;QGA;NGA;NGHA
ARCHAIC NGA;HA;XA;GHA;GHHA;TSSA;DZZA;NYA;NYHA;TSHA;DZHA;YI TSHA;3DZHA;2REFORMED TSHA;SHA;SSA;ZHA
ZSHA;TSA;DZA;YI TSA;SA;ZA;ZSA;ZZA;ZZSA;ARCHAIC ZZA;ZZYA;ZZSYA;WA;AH;HHA;BRI;SYI;DZYI;TE;TSE;RTE"⟩,
    ⟨0x16f4f, "MIAO $ CONSONANT MODIFIER BAR;1. NASALIZATION;$ ASPIRATION;2REFORMED VOICING
3ASPIRATION;1VOWEL $ A;3AA;AHH;AN;ANG;O;OO;WO;W;E;EN;ENG;OEY;I;IA;IAN;IANG;IO;IE;II;IU;ING;U;UA
UAN;UANG;UU;UEI;UNG;Y;YI;AE;AEE;ERR;aROUNDED;ER;aROUNDED;AI;EI;AU;OU;N;NG;UOG;YUI;OG;OER;VW;IG;EA
IONG;UI"⟩,
    ⟨0x16f8f, "MIAO TONE >;2aTOP;*;BELOW;1. TONE-2;+6;2REFORMED TONE-1;+1;3TONE-4;+2;TONE-8"⟩,
    ⟨0x16fe0, "TANGUT ITERATION MARK;bNUSHU;aOLD CHINESE HOOK;2aITERATION;0KHITAN _ SCRIPT FILLER"⟩,
    ⟨0x16ff0, "VIETNAMESE ALTERNATE READING MARK CA;4NHAY"⟩,
    ⟨0x18800, "TANGUT COMPONENT-001;+767"⟩,
    ⟨0x1aff0, "KATAKANA . MINNAN TONE-2;+3"⟩,
    ⟨0x1aff5, "KATAKANA . MINNAN TONE-7;+1;3NASALIZED TONE-1;+4"⟩,
    ⟨0x1affd, "KATAKANA . MINNAN NASALIZED TONE-7;+1"⟩,
    ⟨0x1b000, "KATAKANA . ARCHAIC E;HIRAGANA . ARCHAIC YE;HENTAIGANA . A-1;+2;2A-WO;I-1;+3;U-1;+4
E-2;+4;O-1;+2;KA-1;+10;KA-KE;KI-1;+7;KU-1;+6;KE-1;+5;KO-1;+2;KO-KI;SA-1;+7;SI-1;+5;SU-1;+7;SE-1
+4;SO-1;+6;TA-1;+3;TI-1;+6;TU-1;+3;TU-TO;TE-1;+8;TO-1;+5;TO-RA;NA-1;+8;NI-1;+6;NI-TE;NU-1;+2;NE-1
+5;NE-KO;NO-1;+4;HA-1;+10;HI-1;+6;HU-1;+2;HE-1;+6;HO-1;+7;MA-1;+6;MI-1;+6;MU-1;+3;ME-1;+1;ME-MA
MO-1;+5;YA-1;+4;YA-YO;YU-1;+3;YO-1;+5;RA-1;+3;RI-1;+6;RU-1;+5;RE-1;+3;RO-1;+5;WA-1;+4;WI-1;+4
WE-1;+3;WO-1;+6;N-MU-MO-1;+1;0HIRAGANA . ARCHAIC WU;KATAKANA . ARCHAIC YI;3YE;WU"⟩,
    ⟨0x1b150, "HIRAGANA . _ WI;3WE;WO"⟩,
    ⟨0x1b164, "KATAKANA . _ WI;3WE;WO;N"⟩,
    ⟨0x1bc00, "DUPLOYAN . H;2X;P;T;F;K;+1;B;D;V;G;R;P N;D S;F N;K M;R S;TH;SLOAN DH;DH;KK;SLOAN J
HL;LH;RH;M;+1;J;S;M N;N M;aJ;S J;M & DOT;bN;bJ;4DOTS INSIDE ? *;2S & DOT;5BELOW;2M S;aN;aJ;aS
aM N;aN M;bJ;aS J;J S & DOT;3N;4S;2S T;4R;3P;4R;2T S;3aR;2W;WH;W R;S N;3M;2K R S;bG;S K;4R;2A
SLOAN OW;OA;O;AOU;I;E;IE;SHORT I;UI;EE;SLOAN EH;ROMANIAN I;SLOAN EE;LONG I;YE;U;EU;XW;U N;LONG U
aROMANIAN;UH;SLOAN U;OOH;OW;OU;WA;WO;WI;WEI;WOW;NASAL U;3O;I;A;2PERNIN AN;3AM;2SLOAN EN;3AN;ON
2VOCALIC M"⟩,
    ⟨0x1bc70, "DUPLOYAN AFFIX < ] SECANT;2bMID;b>;aLOW !;bMID;bHIGH;aATTACHED;3aLEFT-TO-RIGHT
TANGENT;TAIL;E HOOK;aI;aTANGENT"⟩,
    ⟨0x1bc80, "DUPLOYAN AFFIX HIGH ACUTE;3aTIGHT;GRAVE;aLONG;DOT;CIRCLE;LINE;WAVE;!"⟩,
    ⟨0x1bc90, "DUPLOYAN AFFIX LOW ACUTE;3aTIGHT;GRAVE;aLONG;DOT;CIRCLE;LINE;WAVE;!;:"⟩,
    ⟨0x1bc9c, "DUPLOYAN $ O & CROSS;1THICK . SELECTOR;= MARK;PUNCTUATION CHINOOK FULL STOP
0SHORTHAND FORMAT . OVERLAP;2aCONTINUING;DOWN STEP;aUP"⟩ ]

end TagTree.Text
