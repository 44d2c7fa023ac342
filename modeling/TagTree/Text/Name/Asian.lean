import TagTree.Text.Name.Basic

/-!
# Names of characters: scripts of South Asia, Africa and America

From Samaritan to Batak, with Ethiopic, Cherokee and the Canadian syllabics among them.
-/

namespace TagTree.Text

/-- The runs of named characters from 0x800 to 0x1bff. -/
def asianNames : List NameRun :=
  [ ⟨0x800, "SAMARITAN . ALAF;2BIT;GAMAN;DALAT;IY;BAA;ZEN;IT;TIT;YUT;KAAF;LABAT;MIM;NUN;SINGAAT
IN;FI;TSAADIY;QUF;RISH;SHAN;TAAF;1MARK IN;2IN-ALAF;OCCLUSION;DAGESH;1MODIFIER . EPENTHETIC YUT
bMARK;VOWEL $ LONG E;3E;OVERLONG AA;aLONG;AA;OVERLONG A;aLONG;A;1aMODIFIER . SHORT;bVOWEL $
3LONG U;U;1MODIFIER . I;aVOWEL $ LONG;3I;O;SUKUN;1MARK NEQUDAA"⟩,
    ⟨0x830, "SAMARITAN PUNCTUATION NEQUDAA;2AFSAAQ;ANGED;BAU;ATMAAU;SHIYYAALAA;1ABBREVIATION MARK
PUNCTUATION MELODIC QITSA;2ZIQAA;QITSA;ZAEF;TURU;ARKAANU;SOF MASHFAAT;ANNAAU"⟩,
    ⟨0x840, "MANDAIC . HALQA;2AB;AG;AD;AH;USHENNA;AZ;IT;ATT;AKSA;AK;+3;AS;IN;AP;ASZ;AQ;+1;ASH;AT
DUSHENNA;KAD;AIN;1AFFRICATION MARK;aVOCALIZATION;aGEMINATION"⟩,
    ⟨0x85e, "MANDAIC PUNCTUATION"⟩,
    ⟨0x860, "SYRIAC . MALAYALAM NGA;3JA;NYA;TTA;NNA;NNNA;BHA;RA;LLA;LLLA;SSA"⟩,
    ⟨0x870, "ARABIC . ALEF & ATTACHED FATHA;5aTOP >;4> MIDDLE STROKE;b<;ATTACHED KASRA;5aBOTTOM >
ROUND DOT *;> ROUND DOT;b<;ROUND DOT BELOW;4DOT *;bATTACHED TOP > FATHA ?;c> MIDDLE STROKE
cATTACHED BOTTOM > KASRA;5TOP > FATHA ? < RING;4c> MIDDLE STROKE;cATTACHED BOTTOM > KASRA
5> HAMZA;a<;1aTATWEEL & OVERSTRUCK;4WAW;3TWO DOTS BELOW;1. THIN YEH;BASELINE ROUND DOT;bRAISED
. NOON & INVERTED _ V;2HAH & INVERTED _ V BELOW;aTAH & DOT;4a% DOTS;2aKEHEH & TWO DOTS VERTICALLY
1! TAIL"⟩,
    ⟨0x890, "ARABIC POUND MARK *;1bPIASTRE"⟩,
    ⟨0x898, "ARABIC _ HIGH WORD AL-JUZ;2LOW WORD ISHMAAM;4IMAALA;TASHEEL;1MADDA WAAJIB
SUPERSCRIPT ALEF MOKHASSAS;DOUBLED MADDA;aHALF MADDA OVER;. BEH & _ V BELOW;4HAMZA *
2aJEEM & TWO DOTS;dTAH;bFEH & DOT BELOW ? %;QAF & DOT BELOW;LAM & = BAR;MEEM & % DOTS *
aYEH & TWO DOTS BELOW ? HAMZA;8aDOT;2REH & LOOP;WAW & DOT WITHIN;ROHINGYA YEH;LOW ALEF
DAL & % DOTS BELOW;dSAD;GAF & INVERTED STROKE;STRAIGHT WAW;ZAIN & INVERTED V *;AIN & % DOTS BELOW
aKAF & DOT;QAF & DOT BELOW ? NO DOTS *;aBEH & _ MEEM;dPEH;aTEH & _ TEH;aREH & _ NOON
cYEH & TWO DOTS BELOW ?;AFRICAN FEH;3QAF;NOON;2PEH & _ V;cTEH;cTTEH;cTCHEH;cKEHEH
GHAIN & % DOTS *;dAFRICAN QAF;dJEEM;6BELOW;2LAM & _ ARABIC . TAH *;GRAF;1_ FARSI YEH;2bHIGH
3YEH BARREE & TWO DOTS BELOW;WORD SAH;ZAH;1LARGE ROUND DOT *;4BELOW;1aSUKUN;aLARGE CIRCLE
2bROUND DOT INSIDE;1_ LOW WAW;2HIGH WORD AR-RUB;3SAD;AIN;QAF;NOON & KASRA;2cLOW
HIGH WORD ATH-THALATHA;4AS-SAJDA;AN-NISF;SAKTA;QIF;WAQFA;3FOOTNOTE MARKER;$ SAFHA
1DISPUTED END OF AYAH;TURNED DAMMA BELOW;CURLY FATHA;2DAMMA;KASRA;FATHATAN;DAMMATAN;KASRATAN
1TONE ONE DOT *;2aTWO DOTS;aLOOP;ONE DOT BELOW;aTWO DOTS;aLOOP;1OPEN FATHATAN;2DAMMATAN;KASRATAN
1_ HIGH WAW;FATHA & RING;3DOT *;1KASRA & DOT BELOW;< ARROWHEAD *;b>;< ARROWHEAD BELOW;b>
= > ARROWHEAD *;5& DOT;1d>;bDAMMA;MARK SIDEWAYS NOON GHUNNA;0DEVANAGARI $ INVERTED CANDRABINDU
1a$;2ANUSVARA;VISARGA;1. SHORT A;a.;2AA;I;II;U;UU;VOCALIC R;3L;2CANDRA E;aSHORT;E;AI;CANDRA O
aSHORT;O;AU;KA;KHA;GA;GHA;NGA;CA;CHA;JA;JHA;NYA;TTA;TTHA;DDA;DDHA;NNA;TA;THA;DA;DHA;NA;NNNA;PA
PHA;BA;BHA;MA;YA;RA;RRA;LA;LLA;LLLA;VA;SHA;SSA;SA;HA;1VOWEL $ OE;3OOE;1$ NUKTA;2AVAGRAHA
1VOWEL $ AA;3I;II;U;UU;VOCALIC R;4RR;3CANDRA E;aSHORT;E;AI;CANDRA O;aSHORT;O;AU;1$ VIRAMA
VOWEL $ PRISHTHAMATRA E;3AW;1OM;STRESS $ UDATTA;3ANUDATTA;1GRAVE ACCENT;aACUTE
VOWEL $ CANDRA LONG E;3UE;UUE;1. QA;2KHHA;GHHA;ZA;DDDHA;RHA;FA;YYA;VOCALIC RR;3LL
1VOWEL $ VOCALIC L;4LL;1DANDA;a=;DIGIT ZERO;2ONE;TWO;%;FOUR;FIVE;SIX;SEVEN;EIGHT;NINE
1ABBREVIATION $;$ HIGH SPACING DOT;. CANDRA A;2OE;OOE;AW;UE;UUE;MARWARI DDA;ZHA;HEAVY YA;GGA;JJA
GLOTTAL STOP;DDDA;BBA;0BENGALI ANJI;1$ CANDRABINDU;2ANUSVARA;VISARGA"⟩,
    ⟨0x985, "BENGALI . A;2AA;I;II;U;UU;VOCALIC R;3L"⟩,
    ⟨0x98f, "BENGALI . E;2AI"⟩,
    ⟨0x993, "BENGALI . O;2AU;KA;KHA;GA;GHA;NGA;CA;CHA;JA;JHA;NYA;TTA;TTHA;DDA;DDHA;NNA;TA;THA;DA
DHA;NA"⟩,
    ⟨0x9aa, "BENGALI . PA;2PHA;BA;BHA;MA;YA;RA"⟩,
    ⟨0x9b2, "BENGALI . LA"⟩,
    ⟨0x9b6, "BENGALI . SHA;2SSA;SA;HA"⟩,
    ⟨0x9bc, "BENGALI $ NUKTA;2AVAGRAHA;1VOWEL $ AA;3I;II;U;UU;VOCALIC R;4RR"⟩,
    ⟨0x9c7, "BENGALI VOWEL $ E;3AI"⟩,
    ⟨0x9cb, "BENGALI VOWEL $ O;3AU;1$ VIRAMA;. KHANDA TA"⟩,
    ⟨0x9d7, "BENGALI AU LENGTH MARK"⟩,
    ⟨0x9dc, "BENGALI . RRA;2RHA"⟩,
    ⟨0x9df, "BENGALI . YYA;2VOCALIC RR;3LL;1VOWEL $ VOCALIC L;4LL"⟩,
    ⟨0x9e6, "BENGALI DIGIT ZERO;2ONE;TWO;%;FOUR;FIVE;SIX;SEVEN;EIGHT;NINE;1. RA & MIDDLE DIAGONAL
4aLOWER;1RUPEE MARK;2$;1CURRENCY NUMERATOR ONE;3TWO;%;FOUR;ONE LESS THAN THE DENOMINATOR
2DENOMINATOR SIXTEEN;1ISSHAR;GANDA MARK;. VEDIC ANUSVARA;ABBREVIATION $;SANDHI MARK"⟩,
    ⟨0xa01, "GURMUKHI $ ADAK BINDI;1a$;2VISARGA"⟩,
    ⟨0xa05, "GURMUKHI . A;2AA;I;II;U;UU"⟩,
    ⟨0xa0f, "GURMUKHI . EE;2AI"⟩,
    ⟨0xa13, "GURMUKHI . OO;2AU;KA;KHA;GA;GHA;NGA;CA;CHA;JA;JHA;NYA;TTA;TTHA;DDA;DDHA;NNA;TA;THA
DA;DHA;NA"⟩,
    ⟨0xa2a, "GURMUKHI . PA;2PHA;BA;BHA;MA;YA;RA"⟩,
    ⟨0xa32, "GURMUKHI . LA;2LLA"⟩,
    ⟨0xa35, "GURMUKHI . VA;2SHA"⟩,
    ⟨0xa38, "GURMUKHI . SA;2HA"⟩,
    ⟨0xa3c, "GURMUKHI $ NUKTA"⟩,
    ⟨0xa3e, "GURMUKHI VOWEL $ AA;3I;II;U;UU"⟩,
    ⟨0xa47, "GURMUKHI VOWEL $ EE;3AI"⟩,
    ⟨0xa4b, "GURMUKHI VOWEL $ OO;3AU;1$ VIRAMA"⟩,
    ⟨0xa51, "GURMUKHI $ UDAAT"⟩,
    ⟨0xa59, "GURMUKHI . KHHA;2GHHA;ZA;RRA"⟩,
    ⟨0xa5e, "GURMUKHI . FA"⟩,
    ⟨0xa66, "GURMUKHI DIGIT ZERO;2ONE;TWO;%;FOUR;FIVE;SIX;SEVEN;EIGHT;NINE;1TIPPI;ADDAK;IRI;URA
EK ONKAR;$ YAKASH;ABBREVIATION $"⟩,
    ⟨0xa81, "GUJARATI $ CANDRABINDU;2ANUSVARA;VISARGA"⟩,
    ⟨0xa85, "GUJARATI . A;2AA;I;II;U;UU;VOCALIC R;3L;1VOWEL CANDRA E"⟩,
    ⟨0xa8f, "GUJARATI . E;2AI;1VOWEL CANDRA O"⟩,
    ⟨0xa93, "GUJARATI . O;2AU;KA;KHA;GA;GHA;NGA;CA;CHA;JA;JHA;NYA;TTA;TTHA;DDA;DDHA;NNA;TA;THA;DA
DHA;NA"⟩,
    ⟨0xaaa, "GUJARATI . PA;2PHA;BA;BHA;MA;YA;RA"⟩,
    ⟨0xab2, "GUJARATI . LA;2LLA"⟩,
    ⟨0xab5, "GUJARATI . VA;2SHA;SSA;SA;HA"⟩,
    ⟨0xabc, "GUJARATI $ NUKTA;2AVAGRAHA;1VOWEL $ AA;3I;II;U;UU;VOCALIC R;4RR;3CANDRA E"⟩,
    ⟨0xac7, "GUJARATI VOWEL $ E;3AI;CANDRA O"⟩,
    ⟨0xacb, "GUJARATI VOWEL $ O;3AU;1$ VIRAMA"⟩,
    ⟨0xad0, "GUJARATI OM"⟩,
    ⟨0xae0, "GUJARATI . VOCALIC RR;3LL;1VOWEL $ VOCALIC L;4LL"⟩,
    ⟨0xae6, "GUJARATI DIGIT ZERO;2ONE;TWO;%;FOUR;FIVE;SIX;SEVEN;EIGHT;NINE;1ABBREVIATION $;aRUPEE"⟩,
    ⟨0xaf9, "GUJARATI . ZHA;1$ SUKUN;2SHADDA;MADDAH;THREE-DOT NUKTA *;bCIRCLE;bTWO-CIRCLE"⟩,
    ⟨0xb01, "ORIYA $ CANDRABINDU;2ANUSVARA;VISARGA"⟩,
    ⟨0xb05, "ORIYA . A;2AA;I;II;U;UU;VOCALIC R;3L"⟩,
    ⟨0xb0f, "ORIYA . E;2AI"⟩,
    ⟨0xb13, "ORIYA . O;2AU;KA;KHA;GA;GHA;NGA;CA;CHA;JA;JHA;NYA;TTA;TTHA;DDA;DDHA;NNA;TA;THA;DA
DHA;NA"⟩,
    ⟨0xb2a, "ORIYA . PA;2PHA;BA;BHA;MA;YA;RA"⟩,
    ⟨0xb32, "ORIYA . LA;2LLA"⟩,
    ⟨0xb35, "ORIYA . VA;2SHA;SSA;SA;HA"⟩,
    ⟨0xb3c, "ORIYA $ NUKTA;2AVAGRAHA;1VOWEL $ AA;3I;II;U;UU;VOCALIC R;4RR"⟩,
    ⟨0xb47, "ORIYA VOWEL $ E;3AI"⟩,
    ⟨0xb4b, "ORIYA VOWEL $ O;3AU;1$ VIRAMA"⟩,
    ⟨0xb55, "ORIYA $ OVERLINE;1AI LENGTH MARK;bAU"⟩,
    ⟨0xb5c, "ORIYA . RRA;2RHA"⟩,
    ⟨0xb5f, "ORIYA . YYA;2VOCALIC RR;3LL;1VOWEL $ VOCALIC L;4LL"⟩,
    ⟨0xb66, "ORIYA DIGIT ZERO;2ONE;TWO;%;FOUR;FIVE;SIX;SEVEN;EIGHT;NINE;1ISSHAR;. WA
FRACTION ONE QUARTER;3HALF;2% QUARTERS;ONE SIXTEENTH;3EIGHTH;2% SIXTEENTHS"⟩,
    ⟨0xb82, "TAMIL $ ANUSVARA;2VISARGA"⟩,
    ⟨0xb85, "TAMIL . A;2AA;I;II;U;UU"⟩,
    ⟨0xb8e, "TAMIL . E;2EE;AI"⟩,
    ⟨0xb92, "TAMIL . O;2OO;AU;KA"⟩,
    ⟨0xb99, "TAMIL . NGA;2CA"⟩,
    ⟨0xb9c, "TAMIL . JA"⟩,
    ⟨0xb9e, "TAMIL . NYA;2TTA"⟩,
    ⟨0xba3, "TAMIL . NNA;2TA"⟩,
    ⟨0xba8, "TAMIL . NA;2NNNA;PA"⟩,
    ⟨0xbae, "TAMIL . MA;2YA;RA;RRA;LA;LLA;LLLA;VA;SHA;SSA;SA;HA"⟩,
    ⟨0xbbe, "TAMIL VOWEL $ AA;3I;II;U;UU"⟩,
    ⟨0xbc6, "TAMIL VOWEL $ E;3EE;AI"⟩,
    ⟨0xbca, "TAMIL VOWEL $ O;3OO;AU;1$ VIRAMA"⟩,
    ⟨0xbd0, "TAMIL OM"⟩,
    ⟨0xbd7, "TAMIL AU LENGTH MARK"⟩,
    ⟨0xbe6, "TAMIL DIGIT ZERO;2ONE;TWO;%;FOUR;FIVE;SIX;SEVEN;EIGHT;NINE;1NUMBER TEN;2ONE HUNDRED
3THOUSAND;1DAY $;aMONTH;aYEAR;aDEBIT;aCREDIT;aAS *;aRUPEE;aNUMBER"⟩,
    ⟨0xc00, "TELUGU $ COMBINING CANDRABINDU *;2CANDRABINDU;ANUSVARA;VISARGA;COMBINING ANUSVARA *
1. A;2AA;I;II;U;UU;VOCALIC R;3L"⟩,
    ⟨0xc0e, "TELUGU . E;2EE;AI"⟩,
    ⟨0xc12, "TELUGU . O;2OO;AU;KA;KHA;GA;GHA;NGA;CA;CHA;JA;JHA;NYA;TTA;TTHA;DDA;DDHA;NNA;TA;THA
DA;DHA;NA"⟩,
    ⟨0xc2a, "TELUGU . PA;2PHA;BA;BHA;MA;YA;RA;RRA;LA;LLA;LLLA;VA;SHA;SSA;SA;HA"⟩,
    ⟨0xc3c, "TELUGU $ NUKTA;2AVAGRAHA;1VOWEL $ AA;3I;II;U;UU;VOCALIC R;4RR"⟩,
    ⟨0xc46, "TELUGU VOWEL $ E;3EE;AI"⟩,
    ⟨0xc4a, "TELUGU VOWEL $ O;3OO;AU;1$ VIRAMA"⟩,
    ⟨0xc55, "TELUGU LENGTH MARK;1bAI"⟩,
    ⟨0xc58, "TELUGU . TSA;2DZA;RRRA"⟩,
    ⟨0xc5d, "TELUGU . NAKAARA POLLU"⟩,
    ⟨0xc60, "TELUGU . VOCALIC RR;3LL;1VOWEL $ VOCALIC L;4LL"⟩,
    ⟨0xc66, "TELUGU DIGIT ZERO;2ONE;TWO;%;FOUR;FIVE;SIX;SEVEN;EIGHT;NINE"⟩,
    ⟨0xc77, "TELUGU $ SIDDHAM;1FRACTION DIGIT ZERO FOR ODD POWERS OF FOUR;3eONE;eTWO;e%
cONE FOR EVEN;eTWO;e%;1$ TUUMU;0KANNADA $ SPACING CANDRABINDU;1a$;2ANUSVARA;VISARGA;SIDDHAM;1. A
2AA;I;II;U;UU;VOCALIC R;3L"⟩,
    ⟨0xc8e, "KANNADA . E;2EE;AI"⟩,
    ⟨0xc92, "KANNADA . O;2OO;AU;KA;KHA;GA;GHA;NGA;CA;CHA;JA;JHA;NYA;TTA;TTHA;DDA;DDHA;NNA;TA;THA
DA;DHA;NA"⟩,
    ⟨0xcaa, "KANNADA . PA;2PHA;BA;BHA;MA;YA;RA;RRA;LA;LLA"⟩,
    ⟨0xcb5, "KANNADA . VA;2SHA;SSA;SA;HA"⟩,
    ⟨0xcbc, "KANNADA $ NUKTA;2AVAGRAHA;1VOWEL $ AA;3I;II;U;UU;VOCALIC R;4RR"⟩,
    ⟨0xcc6, "KANNADA VOWEL $ E;3EE;AI"⟩,
    ⟨0xcca, "KANNADA VOWEL $ O;3OO;AU;1$ VIRAMA"⟩,
    ⟨0xcd5, "KANNADA LENGTH MARK;1bAI"⟩,
    ⟨0xcdd, "KANNADA . NAKAARA POLLU;2FA"⟩,
    ⟨0xce0, "KANNADA . VOCALIC RR;3LL;1VOWEL $ VOCALIC L;4LL"⟩,
    ⟨0xce6, "KANNADA DIGIT ZERO;2ONE;TWO;%;FOUR;FIVE;SIX;SEVEN;EIGHT;NINE"⟩,
    ⟨0xcf1, "KANNADA $ JIHVAMULIYA;2UPADHMANIYA"⟩,
    ⟨0xd00, "MALAYALAM $ COMBINING ANUSVARA *;2CANDRABINDU;ANUSVARA;VISARGA;1. VEDIC ANUSVARA;2A
AA;I;II;U;UU;VOCALIC R;3L"⟩,
    ⟨0xd0e, "MALAYALAM . E;2EE;AI"⟩,
    ⟨0xd12, "MALAYALAM . O;2OO;AU;KA;KHA;GA;GHA;NGA;CA;CHA;JA;JHA;NYA;TTA;TTHA;DDA;DDHA;NNA;TA
THA;DA;DHA;NA;NNNA;PA;PHA;BA;BHA;MA;YA;RA;RRA;LA;LLA;LLLA;VA;SHA;SSA;SA;HA;TTTA;1$ ! BAR VIRAMA
2aCIRCULAR;AVAGRAHA;1VOWEL $ AA;3I;II;U;UU;VOCALIC R;4RR"⟩,
    ⟨0xd46, "MALAYALAM VOWEL $ E;3EE;AI"⟩,
    ⟨0xd4a, "MALAYALAM VOWEL $ O;3OO;AU;1$ VIRAMA;. DOT REPH;$ PARA"⟩,
    ⟨0xd54, "MALAYALAM . CHILLU M;3Y;LLL;1AU LENGTH MARK;FRACTION ONE ONE-HUNDRED-AND-SIXTIETH
3FORTIETH;2% EIGHTIETHS;ONE TWENTIETH;3TENTH;2% TWENTIETHS;ONE FIFTH;1. ARCHAIC II;2VOCALIC RR
3LL;1VOWEL $ VOCALIC L;4LL"⟩,
    ⟨0xd66, "MALAYALAM DIGIT ZERO;2ONE;TWO;%;FOUR;FIVE;SIX;SEVEN;EIGHT;NINE;1NUMBER TEN
2ONE HUNDRED;3THOUSAND;1FRACTION ONE QUARTER;3HALF;2% QUARTERS;ONE SIXTEENTH;3EIGHTH
2% SIXTEENTHS;1DATE MARK;. CHILLU NN;3N;RR;L;LL;K"⟩,
    ⟨0xd81, "SINHALA $ CANDRABINDU;2ANUSVARAYA;VISARGAYA"⟩,
    ⟨0xd85, "SINHALA . AYANNA;2AAYANNA;AEYANNA;AEEYANNA;IYANNA;IIYANNA;UYANNA;UUYANNA;IRUYANNA
IRUUYANNA;ILUYANNA;ILUUYANNA;EYANNA;EEYANNA;AIYANNA;OYANNA;OOYANNA;AUYANNA"⟩,
    ⟨0xd9a, "SINHALA . ALPAPRAANA KAYANNA;2aMAHAAPRAANA;ALPAPRAANA GAYANNA;aMAHAAPRAANA
KANTAJA NAASIKYAYA;SANYAKA GAYANNA;ALPAPRAANA CAYANNA;aMAHAAPRAANA;ALPAPRAANA JAYANNA
aMAHAAPRAANA;TAALUJA NAASIKYAYA;3SANYOOGA NAAKSIKYAYA;2SANYAKA JAYANNA;ALPAPRAANA TTAYANNA
aMAHAAPRAANA;ALPAPRAANA DDAYANNA;aMAHAAPRAANA;MUURDHAJA NAYANNA;SANYAKA DDAYANNA
ALPAPRAANA TAYANNA;aMAHAAPRAANA;ALPAPRAANA DAYANNA;aMAHAAPRAANA;DANTAJA NAYANNA"⟩,
    ⟨0xdb3, "SINHALA . SANYAKA DAYANNA;2ALPAPRAANA PAYANNA;aMAHAAPRAANA;ALPAPRAANA BAYANNA
aMAHAAPRAANA;MAYANNA;AMBA BAYANNA;YAYANNA;RAYANNA"⟩,
    ⟨0xdbd, "SINHALA . DANTAJA LAYANNA"⟩,
    ⟨0xdc0, "SINHALA . VAYANNA;2TAALUJA SAYANNA;aMUURDHAJA;aDANTAJA;HAYANNA;MUURDHAJA LAYANNA
FAYANNA"⟩,
    ⟨0xdca, "SINHALA $ AL-LAKUNA"⟩,
    ⟨0xdcf, "SINHALA VOWEL $ AELA-PILLA;3KETTI AEDA-PILLA;aDIGA;KETTI IS-PILLA;aDIGA
KETTI PAA-PILLA"⟩,
    ⟨0xdd6, "SINHALA VOWEL $ DIGA PAA-PILLA"⟩,
    ⟨0xdd8, "SINHALA VOWEL $ GAETTA-PILLA;3KOMBUVA;aDIGA;KOMBU DEKA;KOMBUVA HAA AELA-PILLA;5aDIGA
GAYANUKITTA;2a$"⟩,
    ⟨0xde6, "SINHALA LITH DIGIT ZERO;3ONE;TWO;%;FOUR;FIVE;SIX;SEVEN;EIGHT;NINE"⟩,
    ⟨0xdf2, "SINHALA VOWEL $ DIGA GAETTA-PILLA;4GAYANUKITTA;1PUNCTUATION KUNDDALIYA"⟩,
    ⟨0xe01, "THAI CHARACTER KO KAI;2KHO KHAI;3KHUAT;KHWAI;KHON;RAKHANG;2NGO NGU;CHO CHAN;3CHING
CHANG;2SO SO;CHO CHOE;YO YING;DO CHADA;TO PATAK;THO THAN;3NANGMONTHO;PHUTHAO;2NO NEN;DO DEK
TO TAO;THO THUNG;3THAHAN;THONG;2NO NU;BO BAIMAI;PO PLA;PHO PHUNG;FO FA;PHO PHAN;FO FAN
PHO SAMPHAO;MO MA;YO YAK;RO RUA;RU;LO LING;LU;WO WAEN;SO SALA;3RUSI;SUA;2HO HIP;LO CHULA;O ANG
HO NOKHUK;PAIYANNOI;SARA A;MAI HAN-AKAT;SARA AA;3AM;I;II;UE;UEE;U;UU;2PHINTHU"⟩,
    ⟨0xe3f, "THAI CURRENCY SYMBOL BAHT;1CHARACTER SARA E;3AE;O;AI MAIMUAN;4MAIMALAI;2LAKKHANGYAO
MAIYAMOK;MAITAIKHU;MAI EK;3THO;TRI;CHATTAWA;2THANTHAKHAT;NIKHAHIT;YAMAKKAN;FONGMAN;1DIGIT ZERO
2ONE;TWO;%;FOUR;FIVE;SIX;SEVEN;EIGHT;NINE;1CHARACTER ANGKHANKHU;2KHOMUT"⟩,
    ⟨0xe81, "LAO . KO;2KHO SUNG"⟩,
    ⟨0xe84, "LAO . KHO TAM"⟩,
    ⟨0xe86, "LAO . PALI GHA;2NGO;CO;PALI CHA;SO TAM"⟩,
    ⟨0xe8c, "LAO . PALI JHA;2NYO;PALI NYA;3TTA;TTHA;DDA;DDHA;NNA;2DO;TO;THO SUNG;3TAM;2PALI DHA
NO;BO;PO;PHO SUNG;FO TAM;aPHO;FO SUNG;PALI BHA;MO;YO;LO LING"⟩,
    ⟨0xea5, "LAO . LO LOOT"⟩,
    ⟨0xea7, "LAO . WO;2SANSKRIT SHA;3SSA;2SO SUNG;aHO;PALI LLA;O;HO TAM;1ELLIPSIS;VOWEL $ A
3MAI KAN;AA;AM;I;II;Y;YY;U;UU;1$ PALI VIRAMA;VOWEL $ MAI KON;SEMIVOWEL $ LO;3NYO"⟩,
    ⟨0xec0, "LAO VOWEL $ E;3EI;O;AY;AI"⟩,
    ⟨0xec6, "LAO KO LA"⟩,
    ⟨0xec8, "LAO TONE MAI EK;3THO;TI;CATAWA;1CANCELLATION MARK;NIGGAHITA"⟩,
    ⟨0xed0, "LAO DIGIT ZERO;2ONE;TWO;%;FOUR;FIVE;SIX;SEVEN;EIGHT;NINE"⟩,
    ⟨0xedc, "LAO HO NO;2MO;1. KHMU GO;3NYO"⟩,
    ⟨0xf00, "TIBETAN SYLLABLE OM;1MARK GTER YIG MGO TRUNCATED A;5-UM RNAM BCAD MA;6aGTER TSHEG
2aINITIAL YIG MGO MDUN;aCLOSING YIG MGO SGAB;aCARET YIG MGO PHUR SHAD;bYIG MGO TSHEG;SBRUL SHAD
BSKUR YIG MGO;bBKA- SHOG;INTERSYLLABIC TSHEG;DELIMITER TSHEG BSTAR;SHAD;aNYIS;aTSHEG;bNYIS
aRIN CHEN SPUNGS;aRGYA GRAM;CARET -DZUD RTAGS ME LONG CAN;GTER TSHEG;1LOGOTYPE $ CHAD RTAGS
3aLHAG;1aASTROLOGICAL $ SGRA GCAN -CHAR;3-KHYUD PA;SDONG TSHUGS;1$ RDEL DKAR GCIG;4GNYIS;GSUM
3NAG GCIG;4GNYIS;3DKAR RDEL NAG;1DIGIT ZERO;2ONE;TWO;%;FOUR;FIVE;SIX;SEVEN;EIGHT;NINE;HALF ONE
3TWO;%;FOUR;FIVE;SIX;SEVEN;EIGHT;NINE;ZERO;1MARK BSDUS RTAGS;2NGAS BZUNG NYI ZLA
CARET -DZUD RTAGS BZHI MIG CAN;NGAS BZUNG SGOR RTAGS;CHE MGO;TSA -PHRU;GUG RTAGS GYON;4GYAS
2ANG KHANG GYON;4GYAS;1$ YAR TSHES;2aMAR;1. KA;2KHA;GA;GHA;NGA;CA;CHA;JA"⟩,
    ⟨0xf49, "TIBETAN . NYA;2TTA;TTHA;DDA;DDHA;NNA;TA;THA;DA;DHA;NA;PA;PHA;BA;BHA;MA;TSA;TSHA;DZA
DZHA;WA;ZHA;ZA;-A;YA;RA;LA;SHA;SSA;SA;HA;A;KSSA;FIXED-FORM RA;KKA;RRA"⟩,
    ⟨0xf71, "TIBETAN VOWEL $ AA;3I;II;U;UU;VOCALIC R;4RR;L;LL;3E;EE;O;OO;1$ RJES SU NGA RO
2RNAM BCAD;1VOWEL $ REVERSED I;4II;1$ NYI ZLA NAA DA;2SNA LDAN;1MARK HALANTA;2PALUTA;1$ LCI RTAGS
2aYANG;LCE TSA CAN;aMCHU;GRU CAN RGYINGS;3aMED;2INVERTED MCHU CAN;1aSUBJOINED $ LCE TSA;3aMCHU
bINVERTED;2. KA;3KHA;GA;GHA;NGA;CA;CHA;JA"⟩,
    ⟨0xf99, "TIBETAN SUBJOINED . NYA;3TTA;TTHA;DDA;DDHA;NNA;TA;THA;DA;DHA;NA;PA;PHA;BA;BHA;MA;TSA
TSHA;DZA;DZHA;WA;ZHA;ZA;-A;YA;RA;LA;SHA;SSA;SA;HA;A;KSSA;FIXED-FORM WA;4YA;RA"⟩,
    ⟨0xfbe, "TIBETAN KU RU KHA;4BZHI MIG CAN;1CANTILLATION $ HEAVY BEAT;3aLIGHT;CANG TE-U
SBUB -CHAL;1SYMBOL DRIL BU;2RDO RJE;PADMA GDAN;RDO RJE RGYA GRAM;PHUR PA;NOR BU;4NYIS -KHYIL
aGSUM;aBZHI"⟩,
    ⟨0xfce, "TIBETAN $ RDEL NAG RDEL DKAR;4GSUM;1MARK BSKA- SHOG GI MGO RGYAN;2cMNYAM YIG
NYIS TSHEG;INITIAL BRDA RNYING YIG MGO MDUN MA;aCLOSING BRDA RNYING YIG MGO SGAB
0RIGHT-FACING SVASTI $;bLEFT-FACING;RIGHT-FACING SVASTI $ & DOTS;dLEFT-FACING
TIBETAN MARK LEADING MCHAN RTAGS;2bTRAILING"⟩,
    ⟨0x1000, "MYANMAR . KA;2KHA;GA;GHA;NGA;CA;CHA;JA;JHA;NYA;NNYA;TTA;TTHA;DDA;DDHA;NNA;TA;THA;DA
DHA;NA;PA;PHA;BA;BHA;MA;YA;RA;LA;WA;SA;HA;LLA;A;aSHAN;I;II;U;UU;E;aMON;O;AU;1VOWEL $ TALL AA;3AA
I;II;U;UU;E;AI;MON II;4O;3E *;1$ ANUSVARA;2DOT BELOW;VISARGA;VIRAMA;ASAT;1CONSONANT $ MEDIAL YA
4RA;WA;HA;1. GREAT SA;DIGIT ZERO;2ONE;TWO;%;FOUR;FIVE;SIX;SEVEN;EIGHT;NINE;1$ LITTLE SECTION;a$
SYMBOL LOCATIVE;2COMPLETED;AFOREMENTIONED;GENITIVE;1. SHA;2SSA;VOCALIC R;3RR;L;LL
1VOWEL $ VOCALIC R;4RR;L;LL;1. MON NGA;3JHA;BBA;BBE;1CONSONANT $ MON MEDIAL NA;5MA;LA
1. SGAW KAREN SHA;VOWEL $ SGAW KAREN EU;TONE MARK SGAW KAREN HATHI;5KE PHO
1. WESTERN PWO KAREN THA;5PWA;1VOWEL $ WESTERN PWO KAREN EU;6UE;1$ WESTERN PWO KAREN TONE-1;+4
. EASTERN PWO KAREN NNA;5YWA;GHWA;1VOWEL $ GEBA KAREN I;3KAYAH OE;4U;EE;1. SHAN KA;3KHA;GA;CA;ZA
NYA;DA;NA;PHA;FA;BA;THA;HA;1CONSONANT $ SHAN MEDIAL WA;VOWEL $ SHAN AA;4E;5*;4) Y;1$ SHAN TONE-2
+1;3TONE-5;+1;COUNCIL TONE-2;+1;4EMPHATIC TONE;1. RUMAI PALAUNG FA;$ RUMAI PALAUNG TONE-5
SHAN DIGIT ZERO;3ONE;TWO;%;FOUR;FIVE;SIX;SEVEN;EIGHT;NINE;1$ KHAMTI TONE-1;3TONE-3
1VOWEL $ AITON A;4AI;1SYMBOL SHAN ONE;3EXCLAMATION;0GEORGIAN ^ . AN;3BAN;GAN;DON;EN;VIN;ZEN;TAN
IN;KAN;LAS;MAN;NAR;ON;PAR;ZHAR;RAE;SAN;TAR;UN;PHAR;KHAR;GHAN;QAR;SHIN;CHIN;CAN;JIL;CIL;CHAR;XAN
JHAN;HAE;HE;HIE;WE;HAR;HOE"⟩,
    ⟨0x10c7, "GEORGIAN ^ . YN"⟩,
    ⟨0x10cd, "GEORGIAN ^ . AEN"⟩,
    ⟨0x10d0, "GEORGIAN . AN;2BAN;GAN;DON;EN;VIN;ZEN;TAN;IN;KAN;LAS;MAN;NAR;ON;PAR;ZHAR;RAE;SAN
TAR;UN;PHAR;KHAR;GHAN;QAR;SHIN;CHIN;CAN;JIL;CIL;CHAR;XAN;JHAN;HAE;HE;HIE;WE;HAR;HOE;FI;YN;ELIFI
TURNED GAN;AIN;1PARAGRAPH SEPARATOR;0MODIFIER . GEORGIAN NAR;GEORGIAN . AEN;2HARD $;aLABIAL
0HANGUL CHOSEONG KIYEOK;2SSANGKIYEOK;NIEUN;TIKEUT;SSANGTIKEUT;RIEUL;MIEUM;PIEUP;SSANGPIEUP;SIOS
SSANGSIOS;IEUNG;CIEUC;SSANGCIEUC;CHIEUCH;KHIEUKH;THIEUTH;PHIEUPH;HIEUH;NIEUN-KIYEOK;SSANGNIEUN
NIEUN-TIKEUT;NIEUN-PIEUP;TIKEUT-KIYEOK;RIEUL-NIEUN;SSANGRIEUL;RIEUL-HIEUH;KAPYEOUNRIEUL
MIEUM-PIEUP;KAPYEOUNMIEUM;PIEUP-KIYEOK;PIEUP-NIEUN;PIEUP-TIKEUT;PIEUP-SIOS;PIEUP-SIOS-KIYEOK
PIEUP-SIOS-TIKEUT;PIEUP-SIOS-PIEUP;PIEUP-SSANGSIOS;PIEUP-SIOS-CIEUC;PIEUP-CIEUC;PIEUP-CHIEUCH
PIEUP-THIEUTH;PIEUP-PHIEUPH;KAPYEOUNPIEUP;KAPYEOUNSSANGPIEUP;SIOS-KIYEOK;SIOS-NIEUN;SIOS-TIKEUT
SIOS-RIEUL;SIOS-MIEUM;SIOS-PIEUP;SIOS-PIEUP-KIYEOK;SIOS-SSANGSIOS;SIOS-IEUNG;SIOS-CIEUC
SIOS-CHIEUCH;SIOS-KHIEUKH;SIOS-THIEUTH;SIOS-PHIEUPH;SIOS-HIEUH;CHITUEUMSIOS;CHITUEUMSSANGSIOS
CEONGCHIEUMSIOS;CEONGCHIEUMSSANGSIOS;PANSIOS;IEUNG-KIYEOK;IEUNG-TIKEUT;IEUNG-MIEUM;IEUNG-PIEUP
IEUNG-SIOS;IEUNG-PANSIOS;SSANGIEUNG;IEUNG-CIEUC;IEUNG-CHIEUCH;IEUNG-THIEUTH;IEUNG-PHIEUPH
YESIEUNG;CIEUC-IEUNG;CHITUEUMCIEUC;CHITUEUMSSANGCIEUC;CEONGCHIEUMCIEUC;CEONGCHIEUMSSANGCIEUC
CHIEUCH-KHIEUKH;CHIEUCH-HIEUH;CHITUEUMCHIEUCH;CEONGCHIEUMCHIEUCH;PHIEUPH-PIEUP;KAPYEOUNPHIEUPH
SSANGHIEUH;YEORINHIEUH;KIYEOK-TIKEUT;NIEUN-SIOS;NIEUN-CIEUC;NIEUN-HIEUH;TIKEUT-RIEUL;FILLER
1aJUNGSEONG;2A;AE;YA;YAE;EO;E;YEO;YE;O;WA;WAE;OE;YO;U;WEO;WE;WI;YU;EU;YI;I;A-O;A-U;YA-O;YA-YO
EO-O;EO-U;EO-EU;YEO-O;YEO-U;O-EO;O-E;O-YE;O-O;O-U;YO-YA;YO-YAE;YO-YEO;YO-O;YO-I;U-A;U-AE;U-EO-EU
U-YE;U-U;YU-A;YU-EO;YU-E;YU-YEO;YU-YE;YU-U;YU-I;EU-U;EU-EU;YI-U;I-A;I-YA;I-O;I-U;I-EU;I-ARAEA
ARAEA;ARAEA-EO;ARAEA-U;ARAEA-I;SSANGARAEA;A-EU;YA-U;YEO-YA;O-YA;O-YAE;1JONGSEONG KIYEOK
2SSANGKIYEOK;KIYEOK-SIOS;NIEUN;NIEUN-CIEUC;NIEUN-HIEUH;TIKEUT;RIEUL;RIEUL-KIYEOK;RIEUL-MIEUM
RIEUL-PIEUP;RIEUL-SIOS;RIEUL-THIEUTH;RIEUL-PHIEUPH;RIEUL-HIEUH;MIEUM;PIEUP;PIEUP-SIOS;SIOS
SSANGSIOS;IEUNG;CIEUC;CHIEUCH;KHIEUKH;THIEUTH;PHIEUPH;HIEUH;KIYEOK-RIEUL;KIYEOK-SIOS-KIYEOK
NIEUN-KIYEOK;NIEUN-TIKEUT;NIEUN-SIOS;NIEUN-PANSIOS;NIEUN-THIEUTH;TIKEUT-KIYEOK;TIKEUT-RIEUL
RIEUL-KIYEOK-SIOS;RIEUL-NIEUN;RIEUL-TIKEUT;RIEUL-TIKEUT-HIEUH;SSANGRIEUL;RIEUL-MIEUM-KIYEOK
RIEUL-MIEUM-SIOS;RIEUL-PIEUP-SIOS;RIEUL-PIEUP-HIEUH;RIEUL-KAPYEOUNPIEUP;RIEUL-SSANGSIOS
RIEUL-PANSIOS;RIEUL-KHIEUKH;RIEUL-YEORINHIEUH;MIEUM-KIYEOK;MIEUM-RIEUL;MIEUM-PIEUP;MIEUM-SIOS
MIEUM-SSANGSIOS;MIEUM-PANSIOS;MIEUM-CHIEUCH;MIEUM-HIEUH;KAPYEOUNMIEUM;PIEUP-RIEUL;PIEUP-PHIEUPH
PIEUP-HIEUH;KAPYEOUNPIEUP;SIOS-KIYEOK;SIOS-TIKEUT;SIOS-RIEUL;SIOS-PIEUP;PANSIOS;IEUNG-KIYEOK
IEUNG-SSANGKIYEOK;SSANGIEUNG;IEUNG-KHIEUKH;YESIEUNG;YESIEUNG-SIOS;YESIEUNG-PANSIOS;PHIEUPH-PIEUP
KAPYEOUNPHIEUPH;HIEUH-NIEUN;HIEUH-RIEUL;HIEUH-MIEUM;HIEUH-PIEUP;YEORINHIEUH;KIYEOK-NIEUN
KIYEOK-PIEUP;KIYEOK-CHIEUCH;KIYEOK-KHIEUKH;KIYEOK-HIEUH;SSANGNIEUN;0ETHIOPIC SYLLABLE HA;2HU;HI
HAA;HEE;HE;HO;HOA;LA;LU;LI;LAA;LEE;LE;LO;LWA;HHA;HHU;HHI;HHAA;HHEE;HHE;HHO;HHWA;MA;MU;MI;MAA;MEE
ME;MO;MWA;SZA;SZU;SZI;SZAA;SZEE;SZE;SZO;SZWA;RA;RU;RI;RAA;REE;RE;RO;RWA;SA;SU;SI;SAA;SEE;SE;SO
SWA;SHA;SHU;SHI;SHAA;SHEE;SHE;SHO;SHWA;QA;QU;QI;QAA;QEE;QE;QO;QOA;QWA"⟩,
    ⟨0x124a, "ETHIOPIC SYLLABLE QWI;2QWAA;QWEE;QWE"⟩,
    ⟨0x1250, "ETHIOPIC SYLLABLE QHA;2QHU;QHI;QHAA;QHEE;QHE;QHO"⟩,
    ⟨0x1258, "ETHIOPIC SYLLABLE QHWA"⟩,
    ⟨0x125a, "ETHIOPIC SYLLABLE QHWI;2QHWAA;QHWEE;QHWE"⟩,
    ⟨0x1260, "ETHIOPIC SYLLABLE BA;2BU;BI;BAA;BEE;BE;BO;BWA;VA;VU;VI;VAA;VEE;VE;VO;VWA;TA;TU;TI
TAA;TEE;TE;TO;TWA;CA;CU;CI;CAA;CEE;CE;CO;CWA;XA;XU;XI;XAA;XEE;XE;XO;XOA;XWA"⟩,
    ⟨0x128a, "ETHIOPIC SYLLABLE XWI;2XWAA;XWEE;XWE"⟩,
    ⟨0x1290, "ETHIOPIC SYLLABLE NA;2NU;NI;NAA;NEE;NE;NO;NWA;NYA;NYU;NYI;NYAA;NYEE;NYE;NYO;NYWA
GLOTTAL A;3U;I;AA;EE;E;O;WA;2KA;KU;KI;KAA;KEE;KE;KO;KOA;KWA"⟩,
    ⟨0x12b2, "ETHIOPIC SYLLABLE KWI;2KWAA;KWEE;KWE"⟩,
    ⟨0x12b8, "ETHIOPIC SYLLABLE KXA;2KXU;KXI;KXAA;KXEE;KXE;KXO"⟩,
    ⟨0x12c0, "ETHIOPIC SYLLABLE KXWA"⟩,
    ⟨0x12c2, "ETHIOPIC SYLLABLE KXWI;2KXWAA;KXWEE;KXWE"⟩,
    ⟨0x12c8, "ETHIOPIC SYLLABLE WA;2WU;WI;WAA;WEE;WE;WO;WOA;PHARYNGEAL A;3U;I;AA;EE;E;O"⟩,
    ⟨0x12d8, "ETHIOPIC SYLLABLE ZA;2ZU;ZI;ZAA;ZEE;ZE;ZO;ZWA;ZHA;ZHU;ZHI;ZHAA;ZHEE;ZHE;ZHO;ZHWA;YA
YU;YI;YAA;YEE;YE;YO;YOA;DA;DU;DI;DAA;DEE;DE;DO;DWA;DDA;DDU;DDI;DDAA;DDEE;DDE;DDO;DDWA;JA;JU;JI
JAA;JEE;JE;JO;JWA;GA;GU;GI;GAA;GEE;GE;GO;GOA;GWA"⟩,
    ⟨0x1312, "ETHIOPIC SYLLABLE GWI;2GWAA;GWEE;GWE"⟩,
    ⟨0x1318, "ETHIOPIC SYLLABLE GGA;2GGU;GGI;GGAA;GGEE;GGE;GGO;GGWAA;THA;THU;THI;THAA;THEE;THE
THO;THWA;CHA;CHU;CHI;CHAA;CHEE;CHE;CHO;CHWA;PHA;PHU;PHI;PHAA;PHEE;PHE;PHO;PHWA;TSA;TSU;TSI;TSAA
TSEE;TSE;TSO;TSWA;TZA;TZU;TZI;TZAA;TZEE;TZE;TZO;TZOA;FA;FU;FI;FAA;FEE;FE;FO;FWA;PA;PU;PI;PAA;PEE
PE;PO;PWA;RYA;MYA;FYA"⟩,
    ⟨0x135d, "ETHIOPIC COMBINING GEMINATION ? VOWEL LENGTH MARK;2bVOWEL;aGEMINATION;1aSECTION
WORDSPACE;FULL STOP;COMMA;SEMICOLON;COLON;aPREFACE;QUESTION MARK;PARAGRAPH SEPARATOR;DIGIT ONE
2TWO;%;FOUR;FIVE;SIX;SEVEN;EIGHT;NINE;1NUMBER TEN;2TWENTY;THIRTY;FORTY;FIFTY;SIXTY;SEVENTY;EIGHTY
NINETY;HUNDRED;TEN THOUSAND"⟩,
    ⟨0x1380, "ETHIOPIC SYLLABLE SEBATBEIT MWA;2MWI;MWEE;MWE;SEBATBEIT BWA;BWI;BWEE;BWE
SEBATBEIT FWA;FWI;FWEE;FWE;SEBATBEIT PWA;PWI;PWEE;PWE;1TONAL MARK YIZET;3DERET;RIKRIK;aSHORT
DIFAT;KENAT;CHIRET;HIDET;DERET-HIDET;KURT"⟩,
    ⟨0x13a0, "CHEROKEE . A;2E;I;O;U;+1;GA;KA;GE;GI;GO;GU;+1;HA;HE;HI;HO;HU;+1;LA;LE;LI;LO;LU;+1
MA;ME;MI;MO;MU;NA;HNA;NAH;NE;NI;NO;NU;+1;QUA;QUE;QUI;QUO;QUU;+1;SA;S;SE;SI;SO;SU;+1;DA;TA;DE;TE
DI;TI;DO;DU;+1;DLA;TLA;TLE;TLI;TLO;TLU;+1;TSA;TSE;TSI;TSO;TSU;+1;WA;WE;WI;WO;WU;+1;YA;YE;YI;YO;YU
+1;MV"⟩,
    ⟨0x13f8, "CHEROKEE _ . YE;3YI;YO;YU;+1;MV"⟩,
    ⟨0x1400, "CANADIAN SYLLABICS HYPHEN;2E;AAI;I;II;O;OO;aY-CREE;CARRIER EE;3I;2A;AA;WE;a[;WI;a[
WII;a[;WO;a[;WOO;a[;aNASKAPI;WA;a[;WAA;a[;aNASKAPI;AI;Y-CREE W;GLOTTAL STOP;) ACUTE;3GRAVE
BOTTOM HALF RING;bTOP;b>;2a);3= ACUTE;4SHORT ! STROKES;3MIDDLE DOT;SHORT ] STROKE;PLUS;DOWN TACK
2EN;IN;ON;AN;PE;PAAI;PI;PII;PO;POO;aY-CREE;CARRIER HEE;3HI;2PA;PAA;PWE;a[;PWI;a[;PWII;a[;PWO;a[
PWOO;a[;PWA;a[;PWAA;a[;aY-CREE;P;a[;CARRIER H;TE;TAAI;TI;TII;TO;TOO;aY-CREE;CARRIER DEE;3DI;2TA
TAA;TWE;a[;TWI;a[;TWII;a[;TWO;a[;TWOO;a[;TWA;a[;TWAA;a[;aNASKAPI;T;TTE;TTI;TTO;TTA;KE;KAAI;KI;KII
KO;KOO;aY-CREE;KA;KAA;KWE;a[;KWI;a[;KWII;a[;KWO;a[;KWOO;a[;KWA;a[;KWAA;a[;aNASKAPI;K;KW
SOUTH-SLAVEY KEH;3KIH;KOH;KAH;2CE;CAAI;CI;CII;CO;COO;aY-CREE;CA;CAA;CWE;a[;CWI;a[;CWII;a[;CWO;a[
CWOO;a[;CWA;a[;CWAA;a[;aNASKAPI;C;SAYISI TH;ME;MAAI;MI;MII;MO;MOO;aY-CREE;MA;MAA;MWE;a[;MWI;a[
MWII;a[;MWO;a[;MWOO;a[;MWA;a[;MWAA;a[;aNASKAPI;M;a[;MH;ATHAPASCAN M;aSAYISI;NE;NAAI;NI;NII;NO;NOO
aY-CREE;NA;NAA;NWE;a[;NWA;a[;NWAA;a[;aNASKAPI;N;CARRIER NG;NH;LE;LAAI;LI;LII;LO;LOO;aY-CREE;LA
LAA;LWE;a[;LWI;a[;LWII;a[;LWO;a[;LWOO;a[;LWA;a[;LWAA;a[;L;a[;aMEDIAL;SE;SAAI;SI;SII;SO;SOO
aY-CREE;SA;SAA;SWE;a[;SWI;a[;SWII;a[;SWO;a[;SWOO;a[;SWA;a[;SWAA;a[;aNASKAPI;S;aATHAPASCAN;SW
BLACKFOOT S;MOOSE-CREE SK;NASKAPI SKW;3S-W;SPWA;STWA;SKWA;SCWA;2SHE;SHI;SHII;SHO;SHOO;SHA;SHAA
SHWE;a[;SHWI;a[;SHWII;a[;SHWO;a[;SHWOO;a[;SHWA;a[;SHWAA;a[;SH;YE;YAAI;YI;YII;YO;YOO;aY-CREE;YA
YAA;YWE;a[;YWI;a[;YWII;a[;YWO;a[;YWOO;a[;YWA;a[;YWAA;a[;aNASKAPI;Y;aBIBLE-CREE;a[;SAYISI YI;RE
aR-CREE;[ LE;RAAI;RI;RII;RO;ROO;[ LO;RA;RAA;[ LA;RWAA;a[;R;a[;aMEDIAL;FE;FAAI;FI;FII;FO;FOO;FA
FAA;FWAA;a[;F;THE;aN-CREE;THI;aN-CREE;THII;aN-CREE;THO;THOO;THA;THAA;THWAA;a[;TH;TTHE;TTHI;TTHO
TTHA;TTH;TYE;TYI;TYO;TYA;NUNAVIK HE;3HI;HII;HO;HOO;HA;HAA;H;2aNUNAVUT;HK;QAAI;QI;QII;QO;QOO;QA
QAA;Q;TLHE;TLHI;TLHO;TLHA;[ RE;3RI;RO;RA;2NGAAI;NGI;NGII;NGO;NGOO;NGA;NGAA;NG;NNG;SAYISI SHE;3SHI
SHO;SHA;2WOODS-CREE THE;3THI;THO;THA;TH;2LHI;LHII;LHO;LHOO;LHA;LHAA;LH;TH-CREE THE;3THI;THII;THO
THOO;THA;THAA;TH;2AIVILIK B;BLACKFOOT E;3I;O;A;WE;WI;WO;WA;NE;NI;NO;NA;KE;KI;KO;KA;2SAYISI HE;3HI
HO;HA;2CARRIER GHU;3GHO;GHE;GHEE;GHI;GHA;RU;RO;RE;REE;RI;RA;WU;WO;WE;WEE;WI;WA;HWU;HWO;HWE;HWEE
HWI;HWA;THU;THO;THE;THEE;THI;THA;TTU;TTO;TTE;TTEE;TTI;TTA;PU;PO;PE;PEE;PI;PA;P;GU;GO;GE;GEE;GI;GA
KHU;KHO;KHE;KHEE;KHI;KHA;KKU;KKO;KKE;KKEE;KKI;KKA;KK;NU;NO;NE;NEE;NI;NA;MU;MO;ME;MEE;MI;MA;YU;YO
YE;YEE;YI;YA;JU;2aSAYISI;CARRIER JO;3JE;JEE;JI;2aSAYISI;CARRIER JA;3JJU;JJO;JJE;JJEE;JJI;JJA;LU
LO;LE;LEE;LI;LA;DLU;DLO;DLE;DLEE;DLI;DLA;LHU;LHO;LHE;LHEE;LHI;LHA;TLHU;TLHO;TLHE;TLHEE;TLHI;TLHA
TLU;TLO;TLE;TLEE;TLI;TLA;ZU;ZO;ZE;ZEE;ZI;ZA;Z;aINITIAL;DZU;DZO;DZE;DZEE;DZI;DZA;SU;SO;SE;SEE;SI
SA;SHU;SHO;SHE;SHEE;SHI;SHA;SH;TSU;TSO;TSE;TSEE;TSI;TSA;CHU;CHO;CHE;CHEE;CHI;CHA;TTSU;TTSO;TTSE
TTSEE;TTSI;TTSA;2CHI $;FULL STOP;QAI;NGAI;NNGI;NNGII;NNGO;NNGOO;NNGA;NNGAA;WOODS-CREE THWEE;3THWI
THWII;THWO;THWOO;THWA;THWAA;) TH;2BLACKFOOT W;0OGHAM SPACE MARK;1. BEITH;2LUIS;FEARN;SAIL;NION
UATH;DAIR;TINNE;COLL;CEIRT;MUIN;GORT;NGEADAL;STRAIF;RUIS;AILM;ONN;UR;EADHADH;IODHADH;EABHADH;OR
UILLEANN;IFIN;EAMHANCHOLL;PEITH;1FEATHER MARK;bREVERSED"⟩,
    ⟨0x16a0, "RUNIC . FEHU FEOH FE F;2V;URUZ UR U;YR;Y;W;THURISAZ THURS THORN;ETH;ANSUZ A;OS O
AC A;AESC;LONG-BRANCH-OSS O;aSHORT-TWIG-OSS;O;OE;ON;RAIDO RAD REID R;KAUNA;CEN;KAUN K;G;ENG
GEBO GYFU G;GAR;WUNJO WYNN W;HAGLAZ H;aHAEGL;aLONG-BRANCH-HAGALL;aSHORT-TWIG-HAGALL
NAUDIZ NYD NAUD N;aSHORT-TWIG-NAUD;DOTTED-N;ISAZ IS ISS I;E;JERAN J;GER;LONG-BRANCH-AR AE
SHORT-TWIG-AR A;IWAZ EOH;PERTHO PEORTH P;ALGIZ EOLHX;SOWILO S;aSIGEL LONG-BRANCH-SOL
aSHORT-TWIG-SOL;C;Z;TIWAZ TIR TYR T;aSHORT-TWIG-TYR;D;BERKANAN BEORC BJARKAN B
aSHORT-TWIG-BJARKAN;DOTTED-P;OPEN-P;EHWAZ EH E;MANNAZ MAN M;aLONG-BRANCH-MADR;aSHORT-TWIG-MADR
LAUKAZ LAGU LOGR L;DOTTED-L;INGWAZ;ING;DAGAZ DAEG D;OTHALAN ETHEL O;EAR;IOR;CWEORTH;CALC;CEALC
STAN;LONG-BRANCH-YR;SHORT-TWIG-YR;ICELANDIC-YR;Q;X;1SINGLE PUNCTUATION;aMULTIPLE;aCROSS
ARLAUG SYMBOL;aTVIMADUR;aBELGTHOR;. K;2SH;OO;FRANKS CASKET OS;4IS;EH;AC;AESC"⟩,
    ⟨0x1700, "TAGALOG . A;2I;U;KA;GA;NGA;TA;DA;NA;PA;BA;MA;YA;RA;LA;WA;SA;HA;1VOWEL $ I;3U
1$ VIRAMA;2PAMUDPOD"⟩,
    ⟨0x171f, "TAGALOG . ARCHAIC RA;HANUNOO . A;2I;U;KA;GA;NGA;TA;DA;NA;PA;BA;MA;YA;RA;LA;WA;SA;HA
1VOWEL $ I;3U;1$ PAMUDPOD;0PHILIPPINE SINGLE PUNCTUATION;1a="⟩,
    ⟨0x1740, "BUHID . A;2I;U;KA;GA;NGA;TA;DA;NA;PA;BA;MA;YA;RA;LA;WA;SA;HA;1VOWEL $ I;3U"⟩,
    ⟨0x1760, "TAGBANWA . A;2I;U;KA;GA;NGA;TA;DA;NA;PA;BA;MA;YA"⟩,
    ⟨0x176e, "TAGBANWA . LA;2WA;SA"⟩,
    ⟨0x1772, "TAGBANWA VOWEL $ I;3U"⟩,
    ⟨0x1780, "KHMER . KA;2KHA;KO;KHO;NGO;CA;CHA;CO;CHO;NYO;DA;TTHA;DO;TTHO;NNO;TA;THA;TO;THO;NO
BA;PHA;PO;PHO;MO;YO;RO;LO;VO;SHA;SSO;SA;HA;LA;QA;1INDEPENDENT VOWEL QAQ;3QAA;QI;QII;QU;QUK;QUU
QUUV;RY;RYY;LY;LYY;QE;QAI;QOO TYPE ONE;5TWO;3QAU;1VOWEL INHERENT AQ;3AA;2a$;3I;II;Y;YY;U;UU;UA;OE
YA;IE;E;AE;AI;OO;AU;1$ NIKAHIT;2REAHMUK;YUUKALEAPINTU;MUUSIKATOAN;TRIISAP;BANTOC;ROBAT
TOANDAKHIAT;KAKABAT;AHSDA;SAMYOK SANNYA;VIRIAM;COENG;BATHAMASAT;KHAN;BARIYOOSAN;CAMNUC PII KUUH
LEK TOO;BEYYAL;PHNAEK MUAN;KOOMUUT;1CURRENCY SYMBOL RIEL;$ AVAKRAHASANYA;2ATTHACAN"⟩,
    ⟨0x17e0, "KHMER DIGIT ZERO;2ONE;TWO;%;FOUR;FIVE;SIX;SEVEN;EIGHT;NINE"⟩,
    ⟨0x17f0, "KHMER SYMBOL LEK ATTAK SON;4MUOY;PII;BEI;BUON;PRAM;PRAM-MUOY;PRAM-PII;PRAM-BEI
PRAM-BUON"⟩,
    ⟨0x1800, "MONGOLIAN BIRGA;1ELLIPSIS;COMMA;FULL STOP;COLON;FOUR DOTS;TODO SOFT HYPHEN
SIBE SYLLABLE BOUNDARY MARKER;MANCHU COMMA;2FULL STOP;1NIRUGU;FREE VARIATION SELECTOR ONE;4TWO;%
1VOWEL SEPARATOR;FREE VARIATION SELECTOR FOUR;DIGIT ZERO;2ONE;TWO;%;FOUR;FIVE;SIX;SEVEN;EIGHT
NINE"⟩,
    ⟨0x1820, "MONGOLIAN . A;2E;I;O;U;OE;UE;EE;NA;ANG;BA;PA;QA;GA;MA;LA;SA;SHA;TA;DA;CHA;JA;YA;RA
WA;FA;KA;KHA;TSA;ZA;HAA;ZRA;LHA;ZHI;CHI;TODO LONG VOWEL $;3E;I;O;U;OE;UE;ANG;BA;PA;QA;GA;MA;TA;DA
CHA;JA;TSA;YA;WA;KA;GAA;HAA;JIA;NIA;DZA;2SIBE E;3I;IY;UE;U;ANG;KA;GA;HA;PA;SHA;TA;DA;JA;FA;GAA
HAA;TSA;ZA;RAA;CHA;ZHA;2MANCHU I;3KA;RA;FA;ZHA;2CHA & TWO DOTS"⟩,
    ⟨0x1880, "MONGOLIAN . ALI GALI ANUSVARA ONE;4aVISARGA;DAMARU;UBADAMA;aINVERTED;BALUDA;a%;A;I
KA;NGA;CA;TTA;TTHA;DDA;NNA;TA;DA;PA;PHA;SSA;ZHA;ZA;AH;2TODO ALI GALI TA;5ZHA;2MANCHU ALI GALI GHA
5NGA;CA;JHA;TTA;DDHA;TA;DHA;SSA;CYA;ZHA;ZA;2ALI GALI HALF U;5YA;2MANCHU ALI GALI BHA
ALI GALI DAGALGA;MANCHU ALI GALI LHA"⟩,
    ⟨0x18b0, "CANADIAN SYLLABICS OY;2AY;AAY;WAY;POY;PAY;PWOY;TAY;KAY;KWAY;MAY;NOY;NAY;LAY;SOY;SAY
SHOY;SHAY;SHWOY;YOY;YAY;RAY;NWI;aOJIBWAY;NWII;aOJIBWAY;NWO;aOJIBWAY;NWOO;aOJIBWAY;RWEE;RWI;RWII
RWO;RWOO;RWA;OJIBWAY P;3T;K;C;M;+1;S;SH;2EASTERN W;aWESTERN;) _ RING;3RAISED DOT;2R-CREE RWE
[ LOO;3LAA;2THWE;THWA;TTHWE;TTHOO;TTHAA;TLHWE;TLHOO;SAYISI SHWE;3SHOO;HOO;2CARRIER GWU;3DENE GEE
GAA;GWA;2SAYISI JUU;CARRIER JWA;BEAVER DENE L;4R;2CARRIER DENTAL S"⟩,
    ⟨0x1900, "LIMBU VOWEL-CARRIER .;1. KA;2KHA;GA;GHA;NGA;CA;CHA;JA;JHA;YAN;TA;THA;DA;DHA;NA;PA
PHA;BA;BHA;MA;YA;RA;LA;WA;SHA;SSA;SA;HA;GYAN;TRA"⟩,
    ⟨0x1920, "LIMBU VOWEL $ A;3I;U;EE;AI;OO;AU;E;O;1SUBJOINED . YA;3RA;WA"⟩,
    ⟨0x1930, "LIMBU _ . KA;3NGA;ANUSVARA;TA;NA;PA;MA;RA;LA;1$ MUKPHRENG;2KEMPHRENG;SA-I"⟩,
    ⟨0x1940, "LIMBU $ LOO"⟩,
    ⟨0x1944, "LIMBU EXCLAMATION MARK;1aQUESTION;DIGIT ZERO;2ONE;TWO;%;FOUR;FIVE;SIX;SEVEN;EIGHT
NINE;0TAI LE . KA;3XA;NGA;TSA;SA;YA;TA;THA;LA;PA;PHA;MA;FA;VA;HA;QA;KHA;TSHA;NA;A;I;EE;EH;U;OO;O
UE;E;AUE;AI"⟩,
    ⟨0x1970, "TAI LE . TONE-2;+4"⟩,
    ⟨0x1980, "NEW TAI LUE . HIGH QA;4aLOW;HIGH KA;5XA;NGA;4LOW KA;5XA;NGA;4HIGH TSA;5SA;YA
4LOW TSA;5SA;YA;4HIGH TA;5THA;NA;4LOW TA;5THA;NA;4HIGH PA;5PHA;MA;4LOW PA;5PHA;MA;4HIGH FA;5VA;LA
4LOW FA;5VA;LA;4HIGH HA;5DA;BA;4LOW HA;5DA;BA;4HIGH KVA;5XVA;4LOW KVA;5XVA;4HIGH SUA;aLOW"⟩,
    ⟨0x19b0, "NEW TAI LUE VOWEL $ VOWEL SHORTENER;5AA;II;U;UU;E;AE;O;OA;UE;AY;AAY;UY;OY;OAY;UEY
IY;3. ) V;5NG;N;M;K;D;B;3TONE MARK-1;+1"⟩,
    ⟨0x19d0, "NEW TAI LUE DIGIT ZERO;4ONE;TWO;%;FOUR;FIVE;SIX;SEVEN;EIGHT;NINE;3THAM DIGIT ONE"⟩,
    ⟨0x19de, "NEW TAI LUE $ LAE;4LAEV;0KHMER SYMBOL PATHAMASAT;2MUOY KOET;aPII;aBEI;aBUON;aPRAM
aPRAM-MUOY;aPRAM-PII;aPRAM-BEI;aPRAM-BUON;aDAP;aDAP-MUOY;aDAP-PII;aDAP-BEI;aDAP-BUON;aDAP-PRAM
TUTEYASAT;MUOY ROC;aPII;aBEI;aBUON;aPRAM;aPRAM-MUOY;aPRAM-PII;aPRAM-BEI;aPRAM-BUON;aDAP;aDAP-MUOY
aDAP-PII;aDAP-BEI;aDAP-BUON;aDAP-PRAM;0BUGINESE . KA;2GA;NGA;NGKA;PA;BA;MA;MPA;TA;DA;NA;NRA;CA;JA
NYA;NYCA;YA;RA;LA;VA;SA;A;HA;1VOWEL $ I;3U;E;O;AE"⟩,
    ⟨0x1a1e, "BUGINESE PALLAWA;1END OF SECTION;0TAI THAM . HIGH KA;4KHA;KXA;3LOW KA;4KXA;KHA;3NGA
HIGH CA;4CHA;3LOW CA;4SA;CHA;3NYA;RATA;HIGH RATHA;DA;LOW RATHA;RANA;HIGH TA;4THA;3LOW TA;4THA;3NA
BA;HIGH PA;4PHA;FA;3LOW PA;4FA;PHA;3MA;LOW YA;aHIGH;RA;RUE;LA;LUE;WA;HIGH SHA;4SSA;SA;HA;3LLA;A
LOW HA;I;II;U;UU;EE;OO;LAE;GREAT SA;2CONSONANT $ MEDIAL RA;5LA;4LA TANG LAI;2a$ MAI KANG
CONSONANT $ ) NGA;4LOW PA;bHIGH RATHA OR;MA;BA;SA"⟩,
    ⟨0x1a60, "TAI THAM $ SAKOT;2VOWEL $ A;4MAI SAT;AA;aTALL;I;II;UE;UUE;U;UU;O;OA BELOW;OY;E;AE
OO;AI;aTHAM;OA *;2$ MAI KANG;3TONE-1;+1;KHUEN TONE-3;+2;RA HAAM;MAI SAM;KHUEN-LUE KARAN"⟩,
    ⟨0x1a7f, "TAI THAM COMBINING CRYPTOGRAMMIC DOT;2HORA DIGIT ZERO;4ONE;TWO;%;FOUR;FIVE;SIX
SEVEN;EIGHT;NINE"⟩,
    ⟨0x1a90, "TAI THAM THAM DIGIT ZERO;4ONE;TWO;%;FOUR;FIVE;SIX;SEVEN;EIGHT;NINE"⟩,
    ⟨0x1aa0, "TAI THAM $ WIANG;3WIANGWAAK;SAWAN;KEOW;HOY;DOKMAI;REVERSED ROTATED RANA;MAI YAMOK
KAAN;KAANKUU;SATKAAN;SATKAANKUU;HANG;CAANG"⟩,
    ⟨0x1ab0, "COMBINING DOUBLED CIRCUMFLEX ACCENT;1DIAERESIS-RING;INFINITY;@ :;TRIPLE DOT
X-X BELOW;aWIGGLY LINE;aOPEN MARK;c=;aLIGHT CENTRALIZATION STROKE;cSTRONG;PARENTHESES *;b=
PARENTHESES BELOW;2OVERLAY;1LATIN _ . W BELOW;4bTURNED;1< PARENTHESIS * <;> PARENTHESIS * >
< PARENTHESIS BELOW <;> PARENTHESIS BELOW >;SQUARE BRACKETS *;aNUMBER $;aINVERTED = ARCH;aPLUS $
c=;4BELOW;1TRIPLE ACUTE ACCENT;LATIN _ . INSULAR G;5R;T"⟩,
    ⟨0x1b00, "BALINESE $ ULU RICEM;3CANDRA;2CECEK;SURANG;BISAH;1. AKARA;3TEDUNG;2IKARA;3TEDUNG
2UKARA;3TEDUNG;2RA REPA;4TEDUNG;2LA LENGA;4TEDUNG;2EKARA;AIKARA;OKARA;3TEDUNG;2KA;3MAHAPRANA;2GA
3GORA;2NGA;CA;3LACA;2JA;3JERA;2NYA;TA LATIK;3MURDA MAHAPRANA;2DA MURDA ALPAPRANA;4MAHAPRANA
2NA RAMBAT;TA;3TAWA;2DA;3MADU;2NA;PA;3KAPAL;2BA;3KEMBANG;2MA;YA;RA;LA;WA;SA SAGA;3SAPA;2SA;HA
1$ REREKAN;VOWEL $ TEDUNG;3ULU;4SARI;3SUKU;4ILUT;3RA REPA;5TEDUNG;3LA LENGA;5TEDUNG;3TALING;4REPA
TEDUNG;aREPA;3PEPET;4TEDUNG;1ADEG ADEG;. KAF SASAK;2aKHOT;aTZIR;aEF;aVE;aZAL;aASYURA;ARCHAIC JNYA"⟩,
    ⟨0x1b50, "BALINESE DIGIT ZERO;2ONE;TWO;%;FOUR;FIVE;SIX;SEVEN;EIGHT;NINE;1PANTI;PAMADA;WINDU
CARIK PAMUNGKAH;2SIKI;PAREREN;1PAMENENG;MUSICAL SYMBOL DONG;3DENG;DUNG;DANG;4SURANG;3DING;DAENG
DEUNG;DAING;DANG GEDE;COMBINING TEGEH;4ENDEP;KEMPUL;KEMPLI;JEGOGAN;aKEMPUL &;bKEMPLI;BENDE;GONG
3RIGHT-HAND OPEN DUG;5DAG;4CLOSED TUK;5TAK;3LEFT-HAND OPEN PANG;5PUNG;4CLOSED PLAK;5PLUK
4OPEN PING;1PANTI LANTANG;aPAMADA"⟩,
    ⟨0x1b80, "SUNDANESE $ PANYECEK;2PANGLAYAR;PANGWISAD;1. A;2I;U;AE;O;E;EU;KA;QA;GA;NGA;CA;JA;ZA
NYA;TA;DA;NA;PA;FA;VA;BA;MA;YA;RA;LA;WA;SA;XA;HA;1CONSONANT $ PAMINGKAL;3PANYAKRA;PANYIKU
1VOWEL $ PANGHULU;3PANYUKU;PANAELAENG;PANOLONG;PAMEPET;PANEULEUNG;1$ PAMAAEH;2VIRAMA
1CONSONANT $ PASANGAN MA;4WA;1. KHA;2SYA;1DIGIT ZERO;2ONE;TWO;%;FOUR;FIVE;SIX;SEVEN;EIGHT;NINE
1AVAGRAHA;. REU;2LEU;BHA;) K;3M;0BATAK . A;2aSIMALUNGUN;HA;aSIMALUNGUN;aMANDAILING;BA;aKARO;PA
aSIMALUNGUN;NA;aMANDAILING;WA;aSIMALUNGUN;aPAKPAK;GA;aSIMALUNGUN;JA;DA;RA;aSIMALUNGUN;MA
aSIMALUNGUN;SOUTHERN TA;aNORTHERN;SA;aSIMALUNGUN;aMANDAILING;YA;aSIMALUNGUN;NGA;LA;aSIMALUNGUN
NYA;CA;NDA;MBA;I;U;1$ TOMPI;VOWEL $ E;3aPAKPAK;EE;I;aKARO;O;aKARO;U;4FOR SIMALUNGUN SA
1CONSONANT $ NG;3H;1PANGOLAT;PANONGONAN"⟩,
    ⟨0x1bfc, "BATAK SYMBOL BINDU NA METEK;3PINARBORAS;JUDUL;PANGOLAT"⟩ ]

end TagTree.Text
