import TagTree.Text.Name.Basic

/-!
# Names of characters: pictographs and tags

Game pieces, pictographs and the characters that tag or vary others.
-/

namespace TagTree.Text

/-- The runs of named characters from 0x1f000 to 0x10ffff. -/
def pictographNames : List NameRun :=
  [ ⟨0x1f000, "MAHJONG TILE EAST WIND;2aSOUTH;aWEST;aNORTH;RED DRAGON;aGREEN;aWHITE
ONE OF CHARACTERS;bTWO;b%;bFOUR;bFIVE;bSIX;bSEVEN;bEIGHT;bNINE;ONE OF BAMBOOS;bTWO;b%;bFOUR;bFIVE
bSIX;bSEVEN;bEIGHT;bNINE;ONE OF CIRCLES;bTWO;b%;bFOUR;bFIVE;bSIX;bSEVEN;bEIGHT;bNINE;PLUM;ORCHID
BAMBOO;CHRYSANTHEMUM;SPRING;SUMMER;AUTUMN;WINTER;JOKER;BACK"⟩,
    ⟨0x1f030, "DOMINO TILE ] BACK;2HORIZONTAL-00-00;+6;HORIZONTAL-01-00;+6;HORIZONTAL-02-00;+6
HORIZONTAL-03-00;+6;HORIZONTAL-04-00;+6;HORIZONTAL-05-00;+6;HORIZONTAL-06-00;+6;! BACK
VERTICAL-00-00;+6;VERTICAL-01-00;+6;VERTICAL-02-00;+6;VERTICAL-03-00;+6;VERTICAL-04-00;+6
VERTICAL-05-00;+6;VERTICAL-06-00;+6"⟩,
    ⟨0x1f0a0, "PLAYING CARD BACK;2ACE OF SPADES;bTWO;b%;bFOUR;bFIVE;bSIX;bSEVEN;bEIGHT;bNINE;bTEN
bJACK;bKNIGHT;bQUEEN;bKING"⟩,
    ⟨0x1f0b1, "PLAYING CARD ACE OF HEARTS;2bTWO;b%;bFOUR;bFIVE;bSIX;bSEVEN;bEIGHT;bNINE;bTEN
bJACK;bKNIGHT;bQUEEN;bKING;RED JOKER"⟩,
    ⟨0x1f0c1, "PLAYING CARD ACE OF DIAMONDS;2bTWO;b%;bFOUR;bFIVE;bSIX;bSEVEN;bEIGHT;bNINE;bTEN
bJACK;bKNIGHT;bQUEEN;bKING;, JOKER"⟩,
    ⟨0x1f0d1, "PLAYING CARD ACE OF CLUBS;2bTWO;b%;bFOUR;bFIVE;bSIX;bSEVEN;bEIGHT;bNINE;bTEN;bJACK
bKNIGHT;bQUEEN;bKING;WHITE JOKER;FOOL;TRUMP-1;+20"⟩,
    ⟨0x1f100, "DIGIT ZERO FULL STOP;2COMMA;1aONE;aTWO;a%;aFOUR;aFIVE;aSIX;aSEVEN;aEIGHT;aNINE
0DINGBAT CIRCLED SANS-SERIF DIGIT ZERO;1dNEGATIVE;0CIRCLED ZERO & SLASH;1ANTICLOCKWISE :
DOLLAR $ & OVERLAID BACKSLASH;0PARENTHESIZED LATIN ^ . A;+25;TORTOISE SHELL BRACKETED LATIN ^ . S
CIRCLED ITALIC LATIN ^ . C;5R;1CD;WZ;0COPYLEFT SYMBOL;SQUARED LATIN ^ . A;+25;1HV;MV;SD;SS;PPV;WC
0NEGATIVE CIRCLED LATIN ^ . A;+25;RAISED MC $;1aMD;aMR;0CIRCLED CC;1C & OVERLAID BACKSLASH
HUMAN FIGURE;0NEGATIVE SQUARED LATIN ^ . A;+25;CROSSED NEGATIVE SQUARED LATIN ^ . P
NEGATIVE SQUARED IC;2PA;SA;AB;WC;0SQUARE DJ;SQUARED CL;1COOL;FREE;ID;NEW;NG;OK;SOS
UP & EXCLAMATION MARK;VS;% D;SECOND SCREEN;TWO K;aFOUR;aEIGHT;FIVE POINT ONE;bSEVEN
TWENTY-TWO POINT TWO;SIXTY P;aONE HUNDRED TWENTY;LATIN _ . D;HC;HDR;HI-RES;LOSSLESS;SHV;UHD;VOD
0MASK WORK SYMBOL"⟩,
    ⟨0x1f1e6, "REGIONAL INDICATOR SYMBOL . A;+25;SQUARE HIRAGANA HOKA;SQUARED KATAKANA KOKO;2SA"⟩,
    ⟨0x1f210, "SQUARED CJK UNIFIED IDEOGRAPH-624B;3IDEOGRAPH-5B57;IDEOGRAPH-53CC;1KATAKANA DE
CJK UNIFIED IDEOGRAPH-4E8C;3IDEOGRAPH-591A;IDEOGRAPH-89E3;IDEOGRAPH-5929;IDEOGRAPH-4EA4
IDEOGRAPH-6620;IDEOGRAPH-7121;IDEOGRAPH-6599;IDEOGRAPH-524D;IDEOGRAPH-5F8C;IDEOGRAPH-518D
IDEOGRAPH-65B0;IDEOGRAPH-521D;IDEOGRAPH-7D42;IDEOGRAPH-751F;IDEOGRAPH-8CA9;IDEOGRAPH-58F0
IDEOGRAPH-5439;IDEOGRAPH-6F14;IDEOGRAPH-6295;IDEOGRAPH-6355;IDEOGRAPH-4E00;IDEOGRAPH-4E09
IDEOGRAPH-904A;IDEOGRAPH-5DE6;IDEOGRAPH-4E2D;IDEOGRAPH-53F3;IDEOGRAPH-6307;IDEOGRAPH-8D70
IDEOGRAPH-6253;IDEOGRAPH-7981;IDEOGRAPH-7A7A;IDEOGRAPH-5408;IDEOGRAPH-6E80;IDEOGRAPH-6709
IDEOGRAPH-6708;IDEOGRAPH-7533;IDEOGRAPH-5272;IDEOGRAPH-55B6;IDEOGRAPH-914D"⟩,
    ⟨0x1f240, "TORTOISE SHELL BRACKETED CJK UNIFIED IDEOGRAPH-672C;5IDEOGRAPH-4E09;IDEOGRAPH-4E8C
IDEOGRAPH-5B89;IDEOGRAPH-70B9;IDEOGRAPH-6253;IDEOGRAPH-76D7;IDEOGRAPH-52DD;IDEOGRAPH-6557"⟩,
    ⟨0x1f250, "CIRCLED IDEOGRAPH ADVANTAGE;2ACCEPT"⟩,
    ⟨0x1f260, "ROUNDED SYMBOL FOR FU;3LU;SHOU;XI;SHUANGXI;CAI"⟩,
    ⟨0x1f300, "CYCLONE;FOGGY;CLOSED UMBRELLA;NIGHT & STARS;SUNRISE OVER MOUNTAINS;SUNRISE
CITYSCAPE AT DUSK;SUNSET OVER BUILDINGS;RAINBOW;BRIDGE AT NIGHT;WATER WAVE;VOLCANO;MILKY WAY
EARTH GLOBE EUROPE-AFRICA;2AMERICAS;ASIA-AUSTRALIA;0GLOBE & MERIDIANS;NEW MOON SYMBOL
bWAXING CRESCENT;bFIRST QUARTER;bWAXING GIBBOUS;bFULL;bWANING GIBBOUS;bLAST QUARTER
bWANING CRESCENT;CRESCENT MOON;NEW MOON & FACE;cFIRST QUARTER;dLAST;cFULL;bSUN;GLOWING STAR
aSHOOTING;THERMOMETER;, DROPLET;WHITE SUN;2& _ CLOUD;aBEHIND;4& RAIN;0bCLOUD;2SNOW;LIGHTNING
TORNADO;0FOG;WIND BLOWING FACE;HOT DOG;TACO;BURRITO;CHESTNUT;SEEDLING;EVERGREEN TREE;aDECIDUOUS
aPALM;CACTUS;HOT PEPPER;TULIP;CHERRY BLOSSOM;ROSE;HIBISCUS;SUNFLOWER;BLOSSOM;EAR OF MAIZE;2RICE
0HERB;FOUR LEAF CLOVER;MAPLE LEAF;aFALLEN;LEAF FLUTTERING IN WIND;MUSHROOM;TOMATO;AUBERGINE
GRAPES;MELON;WATERMELON;TANGERINE;LEMON;BANANA;PINEAPPLE;RED APPLE;aGREEN;PEAR;PEACH;CHERRIES
STRAWBERRY;HAMBURGER;SLICE OF PIZZA;MEAT ON BONE;POULTRY LEG;RICE CRACKER;1BALL;0COOKED RICE
aCURRY ?;STEAMING BOWL;SPAGHETTI;BREAD;FRENCH FRIES;ROASTED SWEET POTATO;DANGO;ODEN;SUSHI
FRIED SHRIMP;FISH CAKE & SWIRL DESIGN;SOFT ICE CREAM;SHAVED ICE;ICE CREAM;DOUGHNUT;COOKIE
CHOCOLATE BAR;CANDY;LOLLIPOP;CUSTARD;HONEY POT;SHORTCAKE;BENTO BOX;POT OF FOOD;COOKING
FORK ? KNIFE;TEACUP WITHOUT HANDLE;SAKE BOTTLE ? CUP;WINE GLASS;aCOCKTAIL;TROPICAL DRINK;BEER MUG
CLINKING BEER MUGS;BABY BOTTLE;FORK ? KNIFE & PLATE;BOTTLE & POPPING CORK;POPCORN;RIBBON
WRAPPED PRESENT;BIRTHDAY CAKE;JACK-O-LANTERN;CHRISTMAS TREE;FATHER CHRISTMAS;FIREWORKS
FIREWORK SPARKLER;BALLOON;PARTY POPPER;CONFETTI BALL;TANABATA TREE;CROSSED FLAGS;PINE DECORATION
JAPANESE DOLLS;CARP STREAMER;WIND CHIME;MOON VIEWING CEREMONY;SCHOOL SATCHEL;GRADUATION CAP
HEART & TIP ON THE <;BOUQUET OF FLOWERS;MILITARY MEDAL;REMINDER RIBBON;MUSICAL KEYBOARD & JACKS
STUDIO MICROPHONE;LEVEL SLIDER;CONTROL KNOBS;BEAMED ASCENDING MUSICAL NOTES;1bDESCENDING
0FILM FRAMES;ADMISSION TICKETS;CAROUSEL HORSE;FERRIS WHEEL;ROLLER COASTER;FISHING POLE ? FISH
MICROPHONE;MOVIE CAMERA;CINEMA;HEADPHONE;ARTIST PALETTE;TOP HAT;CIRCUS TENT;TICKET;CLAPPER BOARD
PERFORMING ARTS;VIDEO GAME;DIRECT HIT;SLOT MACHINE;BILLIARDS;GAME DIE;BOWLING
FLOWER PLAYING CARDS;MUSICAL NOTE;MULTIPLE MUSICAL NOTES;SAXOPHONE;GUITAR;MUSICAL KEYBOARD
TRUMPET;VIOLIN;MUSICAL SCORE;RUNNING SHIRT & SASH;TENNIS RACQUET ? BALL;SKI ? SKI BOOT
BASKETBALL ? HOOP;CHEQUERED FLAG;SNOWBOARDER;RUNNER;SURFER;SPORTS MEDAL;TROPHY;HORSE RACING
AMERICAN FOOTBALL;aRUGBY;SWIMMER;WEIGHT LIFTER;GOLFER;RACING MOTORCYCLE;1CAR;0CRICKET BAT ? BALL
VOLLEYBALL;FIELD HOCKEY STICK ? BALL;ICE HOCKEY STICK ? PUCK;TABLE TENNIS PADDLE ? BALL
SNOW CAPPED MOUNTAIN;CAMPING;BEACH & UMBRELLA;BUILDING CONSTRUCTION;HOUSE BUILDINGS;CITYSCAPE
DERELICT HOUSE BUILDING;aCLASSICAL;DESERT;1ISLAND;0NATIONAL PARK;STADIUM;HOUSE BUILDING;1& GARDEN
0OFFICE BUILDING;JAPANESE POST OFFICE;bEUROPEAN;HOSPITAL;BANK;AUTOMATED TELLER MACHINE;HOTEL
aLOVE;CONVENIENCE STORE;SCHOOL;DEPARTMENT STORE;FACTORY;IZAKAYA LANTERN;JAPANESE CASTLE;aEUROPEAN
WHITE PENNANT;a,;WAVING WHITE FLAG;1a,;0ROSETTE;a,;LABEL;BADMINTON RACQUET ? SHUTTLECOCK;BOW ? :
AMPHORA;EMOJI MODIFIER FITZPATRICK TYPE-1-2;3TYPE-3;+3;0RAT;MOUSE;OX;WATER BUFFALO;COW;TIGER
LEOPARD;RABBIT;CAT;DRAGON;CROCODILE;WHALE;SNAIL;SNAKE;HORSE;RAM;GOAT;SHEEP;MONKEY;ROOSTER;CHICKEN
DOG;PIG;BOAR;ELEPHANT;OCTOPUS;SPIRAL SHELL;BUG;ANT;HONEYBEE;LADY BEETLE;FISH;aTROPICAL;BLOWFISH
TURTLE;HATCHING CHICK;aBABY;bFRONT-FACING;BIRD;PENGUIN;KOALA;POODLE;DROMEDARY CAMEL;aBACTRIAN
DOLPHIN;MOUSE FACE;aCOW;aTIGER;aRABBIT;aCAT;aDRAGON;SPOUTING WHALE;HORSE FACE;aMONKEY;aDOG;aPIG
aFROG;aHAMSTER;aWOLF;aBEAR;aPANDA;PIG NOSE;PAW PRINTS;CHIPMUNK;EYES;EYE;EAR;NOSE;MOUTH;TONGUE
WHITE UP POINTING BACKHAND INDEX;1cDOWN;c<;c>;0FISTED HAND $;bWAVING;bOK;aTHUMBS UP;1aDOWN
0aCLAPPING HANDS;bOPEN;CROWN;WOMANS HAT;EYEGLASSES;NECKTIE;T-SHIRT;JEANS;DRESS;KIMONO;BIKINI
WOMANS CLOTHES;PURSE;HANDBAG;POUCH;MANS SHOE;aATHLETIC;aHIGH-HEELED;WOMANS SANDAL;1BOOTS
0FOOTPRINTS;BUST IN SILHOUETTE;bBUSTS;BOY;GIRL;MAN;WOMAN;FAMILY;MAN ? WOMAN HOLDING HANDS
bTWO MEN;1bWOMEN;0POLICE OFFICER;WOMAN & BUNNY EARS;BRIDE & VEIL;PERSON & BLOND HAIR
MAN & GUA PI MAO;2TURBAN;0OLDER MAN;1WOMAN;0BABY;CONSTRUCTION WORKER;PRINCESS;JAPANESE OGRE
1GOBLIN;0GHOST;BABY ANGEL;EXTRATERRESTRIAL ALIEN;ALIEN MONSTER;IMP;SKULL;INFORMATION DESK PERSON
GUARDSMAN;DANCER;LIPSTICK;NAIL POLISH;FACE MASSAGE;HAIRCUT;BARBER POLE;SYRINGE;PILL;KISS MARK
LOVE .;RING;GEM STONE;KISS;BOUQUET;COUPLE & HEART;WEDDING;BEATING HEART;aBROKEN;TWO HEARTS
SPARKLING HEART;aGROWING;HEART & :;BLUE HEART;aGREEN;aYELLOW;aPURPLE;HEART & RIBBON
REVOLVING HEARTS;HEART DECORATION;DIAMOND SHAPE & A DOT INSIDE;ELECTRIC LIGHT BULB;ANGER SYMBOL
BOMB;SLEEPING SYMBOL;aCOLLISION;aSPLASHING SWEAT;DROPLET;DASH SYMBOL;PILE OF POO;FLEXED BICEPS
DIZZY SYMBOL;SPEECH BALLOON;aTHOUGHT;WHITE FLOWER;HUNDRED POINTS SYMBOL;MONEY BAG
CURRENCY EXCHANGE;HEAVY DOLLAR $;CREDIT CARD;BANKNOTE & YEN $;2aDOLLAR;aEURO;aPOUND
0MONEY & WINGS;CHART & UPWARDS TREND ? YEN $;SEAT;PERSONAL COMPUTER;BRIEFCASE;MINIDISC
FLOPPY DISK;OPTICAL DISC;DVD;FILE FOLDER;bOPEN;PAGE & CURL;1FACING UP;0CALENDAR;aTEAR-OFF
CARD INDEX;CHART & UPWARDS TREND;2a@;0BAR CHART;CLIPBOARD;PUSHPIN;aROUND;PAPERCLIP;STRAIGHT RULER
aTRIANGULAR;BOOKMARK TABS;LEDGER;NOTEBOOK;1& DECORATIVE COVER;0CLOSED BOOK;aOPEN;aGREEN;aBLUE
aORANGE;BOOKS;NAME BADGE;SCROLL;MEMO;TELEPHONE RECEIVER;PAGER;FAX MACHINE;SATELLITE ANTENNA
PUBLIC ADDRESS LOUDSPEAKER;CHEERING MEGAPHONE;OUTBOX TRAY;aINBOX;PACKAGE;E-MAIL SYMBOL
INCOMING ENVELOPE;ENVELOPE & @ : *;CLOSED MAILBOX & LOWERED FLAG;3aRAISED;0dOPEN;3aLOWERED
0POSTBOX;POSTAL HORN;NEWSPAPER;MOBILE PHONE;2& ~ : AT <;0VIBRATION MODE;MOBILE PHONE OFF
NO MOBILE PHONES;ANTENNA & BARS;CAMERA;1& FLASH;0VIDEO CAMERA;TELEVISION;RADIO;VIDEOCASSETTE
FILM PROJECTOR;PORTABLE STEREO;PRAYER BEADS;TWISTED ~ ARROWS;aCLOCKWISE ~ ? | OPEN CIRCLE
7& CIRCLED ONE OVERLAY;1@ ? UPWARDS OPEN CIRCLE ARROWS;0fANTICLOCKWISE;LOW BRIGHTNESS SYMBOL
bHIGH;SPEAKER & CANCELLATION STROKE;SPEAKER;1& ONE SOUND WAVE;2% SOUND WAVES;0BATTERY
ELECTRIC PLUG;LEFT-POINTING MAGNIFYING GLASS;bRIGHT-POINTING;LOCK & INK PEN;CLOSED LOCK & KEY;KEY
LOCK;aOPEN;BELL;1& CANCELLATION STROKE;0BOOKMARK;LINK SYMBOL;RADIO BUTTON;BACK & | : *;dEND
bON & EXCLAMATION MARK & < >;bSOON & ~;bTOP & UPWARDS;NO ONE UNDER EIGHTEEN SYMBOL;KEYCAP TEN
INPUT SYMBOL FOR LATIN ^ LETTERS;4a_;3NUMBERS;SYMBOLS;LATIN LETTERS;0FIRE;ELECTRIC TORCH;WRENCH
HAMMER;NUT ? BOLT;HOCHO;PISTOL;MICROSCOPE;TELESCOPE;CRYSTAL BALL;SIX POINTED STAR & MIDDLE DOT
JAPANESE SYMBOL FOR BEGINNER;TRIDENT EMBLEM;, SQUARE BUTTON;bWHITE;LARGE RED CIRCLE;1aBLUE
ORANGE DIAMOND;aBLUE;0a_ ORANGE;1aBLUE;0UP-POINTING RED TRIANGLE;bDOWN-POINTING;bUP-POINTING _
cDOWN-POINTING;LOWER > SHADOWED WHITE CIRCLE;dUPPER;CIRCLED CROSS POMMEE
CROSS POMMEE & HALF-CIRCLE BELOW;1POMMEE;0NOTCHED < SEMICIRCLE & % DOTS;1d>
0SYMBOL FOR MARKS CHAPTER;WHITE LATIN CROSS;bHEAVY;aCELTIC;OM SYMBOL;DOVE OF PEACE;KAABA;MOSQUE
SYNAGOGUE;MENORAH & NINE BRANCHES;BOWL OF HYGIEIA;CLOCK FACE ONE OCLOCK;2aTWO;a%;aFOUR;aFIVE;aSIX
aSEVEN;aEIGHT;aNINE;aTEN;aELEVEN;aTWELVE;ONE-THIRTY;TWO-THIRTY;THREE-THIRTY;FOUR-THIRTY
FIVE-THIRTY;SIX-THIRTY;SEVEN-THIRTY;EIGHT-THIRTY;NINE-THIRTY;TEN-THIRTY;ELEVEN-THIRTY
TWELVE-THIRTY;0> SPEAKER;2& ONE SOUND WAVE;3% SOUND WAVES;0BULLHORN;1& SOUND WAVES;0RINGING BELL
BOOK;CANDLE;MANTELPIECE CLOCK;, SKULL ? CROSSBONES;NO PIRACY;HOLE;MAN IN BUSINESS SUIT LEVITATING
SLEUTH OR SPY;DARK SUNGLASSES;SPIDER;1WEB;0JOYSTICK;MAN DANCING;< HAND TELEPHONE RECEIVER
TELEPHONE RECEIVER & PAGE;> HAND TELEPHONE RECEIVER;WHITE TOUCHTONE TELEPHONE;b,
TELEPHONE ON TOP OF MODEM;CLAMSHELL MOBILE PHONE;BACK OF ENVELOPE;aSTAMPED;ENVELOPE & LIGHTNING
FLYING ENVELOPE;aPEN OVER STAMPED;LINKED PAPERCLIPS;, PUSHPIN;LOWER < PENCIL;2BALLPOINT PEN
aFOUNTAIN;PAINTBRUSH;CRAYON;0< WRITING HAND;TURNED OK HAND $;RAISED HAND & FINGERS SPLAYED
eREVERSED;1THUMBS UP $;2aDOWN;1VICTORY HAND;HAND & MIDDLE FINGER EXTENDED
0RAISED HAND & PART BETWEEN MIDDLE ? RING FINGERS;WHITE DOWN POINTING < HAND INDEX
aSIDEWAYS WHITE < POINTING;2b>;1b, <;2b>;0a, < POINTING BACKHAND;1c>;0aSIDEWAYS WHITE UP POINTING
2bDOWN;1b, UP;2bDOWN;0a, UP POINTING BACKHAND;1cDOWN;HEART;0DESKTOP COMPUTER;KEYBOARD ? MOUSE
% NETWORKED COMPUTERS;PRINTER;POCKET CALCULATOR;, HARD SHELL FLOPPY DISK;dWHITE;cSOFT
TAPE CARTRIDGE;WIRED KEYBOARD;ONE BUTTON MOUSE;bTWO;b%;TRACKBALL;OLD PERSONAL COMPUTER;HARD DISK
SCREEN;PRINTER ICON;aFAX;aOPTICAL DISC;DOCUMENT & TEXT;3? PICTURE;1a&;0bFRAME;2TILES;AN X
0, FOLDER;FOLDER;aOPEN;CARD INDEX DIVIDERS;1FILE BOX;0FILE CABINET;EMPTY NOTE;2PAGE;PAD;0NOTE
1PAGE;PAD;0EMPTY DOCUMENT;1PAGE;PAGES;0DOCUMENT;PAGE;PAGES;WASTEBASKET;SPIRAL NOTE PAD;1aCALENDAR
0DESKTOP WINDOW;MINIMIZE;MAXIMIZE;OVERLAP;CLOCKWISE > ? < SEMICIRCLE ARROWS;CANCELLATION X
INCREASE FONT SIZE SYMBOL;cDECREASE;COMPRESSION;OLD KEY;ROLLED-UP NEWSPAPER;PAGE & CIRCLED TEXT
STOCK CHART;DAGGER KNIFE;LIPS;SPEAKING HEAD IN SILHOUETTE;% RAYS *;2BELOW;<;>;0< SPEECH BUBBLE;b>
TWO SPEECH BUBBLES;b%;< THOUGHT BUBBLE;b>;a< ANGER;b>;aMOOD;bLIGHTNING;1MOOD;0BALLOT BOX & BALLOT
1SCRIPT X;bBOX &;bBOLD;cBOX &;0LIGHT CHECK MARK;BALLOT BOX & BOLD CHECK;WORLD MAP;MOUNT FUJI
TOKYO TOWER;STATUE OF LIBERTY;SILHOUETTE OF JAPAN;MOYAI;GRINNING FACE;2& SMILING EYES
0FACE & TEARS OF JOY;SMILING FACE & OPEN MOUTH;5? SMILING EYES;6COLD SWEAT;TIGHTLY-CLOSED EYES
3HALO;HORNS;0WINKING FACE;SMILING FACE & SMILING EYES;FACE SAVOURING DELICIOUS FOOD;RELIEVED FACE
SMILING FACE & HEART-SHAPED EYES;3SUNGLASSES;0SMIRKING FACE;aNEUTRAL;aEXPRESSIONLESS;aUNAMUSED
FACE & COLD SWEAT;PENSIVE FACE;aCONFUSED;aCONFOUNDED;aKISSING;FACE THROWING A KISS
KISSING FACE & SMILING EYES;3aCLOSED;0FACE & STUCK-OUT TONGUE;4? WINKING EYE;5TIGHTLY-CLOSED EYES
0DISAPPOINTED FACE;aWORRIED;aANGRY;aPOUTING;aCRYING;aPERSEVERING;FACE & LOOK OF TRIUMPH
DISAPPOINTED BUT RELIEVED FACE;FROWNING FACE & OPEN MOUTH;ANGUISHED FACE;aFEARFUL;aWEARY;aSLEEPY
aTIRED;aGRIMACING;aLOUDLY CRYING;FACE & OPEN MOUTH;HUSHED FACE;FACE & OPEN MOUTH ? COLD SWEAT
1SCREAMING IN FEAR;0ASTONISHED FACE;aFLUSHED;aSLEEPING;aDIZZY;FACE WITHOUT MOUTH;1& MEDICAL MASK
0GRINNING CAT FACE & SMILING EYES;CAT FACE & TEARS OF JOY;SMILING CAT FACE & OPEN MOUTH
4HEART-SHAPED EYES;0CAT FACE & WRY SMILE;KISSING CAT FACE & CLOSED EYES;POUTING CAT FACE;bCRYING
bWEARY;aSLIGHTLY FROWNING;1aSMILING;0aUPSIDE-DOWN;FACE & ROLLING EYES;2NO GOOD GESTURE;aOK
0PERSON BOWING DEEPLY;SEE-NO-EVIL MONKEY;aHEAR-NO-EVIL;aSPEAK-NO-EVIL
HAPPY PERSON RAISING ONE HAND;PERSON RAISING BOTH HANDS IN CELEBRATION;1FROWNING;& POUTING FACE
2FOLDED HANDS;0NORTH WEST POINTING LEAF;cSOUTH;bNORTH EAST;cSOUTH;bTURNED NORTH WEST;1cSOUTH
bNORTH EAST;cSOUTH;0aNORTH WEST POINTING VINE;dSOUTH;cNORTH EAST;dSOUTH;cHEAVY NORTH WEST;1dSOUTH
cNORTH EAST;dSOUTH;0NORTH WEST POINTING BUD;cSOUTH;bNORTH EAST;cSOUTH;bHEAVY NORTH WEST;1cSOUTH
bNORTH EAST;cSOUTH;0HOLLOW QUILT SQUARE ORNAMENT;4IN , SQUARE;0SOLID QUILT SQUARE ORNAMENT
4IN , SQUARE;0| ROCKET;aUPWARDS;a~;a@;SCRIPT LIGATURE ET ORNAMENT;dHEAVY;bLIGATURE OPEN;dHEAVY
1aAMPERSAND;0bSWASH;aSANS-SERIF HEAVY = TURNED COMMA QUOTATION MARK;2d=;eLOW;0aHEAVY INTERROBANG
bSANS-SERIF;cHEAVY;VERY HEAVY SOLIDUS;2aREVERSE;0CHECKER BOARD;bREVERSE;ROCKET;HELICOPTER
STEAM LOCOMOTIVE;RAILWAY CAR;HIGH-SPEED TRAIN;2& BULLET NOSE;0TRAIN;METRO;LIGHT RAIL;STATION;TRAM
1CAR;0BUS;aONCOMING;TROLLEYBUS;BUS STOP;MINIBUS;AMBULANCE;FIRE ENGINE;POLICE CAR;bONCOMING;TAXI
aONCOMING;AUTOMOBILE;aONCOMING;RECREATIONAL VEHICLE;DELIVERY TRUCK;ARTICULATED LORRY;TRACTOR
MONORAIL;MOUNTAIN RAILWAY;aSUSPENSION;MOUNTAIN CABLEWAY;AERIAL TRAMWAY;SHIP;ROWBOAT;SPEEDBOAT
] TRAFFIC LIGHT;b!;CONSTRUCTION $;POLICE CARS REVOLVING LIGHT;TRIANGULAR FLAG ON POST;DOOR
NO ENTRY $;SMOKING SYMBOL;bNO;aPUT LITTER IN ITS PLACE;aDO NOT LITTER;aPOTABLE WATER;bNON-POTABLE
BICYCLE;NO BICYCLES;BICYCLIST;aMOUNTAIN;PEDESTRIAN;NO PEDESTRIANS;CHILDREN CROSSING;MENS SYMBOL
aWOMENS;RESTROOM;BABY SYMBOL;TOILET;WATER CLOSET;SHOWER;BATH;BATHTUB;PASSPORT CONTROL;CUSTOMS
BAGGAGE CLAIM;< LUGGAGE;TRIANGLE & ROUNDED CORNERS;PROHIBITED $;CIRCLED INFORMATION SOURCE
BOYS SYMBOL;aGIRLS;COUCH ? LAMP;SLEEPING ACCOMMODATION;SHOPPING BAGS;BELLHOP BELL;BED
PLACE OF WORSHIP;OCTAGONAL $;SHOPPING TROLLEY;STUPA;PAGODA;HINDU TEMPLE;HUT;ELEVATOR"⟩,
    ⟨0x1f6dd, "PLAYGROUND SLIDE;WHEEL;RING BUOY;HAMMER ? WRENCH;SHIELD;OIL DRUM;MOTORWAY
RAILWAY TRACK;MOTOR BOAT;UP-POINTING MILITARY AIRPLANE;1AIRPLANE;a_;0a_;aNORTHEAST-POINTING
AIRPLANE DEPARTURE;1ARRIVING"⟩,
    ⟨0x1f6f0, "SATELLITE;ONCOMING FIRE ENGINE;DIESEL LOCOMOTIVE;PASSENGER SHIP;SCOOTER;aMOTOR
CANOE;SLED;FLYING SAUCER;SKATEBOARD;AUTO RICKSHAW;PICKUP TRUCK;ROLLER SKATE"⟩,
    ⟨0x1f700, "ALCHEMICAL SYMBOL FOR QUINTESSENCE;3AIR;FIRE;EARTH;WATER;AQUAFORTIS;AQUA REGIA
4REGIA-2;VITAE;VITAE-2;3VINEGAR;VINEGAR-2;+1;SULFUR;aPHILOSOPHERS;a,;MERCURY SUBLIMATE
4SUBLIMATE-2;+1;3CINNABAR;SALT;NITRE;VITRIOL;VITRIOL-2;ROCK SALT;4SALT-2;3GOLD;SILVER;IRON ORE
4ORE-2;3CROCUS OF IRON;bREGULUS;COPPER ORE;aIRON-COPPER;SUBLIMATE OF COPPER;bCROCUS;5COPPER-2
3COPPER ANTIMONIATE;bSALT OF;SUBLIMATE OF SALT OF COPPER;VERDIGRIS;TIN ORE;aLEAD;aANTIMONY
SUBLIMATE OF ANTIMONY;bSALT;cSUBLIMATE OF;bVINEGAR;bREGULUS;5ANTIMONY-2;3REGULUS;REGULUS-2;+2
ALKALI;ALKALI-2;MARCASITE;SAL-AMMONIAC;ARSENIC;REALGAR;REALGAR-2;AURIPIGMENT;BISMUTH ORE;TARTAR
TARTAR-2;QUICK LIME;BORAX;BORAX-2;+1;ALUM;OIL;SPIRIT;TINCTURE;GUM;WAX;POWDER;CALX;TUTTY
CAPUT MORTUUM;SCEPTER OF JOVE;CADUCEUS;TRIDENT;aSTARRED;LODESTONE;SOAP;URINE;HORSE DUNG;ASHES
aPOT;BRICK;aPOWDERED;AMALGAM;STRATUM SUPER STRATUM;5STRATUM-2;3SUBLIMATION;PRECIPITATE;DISTILL
DISSOLVE;DISSOLVE-2;PURIFY;PUTREFACTION;CRUCIBLE;CRUCIBLE-2;+3;ALEMBIC;BATH OF MARY;5VAPOURS
3RETORT;HOUR;NIGHT;DAY-NIGHT;MONTH;HALF DRAM;4OUNCE"⟩,
    ⟨0x1f780, ", LEFT-POINTING ISOSCELES > TRIANGLE;1cUP-POINTING;cRIGHT-POINTING;cDOWN-POINTING
SLIGHTLY _ CIRCLE;0aMEDIUM BOLD WHITE;bBOLD;bHEAVY;cVERY;cEXTREMELY;aWHITE CIRCLE CONTAINING , _
ROUND TARGET;, TINY SQUARE;1aSLIGHTLY _;0aLIGHT WHITE;bMEDIUM;bBOLD;bHEAVY;cVERY;cEXTREMELY
aWHITE SQUARE CONTAINING , VERY _;4aMEDIUM;0SQUARE TARGET;, TINY DIAMOND;1aVERY _;bMEDIUM
0bWHITE DIAMOND CONTAINING , VERY;4aMEDIUM;0DIAMOND TARGET;, TINY LOZENGE;1aVERY _;bMEDIUM
0bWHITE LOZENGE CONTAINING ,;THIN GREEK CROSS;bLIGHT;bMEDIUM;bBOLD;cVERY;1bHEAVY;0cEXTREMELY
THIN SALTIRE;aLIGHT;aMEDIUM;aBOLD;aHEAVY;bVERY;bEXTREMELY;LIGHT FIVE SPOKED ASTERISK;cMEDIUM
cBOLD;cHEAVY;dVERY;dEXTREMELY;bLIGHT SIX;cMEDIUM;cBOLD;cHEAVY;dVERY;dEXTREMELY;bLIGHT EIGHT
cMEDIUM;cBOLD;cHEAVY;dVERY;LIGHT % POINTED , STAR;dMEDIUM;c%;aMEDIUM % POINTED PINWHEEL
aLIGHT FOUR POINTED ,;dMEDIUM;cFOUR;aMEDIUM FOUR POINTED PINWHEEL;dREVERSE LIGHT
aLIGHT FIVE POINTED ,;dHEAVY;cMEDIUM SIX;dHEAVY;aSIX POINTED PINWHEEL;aMEDIUM EIGHT POINTED ,
dHEAVY;eVERY;aHEAVY EIGHT POINTED PINWHEEL;aLIGHT TWELVE POINTED ,;dHEAVY;3aPINWHEEL
0CIRCLED TRIANGLE;bNEGATIVE;CIRCLED SQUARE;bNEGATIVE"⟩,
    ⟨0x1f7e0, "LARGE ORANGE CIRCLE;1aYELLOW;aGREEN;aPURPLE;aBROWN;RED SQUARE;aBLUE;aORANGE
aYELLOW;aGREEN;aPURPLE;aBROWN"⟩,
    ⟨0x1f7f0, "HEAVY EQUALS $"⟩,
    ⟨0x1f800, "| : & _ TRIANGLE ARROWHEAD;eUPWARDS;e~;e@;b| : & MEDIUM;eUPWARDS;e~;e@
b| : & LARGE;eUPWARDS;e~;e@"⟩,
    ⟨0x1f810, "| : & _ EQUILATERAL ARROWHEAD;eUPWARDS;e~;e@;b| : &;dUPWARDS;d~;d@;dHEAVY |
1dUPWARDS;d~;d@;b| : & LARGE;eUPWARDS;e~;e@;0| TRIANGLE-HEADED : & NARROW SHAFT;eUPWARDS;e~;e@
a| TRIANGLE-HEADED : & MEDIUM;eUPWARDS;e~;e@;a| TRIANGLE-HEADED : & BOLD;eUPWARDS;e~;e@
a| TRIANGLE-HEADED : & HEAVY;eUPWARDS;e~;e@;b| TRIANGLE-HEADED : & VERY;fUPWARDS;f~;f@
| FINGER-POST :;bUPWARDS;b~;b@;a| SQUARED;bUPWARDS;b~;b@;a| COMPRESSED;bUPWARDS;b~;b@;b| HEAVY
cUPWARDS;c~;c@;a| HEAVY;bUPWARDS;b~;b@"⟩,
    ⟨0x1f850, "| SANS-SERIF :;bUPWARDS;b~;b@;bNORTH WEST;1bEAST;0cSOUTH;1bWEST;0b< >;bUP DOWN"⟩,
    ⟨0x1f860, "WIDE-HEADED | LIGHT BARB :;1cUPWARDS;c~;c@;cNORTH WEST;2cEAST;1dSOUTH;2cWEST;1b|
bUPWARDS;b~;b@;bNORTH WEST;2bEAST;1cSOUTH;2bWEST;1b| MEDIUM;cUPWARDS;c~;c@;cNORTH WEST;2cEAST
1dSOUTH;2cWEST;1b| HEAVY;cUPWARDS;c~;c@;cNORTH WEST;2cEAST;1dSOUTH;2cWEST;1c| VERY;dUPWARDS;d~;d@
dNORTH WEST;2dEAST;1eSOUTH;2dWEST"⟩,
    ⟨0x1f890, "| TRIANGLE ARROWHEAD;bUPWARDS;b~;b@;b| WHITE : WITHIN;eUPWARDS;e~;e@
| : & NOTCHED TAIL;dUPWARDS;d~;d@;HEAVY : SHAFT WIDTH ONE;4TWO THIRDS;ONE HALF;5THIRD
0| BOTTOM-SHADED WHITE :;b~ BOTTOM SHADED;c| TOP;d~;b| LEFT-SHADED;b~ RIGHT-SHADED;c|
b~ LEFT-SHADED;b| BACK-TILTED SHADOWED;d~;c| FRONT-TILTED;d~;WHITE : SHAFT WIDTH ONE;4TWO THIRDS"⟩,
    ⟨0x1f8b0, ": POINTING UPWARDS THEN NORTH WEST;2a~ THEN CURVING SOUTH"⟩,
    ⟨0x1f900, "CIRCLED CROSS FORMEE & FOUR DOTS;4aTWO;2FORMEE;0< HALF CIRCLE & FOUR DOTS;4a%;aTWO
DOT;2CIRCLE;0DOWNWARD FACING HOOK;2aNOTCHED;HOOK & DOT;cNOTCHED;0PINCHED FINGERS;WHITE HEART
aBROWN;PINCHING HAND;ZIPPER-MOUTH FACE;aMONEY-MOUTH;FACE & THERMOMETER;NERD FACE;aTHINKING
FACE & HEAD-BANDAGE;ROBOT FACE;aHUGGING;$ OF THE HORNS;CALL ME HAND;aRAISED BACK OF
LEFT-FACING FIST;aRIGHT-FACING;HANDSHAKE;HAND & INDEX ? MIDDLE FINGERS CROSSED;I LOVE YOU HAND $
FACE & COWBOY HAT;CLOWN FACE;aNAUSEATED;ROLLING ON THE FLOOR LAUGHING;DROOLING FACE;aLYING
FACE PALM;SNEEZING FACE;FACE & ONE EYEBROW RAISED;GRINNING FACE & STAR EYES
3ONE LARGE ? ONE _ EYE;0FACE & FINGER COVERING CLOSED LIPS;SERIOUS FACE & SYMBOLS COVERING MOUTH
bSMILING FACE & SMILING EYES ? HAND;FACE & OPEN MOUTH VOMITING;SHOCKED FACE & EXPLODING HEAD
PREGNANT WOMAN;BREAST-FEEDING;PALMS UP TOGETHER;SELFIE;PRINCE;MAN IN TUXEDO;MOTHER CHRISTMAS
SHRUG;PERSON DOING CARTWHEEL;JUGGLING;FENCER;MODERN PENTATHLON;WRESTLERS;WATER POLO;HANDBALL
DIVING MASK;WILTED FLOWER;DRUM & DRUMSTICKS;CLINKING GLASSES;TUMBLER GLASS;SPOON;GOAL NET;RIFLE
FIRST PLACE MEDAL;bSECOND;bTHIRD;BOXING GLOVE;MARTIAL ARTS UNIFORM;CURLING STONE
LACROSSE STICK ? BALL;SOFTBALL;FLYING DISC;CROISSANT;AVOCADO;CUCUMBER;BACON;POTATO;CARROT
BAGUETTE BREAD;GREEN SALAD;SHALLOW PAN OF FOOD;STUFFED FLATBREAD;EGG;GLASS OF MILK;PEANUTS
KIWIFRUIT;PANCAKES;DUMPLING;FORTUNE COOKIE;TAKEOUT BOX;CHOPSTICKS;BOWL & SPOON;CUP & STRAW
COCONUT;BROCCOLI;PIE;PRETZEL;CUT OF MEAT;SANDWICH;CANNED FOOD;LEAFY GREEN;MANGO;MOON CAKE;BAGEL
SMILING FACE & SMILING EYES ? % HEARTS;YAWNING FACE;SMILING FACE & TEAR
FACE & PARTY HORN ? PARTY HAT;2UNEVEN EYES ? WAVY MOUTH;0OVERHEATED FACE;aFREEZING;NINJA
DISGUISED FACE;FACE HOLDING BACK TEARS;1& PLEADING EYES;0SARI;LAB COAT;GOGGLES;HIKING BOOT
FLAT SHOE;CRAB;LION FACE;SCORPION;TURKEY;UNICORN FACE;EAGLE;DUCK;BAT;SHARK;OWL;FOX FACE;BUTTERFLY
DEER;GORILLA;LIZARD;RHINOCEROS;SHRIMP;SQUID;GIRAFFE FACE;aZEBRA;HEDGEHOG;SAUROPOD;T-REX;CRICKET
KANGAROO;LLAMA;PEACOCK;HIPPOPOTAMUS;PARROT;RACCOON;LOBSTER;MOSQUITO;MICROBE;BADGER;SWAN;MAMMOTH
DODO;SLOTH;OTTER;ORANGUTAN;SKUNK;FLAMINGO;OYSTER;BEAVER;BISON;SEAL;GUIDE DOG;PROBING CANE
EMOJI COMPONENT RED HAIR;2aCURLY;BALD;WHITE HAIR;0BONE;LEG;FOOT;TOOTH;SUPERHERO;SUPERVILLAIN
SAFETY VEST;EAR & HEARING AID;MOTORIZED WHEELCHAIR;aMANUAL;MECHANICAL ARM;1LEG;0CHEESE WEDGE
CUPCAKE;SALT SHAKER;BEVERAGE BOX;GARLIC;ONION;FALAFEL;WAFFLE;BUTTER;MATE DRINK;ICE CUBE
BUBBLE TEA;TROLL;STANDING PERSON;aKNEELING;aDEAF;FACE & MONOCLE;ADULT;CHILD;OLDER ADULT
BEARDED PERSON;PERSON & HEADSCARF;1IN STEAMY ROOM;CLIMBING;IN LOTUS POSITION;0MAGE;FAIRY;VAMPIRE
MERPERSON;ELF;GENIE;ZOMBIE;BRAIN;ORANGE HEART;BILLED CAP;SCARF;GLOVES;COAT;SOCKS
RED GIFT ENVELOPE;FIRECRACKER;JIGSAW PUZZLE PIECE;TEST TUBE;PETRI DISH;DNA = HELIX;COMPASS;ABACUS
FIRE EXTINGUISHER;TOOLBOX;BRICK;MAGNET;LUGGAGE;LOTION BOTTLE;SPOOL OF THREAD;BALL OF YARN
SAFETY PIN;TEDDY BEAR;BROOM;BASKET;ROLL OF PAPER;BAR OF SOAP;SPONGE;RECEIPT;NAZAR AMULET
NEUTRAL CHESS KING;2QUEEN;ROOK;BISHOP;KNIGHT;PAWN;0WHITE CHESS KNIGHT ROTATED FORTY-FIVE DEGREES
e,;eNEUTRAL;aWHITE CHESS KING ROTATED NINETY;2cQUEEN;cROOK;cBISHOP;cKNIGHT;cPAWN;0c, CHESS KING
2cQUEEN;cROOK;cBISHOP;cKNIGHT;cPAWN;0cNEUTRAL CHESS KING;2cQUEEN;cROOK;cBISHOP;cKNIGHT;cPAWN
0aWHITE CHESS KNIGHT ROTATED ONE HUNDRED THIRTY-FIVE;g,;gNEUTRAL;WHITE CHESS TURNED KING;3QUEEN
ROOK;BISHOP;KNIGHT;PAWN;0, CHESS TURNED KING;3QUEEN;ROOK;BISHOP;KNIGHT;PAWN
0NEUTRAL CHESS TURNED KING;3QUEEN;ROOK;BISHOP;KNIGHT;PAWN
0WHITE CHESS KNIGHT ROTATED TWO HUNDRED TWENTY-FIVE DEGREES;g,;gNEUTRAL
aWHITE CHESS KING ROTATED TWO HUNDRED SEVENTY;2eQUEEN;eROOK;eBISHOP;eKNIGHT;ePAWN;0e, CHESS KING
2eQUEEN;eROOK;eBISHOP;eKNIGHT;ePAWN;0eNEUTRAL CHESS KING;2eQUEEN;eROOK;eBISHOP;eKNIGHT;ePAWN
0aWHITE CHESS KNIGHT ROTATED % HUNDRED FIFTEEN;g,;gNEUTRAL;WHITE CHESS EQUIHOPPER;b,;bNEUTRAL
WHITE CHESS EQUIHOPPER ROTATED NINETY DEGREES;e,;eNEUTRAL;WHITE CHESS KNIGHT-QUEEN;2KNIGHT-ROOK
KNIGHT-BISHOP;0, CHESS KNIGHT-QUEEN;2KNIGHT-ROOK;KNIGHT-BISHOP"⟩,
    ⟨0x1fa60, "XIANGQI RED GENERAL;2MANDARIN;ELEPHANT;HORSE;CHARIOT;CANNON;SOLDIER;1, GENERAL
2MANDARIN;ELEPHANT;HORSE;CHARIOT;CANNON;SOLDIER"⟩,
    ⟨0x1fa70, "BALLET SHOES;ONE-PIECE SWIMSUIT;BRIEFS;SHORTS;THONG SANDAL"⟩,
    ⟨0x1fa78, "DROP OF BLOOD;ADHESIVE BANDAGE;STETHOSCOPE;X-RAY;CRUTCH"⟩,
    ⟨0x1fa80, "YO-YO;KITE;PARACHUTE;BOOMERANG;MAGIC WAND;PINATA;NESTING DOLLS"⟩,
    ⟨0x1fa90, "RINGED PLANET;CHAIR;RAZOR;AXE;DIYA LAMP;BANJO;MILITARY HELMET;ACCORDION;LONG DRUM
COIN;CARPENTRY SAW;SCREWDRIVER;LADDER;HOOK;MIRROR;WINDOW;PLUNGER;SEWING NEEDLE;KNOT;BUCKET
MOUSE TRAP;TOOTHBRUSH;HEADSTONE;PLACARD;ROCK;MIRROR BALL;IDENTIFICATION CARD;LOW BATTERY;HAMSA"⟩,
    ⟨0x1fab0, "FLY;WORM;BEETLE;COCKROACH;POTTED PLANT;WOOD;FEATHER;LOTUS;CORAL;EMPTY NEST
NEST & EGGS"⟩,
    ⟨0x1fac0, "ANATOMICAL HEART;LUNGS;PEOPLE HUGGING;PREGNANT MAN;1PERSON;0PERSON & CROWN"⟩,
    ⟨0x1fad0, "BLUEBERRIES;BELL PEPPER;OLIVE;FLATBREAD;TAMALE;FONDUE;TEAPOT;POURING LIQUID;BEANS
JAR"⟩,
    ⟨0x1fae0, "MELTING FACE;aSALUTING;FACE & OPEN EYES ? HAND OVER MOUTH;2PEEKING EYE
DIAGONAL MOUTH;0DOTTED LINE FACE;BITING LIP;BUBBLES"⟩,
    ⟨0x1faf0, "HAND & INDEX FINGER ? THUMB CROSSED;~ HAND;a|;aPALM DOWN;1aUP
0INDEX POINTING AT THE VIEWER;HEART HANDS"⟩,
    ⟨0x1fb00, "BLOCK SEXTANT-1;+1;1SEXTANT-12;SEXTANT-3;SEXTANT-13;SEXTANT-23;SEXTANT-123
SEXTANT-4;SEXTANT-14;SEXTANT-24;SEXTANT-124;SEXTANT-34;SEXTANT-134;SEXTANT-234;SEXTANT-1234
SEXTANT-5;SEXTANT-15;SEXTANT-25;SEXTANT-125;SEXTANT-35;SEXTANT-235;SEXTANT-1235;SEXTANT-45
SEXTANT-145;SEXTANT-245;SEXTANT-1245;SEXTANT-345;SEXTANT-1345;SEXTANT-2345;SEXTANT-12345
SEXTANT-6;SEXTANT-16;SEXTANT-26;SEXTANT-126;SEXTANT-36;SEXTANT-136;SEXTANT-236;SEXTANT-1236
SEXTANT-46;SEXTANT-146;SEXTANT-1246;SEXTANT-346;SEXTANT-1346;SEXTANT-2346;SEXTANT-12346
SEXTANT-56;SEXTANT-156;SEXTANT-256;SEXTANT-1256;SEXTANT-356;SEXTANT-1356;SEXTANT-2356
SEXTANT-12356;SEXTANT-456;SEXTANT-1456;SEXTANT-2456;SEXTANT-12456;SEXTANT-3456;SEXTANT-13456
SEXTANT-23456;0LOWER < BLOCK DIAGONAL LOWER MIDDLE < TO LOWER CENTRE;9>
4UPPER MIDDLE < TO LOWER CENTRE;9>;5< TO LOWER CENTRE;1a> BLOCK DIAGONAL UPPER MIDDLE < TO UPPER
9>;4LOWER MIDDLE < TO UPPER CENTRE;9>;5< TO UPPER CENTRE;MIDDLE < TO UPPER MIDDLE >
bCENTRE TO LOWER;d<;bCENTRE TO UPPER;d<;aCENTRE TO UPPER
1a< BLOCK DIAGONAL UPPER CENTRE TO UPPER MIDDLE;5d<;bCENTRE TO LOWER;d<;aCENTRE TO LOWER
aMIDDLE < TO LOWER MIDDLE;0UPPER > BLOCK DIAGONAL LOWER MIDDLE < TO LOWER CENTRE;9>
4UPPER MIDDLE < TO LOWER CENTRE;9>;5< TO LOWER CENTRE;1a< BLOCK DIAGONAL UPPER MIDDLE < TO UPPER
9>;4LOWER MIDDLE < TO UPPER CENTRE;9>;5< TO UPPER CENTRE;MIDDLE < TO UPPER MIDDLE >
bCENTRE TO LOWER;d<;bCENTRE TO UPPER;d<;aCENTRE TO UPPER
1a> BLOCK DIAGONAL UPPER CENTRE TO UPPER MIDDLE;5d<;bCENTRE TO LOWER;d<;aCENTRE TO LOWER
aMIDDLE < TO LOWER MIDDLE;1? > ? LOWER TRIANGULAR % QUARTERS BLOCK;0d< ? LOWER ? >
dUPPER ? < ? LOWER;d< ? UPPER ? >;1aTRIANGULAR ONE QUARTER;0dUPPER;d>;dLOWER;! ONE EIGHTH BLOCK-2
+5;] ONE EIGHTH BLOCK-2;+5;< ? LOWER ONE EIGHTH BLOCK;2cUPPER;0e>;2cLOWER;0eUPPER
] ONE EIGHTH BLOCK-1358;UPPER ONE QUARTER BLOCK;1a% EIGHTHS;bFIVE;a% QUARTERS;aSEVEN EIGHTHS
0a> ONE QUARTER;1a% EIGHTHS;bFIVE;a% QUARTERS;aSEVEN EIGHTHS;0< HALF MEDIUM SHADE;c>;cUPPER
cLOWER;bINVERSE;cUPPER HALF BLOCK ? LOWER HALF;2INVERSE MEDIUM SHADE ? LOWER HALF BLOCK"⟩,
    ⟨0x1fb94, "< HALF INVERSE MEDIUM SHADE ? > HALF BLOCK;CHECKER BOARD FILL;cINVERSE;aHEAVY ]
aUPPER < TO LOWER >;1a> TO LOWER <;? LOWER TRIANGULAR HALF BLOCK;0c< ? >
UPPER < TRIANGULAR MEDIUM SHADE;1c>;0dLOWER;1c<
0BOX DRAWINGS LIGHT DIAGONAL UPPER CENTRE TO MIDDLE <;8>;4MIDDLE < TO LOWER CENTRE;5c>
4cUPPER CENTRE TO MIDDLE <;8c>;4MIDDLE < TO LOWER CENTRE TO MIDDLE >;7dUPPER
4UPPER CENTRE TO MIDDLE < ? MIDDLE > TO LOWER CENTRE;8c> ? MIDDLE <;9TO LOWER CENTRE TO MIDDLE <
8< TO LOWER CENTRE TO MIDDLE >;4MIDDLE < TO UPPER CENTRE TO MIDDLE > TO LOWER CENTRE
5c> TO UPPER CENTRE TO MIDDLE <;4DIAMOND;3] & ! STROKE;0ARROWHEAD-SHAPED POINTER
INVERSE CHECK MARK;< HALF RUNNING MAN;c>;INVERSE @ : & TIP |;| : ? UPPER ? LOWER ONE EIGHTH BLOCK
h~;c@ : ? >;fUPWARDS;< HALF FOLDER;b>;VOIDED GREEK CROSS;> OPEN SQUARED DOT
NEGATIVE DIAGONAL CROSS;2MIDDLE > TO LOWER CENTRE;DIAMOND;0WHITE HEAVY SALTIRE & ROUNDED CORNERS
< THIRD WHITE > POINTING INDEX;eMIDDLE;e>;NEGATIVE SQUARED QUESTION MARK;STICK FIGURE
2& ARMS RAISED;LEANING <;3>;2& DRESS;0WHITE UP-POINTING CHEVRON"⟩,
    ⟨0x1fbf0, "SEGMENTED DIGIT ZERO;2ONE;TWO;%;FOUR;FIVE;SIX;SEVEN;EIGHT;NINE"⟩,
    ⟨0xe0001, "LANGUAGE TAG"⟩,
    ⟨0xe0020, "TAG SPACE;1EXCLAMATION MARK;aQUOTATION;NUMBER $;aDOLLAR;aPERCENT;AMPERSAND
APOSTROPHE;< PARENTHESIS;a>;ASTERISK;PLUS $;COMMA;HYPHEN-MINUS;FULL STOP;SOLIDUS;DIGIT ZERO;2ONE
TWO;%;FOUR;FIVE;SIX;SEVEN;EIGHT;NINE;1COLON;SEMICOLON;LESS-THAN $;aEQUALS;aGREATER-THAN
QUESTION MARK;COMMERCIAL AT;LATIN ^ . A;+25;< SQUARE BRACKET;REVERSE SOLIDUS;> SQUARE BRACKET
CIRCUMFLEX ACCENT;LOW LINE;GRAVE ACCENT;LATIN _ . A;+25;< CURLY BRACKET;! LINE;> CURLY BRACKET
TILDE;0CANCEL TAG"⟩,
    ⟨0xe0100, "VARIATION SELECTOR-17;+239"⟩ ]

end TagTree.Text
