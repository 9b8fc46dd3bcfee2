/-!
# Names of historic characters

The characters of historic scripts.

A row begins with a code point in base sixteen and with what some names begin with; the ends of these
names follow, for one code point after the other.  A low line stands for a blank.
-/

namespace ShaderShrink.Text.NameTable

/-- The names of the characters of historic scripts. -/
def historic : String :=
  "10000=LINEAR_B_SYLLABLE_;B008_A;B038_E;B028_I;B061_O;B010_U;B001_DA;B045_DE;B007_DI;B014_DO;B051_DU
B057_JA;B046_JE;1000d=LINEAR_B_SYLLABLE_;B036_JO;B065_JU;B077_KA;B044_KE;B067_KI;B070_KO;B081_KU
B080_MA;B013_ME;B073_MI;B015_MO;B023_MU;B006_NA;B024_NE;B030_NI;B052_NO;B055_NU;B003_PA;B072_PE
B039_PI;B011_PO;B050_PU;B016_QA;B078_QE;B021_QI;B032_QO
10028=LINEAR_B_SYLLABLE_;B060_RA;B027_RE;B053_RI;B002_RO;B026_RU;B031_SA;B009_SE;B041_SI;B012_SO
B058_SU;B059_TA;B004_TE;B037_TI;B005_TO;B069_TU;B054_WA;B075_WE;B040_WI;B042_WO
1003c=LINEAR_B_SYLLABLE_;B017_ZA;B074_ZE
1003f=LINEAR_B_SYLLABLE_;B020_ZO;B025_A2;B043_A3;B085_AU;B071_DWE;B090_DWO;B048_NWA;B029_PU2
B062_PTE;B076_RA2;B033_RA3;B068_RO2;B066_TA2;B087_TWE;B091_TWO
10050=LINEAR_B_SYMBOL_;B018;B019;B022;B034;B047;B049;B056;B063;B064;B079;B082;B083;B086;B089
10080=LINEAR_B_IDEOGRAM_;B100_MAN;B102_WOMAN;B104_DEER;B105_EQUID;B105F_MARE;B105M_STALLION
B106F_EWE;B106M_RAM;B107F_SHE-GOAT;B107M_HE-GOAT;B108F_SOW;B108M_BOAR;B109F_COW;B109M_BULL
B120_WHEAT;B121_BARLEY;B122_OLIVE;B123_SPICE;B125_CYPERUS
10093=LINEAR_B_MONOGRAM_;B127_KAPO;B128_KANAKO
10095=LINEAR_B_IDEOGRAM_;B130_OIL;B131_WINE;B132
10098=LINEAR_B_MONOGRAM_;B133_AREPA;B135_MERI
1009a=LINEAR_B_IDEOGRAM_;B140_BRONZE;B141_GOLD;B142;B145_WOOL;B146;B150;B151_HORN;B152;B153;B154
100a4=;LINEAR_B_MONOGRAM_B156_TURO2;100a5=LINEAR_B_IDEOGRAM_;B157;B158;B159_CLOTH;B160;B161
B162_GARMENT;B163_ARMOUR;B164;B165;B166;B167;B168;B169;B170;B171;B172;B173_MONTH;B174;B176_TREE;B177
B178;B179;B180;B181;B182;B183;B184;B185;B189;B190;B191_HELMET;B220_FOOTSTOOL;B225_BATHTUB;B230_SPEAR
B231_ARROW;B232;B233_SWORD;B234;B236;B240_WHEELED_CHARIOT;B241_CHARIOT;B242_CHARIOT_FRAME;B243_WHEEL
B245;B246;100d2=;LINEAR_B_MONOGRAM_B247_DIPTE
100d3=LINEAR_B_IDEOGRAM_;B248;B249;B251;B252;B253;B254_DART;B255;B256;B257;B258;B259
100de=LINEAR_B_IDEOGRAM_VESSEL_;B155;B200;B201;B202;B203;B204;B205;B206;B207;B208;B209;B210;B211
B212;B213;B214;B215;B216;B217;B218;B219;B221;B222;B226;B227;B228;B229;B250;B305
10100=AEGEAN_WORD_SEPARATOR_;LINE;DOT;10102=;AEGEAN_CHECK_MARK
10107=AEGEAN_NUMBER_;ONE;TWO;THREE;FOUR;FIVE;SIX;SEVEN;EIGHT;NINE;TEN;TWENTY;THIRTY;FORTY;FIFTY
SIXTY;SEVENTY;EIGHTY;NINETY;ONE_HUNDRED;TWO_HUNDRED;THREE_HUNDRED;FOUR_HUNDRED;FIVE_HUNDRED
SIX_HUNDRED;SEVEN_HUNDRED;EIGHT_HUNDRED;NINE_HUNDRED;ONE_THOUSAND;TWO_THOUSAND;THREE_THOUSAND
FOUR_THOUSAND;FIVE_THOUSAND;SIX_THOUSAND;SEVEN_THOUSAND;EIGHT_THOUSAND;NINE_THOUSAND;TEN_THOUSAND
TWENTY_THOUSAND;THIRTY_THOUSAND;FORTY_THOUSAND;FIFTY_THOUSAND;SIXTY_THOUSAND;SEVENTY_THOUSAND
EIGHTY_THOUSAND;NINETY_THOUSAND;10137=AEGEAN_WEIGHT_;BASE_UNIT;FIRST_SUBUNIT;SECOND_SUBUNIT
THIRD_SUBUNIT;FOURTH_SUBUNIT;1013c=AEGEAN_;DRY_MEASURE_FIRST_SUBUNIT;LIQUID_MEASURE_FIRST_SUBUNIT
MEASURE_SECOND_SUBUNIT;MEASURE_THIRD_SUBUNIT
10140=GREEK_ACROPHONIC_ATTIC_;ONE_QUARTER;ONE_HALF;ONE_DRACHMA;FIVE;FIFTY;FIVE_HUNDRED;FIVE_THOUSAND
FIFTY_THOUSAND;FIVE_TALENTS;TEN_TALENTS;FIFTY_TALENTS;ONE_HUNDRED_TALENTS;FIVE_HUNDRED_TALENTS
ONE_THOUSAND_TALENTS;FIVE_THOUSAND_TALENTS;FIVE_STATERS;TEN_STATERS;FIFTY_STATERS
ONE_HUNDRED_STATERS;FIVE_HUNDRED_STATERS;ONE_THOUSAND_STATERS;TEN_THOUSAND_STATERS
FIFTY_THOUSAND_STATERS;TEN_MNAS;10158=GREEK_ACROPHONIC_;HERAEUM_ONE_PLETHRON;THESPIAN_ONE
HERMIONIAN_ONE;EPIDAUREAN_TWO;THESPIAN_TWO;CYRENAIC_TWO_DRACHMAS;EPIDAUREAN_TWO_DRACHMAS
TROEZENIAN_FIVE;TROEZENIAN_TEN;TROEZENIAN_TEN_ALTERNATE_FORM;HERMIONIAN_TEN;MESSENIAN_TEN
THESPIAN_TEN;THESPIAN_THIRTY;TROEZENIAN_FIFTY;TROEZENIAN_FIFTY_ALTERNATE_FORM;HERMIONIAN_FIFTY
THESPIAN_FIFTY;THESPIAN_ONE_HUNDRED;THESPIAN_THREE_HUNDRED;EPIDAUREAN_FIVE_HUNDRED
TROEZENIAN_FIVE_HUNDRED;THESPIAN_FIVE_HUNDRED;CARYSTIAN_FIVE_HUNDRED;NAXIAN_FIVE_HUNDRED
THESPIAN_ONE_THOUSAND;THESPIAN_FIVE_THOUSAND;DELPHIC_FIVE_MNAS;STRATIAN_FIFTY_MNAS
10175=GREEK_;ONE_HALF_SIGN;ONE_HALF_SIGN_ALTERNATE_FORM;TWO_THIRDS_SIGN;THREE_QUARTERS_SIGN
YEAR_SIGN;TALENT_SIGN;DRACHMA_SIGN;OBOL_SIGN;TWO_OBOLS_SIGN;THREE_OBOLS_SIGN;FOUR_OBOLS_SIGN
FIVE_OBOLS_SIGN;METRETES_SIGN;KYATHOS_BASE_SIGN;LITRA_SIGN;OUNKIA_SIGN;XESTES_SIGN;ARTABE_SIGN
AROURA_SIGN;GRAMMA_SIGN;TRYBLION_BASE_SIGN;ZERO_SIGN;ONE_QUARTER_SIGN;SINUSOID_SIGN;INDICTION_SIGN
1018e=;NOMISMA_SIGN;10190=ROMAN_;SEXTANS_SIGN;UNCIA_SIGN;SEMUNCIA_SIGN;SEXTULA_SIGN
DIMIDIA_SEXTULA_SIGN;SILIQUA_SIGN;DENARIUS_SIGN;QUINARIUS_SIGN;SESTERTIUS_SIGN;DUPONDIUS_SIGN
AS_SIGN;CENTURIAL_SIGN;1019c=;ASCIA_SYMBOL;101a0=;GREEK_SYMBOL_TAU_RHO
101d0=PHAISTOS_DISC_SIGN_;PEDESTRIAN;PLUMED_HEAD;TATTOOED_HEAD;CAPTIVE;CHILD;WOMAN;HELMET;GAUNTLET
TIARA;ARROW;BOW;SHIELD;CLUB;MANACLES;MATTOCK;SAW;LID;BOOMERANG;CARPENTRY_PLANE;DOLIUM;COMB;SLING
COLUMN;BEEHIVE;SHIP;HORN;HIDE;BULLS_LEG;CAT;RAM;EAGLE;DOVE;TUNNY;BEE;PLANE_TREE;VINE;PAPYRUS;ROSETTE
LILY;OX_BACK;FLUTE;GRATER;STRAINER;SMALL_AXE;WAVY_BAND;COMBINING_OBLIQUE_STROKE
10280=LYCIAN_LETTER_;A;E;B;BH;G;D;I;W;Z;TH;J;K;Q;L;M;N;MM;NN;U;P;KK;R;S;T;TT;AN;EN;H;X
102a0=CARIAN_LETTER_;A;P2;D;L;UUU;R;LD;A2;Q;B;M;O;D2;T;SH;SH2;S;C-18;U;NN;X;N;TT2;P;SS;I;E;UUUU;K;K2
ND;UU;G;G2;ST;ST2;NG;II;C-39;TT;UUU2;RR;MB;MB2;MB3;MB4;LD2;E2;UUU3
102e0=;COPTIC_EPACT_THOUSANDS_MARK;102e1=COPTIC_EPACT_DIGIT_;ONE;TWO;THREE;FOUR;FIVE;SIX;SEVEN;EIGHT
NINE;102ea=COPTIC_EPACT_NUMBER_;TEN;TWENTY;THIRTY;FORTY;FIFTY;SIXTY;SEVENTY;EIGHTY;NINETY
ONE_HUNDRED;TWO_HUNDRED;THREE_HUNDRED;FOUR_HUNDRED;FIVE_HUNDRED;SIX_HUNDRED;SEVEN_HUNDRED
EIGHT_HUNDRED;NINE_HUNDRED;10300=OLD_ITALIC_LETTER_;A;BE;KE;DE;E;VE;ZE;HE;THE;I;KA;EL;EM;EN;ESH;O;PE
SHE;KU;ER;ES;TE;U;EKS;PHE;KHE;EF;ERS;CHE;II;UU;ESS
10320=OLD_ITALIC_NUMERAL_;ONE;FIVE;TEN;FIFTY
1032d=OLD_ITALIC_LETTER_;YE;NORTHERN_TSE;SOUTHERN_TSE
10330=GOTHIC_LETTER_;AHSA;BAIRKAN;GIBA;DAGS;AIHVUS;QAIRTHRA;IUJA;HAGL;THIUTH;EIS;KUSMA;LAGUS;MANNA
NAUTHS;JER;URUS;PAIRTHRA;NINETY;RAIDA;SAUIL;TEIWS;WINJA;FAIHU;IGGWS;HWAIR;OTHAL;NINE_HUNDRED
10350=OLD_PERMIC_LETTER_;AN;BUR;GAI;DOI;E;ZHOI;DZHOI;ZATA;DZITA;I;KOKE;LEI;MENOE;NENOE;VOOI;PEEI;REI
SII;TAI;U;CHERY;SHOOI;SHCHOOI;YRY;YERU;O;OO;EF;HA;TSIU;VER;YER;YERI;YAT;IE;YU;YA;IA
10376=COMBINING_OLD_PERMIC_LETTER_;AN;DOI;ZATA;NENOE;SII
10380=UGARITIC_LETTER_;ALPA;BETA;GAMLA;KHA;DELTA;HO;WO;ZETA;HOTA;TET;YOD;KAF;SHIN;LAMDA;MEM;DHAL;NUN
ZU;SAMKA;AIN;PU;SADE;QOPA;RASHA;THANNA;GHAIN;TO;I;U;SSU
1039f=;UGARITIC_WORD_DIVIDER;103a0=OLD_PERSIAN_SIGN_;A;I;U;KA;KU;GA;GU;XA;CA;JA;JI;TA;TU;DA;DI;DU
THA;PA;BA;FA;NA;NU;MA;MI;MU;YA;VA;VI;RA;RU;LA;SA;ZA;SHA;SSA;HA
103c8=OLD_PERSIAN_SIGN_;AURAMAZDAA;AURAMAZDAA-2;AURAMAZDAAHA;XSHAAYATHIYA;DAHYAAUSH;DAHYAAUSH-2;BAGA
BUUMISH;103d0=;OLD_PERSIAN_WORD_DIVIDER
103d1=OLD_PERSIAN_NUMBER_;ONE;TWO;TEN;TWENTY;HUNDRED
10400=DESERET_CAPITAL_LETTER_;LONG_I;LONG_E;LONG_A;LONG_AH;LONG_O;LONG_OO;SHORT_I;SHORT_E;SHORT_A
SHORT_AH;SHORT_O;SHORT_OO;AY;OW;WU;YEE;H;PEE;BEE;TEE;DEE;CHEE;JEE;KAY;GAY;EF;VEE;ETH;THEE;ES;ZEE;ESH
ZHEE;ER;EL;EM;EN;ENG;OI;EW;10428=DESERET_SMALL_LETTER_;LONG_I;LONG_E;LONG_A;LONG_AH;LONG_O;LONG_OO
SHORT_I;SHORT_E;SHORT_A;SHORT_AH;SHORT_O;SHORT_OO;AY;OW;WU;YEE;H;PEE;BEE;TEE;DEE;CHEE;JEE;KAY;GAY;EF
VEE;ETH;THEE;ES;ZEE;ESH;ZHEE;ER;EL;EM;EN;ENG;OI;EW
10450=SHAVIAN_LETTER_;PEEP;TOT;KICK;FEE;THIGH;SO;SURE;CHURCH;YEA;HUNG;BIB;DEAD;GAG;VOW;THEY;ZOO
MEASURE;JUDGE;WOE;HA-HA;LOLL;MIME;IF;EGG;ASH;ADO;ON;WOOL;OUT;AH;ROAR;NUN;EAT;AGE;ICE;UP;OAK;OOZE;OIL
AWE;ARE;OR;AIR;ERR;ARRAY;EAR;IAN;YEW;10480=OSMANYA_LETTER_;ALEF;BA;TA;JA;XA;KHA;DEEL;RA;SA;SHIIN;DHA
CAYN;GA;FA;QAAF;KAAF;LAAN;MIIN;NUUN;WAW;HA;YA;A;E;I;O;U;AA;EE;OO
104a0=OSMANYA_DIGIT_;ZERO;ONE;TWO;THREE;FOUR;FIVE;SIX;SEVEN;EIGHT;NINE
104b0=OSAGE_CAPITAL_LETTER_;A;AI;AIN;AH;BRA;CHA;EHCHA;E;EIN;HA;HYA;I;KA;EHKA;KYA;LA;MA;NA;O;OIN;PA
EHPA;SA;SHA;TA;EHTA;TSA;EHTSA;TSHA;DHA;U;WA;KHA;GHA;ZA;ZHA
104d8=OSAGE_SMALL_LETTER_;A;AI;AIN;AH;BRA;CHA;EHCHA;E;EIN;HA;HYA;I;KA;EHKA;KYA;LA;MA;NA;O;OIN;PA
EHPA;SA;SHA;TA;EHTA;TSA;EHTSA;TSHA;DHA;U;WA;KHA;GHA;ZA;ZHA
10500=ELBASAN_LETTER_;A;BE;CE;CHE;DE;NDE;DHE;EI;E;FE;GE;GJE;HE;I;JE;KE;LE;LLE;ME;NE;NA;NJE;O;PE;QE
RE;RRE;SE;SHE;TE;THE;U;VE;XE;Y;ZE;ZHE;GHE;GHAMMA;KHE
10530=CAUCASIAN_ALBANIAN_LETTER_;ALT;BET;GIM;DAT;EB;ZARL;EYN;ZHIL;TAS;CHA;YOWD;ZHA;IRB;SHA;LAN;INYA
XEYN;DYAN;CAR;JHOX;KAR;LYIT;HEYT;QAY;AOR;CHOY;CHI;CYAY;MAQ;QAR;NOWC;DZYAY;SHAK;JAYN;ON;TYAY;FAM;DZAY
CHAT;PEN;GHEYS;RAT;SEYK;VEYZ;TIWR;SHOY;IWN;CYAW;CAYN;YAYD;PIWR;KIW
1056f=;CAUCASIAN_ALBANIAN_CITATION_MARK
10570=VITHKUQI_CAPITAL_LETTER_;A;BBE;BE;CE;CHE;DE;DHE;EI;E;FE;GA
1057c=VITHKUQI_CAPITAL_LETTER_;HA;HHA;I;IJE;JE;KA;LA;LLA;ME;NE;NJE;O;PE;QA;RE
1058c=VITHKUQI_CAPITAL_LETTER_;SE;SHE;TE;THE;U;VE;XE
10594=VITHKUQI_CAPITAL_LETTER_;Y;ZE
10597=VITHKUQI_SMALL_LETTER_;A;BBE;BE;CE;CHE;DE;DHE;EI;E;FE;GA
105a3=VITHKUQI_SMALL_LETTER_;HA;HHA;I;IJE;JE;KA;LA;LLA;ME;NE;NJE;O;PE;QA;RE
105b3=VITHKUQI_SMALL_LETTER_;SE;SHE;TE;THE;U;VE;XE
105bb=VITHKUQI_SMALL_LETTER_;Y;ZE;10600=LINEAR_A_SIGN_;AB001;AB002;AB003;AB004;AB005;AB006;AB007
AB008;AB009;AB010;AB011;AB013;AB016;AB017;AB020;AB021;AB021F;AB021M;AB022;AB022F;AB022M;AB023;AB023M
AB024;AB026;AB027;AB028;A028B;AB029;AB030;AB031;AB034;AB037;AB038;AB039;AB040;AB041;AB044;AB045
AB046;AB047;AB048;AB049;AB050;AB051;AB053;AB054;AB055;AB056;AB057;AB058;AB059;AB060;AB061;AB065
AB066;AB067;AB069;AB070;AB073;AB074;AB076;AB077;AB078;AB079;AB080;AB081;AB082;AB085;AB086;AB087
A100-102;AB118;AB120;A120B;AB122;AB123;AB131A;AB131B;A131C;AB164;AB171;AB180;AB188;AB191;A301;A302
A303;A304;A305;A306;A307;A308;A309A;A309B;A309C;A310;A311;A312;A313A;A313B;A313C;A314;A315;A316;A317
A318;A319;A320;A321;A322;A323;A324;A325;A326;A327;A328;A329;A330;A331;A332;A333;A334;A335;A336;A337
A338;A339;A340;A341;A342;A343;A344;A345;A346;A347;A348;A349;A350;A351;A352;A353;A354;A355;A356;A357
A358;A359;A360;A361;A362;A363;A364;A365;A366;A367;A368;A369;A370;A371;A400-VAS;A401-VAS;A402-VAS
A403-VAS;A404-VAS;A405-VAS;A406-VAS;A407-VAS;A408-VAS;A409-VAS;A410-VAS;A411-VAS;A412-VAS;A413-VAS
A414-VAS;A415-VAS;A416-VAS;A417-VAS;A418-VAS;A501;A502;A503;A504;A505;A506;A508;A509;A510;A511;A512
A513;A515;A516;A520;A521;A523;A524;A525;A526;A527;A528;A529;A530;A531;A532;A534;A535;A536;A537;A538
A539;A540;A541;A542;A545;A547;A548;A549;A550;A551;A552;A553;A554;A555;A556;A557;A559;A563;A564;A565
A566;A568;A569;A570;A571;A572;A573;A574;A575;A576;A577;A578;A579;A580;A581;A582;A583;A584;A585;A586
A587;A588;A589;A591;A592;A594;A595;A596;A598;A600;A601;A602;A603;A604;A606;A608;A609;A610;A611;A612
A613;A614;A615;A616;A617;A618;A619;A620;A621;A622;A623;A624;A626;A627;A628;A629;A634;A637;A638;A640
A642;A643;A644;A645;A646;A648;A649;A651;A652;A653;A654;A655;A656;A657;A658;A659;A660;A661;A662;A663
A664;10740=LINEAR_A_SIGN_;A701_A;A702_B;A703_D;A704_E;A705_F;A706_H;A707_J;A708_K;A709_L;A709-2_L2
A709-3_L3;A709-4_L4;A709-6_L6;A710_W;A711_X;A712_Y;A713_OMEGA;A714_ABB;A715_BB;A717_DD;A726_EYYY
A732_JE;10760=LINEAR_A_SIGN_;A800;A801;A802;A803;A804;A805;A806;A807
10780=MODIFIER_LETTER_;SMALL_CAPITAL_AA;SUPERSCRIPT_TRIANGULAR_COLON
SUPERSCRIPT_HALF_TRIANGULAR_COLON;SMALL_AE;SMALL_CAPITAL_B;SMALL_B_WITH_HOOK
10787=MODIFIER_LETTER_SMALL_;DZ_DIGRAPH;DZ_DIGRAPH_WITH_RETROFLEX_HOOK;DZ_DIGRAPH_WITH_CURL
DEZH_DIGRAPH;D_WITH_TAIL;D_WITH_HOOK;D_WITH_HOOK_AND_TAIL;REVERSED_E;CLOSED_REVERSED_OPEN_E
FENG_DIGRAPH;RAMS_HORN;CAPITAL_G;G_WITH_HOOK;CAPITAL_G_WITH_HOOK;H_WITH_STROKE;CAPITAL_H
HENG_WITH_HOOK;DOTLESS_J_WITH_STROKE_AND_HOOK;LS_DIGRAPH;LZ_DIGRAPH;L_WITH_BELT;CAPITAL_L_WITH_BELT
L_WITH_RETROFLEX_HOOK_AND_BELT;LEZH;LEZH_WITH_RETROFLEX_HOOK;TURNED_Y;TURNED_Y_WITH_BELT
O_WITH_STROKE;CAPITAL_OE;CLOSED_OMEGA;Q;TURNED_R_WITH_LONG_LEG
TURNED_R_WITH_LONG_LEG_AND_RETROFLEX_HOOK;R_WITH_TAIL;R_WITH_FISHHOOK;CAPITAL_R;TC_DIGRAPH_WITH_CURL
TS_DIGRAPH;TS_DIGRAPH_WITH_RETROFLEX_HOOK;TESH_DIGRAPH;T_WITH_RETROFLEX_HOOK;V_WITH_RIGHT_HOOK
107b2=MODIFIER_LETTER_;SMALL_CAPITAL_Y;GLOTTAL_STOP_WITH_STROKE;REVERSED_GLOTTAL_STOP_WITH_STROKE
BILABIAL_CLICK;DENTAL_CLICK;LATERAL_CLICK;ALVEOLAR_CLICK;RETROFLEX_CLICK_WITH_RETROFLEX_HOOK
SMALL_S_WITH_CURL;10800=CYPRIOT_SYLLABLE_;A;E;I;O;U;JA
10808=;CYPRIOT_SYLLABLE_JO;1080a=CYPRIOT_SYLLABLE_;KA;KE;KI;KO;KU;LA;LE;LI;LO;LU;MA;ME;MI;MO;MU;NA
NE;NI;NO;NU;PA;PE;PI;PO;PU;RA;RE;RI;RO;RU;SA;SE;SI;SO;SU;TA;TE;TI;TO;TU;WA;WE;WI;WO
10837=CYPRIOT_SYLLABLE_;XA;XE;1083c=;CYPRIOT_SYLLABLE_ZA
1083f=;CYPRIOT_SYLLABLE_ZO;10840=IMPERIAL_ARAMAIC_LETTER_;ALEPH;BETH;GIMEL;DALETH;HE;WAW;ZAYIN;HETH
TETH;YODH;KAPH;LAMEDH;MEM;NUN;SAMEKH;AYIN;PE;SADHE;QOPH;RESH;SHIN;TAW
10857=;IMPERIAL_ARAMAIC_SECTION_SIGN
10858=IMPERIAL_ARAMAIC_NUMBER_;ONE;TWO;THREE;TEN;TWENTY;ONE_HUNDRED;ONE_THOUSAND;TEN_THOUSAND
10860=PALMYRENE_LETTER_;ALEPH;BETH;GIMEL;DALETH;HE;WAW;ZAYIN;HETH;TETH;YODH;KAPH;LAMEDH;MEM
FINAL_NUN;NUN;SAMEKH;AYIN;PE;SADHE;QOPH;RESH;SHIN;TAW
10877=PALMYRENE_;LEFT-POINTING_FLEURON;RIGHT-POINTING_FLEURON
10879=PALMYRENE_NUMBER_;ONE;TWO;THREE;FOUR;FIVE;TEN;TWENTY
10880=NABATAEAN_LETTER_;FINAL_ALEPH;ALEPH;FINAL_BETH;BETH;GIMEL;DALETH;FINAL_HE;HE;WAW;ZAYIN;HETH
TETH;FINAL_YODH;YODH;FINAL_KAPH;KAPH;FINAL_LAMEDH;LAMEDH;FINAL_MEM;MEM;FINAL_NUN;NUN;SAMEKH;AYIN;PE
SADHE;QOPH;RESH;FINAL_SHIN;SHIN;TAW;108a7=NABATAEAN_NUMBER_;ONE;TWO;THREE;FOUR
108ab=;NABATAEAN_CRUCIFORM_NUMBER_FOUR
108ac=NABATAEAN_NUMBER_;FIVE;TEN;TWENTY;ONE_HUNDRED
108e0=HATRAN_LETTER_;ALEPH;BETH;GIMEL;DALETH-RESH;HE;WAW;ZAYN;HETH;TETH;YODH;KAPH;LAMEDH;MEM;NUN
SAMEKH;AYN;PE;SADHE;QOPH;108f4=HATRAN_LETTER_;SHIN;TAW
108fb=HATRAN_NUMBER_;ONE;FIVE;TEN;TWENTY;ONE_HUNDRED
10900=PHOENICIAN_LETTER_;ALF;BET;GAML;DELT;HE;WAU;ZAI;HET;TET;YOD;KAF;LAMD;MEM;NUN;SEMK;AIN;PE;SADE
QOF;ROSH;SHIN;TAU;10916=PHOENICIAN_NUMBER_;ONE;TEN;TWENTY;ONE_HUNDRED;TWO;THREE
1091f=;PHOENICIAN_WORD_SEPARATOR;10920=LYDIAN_LETTER_;A;B;G;D;E;V;I;Y;K;L;M;N;O;R;SS;T;U;F;Q;S;TT;AN
EN;LY;NN;C;1093f=;LYDIAN_TRIANGULAR_MARK
10980=MEROITIC_HIEROGLYPHIC_LETTER_;A;E;I;O;YA;WA;BA;BA-2;PA;MA;NA;NA-2;NE;NE-2;RA;RA-2;LA;KHA;HHA
SA;SA-2;SE;KA;QA;TA;TA-2;TE;TE-2;TO;DA
1099e=MEROITIC_HIEROGLYPHIC_SYMBOL_;VIDJ;VIDJ-2
109a0=MEROITIC_CURSIVE_LETTER_;A;E;I;O;YA;WA;BA;PA;MA;NA;NE;RA;LA;KHA;HHA;SA;ARCHAIC_SA;SE;KA;QA;TA
TE;TO;DA;109bc=MEROITIC_CURSIVE_;FRACTION_ELEVEN_TWELFTHS;FRACTION_ONE_HALF;LOGOGRAM_RMT
LOGOGRAM_IMN;109c0=MEROITIC_CURSIVE_NUMBER_;ONE;TWO;THREE;FOUR;FIVE;SIX;SEVEN;EIGHT;NINE;TEN;TWENTY
THIRTY;FORTY;FIFTY;SIXTY;SEVENTY
109d2=MEROITIC_CURSIVE_NUMBER_;ONE_HUNDRED;TWO_HUNDRED;THREE_HUNDRED;FOUR_HUNDRED;FIVE_HUNDRED
SIX_HUNDRED;SEVEN_HUNDRED;EIGHT_HUNDRED;NINE_HUNDRED;ONE_THOUSAND;TWO_THOUSAND;THREE_THOUSAND
FOUR_THOUSAND;FIVE_THOUSAND;SIX_THOUSAND;SEVEN_THOUSAND;EIGHT_THOUSAND;NINE_THOUSAND;TEN_THOUSAND
TWENTY_THOUSAND;THIRTY_THOUSAND;FORTY_THOUSAND;FIFTY_THOUSAND;SIXTY_THOUSAND;SEVENTY_THOUSAND
EIGHTY_THOUSAND;NINETY_THOUSAND;ONE_HUNDRED_THOUSAND;TWO_HUNDRED_THOUSAND;THREE_HUNDRED_THOUSAND
FOUR_HUNDRED_THOUSAND;FIVE_HUNDRED_THOUSAND;SIX_HUNDRED_THOUSAND;SEVEN_HUNDRED_THOUSAND
EIGHT_HUNDRED_THOUSAND;NINE_HUNDRED_THOUSAND
109f6=MEROITIC_CURSIVE_FRACTION_;ONE_TWELFTH;TWO_TWELFTHS;THREE_TWELFTHS;FOUR_TWELFTHS;FIVE_TWELFTHS
SIX_TWELFTHS;SEVEN_TWELFTHS;EIGHT_TWELFTHS;NINE_TWELFTHS;TEN_TWELFTHS
10a00=;KHAROSHTHI_LETTER_A;10a01=KHAROSHTHI_VOWEL_SIGN_;I;U;VOCALIC_R
10a05=KHAROSHTHI_VOWEL_SIGN_;E;O;10a0c=KHAROSHTHI_;VOWEL_LENGTH_MARK;SIGN_DOUBLE_RING_BELOW
SIGN_ANUSVARA;SIGN_VISARGA;10a10=KHAROSHTHI_LETTER_;KA;KHA;GA;GHA
10a15=KHAROSHTHI_LETTER_;CA;CHA;JA;10a19=KHAROSHTHI_LETTER_;NYA;TTA;TTHA;DDA;DDHA;NNA;TA;THA;DA;DHA
NA;PA;PHA;BA;BHA;MA;YA;RA;LA;VA;SHA;SSA;SA;ZA;HA;KKA;TTTHA;TTTA;VHA
10a38=KHAROSHTHI_SIGN_;BAR_ABOVE;CAUDA;DOT_BELOW
10a3f=KHAROSHTHI_;VIRAMA;DIGIT_ONE;DIGIT_TWO;DIGIT_THREE;DIGIT_FOUR;NUMBER_TEN;NUMBER_TWENTY
NUMBER_ONE_HUNDRED;NUMBER_ONE_THOUSAND;FRACTION_ONE_HALF
10a50=KHAROSHTHI_PUNCTUATION_;DOT;SMALL_CIRCLE;CIRCLE;CRESCENT_BAR;MANGALAM;LOTUS;DANDA;DOUBLE_DANDA
LINES;10a60=OLD_SOUTH_ARABIAN_LETTER_;HE;LAMEDH;HETH;MEM;QOPH;WAW;SHIN;RESH;BETH;TAW;SAT;KAPH;NUN
KHETH;SADHE;SAMEKH;FE;ALEF;AYN;DHADHE;GIMEL;DALETH;GHAYN;TETH;ZAYN;DHALETH;YODH;THAW;THETH
10a7d=OLD_SOUTH_ARABIAN_;NUMBER_ONE;NUMBER_FIFTY;NUMERIC_INDICATOR
10a80=OLD_NORTH_ARABIAN_LETTER_;HEH;LAM;HAH;MEEM;QAF;WAW;ES-2;REH;BEH;TEH;ES-1;KAF;NOON;KHAH;SAD
ES-3;FEH;ALEF;AIN;DAD;GEEM;DAL;GHAIN;TAH;ZAIN;THAL;YEH;THEH;ZAH
10a9d=OLD_NORTH_ARABIAN_NUMBER_;ONE;TEN;TWENTY
10ac0=MANICHAEAN_LETTER_;ALEPH;BETH;BHETH;GIMEL;GHIMEL;DALETH;HE;WAW
10ac8=;MANICHAEAN_SIGN_UD;10ac9=MANICHAEAN_LETTER_;ZAYIN;ZHAYIN;JAYIN;JHAYIN;HETH;TETH;YODH;KAPH
XAPH;KHAPH;LAMEDH;DHAMEDH;THAMEDH;MEM;NUN;SAMEKH;AYIN;AAYIN;PE;FE;SADHE;QOPH;XOPH;QHOPH;RESH;SHIN
SSHIN;TAW;10ae5=MANICHAEAN_ABBREVIATION_MARK_;ABOVE;BELOW
10aeb=MANICHAEAN_NUMBER_;ONE;FIVE;TEN;TWENTY;ONE_HUNDRED
10af0=MANICHAEAN_PUNCTUATION_;STAR;FLEURON;DOUBLE_DOT_WITHIN_DOT;DOT_WITHIN_DOT;DOT;TWO_DOTS
LINE_FILLER;10b00=AVESTAN_LETTER_;A;AA;AO;AAO;AN;AAN;AE;AEE;E;EE;O;OO;I;II;U;UU;KE;XE;XYE;XVE;GE;GGE
GHE;CE;JE;TE;THE;DE;DHE;TTE;PE;FE;BE;BHE;NGE;NGYE;NGVE;NE;NYE;NNE;ME;HME;YYE;YE;VE;RE;LE;SE;ZE;SHE
ZHE;SHYE;SSHE;HE;10b39=;AVESTAN_ABBREVIATION_MARK;TINY_TWO_DOTS_OVER_ONE_DOT_PUNCTUATION
SMALL_TWO_DOTS_OVER_ONE_DOT_PUNCTUATION;10b3c=LARGE_;TWO_DOTS_OVER_ONE_DOT_PUNCTUATION
ONE_DOT_OVER_TWO_DOTS_PUNCTUATION;TWO_RINGS_OVER_ONE_RING_PUNCTUATION
ONE_RING_OVER_TWO_RINGS_PUNCTUATION
10b40=INSCRIPTIONAL_PARTHIAN_LETTER_;ALEPH;BETH;GIMEL;DALETH;HE;WAW;ZAYIN;HETH;TETH;YODH;KAPH;LAMEDH
MEM;NUN;SAMEKH;AYIN;PE;SADHE;QOPH;RESH;SHIN;TAW
10b58=INSCRIPTIONAL_PARTHIAN_NUMBER_;ONE;TWO;THREE;FOUR;TEN;TWENTY;ONE_HUNDRED;ONE_THOUSAND
10b60=INSCRIPTIONAL_PAHLAVI_LETTER_;ALEPH;BETH;GIMEL;DALETH;HE;WAW-AYIN-RESH;ZAYIN;HETH;TETH;YODH
KAPH;LAMEDH;MEM-QOPH;NUN;SAMEKH;PE;SADHE;SHIN;TAW
10b78=INSCRIPTIONAL_PAHLAVI_NUMBER_;ONE;TWO;THREE;FOUR;TEN;TWENTY;ONE_HUNDRED;ONE_THOUSAND
10b80=PSALTER_PAHLAVI_LETTER_;ALEPH;BETH;GIMEL;DALETH;HE;WAW-AYIN-RESH;ZAYIN;HETH;YODH;KAPH;LAMEDH
MEM-QOPH;NUN;SAMEKH;PE;SADHE;SHIN;TAW;10b99=PSALTER_PAHLAVI_;SECTION_MARK;TURNED_SECTION_MARK
FOUR_DOTS_WITH_CROSS;FOUR_DOTS_WITH_DOT
10ba9=PSALTER_PAHLAVI_NUMBER_;ONE;TWO;THREE;FOUR;TEN;TWENTY;ONE_HUNDRED
10c00=OLD_TURKIC_LETTER_;ORKHON_A;YENISEI_A;YENISEI_AE;ORKHON_I;YENISEI_I;YENISEI_E;ORKHON_O
ORKHON_OE;YENISEI_OE;ORKHON_AB;YENISEI_AB;ORKHON_AEB;YENISEI_AEB;ORKHON_AG;YENISEI_AG;ORKHON_AEG
YENISEI_AEG;ORKHON_AD;YENISEI_AD;ORKHON_AED;ORKHON_EZ;YENISEI_EZ;ORKHON_AY;YENISEI_AY;ORKHON_AEY
YENISEI_AEY;ORKHON_AEK;YENISEI_AEK;ORKHON_OEK;YENISEI_OEK;ORKHON_AL;YENISEI_AL;ORKHON_AEL;ORKHON_ELT
ORKHON_EM;ORKHON_AN;ORKHON_AEN;YENISEI_AEN;ORKHON_ENT;YENISEI_ENT;ORKHON_ENC;YENISEI_ENC;ORKHON_ENY
YENISEI_ENY;YENISEI_ANG;ORKHON_ENG;YENISEI_AENG;ORKHON_EP;ORKHON_OP;ORKHON_IC;ORKHON_EC;YENISEI_EC
ORKHON_AQ;YENISEI_AQ;ORKHON_IQ;YENISEI_IQ;ORKHON_OQ;YENISEI_OQ;ORKHON_AR;YENISEI_AR;ORKHON_AER
ORKHON_AS;ORKHON_AES;ORKHON_ASH;YENISEI_ASH;ORKHON_ESH;YENISEI_ESH;ORKHON_AT;YENISEI_AT;ORKHON_AET
YENISEI_AET;ORKHON_OT;ORKHON_BASH
10c80=OLD_HUNGARIAN_CAPITAL_LETTER_;A;AA;EB;AMB;EC;ENC;ECS;ED;AND;E;CLOSE_E;EE;EF;EG;EGY;EH;I;II;EJ
EK;AK;UNK;EL;ELY;EM;EN;ENY;O;OO;NIKOLSBURG_OE;RUDIMENTA_OE;OEE;EP;EMP;ER;SHORT_ER;ES;ESZ;ET;ENT;ETY
ECH;U;UU;NIKOLSBURG_UE;RUDIMENTA_UE;EV;EZ;EZS;ENT-SHAPED_SIGN;US
10cc0=OLD_HUNGARIAN_SMALL_LETTER_;A;AA;EB;AMB;EC;ENC;ECS;ED;AND;E;CLOSE_E;EE;EF;EG;EGY;EH;I;II;EJ;EK
AK;UNK;EL;ELY;EM;EN;ENY;O;OO;NIKOLSBURG_OE;RUDIMENTA_OE;OEE;EP;EMP;ER;SHORT_ER;ES;ESZ;ET;ENT;ETY;ECH
U;UU;NIKOLSBURG_UE;RUDIMENTA_UE;EV;EZ;EZS;ENT-SHAPED_SIGN;US
10cfa=OLD_HUNGARIAN_NUMBER_;ONE;FIVE;TEN;FIFTY;ONE_HUNDRED;ONE_THOUSAND
10d00=HANIFI_ROHINGYA_LETTER_;A;BA;PA;TA;TTA;JA;CA;HA;KHA;FA;DA;DDA;RA;RRA;ZA;SA;SHA;KA;GA;LA;MA;NA
WA;KINNA_WA;YA;KINNA_YA;NGA;NYA;VA
10d1d=HANIFI_ROHINGYA_VOWEL_;A;I;U;E;O
10d22=HANIFI_ROHINGYA_;MARK_SAKIN;MARK_NA_KHONNA;SIGN_HARBAHAY;SIGN_TAHALA;SIGN_TANA;SIGN_TASSI
10d30=HANIFI_ROHINGYA_DIGIT_;ZERO;ONE;TWO;THREE;FOUR;FIVE;SIX;SEVEN;EIGHT;NINE
10e60=RUMI_DIGIT_;ONE;TWO;THREE;FOUR;FIVE;SIX;SEVEN;EIGHT;NINE
10e69=RUMI_NUMBER_;TEN;TWENTY;THIRTY;FORTY;FIFTY;SIXTY;SEVENTY;EIGHTY;NINETY;ONE_HUNDRED;TWO_HUNDRED
THREE_HUNDRED;FOUR_HUNDRED;FIVE_HUNDRED;SIX_HUNDRED;SEVEN_HUNDRED;EIGHT_HUNDRED;NINE_HUNDRED
10e7b=RUMI_FRACTION_;ONE_HALF;ONE_QUARTER;ONE_THIRD;TWO_THIRDS
10e80=YEZIDI_LETTER_;ELIF;BE;PE;PHE;THE;SE;CIM;CHIM;CHHIM;HHA;XA;DAL;ZAL;RA;RHA;ZA;JA;SIN;SHIN;SAD
DAD;TA;ZE;EYN;XHEYN;FA;VA;VA_ALTERNATE_FORM;QAF;KAF;KHAF;GAF;LAM;MIM;NUN;UM;WAW;OW;EW;HAY;YOT;ET
10eab=YEZIDI_;COMBINING_HAMZA_MARK;COMBINING_MADDA_MARK;HYPHENATION_MARK
10eb0=YEZIDI_LETTER_;LAM_WITH_DOT_ABOVE;YOT_WITH_CIRCUMFLEX_ABOVE
10f00=OLD_SOGDIAN_LETTER_;ALEPH;FINAL_ALEPH;BETH;FINAL_BETH;GIMEL;HE;FINAL_HE;WAW;ZAYIN;HETH;YODH
KAPH;LAMEDH;MEM;NUN;FINAL_NUN;FINAL_NUN_WITH_VERTICAL_TAIL;SAMEKH;AYIN;ALTERNATE_AYIN;PE;SADHE
FINAL_SADHE;FINAL_SADHE_WITH_VERTICAL_TAIL;RESH-AYIN-DALETH;SHIN;TAW;FINAL_TAW
FINAL_TAW_WITH_VERTICAL_TAIL;10f1d=OLD_SOGDIAN_NUMBER_;ONE;TWO;THREE;FOUR;FIVE;TEN;TWENTY;THIRTY
ONE_HUNDRED;10f26=OLD_SOGDIAN_;FRACTION_ONE_HALF;LIGATURE_AYIN-DALETH
10f30=SOGDIAN_LETTER_;ALEPH;BETH;GIMEL;HE;WAW;ZAYIN;HETH;YODH;KAPH;LAMEDH;MEM;NUN;SAMEKH;AYIN;PE
SADHE;RESH-AYIN;SHIN;TAW;FETH;LESH;10f45=;SOGDIAN_INDEPENDENT_SHIN
10f46=SOGDIAN_COMBINING_;DOT_BELOW;TWO_DOTS_BELOW;DOT_ABOVE;TWO_DOTS_ABOVE;CURVE_ABOVE;CURVE_BELOW
HOOK_ABOVE;HOOK_BELOW;LONG_HOOK_BELOW;RESH_BELOW;STROKE_BELOW
10f51=SOGDIAN_NUMBER_;ONE;TEN;TWENTY;ONE_HUNDRED
10f55=SOGDIAN_PUNCTUATION_;TWO_VERTICAL_BARS;TWO_VERTICAL_BARS_WITH_DOTS;CIRCLE_WITH_DOT
TWO_CIRCLES_WITH_DOTS;HALF_CIRCLE_WITH_DOT
10f70=OLD_UYGHUR_LETTER_;ALEPH;BETH;GIMEL-HETH;WAW;ZAYIN;FINAL_HETH;YODH;KAPH;LAMEDH;MEM;NUN;SAMEKH
PE;SADHE;RESH;SHIN;TAW;LESH;10f82=OLD_UYGHUR_COMBINING_;DOT_ABOVE;DOT_BELOW;TWO_DOTS_ABOVE
TWO_DOTS_BELOW;10f86=OLD_UYGHUR_PUNCTUATION_;BAR;TWO_BARS;TWO_DOTS;FOUR_DOTS
10fb0=CHORASMIAN_LETTER_;ALEPH;SMALL_ALEPH;BETH;GIMEL;DALETH;HE;WAW;CURLED_WAW;ZAYIN;HETH;YODH;KAPH
LAMEDH;MEM;NUN;SAMEKH;AYIN;PE;RESH;SHIN;TAW
10fc5=CHORASMIAN_NUMBER_;ONE;TWO;THREE;FOUR;TEN;TWENTY;ONE_HUNDRED
10fe0=ELYMAIC_LETTER_;ALEPH;BETH;GIMEL;DALETH;HE;WAW;ZAYIN;HETH;TETH;YODH;KAPH;LAMEDH;MEM;NUN;SAMEKH
AYIN;PE;SADHE;QOPH;RESH;SHIN;TAW;10ff6=;ELYMAIC_LIGATURE_ZAYIN-YODH
11000=BRAHMI_SIGN_;CANDRABINDU;ANUSVARA;VISARGA;JIHVAMULIYA;UPADHMANIYA
11005=BRAHMI_LETTER_;A;AA;I;II;U;UU;VOCALIC_R;VOCALIC_RR;VOCALIC_L;VOCALIC_LL;E;AI;O;AU;KA;KHA;GA
GHA;NGA;CA;CHA;JA;JHA;NYA;TTA;TTHA;DDA;DDHA;NNA;TA;THA;DA;DHA;NA;PA;PHA;BA;BHA;MA;YA;RA;LA;VA;SHA
SSA;SA;HA;LLA;OLD_TAMIL_LLLA;OLD_TAMIL_RRA;OLD_TAMIL_NNNA
11038=BRAHMI_VOWEL_SIGN_;AA;BHATTIPROLU_AA;I;II;U;UU;VOCALIC_R;VOCALIC_RR;VOCALIC_L;VOCALIC_LL;E;AI
O;AU;11046=BRAHMI_;VIRAMA;DANDA;DOUBLE_DANDA
11049=BRAHMI_PUNCTUATION_;DOT;DOUBLE_DOT;LINE;CRESCENT_BAR;LOTUS
11052=BRAHMI_NUMBER_;ONE;TWO;THREE;FOUR;FIVE;SIX;SEVEN;EIGHT;NINE;TEN;TWENTY;THIRTY;FORTY;FIFTY
SIXTY;SEVENTY;EIGHTY;NINETY;ONE_HUNDRED;ONE_THOUSAND
11066=BRAHMI_DIGIT_;ZERO;ONE;TWO;THREE;FOUR;FIVE;SIX;SEVEN;EIGHT;NINE
11070=;BRAHMI_SIGN_OLD_TAMIL_VIRAMA
11071=BRAHMI_LETTER_OLD_TAMIL_SHORT_;E;O
11073=BRAHMI_VOWEL_SIGN_OLD_TAMIL_SHORT_;E;O;11075=;BRAHMI_LETTER_OLD_TAMIL_LLA
1107f=;BRAHMI_NUMBER_JOINER;11080=KAITHI_SIGN_;CANDRABINDU;ANUSVARA;VISARGA
11083=KAITHI_LETTER_;A;AA;I;II;U;UU;E;AI;O;AU;KA;KHA;GA;GHA;NGA;CA;CHA;JA;JHA;NYA;TTA;TTHA;DDA;DDDHA
DDHA;RHA;NNA;TA;THA;DA;DHA;NA;PA;PHA;BA;BHA;MA;YA;RA;LA;VA;SHA;SSA;SA;HA
110b0=KAITHI_VOWEL_SIGN_;AA;I;II;U;UU;E;AI;O;AU
110b9=KAITHI_;SIGN_VIRAMA;SIGN_NUKTA;ABBREVIATION_SIGN;ENUMERATION_SIGN;NUMBER_SIGN;SECTION_MARK
DOUBLE_SECTION_MARK;DANDA;DOUBLE_DANDA;VOWEL_SIGN_VOCALIC_R
110cd=;KAITHI_NUMBER_SIGN_ABOVE;110d0=SORA_SOMPENG_LETTER_;SAH;TAH;BAH;CAH;DAH;GAH;MAH;NGAH;LAH;NAH
VAH;PAH;YAH;RAH;HAH;KAH;JAH;NYAH;AH;EEH;IH;UH;OH;EH;MAE
110f0=SORA_SOMPENG_DIGIT_;ZERO;ONE;TWO;THREE;FOUR;FIVE;SIX;SEVEN;EIGHT;NINE
11100=CHAKMA_SIGN_;CANDRABINDU;ANUSVARA;VISARGA
11103=CHAKMA_LETTER_;AA;I;U;E;KAA;KHAA;GAA;GHAA;NGAA;CAA;CHAA;JAA;JHAA;NYAA;TTAA;TTHAA;DDAA;DDHAA
NNAA;TAA;THAA;DAA;DHAA;NAA;PAA;PHAA;BAA;BHAA;MAA;YYAA;YAA;RAA;LAA;WAA;SAA;HAA
11127=CHAKMA_VOWEL_SIGN_;A;I;II;U;UU;E;AI;O;AU;OI
11131=CHAKMA_;O_MARK;AU_MARK;VIRAMA;MAAYYAA
11136=CHAKMA_DIGIT_;ZERO;ONE;TWO;THREE;FOUR;FIVE;SIX;SEVEN;EIGHT;NINE
11140=CHAKMA_;SECTION_MARK;DANDA;DOUBLE_DANDA;QUESTION_MARK;LETTER_LHAA;VOWEL_SIGN_AA;VOWEL_SIGN_EI
LETTER_VAA;11150=MAHAJANI_LETTER_;A;I;U;E;O;KA;KHA;GA;GHA;CA;CHA;JA;JHA;NYA;TTA;TTHA;DDA;DDHA;NNA;TA
THA;DA;DHA;NA;PA;PHA;BA;BHA;MA;RA;LA;VA;SA;HA;RRA
11173=MAHAJANI_;SIGN_NUKTA;ABBREVIATION_SIGN;SECTION_MARK;LIGATURE_SHRI
11180=SHARADA_SIGN_;CANDRABINDU;ANUSVARA;VISARGA
11183=SHARADA_LETTER_;A;AA;I;II;U;UU;VOCALIC_R;VOCALIC_RR;VOCALIC_L;VOCALIC_LL;E;AI;O;AU;KA;KHA;GA
GHA;NGA;CA;CHA;JA;JHA;NYA;TTA;TTHA;DDA;DDHA;NNA;TA;THA;DA;DHA;NA;PA;PHA;BA;BHA;MA;YA;RA;LA;LLA;VA
SHA;SSA;SA;HA;111b3=SHARADA_VOWEL_SIGN_;AA;I;II;U;UU;VOCALIC_R;VOCALIC_RR;VOCALIC_L;VOCALIC_LL;E;AI
O;AU;111c0=SHARADA_;SIGN_VIRAMA;SIGN_AVAGRAHA;SIGN_JIHVAMULIYA;SIGN_UPADHMANIYA;OM;DANDA
DOUBLE_DANDA;ABBREVIATION_SIGN;SEPARATOR;SANDHI_MARK;SIGN_NUKTA;VOWEL_MODIFIER_MARK
EXTRA_SHORT_VOWEL_MARK;SUTRA_MARK;VOWEL_SIGN_PRISHTHAMATRA_E;SIGN_INVERTED_CANDRABINDU
111d0=SHARADA_DIGIT_;ZERO;ONE;TWO;THREE;FOUR;FIVE;SIX;SEVEN;EIGHT;NINE
111da=SHARADA_;EKAM;SIGN_SIDDHAM;HEADSTROKE;CONTINUATION_SIGN;SECTION_MARK-1;SECTION_MARK-2
111e1=SINHALA_ARCHAIC_DIGIT_;ONE;TWO;THREE;FOUR;FIVE;SIX;SEVEN;EIGHT;NINE
111ea=SINHALA_ARCHAIC_NUMBER_;TEN;TWENTY;THIRTY;FORTY;FIFTY;SIXTY;SEVENTY;EIGHTY;NINETY;ONE_HUNDRED
ONE_THOUSAND;11200=KHOJKI_LETTER_;A;AA;I;U;E;AI;O;AU;KA;KHA;GA;GGA;GHA;NGA;CA;CHA;JA;JJA
11213=KHOJKI_LETTER_;NYA;TTA;TTHA;DDA;DDHA;NNA;TA;THA;DA;DDDA;DHA;NA;PA;PHA;BA;BBA;BHA;MA;YA;RA;LA
VA;SA;HA;LLA;1122c=KHOJKI_VOWEL_SIGN_;AA;I;II;U;E;AI;O;AU
11234=KHOJKI_SIGN_;ANUSVARA;VIRAMA;NUKTA;SHADDA
11238=KHOJKI_;DANDA;DOUBLE_DANDA;WORD_SEPARATOR;SECTION_MARK;DOUBLE_SECTION_MARK;ABBREVIATION_SIGN
SIGN_SUKUN;11280=MULTANI_LETTER_;A;I;U;E;KA;KHA;GA;11288=;MULTANI_LETTER_GHA
1128a=MULTANI_LETTER_;CA;CHA;JA;JJA;1128f=MULTANI_LETTER_;NYA;TTA;TTHA;DDA;DDDA;DDHA;NNA;TA;THA;DA
DHA;NA;PA;PHA;BA;1129f=MULTANI_LETTER_;BHA;MA;YA;RA;LA;VA;SA;HA;RRA;RHA
112a9=;MULTANI_SECTION_MARK;112b0=KHUDAWADI_LETTER_;A;AA;I;II;U;UU;E;AI;O;AU;KA;KHA;GA;GGA;GHA;NGA
CA;CHA;JA;JJA;JHA;NYA;TTA;TTHA;DDA;DDDA;RRA;DDHA;NNA;TA;THA;DA;DHA;NA;PA;PHA;BA;BBA;BHA;MA;YA;RA;LA
VA;SHA;SA;HA;112df=;KHUDAWADI_SIGN_ANUSVARA
112e0=KHUDAWADI_VOWEL_SIGN_;AA;I;II;U;UU;E;AI;O;AU
112e9=KHUDAWADI_SIGN_;NUKTA;VIRAMA;112f0=KHUDAWADI_DIGIT_;ZERO;ONE;TWO;THREE;FOUR;FIVE;SIX;SEVEN
EIGHT;NINE;11300=GRANTHA_SIGN_;COMBINING_ANUSVARA_ABOVE;CANDRABINDU;ANUSVARA;VISARGA
11305=GRANTHA_LETTER_;A;AA;I;II;U;UU;VOCALIC_R;VOCALIC_L
1130f=GRANTHA_LETTER_;EE;AI;11313=GRANTHA_LETTER_;OO;AU;KA;KHA;GA;GHA;NGA;CA;CHA;JA;JHA;NYA;TTA;TTHA
DDA;DDHA;NNA;TA;THA;DA;DHA;NA;1132a=GRANTHA_LETTER_;PA;PHA;BA;BHA;MA;YA;RA
11332=GRANTHA_LETTER_;LA;LLA;11335=GRANTHA_LETTER_;VA;SHA;SSA;SA;HA
1133b=;COMBINING_BINDU_BELOW;1133c=GRANTHA_SIGN_;NUKTA;AVAGRAHA
1133e=GRANTHA_VOWEL_SIGN_;AA;I;II;U;UU;VOCALIC_R;VOCALIC_RR
11347=GRANTHA_VOWEL_SIGN_;EE;AI;1134b=GRANTHA_;VOWEL_SIGN_OO;VOWEL_SIGN_AU;SIGN_VIRAMA
11350=;GRANTHA_OM;11357=;GRANTHA_AU_LENGTH_MARK;1135d=;GRANTHA_SIGN_PLUTA
1135e=GRANTHA_LETTER_;VEDIC_ANUSVARA;VEDIC_DOUBLE_ANUSVARA;VOCALIC_RR;VOCALIC_LL
11362=GRANTHA_VOWEL_SIGN_VOCALIC_;L;LL
11366=COMBINING_GRANTHA_DIGIT_;ZERO;ONE;TWO;THREE;FOUR;FIVE;SIX
11370=COMBINING_GRANTHA_LETTER_;A;KA;NA;VI;PA
11400=NEWA_LETTER_;A;AA;I;II;U;UU;VOCALIC_R;VOCALIC_RR;VOCALIC_L;VOCALIC_LL;E;AI;O;AU;KA;KHA;GA;GHA
NGA;NGHA;CA;CHA;JA;JHA;NYA;NYHA;TTA;TTHA;DDA;DDHA;NNA;TA;THA;DA;DHA;NA;NHA;PA;PHA;BA;BHA;MA;MHA;YA
RA;RHA;LA;LHA;WA;SHA;SSA;SA;HA;11435=NEWA_VOWEL_SIGN_;AA;I;II;U;UU;VOCALIC_R;VOCALIC_RR;VOCALIC_L
VOCALIC_LL;E;AI;O;AU;11442=NEWA_SIGN_;VIRAMA;CANDRABINDU;ANUSVARA;VISARGA;NUKTA;AVAGRAHA
FINAL_ANUSVARA;11449=NEWA_;OM;SIDDHI;DANDA;DOUBLE_DANDA;COMMA;GAP_FILLER;ABBREVIATION_SIGN
11450=NEWA_DIGIT_;ZERO;ONE;TWO;THREE;FOUR;FIVE;SIX;SEVEN;EIGHT;NINE
1145a=NEWA_;DOUBLE_COMMA;PLACEHOLDER_MARK;1145d=NEWA_;INSERTION_SIGN;SANDHI_MARK
LETTER_VEDIC_ANUSVARA;SIGN_JIHVAMULIYA;SIGN_UPADHMANIYA
11480=;TIRHUTA_ANJI;11481=TIRHUTA_LETTER_;A;AA;I;II;U;UU;VOCALIC_R;VOCALIC_RR;VOCALIC_L;VOCALIC_LL;E
AI;O;AU;KA;KHA;GA;GHA;NGA;CA;CHA;JA;JHA;NYA;TTA;TTHA;DDA;DDHA;NNA;TA;THA;DA;DHA;NA;PA;PHA;BA;BHA;MA
YA;RA;LA;VA;SHA;SSA;SA;HA;114b0=TIRHUTA_VOWEL_SIGN_;AA;I;II;U;UU;VOCALIC_R;VOCALIC_RR;VOCALIC_L
VOCALIC_LL;E;SHORT_E;AI;O;SHORT_O;AU;114bf=TIRHUTA_SIGN_;CANDRABINDU;ANUSVARA;VISARGA;VIRAMA;NUKTA
AVAGRAHA;114c5=TIRHUTA_;GVANG;ABBREVIATION_SIGN;OM
114d0=TIRHUTA_DIGIT_;ZERO;ONE;TWO;THREE;FOUR;FIVE;SIX;SEVEN;EIGHT;NINE
11580=SIDDHAM_LETTER_;A;AA;I;II;U;UU;VOCALIC_R;VOCALIC_RR;VOCALIC_L;VOCALIC_LL;E;AI;O;AU;KA;KHA;GA
GHA;NGA;CA;CHA;JA;JHA;NYA;TTA;TTHA;DDA;DDHA;NNA;TA;THA;DA;DHA;NA;PA;PHA;BA;BHA;MA;YA;RA;LA;VA;SHA
SSA;SA;HA;115af=SIDDHAM_VOWEL_SIGN_;AA;I;II;U;UU;VOCALIC_R;VOCALIC_RR
115b8=SIDDHAM_VOWEL_SIGN_;E;AI;O;AU;115bc=SIDDHAM_SIGN_;CANDRABINDU;ANUSVARA;VISARGA;VIRAMA;NUKTA
SIDDHAM;115c2=SIDDHAM_;DANDA;DOUBLE_DANDA;SEPARATOR_DOT;SEPARATOR_BAR
115c6=SIDDHAM_REPETITION_MARK-;1;2;3;115c9=;SIDDHAM_END_OF_TEXT_MARK
115ca=SIDDHAM_SECTION_MARK_WITH_TRIDENT_AND_;U-SHAPED_ORNAMENTS;DOTTED_CRESCENTS
115cc=SIDDHAM_SECTION_MARK_WITH_RAYS_AND_DOTTED_;CRESCENTS;DOUBLE_CRESCENTS;TRIPLE_CRESCENTS
115cf=SIDDHAM_SECTION_MARK_DOUBLE_;RING;RING_WITH_RAYS
115d1=SIDDHAM_SECTION_MARK_WITH_;DOUBLE_CRESCENTS;TRIPLE_CRESCENTS;QUADRUPLE_CRESCENTS
SEPTUPLE_CRESCENTS;CIRCLES_AND_RAYS;CIRCLES_AND_TWO_ENCLOSURES;CIRCLES_AND_FOUR_ENCLOSURES
115d8=SIDDHAM_LETTER_;THREE-CIRCLE_ALTERNATE_I;TWO-CIRCLE_ALTERNATE_I;TWO-CIRCLE_ALTERNATE_II
ALTERNATE_U;115dc=SIDDHAM_VOWEL_SIGN_ALTERNATE_;U;UU
11600=MODI_LETTER_;A;AA;I;II;U;UU;VOCALIC_R;VOCALIC_RR;VOCALIC_L;VOCALIC_LL;E;AI;O;AU;KA;KHA;GA;GHA
NGA;CA;CHA;JA;JHA;NYA;TTA;TTHA;DDA;DDHA;NNA;TA;THA;DA;DHA;NA;PA;PHA;BA;BHA;MA;YA;RA;LA;VA;SHA;SSA;SA
HA;LLA;11630=MODI_VOWEL_SIGN_;AA;I;II;U;UU;VOCALIC_R;VOCALIC_RR;VOCALIC_L;VOCALIC_LL;E;AI;O;AU
1163d=MODI_SIGN_;ANUSVARA;VISARGA;VIRAMA;ARDHACANDRA
11641=MODI_;DANDA;DOUBLE_DANDA;ABBREVIATION_SIGN;SIGN_HUVA
11650=MODI_DIGIT_;ZERO;ONE;TWO;THREE;FOUR;FIVE;SIX;SEVEN;EIGHT;NINE
11660=MONGOLIAN_;BIRGA_WITH_ORNAMENT;ROTATED_BIRGA;DOUBLE_BIRGA_WITH_ORNAMENT
TRIPLE_BIRGA_WITH_ORNAMENT;BIRGA_WITH_DOUBLE_ORNAMENT;ROTATED_BIRGA_WITH_ORNAMENT
ROTATED_BIRGA_WITH_DOUBLE_ORNAMENT;INVERTED_BIRGA;INVERTED_BIRGA_WITH_DOUBLE_ORNAMENT;SWIRL_BIRGA
SWIRL_BIRGA_WITH_ORNAMENT;SWIRL_BIRGA_WITH_DOUBLE_ORNAMENT;TURNED_SWIRL_BIRGA_WITH_DOUBLE_ORNAMENT
11680=TAKRI_LETTER_;A;AA;I;II;U;UU;E;AI;O;AU;KA;KHA;GA;GHA;NGA;CA;CHA;JA;JHA;NYA;TTA;TTHA;DDA;DDHA
NNA;TA;THA;DA;DHA;NA;PA;PHA;BA;BHA;MA;YA;RA;LA;VA;SHA;SA;HA;RRA
116ab=TAKRI_SIGN_;ANUSVARA;VISARGA;116ad=TAKRI_VOWEL_SIGN_;AA;I;II;U;UU;E;AI;O;AU
116b6=TAKRI_;SIGN_VIRAMA;SIGN_NUKTA;LETTER_ARCHAIC_KHA;ABBREVIATION_SIGN
116c0=TAKRI_DIGIT_;ZERO;ONE;TWO;THREE;FOUR;FIVE;SIX;SEVEN;EIGHT;NINE
11700=AHOM_LETTER_;KA;KHA;NGA;NA;TA;ALTERNATE_TA;PA;PHA;BA;MA;JA;CHA;THA;RA;LA;SA;NYA;HA;A;DA;DHA;GA
ALTERNATE_GA;GHA;BHA;JHA;ALTERNATE_BA
1171d=AHOM_CONSONANT_SIGN_MEDIAL_;LA;RA;LIGATING_RA
11720=AHOM_VOWEL_SIGN_;A;AA;I;II;U;UU;E;AW;O;AI;AM;1172b=;AHOM_SIGN_KILLER
11730=AHOM_DIGIT_;ZERO;ONE;TWO;THREE;FOUR;FIVE;SIX;SEVEN;EIGHT;NINE
1173a=AHOM_;NUMBER_TEN;NUMBER_TWENTY;SIGN_SMALL_SECTION;SIGN_SECTION;SIGN_RULAI;SYMBOL_VI
11740=AHOM_LETTER_;CA;TTA;TTHA;DDA;DDHA;NNA;LLA
11800=DOGRA_LETTER_;A;AA;I;II;U;UU;E;AI;O;AU;KA;KHA;GA;GHA;NGA;CA;CHA;JA;JHA;NYA;TTA;TTHA;DDA;DDHA
NNA;TA;THA;DA;DHA;NA;PA;PHA;BA;BHA;MA;YA;RA;LA;VA;SHA;SSA;SA;HA;RRA
1182c=DOGRA_VOWEL_SIGN_;AA;I;II;U;UU;VOCALIC_R;VOCALIC_RR;E;AI;O;AU
11837=DOGRA_SIGN_;ANUSVARA;VISARGA;VIRAMA;NUKTA;1183b=;DOGRA_ABBREVIATION_SIGN
118a0=WARANG_CITI_CAPITAL_LETTER_;NGAA;A;WI;YU;YA;YO;II;UU;E;O;ANG;GA;KO;ENY;YUJ;UC;ENN;ODD;TTE;NUNG
DA;AT;AM;BU;PU;HIYO;HOLO;HORR;HAR;SSUU;SII;VIYO
118c0=WARANG_CITI_SMALL_LETTER_;NGAA;A;WI;YU;YA;YO;II;UU;E;O;ANG;GA;KO;ENY;YUJ;UC;ENN;ODD;TTE;NUNG
DA;AT;AM;BU;PU;HIYO;HOLO;HORR;HAR;SSUU;SII;VIYO
118e0=WARANG_CITI_DIGIT_;ZERO;ONE;TWO;THREE;FOUR;FIVE;SIX;SEVEN;EIGHT;NINE
118ea=WARANG_CITI_NUMBER_;TEN;TWENTY;THIRTY;FORTY;FIFTY;SIXTY;SEVENTY;EIGHTY;NINETY
118ff=;WARANG_CITI_OM;11900=DIVES_AKURU_LETTER_;A;AA;I;II;U;UU;E
11909=;DIVES_AKURU_LETTER_O;1190c=DIVES_AKURU_LETTER_;KA;KHA;GA;GHA;NGA;CA;CHA;JA
11915=DIVES_AKURU_LETTER_;NYA;TTA;11918=DIVES_AKURU_LETTER_;DDA;DDHA;NNA;TA;THA;DA;DHA;NA;PA;PHA;BA
BHA;MA;YA;YYA;RA;LA;VA;SHA;SSA;SA;HA;LLA;ZA
11930=DIVES_AKURU_VOWEL_SIGN_;AA;I;II;U;UU;E
11937=DIVES_AKURU_VOWEL_SIGN_;AI;O;1193b=DIVES_AKURU_;SIGN_ANUSVARA;SIGN_CANDRABINDU;SIGN_HALANTA
VIRAMA;PREFIXED_NASAL_SIGN;MEDIAL_YA;INITIAL_RA;MEDIAL_RA;SIGN_NUKTA;DOUBLE_DANDA;GAP_FILLER
END_OF_TEXT_MARK;11950=DIVES_AKURU_DIGIT_;ZERO;ONE;TWO;THREE;FOUR;FIVE;SIX;SEVEN;EIGHT;NINE
119a0=NANDINAGARI_LETTER_;A;AA;I;II;U;UU;VOCALIC_R;VOCALIC_RR
119aa=NANDINAGARI_LETTER_;E;AI;O;AU;KA;KHA;GA;GHA;NGA;CA;CHA;JA;JHA;NYA;TTA;TTHA;DDA;DDHA;NNA;TA;THA
DA;DHA;NA;PA;PHA;BA;BHA;MA;YA;RA;LA;VA;SHA;SSA;SA;HA;LLA;RRA
119d1=NANDINAGARI_VOWEL_SIGN_;AA;I;II;U;UU;VOCALIC_R;VOCALIC_RR
119da=NANDINAGARI_VOWEL_SIGN_;E;AI;O;AU
119de=NANDINAGARI_SIGN_;ANUSVARA;VISARGA;VIRAMA;AVAGRAHA;SIDDHAM
119e3=NANDINAGARI_;HEADSTROKE;VOWEL_SIGN_PRISHTHAMATRA_E
11a00=;ZANABAZAR_SQUARE_LETTER_A
11a01=ZANABAZAR_SQUARE_VOWEL_SIGN_;I;UE;U;E;OE;O;AI;AU;REVERSED_I
11a0a=;ZANABAZAR_SQUARE_VOWEL_LENGTH_MARK
11a0b=ZANABAZAR_SQUARE_LETTER_;KA;KHA;GA;GHA;NGA;CA;CHA;JA;NYA;TTA;TTHA;DDA;DDHA;NNA;TA;THA;DA;DHA
NA;PA;PHA;BA;BHA;MA;TSA;TSHA;DZA;DZHA;ZHA;ZA;-A;YA;RA;LA;VA;SHA;SSA;SA;HA;KSSA
11a33=ZANABAZAR_SQUARE_;FINAL_CONSONANT_MARK;SIGN_VIRAMA;SIGN_CANDRABINDU
SIGN_CANDRABINDU_WITH_ORNAMENT;SIGN_CANDRA_WITH_ORNAMENT;SIGN_ANUSVARA;SIGN_VISARGA
CLUSTER-INITIAL_LETTER_RA
11a3b=ZANABAZAR_SQUARE_CLUSTER-FINAL_LETTER_;YA;RA;LA;VA
11a3f=ZANABAZAR_SQUARE_;INITIAL_HEAD_MARK;CLOSING_HEAD_MARK;MARK_TSHEG;MARK_SHAD;MARK_DOUBLE_SHAD
MARK_LONG_TSHEG;INITIAL_DOUBLE-LINED_HEAD_MARK;CLOSING_DOUBLE-LINED_HEAD_MARK;SUBJOINER
11a50=;SOYOMBO_LETTER_A;11a51=SOYOMBO_VOWEL_SIGN_;I;UE;U;E;O;OE;AI;AU;VOCALIC_R;VOCALIC_L
11a5b=;SOYOMBO_VOWEL_LENGTH_MARK;11a5c=SOYOMBO_LETTER_;KA;KHA;GA;GHA;NGA;CA;CHA;JA;JHA;NYA;TTA;TTHA
DDA;DDHA;NNA;TA;THA;DA;DHA;NA;PA;PHA;BA;BHA;MA;TSA;TSHA;DZA;ZHA;ZA;-A;YA;RA;LA;VA;SHA;SSA;SA;HA;KSSA
11a84=SOYOMBO_SIGN_;JIHVAMULIYA;UPADHMANIYA
11a86=SOYOMBO_CLUSTER-INITIAL_LETTER_;RA;LA;SHA;SA
11a8a=SOYOMBO_FINAL_CONSONANT_SIGN_;G;K;NG;D;N;B;M;R;L;SH;S;-A
11a96=SOYOMBO_;SIGN_ANUSVARA;SIGN_VISARGA;GEMINATION_MARK;SUBJOINER;MARK_TSHEG;MARK_SHAD
MARK_DOUBLE_SHAD;MARK_PLUTA
11a9e=SOYOMBO_HEAD_MARK_WITH_MOON_AND_;SUN_AND_TRIPLE_FLAME;SUN_AND_FLAME;SUN
11aa1=SOYOMBO_TERMINAL_MARK-;1;2
11ab0=CANADIAN_SYLLABICS_NATTILIK_;HI;HII;HO;HOO;HA;HAA;SHRI;SHRII;SHRO;SHROO;SHRA;SHRAA
11abc=CANADIAN_SYLLABICS_;SPE;SPI;SPO;SPA
11ac0=PAU_CIN_HAU_LETTER_;PA;KA;LA;MA;DA;ZA;VA;NGA;HA;GA;KHA;SA;BA;CA;TA;THA;NA;PHA;RA;FA;CHA;A;E;I
O;U;UA;IA;11adc=PAU_CIN_HAU_LETTER_FINAL_;P;K;T;M;N;L;W;NG;Y
11ae5=PAU_CIN_HAU_;RISING_TONE_LONG;RISING_TONE;SANDHI_GLOTTAL_STOP;RISING_TONE_LONG_FINAL
RISING_TONE_FINAL;SANDHI_GLOTTAL_STOP_FINAL;SANDHI_TONE_LONG;SANDHI_TONE;SANDHI_TONE_LONG_FINAL
SANDHI_TONE_FINAL;MID-LEVEL_TONE;GLOTTAL_STOP_VARIANT;MID-LEVEL_TONE_LONG_FINAL;MID-LEVEL_TONE_FINAL
LOW-FALLING_TONE_LONG;LOW-FALLING_TONE;GLOTTAL_STOP;LOW-FALLING_TONE_LONG_FINAL
LOW-FALLING_TONE_FINAL;GLOTTAL_STOP_FINAL
11c00=BHAIKSUKI_LETTER_;A;AA;I;II;U;UU;VOCALIC_R;VOCALIC_RR;VOCALIC_L
11c0a=BHAIKSUKI_LETTER_;E;AI;O;AU;KA;KHA;GA;GHA;NGA;CA;CHA;JA;JHA;NYA;TTA;TTHA;DDA;DDHA;NNA;TA;THA
DA;DHA;NA;PA;PHA;BA;BHA;MA;YA;RA;LA;VA;SHA;SSA;SA;HA
11c2f=BHAIKSUKI_VOWEL_SIGN_;AA;I;II;U;UU;VOCALIC_R;VOCALIC_RR;VOCALIC_L
11c38=BHAIKSUKI_VOWEL_SIGN_;E;AI;O;AU;11c3c=BHAIKSUKI_SIGN_;CANDRABINDU;ANUSVARA;VISARGA;VIRAMA
AVAGRAHA;11c41=BHAIKSUKI_;DANDA;DOUBLE_DANDA;WORD_SEPARATOR;GAP_FILLER-1;GAP_FILLER-2
11c50=BHAIKSUKI_DIGIT_;ZERO;ONE;TWO;THREE;FOUR;FIVE;SIX;SEVEN;EIGHT;NINE
11c5a=BHAIKSUKI_NUMBER_;ONE;TWO;THREE;FOUR;FIVE;SIX;SEVEN;EIGHT;NINE;TEN;TWENTY;THIRTY;FORTY;FIFTY
SIXTY;SEVENTY;EIGHTY;NINETY;11c6c=;BHAIKSUKI_HUNDREDS_UNIT_MARK
11c70=MARCHEN_;HEAD_MARK;MARK_SHAD;11c72=MARCHEN_LETTER_;KA;KHA;GA;NGA;CA;CHA;JA;NYA;TA;THA;DA;NA;PA
PHA;BA;MA;TSA;TSHA;DZA;WA;ZHA;ZA;-A;YA;RA;LA;SHA;SA;HA;A
11c92=MARCHEN_SUBJOINED_LETTER_;KA;KHA;GA;NGA;CA;CHA;JA;NYA;TA;THA;DA;NA;PA;PHA;BA;MA;TSA;TSHA;DZA
WA;ZHA;ZA;11ca9=MARCHEN_SUBJOINED_LETTER_;YA;RA;LA;SHA;SA;HA;A
11cb0=MARCHEN_VOWEL_SIGN_;AA;I;U;E;O;11cb5=MARCHEN_SIGN_;ANUSVARA;CANDRABINDU
11d00=MASARAM_GONDI_LETTER_;A;AA;I;II;U;UU;E
11d08=MASARAM_GONDI_LETTER_;AI;O;11d0b=MASARAM_GONDI_LETTER_;AU;KA;KHA;GA;GHA;NGA;CA;CHA;JA;JHA;NYA
TTA;TTHA;DDA;DDHA;NNA;TA;THA;DA;DHA;NA;PA;PHA;BA;BHA;MA;YA;RA;LA;VA;SHA;SSA;SA;HA;LLA;KSSA;JNYA;TRA
11d31=MASARAM_GONDI_VOWEL_SIGN_;AA;I;II;U;UU;VOCALIC_R
11d3a=;MASARAM_GONDI_VOWEL_SIGN_E
11d3c=MASARAM_GONDI_VOWEL_SIGN_;AI;O;11d3f=MASARAM_GONDI_;VOWEL_SIGN_AU;SIGN_ANUSVARA;SIGN_VISARGA
SIGN_NUKTA;SIGN_CANDRA;SIGN_HALANTA;VIRAMA;REPHA;RA-KARA
11d50=MASARAM_GONDI_DIGIT_;ZERO;ONE;TWO;THREE;FOUR;FIVE;SIX;SEVEN;EIGHT;NINE
11d60=GUNJALA_GONDI_LETTER_;A;AA;I;II;U;UU
11d67=GUNJALA_GONDI_LETTER_;EE;AI
11d6a=GUNJALA_GONDI_LETTER_;OO;AU;YA;VA;BA;BHA;MA;KA;KHA;TA;THA;LA;GA;GHA;DA;DHA;NA;CA;CHA;TTA;TTHA
LLA;JA;JHA;DDA;DDHA;NGA;PA;PHA;HA;RA;SA
11d8a=GUNJALA_GONDI_VOWEL_SIGN_;AA;I;II;U;UU
11d90=GUNJALA_GONDI_VOWEL_SIGN_;EE;AI;11d93=GUNJALA_GONDI_;VOWEL_SIGN_OO;VOWEL_SIGN_AU;SIGN_ANUSVARA
SIGN_VISARGA;VIRAMA;OM;11da0=GUNJALA_GONDI_DIGIT_;ZERO;ONE;TWO;THREE;FOUR;FIVE;SIX;SEVEN;EIGHT;NINE
11ee0=MAKASAR_LETTER_;KA;GA;NGA;PA;BA;MA;TA;DA;NA;CA;JA;NYA;YA;RA;LA;VA;SA;A
11ef2=;MAKASAR_ANGKA;11ef3=MAKASAR_VOWEL_SIGN_;I;U;E;O
11ef7=MAKASAR_;PASSIMBANG;END_OF_SECTION;11fb0=;LISU_LETTER_YHA
11fc0=TAMIL_FRACTION_;ONE_THREE-HUNDRED-AND-TWENTIETH;ONE_ONE-HUNDRED-AND-SIXTIETH;ONE_EIGHTIETH
ONE_SIXTY-FOURTH;ONE_FORTIETH;ONE_THIRTY-SECOND;THREE_EIGHTIETHS;THREE_SIXTY-FOURTHS;ONE_TWENTIETH
ONE_SIXTEENTH-1;ONE_SIXTEENTH-2;ONE_TENTH;ONE_EIGHTH;THREE_TWENTIETHS;THREE_SIXTEENTHS;ONE_FIFTH
ONE_QUARTER;ONE_HALF-1;ONE_HALF-2;THREE_QUARTERS;DOWNSCALING_FACTOR_KIIZH
11fd5=TAMIL_SIGN_;NEL;CEVITU;AAZHAAKKU;UZHAKKU;MUUVUZHAKKU;KURUNI;PATHAKKU;MUKKURUNI;KAACU;PANAM;PON
VARAAKAN;PAARAM;KUZHI;VELI;11fe4=TAMIL_;WET_CULTIVATION_SIGN;DRY_CULTIVATION_SIGN;LAND_SIGN
SALT_PAN_SIGN;TRADITIONAL_CREDIT_SIGN;TRADITIONAL_NUMBER_SIGN;CURRENT_SIGN;AND_ODD_SIGN;SPENT_SIGN
TOTAL_SIGN;IN_POSSESSION_SIGN;STARTING_FROM_SIGN;SIGN_MUTHALIYA;SIGN_VAKAIYARAA
11fff=;TAMIL_PUNCTUATION_END_OF_TEXT;CUNEIFORM_SIGN_A
12001=CUNEIFORM_SIGN_A_TIMES_;A;BAD;GAN2_TENU;HA;IGI;LAGAR_GUNU;MUSH;SAG
12009=CUNEIFORM_SIGN_;A2;AB;1200b=CUNEIFORM_SIGN_AB_TIMES_;ASH2;DUN3_GUNU;GAL;GAN2_TENU;HA;IGI_GUNU
IMIN;LAGAB;SHESH;U_PLUS_U_PLUS_U;12015=CUNEIFORM_SIGN_;AB_GUNU;AB2;AB2_TIMES_BALAG
AB2_TIMES_GAN2_TENU;AB2_TIMES_ME_PLUS_EN;AB2_TIMES_SHA3;AB2_TIMES_TAK4;AD;AK;AK_TIMES_ERIN2
AK_TIMES_SHITA_PLUS_GISH;AL;12021=CUNEIFORM_SIGN_AL_TIMES_;AL;DIM2;GISH;HA;KAD3;KI;SHE;USH
12029=CUNEIFORM_SIGN_;ALAN;ALEPH;AMAR;AMAR_TIMES_SHE;AN;AN_OVER_AN;AN_THREE_TIMES
AN_PLUS_NAGA_OPPOSING_AN_PLUS_NAGA;AN_PLUS_NAGA_SQUARED;ANSHE;APIN;ARAD;ARAD_TIMES_KUR;ARKAB;ASAL2
ASH;ASH_ZIDA_TENU;ASH_KABA_TENU;ASH_OVER_ASH_TUG2_OVER_TUG2_TUG2_OVER_TUG2_PAP;ASH_OVER_ASH_OVER_ASH
ASH_OVER_ASH_OVER_ASH_CROSSING_ASH_OVER_ASH_OVER_ASH;ASH2;ASHGAB;BA;BAD;BAG3;BAHAR2;BAL;BAL_OVER_BAL
BALAG;BAR;BARA2;BI;BI_TIMES_A;BI_TIMES_GAR;BI_TIMES_IGI_GUNU;BU;BU_OVER_BU_AB;BU_OVER_BU_UN
BU_CROSSING_BU;BULUG;BULUG_OVER_BULUG;BUR;BUR2;DA;DAG
12057=CUNEIFORM_SIGN_DAG_KISIM5_TIMES_;A_PLUS_MASH;AMAR;BALAG;BI;GA;GA_PLUS_MASH;GI;GIR2;GUD;HA;IR
IR_PLUS_LU;KAK;LA;LU;LU_PLUS_MASH2;LUM;NE;PAP_PLUS_PAP;SI;TAK4;U2_PLUS_GIR2;USH
1206e=CUNEIFORM_SIGN_;DAM;DAR;DARA3;DARA4;DI;DIB;DIM;DIM_TIMES_SHE;DIM2;DIN;DIN_KASKAL_U_GUNU_DISH
DISH;DU;DU_OVER_DU;DU_GUNU;DU_SHESHIG;DUB;DUB_TIMES_ESH2;DUB2;DUG;DUGUD;DUH;DUN;DUN3;DUN3_GUNU
DUN3_GUNU_GUNU;DUN4;DUR2;E;E_TIMES_PAP;E_OVER_E_NUN_OVER_NUN;E2
1208e=CUNEIFORM_SIGN_E2_TIMES_;A_PLUS_HA_PLUS_DA;GAR;MI;SAL;SHE;U
12094=CUNEIFORM_SIGN_;EDIN;EGIR;EL;EN;EN_TIMES_GAN2;EN_TIMES_GAN2_TENU;EN_TIMES_ME;EN_CROSSING_EN
EN_OPPOSING_EN;EN_SQUARED;EREN;ERIN2;ESH2;EZEN
120a2=CUNEIFORM_SIGN_EZEN_TIMES_;A;A_PLUS_LAL;A_PLUS_LAL_TIMES_LAL;AN;BAD;DUN3_GUNU;DUN3_GUNU_GUNU
HA;HA_GUNU;IGI_GUNU;KASKAL;KASKAL_SQUARED;KU3;LA;LAL_TIMES_LAL;LI;LU;U2;UD
120b5=CUNEIFORM_SIGN_;GA;GA_GUNU;GA2
120b8=CUNEIFORM_SIGN_GA2_TIMES_;A_PLUS_DA_PLUS_HA;A_PLUS_HA;A_PLUS_IGI;AB2_TENU_PLUS_TAB;AN;ASH
ASH2_PLUS_GAL;BAD;BAR_PLUS_RA;BUR;BUR_PLUS_RA;DA;DI;DIM_TIMES_SHE;DUB;EL;EL_PLUS_LA;EN
EN_TIMES_GAN2_TENU;GAN2_TENU;GAR;GI;GI4;GI4_PLUS_A;GIR2_PLUS_SU;HA_PLUS_LU_PLUS_ESH2;HAL;HAL_PLUS_LA
HI_PLUS_LI;HUB2;IGI_GUNU;ISH_PLUS_HU_PLUS_ASH;KAK;KASKAL;KID;KID_PLUS_LAL;KU3_PLUS_AN;LA;ME_PLUS_EN
MI;NUN;NUN_OVER_NUN;PA;SAL;SAR;SHE;SHE_PLUS_TUR;SHID;SUM;TAK4;U;UD;UD_PLUS_DU
120ed=CUNEIFORM_SIGN_;GA2_OVER_GA2;GABA;GABA_CROSSING_GABA;GAD;GAD_OVER_GAD_GAR_OVER_GAR;GAL
GAL_GAD_OVER_GAD_GAR_OVER_GAR;GALAM;GAM;GAN;GAN2;GAN2_TENU;GAN2_OVER_GAN2;GAN2_CROSSING_GAN2;GAR
GAR3;GASHAN;GESHTIN;GESHTIN_TIMES_KUR;GI;GI_TIMES_E;GI_TIMES_U;GI_CROSSING_GI;GI4;GI4_OVER_GI4
GI4_CROSSING_GI4;GIDIM;GIR2;GIR2_GUNU;GIR3;GIR3_TIMES_A_PLUS_IGI;GIR3_TIMES_GAN2_TENU;GIR3_TIMES_IGI
GIR3_TIMES_LU_PLUS_IGI;GIR3_TIMES_PA;GISAL;GISH;GISH_CROSSING_GISH;GISH_TIMES_BAD;GISH_TIMES_TAK4
GISH_TENU;GU;GU_CROSSING_GU;GU2;GU2_TIMES_KAK;GU2_TIMES_KAK_TIMES_IGI_GUNU;GU2_TIMES_NUN
GU2_TIMES_SAL_PLUS_TUG2;GU2_GUNU;GUD;GUD_TIMES_A_PLUS_KUR;GUD_TIMES_KUR;GUD_OVER_GUD_LUGAL;GUL;GUM
GUM_TIMES_SHE;GUR;GUR7;GURUN;GURUSH;HA;HA_TENU;HA_GUNU;HAL;HI
1212e=CUNEIFORM_SIGN_HI_TIMES_;ASH;ASH2;BAD;DISH;GAD;KIN;NUN;SHE;U
12137=CUNEIFORM_SIGN_;HU;HUB2;HUB2_TIMES_AN;HUB2_TIMES_HAL;HUB2_TIMES_KASKAL;HUB2_TIMES_LISH
HUB2_TIMES_UD;HUL2;I;I_A;IB;IDIM;IDIM_OVER_IDIM_BUR;IDIM_OVER_IDIM_SQUARED;IG;IGI;IGI_DIB;IGI_RI
IGI_OVER_IGI_SHIR_OVER_SHIR_UD_OVER_UD;IGI_GUNU;IL;IL_TIMES_GAN2_TENU;IL2;IM;IM_TIMES_TAK4
IM_CROSSING_IM;IM_OPPOSING_IM;IM_SQUARED;IMIN;IN;IR;ISH;KA
12158=CUNEIFORM_SIGN_KA_TIMES_;A;AD;AD_PLUS_KU3;ASH2;BAD;BALAG;BAR;BI;ERIN2;ESH2;GA;GAL;GAN2_TENU
GAR;GAR_PLUS_SHA3_PLUS_A;GI;GIR2;GISH_PLUS_SAR;GISH_CROSSING_GISH;GU;GUR7;IGI;IM;KAK;KI;KID;LI;LU;ME
ME_PLUS_DU;ME_PLUS_GI;ME_PLUS_TE;MI;MI_PLUS_NUNUZ;NE;NUN;PI;RU;SA;SAR;SHA;SHE;SHID;SHU;SIG;SUHUR;TAR
U;U2;UD;UMUM_TIMES_PA;USH;ZI;1218d=CUNEIFORM_SIGN_;KA2;KA2_CROSSING_KA2;KAB;KAD2;KAD3;KAD4;KAD5
KAD5_OVER_KAD5;KAK;KAK_TIMES_IGI_GUNU;KAL;KAL_TIMES_BAD;KAL_CROSSING_KAL;KAM2;KAM4;KASKAL
KASKAL_LAGAB_TIMES_U_OVER_LAGAB_TIMES_U;KASKAL_OVER_KASKAL_LAGAB_TIMES_U_OVER_LAGAB_TIMES_U;KESH2;KI
KI_TIMES_BAD;KI_TIMES_U;KI_TIMES_UD;KID;KIN;KISAL;KISH;KISIM5;KISIM5_OVER_KISIM5;KU
KU_OVER_HI_TIMES_ASH2_KU_OVER_HI_TIMES_ASH2;KU3;KU4;KU4_VARIANT_FORM;KU7;KUL;KUL_GUNU;KUN;KUR
KUR_OPPOSING_KUR;KUSHU2;KWU318;LA;LAGAB
121b9=CUNEIFORM_SIGN_LAGAB_TIMES_;A;A_PLUS_DA_PLUS_HA;A_PLUS_GAR;A_PLUS_LAL;AL;AN;ASH_ZIDA_TENU;BAD
BI;DAR;EN;GA;GAR;GUD;GUD_PLUS_GUD;HA;HAL;HI_TIMES_NUN;IGI_GUNU;IM;IM_PLUS_HA;IM_PLUS_LU;KI;KIN;KU3
KUL;KUL_PLUS_HI_PLUS_A;LAGAB;LISH;LU;LUL;ME;ME_PLUS_EN;MUSH;NE;SHE_PLUS_SUM
SHITA_PLUS_GISH_PLUS_ERIN2;SHITA_PLUS_GISH_TENU;SHU2;SHU2_PLUS_SHU2;SUM;TAG;TAK4
TE_PLUS_A_PLUS_SU_PLUS_NA;U;U_PLUS_A;U_PLUS_U_PLUS_U;U2_PLUS_ASH;UD;USH
121eb=CUNEIFORM_SIGN_;LAGAB_SQUARED;LAGAR;LAGAR_TIMES_SHE;LAGAR_TIMES_SHE_PLUS_SUM;LAGAR_GUNU
LAGAR_GUNU_OVER_LAGAR_GUNU_SHE;LAHSHU;LAL;LAL_TIMES_LAL;LAM;LAM_TIMES_KUR;LAM_TIMES_KUR_PLUS_RU;LI
LIL;LIMMU2;LISH;LU;LU_TIMES_BAD;LU2
121fe=CUNEIFORM_SIGN_LU2_TIMES_;AL;BAD;ESH2;ESH2_TENU;GAN2_TENU;HI_TIMES_BAD;IM;KAD2;KAD3
KAD3_PLUS_ASH;KI;LA_PLUS_ASH;LAGAB;ME_PLUS_EN;NE;NU;SI_PLUS_ASH;SIK2_PLUS_BU;TUG2
12211=CUNEIFORM_SIGN_;LU2_TENU;LU2_CROSSING_LU2;LU2_OPPOSING_LU2;LU2_SQUARED;LU2_SHESHIG;LU3;LUGAL
LUGAL_OVER_LUGAL;LUGAL_OPPOSING_LUGAL;LUGAL_SHESHIG;LUH;LUL;LUM;LUM_OVER_LUM
LUM_OVER_LUM_GAR_OVER_GAR;MA;MA_TIMES_TAK4;MA_GUNU;MA2;MAH;MAR;MASH;MASH2;ME;MES;MI;MIN;MU
MU_OVER_MU;MUG;MUG_GUNU;MUNSUB;MURGU2;MUSH;MUSH_TIMES_A;MUSH_TIMES_KUR;MUSH_TIMES_ZA;MUSH_OVER_MUSH
MUSH_OVER_MUSH_TIMES_A_PLUS_NA;MUSH_CROSSING_MUSH;MUSH3;MUSH3_TIMES_A;MUSH3_TIMES_A_PLUS_DI
MUSH3_TIMES_DI;MUSH3_GUNU;NA;NA2;NAGA;NAGA_INVERTED;NAGA_TIMES_SHU_TENU;NAGA_OPPOSING_NAGA;NAGAR
NAM_NUTILLU;NAM;NAM2;NE;NE_TIMES_A;NE_TIMES_UD;NE_SHESHIG;NI;NI_TIMES_E;NI2;NIM;NIM_TIMES_GAN2_TENU
NIM_TIMES_GAR_PLUS_GAN2_TENU;NINDA2
12253=CUNEIFORM_SIGN_NINDA2_TIMES_;AN;ASH;ASH_PLUS_ASH;GUD;ME_PLUS_GAN2_TENU;NE;NUN;SHE
SHE_PLUS_A_AN;SHE_PLUS_ASH;SHE_PLUS_ASH_PLUS_ASH;U2_PLUS_ASH;USH
12260=CUNEIFORM_SIGN_;NISAG;NU;NU11;NUN
12264=CUNEIFORM_SIGN_NUN_LAGAR_TIMES_;GAR;MASH;SAL;SAL_OVER_NUN_LAGAR_TIMES_SAL;USH
12269=CUNEIFORM_SIGN_;NUN_TENU;NUN_OVER_NUN;NUN_CROSSING_NUN;NUN_CROSSING_NUN_LAGAR_OVER_LAGAR;NUNUZ
1226e=CUNEIFORM_SIGN_NUNUZ_AB2_TIMES_;ASHGAB;BI;DUG;GUD;IGI_GUNU;KAD3;LA;NE;SILA3;U2
12278=CUNEIFORM_SIGN_;NUNUZ_KISIM5_TIMES_BI;NUNUZ_KISIM5_TIMES_BI_U;PA;PAD;PAN;PAP;PESH2;PI
12280=CUNEIFORM_SIGN_PI_TIMES_;A;AB;BI;BU;E;I;IB;U;U2
12289=CUNEIFORM_SIGN_;PI_CROSSING_PI;PIRIG;PIRIG_TIMES_KAL;PIRIG_TIMES_UD;PIRIG_TIMES_ZA
PIRIG_OPPOSING_PIRIG;RA;RAB;RI;RU;SA;SAG_NUTILLU;SAG
12296=CUNEIFORM_SIGN_SAG_TIMES_;A;DU;DUB;HA;KAK;KUR;LUM;MI;NUN;SAL;SHID;TAB;U2;UB;UM;UR;USH
122a7=CUNEIFORM_SIGN_;SAG_OVER_SAG;SAG_GUNU;SAL;SAL_LAGAB_TIMES_ASH2;SANGA2;SAR;SHA;SHA3
122af=CUNEIFORM_SIGN_SHA3_TIMES_;A;BAD;GISH;NE;SHU2;TUR;U;U_PLUS_A
122b7=CUNEIFORM_SIGN_;SHA6;SHAB6;SHAR2;SHE;SHE_HU;SHE_OVER_SHE_GAD_OVER_GAD_GAR_OVER_GAR
SHE_OVER_SHE_TAB_OVER_TAB_GAR_OVER_GAR;SHEG9;SHEN;SHESH;SHESH2;SHESHLAM;SHID;SHID_TIMES_A
SHID_TIMES_IM;SHIM;122c7=CUNEIFORM_SIGN_SHIM_TIMES_;A;BAL;BULUG;DIN;GAR;IGI;IGI_GUNU;KUSHU2;LUL;MUG
SAL;122d2=CUNEIFORM_SIGN_;SHINIG;SHIR;SHIR_TENU;SHIR_OVER_SHIR_BUR_OVER_BUR;SHITA;SHU
SHU_OVER_INVERTED_SHU;SHU2;SHUBUR;SI;SI_GUNU;SIG;SIG4;SIG4_OVER_SIG4_SHU2;SIK2;SILA3;SU;SU_OVER_SU
SUD;SUD2;SUHUR;SUM;SUMASH;SUR;SUR9;TA;TA_ASTERISK;TA_TIMES_HI;TA_TIMES_MI;TA_GUNU;TAB
TAB_OVER_TAB_NI_OVER_NI_DISH_OVER_DISH;TAB_SQUARED;TAG
122f4=CUNEIFORM_SIGN_TAG_TIMES_;BI;GUD;SHE;SHU;TUG2;UD
122fa=CUNEIFORM_SIGN_;TAK4;TAR;TE;TE_GUNU;TI;TI_TENU;TIL;TIR;TIR_TIMES_TAK4;TIR_OVER_TIR
TIR_OVER_TIR_GAD_OVER_GAD_GAR_OVER_GAR;TU;TUG2;TUK;TUM;TUR;TUR_OVER_TUR_ZA_OVER_ZA;U;U_GUD;U_U_U
U_OVER_U_PA_OVER_PA_GAR_OVER_GAR;U_OVER_U_SUR_OVER_SUR;U_OVER_U_U_REVERSED_OVER_U_REVERSED;U2;UB;UD
UD_KUSHU2;UD_TIMES_BAD;UD_TIMES_MI;UD_TIMES_U_PLUS_U_PLUS_U;UD_TIMES_U_PLUS_U_PLUS_U_GUNU;UD_GUNU
UD_SHESHIG;UD_SHESHIG_TIMES_BAD;UDUG;UM;UM_TIMES_LAGAB;UM_TIMES_ME_PLUS_DA;UM_TIMES_SHA3;UM_TIMES_U
UMBIN;UMUM;UMUM_TIMES_KASKAL;UMUM_TIMES_PA;UN;UN_GUNU;UR;UR_CROSSING_UR;UR_SHESHIG;UR2
1232c=CUNEIFORM_SIGN_UR2_TIMES_;A_PLUS_HA;A_PLUS_NA;AL;HA;NUN;U2;U2_PLUS_ASH;U2_PLUS_BI
12334=CUNEIFORM_SIGN_;UR4;URI;URI3;URU
12338=CUNEIFORM_SIGN_URU_TIMES_;A;ASHGAB;BAR;DUN;GA;GAL;GAN2_TENU;GAR;GU;HA;IGI;IM;ISH;KI;LUM;MIN;PA
SHE;SIG4;TU;U_PLUS_GUD;UD;URUDA;1234f=CUNEIFORM_SIGN_;URUDA;URUDA_TIMES_U;USH;USH_TIMES_A
USH_TIMES_KU;USH_TIMES_KUR;USH_TIMES_TAK4;USHX;USH2;USHUMX;UTUKI;UZ3;UZ3_TIMES_KASKAL;UZU;ZA;ZA_TENU
ZA_SQUARED_TIMES_KUR;ZAG;ZAMX;ZE2;ZI;ZI_OVER_ZI;ZI3;ZIB;ZIB_KABA_TENU;ZIG;ZIZ2;ZU;ZU5;ZU5_TIMES_A
ZUBUR;ZUM;KAP_ELAMITE;AB_TIMES_NUN;AB2_TIMES_A;AMAR_TIMES_KUG;DAG_KISIM5_TIMES_U2_PLUS_MASH;DAG3
DISH_PLUS_SHU;DUB_TIMES_SHE;EZEN_TIMES_GUD;EZEN_TIMES_SHE;GA2_TIMES_AN_PLUS_KAK_PLUS_A
GA2_TIMES_ASH2;GE22;GIG;HUSH;1237e=CUNEIFORM_SIGN_KA_TIMES_;ANSHE;ASH3;GISH;GUD;HI_TIMES_ASH2;LUM;PA
SHUL;TU;UR2;12388=CUNEIFORM_SIGN_;LAGAB_TIMES_GI;LU2_SHESHIG_TIMES_BAD;LU2_TIMES_ESH2_PLUS_LAL
LU2_TIMES_SHU;MESH;MUSH3_TIMES_ZA;NA4;NIN;NIN9;NINDA2_TIMES_BAL;NINDA2_TIMES_GI
NU11_ROTATED_NINETY_DEGREES;PESH2_ASTERISK;PIR2;SAG_TIMES_IGI_GUNU;TI2;UM_TIMES_ME;U_U
12400=CUNEIFORM_NUMERIC_SIGN_;TWO_ASH;THREE_ASH;FOUR_ASH;FIVE_ASH;SIX_ASH;SEVEN_ASH;EIGHT_ASH
NINE_ASH;THREE_DISH;FOUR_DISH;FIVE_DISH;SIX_DISH;SEVEN_DISH;EIGHT_DISH;NINE_DISH;FOUR_U;FIVE_U;SIX_U
SEVEN_U;EIGHT_U;NINE_U;ONE_GESH2;TWO_GESH2;THREE_GESH2;FOUR_GESH2;FIVE_GESH2;SIX_GESH2;SEVEN_GESH2
EIGHT_GESH2;NINE_GESH2;ONE_GESHU;TWO_GESHU;THREE_GESHU;FOUR_GESHU;FIVE_GESHU;TWO_SHAR2;THREE_SHAR2
THREE_SHAR2_VARIANT_FORM;FOUR_SHAR2;FIVE_SHAR2;SIX_SHAR2;SEVEN_SHAR2;EIGHT_SHAR2;NINE_SHAR2
ONE_SHARU;TWO_SHARU;THREE_SHARU;THREE_SHARU_VARIANT_FORM;FOUR_SHARU;FIVE_SHARU
SHAR2_TIMES_GAL_PLUS_DISH;SHAR2_TIMES_GAL_PLUS_MIN;ONE_BURU;TWO_BURU;THREE_BURU
THREE_BURU_VARIANT_FORM;FOUR_BURU;FIVE_BURU;THREE_VARIANT_FORM_ESH16;THREE_VARIANT_FORM_ESH21
FOUR_VARIANT_FORM_LIMMU;FOUR_VARIANT_FORM_LIMMU4;FOUR_VARIANT_FORM_LIMMU_A;FOUR_VARIANT_FORM_LIMMU_B
SIX_VARIANT_FORM_ASH9;SEVEN_VARIANT_FORM_IMIN3;SEVEN_VARIANT_FORM_IMIN_A;SEVEN_VARIANT_FORM_IMIN_B
EIGHT_VARIANT_FORM_USSU;EIGHT_VARIANT_FORM_USSU3;NINE_VARIANT_FORM_ILIMMU;NINE_VARIANT_FORM_ILIMMU3
NINE_VARIANT_FORM_ILIMMU4;NINE_VARIANT_FORM_ILIMMU_A;TWO_ASH_TENU;THREE_ASH_TENU;FOUR_ASH_TENU
FIVE_ASH_TENU;SIX_ASH_TENU;ONE_BAN2;TWO_BAN2;THREE_BAN2;FOUR_BAN2;FOUR_BAN2_VARIANT_FORM;FIVE_BAN2
FIVE_BAN2_VARIANT_FORM;NIGIDAMIN;NIGIDAESH;ONE_ESHE3;TWO_ESHE3;ONE_THIRD_DISH;TWO_THIRDS_DISH
FIVE_SIXTHS_DISH;ONE_THIRD_VARIANT_FORM_A;TWO_THIRDS_VARIANT_FORM_A;ONE_EIGHTH_ASH;ONE_QUARTER_ASH
OLD_ASSYRIAN_ONE_SIXTH;OLD_ASSYRIAN_ONE_QUARTER;ONE_QUARTER_GUR;ONE_HALF_GUR;ELAMITE_ONE_THIRD
ELAMITE_TWO_THIRDS;ELAMITE_FORTY;ELAMITE_FIFTY;FOUR_U_VARIANT_FORM;FIVE_U_VARIANT_FORM
SIX_U_VARIANT_FORM;SEVEN_U_VARIANT_FORM;EIGHT_U_VARIANT_FORM;NINE_U_VARIANT_FORM
12470=CUNEIFORM_PUNCTUATION_SIGN_;OLD_ASSYRIAN_WORD_DIVIDER;VERTICAL_COLON;DIAGONAL_COLON
DIAGONAL_TRICOLON;DIAGONAL_QUADCOLON;12480=CUNEIFORM_SIGN_;AB_TIMES_NUN_TENU;AB_TIMES_SHU2
AD_TIMES_ESH2;BAD_TIMES_DISH_TENU;BAHAR2_TIMES_AB2;BAHAR2_TIMES_NI;BAHAR2_TIMES_ZA
BU_OVER_BU_TIMES_NA2;DA_TIMES_TAK4;DAG_TIMES_KUR;DIM_TIMES_IGI;DIM_TIMES_U_U_U;DIM2_TIMES_UD
1248d=CUNEIFORM_SIGN_DUG_TIMES_;ANSHE;ASH;ASH_AT_LEFT;DIN;DUN;ERIN2;GA;GI;GIR2_GUNU;GISH;HA;HI
IGI_GUNU;KASKAL;KUR;KUSHU2;KUSHU2_PLUS_KASKAL;LAK-020;LAM;LAM_TIMES_KUR;LUH_PLUS_GISH;MASH;MES;MI;NI
PI;SHE;SI_GUNU;124a9=CUNEIFORM_SIGN_;E2_TIMES_KUR;E2_TIMES_PAP;ERIN2_X;ESH2_CROSSING_ESH2
124ad=CUNEIFORM_SIGN_EZEN_SHESHIG_TIMES_;ASH;HI;IGI_GUNU;LA;LAL;ME;MES;SU
124b5=;CUNEIFORM_SIGN_EZEN_TIMES_SU
124b6=CUNEIFORM_SIGN_GA2_TIMES_;BAHAR2;DIM_GUNU;DUG_TIMES_IGI_GUNU;DUG_TIMES_KASKAL;EREN;GA
GAR_PLUS_DI;GAR_PLUS_NE;HA_PLUS_A;KUSHU2_PLUS_KASKAL;LAM;LAM_TIMES_KUR;LUH;MUSH;NE;NE_PLUS_E2
NE_PLUS_GI;SHIM;ZIZ2;124c9=CUNEIFORM_SIGN_;GABA_ROTATED_NINETY_DEGREES;GESHTIN_TIMES_U
GISH_TIMES_GISH_CROSSING_GISH;GU2_TIMES_IGI_GUNU;GUD_PLUS_GISH_TIMES_TAK4;HA_TENU_GUNU
HI_TIMES_ASH_OVER_HI_TIMES_ASH;KA_TIMES_BU;KA_TIMES_KA;KA_TIMES_U_U_U;KA_TIMES_UR
LAGAB_TIMES_ZU_OVER_ZU;124d5=CUNEIFORM_SIGN_LAK-;003;021;025;030;050;051;062;079_OVER_LAK-079_GUNU
080;081_OVER_LAK-081;092;130;142;210;219;220;225;228;238;265;266;343;347;348;383;384;390;441;449
449_TIMES_GU;449_TIMES_IGI;449_TIMES_PAP_PLUS_LU3;449_TIMES_PAP_PLUS_PAP_PLUS_LU3
449_TIMES_U2_PLUS_BA;450;457;470;483;490;492;493;495;550;608;617
12502=CUNEIFORM_SIGN_LAK-617_TIMES_;ASH;BAD;DUN3_GUNU_GUNU;KU3;LA;TAR;TE;U2;UD;URUDA
1250c=CUNEIFORM_SIGN_LAK-;636;648
1250e=CUNEIFORM_SIGN_LAK-648_TIMES_;DUB;GA;IGI;IGI_GUNU;NI;PAP_PLUS_PAP_PLUS_LU3;SHESH_PLUS_KI;UD
URUDA;12517=CUNEIFORM_SIGN_;LAK-724;LAK-749;LU2_GUNU_TIMES_ASH;LU2_TIMES_DISH;LU2_TIMES_HAL
LU2_TIMES_PAP;LU2_TIMES_PAP_PLUS_PAP_PLUS_LU3;LU2_TIMES_TAK4;MI_PLUS_ZA7;MUSH_OVER_MUSH_TIMES_GA
MUSH_OVER_MUSH_TIMES_KAK;12522=CUNEIFORM_SIGN_NINDA2_TIMES_;DIM_GUNU;GISH;GUL;HI;KESH2;LAK-050;MASH
PAP_PLUS_PAP;U;U_PLUS_U;URUDA;1252d=CUNEIFORM_SIGN_;SAG_GUNU_TIMES_HA;SAG_TIMES_EN
SAG_TIMES_SHE_AT_LEFT;SAG_TIMES_TAK4;SHA6_TENU;SHE_OVER_SHE;SHE_PLUS_HUB2;SHE_PLUS_NAM2;SHE_PLUS_SAR
SHU2_PLUS_DUG_TIMES_NI;SHU2_PLUS_E2_TIMES_AN;SI_TIMES_TAK4;TAK4_PLUS_SAG;TUM_TIMES_GAN2_TENU
TUM_TIMES_THREE_DISH;UR2_INVERTED;UR2_TIMES_UD;URU_TIMES_DARA3;URU_TIMES_LAK-668;URU_TIMES_LU3;ZA7
ZU_OVER_ZU_PLUS_SAR;ZU5_TIMES_THREE_DISH_TENU
12f90=CYPRO-MINOAN_SIGN_;CM001;CM002;CM004;CM005;CM006;CM007;CM008;CM009;CM010;CM011;CM012;CM012B
CM013;CM015;CM017;CM019;CM021;CM023;CM024;CM025;CM026;CM027;CM028;CM029;CM030;CM033;CM034;CM035
CM036;CM037;CM038;CM039;CM040;CM041;CM044;CM046;CM047;CM049;CM050;CM051;CM052;CM053;CM054;CM055
CM056;CM058;CM059;CM060;CM061;CM062;CM063;CM064;CM066;CM067;CM068;CM069;CM070;CM071;CM072;CM073
CM074;CM075;CM075B;CM076;CM078;CM079;CM080;CM081;CM082;CM083;CM084;CM085;CM086;CM087;CM088;CM089
CM090;CM091;CM092;CM094;CM095;CM096;CM097;CM098;CM099;CM100;CM101;CM102;CM103;CM104;CM105;CM107
CM108;CM109;CM110;CM112;CM114;CM301;CM302
13000=EGYPTIAN_HIEROGLYPH_;A001;A002;A003;A004;A005;A005A;A006;A006A;A006B;A007;A008;A009;A010;A011
A012;A013;A014;A014A;A015;A016;A017;A017A;A018;A019;A020;A021;A022;A023;A024;A025;A026;A027;A028
A029;A030;A031;A032;A032A;A033;A034;A035;A036;A037;A038;A039;A040;A040A;A041;A042;A042A;A043;A043A
A044;A045;A045A;A046;A047;A048;A049;A050;A051;A052;A053;A054;A055;A056;A057;A058;A059;A060;A061;A062
A063;A064;A065;A066;A067;A068;A069;A070;B001;B002;B003;B004;B005;B005A;B006;B007;B008;B009;C001;C002
C002A;C002B;C002C;C003;C004;C005;C006;C007;C008;C009;C010;C010A;C011;C012;C013;C014;C015;C016;C017
C018;C019;C020;C021;C022;C023;C024;D001;D002;D003;D004;D005;D006;D007;D008;D008A;D009;D010;D011;D012
D013;D014;D015;D016;D017;D018;D019;D020;D021;D022;D023;D024;D025;D026;D027;D027A;D028;D029;D030;D031
D031A;D032;D033;D034;D034A;D035;D036;D037;D038;D039;D040;D041;D042;D043;D044;D045;D046;D046A;D047
D048;D048A;D049;D050;D050A;D050B;D050C;D050D;D050E;D050F;D050G;D050H;D050I;D051;D052;D052A;D053;D054
D054A;D055;D056;D057;D058;D059;D060;D061;D062;D063;D064;D065;D066;D067;D067A;D067B;D067C;D067D;D067E
D067F;D067G;D067H;E001;E002;E003;E004;E005;E006;E007;E008;E008A;E009;E009A;E010;E011;E012;E013;E014
E015;E016;E016A;E017;E017A;E018;E019;E020;E020A;E021;E022;E023;E024;E025;E026;E027;E028;E028A;E029
E030;E031;E032;E033;E034;E034A;E036;E037;E038;F001;F001A;F002;F003;F004;F005;F006;F007;F008;F009
F010;F011;F012;F013;F013A;F014;F015;F016;F017;F018;F019;F020;F021;F021A;F022;F023;F024;F025;F026
F027;F028;F029;F030;F031;F031A;F032;F033;F034;F035;F036;F037;F037A;F038;F038A;F039;F040;F041;F042
F043;F044;F045;F045A;F046;F046A;F047;F047A;F048;F049;F050;F051;F051A;F051B;F051C;F052;F053;G001;G002
G003;G004;G005;G006;G006A;G007;G007A;G007B;G008;G009;G010;G011;G011A;G012;G013;G014;G015;G016;G017
G018;G019;G020;G020A;G021;G022;G023;G024;G025;G026;G026A;G027;G028;G029;G030;G031;G032;G033;G034
G035;G036;G036A;G037;G037A;G038;G039;G040;G041;G042;G043;G043A;G044;G045;G045A;G046;G047;G048;G049
G050;G051;G052;G053;G054;H001;H002;H003;H004;H005;H006;H006A;H007;H008;I001;I002;I003;I004;I005
I005A;I006;I007;I008;I009;I009A;I010;I010A;I011;I011A;I012;I013;I014;I015;K001;K002;K003;K004;K005
K006;K007;K008;L001;L002;L002A;L003;L004;L005;L006;L006A;L007;L008;M001;M001A;M001B;M002;M003;M003A
M004;M005;M006;M007;M008;M009;M010;M010A;M011;M012;M012A;M012B;M012C;M012D;M012E;M012F;M012G;M012H
M013;M014;M015;M015A;M016;M016A;M017;M017A;M018;M019;M020;M021;M022;M022A;M023;M024;M024A;M025;M026
M027;M028;M028A;M029;M030;M031;M031A;M032;M033;M033A;M033B;M034;M035;M036;M037;M038;M039;M040;M040A
M041;M042;M043;M044;N001;N002;N003;N004;N005;N006;N007;N008;N009;N010;N011;N012;N013;N014;N015;N016
N017;N018;N018A;N018B;N019;N020;N021;N022;N023;N024;N025;N025A;N026;N027;N028;N029;N030;N031;N032
N033;N033A;N034;N034A;N035;N035A;N036;N037;N037A;N038;N039;N040;N041;N042;NL001;NL002;NL003;NL004
NL005;NL005A;NL006;NL007;NL008;NL009;NL010;NL011;NL012;NL013;NL014;NL015;NL016;NL017;NL017A;NL018
NL019;NL020;NU001;NU002;NU003;NU004;NU005;NU006;NU007;NU008;NU009;NU010;NU010A;NU011;NU011A;NU012
NU013;NU014;NU015;NU016;NU017;NU018;NU018A;NU019;NU020;NU021;NU022;NU022A;O001;O001A;O002;O003;O004
O005;O005A;O006;O006A;O006B;O006C;O006D;O006E;O006F;O007;O008;O009;O010;O010A;O010B;O010C;O011;O012
O013;O014;O015;O016;O017;O018;O019;O019A;O020;O020A;O021;O022;O023;O024;O024A;O025;O025A;O026;O027
O028;O029;O029A;O030;O030A;O031;O032;O033;O033A;O034;O035;O036;O036A;O036B;O036C;O036D;O037;O038
O039;O040;O041;O042;O043;O044;O045;O046;O047;O048;O049;O050;O050A;O050B;O051;P001;P001A;P002;P003
P003A;P004;P005;P006;P007;P008;P009;P010;P011;Q001;Q002;Q003;Q004;Q005;Q006;Q007;R001;R002;R002A
R003;R003A;R003B;R004;R005;R006;R007;R008;R009;R010;R010A;R011;R012;R013;R014;R015;R016;R016A;R017
R018;R019;R020;R021;R022;R023;R024;R025;R026;R027;R028;R029;S001;S002;S002A;S003;S004;S005;S006
S006A;S007;S008;S009;S010;S011;S012;S013;S014;S014A;S014B;S015;S016;S017;S017A;S018;S019;S020;S021
S022;S023;S024;S025;S026;S026A;S026B;S027;S028;S029;S030;S031;S032;S033;S034;S035;S035A;S036;S037
S038;S039;S040;S041;S042;S043;S044;S045;S046;T001;T002;T003;T003A;T004;T005;T006;T007;T007A;T008
T008A;T009;T009A;T010;T011;T011A;T012;T013;T014;T015;T016;T016A;T017;T018;T019;T020;T021;T022;T023
T024;T025;T026;T027;T028;T029;T030;T031;T032;T032A;T033;T033A;T034;T035;T036;U001;U002;U003;U004
U005;U006;U006A;U006B;U007;U008;U009;U010;U011;U012;U013;U014;U015;U016;U017;U018;U019;U020;U021
U022;U023;U023A;U024;U025;U026;U027;U028;U029;U029A;U030;U031;U032;U032A;U033;U034;U035;U036;U037
U038;U039;U040;U041;U042;V001;V001A;V001B;V001C;V001D;V001E;V001F;V001G;V001H;V001I;V002;V002A;V003
V004;V005;V006;V007;V007A;V007B;V008;V009;V010;V011;V011A;V011B;V011C;V012;V012A;V012B;V013;V014
V015;V016;V017;V018;V019;V020;V020A;V020B;V020C;V020D;V020E;V020F;V020G;V020H;V020I;V020J;V020K
V020L;V021;V022;V023;V023A;V024;V025;V026;V027;V028;V028A;V029;V029A;V030;V030A;V031;V031A;V032;V033
V033A;V034;V035;V036;V037;V037A;V038;V039;V040;V040A;W001;W002;W003;W003A;W004;W005;W006;W007;W008
W009;W009A;W010;W010A;W011;W012;W013;W014;W014A;W015;W016;W017;W017A;W018;W018A;W019;W020;W021;W022
W023;W024;W024A;W025;X001;X002;X003;X004;X004A;X004B;X005;X006;X006A;X007;X008;X008A;Y001;Y001A;Y002
Y003;Y004;Y005;Y006;Y007;Y008;Z001;Z002;Z002A;Z002B;Z002C;Z002D;Z003;Z003A;Z003B;Z004;Z004A;Z005
Z005A;Z006;Z007;Z008;Z009;Z010;Z011;Z012;Z013;Z014;Z015;Z015A;Z015B;Z015C;Z015D;Z015E;Z015F;Z015G
Z015H;Z015I;Z016;Z016A;Z016B;Z016C;Z016D;Z016E;Z016F;Z016G;Z016H;AA001;AA002;AA003;AA004;AA005;AA006
AA007;AA007A;AA007B;AA008;AA009;AA010;AA011;AA012;AA013;AA014;AA015;AA016;AA017;AA018;AA019;AA020
AA021;AA022;AA023;AA024;AA025;AA026;AA027;AA028;AA029;AA030;AA031;AA032
13430=EGYPTIAN_HIEROGLYPH_;VERTICAL_JOINER;HORIZONTAL_JOINER;INSERT_AT_TOP_START
INSERT_AT_BOTTOM_START;INSERT_AT_TOP_END;INSERT_AT_BOTTOM_END;OVERLAY_MIDDLE;BEGIN_SEGMENT
END_SEGMENT;14400=ANATOLIAN_HIEROGLYPH_;A001;A002;A003;A004;A005;A006;A007;A008;A009;A010;A010A;A011
A012;A013;A014;A015;A016;A017;A018;A019;A020;A021;A022;A023;A024;A025;A026;A026A;A027;A028;A029;A030
A031;A032;A033;A034;A035;A036;A037;A038;A039;A039A;A040;A041;A041A;A042;A043;A044;A045;A045A;A046
A046A;A046B;A047;A048;A049;A050;A051;A052;A053;A054;A055;A056;A057;A058;A059;A060;A061;A062;A063
A064;A065;A066;A066A;A066B;A066C;A067;A068;A069;A070;A071;A072;A073;A074;A075;A076;A077;A078;A079
A080;A081;A082;A083;A084;A085;A086;A087;A088;A089;A090;A091;A092;A093;A094;A095;A096;A097;A097A;A098
A098A;A099;A100;A100A;A101;A101A;A102;A102A;A103;A104;A104A;A104B;A104C;A105;A105A;A105B;A106;A107
A107A;A107B;A107C;A108;A109;A110;A110A;A110B;A111;A112;A113;A114;A115;A115A;A116;A117;A118;A119;A120
A121;A122;A123;A124;A125;A125A;A126;A127;A128;A129;A130;A131;A132;A133;A134;A135;A135A;A136;A137
A138;A139;A140;A141;A142;A143;A144;A145;A146;A147;A148;A149;A150;A151;A152;A153;A154;A155;A156;A157
A158;A159;A160;A161;A162;A163;A164;A165;A166;A167;A168;A169;A170;A171;A172;A173;A174;A175;A176;A177
A178;A179;A180;A181;A182;A183;A184;A185;A186;A187;A188;A189;A190;A191;A192;A193;A194;A195;A196;A197
A198;A199;A200;A201;A202;A202A;A202B;A203;A204;A205;A206;A207;A207A;A208;A209;A209A;A210;A211;A212
A213;A214;A215;A215A;A216;A216A;A217;A218;A219;A220;A221;A222;A223;A224;A225;A226;A227;A227A;A228
A229;A230;A231;A232;A233;A234;A235;A236;A237;A238;A239;A240;A241;A242;A243;A244;A245;A246;A247;A248
A249;A250;A251;A252;A253;A254;A255;A256;A257;A258;A259;A260;A261;A262;A263;A264;A265;A266;A267;A267A
A268;A269;A270;A271;A272;A273;A274;A275;A276;A277;A278;A279;A280;A281;A282;A283;A284;A285;A286;A287
A288;A289;A289A;A290;A291;A292;A293;A294;A294A;A295;A296;A297;A298;A299;A299A;A300;A301;A302;A303
A304;A305;A306;A307;A308;A309;A309A;A310;A311;A312;A313;A314;A315;A316;A317;A318;A319;A320;A321;A322
A323;A324;A325;A326;A327;A328;A329;A329A;A330;A331;A332A;A332B;A332C;A333;A334;A335;A336;A336A;A336B
A336C;A337;A338;A339;A340;A341;A342;A343;A344;A345;A346;A347;A348;A349;A350;A351;A352;A353;A354;A355
A356;A357;A358;A359;A359A;A360;A361;A362;A363;A364;A364A;A365;A366;A367;A368;A368A;A369;A370;A371
A371A;A372;A373;A374;A375;A376;A377;A378;A379;A380;A381;A381A;A382;A383_RA_OR_RI;A383A;A384;A385
A386;A386A;A387;A388;A389;A390;A391;A392;A393_EIGHT;A394;A395;A396;A397;A398;A399;A400;A401;A402
A403;A404;A405;A406;A407;A408;A409;A410_BEGIN_LOGOGRAM_MARK;A410A_END_LOGOGRAM_MARK;A411;A412;A413
A414;A415;A416;A417;A418;A419;A420;A421;A422;A423;A424;A425;A426;A427;A428;A429;A430;A431;A432;A433
A434;A435;A436;A437;A438;A439;A440;A441;A442;A443;A444;A445;A446;A447;A448;A449;A450;A450A;A451;A452
A453;A454;A455;A456;A457;A457A;A458;A459;A460;A461;A462;A463;A464;A465;A466;A467;A468;A469;A470;A471
A472;A473;A474;A475;A476;A477;A478;A479;A480;A481;A482;A483;A484;A485;A486;A487;A488;A489;A490;A491
A492;A493;A494;A495;A496;A497;A501;A502;A503;A504;A505;A506;A507;A508;A509;A510;A511;A512;A513;A514
A515;A516;A517;A518;A519;A520;A521;A522;A523;A524;A525;A526;A527;A528;A529;A530
16800=BAMUM_LETTER_PHASE-A_;NGKUE_MFON;GBIEE_FON;PON_MFON_PIPAEMGBIEE;PON_MFON_PIPAEMBA;NAA_MFON
SHUENSHUET;TITA_MFON;NZA_MFON;SHINDA_PA_NJI;PON_PA_NJI_PIPAEMGBIEE;PON_PA_NJI_PIPAEMBA;MAEMBGBIEE
TU_MAEMBA;NGANGU;MAEMVEUX;MANSUAE;MVEUAENGAM;SEUNYAM;NTOQPEN;KEUKEUTNDA;NKINDI;SUU;NGKUENZEUM;LAPAQ
LET_KUT;NTAP_MFAA;MAEKEUP;PASHAE;GHEUAERAE;PAMSHAE;MON_NGGEUAET;NZUN_MEUT;U_YUQ_NAE;GHEUAEGHEUAE
NTAP_NTAA;SISA;MGBASA;MEUNJOMNDEUQ;MOOMPUQ;KAFA;PA_LEERAEWA;NDA_LEERAEWA;PET;MAEMKPEN;NIKA;PUP;TUAEP
LUAEP;SONJAM;TEUTEUWEN;MAENYI;KET;NDAANGGEUAET;KUOQ;MOOMEUT;SHUM;LOMMAE;FIRI;ROM;KPOQ;SOQ;MAP_PIEET
SHIRAE;NTAP;SHOQ_NSHUT_YUM;NYIT_MONGKEUAEQ;PAARAE;NKAARAE;UNKNOWN;NGGEN;MAESI;NJAM;MBANYI;NYET
TEUAEN;SOT;PAAM;NSHIEE;MAEM;NYI;KAQ;NSHA;VEE;LU;NEN;NAQ;MBAQ
16857=BAMUM_LETTER_PHASE-B_;NSHUET;TU_MAEMGBIEE;SIEE;SET_TU;LOM_NTEUM;MBA_MAELEE;KIEEM;YEURAE
MBAARAE;KAM;PEESHI;YAFU_LEERAEWA;LAM_NSHUT_NYAM;NTIEE_SHEUOQ;NDU_NJAA;GHEUGHEUAEM;PIT;TU_NSIEE
SHET_NJAQ;SHEUAEQTU;MFON_TEUAEQ;MBIT_MBAAKET;NYI_NTEUM;KEUPUQ;GHEUGHEN;KEUYEUX;LAANAE;PARUM;VEUM
NGKINDI_MVOP;NGGEU_MBU;WUAET;SAKEUAE;TAAM;MEUQ;NGGUOQ;NGGUOQ_LARGE;MFIYAQ;SUE;MBEURI;MONTIEEN
NYAEMAE;PUNGAAM;MEUT_NGGEET;FEUX;MBUOQ;FEE;KEUAEM;MA_NJEUAENA;MA_NJUQA;LET;NGGAAM;NSEN;MA;KIQ;NGOM
1688f=BAMUM_LETTER_PHASE-C_;NGKUE_MAEMBA;NZA;YUM;WANGKUOQ;NGGEN;NDEUAEREE;NGKAQ;GHARAE;MBEEKEET
GBAYI;NYIR_MKPARAQ_MEUN;NTU_MBIT;MBEUM;PIRIEEN;NDOMBU;MBAA_CABBAGE-TREE;KEUSHEUAEP;GHAP;KEUKAQ
YU_MUOMAE;NZEUM;MBUE;NSEUAEN;MBIT;YEUQ;KPARAQ;KAA;SEUX;NDIDA;TAASHAE;NJUEQ;TITA_YUE;SUAET
NGGUAEN_NYAM;VEUX;NANSANAQ;MA_KEUAERI;NTAA;NGGUON;LAP;MBIRIEEN;MGBASAQ;NTEUNGBA;TEUTEUX;NGGUM;FUE
NDEUT;NSA;NSHAQ;BUNG;VEUAEPEN;MBERAE;RU;NJAEM;LAM;TITUAEP;NSUOT_NGOM;NJEEEE;KET;NGGU;MAESI;MBUAEM;LU
KUT;NJAM;NGOM;WUP;NGGUEET;NSOM;NTEN;KUOP_NKAARAE;NSUN;NDAM;MA_NSIEE;YAA;NDAP;SHUEQ;SETFON;MBI;MAEMBA
MBANYI;KEUSEUX;MBEUX;KEUM;MBAA_PICKET;YUWOQ;NJEUX;MIEE;MUAE;SHIQ;KEN_LAW;KEN_FATIGUE;NGAQ;NAQ;LIQ
PIN;PEN;TET;168f1=BAMUM_LETTER_PHASE-D_;MBUO;WAP;NJI;MFON;NJIEE;LIEE;NJEUT;NSHEE;NGGAAMAE;NYAM;WUAEN
NGKUN;SHEE;NGKAP;KEUAETMEUN;TEUT;SHEUAE;NJAP;SUE;KET;YAEMMAE;KUOM;SAP;MFEUT;NDEUX;MALEERI;MEUT
SEUAEQ;YEN;NJEUAEM;KEUOT_MBUAE;NGKEURI;TU;GHAA;NGKYEE;FEUFEUAET;NDEE;MGBOFUM;LEUAEP;NDON;MONI;MGBEUN
PUUT;MGBIEE;MFO;LUM;NSIEEP;MBAA;KWAET;NYET;TEUAEN;SOT;YUWOQ;KEUM;RAEM;TEEEE;NGKEUAEQ;MFEUAE;NSIEET
KEUP;PIP;PEUTAE;NYUE;LET;NGGAAM;MFIEE;NGGWAEN;YUOM;PAP;YUOP;NDAM;NTEUM;SUAE;KUN;NGGEUX;NGKIEE;TUOT
MEUN;KUQ;NSUM;TEUN;MAENJET;NGGAP;LEUM;NGGUOM;NSHUT;NJUEQ;GHEUAE;KU;REN_OLD;TAE;TOQ;NYI;RII;LEEEE
MEEEE;M;SUU;MU;SHII;SHEUX;KYEE;NU;SHU;NTEE;PEE;NI;SHOQ;PUQ;MVOP;LOQ;REN_MUCH;TI;NTUU;MBAA_SEVEN;SAQ
FAA;16966=BAMUM_LETTER_PHASE-E_;NDAP;TOON;MBEUM;LAP;VOM;LOON;PAA;SOM;RAQ;NSHUOP;NDUN;PUAE;TAM;NGKA
KPEUX;WUO;SEE;NGGEUAET;PAAM;TOO;KUOP;LOM;NSHIEE;NGOP;MAEM;NGKEUX;NGOQ;NSHUE;RIMGBA;NJEUX;PEEM;SAA
NGGURAE;MGBA;GHEUX;NGKEUAEM;NJAEMLI;MAP;LOOT;NGGEEEE;NDIQ;TAEN_NTEUM;SET;PUM;NDAA_SOFTNESS
NGGUAESHAE_NYAM;YIEE;GHEUN;TUAE;YEUAE;PO;TUMAE;KEUAE;SUAEN;TEUAEQ;VEUAE;WEUX;LAAM;PU;TAAQ;GHAAMAE
NGEUREUT;SHEUAEQ;MGBEN;MBEE;NZAQ;NKOM;GBET;TUM;KUET;YAP;NYI_CLEAVER;YIT;MFEUQ;NDIAQ;PIEEQ;YUEQ
LEUAEM;FUE;GBEUX;NGKUP;KET;MAE;NGKAAMI;GHET;FA;NTUM;PEUT;YEUM;NGGEUAE;NYI_BETWEEN;NZUQ;POON;MIEE
FUET;NAE;MUAE;GHEUAE;FU_I;MVI;PUAQ;NGKUM;KUT;PIET;NTAP;YEUAET;NGGUP;PA_PEOPLE;FU_CALL;FOM;NJEE;A;TOQ
O;I;LAQ;PA_PLURAL;TAA;TAQ;NDAA_MY_HOUSE;SHIQ;YEUX;NGUAE;YUAEN;YOQ_SWIMMING;YOQ_COVER;YUQ;YUN;KEUX
PEUX;NJEE_EPOCH;PUE;WUE;FEE;VEE;LU;MI;REUX;RAE;NGUAET;NGA;SHO;SHOQ;FU_REMEDY;NA;PI;LOQ;KO;MEN;MA;MAQ
TEU;KI;MON;TEN;FAQ;GHOM;16a03=BAMUM_LETTER_PHASE-F_;KA;U;KU;EE;REE;TAE;NYI;LA;RII;RIEE;MEEEE;TAA
NDAA;NJAEM;M;SUU;SHII;SI;SEUX;KYEE;KET;NUAE;NU;NJUAE;YOQ;SHU;YA;NSHA;PEUX;NTEE;WUE;PEE;RU;NI;REUX
KEN;NGKWAEN;NGGA;SHO;PUAE;FOM;WA;LI;LOQ;KO;MBEN;REN;MA;MO;MBAA;TET;KPA;SAMBA;VUEQ
16a40=MRO_LETTER_;TA;NGI;YO;MIM;BA;DA;A;PHI;KHAI;HAO;DAI;CHU;KEAAE;OL;MAEM;NIN;PA;OO;O;RO;SHI;THEA
EA;WA;E;KO;LAN;LA;HAI;RI;TEK;16a60=MRO_DIGIT_;ZERO;ONE;TWO;THREE;FOUR;FIVE;SIX;SEVEN;EIGHT;NINE
16a6e=MRO_;DANDA;DOUBLE_DANDA;16a70=TANGSA_LETTER_;OZ;OC;OQ;OX;AZ;AC;AQ;AX;VZ;VC;VQ;VX;EZ;EC;EQ;EX
IZ;IC;IQ;IX;UZ;UC;UQ;UX;AWZ;AWC;AWQ;AWX;UIZ;UIC;UIQ;UIX;FINAL_NG;LONG_UEX;SHORT_UEZ;SHORT_AWX;UEC
UEZ;UEQ;UEX;UIUZ;UIUC;UIUQ;UIUX;MZ;MC;MQ;MX;KA;KHA;GA;NGA;SA;YA;WA;PA;NYA;PHA;BA;MA;NA;HA;LA;HTA;TA
DA;RA;NHA;SHA;CA;TSA;GHA;HTTA;THA;XA;FA;DHA;CHA;ZA
16ac0=TANGSA_DIGIT_;ZERO;ONE;TWO;THREE;FOUR;FIVE;SIX;SEVEN;EIGHT;NINE
16ad0=BASSA_VAH_LETTER_;ENNI;KA;SE;FA;MBE;YIE;GAH;DHII;KPAH;JO;HWAH;WA;ZO;GBU;DO;CE;UWU;TO;BA;VU
YEIN;PA;WADDA;A;O;OO;U;EE;E;I;16af0=BASSA_VAH_COMBINING_;HIGH_TONE;LOW_TONE;MID_TONE;LOW-MID_TONE
HIGH-LOW_TONE;16af5=;BASSA_VAH_FULL_STOP
16b00=PAHAWH_HMONG_VOWEL_;KEEB;KEEV;KIB;KIV;KAUB;KAUV;KUB;KUV;KEB;KEV;KAIB;KAIV;KOOB;KOOV;KAWB;KAWV
KUAB;KUAV;KOB;KOV;KIAB;KIAV;KAB;KAV;KWB;KWV;KAAB;KAAV
16b1c=PAHAWH_HMONG_CONSONANT_;VAU;NTSAU;LAU;HAU;NLAU;RAU;NKAU;QHAU;YAU;HLAU;MAU;CHAU;NCHAU;HNAU
PLHAU;NTHAU;NAU;AU;XAU;CAU;16b30=PAHAWH_HMONG_MARK_CIM_;TUB;SO;KES;KHAV;SUAM;HOM;TAUM
16b37=PAHAWH_HMONG_SIGN_;VOS_THOM;VOS_TSHAB_CEEB;CIM_CHEEM;VOS_THIAB;VOS_FEEM;XYEEM_NTXIV;XYEEM_RHO
XYEEM_TOV;XYEEM_FAIB;VOS_SEEV;MEEJ_SUAB;VOS_NRUA;IB_YAM;XAUS;CIM_TSOV_ROG
16b50=PAHAWH_HMONG_DIGIT_;ZERO;ONE;TWO;THREE;FOUR;FIVE;SIX;SEVEN;EIGHT;NINE
16b5b=PAHAWH_HMONG_NUMBER_;TENS;HUNDREDS;TEN_THOUSANDS;MILLIONS;HUNDRED_MILLIONS;TEN_BILLIONS
TRILLIONS;16b63=PAHAWH_HMONG_SIGN_;VOS_LUB;XYOO;HLI;THIRD-STAGE_HLI;ZWJ_THAJ;HNUB;NQIG;XIAB;NTUJ;AV
TXHEEJ_CEEV;MEEJ_TSEEB;TAU;LOS;MUS;CIM_HAIS_LUS_NTOG_NTOG;CIM_CUAM_TSHOOJ;CIM_TXWV;CIM_TXWV_CHWV
CIM_PUB_DAWB;CIM_NRES_TOS;16b7d=PAHAWH_HMONG_CLAN_SIGN_;TSHEEJ;YEEG;LIS;LAUJ;XYOOJ;KOO;HAWJ;MUAS
THOJ;TSAB;PHAB;KHAB;HAM;VAJ;FAJ;YAJ;TSWB;KWM;VWJ
16e40=MEDEFAIDRIN_CAPITAL_LETTER_;M;S;V;W;ATIU;Z;KP;P;T;G;F;I;K;A;J;E;B;C;U;YU;L;Q;HP;NY;X;D;OE;N;R
O;AI;Y;16e60=MEDEFAIDRIN_SMALL_LETTER_;M;S;V;W;ATIU;Z;KP;P;T;G;F;I;K;A;J;E;B;C;U;YU;L;Q;HP;NY;X;D;OE
N;R;O;AI;Y;16e80=MEDEFAIDRIN_DIGIT_;ZERO;ONE;TWO;THREE;FOUR;FIVE;SIX;SEVEN;EIGHT;NINE
16e8a=MEDEFAIDRIN_NUMBER_;TEN;ELEVEN;TWELVE;THIRTEEN;FOURTEEN;FIFTEEN;SIXTEEN;SEVENTEEN;EIGHTEEN
NINETEEN;16e94=MEDEFAIDRIN_;DIGIT_ONE_ALTERNATE_FORM;DIGIT_TWO_ALTERNATE_FORM
DIGIT_THREE_ALTERNATE_FORM;COMMA;FULL_STOP;SYMBOL_AIVA;EXCLAMATION_OH
16f00=MIAO_LETTER_;PA;BA;YI_PA;PLA;MA;MHA;ARCHAIC_MA;FA;VA;VFA;TA;DA;YI_TTA;YI_TA;TTA;DDA;NA;NHA
YI_NNA;ARCHAIC_NA;NNA;NNHA;LA;LYA;LHA;LHYA;TLHA;DLHA;TLHYA;DLHYA;KA;GA;YI_KA;QA;QGA;NGA;NGHA
ARCHAIC_NGA;HA;XA;GHA;GHHA;TSSA;DZZA;NYA;NYHA;TSHA;DZHA;YI_TSHA;YI_DZHA;REFORMED_TSHA;SHA;SSA;ZHA
ZSHA;TSA;DZA;YI_TSA;SA;ZA;ZSA;ZZA;ZZSA;ARCHAIC_ZZA;ZZYA;ZZSYA;WA;AH;HHA;BRI;SYI;DZYI;TE;TSE;RTE
16f4f=MIAO_;SIGN_CONSONANT_MODIFIER_BAR;LETTER_NASALIZATION;SIGN_ASPIRATION
16f52=MIAO_SIGN_REFORMED_;VOICING;ASPIRATION
16f54=MIAO_VOWEL_SIGN_;A;AA;AHH;AN;ANG;O;OO;WO;W;E;EN;ENG;OEY;I;IA;IAN;IANG;IO;IE;II;IU;ING;U;UA;UAN
UANG;UU;UEI;UNG;Y;YI;AE;AEE;ERR;ROUNDED_ERR;ER;ROUNDED_ER;AI;EI;AU;OU;N;NG;UOG;YUI;OG;OER;VW;IG;EA
IONG;UI;16f8f=MIAO_TONE_;RIGHT;TOP_RIGHT;ABOVE;BELOW
16f93=MIAO_LETTER_TONE-;2;3;4;5;6;7;8
16f9a=MIAO_LETTER_REFORMED_TONE-;1;2;4;5;6;8;16fe0=;TANGUT_ITERATION_MARK;NUSHU_ITERATION_MARK
OLD_CHINESE_HOOK_MARK;OLD_CHINESE_ITERATION_MARK;KHITAN_SMALL_SCRIPT_FILLER
16ff0=VIETNAMESE_ALTERNATE_READING_MARK_;CA;NHAY
18800=TANGUT_COMPONENT-;001;002;003;004;005;006;007;008;009;010;011;012;013;014;015;016;017;018;019
020;021;022;023;024;025;026;027;028;029;030;031;032;033;034;035;036;037;038;039;040;041;042;043;044
045;046;047;048;049;050;051;052;053;054;055;056;057;058;059;060;061;062;063;064;065;066;067;068;069
070;071;072;073;074;075;076;077;078;079;080;081;082;083;084;085;086;087;088;089;090;091;092;093;094
095;096;097;098;099;100;101;102;103;104;105;106;107;108;109;110;111;112;113;114;115;116;117;118;119
120;121;122;123;124;125;126;127;128;129;130;131;132;133;134;135;136;137;138;139;140;141;142;143;144
145;146;147;148;149;150;151;152;153;154;155;156;157;158;159;160;161;162;163;164;165;166;167;168;169
170;171;172;173;174;175;176;177;178;179;180;181;182;183;184;185;186;187;188;189;190;191;192;193;194
195;196;197;198;199;200;201;202;203;204;205;206;207;208;209;210;211;212;213;214;215;216;217;218;219
220;221;222;223;224;225;226;227;228;229;230;231;232;233;234;235;236;237;238;239;240;241;242;243;244
245;246;247;248;249;250;251;252;253;254;255;256;257;258;259;260;261;262;263;264;265;266;267;268;269
270;271;272;273;274;275;276;277;278;279;280;281;282;283;284;285;286;287;288;289;290;291;292;293;294
295;296;297;298;299;300;301;302;303;304;305;306;307;308;309;310;311;312;313;314;315;316;317;318;319
320;321;322;323;324;325;326;327;328;329;330;331;332;333;334;335;336;337;338;339;340;341;342;343;344
345;346;347;348;349;350;351;352;353;354;355;356;357;358;359;360;361;362;363;364;365;366;367;368;369
370;371;372;373;374;375;376;377;378;379;380;381;382;383;384;385;386;387;388;389;390;391;392;393;394
395;396;397;398;399;400;401;402;403;404;405;406;407;408;409;410;411;412;413;414;415;416;417;418;419
420;421;422;423;424;425;426;427;428;429;430;431;432;433;434;435;436;437;438;439;440;441;442;443;444
445;446;447;448;449;450;451;452;453;454;455;456;457;458;459;460;461;462;463;464;465;466;467;468;469
470;471;472;473;474;475;476;477;478;479;480;481;482;483;484;485;486;487;488;489;490;491;492;493;494
495;496;497;498;499;500;501;502;503;504;505;506;507;508;509;510;511;512;513;514;515;516;517;518;519
520;521;522;523;524;525;526;527;528;529;530;531;532;533;534;535;536;537;538;539;540;541;542;543;544
545;546;547;548;549;550;551;552;553;554;555;556;557;558;559;560;561;562;563;564;565;566;567;568;569
570;571;572;573;574;575;576;577;578;579;580;581;582;583;584;585;586;587;588;589;590;591;592;593;594
595;596;597;598;599;600;601;602;603;604;605;606;607;608;609;610;611;612;613;614;615;616;617;618;619
620;621;622;623;624;625;626;627;628;629;630;631;632;633;634;635;636;637;638;639;640;641;642;643;644
645;646;647;648;649;650;651;652;653;654;655;656;657;658;659;660;661;662;663;664;665;666;667;668;669
670;671;672;673;674;675;676;677;678;679;680;681;682;683;684;685;686;687;688;689;690;691;692;693;694
695;696;697;698;699;700;701;702;703;704;705;706;707;708;709;710;711;712;713;714;715;716;717;718;719
720;721;722;723;724;725;726;727;728;729;730;731;732;733;734;735;736;737;738;739;740;741;742;743;744
745;746;747;748;749;750;751;752;753;754;755;756;757;758;759;760;761;762;763;764;765;766;767;768
1aff0=KATAKANA_LETTER_MINNAN_TONE-;2;3;4;5
1aff5=KATAKANA_LETTER_MINNAN_TONE-;7;8
1aff7=KATAKANA_LETTER_MINNAN_NASALIZED_TONE-;1;2;3;4;5
1affd=KATAKANA_LETTER_MINNAN_NASALIZED_TONE-;7;8;1b000=;KATAKANA_LETTER_ARCHAIC_E
HIRAGANA_LETTER_ARCHAIC_YE;1b002=HENTAIGANA_LETTER_;A-1;A-2;A-3;A-WO;I-1;I-2;I-3;I-4;U-1;U-2;U-3;U-4
U-5;E-2;E-3;E-4;E-5;E-6;O-1;O-2;O-3;KA-1;KA-2;KA-3;KA-4;KA-5;KA-6;KA-7;KA-8;KA-9;KA-10;KA-11;KA-KE
KI-1;KI-2;KI-3;KI-4;KI-5;KI-6;KI-7;KI-8;KU-1;KU-2;KU-3;KU-4;KU-5;KU-6;KU-7;KE-1;KE-2;KE-3;KE-4;KE-5
KE-6;KO-1;KO-2;KO-3;KO-KI;SA-1;SA-2;SA-3;SA-4;SA-5;SA-6;SA-7;SA-8;SI-1;SI-2;SI-3;SI-4;SI-5;SI-6;SU-1
SU-2;SU-3;SU-4;SU-5;SU-6;SU-7;SU-8;SE-1;SE-2;SE-3;SE-4;SE-5;SO-1;SO-2;SO-3;SO-4;SO-5;SO-6;SO-7;TA-1
TA-2;TA-3;TA-4;TI-1;TI-2;TI-3;TI-4;TI-5;TI-6;TI-7;TU-1;TU-2;TU-3;TU-4;TU-TO;TE-1;TE-2;TE-3;TE-4;TE-5
TE-6;TE-7;TE-8;TE-9;TO-1;TO-2;TO-3;TO-4;TO-5;TO-6;TO-RA;NA-1;NA-2;NA-3;NA-4;NA-5;NA-6;NA-7;NA-8;NA-9
NI-1;NI-2;NI-3;NI-4;NI-5;NI-6;NI-7;NI-TE;NU-1;NU-2;NU-3;NE-1;NE-2;NE-3;NE-4;NE-5;NE-6;NE-KO;NO-1
NO-2;NO-3;NO-4;NO-5;HA-1;HA-2;HA-3;HA-4;HA-5;HA-6;HA-7;HA-8;HA-9;HA-10;HA-11;HI-1;HI-2;HI-3;HI-4
HI-5;HI-6;HI-7;HU-1;HU-2;HU-3;HE-1;HE-2;HE-3;HE-4;HE-5;HE-6;HE-7;HO-1;HO-2;HO-3;HO-4;HO-5;HO-6;HO-7
HO-8;MA-1;MA-2;MA-3;MA-4;MA-5;MA-6;MA-7;MI-1;MI-2;MI-3;MI-4;MI-5;MI-6;MI-7;MU-1;MU-2;MU-3;MU-4;ME-1
ME-2;ME-MA;MO-1;MO-2;MO-3;MO-4;MO-5;MO-6;YA-1;YA-2;YA-3;YA-4;YA-5;YA-YO;YU-1;YU-2;YU-3;YU-4;YO-1
YO-2;YO-3;YO-4;YO-5;YO-6;RA-1;RA-2;RA-3;RA-4;RI-1;RI-2;RI-3;RI-4;RI-5;RI-6;RI-7;RU-1;RU-2;RU-3;RU-4
RU-5;RU-6;RE-1;RE-2;RE-3;RE-4;RO-1;RO-2;RO-3;RO-4;RO-5;RO-6;WA-1;WA-2;WA-3;WA-4;WA-5;WI-1;WI-2;WI-3
WI-4;WI-5;WE-1;WE-2;WE-3;WE-4;WO-1;WO-2;WO-3;WO-4;WO-5;WO-6;WO-7;N-MU-MO-1;N-MU-MO-2
1b11f=;HIRAGANA_LETTER_ARCHAIC_WU
1b120=KATAKANA_LETTER_ARCHAIC_;YI;YE;WU
1b150=HIRAGANA_LETTER_SMALL_;WI;WE;WO
1b164=KATAKANA_LETTER_SMALL_;WI;WE;WO;N
1bc00=DUPLOYAN_LETTER_;H;X;P;T;F;K;L;B;D;V;G;R;P_N;D_S;F_N;K_M;R_S;TH;SLOAN_DH;DH;KK;SLOAN_J;HL;LH
RH;M;N;J;S;M_N;N_M;J_M;S_J;M_WITH_DOT;N_WITH_DOT;J_WITH_DOT;J_WITH_DOTS_INSIDE_AND_ABOVE;S_WITH_DOT
S_WITH_DOT_BELOW;M_S;N_S;J_S;S_S;M_N_S;N_M_S;J_M_S;S_J_S;J_S_WITH_DOT;J_N;J_N_S;S_T;S_T_R;S_P;S_P_R
T_S;T_R_S;W;WH;W_R;S_N;S_M;K_R_S;G_R_S;S_K;S_K_R;A;SLOAN_OW;OA;O;AOU;I;E;IE;SHORT_I;UI;EE;SLOAN_EH
ROMANIAN_I;SLOAN_EE;LONG_I;YE;U;EU;XW;U_N;LONG_U;ROMANIAN_U;UH;SLOAN_U;OOH;OW;OU;WA;WO;WI;WEI;WOW
NASAL_U;NASAL_O;NASAL_I;NASAL_A;PERNIN_AN;PERNIN_AM;SLOAN_EN;SLOAN_AN;SLOAN_ON;VOCALIC_M
1bc70=DUPLOYAN_AFFIX_;LEFT_HORIZONTAL_SECANT;MID_HORIZONTAL_SECANT;RIGHT_HORIZONTAL_SECANT
LOW_VERTICAL_SECANT;MID_VERTICAL_SECANT;HIGH_VERTICAL_SECANT
1bc76=DUPLOYAN_AFFIX_ATTACHED_;SECANT;LEFT-TO-RIGHT_SECANT;TANGENT;TAIL;E_HOOK;I_HOOK;TANGENT_HOOK
1bc80=DUPLOYAN_AFFIX_HIGH_;ACUTE;TIGHT_ACUTE;GRAVE;LONG_GRAVE;DOT;CIRCLE;LINE;WAVE;VERTICAL
1bc90=DUPLOYAN_AFFIX_LOW_;ACUTE;TIGHT_ACUTE;GRAVE;LONG_GRAVE;DOT;CIRCLE;LINE;WAVE;VERTICAL;ARROW
1bc9c=DUPLOYAN_;SIGN_O_WITH_CROSS;THICK_LETTER_SELECTOR;DOUBLE_MARK;PUNCTUATION_CHINOOK_FULL_STOP
1bca0=SHORTHAND_FORMAT_;LETTER_OVERLAP;CONTINUING_OVERLAP;DOWN_STEP;UP_STEP"

end ShaderShrink.Text.NameTable
