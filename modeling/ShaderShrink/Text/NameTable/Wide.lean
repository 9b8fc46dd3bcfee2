/-!
# Names of wide characters

The syllables and signs of the scripts of East Asia, and forms of presentation.

A row begins with a code point in base sixteen and with what some names begin with; the ends of these
names follow, for one code point after the other.  A low line stands for a blank.
-/

namespace ShaderShrink.Text.NameTable

/-- The names of the other characters with at most four digits in base sixteen. -/
def wide : String :=
  "3000=IDEOGRAPHIC_;SPACE;COMMA;FULL_STOP;3003=;DITTO_MARK;JAPANESE_INDUSTRIAL_STANDARD_SYMBOL
3005=IDEOGRAPHIC_;ITERATION_MARK;CLOSING_MARK;NUMBER_ZERO
3008=;LEFT_ANGLE_BRACKET;RIGHT_ANGLE_BRACKET;LEFT_DOUBLE_ANGLE_BRACKET;RIGHT_DOUBLE_ANGLE_BRACKET
LEFT_CORNER_BRACKET;300d=;RIGHT_CORNER_BRACKET;LEFT_WHITE_CORNER_BRACKET;RIGHT_WHITE_CORNER_BRACKET
LEFT_BLACK_LENTICULAR_BRACKET;RIGHT_BLACK_LENTICULAR_BRACKET
3012=;POSTAL_MARK;GETA_MARK;LEFT_TORTOISE_SHELL_BRACKET;RIGHT_TORTOISE_SHELL_BRACKET
LEFT_WHITE_LENTICULAR_BRACKET;3017=;RIGHT_WHITE_LENTICULAR_BRACKET;LEFT_WHITE_TORTOISE_SHELL_BRACKET
RIGHT_WHITE_TORTOISE_SHELL_BRACKET;LEFT_WHITE_SQUARE_BRACKET;RIGHT_WHITE_SQUARE_BRACKET
301c=;WAVE_DASH;REVERSED_DOUBLE_PRIME_QUOTATION_MARK;DOUBLE_PRIME_QUOTATION_MARK
LOW_DOUBLE_PRIME_QUOTATION_MARK;POSTAL_MARK_FACE
3021=HANGZHOU_NUMERAL_;ONE;TWO;THREE;FOUR;FIVE;SIX;SEVEN;EIGHT;NINE
302a=IDEOGRAPHIC_;LEVEL_TONE_MARK;RISING_TONE_MARK;DEPARTING_TONE_MARK;ENTERING_TONE_MARK
302e=HANGUL_;SINGLE_DOT_TONE_MARK;DOUBLE_DOT_TONE_MARK;3030=;WAVY_DASH
3031=VERTICAL_KANA_REPEAT_;MARK;WITH_VOICED_SOUND_MARK;MARK_UPPER_HALF
WITH_VOICED_SOUND_MARK_UPPER_HALF;MARK_LOWER_HALF;3036=;CIRCLED_POSTAL_MARK
IDEOGRAPHIC_TELEGRAPH_LINE_FEED_SEPARATOR_SYMBOL
3038=HANGZHOU_NUMERAL_;TEN;TWENTY;THIRTY;303b=;VERTICAL_IDEOGRAPHIC_ITERATION_MARK;MASU_MARK
PART_ALTERNATION_MARK;303e=IDEOGRAPHIC_;VARIATION_INDICATOR;HALF_FILL_SPACE
3041=HIRAGANA_LETTER_;SMALL_A;A;SMALL_I;I;SMALL_U;U;SMALL_E;E;SMALL_O;O;KA;GA;KI;GI;KU;GU;KE;GE;KO
GO;SA;ZA;SI;ZI;SU;ZU;SE;ZE;SO;ZO;TA;DA;TI;DI;SMALL_TU;TU;DU;TE;DE;TO;DO;NA;NI;NU;NE;NO;HA;BA;PA;HI
BI;PI;HU;BU;PU;HE;BE;PE;HO;BO;PO;MA;MI;MU;ME;MO;SMALL_YA;YA;SMALL_YU;YU;SMALL_YO;YO;RA;RI;RU;RE;RO
SMALL_WA;WA;WI;WE;WO;N;VU;SMALL_KA;SMALL_KE
3099=COMBINING_KATAKANA-HIRAGANA_;VOICED_SOUND_MARK;SEMI-VOICED_SOUND_MARK
309b=KATAKANA-HIRAGANA_;VOICED_SOUND_MARK;SEMI-VOICED_SOUND_MARK
309d=HIRAGANA_;ITERATION_MARK;VOICED_ITERATION_MARK;DIGRAPH_YORI
30a0=;KATAKANA-HIRAGANA_DOUBLE_HYPHEN;30a1=KATAKANA_LETTER_;SMALL_A;A;SMALL_I;I;SMALL_U;U;SMALL_E;E
SMALL_O;O;KA;GA;KI;GI;KU;GU;KE;GE;KO;GO;SA;ZA;SI;ZI;SU;ZU;SE;ZE;SO;ZO;TA;DA;TI;DI;SMALL_TU;TU;DU;TE
DE;TO;DO;NA;NI;NU;NE;NO;HA;BA;PA;HI;BI;PI;HU;BU;PU;HE;BE;PE;HO;BO;PO;MA;MI;MU;ME;MO;SMALL_YA;YA
SMALL_YU;YU;SMALL_YO;YO;RA;RI;RU;RE;RO;SMALL_WA;WA;WI;WE;WO;N;VU;SMALL_KA;SMALL_KE;VA;VI;VE;VO
30fb=;KATAKANA_MIDDLE_DOT;KATAKANA-HIRAGANA_PROLONGED_SOUND_MARK
30fd=KATAKANA_;ITERATION_MARK;VOICED_ITERATION_MARK;DIGRAPH_KOTO
3105=BOPOMOFO_LETTER_;B;P;M;F;D;T;N;L;G;K;H;J;Q;X;ZH;CH;SH;R;Z;C;S;A;O;E;EH;AI;EI;AU;OU;AN;EN;ANG
ENG;ER;I;U;IU;V;NG;GN;IH;O_WITH_DOT_ABOVE;NN
3131=HANGUL_LETTER_;KIYEOK;SSANGKIYEOK;KIYEOK-SIOS;NIEUN;NIEUN-CIEUC;NIEUN-HIEUH;TIKEUT;SSANGTIKEUT
RIEUL;RIEUL-KIYEOK;RIEUL-MIEUM;RIEUL-PIEUP;RIEUL-SIOS;RIEUL-THIEUTH;RIEUL-PHIEUPH;RIEUL-HIEUH;MIEUM
PIEUP;SSANGPIEUP;PIEUP-SIOS;SIOS;SSANGSIOS;IEUNG;CIEUC;SSANGCIEUC;CHIEUCH;KHIEUKH;THIEUTH;PHIEUPH
HIEUH;A;AE;YA;YAE;EO;E;YEO;YE;O;WA;WAE;OE;YO;U;WEO;WE;WI;YU;EU;YI;I
3164=;HANGUL_FILLER;3165=HANGUL_LETTER_;SSANGNIEUN;NIEUN-TIKEUT;NIEUN-SIOS;NIEUN-PANSIOS
RIEUL-KIYEOK-SIOS;RIEUL-TIKEUT;RIEUL-PIEUP-SIOS;RIEUL-PANSIOS;RIEUL-YEORINHIEUH;MIEUM-PIEUP
MIEUM-SIOS;MIEUM-PANSIOS;KAPYEOUNMIEUM;PIEUP-KIYEOK;PIEUP-TIKEUT;PIEUP-SIOS-KIYEOK;PIEUP-SIOS-TIKEUT
PIEUP-CIEUC;PIEUP-THIEUTH;KAPYEOUNPIEUP;KAPYEOUNSSANGPIEUP;SIOS-KIYEOK;SIOS-NIEUN;SIOS-TIKEUT
SIOS-PIEUP;SIOS-CIEUC;PANSIOS;SSANGIEUNG;YESIEUNG;YESIEUNG-SIOS;YESIEUNG-PANSIOS;KAPYEOUNPHIEUPH
SSANGHIEUH;YEORINHIEUH;YO-YA;YO-YAE;YO-I;YU-YEO;YU-YE;YU-I;ARAEA;ARAEAE
3190=IDEOGRAPHIC_ANNOTATION_;LINKING_MARK;REVERSE_MARK;ONE_MARK;TWO_MARK;THREE_MARK;FOUR_MARK
TOP_MARK;MIDDLE_MARK;BOTTOM_MARK;FIRST_MARK;SECOND_MARK;THIRD_MARK;FOURTH_MARK;HEAVEN_MARK
EARTH_MARK;MAN_MARK;31a0=BOPOMOFO_LETTER_;BU;ZI;JI;GU;EE;ENN;OO;ONN;IR;ANN;INN;UNN;IM;NGG;AINN;AUNN
AM;OM;ONG;INNN;31b4=BOPOMOFO_FINAL_LETTER_;P;T;K;H
31b8=BOPOMOFO_;LETTER_GH;LETTER_LH;LETTER_ZY;FINAL_LETTER_G
31bc=BOPOMOFO_LETTER_;GW;KW;OE;AH;31c0=CJK_STROKE_;T;WG;XG;BXG;SW;HZZ;HZG;HP;HZWG;SZWG;HZT;HZZP;HPWG
HZW;HZZZ;N;H;S;P;SP;D;HZ;HG;SZ;SWZ;ST;SG;PD;PZ;TN;SZZ;SWG;HXWG;HZZZG;PG;Q
31f0=KATAKANA_LETTER_SMALL_;KU;SI;SU;TO;NU;HA;HI;HU;HE;HO;MU;RA;RI;RU;RE;RO
3200=PARENTHESIZED_HANGUL_;KIYEOK;NIEUN;TIKEUT;RIEUL;MIEUM;PIEUP;SIOS;IEUNG;CIEUC;CHIEUCH;KHIEUKH
THIEUTH;PHIEUPH;HIEUH;KIYEOK_A;NIEUN_A;TIKEUT_A;RIEUL_A;MIEUM_A;PIEUP_A;SIOS_A;IEUNG_A;CIEUC_A
CHIEUCH_A;KHIEUKH_A;THIEUTH_A;PHIEUPH_A;HIEUH_A;CIEUC_U
321d=PARENTHESIZED_KOREAN_CHARACTER_;OJEON;O_HU
3220=PARENTHESIZED_IDEOGRAPH_;ONE;TWO;THREE;FOUR;FIVE;SIX;SEVEN;EIGHT;NINE;TEN;MOON;FIRE;WATER;WOOD
METAL;EARTH;SUN;STOCK;HAVE;SOCIETY;NAME;SPECIAL;FINANCIAL;CONGRATULATION;LABOR;REPRESENT;CALL;STUDY
SUPERVISE;ENTERPRISE;RESOURCE;ALLIANCE;FESTIVAL;REST;SELF;REACH
3244=CIRCLED_IDEOGRAPH_;QUESTION;KINDERGARTEN;SCHOOL;KOTO
3248=CIRCLED_NUMBER_;TEN_ON_BLACK_SQUARE;TWENTY_ON_BLACK_SQUARE;THIRTY_ON_BLACK_SQUARE
FORTY_ON_BLACK_SQUARE;FIFTY_ON_BLACK_SQUARE;SIXTY_ON_BLACK_SQUARE;SEVENTY_ON_BLACK_SQUARE
EIGHTY_ON_BLACK_SQUARE;3250=;PARTNERSHIP_SIGN
3251=CIRCLED_NUMBER_TWENTY_;ONE;TWO;THREE;FOUR;FIVE;SIX;SEVEN;EIGHT;NINE
325a=;CIRCLED_NUMBER_THIRTY;325b=CIRCLED_NUMBER_THIRTY_;ONE;TWO;THREE;FOUR;FIVE
3260=CIRCLED_HANGUL_;KIYEOK;NIEUN;TIKEUT;RIEUL;MIEUM;PIEUP;SIOS;IEUNG;CIEUC;CHIEUCH;KHIEUKH;THIEUTH
PHIEUPH;HIEUH;KIYEOK_A;NIEUN_A;TIKEUT_A;RIEUL_A;MIEUM_A;PIEUP_A;SIOS_A;IEUNG_A;CIEUC_A;CHIEUCH_A
KHIEUKH_A;THIEUTH_A;PHIEUPH_A;HIEUH_A
327c=CIRCLED_KOREAN_CHARACTER_;CHAMKO;JUEUI;327e=;CIRCLED_HANGUL_IEUNG_U;KOREAN_STANDARD_SYMBOL
3280=CIRCLED_IDEOGRAPH_;ONE;TWO;THREE;FOUR;FIVE;SIX;SEVEN;EIGHT;NINE;TEN;MOON;FIRE;WATER;WOOD;METAL
EARTH;SUN;STOCK;HAVE;SOCIETY;NAME;SPECIAL;FINANCIAL;CONGRATULATION;LABOR;SECRET;MALE;FEMALE;SUITABLE
EXCELLENT;PRINT;ATTENTION;ITEM;REST;COPY;CORRECT;HIGH;CENTRE;LOW;LEFT;RIGHT;MEDICINE;RELIGION;STUDY
SUPERVISE;ENTERPRISE;RESOURCE;ALLIANCE;NIGHT
32b1=CIRCLED_NUMBER_;THIRTY_SIX;THIRTY_SEVEN;THIRTY_EIGHT;THIRTY_NINE;FORTY
32b6=CIRCLED_NUMBER_FORTY_;ONE;TWO;THREE;FOUR;FIVE;SIX;SEVEN;EIGHT;NINE
32bf=;CIRCLED_NUMBER_FIFTY
32c0=IDEOGRAPHIC_TELEGRAPH_SYMBOL_FOR_;JANUARY;FEBRUARY;MARCH;APRIL;MAY;JUNE;JULY;AUGUST;SEPTEMBER
OCTOBER;NOVEMBER;DECEMBER;32cc=SQUARE_;HG;ERG;EV;32cf=;LIMITED_LIABILITY_SIGN
32d0=CIRCLED_KATAKANA_;A;I;U;E;O;KA;KI;KU;KE;KO;SA;SI;SU;SE;SO;TA;TI;TU;TE;TO;NA;NI;NU;NE;NO;HA;HI
HU;HE;HO;MA;MI;MU;ME;MO;YA;YU;YO;RA;RI;RU;RE;RO;WA;WI;WE;WO
32ff=SQUARE_;ERA_NAME_REIWA;APAATO;ARUHUA;ANPEA;AARU;ININGU;INTI;UON;ESUKUUDO;EEKAA;ONSU;OOMU;KAIRI
KARATTO;KARORII;GARON;GANMA;GIGA;GINII;KYURII;GIRUDAA;KIRO;KIROGURAMU;KIROMEETORU;KIROWATTO;GURAMU
GURAMUTON;KURUZEIRO;KUROONE;KEESU;KORUNA;KOOPO;SAIKURU;SANTIIMU;SIRINGU;SENTI;SENTO;DAASU;DESI;DORU
TON;NANO;NOTTO;HAITU;PAASENTO;PAATU;BAARERU;PIASUTORU;PIKURU;PIKO;BIRU;HUARADDO;HUIITO;BUSSYERU
HURAN;HEKUTAARU;PESO;PENIHI;HERUTU;PENSU;PEEZI;BEETA;POINTO;BORUTO;HON;PONDO;HOORU;HOON;MAIKURO
MAIRU;MAHHA;MARUKU;MANSYON;MIKURON;MIRI;MIRIBAARU;MEGA;MEGATON;MEETORU;YAADO;YAARU;YUAN;RITTORU;RIRA
RUPII;RUUBURU;REMU;RENTOGEN;WATTO
3358=IDEOGRAPHIC_TELEGRAPH_SYMBOL_FOR_HOUR_;ZERO;ONE;TWO;THREE;FOUR;FIVE;SIX;SEVEN;EIGHT;NINE;TEN
ELEVEN;TWELVE;THIRTEEN;FOURTEEN;FIFTEEN;SIXTEEN;SEVENTEEN;EIGHTEEN;NINETEEN;TWENTY;TWENTY-ONE
TWENTY-TWO;TWENTY-THREE;TWENTY-FOUR;3371=SQUARE_;HPA;DA;AU;BAR;OV;PC;DM;DM_SQUARED;DM_CUBED;IU
337b=SQUARE_ERA_NAME_;HEISEI;SYOUWA;TAISYOU;MEIZI
337f=SQUARE_;CORPORATION;PA_AMPS;NA;MU_A;MA;KA;KB;MB;GB;CAL;KCAL;PF;NF;MU_F;MU_G;MG;KG;HZ;KHZ;MHZ
GHZ;THZ;MU_L;ML;DL;KL;FM;NM;MU_M;MM;CM;KM;MM_SQUARED;CM_SQUARED;M_SQUARED;KM_SQUARED;MM_CUBED
CM_CUBED;M_CUBED;KM_CUBED;M_OVER_S;M_OVER_S_SQUARED;PA;KPA;MPA;GPA;RAD;RAD_OVER_S;RAD_OVER_S_SQUARED
PS;NS;MU_S;MS;PV;NV;MU_V;MV;KV;MV_MEGA;PW;NW;MU_W;MW;KW;MW_MEGA;K_OHM;M_OHM;AM;BQ;CC;CD;C_OVER_KG;CO
DB;GY;HA;HP;IN;KK;KM_CAPITAL;KT;LM;LN;LOG;LX;MB_SMALL;MIL;MOL;PH;PM;PPM;PR;SR;SV;WB;V_OVER_M
A_OVER_M;33e0=IDEOGRAPHIC_TELEGRAPH_SYMBOL_FOR_DAY_;ONE;TWO;THREE;FOUR;FIVE;SIX;SEVEN;EIGHT;NINE;TEN
ELEVEN;TWELVE;THIRTEEN;FOURTEEN;FIFTEEN;SIXTEEN;SEVENTEEN;EIGHTEEN;NINETEEN;TWENTY;TWENTY-ONE
TWENTY-TWO;TWENTY-THREE;TWENTY-FOUR;TWENTY-FIVE;TWENTY-SIX;TWENTY-SEVEN;TWENTY-EIGHT;TWENTY-NINE
THIRTY;THIRTY-ONE;33ff=;SQUARE_GAL;4dc0=HEXAGRAM_FOR_;THE_CREATIVE_HEAVEN;THE_RECEPTIVE_EARTH
DIFFICULTY_AT_THE_BEGINNING;YOUTHFUL_FOLLY;WAITING;CONFLICT;THE_ARMY;HOLDING_TOGETHER;SMALL_TAMING
TREADING;PEACE;STANDSTILL;FELLOWSHIP;GREAT_POSSESSION;MODESTY;ENTHUSIASM;FOLLOWING
WORK_ON_THE_DECAYED;APPROACH;CONTEMPLATION;BITING_THROUGH;GRACE;SPLITTING_APART;RETURN;INNOCENCE
GREAT_TAMING;MOUTH_CORNERS;GREAT_PREPONDERANCE;THE_ABYSMAL_WATER;THE_CLINGING_FIRE;INFLUENCE
DURATION;RETREAT;GREAT_POWER;PROGRESS;DARKENING_OF_THE_LIGHT;THE_FAMILY;OPPOSITION;OBSTRUCTION
DELIVERANCE;DECREASE;INCREASE;BREAKTHROUGH;COMING_TO_MEET;GATHERING_TOGETHER;PUSHING_UPWARD
OPPRESSION;THE_WELL;REVOLUTION;THE_CAULDRON;THE_AROUSING_THUNDER;THE_KEEPING_STILL_MOUNTAIN
DEVELOPMENT;THE_MARRYING_MAIDEN;ABUNDANCE;THE_WANDERER;THE_GENTLE_WIND;THE_JOYOUS_LAKE;DISPERSION
LIMITATION;INNER_TRUTH;SMALL_PREPONDERANCE;AFTER_COMPLETION;BEFORE_COMPLETION
a000=YI_SYLLABLE_;IT;IX;I;IP;IET;IEX;IE;IEP;AT;AX;A;AP;UOX;UO;UOP;OT;OX;O;OP;EX;E;WU;BIT;BIX;BI;BIP
BIET;BIEX;BIE;BIEP;BAT;BAX;BA;BAP;BUOX;BUO;BUOP;BOT;BOX;BO;BOP;BEX;BE;BEP;BUT;BUX;BU;BUP;BURX;BUR
BYT;BYX;BY;BYP;BYRX;BYR;PIT;PIX;PI;PIP;PIEX;PIE;PIEP;PAT;PAX;PA;PAP;PUOX;PUO;PUOP;POT;POX;PO;POP;PUT
PUX;PU;PUP;PURX;PUR;PYT;PYX;PY;PYP;PYRX;PYR;BBIT;BBIX;BBI;BBIP;BBIET;BBIEX;BBIE;BBIEP;BBAT;BBAX;BBA
BBAP;BBUOX;BBUO;BBUOP;BBOT;BBOX;BBO;BBOP;BBEX;BBE;BBEP;BBUT;BBUX;BBU;BBUP;BBURX;BBUR;BBYT;BBYX;BBY
BBYP;NBIT;NBIX;NBI;NBIP;NBIEX;NBIE;NBIEP;NBAT;NBAX;NBA;NBAP;NBOT;NBOX;NBO;NBOP;NBUT;NBUX;NBU;NBUP
NBURX;NBUR;NBYT;NBYX;NBY;NBYP;NBYRX;NBYR;HMIT;HMIX;HMI;HMIP;HMIEX;HMIE;HMIEP;HMAT;HMAX;HMA;HMAP
HMUOX;HMUO;HMUOP;HMOT;HMOX;HMO;HMOP;HMUT;HMUX;HMU;HMUP;HMURX;HMUR;HMYX;HMY;HMYP;HMYRX;HMYR;MIT;MIX
MI;MIP;MIEX;MIE;MIEP;MAT;MAX;MA;MAP;MUOT;MUOX;MUO;MUOP;MOT;MOX;MO;MOP;MEX;ME;MUT;MUX;MU;MUP;MURX;MUR
MYT;MYX;MY;MYP;FIT;FIX;FI;FIP;FAT;FAX;FA;FAP;FOX;FO;FOP;FUT;FUX;FU;FUP;FURX;FUR;FYT;FYX;FY;FYP;VIT
VIX;VI;VIP;VIET;VIEX;VIE;VIEP;VAT;VAX;VA;VAP;VOT;VOX;VO;VOP;VEX;VEP;VUT;VUX;VU;VUP;VURX;VUR;VYT;VYX
VY;VYP;VYRX;VYR;DIT;DIX;DI;DIP;DIEX;DIE;DIEP;DAT;DAX;DA;DAP;DUOX;DUO;DOT;DOX;DO;DOP;DEX;DE;DEP;DUT
DUX;DU;DUP;DURX;DUR;TIT;TIX;TI;TIP;TIEX;TIE;TIEP;TAT;TAX;TA;TAP;TUOT;TUOX;TUO;TUOP;TOT;TOX;TO;TOP
TEX;TE;TEP;TUT;TUX;TU;TUP;TURX;TUR;DDIT;DDIX;DDI;DDIP;DDIEX;DDIE;DDIEP;DDAT;DDAX;DDA;DDAP;DDUOX;DDUO
DDUOP;DDOT;DDOX;DDO;DDOP;DDEX;DDE;DDEP;DDUT;DDUX;DDU;DDUP;DDURX;DDUR;NDIT;NDIX;NDI;NDIP;NDIEX;NDIE
NDAT;NDAX;NDA;NDAP;NDOT;NDOX;NDO;NDOP;NDEX;NDE;NDEP;NDUT;NDUX;NDU;NDUP;NDURX;NDUR;HNIT;HNIX;HNI;HNIP
HNIET;HNIEX;HNIE;HNIEP;HNAT;HNAX;HNA;HNAP;HNUOX;HNUO;HNOT;HNOX;HNOP;HNEX;HNE;HNEP;HNUT;NIT;NIX;NI
NIP;NIEX;NIE;NIEP;NAX;NA;NAP;NUOX;NUO;NUOP;NOT;NOX;NO;NOP;NEX;NE;NEP;NUT;NUX;NU;NUP;NURX;NUR;HLIT
HLIX;HLI;HLIP;HLIEX;HLIE;HLIEP;HLAT;HLAX;HLA;HLAP;HLUOX;HLUO;HLUOP;HLOX;HLO;HLOP;HLEX;HLE;HLEP;HLUT
HLUX;HLU;HLUP;HLURX;HLUR;HLYT;HLYX;HLY;HLYP;HLYRX;HLYR;LIT;LIX;LI;LIP;LIET;LIEX;LIE;LIEP;LAT;LAX;LA
LAP;LUOT;LUOX;LUO;LUOP;LOT;LOX;LO;LOP;LEX;LE;LEP;LUT;LUX;LU;LUP;LURX;LUR;LYT;LYX;LY;LYP;LYRX;LYR;GIT
GIX;GI;GIP;GIET;GIEX;GIE;GIEP;GAT;GAX;GA;GAP;GUOT;GUOX;GUO;GUOP;GOT;GOX;GO;GOP;GET;GEX;GE;GEP;GUT
GUX;GU;GUP;GURX;GUR;KIT;KIX;KI;KIP;KIEX;KIE;KIEP;KAT;KAX;KA;KAP;KUOX;KUO;KUOP;KOT;KOX;KO;KOP;KET;KEX
KE;KEP;KUT;KUX;KU;KUP;KURX;KUR;GGIT;GGIX;GGI;GGIEX;GGIE;GGIEP;GGAT;GGAX;GGA;GGAP;GGUOT;GGUOX;GGUO
GGUOP;GGOT;GGOX;GGO;GGOP;GGET;GGEX;GGE;GGEP;GGUT;GGUX;GGU;GGUP;GGURX;GGUR;MGIEX;MGIE;MGAT;MGAX;MGA
MGAP;MGUOX;MGUO;MGUOP;MGOT;MGOX;MGO;MGOP;MGEX;MGE;MGEP;MGUT;MGUX;MGU;MGUP;MGURX;MGUR;HXIT;HXIX;HXI
HXIP;HXIET;HXIEX;HXIE;HXIEP;HXAT;HXAX;HXA;HXAP;HXUOT;HXUOX;HXUO;HXUOP;HXOT;HXOX;HXO;HXOP;HXEX;HXE
HXEP;NGIEX;NGIE;NGIEP;NGAT;NGAX;NGA;NGAP;NGUOT;NGUOX;NGUO;NGOT;NGOX;NGO;NGOP;NGEX;NGE;NGEP;HIT;HIEX
HIE;HAT;HAX;HA;HAP;HUOT;HUOX;HUO;HUOP;HOT;HOX;HO;HOP;HEX;HE;HEP;WAT;WAX;WA;WAP;WUOX;WUO;WUOP;WOX;WO
WOP;WEX;WE;WEP;ZIT;ZIX;ZI;ZIP;ZIEX;ZIE;ZIEP;ZAT;ZAX;ZA;ZAP;ZUOX;ZUO;ZUOP;ZOT;ZOX;ZO;ZOP;ZEX;ZE;ZEP
ZUT;ZUX;ZU;ZUP;ZURX;ZUR;ZYT;ZYX;ZY;ZYP;ZYRX;ZYR;CIT;CIX;CI;CIP;CIET;CIEX;CIE;CIEP;CAT;CAX;CA;CAP
CUOX;CUO;CUOP;COT;COX;CO;COP;CEX;CE;CEP;CUT;CUX;CU;CUP;CURX;CUR;CYT;CYX;CY;CYP;CYRX;CYR;ZZIT;ZZIX
ZZI;ZZIP;ZZIET;ZZIEX;ZZIE;ZZIEP;ZZAT;ZZAX;ZZA;ZZAP;ZZOX;ZZO;ZZOP;ZZEX;ZZE;ZZEP;ZZUX;ZZU;ZZUP;ZZURX
ZZUR;ZZYT;ZZYX;ZZY;ZZYP;ZZYRX;ZZYR;NZIT;NZIX;NZI;NZIP;NZIEX;NZIE;NZIEP;NZAT;NZAX;NZA;NZAP;NZUOX;NZUO
NZOX;NZOP;NZEX;NZE;NZUX;NZU;NZUP;NZURX;NZUR;NZYT;NZYX;NZY;NZYP;NZYRX;NZYR;SIT;SIX;SI;SIP;SIEX;SIE
SIEP;SAT;SAX;SA;SAP;SUOX;SUO;SUOP;SOT;SOX;SO;SOP;SEX;SE;SEP;SUT;SUX;SU;SUP;SURX;SUR;SYT;SYX;SY;SYP
SYRX;SYR;SSIT;SSIX;SSI;SSIP;SSIEX;SSIE;SSIEP;SSAT;SSAX;SSA;SSAP;SSOT;SSOX;SSO;SSOP;SSEX;SSE;SSEP
SSUT;SSUX;SSU;SSUP;SSYT;SSYX;SSY;SSYP;SSYRX;SSYR;ZHAT;ZHAX;ZHA;ZHAP;ZHUOX;ZHUO;ZHUOP;ZHOT;ZHOX;ZHO
ZHOP;ZHET;ZHEX;ZHE;ZHEP;ZHUT;ZHUX;ZHU;ZHUP;ZHURX;ZHUR;ZHYT;ZHYX;ZHY;ZHYP;ZHYRX;ZHYR;CHAT;CHAX;CHA
CHAP;CHUOT;CHUOX;CHUO;CHUOP;CHOT;CHOX;CHO;CHOP;CHET;CHEX;CHE;CHEP;CHUX;CHU;CHUP;CHURX;CHUR;CHYT;CHYX
CHY;CHYP;CHYRX;CHYR;RRAX;RRA;RRUOX;RRUO;RROT;RROX;RRO;RROP;RRET;RREX;RRE;RREP;RRUT;RRUX;RRU;RRUP
RRURX;RRUR;RRYT;RRYX;RRY;RRYP;RRYRX;RRYR;NRAT;NRAX;NRA;NRAP;NROX;NRO;NROP;NRET;NREX;NRE;NREP;NRUT
NRUX;NRU;NRUP;NRURX;NRUR;NRYT;NRYX;NRY;NRYP;NRYRX;NRYR;SHAT;SHAX;SHA;SHAP;SHUOX;SHUO;SHUOP;SHOT;SHOX
SHO;SHOP;SHET;SHEX;SHE;SHEP;SHUT;SHUX;SHU;SHUP;SHURX;SHUR;SHYT;SHYX;SHY;SHYP;SHYRX;SHYR;RAT;RAX;RA
RAP;RUOX;RUO;RUOP;ROT;ROX;RO;ROP;REX;RE;REP;RUT;RUX;RU;RUP;RURX;RUR;RYT;RYX;RY;RYP;RYRX;RYR;JIT;JIX
JI;JIP;JIET;JIEX;JIE;JIEP;JUOT;JUOX;JUO;JUOP;JOT;JOX;JO;JOP;JUT;JUX;JU;JUP;JURX;JUR;JYT;JYX;JY;JYP
JYRX;JYR;QIT;QIX;QI;QIP;QIET;QIEX;QIE;QIEP;QUOT;QUOX;QUO;QUOP;QOT;QOX;QO;QOP;QUT;QUX;QU;QUP;QURX;QUR
QYT;QYX;QY;QYP;QYRX;QYR;JJIT;JJIX;JJI;JJIP;JJIET;JJIEX;JJIE;JJIEP;JJUOX;JJUO;JJUOP;JJOT;JJOX;JJO
JJOP;JJUT;JJUX;JJU;JJUP;JJURX;JJUR;JJYT;JJYX;JJY;JJYP;NJIT;NJIX;NJI;NJIP;NJIET;NJIEX;NJIE;NJIEP
NJUOX;NJUO;NJOT;NJOX;NJO;NJOP;NJUX;NJU;NJUP;NJURX;NJUR;NJYT;NJYX;NJY;NJYP;NJYRX;NJYR;NYIT;NYIX;NYI
NYIP;NYIET;NYIEX;NYIE;NYIEP;NYUOX;NYUO;NYUOP;NYOT;NYOX;NYO;NYOP;NYUT;NYUX;NYU;NYUP;XIT;XIX;XI;XIP
XIET;XIEX;XIE;XIEP;XUOX;XUO;XOT;XOX;XO;XOP;XYT;XYX;XY;XYP;XYRX;XYR;YIT;YIX;YI;YIP;YIET;YIEX;YIE;YIEP
YUOT;YUOX;YUO;YUOP;YOT;YOX;YO;YOP;YUT;YUX;YU;YUP;YURX;YUR;YYT;YYX;YY;YYP;YYRX;YYR
a490=YI_RADICAL_;QOT;LI;KIT;NYIP;CYP;SSI;GGOP;GEP;MI;HXIT;LYR;BBUT;MOP;YO;PUT;HXUO;TAT;GA;ZUP;CYT
DDUR;BUR;GGUO;NYOP;TU;OP;JJUT;ZOT;PYT;HMO;YIT;VUR;SHY;VEP;ZA;JO;NZUP;JJY;GOT;JJIE;WO;DU;SHUR;LIE;CY
CUOP;CIP;HXOP;SHAT;ZUR;SHOP;CHE;ZZIET;NBIE;KE
a4d0=LISU_LETTER_;BA;PA;PHA;DA;TA;THA;GA;KA;KHA;JA;CA;CHA;DZA;TSA;TSHA;MA;NA;LA;SA;ZHA;ZA;NGA;HA;XA
HHA;FA;WA;SHA;YA;GHA;A;AE;E;EU;I;O;U;UE;UH;OE;TONE_MYA_TI;TONE_NA_PO
a4fa=LISU_LETTER_TONE_MYA_;CYA;BO;NA;JEU
a4fe=LISU_PUNCTUATION_;COMMA;FULL_STOP;a500=VAI_SYLLABLE_;EE;EEN;HEE;WEE;WEEN;PEE;BHEE;BEE;MBEE;KPEE
MGBEE;GBEE;FEE;VEE;TEE;THEE;DHEE;DHHEE;LEE;REE;DEE;NDEE;SEE;SHEE;ZEE;ZHEE;CEE;JEE;NJEE;YEE;KEE;NGGEE
GEE;MEE;NEE;NYEE;I;IN;HI;HIN;WI;WIN;PI;BHI;BI;MBI;KPI;MGBI;GBI;FI;VI;TI;THI;DHI;DHHI;LI;RI;DI;NDI;SI
SHI;ZI;ZHI;CI;JI;NJI;YI;KI;NGGI;GI;MI;NI;NYI;A;AN;NGAN;HA;HAN;WA;WAN;PA;BHA;BA;MBA;KPA;KPAN;MGBA;GBA
FA;VA;TA;THA;DHA;DHHA;LA;RA;DA;NDA;SA;SHA;ZA;ZHA;CA;JA;NJA;YA;KA;KAN;NGGA;GA;MA;NA;NYA;OO;OON;HOO
WOO;WOON;POO;BHOO;BOO;MBOO;KPOO;MGBOO;GBOO;FOO;VOO;TOO;THOO;DHOO;DHHOO;LOO;ROO;DOO;NDOO;SOO;SHOO;ZOO
ZHOO;COO;JOO;NJOO;YOO;KOO;NGGOO;GOO;MOO;NOO;NYOO;U;UN;HU;HUN;WU;WUN;PU;BHU;BU;MBU;KPU;MGBU;GBU;FU;VU
TU;THU;DHU;DHHU;LU;RU;DU;NDU;SU;SHU;ZU;ZHU;CU;JU;NJU;YU;KU;NGGU;GU;MU;NU;NYU;O;ON;NGON;HO;HON;WO;WON
PO;BHO;BO;MBO;KPO;MGBO;GBO;GBON;FO;VO;TO;THO;DHO;DHHO;LO;RO;DO;NDO;SO;SHO;ZO;ZHO;CO;JO;NJO;YO;KO
NGGO;GO;MO;NO;NYO;E;EN;NGEN;HE;HEN;WE;WEN;PE;BHE;BE;MBE;KPE;KPEN;MGBE;GBE;GBEN;FE;VE;TE;THE;DHE;DHHE
LE;RE;DE;NDE;SE;SHE;ZE;ZHE;CE;JE;NJE;YE;KE;NGGE;NGGEN;GE;GEN;ME;NE;NYE;NG;LENGTHENER
a60d=VAI_;COMMA;FULL_STOP;QUESTION_MARK
a610=VAI_SYLLABLE_NDOLE_;FA;KA;SOO;a613=VAI_SYMBOL_;FEENG;KEENG;TING;NII;BANG;FAA;TAA;DANG;DOONG
KUNG;TONG;DO-O;JONG;a620=VAI_DIGIT_;ZERO;ONE;TWO;THREE;FOUR;FIVE;SIX;SEVEN;EIGHT;NINE
a62a=VAI_SYLLABLE_NDOLE_;MA;DO;a640=CYRILLIC_;CAPITAL_LETTER_ZEMLYA;SMALL_LETTER_ZEMLYA
CAPITAL_LETTER_DZELO;SMALL_LETTER_DZELO;CAPITAL_LETTER_REVERSED_DZE;SMALL_LETTER_REVERSED_DZE
CAPITAL_LETTER_IOTA;SMALL_LETTER_IOTA;CAPITAL_LETTER_DJERV;SMALL_LETTER_DJERV
CAPITAL_LETTER_MONOGRAPH_UK;SMALL_LETTER_MONOGRAPH_UK;CAPITAL_LETTER_BROAD_OMEGA
SMALL_LETTER_BROAD_OMEGA;CAPITAL_LETTER_NEUTRAL_YER;SMALL_LETTER_NEUTRAL_YER
CAPITAL_LETTER_YERU_WITH_BACK_YER;SMALL_LETTER_YERU_WITH_BACK_YER;CAPITAL_LETTER_IOTIFIED_YAT
SMALL_LETTER_IOTIFIED_YAT;CAPITAL_LETTER_REVERSED_YU;SMALL_LETTER_REVERSED_YU
CAPITAL_LETTER_IOTIFIED_A;SMALL_LETTER_IOTIFIED_A;CAPITAL_LETTER_CLOSED_LITTLE_YUS
SMALL_LETTER_CLOSED_LITTLE_YUS;CAPITAL_LETTER_BLENDED_YUS;SMALL_LETTER_BLENDED_YUS
CAPITAL_LETTER_IOTIFIED_CLOSED_LITTLE_YUS;SMALL_LETTER_IOTIFIED_CLOSED_LITTLE_YUS;CAPITAL_LETTER_YN
SMALL_LETTER_YN;CAPITAL_LETTER_REVERSED_TSE;SMALL_LETTER_REVERSED_TSE;CAPITAL_LETTER_SOFT_DE
SMALL_LETTER_SOFT_DE;CAPITAL_LETTER_SOFT_EL;SMALL_LETTER_SOFT_EL;CAPITAL_LETTER_SOFT_EM
SMALL_LETTER_SOFT_EM;CAPITAL_LETTER_MONOCULAR_O;SMALL_LETTER_MONOCULAR_O;CAPITAL_LETTER_BINOCULAR_O
SMALL_LETTER_BINOCULAR_O;CAPITAL_LETTER_DOUBLE_MONOCULAR_O;SMALL_LETTER_DOUBLE_MONOCULAR_O
LETTER_MULTIOCULAR_O;a66f=COMBINING_CYRILLIC_;VZMET;TEN_MILLIONS_SIGN;HUNDRED_MILLIONS_SIGN
THOUSAND_MILLIONS_SIGN;a673=;SLAVONIC_ASTERISK
a674=COMBINING_CYRILLIC_LETTER_;UKRAINIAN_IE;I;YI;U;HARD_SIGN;YERU;SOFT_SIGN;OMEGA
a67c=COMBINING_CYRILLIC_;KAVYKA;PAYEROK;a67e=CYRILLIC_;KAVYKA;PAYEROK;CAPITAL_LETTER_DWE
SMALL_LETTER_DWE;CAPITAL_LETTER_DZWE;SMALL_LETTER_DZWE;CAPITAL_LETTER_ZHWE;SMALL_LETTER_ZHWE
CAPITAL_LETTER_CCHE;SMALL_LETTER_CCHE;CAPITAL_LETTER_DZZE;SMALL_LETTER_DZZE
CAPITAL_LETTER_TE_WITH_MIDDLE_HOOK;SMALL_LETTER_TE_WITH_MIDDLE_HOOK;CAPITAL_LETTER_TWE
SMALL_LETTER_TWE;CAPITAL_LETTER_TSWE;SMALL_LETTER_TSWE;CAPITAL_LETTER_TSSE;SMALL_LETTER_TSSE
CAPITAL_LETTER_TCHE;SMALL_LETTER_TCHE;CAPITAL_LETTER_HWE;SMALL_LETTER_HWE;CAPITAL_LETTER_SHWE
SMALL_LETTER_SHWE;CAPITAL_LETTER_DOUBLE_O;SMALL_LETTER_DOUBLE_O;CAPITAL_LETTER_CROSSED_O
SMALL_LETTER_CROSSED_O;a69c=MODIFIER_LETTER_CYRILLIC_;HARD_SIGN;SOFT_SIGN
a69e=COMBINING_CYRILLIC_LETTER_;EF;IOTIFIED_E
a6a0=BAMUM_LETTER_;A;KA;U;KU;EE;REE;TAE;O;NYI;I;LA;PA;RII;RIEE;LEEEE;MEEEE;TAA;NDAA;NJAEM;M;SUU;MU
SHII;SI;SHEUX;SEUX;KYEE;KET;NUAE;NU;NJUAE;YOQ;SHU;YUQ;YA;NSHA;KEUX;PEUX;NJEE;NTEE;PUE;WUE;PEE;FEE;RU
LU;MI;NI;REUX;RAE;KEN;NGKWAEN;NGGA;NGA;SHO;PUAE;FU;FOM;WA;NA;LI;PI;LOQ;KO;MBEN;REN;MEN;MA;TI;KI;MO
MBAA;TET;KPA;TEN;NTUU;SAMBA;FAAMAE;KOVUU;KOGHOM
a6f0=BAMUM_COMBINING_MARK_;KOQNDON;TUKWENTIS;a6f2=BAMUM_;NJAEMLI;FULL_STOP;COLON;COMMA;SEMICOLON
QUESTION_MARK;a700=MODIFIER_LETTER_CHINESE_TONE_;YIN_PING;YANG_PING;YIN_SHANG;YANG_SHANG;YIN_QU
YANG_QU;YIN_RU;YANG_RU;a708=MODIFIER_LETTER_;EXTRA-HIGH_DOTTED_TONE_BAR;HIGH_DOTTED_TONE_BAR
MID_DOTTED_TONE_BAR;LOW_DOTTED_TONE_BAR;EXTRA-LOW_DOTTED_TONE_BAR
EXTRA-HIGH_DOTTED_LEFT-STEM_TONE_BAR;HIGH_DOTTED_LEFT-STEM_TONE_BAR;MID_DOTTED_LEFT-STEM_TONE_BAR
LOW_DOTTED_LEFT-STEM_TONE_BAR;EXTRA-LOW_DOTTED_LEFT-STEM_TONE_BAR;EXTRA-HIGH_LEFT-STEM_TONE_BAR
HIGH_LEFT-STEM_TONE_BAR;MID_LEFT-STEM_TONE_BAR;LOW_LEFT-STEM_TONE_BAR;EXTRA-LOW_LEFT-STEM_TONE_BAR
DOT_VERTICAL_BAR;DOT_SLASH;DOT_HORIZONTAL_BAR;LOWER_RIGHT_CORNER_ANGLE;RAISED_UP_ARROW
RAISED_DOWN_ARROW;RAISED_EXCLAMATION_MARK;RAISED_INVERTED_EXCLAMATION_MARK
LOW_INVERTED_EXCLAMATION_MARK;STRESS_AND_HIGH_TONE;STRESS_AND_LOW_TONE
a722=LATIN_;CAPITAL_LETTER_EGYPTOLOGICAL_ALEF;SMALL_LETTER_EGYPTOLOGICAL_ALEF
CAPITAL_LETTER_EGYPTOLOGICAL_AIN;SMALL_LETTER_EGYPTOLOGICAL_AIN;CAPITAL_LETTER_HENG
SMALL_LETTER_HENG;CAPITAL_LETTER_TZ;SMALL_LETTER_TZ;CAPITAL_LETTER_TRESILLO;SMALL_LETTER_TRESILLO
CAPITAL_LETTER_CUATRILLO;SMALL_LETTER_CUATRILLO;CAPITAL_LETTER_CUATRILLO_WITH_COMMA
SMALL_LETTER_CUATRILLO_WITH_COMMA;LETTER_SMALL_CAPITAL_F;LETTER_SMALL_CAPITAL_S;CAPITAL_LETTER_AA
SMALL_LETTER_AA;CAPITAL_LETTER_AO;SMALL_LETTER_AO;CAPITAL_LETTER_AU;SMALL_LETTER_AU
CAPITAL_LETTER_AV;SMALL_LETTER_AV;CAPITAL_LETTER_AV_WITH_HORIZONTAL_BAR
SMALL_LETTER_AV_WITH_HORIZONTAL_BAR;CAPITAL_LETTER_AY;SMALL_LETTER_AY
CAPITAL_LETTER_REVERSED_C_WITH_DOT;SMALL_LETTER_REVERSED_C_WITH_DOT;CAPITAL_LETTER_K_WITH_STROKE
SMALL_LETTER_K_WITH_STROKE;CAPITAL_LETTER_K_WITH_DIAGONAL_STROKE;SMALL_LETTER_K_WITH_DIAGONAL_STROKE
CAPITAL_LETTER_K_WITH_STROKE_AND_DIAGONAL_STROKE;SMALL_LETTER_K_WITH_STROKE_AND_DIAGONAL_STROKE
CAPITAL_LETTER_BROKEN_L;SMALL_LETTER_BROKEN_L;CAPITAL_LETTER_L_WITH_HIGH_STROKE
SMALL_LETTER_L_WITH_HIGH_STROKE;CAPITAL_LETTER_O_WITH_LONG_STROKE_OVERLAY
SMALL_LETTER_O_WITH_LONG_STROKE_OVERLAY;CAPITAL_LETTER_O_WITH_LOOP;SMALL_LETTER_O_WITH_LOOP
CAPITAL_LETTER_OO;SMALL_LETTER_OO;CAPITAL_LETTER_P_WITH_STROKE_THROUGH_DESCENDER
SMALL_LETTER_P_WITH_STROKE_THROUGH_DESCENDER;CAPITAL_LETTER_P_WITH_FLOURISH
SMALL_LETTER_P_WITH_FLOURISH;CAPITAL_LETTER_P_WITH_SQUIRREL_TAIL;SMALL_LETTER_P_WITH_SQUIRREL_TAIL
CAPITAL_LETTER_Q_WITH_STROKE_THROUGH_DESCENDER;SMALL_LETTER_Q_WITH_STROKE_THROUGH_DESCENDER
CAPITAL_LETTER_Q_WITH_DIAGONAL_STROKE;SMALL_LETTER_Q_WITH_DIAGONAL_STROKE;CAPITAL_LETTER_R_ROTUNDA
SMALL_LETTER_R_ROTUNDA;CAPITAL_LETTER_RUM_ROTUNDA;SMALL_LETTER_RUM_ROTUNDA
CAPITAL_LETTER_V_WITH_DIAGONAL_STROKE;SMALL_LETTER_V_WITH_DIAGONAL_STROKE;CAPITAL_LETTER_VY
SMALL_LETTER_VY;CAPITAL_LETTER_VISIGOTHIC_Z;SMALL_LETTER_VISIGOTHIC_Z
CAPITAL_LETTER_THORN_WITH_STROKE;SMALL_LETTER_THORN_WITH_STROKE
CAPITAL_LETTER_THORN_WITH_STROKE_THROUGH_DESCENDER;SMALL_LETTER_THORN_WITH_STROKE_THROUGH_DESCENDER
CAPITAL_LETTER_VEND;SMALL_LETTER_VEND;CAPITAL_LETTER_ET;SMALL_LETTER_ET;CAPITAL_LETTER_IS
SMALL_LETTER_IS;CAPITAL_LETTER_CON;SMALL_LETTER_CON;a770=;MODIFIER_LETTER_US
a771=LATIN_SMALL_LETTER_;DUM;LUM;MUM;NUM;RUM;a776=LATIN_;LETTER_SMALL_CAPITAL_RUM;SMALL_LETTER_TUM
SMALL_LETTER_UM;CAPITAL_LETTER_INSULAR_D;SMALL_LETTER_INSULAR_D;CAPITAL_LETTER_INSULAR_F
SMALL_LETTER_INSULAR_F;CAPITAL_LETTER_INSULAR_G;CAPITAL_LETTER_TURNED_INSULAR_G
SMALL_LETTER_TURNED_INSULAR_G;CAPITAL_LETTER_TURNED_L;SMALL_LETTER_TURNED_L;CAPITAL_LETTER_INSULAR_R
SMALL_LETTER_INSULAR_R;CAPITAL_LETTER_INSULAR_S;SMALL_LETTER_INSULAR_S;CAPITAL_LETTER_INSULAR_T
SMALL_LETTER_INSULAR_T;a788=MODIFIER_LETTER_;LOW_CIRCUMFLEX_ACCENT;COLON;SHORT_EQUALS_SIGN
a78b=LATIN_;CAPITAL_LETTER_SALTILLO;SMALL_LETTER_SALTILLO;CAPITAL_LETTER_TURNED_H
SMALL_LETTER_L_WITH_RETROFLEX_HOOK_AND_BELT;LETTER_SINOLOGICAL_DOT;CAPITAL_LETTER_N_WITH_DESCENDER
SMALL_LETTER_N_WITH_DESCENDER;CAPITAL_LETTER_C_WITH_BAR
a793=LATIN_SMALL_LETTER_;C_WITH_BAR;C_WITH_PALATAL_HOOK;H_WITH_PALATAL_HOOK
a796=LATIN_;CAPITAL_LETTER_B_WITH_FLOURISH;SMALL_LETTER_B_WITH_FLOURISH;CAPITAL_LETTER_F_WITH_STROKE
SMALL_LETTER_F_WITH_STROKE;CAPITAL_LETTER_VOLAPUK_AE;SMALL_LETTER_VOLAPUK_AE
CAPITAL_LETTER_VOLAPUK_OE;SMALL_LETTER_VOLAPUK_OE;CAPITAL_LETTER_VOLAPUK_UE;SMALL_LETTER_VOLAPUK_UE
CAPITAL_LETTER_G_WITH_OBLIQUE_STROKE;SMALL_LETTER_G_WITH_OBLIQUE_STROKE
CAPITAL_LETTER_K_WITH_OBLIQUE_STROKE;SMALL_LETTER_K_WITH_OBLIQUE_STROKE
CAPITAL_LETTER_N_WITH_OBLIQUE_STROKE;SMALL_LETTER_N_WITH_OBLIQUE_STROKE
CAPITAL_LETTER_R_WITH_OBLIQUE_STROKE;SMALL_LETTER_R_WITH_OBLIQUE_STROKE
CAPITAL_LETTER_S_WITH_OBLIQUE_STROKE;SMALL_LETTER_S_WITH_OBLIQUE_STROKE
a7aa=LATIN_CAPITAL_LETTER_;H_WITH_HOOK;REVERSED_OPEN_E;SCRIPT_G;L_WITH_BELT;SMALL_CAPITAL_I
a7af=;LATIN_LETTER_SMALL_CAPITAL_Q
a7b0=LATIN_CAPITAL_LETTER_;TURNED_K;TURNED_T;J_WITH_CROSSED-TAIL;CHI;BETA
a7b5=LATIN_;SMALL_LETTER_BETA;CAPITAL_LETTER_OMEGA;SMALL_LETTER_OMEGA;CAPITAL_LETTER_U_WITH_STROKE
SMALL_LETTER_U_WITH_STROKE;CAPITAL_LETTER_GLOTTAL_A;SMALL_LETTER_GLOTTAL_A;CAPITAL_LETTER_GLOTTAL_I
SMALL_LETTER_GLOTTAL_I;CAPITAL_LETTER_GLOTTAL_U;SMALL_LETTER_GLOTTAL_U;CAPITAL_LETTER_OLD_POLISH_O
SMALL_LETTER_OLD_POLISH_O;CAPITAL_LETTER_ANGLICANA_W;SMALL_LETTER_ANGLICANA_W
a7c4=LATIN_CAPITAL_LETTER_;C_WITH_PALATAL_HOOK;S_WITH_HOOK;Z_WITH_PALATAL_HOOK
D_WITH_SHORT_STROKE_OVERLAY;a7c8=LATIN_;SMALL_LETTER_D_WITH_SHORT_STROKE_OVERLAY
CAPITAL_LETTER_S_WITH_SHORT_STROKE_OVERLAY;SMALL_LETTER_S_WITH_SHORT_STROKE_OVERLAY
a7d0=LATIN_;CAPITAL_LETTER_CLOSED_INSULAR_G;SMALL_LETTER_CLOSED_INSULAR_G
a7d3=;LATIN_SMALL_LETTER_DOUBLE_THORN;a7d5=LATIN_;SMALL_LETTER_DOUBLE_WYNN
CAPITAL_LETTER_MIDDLE_SCOTS_S;SMALL_LETTER_MIDDLE_SCOTS_S;CAPITAL_LETTER_SIGMOID_S
SMALL_LETTER_SIGMOID_S;a7f2=MODIFIER_LETTER_CAPITAL_;C;F;Q
a7f5=LATIN_;CAPITAL_LETTER_REVERSED_HALF_H;SMALL_LETTER_REVERSED_HALF_H;EPIGRAPHIC_LETTER_SIDEWAYS_I
a7f8=MODIFIER_LETTER_;CAPITAL_H_WITH_STROKE;SMALL_LIGATURE_OE
a7fa=;LATIN_LETTER_SMALL_CAPITAL_TURNED_M
a7fb=LATIN_EPIGRAPHIC_LETTER_;REVERSED_F;REVERSED_P;INVERTED_M;I_LONGA;ARCHAIC_M
a800=SYLOTI_NAGRI_;LETTER_A;LETTER_I;SIGN_DVISVARA;LETTER_U;LETTER_E;LETTER_O;SIGN_HASANTA;LETTER_KO
LETTER_KHO;LETTER_GO;LETTER_GHO;SIGN_ANUSVARA
a80c=SYLOTI_NAGRI_LETTER_;CO;CHO;JO;JHO;TTO;TTHO;DDO;DDHO;TO;THO;DO;DHO;NO;PO;PHO;BO;BHO;MO;RO;LO
RRO;SO;HO;a823=SYLOTI_NAGRI_VOWEL_SIGN_;A;I;U;E;OO
a828=SYLOTI_NAGRI_POETRY_MARK-;1;2;3;4;a82c=;SYLOTI_NAGRI_SIGN_ALTERNATE_HASANTA
a830=NORTH_INDIC_FRACTION_;ONE_QUARTER;ONE_HALF;THREE_QUARTERS;ONE_SIXTEENTH;ONE_EIGHTH
THREE_SIXTEENTHS;a836=NORTH_INDIC_;QUARTER_MARK;PLACEHOLDER_MARK;RUPEE_MARK;QUANTITY_MARK
a840=PHAGS-PA_LETTER_;KA;KHA;GA;NGA;CA;CHA;JA;NYA;TA;THA;DA;NA;PA;PHA;BA;MA;TSA;TSHA;DZA;WA;ZHA;ZA
SMALL_A;YA;RA;LA;SHA;SA;HA;A;I;U;E;O;QA;XA;FA;GGA;EE
a867=PHAGS-PA_SUBJOINED_LETTER_;WA;YA;a869=PHAGS-PA_LETTER_;TTA;TTHA;DDA;NNA;ALTERNATE_YA
VOICELESS_SHA;VOICED_HA;ASPIRATED_FA;a871=PHAGS-PA_;SUBJOINED_LETTER_RA;SUPERFIXED_LETTER_RA
LETTER_CANDRABINDU;SINGLE_HEAD_MARK;DOUBLE_HEAD_MARK;MARK_SHAD;MARK_DOUBLE_SHAD
a880=SAURASHTRA_SIGN_;ANUSVARA;VISARGA
a882=SAURASHTRA_LETTER_;A;AA;I;II;U;UU;VOCALIC_R;VOCALIC_RR;VOCALIC_L;VOCALIC_LL;E;EE;AI;O;OO;AU;KA
KHA;GA;GHA;NGA;CA;CHA;JA;JHA;NYA;TTA;TTHA;DDA;DDHA;NNA;TA;THA;DA;DHA;NA;PA;PHA;BA;BHA;MA;YA;RA;LA;VA
SHA;SSA;SA;HA;LLA;a8b4=;SAURASHTRA_CONSONANT_SIGN_HAARU
a8b5=SAURASHTRA_VOWEL_SIGN_;AA;I;II;U;UU;VOCALIC_R;VOCALIC_RR;VOCALIC_L;VOCALIC_LL;E;EE;AI;O;OO;AU
a8c4=SAURASHTRA_SIGN_;VIRAMA;CANDRABINDU;a8ce=SAURASHTRA_;DANDA;DOUBLE_DANDA
a8d0=SAURASHTRA_DIGIT_;ZERO;ONE;TWO;THREE;FOUR;FIVE;SIX;SEVEN;EIGHT;NINE
a8e0=COMBINING_DEVANAGARI_DIGIT_;ZERO;ONE;TWO;THREE;FOUR;FIVE;SIX;SEVEN;EIGHT;NINE
a8ea=COMBINING_DEVANAGARI_LETTER_;A;U;KA;NA;PA;RA;VI;a8f1=;COMBINING_DEVANAGARI_SIGN_AVAGRAHA
a8f2=DEVANAGARI_SIGN_;SPACING_CANDRABINDU;CANDRABINDU_VIRAMA;DOUBLE_CANDRABINDU_VIRAMA
CANDRABINDU_TWO;CANDRABINDU_THREE;CANDRABINDU_AVAGRAHA;PUSHPIKA
a8f9=DEVANAGARI_;GAP_FILLER;CARET;HEADSTROKE;SIGN_SIDDHAM;JAIN_OM;LETTER_AY;VOWEL_SIGN_AY
a900=KAYAH_LI_DIGIT_;ZERO;ONE;TWO;THREE;FOUR;FIVE;SIX;SEVEN;EIGHT;NINE
a90a=KAYAH_LI_LETTER_;KA;KHA;GA;NGA;SA;SHA;ZA;NYA;TA;HTA;NA;PA;PHA;MA;DA;BA;RA;YA;LA;WA;THA;HA;VA;CA
A;OE;I;OO;a926=KAYAH_LI_VOWEL_;UE;E;U;EE;O;a92b=KAYAH_LI_;TONE_PLOPHU;TONE_CALYA;TONE_CALYA_PLOPHU
SIGN_CWI;SIGN_SHYA;a930=REJANG_LETTER_;KA;GA;NGA;TA;DA;NA;PA;BA;MA;CA;JA;NYA;SA;RA;LA;YA;WA;HA;MBA
NGGA;NDA;NYJA;A;a947=REJANG_VOWEL_SIGN_;I;U;E;AI;O;AU;EU;EA
a94f=REJANG_CONSONANT_SIGN_;NG;N;R;H;a953=;REJANG_VIRAMA
a95f=;REJANG_SECTION_MARK;a960=HANGUL_CHOSEONG_TIKEUT-;MIEUM;PIEUP;SIOS;CIEUC
a964=HANGUL_CHOSEONG_RIEUL-;KIYEOK;SSANGKIYEOK;TIKEUT;SSANGTIKEUT;MIEUM;PIEUP;SSANGPIEUP
KAPYEOUNPIEUP;SIOS;CIEUC;KHIEUKH;a96f=HANGUL_CHOSEONG_;MIEUM-KIYEOK;MIEUM-TIKEUT;MIEUM-SIOS
PIEUP-SIOS-THIEUTH;PIEUP-KHIEUKH;PIEUP-HIEUH;SSANGSIOS-PIEUP;IEUNG-RIEUL;IEUNG-HIEUH
SSANGCIEUC-HIEUH;SSANGTHIEUTH;PHIEUPH-HIEUH;HIEUH-SIOS;SSANGYEORINHIEUH
a980=JAVANESE_SIGN_;PANYANGGA;CECAK;LAYAR;WIGNYAN
a984=JAVANESE_LETTER_;A;I_KAWI;I;II;U;PA_CEREK;NGA_LELET;NGA_LELET_RASWADI;E;AI;O;KA;KA_SASAK
KA_MURDA;GA;GA_MURDA;NGA;CA;CA_MURDA;JA;NYA_MURDA;JA_MAHAPRANA;NYA;TTA;TTA_MAHAPRANA;DDA
DDA_MAHAPRANA;NA_MURDA;TA;TA_MURDA;DA;DA_MAHAPRANA;NA;PA;PA_MURDA;BA;BA_MURDA;MA;YA;RA;RA_AGUNG;LA
WA;SA_MURDA;SA_MAHAPRANA;SA;HA;a9b3=;JAVANESE_SIGN_CECAK_TELU
a9b4=JAVANESE_VOWEL_SIGN_;TARUNG;TOLONG;WULU;WULU_MELIK;SUKU;SUKU_MENDUT;TALING;DIRGA_MURE;PEPET
a9bd=JAVANESE_CONSONANT_SIGN_;KERET;PENGKAL;CAKRA
a9c0=JAVANESE_;PANGKON;LEFT_RERENGGAN;RIGHT_RERENGGAN
a9c3=JAVANESE_PADA_;ANDAP;MADYA;LUHUR;WINDU;PANGKAT;LINGSA;LUNGSI;ADEG;ADEG_ADEG;PISELEH
a9cd=;JAVANESE_TURNED_PADA_PISELEH;a9cf=;JAVANESE_PANGRANGKEP
a9d0=JAVANESE_DIGIT_;ZERO;ONE;TWO;THREE;FOUR;FIVE;SIX;SEVEN;EIGHT;NINE
a9de=JAVANESE_PADA_;TIRTA_TUMETES;ISEN-ISEN
a9e0=MYANMAR_LETTER_SHAN_;GHA;CHA;JHA;NNA;BHA;a9e5=MYANMAR_;SIGN_SHAN_SAW
MODIFIER_LETTER_SHAN_REDUPLICATION
a9e7=MYANMAR_LETTER_TAI_LAING_;NYA;FA;GA;GHA;JA;JHA;DDA;DDHA;NNA
a9f0=MYANMAR_TAI_LAING_DIGIT_;ZERO;ONE;TWO;THREE;FOUR;FIVE;SIX;SEVEN;EIGHT;NINE
a9fa=MYANMAR_LETTER_TAI_LAING_;LLA;DA;DHA;BA;BHA
aa00=CHAM_LETTER_;A;I;U;E;AI;O;KA;KHA;GA;GHA;NGUE;NGA;CHA;CHHA;JA;JHA;NHUE;NHA;NHJA;TA;THA;DA;DHA
NUE;NA;DDA;PA;PPA;PHA;BA;BHA;MUE;MA;BBA;YA;RA;LA;VA;SSA;SA;HA
aa29=CHAM_VOWEL_SIGN_;AA;I;II;EI;U;OE;O;AI;AU;UE
aa33=CHAM_CONSONANT_SIGN_;YA;RA;LA;WA
aa40=CHAM_LETTER_FINAL_;K;G;NG;aa43=;CHAM_CONSONANT_SIGN_FINAL_NG
aa44=CHAM_LETTER_FINAL_;CH;T;N;P;Y;R;L;SS
aa4c=CHAM_CONSONANT_SIGN_FINAL_;M;H;aa50=CHAM_DIGIT_;ZERO;ONE;TWO;THREE;FOUR;FIVE;SIX;SEVEN;EIGHT
NINE;aa5c=CHAM_PUNCTUATION_;SPIRAL;DANDA;DOUBLE_DANDA;TRIPLE_DANDA
aa60=MYANMAR_LETTER_KHAMTI_;GA;CA;CHA;JA;JHA;NYA;TTA;TTHA;DDA;DDHA;DHA;NA;SA;HA;HHA;FA
aa70=;MYANMAR_MODIFIER_LETTER_KHAMTI_REDUPLICATION
aa71=MYANMAR_LETTER_KHAMTI_;XA;ZA;RA
aa74=MYANMAR_LOGOGRAM_KHAMTI_;OAY;QN;HM
aa77=MYANMAR_SYMBOL_AITON_;EXCLAMATION;ONE;TWO;aa7a=MYANMAR_;LETTER_AITON_RA;SIGN_PAO_KAREN_TONE
aa7c=MYANMAR_SIGN_TAI_LAING_TONE-;2;5
aa7e=MYANMAR_LETTER_SHWE_PALAUNG_;CHA;SHA
aa80=TAI_VIET_LETTER_;LOW_KO;HIGH_KO;LOW_KHO;HIGH_KHO;LOW_KHHO;HIGH_KHHO;LOW_GO;HIGH_GO;LOW_NGO
HIGH_NGO;LOW_CO;HIGH_CO;LOW_CHO;HIGH_CHO;LOW_SO;HIGH_SO;LOW_NYO;HIGH_NYO;LOW_DO;HIGH_DO;LOW_TO
HIGH_TO;LOW_THO;HIGH_THO;LOW_NO;HIGH_NO;LOW_BO;HIGH_BO;LOW_PO;HIGH_PO;LOW_PHO;HIGH_PHO;LOW_FO
HIGH_FO;LOW_MO;HIGH_MO;LOW_YO;HIGH_YO;LOW_RO;HIGH_RO;LOW_LO;HIGH_LO;LOW_VO;HIGH_VO;LOW_HO;HIGH_HO
LOW_O;HIGH_O;aab0=TAI_VIET_;MAI_KANG;VOWEL_AA;VOWEL_I;VOWEL_UE;VOWEL_U;VOWEL_E;VOWEL_O;MAI_KHIT
aab8=TAI_VIET_VOWEL_;IA;UEA;UA;AUE;AY;AN;AM
aabf=TAI_VIET_TONE_MAI_;EK;NUENG;THO;SONG
aadb=TAI_VIET_SYMBOL_;KON;NUENG;SAM;HO_HOI;KOI_KOI
aae0=MEETEI_MAYEK_LETTER_;E;O;CHA;NYA;TTA;TTHA;DDA;DDHA;NNA;SHA;SSA
aaeb=MEETEI_MAYEK_VOWEL_SIGN_;II;UU;AAI;AU;AAU
aaf0=MEETEI_MAYEK_;CHEIKHAN;AHANG_KHUDAM;ANJI;SYLLABLE_REPETITION_MARK;WORD_REPETITION_MARK
VOWEL_SIGN_VISARGA;VIRAMA;ab01=ETHIOPIC_SYLLABLE_;TTHU;TTHI;TTHAA;TTHEE;TTHE;TTHO
ab09=ETHIOPIC_SYLLABLE_;DDHU;DDHI;DDHAA;DDHEE;DDHE;DDHO
ab11=ETHIOPIC_SYLLABLE_;DZU;DZI;DZAA;DZEE;DZE;DZO
ab20=ETHIOPIC_SYLLABLE_;CCHHA;CCHHU;CCHHI;CCHHAA;CCHHEE;CCHHE;CCHHO
ab28=ETHIOPIC_SYLLABLE_;BBA;BBU;BBI;BBAA;BBEE;BBE;BBO
ab30=LATIN_SMALL_LETTER_;BARRED_ALPHA;A_REVERSED-SCHWA;BLACKLETTER_E;BARRED_E;E_WITH_FLOURISH
LENIS_F;SCRIPT_G_WITH_CROSSED-TAIL;L_WITH_INVERTED_LAZY_S;L_WITH_DOUBLE_MIDDLE_TILDE
L_WITH_MIDDLE_RING;M_WITH_CROSSED-TAIL;N_WITH_CROSSED-TAIL;ENG_WITH_CROSSED-TAIL;BLACKLETTER_O
BLACKLETTER_O_WITH_STROKE;OPEN_O_WITH_STROKE;INVERTED_OE;TURNED_OE_WITH_STROKE
TURNED_OE_WITH_HORIZONTAL_STROKE;TURNED_O_OPEN-O;TURNED_O_OPEN-O_WITH_STROKE;STIRRUP_R
ab46=;LATIN_LETTER_SMALL_CAPITAL_R_WITH_RIGHT_LEG
ab47=LATIN_SMALL_LETTER_;R_WITHOUT_HANDLE;DOUBLE_R;R_WITH_CROSSED-TAIL;DOUBLE_R_WITH_CROSSED-TAIL
SCRIPT_R;SCRIPT_R_WITH_RING;BASELINE_ESH;U_WITH_SHORT_RIGHT_LEG;U_BAR_WITH_SHORT_RIGHT_LEG;UI
TURNED_UI;U_WITH_LEFT_HOOK;CHI;CHI_WITH_LOW_RIGHT_RING;CHI_WITH_LOW_LEFT_SERIF;X_WITH_LOW_RIGHT_RING
X_WITH_LONG_LEFT_LEG;X_WITH_LONG_LEFT_LEG_AND_LOW_RIGHT_RING;X_WITH_LONG_LEFT_LEG_WITH_SERIF
Y_WITH_SHORT_RIGHT_LEG;ab5b=;MODIFIER_BREVE_WITH_INVERTED_BREVE
ab5c=MODIFIER_LETTER_SMALL_;HENG;L_WITH_INVERTED_LAZY_S;L_WITH_MIDDLE_TILDE;U_WITH_LEFT_HOOK
ab60=LATIN_SMALL_LETTER_;SAKHA_YAT;IOTIFIED_E;OPEN_OE;UO;INVERTED_ALPHA
ab65=;GREEK_LETTER_SMALL_CAPITAL_OMEGA
ab66=LATIN_SMALL_LETTER_;DZ_DIGRAPH_WITH_RETROFLEX_HOOK;TS_DIGRAPH_WITH_RETROFLEX_HOOK
TURNED_R_WITH_MIDDLE_TILDE;ab69=MODIFIER_LETTER_;SMALL_TURNED_W;LEFT_TACK;RIGHT_TACK
ab70=CHEROKEE_SMALL_LETTER_;A;E;I;O;U;V;GA;KA;GE;GI;GO;GU;GV;HA;HE;HI;HO;HU;HV;LA;LE;LI;LO;LU;LV;MA
ME;MI;MO;MU;NA;HNA;NAH;NE;NI;NO;NU;NV;QUA;QUE;QUI;QUO;QUU;QUV;SA;S;SE;SI;SO;SU;SV;DA;TA;DE;TE;DI;TI
DO;DU;DV;DLA;TLA;TLE;TLI;TLO;TLU;TLV;TSA;TSE;TSI;TSO;TSU;TSV;WA;WE;WI;WO;WU;WV;YA
abc0=MEETEI_MAYEK_LETTER_;KOK;SAM;LAI;MIT;PA;NA;CHIL;TIL;KHOU;NGOU;THOU;WAI;YANG;HUK;UN;I;PHAM;ATIYA
GOK;JHAM;RAI;BA;JIL;DIL;GHOU;DHOU;BHAM;KOK_LONSUM;LAI_LONSUM;MIT_LONSUM;PA_LONSUM;NA_LONSUM
TIL_LONSUM;NGOU_LONSUM;I_LONSUM
abe3=MEETEI_MAYEK_VOWEL_SIGN_;ONAP;INAP;ANAP;YENAP;SOUNAP;UNAP;CHEINAP;NUNG
abeb=MEETEI_MAYEK_;CHEIKHEI;LUM_IYEK;APUN_IYEK
abf0=MEETEI_MAYEK_DIGIT_;ZERO;ONE;TWO;THREE;FOUR;FIVE;SIX;SEVEN;EIGHT;NINE
d7b0=HANGUL_JUNGSEONG_;O-YEO;O-O-I;YO-A;YO-AE;YO-EO;U-YEO;U-I-I;YU-AE;YU-O;EU-A;EU-EO;EU-E;EU-O
I-YA-O;I-YAE;I-YEO;I-YE;I-O-I;I-YO;I-YU;I-I;ARAEA-A;ARAEA-E
d7cb=HANGUL_JONGSEONG_;NIEUN-RIEUL;NIEUN-CHIEUCH;SSANGTIKEUT;SSANGTIKEUT-PIEUP;TIKEUT-PIEUP
TIKEUT-SIOS;TIKEUT-SIOS-KIYEOK;TIKEUT-CIEUC;TIKEUT-CHIEUCH;TIKEUT-THIEUTH;RIEUL-SSANGKIYEOK
RIEUL-KIYEOK-HIEUH;SSANGRIEUL-KHIEUKH;RIEUL-MIEUM-HIEUH;RIEUL-PIEUP-TIKEUT;RIEUL-PIEUP-PHIEUPH
RIEUL-YESIEUNG;RIEUL-YEORINHIEUH-HIEUH;KAPYEOUNRIEUL;MIEUM-NIEUN;MIEUM-SSANGNIEUN;SSANGMIEUM
MIEUM-PIEUP-SIOS;MIEUM-CIEUC;PIEUP-TIKEUT;PIEUP-RIEUL-PHIEUPH;PIEUP-MIEUM;SSANGPIEUP
PIEUP-SIOS-TIKEUT;PIEUP-CIEUC;PIEUP-CHIEUCH;SIOS-MIEUM;SIOS-KAPYEOUNPIEUP;SSANGSIOS-KIYEOK
SSANGSIOS-TIKEUT;SIOS-PANSIOS;SIOS-CIEUC;SIOS-CHIEUCH;SIOS-THIEUTH;SIOS-HIEUH;PANSIOS-PIEUP
PANSIOS-KAPYEOUNPIEUP;YESIEUNG-MIEUM;YESIEUNG-HIEUH;CIEUC-PIEUP;CIEUC-SSANGPIEUP;SSANGCIEUC
PHIEUPH-SIOS;PHIEUPH-THIEUTH;fb00=LATIN_SMALL_LIGATURE_;FF;FI;FL;FFI;FFL;LONG_S_T;ST
fb13=ARMENIAN_SMALL_LIGATURE_;MEN_NOW;MEN_ECH;MEN_INI;VEW_NOW;MEN_XEH
fb1d=HEBREW_;LETTER_YOD_WITH_HIRIQ;POINT_JUDEO-SPANISH_VARIKA;LIGATURE_YIDDISH_YOD_YOD_PATAH
LETTER_ALTERNATIVE_AYIN;fb21=HEBREW_LETTER_WIDE_;ALEF;DALET;HE;KAF;LAMED;FINAL_MEM;RESH;TAV
fb29=HEBREW_LETTER_;ALTERNATIVE_PLUS_SIGN;SHIN_WITH_SHIN_DOT;SHIN_WITH_SIN_DOT
SHIN_WITH_DAGESH_AND_SHIN_DOT;SHIN_WITH_DAGESH_AND_SIN_DOT;ALEF_WITH_PATAH;ALEF_WITH_QAMATS
ALEF_WITH_MAPIQ;BET_WITH_DAGESH;GIMEL_WITH_DAGESH;DALET_WITH_DAGESH;HE_WITH_MAPIQ;VAV_WITH_DAGESH
ZAYIN_WITH_DAGESH;fb38=HEBREW_LETTER_;TET_WITH_DAGESH;YOD_WITH_DAGESH;FINAL_KAF_WITH_DAGESH
KAF_WITH_DAGESH;LAMED_WITH_DAGESH;fb3e=;HEBREW_LETTER_MEM_WITH_DAGESH
fb40=HEBREW_LETTER_;NUN_WITH_DAGESH;SAMEKH_WITH_DAGESH
fb43=HEBREW_LETTER_;FINAL_PE_WITH_DAGESH;PE_WITH_DAGESH
fb46=HEBREW_LETTER_;TSADI_WITH_DAGESH;QOF_WITH_DAGESH;RESH_WITH_DAGESH;SHIN_WITH_DAGESH
TAV_WITH_DAGESH;VAV_WITH_HOLAM;BET_WITH_RAFE;KAF_WITH_RAFE;PE_WITH_RAFE
fb4f=;HEBREW_LIGATURE_ALEF_LAMED;fb50=ARABIC_LETTER_;ALEF_WASLA_ISOLATED_FORM;ALEF_WASLA_FINAL_FORM
BEEH_ISOLATED_FORM;BEEH_FINAL_FORM;BEEH_INITIAL_FORM;BEEH_MEDIAL_FORM;PEH_ISOLATED_FORM
PEH_FINAL_FORM;PEH_INITIAL_FORM;PEH_MEDIAL_FORM;BEHEH_ISOLATED_FORM;BEHEH_FINAL_FORM
BEHEH_INITIAL_FORM;BEHEH_MEDIAL_FORM;TTEHEH_ISOLATED_FORM;TTEHEH_FINAL_FORM;TTEHEH_INITIAL_FORM
TTEHEH_MEDIAL_FORM;TEHEH_ISOLATED_FORM;TEHEH_FINAL_FORM;TEHEH_INITIAL_FORM;TEHEH_MEDIAL_FORM
TTEH_ISOLATED_FORM;TTEH_FINAL_FORM;TTEH_INITIAL_FORM;TTEH_MEDIAL_FORM;VEH_ISOLATED_FORM
VEH_FINAL_FORM;VEH_INITIAL_FORM;VEH_MEDIAL_FORM;PEHEH_ISOLATED_FORM;PEHEH_FINAL_FORM
PEHEH_INITIAL_FORM;PEHEH_MEDIAL_FORM;DYEH_ISOLATED_FORM;DYEH_FINAL_FORM;DYEH_INITIAL_FORM
DYEH_MEDIAL_FORM;NYEH_ISOLATED_FORM;NYEH_FINAL_FORM;NYEH_INITIAL_FORM;NYEH_MEDIAL_FORM
TCHEH_ISOLATED_FORM;TCHEH_FINAL_FORM;TCHEH_INITIAL_FORM;TCHEH_MEDIAL_FORM;TCHEHEH_ISOLATED_FORM
TCHEHEH_FINAL_FORM;TCHEHEH_INITIAL_FORM;TCHEHEH_MEDIAL_FORM;DDAHAL_ISOLATED_FORM;DDAHAL_FINAL_FORM
DAHAL_ISOLATED_FORM;DAHAL_FINAL_FORM;DUL_ISOLATED_FORM;DUL_FINAL_FORM;DDAL_ISOLATED_FORM
DDAL_FINAL_FORM;JEH_ISOLATED_FORM;JEH_FINAL_FORM;RREH_ISOLATED_FORM;RREH_FINAL_FORM
KEHEH_ISOLATED_FORM;KEHEH_FINAL_FORM;KEHEH_INITIAL_FORM;KEHEH_MEDIAL_FORM;GAF_ISOLATED_FORM
GAF_FINAL_FORM;GAF_INITIAL_FORM;GAF_MEDIAL_FORM;GUEH_ISOLATED_FORM;GUEH_FINAL_FORM;GUEH_INITIAL_FORM
GUEH_MEDIAL_FORM;NGOEH_ISOLATED_FORM;NGOEH_FINAL_FORM;NGOEH_INITIAL_FORM;NGOEH_MEDIAL_FORM
NOON_GHUNNA_ISOLATED_FORM;NOON_GHUNNA_FINAL_FORM;RNOON_ISOLATED_FORM;RNOON_FINAL_FORM
RNOON_INITIAL_FORM;RNOON_MEDIAL_FORM;HEH_WITH_YEH_ABOVE_ISOLATED_FORM;HEH_WITH_YEH_ABOVE_FINAL_FORM
fba6=ARABIC_LETTER_HEH_GOAL_;ISOLATED_FORM;FINAL_FORM;INITIAL_FORM;MEDIAL_FORM
fbaa=ARABIC_LETTER_HEH_DOACHASHMEE_;ISOLATED_FORM;FINAL_FORM;INITIAL_FORM;MEDIAL_FORM
fbae=ARABIC_LETTER_YEH_BARREE_;ISOLATED_FORM;FINAL_FORM;WITH_HAMZA_ABOVE_ISOLATED_FORM
WITH_HAMZA_ABOVE_FINAL_FORM;fbb2=ARABIC_SYMBOL_;DOT_ABOVE;DOT_BELOW;TWO_DOTS_ABOVE;TWO_DOTS_BELOW
THREE_DOTS_ABOVE;THREE_DOTS_BELOW;THREE_DOTS_POINTING_DOWNWARDS_ABOVE
THREE_DOTS_POINTING_DOWNWARDS_BELOW;FOUR_DOTS_ABOVE;FOUR_DOTS_BELOW;DOUBLE_VERTICAL_BAR_BELOW
TWO_DOTS_VERTICALLY_ABOVE;TWO_DOTS_VERTICALLY_BELOW;RING;SMALL_TAH_ABOVE;SMALL_TAH_BELOW;WASLA_ABOVE
fbd3=ARABIC_LETTER_;NG_ISOLATED_FORM;NG_FINAL_FORM;NG_INITIAL_FORM;NG_MEDIAL_FORM;U_ISOLATED_FORM
U_FINAL_FORM;OE_ISOLATED_FORM;OE_FINAL_FORM;YU_ISOLATED_FORM;YU_FINAL_FORM
U_WITH_HAMZA_ABOVE_ISOLATED_FORM;VE_ISOLATED_FORM;VE_FINAL_FORM;KIRGHIZ_OE_ISOLATED_FORM
KIRGHIZ_OE_FINAL_FORM;KIRGHIZ_YU_ISOLATED_FORM;KIRGHIZ_YU_FINAL_FORM;E_ISOLATED_FORM;E_FINAL_FORM
E_INITIAL_FORM;E_MEDIAL_FORM
fbe8=ARABIC_LETTER_UIGHUR_KAZAKH_KIRGHIZ_ALEF_MAKSURA_;INITIAL_FORM;MEDIAL_FORM
fbea=ARABIC_LIGATURE_YEH_WITH_HAMZA_ABOVE_WITH_;ALEF_ISOLATED_FORM;ALEF_FINAL_FORM;AE_ISOLATED_FORM
AE_FINAL_FORM;WAW_ISOLATED_FORM;WAW_FINAL_FORM;U_ISOLATED_FORM;U_FINAL_FORM;OE_ISOLATED_FORM
OE_FINAL_FORM;YU_ISOLATED_FORM;YU_FINAL_FORM;E_ISOLATED_FORM;E_FINAL_FORM;E_INITIAL_FORM
fbf9=ARABIC_LIGATURE_UIGHUR_KIRGHIZ_YEH_WITH_HAMZA_ABOVE_WITH_ALEF_MAKSURA_;ISOLATED_FORM;FINAL_FORM
INITIAL_FORM;fbfc=ARABIC_LETTER_FARSI_YEH_;ISOLATED_FORM;FINAL_FORM;INITIAL_FORM;MEDIAL_FORM
fc00=ARABIC_LIGATURE_YEH_WITH_HAMZA_ABOVE_WITH_;JEEM_ISOLATED_FORM;HAH_ISOLATED_FORM
MEEM_ISOLATED_FORM;ALEF_MAKSURA_ISOLATED_FORM;YEH_ISOLATED_FORM
fc05=ARABIC_LIGATURE_BEH_WITH_;JEEM_ISOLATED_FORM;HAH_ISOLATED_FORM;KHAH_ISOLATED_FORM
MEEM_ISOLATED_FORM;ALEF_MAKSURA_ISOLATED_FORM;YEH_ISOLATED_FORM
fc0b=ARABIC_LIGATURE_TEH_WITH_;JEEM_ISOLATED_FORM;HAH_ISOLATED_FORM;KHAH_ISOLATED_FORM
MEEM_ISOLATED_FORM;ALEF_MAKSURA_ISOLATED_FORM;YEH_ISOLATED_FORM
fc11=ARABIC_LIGATURE_THEH_WITH_;JEEM_ISOLATED_FORM;MEEM_ISOLATED_FORM;ALEF_MAKSURA_ISOLATED_FORM
YEH_ISOLATED_FORM;fc15=ARABIC_LIGATURE_;JEEM_WITH_HAH_ISOLATED_FORM;JEEM_WITH_MEEM_ISOLATED_FORM
HAH_WITH_JEEM_ISOLATED_FORM;HAH_WITH_MEEM_ISOLATED_FORM;KHAH_WITH_JEEM_ISOLATED_FORM
KHAH_WITH_HAH_ISOLATED_FORM;KHAH_WITH_MEEM_ISOLATED_FORM;SEEN_WITH_JEEM_ISOLATED_FORM
SEEN_WITH_HAH_ISOLATED_FORM;SEEN_WITH_KHAH_ISOLATED_FORM;SEEN_WITH_MEEM_ISOLATED_FORM
SAD_WITH_HAH_ISOLATED_FORM;SAD_WITH_MEEM_ISOLATED_FORM;DAD_WITH_JEEM_ISOLATED_FORM
DAD_WITH_HAH_ISOLATED_FORM;DAD_WITH_KHAH_ISOLATED_FORM;DAD_WITH_MEEM_ISOLATED_FORM
TAH_WITH_HAH_ISOLATED_FORM;TAH_WITH_MEEM_ISOLATED_FORM;ZAH_WITH_MEEM_ISOLATED_FORM
AIN_WITH_JEEM_ISOLATED_FORM;AIN_WITH_MEEM_ISOLATED_FORM;GHAIN_WITH_JEEM_ISOLATED_FORM
GHAIN_WITH_MEEM_ISOLATED_FORM;fc2d=ARABIC_LIGATURE_FEH_WITH_;JEEM_ISOLATED_FORM;HAH_ISOLATED_FORM
KHAH_ISOLATED_FORM;MEEM_ISOLATED_FORM;ALEF_MAKSURA_ISOLATED_FORM;YEH_ISOLATED_FORM
fc33=ARABIC_LIGATURE_QAF_WITH_;HAH_ISOLATED_FORM;MEEM_ISOLATED_FORM;ALEF_MAKSURA_ISOLATED_FORM
YEH_ISOLATED_FORM;fc37=ARABIC_LIGATURE_KAF_WITH_;ALEF_ISOLATED_FORM;JEEM_ISOLATED_FORM
HAH_ISOLATED_FORM;KHAH_ISOLATED_FORM;LAM_ISOLATED_FORM;MEEM_ISOLATED_FORM;ALEF_MAKSURA_ISOLATED_FORM
YEH_ISOLATED_FORM;fc3f=ARABIC_LIGATURE_LAM_WITH_;JEEM_ISOLATED_FORM;HAH_ISOLATED_FORM
KHAH_ISOLATED_FORM;MEEM_ISOLATED_FORM;ALEF_MAKSURA_ISOLATED_FORM;YEH_ISOLATED_FORM
fc45=ARABIC_LIGATURE_MEEM_WITH_;JEEM_ISOLATED_FORM;HAH_ISOLATED_FORM;KHAH_ISOLATED_FORM
MEEM_ISOLATED_FORM;ALEF_MAKSURA_ISOLATED_FORM;YEH_ISOLATED_FORM
fc4b=ARABIC_LIGATURE_NOON_WITH_;JEEM_ISOLATED_FORM;HAH_ISOLATED_FORM;KHAH_ISOLATED_FORM
MEEM_ISOLATED_FORM;ALEF_MAKSURA_ISOLATED_FORM;YEH_ISOLATED_FORM
fc51=ARABIC_LIGATURE_HEH_WITH_;JEEM_ISOLATED_FORM;MEEM_ISOLATED_FORM;ALEF_MAKSURA_ISOLATED_FORM
YEH_ISOLATED_FORM;fc55=ARABIC_LIGATURE_YEH_WITH_;JEEM_ISOLATED_FORM;HAH_ISOLATED_FORM
KHAH_ISOLATED_FORM;MEEM_ISOLATED_FORM;ALEF_MAKSURA_ISOLATED_FORM;YEH_ISOLATED_FORM
fc5b=ARABIC_LIGATURE_;THAL_WITH_SUPERSCRIPT_ALEF_ISOLATED_FORM
REH_WITH_SUPERSCRIPT_ALEF_ISOLATED_FORM;ALEF_MAKSURA_WITH_SUPERSCRIPT_ALEF_ISOLATED_FORM
fc5e=ARABIC_LIGATURE_SHADDA_WITH_;DAMMATAN_ISOLATED_FORM;KASRATAN_ISOLATED_FORM;FATHA_ISOLATED_FORM
DAMMA_ISOLATED_FORM;KASRA_ISOLATED_FORM;SUPERSCRIPT_ALEF_ISOLATED_FORM
fc64=ARABIC_LIGATURE_YEH_WITH_HAMZA_ABOVE_WITH_;REH_FINAL_FORM;ZAIN_FINAL_FORM;MEEM_FINAL_FORM
NOON_FINAL_FORM;ALEF_MAKSURA_FINAL_FORM;YEH_FINAL_FORM
fc6a=ARABIC_LIGATURE_BEH_WITH_;REH_FINAL_FORM;ZAIN_FINAL_FORM;MEEM_FINAL_FORM;NOON_FINAL_FORM
ALEF_MAKSURA_FINAL_FORM;YEH_FINAL_FORM
fc70=ARABIC_LIGATURE_TEH_WITH_;REH_FINAL_FORM;ZAIN_FINAL_FORM;MEEM_FINAL_FORM;NOON_FINAL_FORM
ALEF_MAKSURA_FINAL_FORM;YEH_FINAL_FORM
fc76=ARABIC_LIGATURE_THEH_WITH_;REH_FINAL_FORM;ZAIN_FINAL_FORM;MEEM_FINAL_FORM;NOON_FINAL_FORM
ALEF_MAKSURA_FINAL_FORM;YEH_FINAL_FORM;fc7c=ARABIC_LIGATURE_;FEH_WITH_ALEF_MAKSURA_FINAL_FORM
FEH_WITH_YEH_FINAL_FORM;QAF_WITH_ALEF_MAKSURA_FINAL_FORM;QAF_WITH_YEH_FINAL_FORM
KAF_WITH_ALEF_FINAL_FORM;KAF_WITH_LAM_FINAL_FORM;KAF_WITH_MEEM_FINAL_FORM
KAF_WITH_ALEF_MAKSURA_FINAL_FORM;KAF_WITH_YEH_FINAL_FORM;LAM_WITH_MEEM_FINAL_FORM
LAM_WITH_ALEF_MAKSURA_FINAL_FORM;LAM_WITH_YEH_FINAL_FORM;MEEM_WITH_ALEF_FINAL_FORM
MEEM_WITH_MEEM_FINAL_FORM;fc8a=ARABIC_LIGATURE_NOON_WITH_;REH_FINAL_FORM;ZAIN_FINAL_FORM
MEEM_FINAL_FORM;NOON_FINAL_FORM;ALEF_MAKSURA_FINAL_FORM;YEH_FINAL_FORM
fc90=;ARABIC_LIGATURE_ALEF_MAKSURA_WITH_SUPERSCRIPT_ALEF_FINAL_FORM
fc91=ARABIC_LIGATURE_YEH_WITH_;REH_FINAL_FORM;ZAIN_FINAL_FORM;MEEM_FINAL_FORM;NOON_FINAL_FORM
ALEF_MAKSURA_FINAL_FORM;YEH_FINAL_FORM
fc97=ARABIC_LIGATURE_YEH_WITH_HAMZA_ABOVE_WITH_;JEEM_INITIAL_FORM;HAH_INITIAL_FORM;KHAH_INITIAL_FORM
MEEM_INITIAL_FORM;HEH_INITIAL_FORM
fc9c=ARABIC_LIGATURE_BEH_WITH_;JEEM_INITIAL_FORM;HAH_INITIAL_FORM;KHAH_INITIAL_FORM
MEEM_INITIAL_FORM;HEH_INITIAL_FORM
fca1=ARABIC_LIGATURE_TEH_WITH_;JEEM_INITIAL_FORM;HAH_INITIAL_FORM;KHAH_INITIAL_FORM
MEEM_INITIAL_FORM;HEH_INITIAL_FORM;fca6=ARABIC_LIGATURE_;THEH_WITH_MEEM_INITIAL_FORM
JEEM_WITH_HAH_INITIAL_FORM;JEEM_WITH_MEEM_INITIAL_FORM;HAH_WITH_JEEM_INITIAL_FORM
HAH_WITH_MEEM_INITIAL_FORM;KHAH_WITH_JEEM_INITIAL_FORM;KHAH_WITH_MEEM_INITIAL_FORM
SEEN_WITH_JEEM_INITIAL_FORM;SEEN_WITH_HAH_INITIAL_FORM;SEEN_WITH_KHAH_INITIAL_FORM
SEEN_WITH_MEEM_INITIAL_FORM;SAD_WITH_HAH_INITIAL_FORM;SAD_WITH_KHAH_INITIAL_FORM
SAD_WITH_MEEM_INITIAL_FORM;DAD_WITH_JEEM_INITIAL_FORM;DAD_WITH_HAH_INITIAL_FORM
DAD_WITH_KHAH_INITIAL_FORM;DAD_WITH_MEEM_INITIAL_FORM;TAH_WITH_HAH_INITIAL_FORM
ZAH_WITH_MEEM_INITIAL_FORM;AIN_WITH_JEEM_INITIAL_FORM;AIN_WITH_MEEM_INITIAL_FORM
GHAIN_WITH_JEEM_INITIAL_FORM;GHAIN_WITH_MEEM_INITIAL_FORM;FEH_WITH_JEEM_INITIAL_FORM
FEH_WITH_HAH_INITIAL_FORM;FEH_WITH_KHAH_INITIAL_FORM;FEH_WITH_MEEM_INITIAL_FORM
QAF_WITH_HAH_INITIAL_FORM;QAF_WITH_MEEM_INITIAL_FORM
fcc4=ARABIC_LIGATURE_KAF_WITH_;JEEM_INITIAL_FORM;HAH_INITIAL_FORM;KHAH_INITIAL_FORM;LAM_INITIAL_FORM
MEEM_INITIAL_FORM;fcc9=ARABIC_LIGATURE_LAM_WITH_;JEEM_INITIAL_FORM;HAH_INITIAL_FORM
KHAH_INITIAL_FORM;MEEM_INITIAL_FORM;HEH_INITIAL_FORM
fcce=ARABIC_LIGATURE_MEEM_WITH_;JEEM_INITIAL_FORM;HAH_INITIAL_FORM;KHAH_INITIAL_FORM
MEEM_INITIAL_FORM;fcd2=ARABIC_LIGATURE_NOON_WITH_;JEEM_INITIAL_FORM;HAH_INITIAL_FORM
KHAH_INITIAL_FORM;MEEM_INITIAL_FORM;HEH_INITIAL_FORM
fcd7=ARABIC_LIGATURE_HEH_WITH_;JEEM_INITIAL_FORM;MEEM_INITIAL_FORM;SUPERSCRIPT_ALEF_INITIAL_FORM
fcda=ARABIC_LIGATURE_YEH_WITH_;JEEM_INITIAL_FORM;HAH_INITIAL_FORM;KHAH_INITIAL_FORM
MEEM_INITIAL_FORM;HEH_INITIAL_FORM;HAMZA_ABOVE_WITH_MEEM_MEDIAL_FORM
HAMZA_ABOVE_WITH_HEH_MEDIAL_FORM;fce1=ARABIC_LIGATURE_;BEH_WITH_MEEM_MEDIAL_FORM
BEH_WITH_HEH_MEDIAL_FORM;TEH_WITH_MEEM_MEDIAL_FORM;TEH_WITH_HEH_MEDIAL_FORM
THEH_WITH_MEEM_MEDIAL_FORM;THEH_WITH_HEH_MEDIAL_FORM;SEEN_WITH_MEEM_MEDIAL_FORM
SEEN_WITH_HEH_MEDIAL_FORM;SHEEN_WITH_MEEM_MEDIAL_FORM;SHEEN_WITH_HEH_MEDIAL_FORM
KAF_WITH_LAM_MEDIAL_FORM;KAF_WITH_MEEM_MEDIAL_FORM;LAM_WITH_MEEM_MEDIAL_FORM
NOON_WITH_MEEM_MEDIAL_FORM;NOON_WITH_HEH_MEDIAL_FORM;YEH_WITH_MEEM_MEDIAL_FORM
YEH_WITH_HEH_MEDIAL_FORM;SHADDA_WITH_FATHA_MEDIAL_FORM;SHADDA_WITH_DAMMA_MEDIAL_FORM
SHADDA_WITH_KASRA_MEDIAL_FORM;TAH_WITH_ALEF_MAKSURA_ISOLATED_FORM;TAH_WITH_YEH_ISOLATED_FORM
AIN_WITH_ALEF_MAKSURA_ISOLATED_FORM;AIN_WITH_YEH_ISOLATED_FORM;GHAIN_WITH_ALEF_MAKSURA_ISOLATED_FORM
GHAIN_WITH_YEH_ISOLATED_FORM;SEEN_WITH_ALEF_MAKSURA_ISOLATED_FORM;SEEN_WITH_YEH_ISOLATED_FORM
SHEEN_WITH_ALEF_MAKSURA_ISOLATED_FORM;SHEEN_WITH_YEH_ISOLATED_FORM
HAH_WITH_ALEF_MAKSURA_ISOLATED_FORM;HAH_WITH_YEH_ISOLATED_FORM;JEEM_WITH_ALEF_MAKSURA_ISOLATED_FORM
JEEM_WITH_YEH_ISOLATED_FORM;KHAH_WITH_ALEF_MAKSURA_ISOLATED_FORM;KHAH_WITH_YEH_ISOLATED_FORM
SAD_WITH_ALEF_MAKSURA_ISOLATED_FORM;SAD_WITH_YEH_ISOLATED_FORM;DAD_WITH_ALEF_MAKSURA_ISOLATED_FORM
DAD_WITH_YEH_ISOLATED_FORM;SHEEN_WITH_JEEM_ISOLATED_FORM;SHEEN_WITH_HAH_ISOLATED_FORM
SHEEN_WITH_KHAH_ISOLATED_FORM;SHEEN_WITH_MEEM_ISOLATED_FORM;SHEEN_WITH_REH_ISOLATED_FORM
SEEN_WITH_REH_ISOLATED_FORM;SAD_WITH_REH_ISOLATED_FORM;DAD_WITH_REH_ISOLATED_FORM
TAH_WITH_ALEF_MAKSURA_FINAL_FORM;TAH_WITH_YEH_FINAL_FORM;AIN_WITH_ALEF_MAKSURA_FINAL_FORM
AIN_WITH_YEH_FINAL_FORM;GHAIN_WITH_ALEF_MAKSURA_FINAL_FORM;GHAIN_WITH_YEH_FINAL_FORM
SEEN_WITH_ALEF_MAKSURA_FINAL_FORM;SEEN_WITH_YEH_FINAL_FORM;SHEEN_WITH_ALEF_MAKSURA_FINAL_FORM
SHEEN_WITH_YEH_FINAL_FORM;HAH_WITH_ALEF_MAKSURA_FINAL_FORM;HAH_WITH_YEH_FINAL_FORM
JEEM_WITH_ALEF_MAKSURA_FINAL_FORM;JEEM_WITH_YEH_FINAL_FORM;KHAH_WITH_ALEF_MAKSURA_FINAL_FORM
KHAH_WITH_YEH_FINAL_FORM;SAD_WITH_ALEF_MAKSURA_FINAL_FORM;SAD_WITH_YEH_FINAL_FORM
DAD_WITH_ALEF_MAKSURA_FINAL_FORM;DAD_WITH_YEH_FINAL_FORM;SHEEN_WITH_JEEM_FINAL_FORM
SHEEN_WITH_HAH_FINAL_FORM;SHEEN_WITH_KHAH_FINAL_FORM;SHEEN_WITH_MEEM_FINAL_FORM
SHEEN_WITH_REH_FINAL_FORM;SEEN_WITH_REH_FINAL_FORM;SAD_WITH_REH_FINAL_FORM;DAD_WITH_REH_FINAL_FORM
SHEEN_WITH_JEEM_INITIAL_FORM;SHEEN_WITH_HAH_INITIAL_FORM;SHEEN_WITH_KHAH_INITIAL_FORM
SHEEN_WITH_MEEM_INITIAL_FORM;SEEN_WITH_HEH_INITIAL_FORM;SHEEN_WITH_HEH_INITIAL_FORM
TAH_WITH_MEEM_INITIAL_FORM;SEEN_WITH_JEEM_MEDIAL_FORM;SEEN_WITH_HAH_MEDIAL_FORM
SEEN_WITH_KHAH_MEDIAL_FORM;SHEEN_WITH_JEEM_MEDIAL_FORM;SHEEN_WITH_HAH_MEDIAL_FORM
SHEEN_WITH_KHAH_MEDIAL_FORM;TAH_WITH_MEEM_MEDIAL_FORM;ZAH_WITH_MEEM_MEDIAL_FORM
ALEF_WITH_FATHATAN_FINAL_FORM;ALEF_WITH_FATHATAN_ISOLATED_FORM
fd3e=ORNATE_;LEFT_PARENTHESIS;RIGHT_PARENTHESIS;fd40=;ARABIC_LIGATURE_RAHIMAHU_ALLAAH
fd41=ARABIC_LIGATURE_RADI_ALLAAHU_;ANH;ANHAA;ANHUM;ANHUMAA;ANHUNNA
fd46=ARABIC_LIGATURE_;SALLALLAAHU_ALAYHI_WA-AALIH;ALAYHI_AS-SALAAM;ALAYHIM_AS-SALAAM
ALAYHIMAA_AS-SALAAM;ALAYHI_AS-SALAATU_WAS-SALAAM;QUDDISA_SIRRAH
SALLALLAHU_ALAYHI_WAAALIHEE_WA-SALLAM;ALAYHAA_AS-SALAAM;TABAARAKA_WA-TAAALAA;RAHIMAHUM_ALLAAH
fd50=ARABIC_LIGATURE_TEH_WITH_;JEEM_WITH_MEEM_INITIAL_FORM;HAH_WITH_JEEM_FINAL_FORM
HAH_WITH_JEEM_INITIAL_FORM;HAH_WITH_MEEM_INITIAL_FORM;KHAH_WITH_MEEM_INITIAL_FORM
MEEM_WITH_JEEM_INITIAL_FORM;MEEM_WITH_HAH_INITIAL_FORM;MEEM_WITH_KHAH_INITIAL_FORM
fd58=ARABIC_LIGATURE_JEEM_WITH_MEEM_WITH_HAH_;FINAL_FORM;INITIAL_FORM
fd5a=ARABIC_LIGATURE_HAH_WITH_MEEM_WITH_;YEH_FINAL_FORM;ALEF_MAKSURA_FINAL_FORM
fd5c=ARABIC_LIGATURE_SEEN_WITH_;HAH_WITH_JEEM_INITIAL_FORM;JEEM_WITH_HAH_INITIAL_FORM
JEEM_WITH_ALEF_MAKSURA_FINAL_FORM
fd5f=ARABIC_LIGATURE_SEEN_WITH_MEEM_WITH_;HAH_FINAL_FORM;HAH_INITIAL_FORM;JEEM_INITIAL_FORM
MEEM_FINAL_FORM;MEEM_INITIAL_FORM
fd64=ARABIC_LIGATURE_SAD_WITH_;HAH_WITH_HAH_FINAL_FORM;HAH_WITH_HAH_INITIAL_FORM
MEEM_WITH_MEEM_FINAL_FORM;fd67=ARABIC_LIGATURE_SHEEN_WITH_;HAH_WITH_MEEM_FINAL_FORM
HAH_WITH_MEEM_INITIAL_FORM;JEEM_WITH_YEH_FINAL_FORM;MEEM_WITH_KHAH_FINAL_FORM
MEEM_WITH_KHAH_INITIAL_FORM;MEEM_WITH_MEEM_FINAL_FORM;MEEM_WITH_MEEM_INITIAL_FORM
fd6e=ARABIC_LIGATURE_DAD_WITH_;HAH_WITH_ALEF_MAKSURA_FINAL_FORM;KHAH_WITH_MEEM_FINAL_FORM
KHAH_WITH_MEEM_INITIAL_FORM
fd71=ARABIC_LIGATURE_TAH_WITH_MEEM_WITH_;HAH_FINAL_FORM;HAH_INITIAL_FORM;MEEM_INITIAL_FORM
YEH_FINAL_FORM;fd75=ARABIC_LIGATURE_AIN_WITH_;JEEM_WITH_MEEM_FINAL_FORM;MEEM_WITH_MEEM_FINAL_FORM
MEEM_WITH_MEEM_INITIAL_FORM;MEEM_WITH_ALEF_MAKSURA_FINAL_FORM
fd79=ARABIC_LIGATURE_GHAIN_WITH_MEEM_WITH_;MEEM_FINAL_FORM;YEH_FINAL_FORM;ALEF_MAKSURA_FINAL_FORM
fd7c=ARABIC_LIGATURE_FEH_WITH_KHAH_WITH_MEEM_;FINAL_FORM;INITIAL_FORM
fd7e=ARABIC_LIGATURE_QAF_WITH_MEEM_WITH_;HAH_FINAL_FORM;MEEM_FINAL_FORM
fd80=ARABIC_LIGATURE_LAM_WITH_;HAH_WITH_MEEM_FINAL_FORM;HAH_WITH_YEH_FINAL_FORM
HAH_WITH_ALEF_MAKSURA_FINAL_FORM;JEEM_WITH_JEEM_INITIAL_FORM;JEEM_WITH_JEEM_FINAL_FORM
KHAH_WITH_MEEM_FINAL_FORM;KHAH_WITH_MEEM_INITIAL_FORM;MEEM_WITH_HAH_FINAL_FORM
MEEM_WITH_HAH_INITIAL_FORM;fd89=ARABIC_LIGATURE_MEEM_WITH_;HAH_WITH_JEEM_INITIAL_FORM
HAH_WITH_MEEM_INITIAL_FORM;HAH_WITH_YEH_FINAL_FORM;JEEM_WITH_HAH_INITIAL_FORM
JEEM_WITH_MEEM_INITIAL_FORM;KHAH_WITH_JEEM_INITIAL_FORM;KHAH_WITH_MEEM_INITIAL_FORM
fd92=ARABIC_LIGATURE_;MEEM_WITH_JEEM_WITH_KHAH_INITIAL_FORM;HEH_WITH_MEEM_WITH_JEEM_INITIAL_FORM
HEH_WITH_MEEM_WITH_MEEM_INITIAL_FORM
fd95=ARABIC_LIGATURE_NOON_WITH_;HAH_WITH_MEEM_INITIAL_FORM;HAH_WITH_ALEF_MAKSURA_FINAL_FORM
JEEM_WITH_MEEM_FINAL_FORM;JEEM_WITH_MEEM_INITIAL_FORM;JEEM_WITH_ALEF_MAKSURA_FINAL_FORM
MEEM_WITH_YEH_FINAL_FORM;MEEM_WITH_ALEF_MAKSURA_FINAL_FORM
fd9c=ARABIC_LIGATURE_YEH_WITH_MEEM_WITH_MEEM_;FINAL_FORM;INITIAL_FORM
fd9e=;ARABIC_LIGATURE_BEH_WITH_KHAH_WITH_YEH_FINAL_FORM
fd9f=ARABIC_LIGATURE_TEH_WITH_;JEEM_WITH_YEH_FINAL_FORM;JEEM_WITH_ALEF_MAKSURA_FINAL_FORM
KHAH_WITH_YEH_FINAL_FORM;KHAH_WITH_ALEF_MAKSURA_FINAL_FORM;MEEM_WITH_YEH_FINAL_FORM
MEEM_WITH_ALEF_MAKSURA_FINAL_FORM;fda5=ARABIC_LIGATURE_;JEEM_WITH_MEEM_WITH_YEH_FINAL_FORM
JEEM_WITH_HAH_WITH_ALEF_MAKSURA_FINAL_FORM;JEEM_WITH_MEEM_WITH_ALEF_MAKSURA_FINAL_FORM
SEEN_WITH_KHAH_WITH_ALEF_MAKSURA_FINAL_FORM;SAD_WITH_HAH_WITH_YEH_FINAL_FORM
SHEEN_WITH_HAH_WITH_YEH_FINAL_FORM;DAD_WITH_HAH_WITH_YEH_FINAL_FORM
LAM_WITH_JEEM_WITH_YEH_FINAL_FORM;LAM_WITH_MEEM_WITH_YEH_FINAL_FORM;YEH_WITH_HAH_WITH_YEH_FINAL_FORM
YEH_WITH_JEEM_WITH_YEH_FINAL_FORM;YEH_WITH_MEEM_WITH_YEH_FINAL_FORM
MEEM_WITH_MEEM_WITH_YEH_FINAL_FORM;QAF_WITH_MEEM_WITH_YEH_FINAL_FORM
NOON_WITH_HAH_WITH_YEH_FINAL_FORM;QAF_WITH_MEEM_WITH_HAH_INITIAL_FORM
LAM_WITH_HAH_WITH_MEEM_INITIAL_FORM;AIN_WITH_MEEM_WITH_YEH_FINAL_FORM
KAF_WITH_MEEM_WITH_YEH_FINAL_FORM;NOON_WITH_JEEM_WITH_HAH_INITIAL_FORM
MEEM_WITH_KHAH_WITH_YEH_FINAL_FORM;LAM_WITH_JEEM_WITH_MEEM_INITIAL_FORM
KAF_WITH_MEEM_WITH_MEEM_FINAL_FORM;LAM_WITH_JEEM_WITH_MEEM_FINAL_FORM
NOON_WITH_JEEM_WITH_HAH_FINAL_FORM;JEEM_WITH_HAH_WITH_YEH_FINAL_FORM
HAH_WITH_JEEM_WITH_YEH_FINAL_FORM;MEEM_WITH_JEEM_WITH_YEH_FINAL_FORM
FEH_WITH_MEEM_WITH_YEH_FINAL_FORM;BEH_WITH_HAH_WITH_YEH_FINAL_FORM
KAF_WITH_MEEM_WITH_MEEM_INITIAL_FORM;AIN_WITH_JEEM_WITH_MEEM_INITIAL_FORM
SAD_WITH_MEEM_WITH_MEEM_INITIAL_FORM;SEEN_WITH_KHAH_WITH_YEH_FINAL_FORM
NOON_WITH_JEEM_WITH_YEH_FINAL_FORM;fdcf=;ARABIC_LIGATURE_SALAAMUHU_ALAYNAA
fdf0=ARABIC_LIGATURE_;SALLA_USED_AS_KORANIC_STOP_SIGN_ISOLATED_FORM
QALA_USED_AS_KORANIC_STOP_SIGN_ISOLATED_FORM;ALLAH_ISOLATED_FORM;AKBAR_ISOLATED_FORM
MOHAMMAD_ISOLATED_FORM;SALAM_ISOLATED_FORM;RASOUL_ISOLATED_FORM;ALAYHE_ISOLATED_FORM
WASALLAM_ISOLATED_FORM;SALLA_ISOLATED_FORM;SALLALLAHOU_ALAYHE_WASALLAM;JALLAJALALOUHOU
fdfc=;RIAL_SIGN;fdfd=ARABIC_LIGATURE_;BISMILLAH_AR-RAHMAN_AR-RAHEEM;SUBHAANAHU_WA_TAAALAA
AZZA_WA_JALL;fe00=VARIATION_SELECTOR-;1;2;3;4;5;6;7;8;9;10;11;12;13;14;15;16
fe10=PRESENTATION_FORM_FOR_VERTICAL_;COMMA;IDEOGRAPHIC_COMMA;IDEOGRAPHIC_FULL_STOP;COLON;SEMICOLON
EXCLAMATION_MARK;QUESTION_MARK;LEFT_WHITE_LENTICULAR_BRACKET;RIGHT_WHITE_LENTICULAR_BRAKCET
HORIZONTAL_ELLIPSIS;fe20=COMBINING_;LIGATURE_LEFT_HALF;LIGATURE_RIGHT_HALF;DOUBLE_TILDE_LEFT_HALF
DOUBLE_TILDE_RIGHT_HALF;MACRON_LEFT_HALF;MACRON_RIGHT_HALF;CONJOINING_MACRON
LIGATURE_LEFT_HALF_BELOW;LIGATURE_RIGHT_HALF_BELOW;TILDE_LEFT_HALF_BELOW;TILDE_RIGHT_HALF_BELOW
MACRON_LEFT_HALF_BELOW;MACRON_RIGHT_HALF_BELOW;CONJOINING_MACRON_BELOW;CYRILLIC_TITLO_LEFT_HALF
CYRILLIC_TITLO_RIGHT_HALF
fe30=PRESENTATION_FORM_FOR_VERTICAL_;TWO_DOT_LEADER;EM_DASH;EN_DASH;LOW_LINE;WAVY_LOW_LINE
LEFT_PARENTHESIS;RIGHT_PARENTHESIS;LEFT_CURLY_BRACKET;RIGHT_CURLY_BRACKET
LEFT_TORTOISE_SHELL_BRACKET;RIGHT_TORTOISE_SHELL_BRACKET;LEFT_BLACK_LENTICULAR_BRACKET
RIGHT_BLACK_LENTICULAR_BRACKET;LEFT_DOUBLE_ANGLE_BRACKET;RIGHT_DOUBLE_ANGLE_BRACKET
LEFT_ANGLE_BRACKET;RIGHT_ANGLE_BRACKET;LEFT_CORNER_BRACKET;RIGHT_CORNER_BRACKET
LEFT_WHITE_CORNER_BRACKET;RIGHT_WHITE_CORNER_BRACKET;fe45=;SESAME_DOT;WHITE_SESAME_DOT
fe47=PRESENTATION_FORM_FOR_VERTICAL_;LEFT_SQUARE_BRACKET;RIGHT_SQUARE_BRACKET
fe49=;DASHED_OVERLINE;CENTRELINE_OVERLINE;fe4b=;WAVY_OVERLINE;DOUBLE_WAVY_OVERLINE;DASHED_LOW_LINE
CENTRELINE_LOW_LINE;WAVY_LOW_LINE;fe50=SMALL_;COMMA;IDEOGRAPHIC_COMMA;FULL_STOP
fe54=SMALL_;SEMICOLON;COLON;QUESTION_MARK;EXCLAMATION_MARK;EM_DASH;LEFT_PARENTHESIS
RIGHT_PARENTHESIS;LEFT_CURLY_BRACKET;RIGHT_CURLY_BRACKET;LEFT_TORTOISE_SHELL_BRACKET
RIGHT_TORTOISE_SHELL_BRACKET;NUMBER_SIGN;AMPERSAND;ASTERISK;PLUS_SIGN;HYPHEN-MINUS;LESS-THAN_SIGN
GREATER-THAN_SIGN;EQUALS_SIGN;fe68=SMALL_;REVERSE_SOLIDUS;DOLLAR_SIGN;PERCENT_SIGN;COMMERCIAL_AT
fe70=ARABIC_;FATHATAN_ISOLATED_FORM;TATWEEL_WITH_FATHATAN_ABOVE;DAMMATAN_ISOLATED_FORM;TAIL_FRAGMENT
KASRATAN_ISOLATED_FORM;fe76=ARABIC_;FATHA_ISOLATED_FORM;FATHA_MEDIAL_FORM;DAMMA_ISOLATED_FORM
DAMMA_MEDIAL_FORM;KASRA_ISOLATED_FORM;KASRA_MEDIAL_FORM;SHADDA_ISOLATED_FORM;SHADDA_MEDIAL_FORM
SUKUN_ISOLATED_FORM;SUKUN_MEDIAL_FORM;LETTER_HAMZA_ISOLATED_FORM
fe81=ARABIC_LETTER_ALEF_WITH_;MADDA_ABOVE_ISOLATED_FORM;MADDA_ABOVE_FINAL_FORM
HAMZA_ABOVE_ISOLATED_FORM;HAMZA_ABOVE_FINAL_FORM
fe85=ARABIC_LETTER_WAW_WITH_HAMZA_ABOVE_;ISOLATED_FORM;FINAL_FORM
fe87=ARABIC_LETTER_ALEF_WITH_HAMZA_BELOW_;ISOLATED_FORM;FINAL_FORM
fe89=ARABIC_LETTER_YEH_WITH_HAMZA_ABOVE_;ISOLATED_FORM;FINAL_FORM;INITIAL_FORM;MEDIAL_FORM
fe8d=ARABIC_LETTER_;ALEF_ISOLATED_FORM;ALEF_FINAL_FORM;BEH_ISOLATED_FORM;BEH_FINAL_FORM
BEH_INITIAL_FORM;BEH_MEDIAL_FORM;TEH_MARBUTA_ISOLATED_FORM;TEH_MARBUTA_FINAL_FORM;TEH_ISOLATED_FORM
TEH_FINAL_FORM;TEH_INITIAL_FORM;TEH_MEDIAL_FORM;THEH_ISOLATED_FORM;THEH_FINAL_FORM;THEH_INITIAL_FORM
THEH_MEDIAL_FORM;JEEM_ISOLATED_FORM;JEEM_FINAL_FORM;JEEM_INITIAL_FORM;JEEM_MEDIAL_FORM
HAH_ISOLATED_FORM;HAH_FINAL_FORM;HAH_INITIAL_FORM;HAH_MEDIAL_FORM;KHAH_ISOLATED_FORM;KHAH_FINAL_FORM
KHAH_INITIAL_FORM;KHAH_MEDIAL_FORM;DAL_ISOLATED_FORM;DAL_FINAL_FORM;THAL_ISOLATED_FORM
THAL_FINAL_FORM;REH_ISOLATED_FORM;REH_FINAL_FORM;ZAIN_ISOLATED_FORM;ZAIN_FINAL_FORM
SEEN_ISOLATED_FORM;SEEN_FINAL_FORM;SEEN_INITIAL_FORM;SEEN_MEDIAL_FORM;SHEEN_ISOLATED_FORM
SHEEN_FINAL_FORM;SHEEN_INITIAL_FORM;SHEEN_MEDIAL_FORM;SAD_ISOLATED_FORM;SAD_FINAL_FORM
SAD_INITIAL_FORM;SAD_MEDIAL_FORM;DAD_ISOLATED_FORM;DAD_FINAL_FORM;DAD_INITIAL_FORM;DAD_MEDIAL_FORM
TAH_ISOLATED_FORM;TAH_FINAL_FORM;TAH_INITIAL_FORM;TAH_MEDIAL_FORM;ZAH_ISOLATED_FORM;ZAH_FINAL_FORM
ZAH_INITIAL_FORM;ZAH_MEDIAL_FORM;AIN_ISOLATED_FORM;AIN_FINAL_FORM;AIN_INITIAL_FORM;AIN_MEDIAL_FORM
GHAIN_ISOLATED_FORM;GHAIN_FINAL_FORM;GHAIN_INITIAL_FORM;GHAIN_MEDIAL_FORM;FEH_ISOLATED_FORM
FEH_FINAL_FORM;FEH_INITIAL_FORM;FEH_MEDIAL_FORM;QAF_ISOLATED_FORM;QAF_FINAL_FORM;QAF_INITIAL_FORM
QAF_MEDIAL_FORM;KAF_ISOLATED_FORM;KAF_FINAL_FORM;KAF_INITIAL_FORM;KAF_MEDIAL_FORM;LAM_ISOLATED_FORM
LAM_FINAL_FORM;LAM_INITIAL_FORM;LAM_MEDIAL_FORM;MEEM_ISOLATED_FORM;MEEM_FINAL_FORM;MEEM_INITIAL_FORM
MEEM_MEDIAL_FORM;NOON_ISOLATED_FORM;NOON_FINAL_FORM;NOON_INITIAL_FORM;NOON_MEDIAL_FORM
HEH_ISOLATED_FORM;HEH_FINAL_FORM;HEH_INITIAL_FORM;HEH_MEDIAL_FORM;WAW_ISOLATED_FORM;WAW_FINAL_FORM
ALEF_MAKSURA_ISOLATED_FORM;ALEF_MAKSURA_FINAL_FORM;YEH_ISOLATED_FORM;YEH_FINAL_FORM;YEH_INITIAL_FORM
YEH_MEDIAL_FORM;fef5=ARABIC_LIGATURE_LAM_WITH_ALEF_;WITH_MADDA_ABOVE_ISOLATED_FORM
WITH_MADDA_ABOVE_FINAL_FORM;WITH_HAMZA_ABOVE_ISOLATED_FORM;WITH_HAMZA_ABOVE_FINAL_FORM
WITH_HAMZA_BELOW_ISOLATED_FORM;WITH_HAMZA_BELOW_FINAL_FORM;ISOLATED_FORM;FINAL_FORM
feff=;ZERO_WIDTH_NO-BREAK_SPACE;ff01=FULLWIDTH_;EXCLAMATION_MARK;QUOTATION_MARK;NUMBER_SIGN
DOLLAR_SIGN;PERCENT_SIGN;AMPERSAND;APOSTROPHE;LEFT_PARENTHESIS;RIGHT_PARENTHESIS;ASTERISK;PLUS_SIGN
COMMA;HYPHEN-MINUS;FULL_STOP;SOLIDUS;ff10=FULLWIDTH_DIGIT_;ZERO;ONE;TWO;THREE;FOUR;FIVE;SIX;SEVEN
EIGHT;NINE;ff1a=FULLWIDTH_;COLON;SEMICOLON;LESS-THAN_SIGN;EQUALS_SIGN;GREATER-THAN_SIGN
QUESTION_MARK;COMMERCIAL_AT
ff21=FULLWIDTH_LATIN_CAPITAL_LETTER_;A;B;C;D;E;F;G;H;I;J;K;L;M;N;O;P;Q;R;S;T;U;V;W;X;Y;Z
ff3b=FULLWIDTH_;LEFT_SQUARE_BRACKET;REVERSE_SOLIDUS;RIGHT_SQUARE_BRACKET;CIRCUMFLEX_ACCENT;LOW_LINE
GRAVE_ACCENT;ff41=FULLWIDTH_LATIN_SMALL_LETTER_;A;B;C;D;E;F;G;H;I;J;K;L;M;N;O;P;Q;R;S;T;U;V;W;X;Y;Z
ff5b=FULLWIDTH_;LEFT_CURLY_BRACKET;VERTICAL_LINE;RIGHT_CURLY_BRACKET;TILDE;LEFT_WHITE_PARENTHESIS
RIGHT_WHITE_PARENTHESIS;ff61=HALFWIDTH_;IDEOGRAPHIC_FULL_STOP;LEFT_CORNER_BRACKET
RIGHT_CORNER_BRACKET;IDEOGRAPHIC_COMMA;KATAKANA_MIDDLE_DOT;KATAKANA_LETTER_WO
ff67=HALFWIDTH_KATAKANA_LETTER_SMALL_;A;I;U;E;O;YA;YU;YO;TU
ff70=;HALFWIDTH_KATAKANA-HIRAGANA_PROLONGED_SOUND_MARK
ff71=HALFWIDTH_KATAKANA_LETTER_;A;I;U;E;O;KA;KI;KU;KE;KO;SA;SI;SU;SE;SO;TA;TI;TU;TE;TO;NA;NI;NU;NE
NO;HA;HI;HU;HE;HO;MA;MI;MU;ME;MO;YA;YU;YO;RA;RI;RU;RE;RO;WA;N
ff9e=HALFWIDTH_;KATAKANA_VOICED_SOUND_MARK;KATAKANA_SEMI-VOICED_SOUND_MARK;HANGUL_FILLER
ffa1=HALFWIDTH_HANGUL_LETTER_;KIYEOK;SSANGKIYEOK;KIYEOK-SIOS;NIEUN;NIEUN-CIEUC;NIEUN-HIEUH;TIKEUT
SSANGTIKEUT;RIEUL;RIEUL-KIYEOK;RIEUL-MIEUM;RIEUL-PIEUP;RIEUL-SIOS;RIEUL-THIEUTH;RIEUL-PHIEUPH
RIEUL-HIEUH;MIEUM;PIEUP;SSANGPIEUP;PIEUP-SIOS;SIOS;SSANGSIOS;IEUNG;CIEUC;SSANGCIEUC;CHIEUCH;KHIEUKH
THIEUTH;PHIEUPH;HIEUH;ffc2=HALFWIDTH_HANGUL_LETTER_;A;AE;YA;YAE;EO;E
ffca=HALFWIDTH_HANGUL_LETTER_;YEO;YE;O;WA;WAE;OE
ffd2=HALFWIDTH_HANGUL_LETTER_;YO;U;WEO;WE;WI;YU
ffda=HALFWIDTH_HANGUL_LETTER_;EU;YI;I;ffe0=FULLWIDTH_;CENT_SIGN;POUND_SIGN;NOT_SIGN;MACRON
BROKEN_BAR;YEN_SIGN;WON_SIGN;ffe8=HALFWIDTH_;FORMS_LIGHT_VERTICAL;LEFTWARDS_ARROW;UPWARDS_ARROW
RIGHTWARDS_ARROW;DOWNWARDS_ARROW;BLACK_SQUARE;WHITE_CIRCLE
fff9=INTERLINEAR_ANNOTATION_;ANCHOR;SEPARATOR;TERMINATOR
fffc=;OBJECT_REPLACEMENT_CHARACTER;REPLACEMENT_CHARACTER"

end ShaderShrink.Text.NameTable
