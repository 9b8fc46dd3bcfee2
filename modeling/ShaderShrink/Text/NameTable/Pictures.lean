/-!
# Names of pictures

The signs of music and mathematics, and pictures.

A row begins with a code point in base sixteen and with what some names begin with; the ends of these
names follow, for one code point after the other.  A low line stands for a blank.
-/

namespace ShaderShrink.Text.NameTable

/-- The names of the characters behind the historic scripts. -/
def pictures : String :=
  "1cf00=ZNAMENNY_COMBINING_MARK_;GORAZDO_NIZKO_S_KRYZHEM_ON_LEFT;NIZKO_S_KRYZHEM_ON_LEFT;TSATA_ON_LEFT
GORAZDO_NIZKO_ON_LEFT;NIZKO_ON_LEFT;SREDNE_ON_LEFT;MALO_POVYSHE_ON_LEFT;POVYSHE_ON_LEFT
VYSOKO_ON_LEFT;MALO_POVYSHE_S_KHOKHLOM_ON_LEFT;POVYSHE_S_KHOKHLOM_ON_LEFT;VYSOKO_S_KHOKHLOM_ON_LEFT
GORAZDO_NIZKO_S_KRYZHEM_ON_RIGHT;NIZKO_S_KRYZHEM_ON_RIGHT;TSATA_ON_RIGHT;GORAZDO_NIZKO_ON_RIGHT
NIZKO_ON_RIGHT;SREDNE_ON_RIGHT;MALO_POVYSHE_ON_RIGHT;POVYSHE_ON_RIGHT;VYSOKO_ON_RIGHT
MALO_POVYSHE_S_KHOKHLOM_ON_RIGHT;POVYSHE_S_KHOKHLOM_ON_RIGHT;VYSOKO_S_KHOKHLOM_ON_RIGHT
TSATA_S_KRYZHEM;MALO_POVYSHE_S_KRYZHEM;STRANNO_MALO_POVYSHE;POVYSHE_S_KRYZHEM;POVYSHE_STRANNO
VYSOKO_S_KRYZHEM;MALO_POVYSHE_STRANNO;GORAZDO_VYSOKO;ZELO;ON;RAVNO;TIKHAYA;BORZAYA;UDARKA;PODVERTKA
LOMKA;KUPNAYA;KACHKA;ZEVOK;SKOBA;RAZSEKA;KRYZH_ON_LEFT
1cf30=ZNAMENNY_COMBINING_TONAL_RANGE_MARK_;MRACHNO;SVETLO;TRESVETLO
1cf33=ZNAMENNY_COMBINING_MARK_;ZADERZHKA;DEMESTVENNY_ZADERZHKA;OTSECHKA;PODCHASHIE
PODCHASHIE_WITH_VERTICAL_STROKE;CHASHKA;CHASHKA_POLNAYA;OBLACHKO;SOROCHYA_NOZHKA;TOCHKA;DVOETOCHIE
1cf3e=ZNAMENNY_COMBINING_;ATTACHING_VERTICAL_OMET;MARK_CURVED_OMET;MARK_KRYZH
LOWER_TONAL_RANGE_INDICATOR;1cf42=ZNAMENNY_PRIZNAK_MODIFIER_;LEVEL-2;LEVEL-3;DIRECTION_FLIP;KRYZH
ROG;1cf50=ZNAMENNY_NEUME_;KRYUK;KRYUK_TIKHY;PARAKLIT;DVA_V_CHELNU;KLYUCH;ZANOZHEK;STOPITSA
STOPITSA_S_OCHKOM;PEREVODKA;PEREVODKA_NEPOSTOYANNAYA;STOPITSA_WITH_SOROCHYA_NOZHKA;CHELYUSTKA;PALKA
ZAPYATAYA;1cf5e=ZNAMENNY_NEUME_GOLUBCHIK_;BORZY;TIKHY;MRACHNY;SVETLY;TRESVETLY
1cf63=ZNAMENNY_NEUME_VRAKHIYA_;PROSTAYA;MRACHNAYA;SVETLAYA;TRESVETLAYA
1cf67=ZNAMENNY_NEUME_VRAKHIYA_KLYUCHEVAYA_;PROSTAYA;MRACHNAYA;SVETLAYA;TRESVETLAYA
1cf6b=ZNAMENNY_NEUME_;DOUBLE_ZAPYATAYA;REVERSED_CHELYUSTKA;DERBITSA;KHAMILO;CHASHKA;PODCHASHIE
SKAMEYTSA_MRACHNAYA;SKAMEYTSA_SVETLAYA;SKAMEYTSA_TRESVETLAYA;SKAMEYTSA_TIKHAYA;DEMESTVENNY_KLYUCH
SKAMEYTSA_KLYUCHEVAYA_SVETLAYA;SKAMEYTSA_KLYUCHENEPOSTOYANNAYA;SKAMEYTSA_KLYUCHEVAYA_TIKHAYA
1cf79=ZNAMENNY_NEUME_SKAMEYTSA_DVOECHELNAYA_;PROSTAYA;SVETLAYA;NEPOSTOYANNAYA;KLYUCHEVAYA
1cf7d=ZNAMENNY_NEUME_;SLOZHITIE;SLOZHITIE_S_ZAPYATOY;SLOZHITIE_ZAKRYTOE;SLOZHITIE_S_KRYZHEM;KRYZH
ROG;FITA;KOBYLA;ZMEYTSA;STATYA;1cf87=ZNAMENNY_NEUME_STATYA_;S_ZAPYATOY;S_KRYZHEM
S_ZAPYATOY_I_KRYZHEM;S_KRYZHEM_I_ZAPYATOY;ZAKRYTAYA;ZAKRYTAYA_S_ZAPYATOY;S_ROGOM;S_DVUMYA_ZAPYATYMI
S_ZAPYATOY_I_PODCHASHIEM;1cf90=ZNAMENNY_NEUME_;POLKULIZMY;STATYA_NEPOSTOYANNAYA
1cf92=ZNAMENNY_NEUME_STRELA_;PROSTAYA;MRACHNOTIKHAYA;KRYZHEVAYA;POLUPOVODNAYA;POVODNAYA
NEPOSTOYANNAYA;KLYUCHEPOVODNAYA;KLYUCHENEPOSTOYANNAYA;TIKHAYA_PUTNAYA;DVOECHELNAYA
DVOECHELNOKRYZHEVAYA;DVOECHELNOPOVODNAYA;DVOECHELNAYA_KLYUCHEVAYA;DVOECHELNOPOVODNAYA_KLYUCHEVAYA
GROMNAYA_WITH_SINGLE_ZAPYATAYA;GROMOPOVODNAYA_WITH_SINGLE_ZAPYATAYA;GROMNAYA;GROMOPOVODNAYA
GROMOPOVODNAYA_WITH_DOUBLE_ZAPYATAYA;GROMOKRYZHEVAYA;GROMOKRYZHEVAYA_POVODNAYA
1cfa7=ZNAMENNY_NEUME_;MECHIK;MECHIK_POVODNY;MECHIK_KLYUCHEVOY;MECHIK_KLYUCHEPOVODNY
MECHIK_KLYUCHENEPOSTOYANNY;STRELA_TRYASOGLASNAYA;STRELA_TRYASOPOVODNAYA;STRELA_TRYASOSTRELNAYA;OSOKA
OSOKA_SVETLAYA;OSOKA_TRESVETLAYA;OSOKA_KRYUKOVAYA_SVETLAYA;OSOKA_KLYUCHEVAYA_SVETLAYA
OSOKA_KLYUCHEVAYA_NEPOSTOYANNAYA;STRELA_KRYUKOVAYA
1cfb6=ZNAMENNY_NEUME_STRELA_KRYUKOVAYA_;POVODNAYA;GROMNAYA_WITH_SINGLE_ZAPYATAYA
GROMOPOVODNAYA_WITH_SINGLE_ZAPYATAYA;GROMNAYA;GROMOPOVODNAYA;GROMOPOVODNAYA_WITH_DOUBLE_ZAPYATAYA
GROMOKRYZHEVAYA;GROMOKRYZHEVAYA_POVODNAYA;TRYASKA
1cfbf=ZNAMENNY_NEUME_;KUFISMA;OBLAKO;DUDA;NEMKA;PAUK
1d000=BYZANTINE_MUSICAL_SYMBOL_;PSILI;DASEIA;PERISPOMENI;OXEIA_EKFONITIKON;OXEIA_DIPLI
VAREIA_EKFONITIKON;VAREIA_DIPLI;KATHISTI;SYRMATIKI;PARAKLITIKI;YPOKRISIS;YPOKRISIS_DIPLI;KREMASTI
APESO_EKFONITIKON;EXO_EKFONITIKON;TELEIA;KENTIMATA;APOSTROFOS;APOSTROFOS_DIPLI;SYNEVMA;THITA
OLIGON_ARCHAION;GORGON_ARCHAION;PSILON;CHAMILON;VATHY;ISON_ARCHAION;KENTIMA_ARCHAION
KENTIMATA_ARCHAION;SAXIMATA;PARICHON;STAVROS_APODEXIA;OXEIAI_ARCHAION;VAREIAI_ARCHAION
APODERMA_ARCHAION;APOTHEMA;KLASMA;REVMA;PIASMA_ARCHAION;TINAGMA;ANATRICHISMA;SEISMA;SYNAGMA_ARCHAION
SYNAGMA_META_STAVROU;OYRANISMA_ARCHAION;THEMA;LEMOI;DYO;TRIA;TESSERA;KRATIMATA;APESO_EXO_NEO
FTHORA_ARCHAION;IMIFTHORA;TROMIKON_ARCHAION;KATAVA_TROMIKON;PELASTON;PSIFISTON;KONTEVMA
CHOREVMA_ARCHAION;RAPISMA;PARAKALESMA_ARCHAION;PARAKLITIKI_ARCHAION;ICHADIN;NANA;PETASMA
KONTEVMA_ALLO;TROMIKON_ALLO;STRAGGISMATA;GRONTHISMATA;ISON_NEO;OLIGON_NEO;OXEIA_NEO;PETASTI;KOUFISMA
PETASTOKOUFISMA;KRATIMOKOUFISMA;PELASTON_NEO;KENTIMATA_NEO_ANO;KENTIMA_NEO_ANO;YPSILI;APOSTROFOS_NEO
APOSTROFOI_SYNDESMOS_NEO;YPORROI;KRATIMOYPORROON;ELAFRON;CHAMILI;MIKRON_ISON;VAREIA_NEO;PIASMA_NEO
PSIFISTON_NEO;OMALON;ANTIKENOMA;LYGISMA;PARAKLITIKI_NEO;PARAKALESMA_NEO;ETERON_PARAKALESMA;KYLISMA
ANTIKENOKYLISMA;TROMIKON_NEO;EKSTREPTON;SYNAGMA_NEO;SYRMA;CHOREVMA_NEO;EPEGERMA;SEISMA_NEO
XIRON_KLASMA;TROMIKOPSIFISTON;PSIFISTOLYGISMA;TROMIKOLYGISMA;TROMIKOPARAKALESMA;PSIFISTOPARAKALESMA
TROMIKOSYNAGMA;PSIFISTOSYNAGMA;GORGOSYNTHETON;ARGOSYNTHETON;ETERON_ARGOSYNTHETON;OYRANISMA_NEO
THEMATISMOS_ESO;THEMATISMOS_EXO;THEMA_APLOUN;THES_KAI_APOTHES;KATAVASMA;ENDOFONON;YFEN_KATO;YFEN_ANO
STAVROS;KLASMA_ANO;DIPLI_ARCHAION;KRATIMA_ARCHAION;KRATIMA_ALLO;KRATIMA_NEO;APODERMA_NEO;APLI;DIPLI
TRIPLI;TETRAPLI;KORONIS;LEIMMA_ENOS_CHRONOU;LEIMMA_DYO_CHRONON;LEIMMA_TRION_CHRONON
LEIMMA_TESSARON_CHRONON;LEIMMA_IMISEOS_CHRONOU;GORGON_NEO_ANO;GORGON_PARESTIGMENON_ARISTERA
GORGON_PARESTIGMENON_DEXIA;DIGORGON;DIGORGON_PARESTIGMENON_ARISTERA_KATO
DIGORGON_PARESTIGMENON_ARISTERA_ANO;DIGORGON_PARESTIGMENON_DEXIA;TRIGORGON;ARGON;IMIDIARGON;DIARGON
1d09a=BYZANTINE_MUSICAL_SYMBOL_AGOGI_;POLI_ARGI;ARGOTERI;ARGI;METRIA;MESI;GORGI;GORGOTERI;POLI_GORGI
1d0a2=BYZANTINE_MUSICAL_SYMBOL_MARTYRIA_;PROTOS_ICHOS;ALLI_PROTOS_ICHOS;DEYTEROS_ICHOS
ALLI_DEYTEROS_ICHOS;TRITOS_ICHOS;TRIFONIAS;TETARTOS_ICHOS;TETARTOS_LEGETOS_ICHOS;LEGETOS_ICHOS
PLAGIOS_ICHOS;1d0ac=BYZANTINE_MUSICAL_SYMBOL_;ISAKIA_TELOUS_ICHIMATOS;APOSTROFOI_TELOUS_ICHIMATOS
FANEROSIS_TETRAFONIAS;FANEROSIS_MONOFONIAS;FANEROSIS_DIFONIAS;MARTYRIA_VARYS_ICHOS
MARTYRIA_PROTOVARYS_ICHOS;MARTYRIA_PLAGIOS_TETARTOS_ICHOS;GORTHMIKON_N_APLOUN;GORTHMIKON_N_DIPLOUN
ENARXIS_KAI_FTHORA_VOU;IMIFONON;IMIFTHORON
1d0b9=BYZANTINE_MUSICAL_SYMBOL_FTHORA_;ARCHAION_DEYTEROU_ICHOU;DIATONIKI_PA;DIATONIKI_NANA
NAOS_ICHOS;DIATONIKI_DI;SKLIRON_DIATONON_DI;DIATONIKI_KE;DIATONIKI_ZO;DIATONIKI_NI_KATO
DIATONIKI_NI_ANO;MALAKON_CHROMA_DIFONIAS;MALAKON_CHROMA_MONOFONIAS
1d0c5=BYZANTINE_MUSICAL_SYMBOL_;FHTORA_SKLIRON_CHROMA_VASIS;FTHORA_SKLIRON_CHROMA_SYNAFI
FTHORA_NENANO;CHROA_ZYGOS;CHROA_KLITON;CHROA_SPATHI;FTHORA_I_YFESIS_TETARTIMORION
FTHORA_ENARMONIOS_ANTIFONIA;YFESIS_TRITIMORION;DIESIS_TRITIMORION;DIESIS_TETARTIMORION
DIESIS_APLI_DYO_DODEKATA;DIESIS_MONOGRAMMOS_TESSERA_DODEKATA;DIESIS_DIGRAMMOS_EX_DODEKATA
DIESIS_TRIGRAMMOS_OKTO_DODEKATA;YFESIS_APLI_DYO_DODEKATA;YFESIS_MONOGRAMMOS_TESSERA_DODEKATA
YFESIS_DIGRAMMOS_EX_DODEKATA;YFESIS_TRIGRAMMOS_OKTO_DODEKATA;GENIKI_DIESIS;GENIKI_YFESIS
DIASTOLI_APLI_MIKRI;DIASTOLI_APLI_MEGALI;DIASTOLI_DIPLI;DIASTOLI_THESEOS;SIMANSIS_THESEOS
SIMANSIS_THESEOS_DISIMOU;SIMANSIS_THESEOS_TRISIMOU;SIMANSIS_THESEOS_TETRASIMOU;SIMANSIS_ARSEOS
SIMANSIS_ARSEOS_DISIMOU;SIMANSIS_ARSEOS_TRISIMOU;SIMANSIS_ARSEOS_TETRASIMOU;DIGRAMMA_GG;DIFTOGGOS_OU
STIGMA;ARKTIKO_PA;ARKTIKO_VOU;ARKTIKO_GA;ARKTIKO_DI;ARKTIKO_KE;ARKTIKO_ZO;ARKTIKO_NI
KENTIMATA_NEO_MESO;KENTIMA_NEO_MESO;KENTIMATA_NEO_KATO;KENTIMA_NEO_KATO;KLASMA_KATO;GORGON_NEO_KATO
1d100=MUSICAL_SYMBOL_;SINGLE_BARLINE;DOUBLE_BARLINE;FINAL_BARLINE;REVERSE_FINAL_BARLINE
DASHED_BARLINE;SHORT_BARLINE;LEFT_REPEAT_SIGN;RIGHT_REPEAT_SIGN;REPEAT_DOTS;DAL_SEGNO;DA_CAPO;SEGNO
CODA;REPEATED_FIGURE-1;REPEATED_FIGURE-2;REPEATED_FIGURE-3;FERMATA;FERMATA_BELOW;BREATH_MARK;CAESURA
BRACE;BRACKET;ONE-LINE_STAFF;TWO-LINE_STAFF;THREE-LINE_STAFF;FOUR-LINE_STAFF;FIVE-LINE_STAFF
SIX-LINE_STAFF;SIX-STRING_FRETBOARD;FOUR-STRING_FRETBOARD;G_CLEF;G_CLEF_OTTAVA_ALTA
G_CLEF_OTTAVA_BASSA;C_CLEF;F_CLEF;F_CLEF_OTTAVA_ALTA;F_CLEF_OTTAVA_BASSA;DRUM_CLEF-1;DRUM_CLEF-2
1d129=MUSICAL_SYMBOL_;MULTIPLE_MEASURE_REST;DOUBLE_SHARP;DOUBLE_FLAT;FLAT_UP;FLAT_DOWN;NATURAL_UP
NATURAL_DOWN;SHARP_UP;SHARP_DOWN;QUARTER_TONE_SHARP;QUARTER_TONE_FLAT;COMMON_TIME;CUT_TIME
OTTAVA_ALTA;OTTAVA_BASSA;QUINDICESIMA_ALTA;QUINDICESIMA_BASSA;MULTI_REST;WHOLE_REST;HALF_REST
QUARTER_REST;EIGHTH_REST;SIXTEENTH_REST;THIRTY-SECOND_REST;SIXTY-FOURTH_REST
ONE_HUNDRED_TWENTY-EIGHTH_REST;X_NOTEHEAD;PLUS_NOTEHEAD;CIRCLE_X_NOTEHEAD;SQUARE_NOTEHEAD_WHITE
SQUARE_NOTEHEAD_BLACK
1d148=MUSICAL_SYMBOL_TRIANGLE_NOTEHEAD_;UP_WHITE;UP_BLACK;LEFT_WHITE;LEFT_BLACK;RIGHT_WHITE
RIGHT_BLACK;DOWN_WHITE;DOWN_BLACK;UP_RIGHT_WHITE;UP_RIGHT_BLACK
1d152=MUSICAL_SYMBOL_;MOON_NOTEHEAD_WHITE;MOON_NOTEHEAD_BLACK;TRIANGLE-ROUND_NOTEHEAD_DOWN_WHITE
TRIANGLE-ROUND_NOTEHEAD_DOWN_BLACK;PARENTHESIS_NOTEHEAD;VOID_NOTEHEAD;NOTEHEAD_BLACK;NULL_NOTEHEAD
CLUSTER_NOTEHEAD_WHITE;CLUSTER_NOTEHEAD_BLACK;BREVE;WHOLE_NOTE;HALF_NOTE;QUARTER_NOTE;EIGHTH_NOTE
SIXTEENTH_NOTE;THIRTY-SECOND_NOTE;SIXTY-FOURTH_NOTE;ONE_HUNDRED_TWENTY-EIGHTH_NOTE
1d165=MUSICAL_SYMBOL_COMBINING_;STEM;SPRECHGESANG_STEM;TREMOLO-1;TREMOLO-2;TREMOLO-3
1d16a=MUSICAL_SYMBOL_FINGERED_TREMOLO-;1;2;3
1d16d=MUSICAL_SYMBOL_COMBINING_;AUGMENTATION_DOT;FLAG-1;FLAG-2;FLAG-3;FLAG-4;FLAG-5
1d173=MUSICAL_SYMBOL_;BEGIN_BEAM;END_BEAM;BEGIN_TIE;END_TIE;BEGIN_SLUR;END_SLUR;BEGIN_PHRASE
END_PHRASE;1d17b=MUSICAL_SYMBOL_COMBINING_;ACCENT;STACCATO;TENUTO;STACCATISSIMO;MARCATO
MARCATO-STACCATO;ACCENT-STACCATO;LOURE
1d183=MUSICAL_SYMBOL_ARPEGGIATO_;UP;DOWN
1d185=MUSICAL_SYMBOL_COMBINING_;DOIT;RIP;FLIP;SMEAR;BEND;DOUBLE_TONGUE;TRIPLE_TONGUE
1d18c=MUSICAL_SYMBOL_;RINFORZANDO;SUBITO;Z;PIANO;MEZZO;FORTE;CRESCENDO;DECRESCENDO;GRACE_NOTE_SLASH
GRACE_NOTE_NO_SLASH;TR;TURN;INVERTED_TURN;TURN_SLASH;TURN_UP
1d19b=MUSICAL_SYMBOL_ORNAMENT_STROKE-;1;2;3;4;5;6;7;8;9;10;11
1d1a6=MUSICAL_SYMBOL_;HAUPTSTIMME;NEBENSTIMME;END_OF_STIMME;DEGREE_SLASH;COMBINING_DOWN_BOW
COMBINING_UP_BOW;COMBINING_HARMONIC;COMBINING_SNAP_PIZZICATO;PEDAL_MARK;PEDAL_UP_MARK
HALF_PEDAL_MARK;GLISSANDO_UP;GLISSANDO_DOWN;WITH_FINGERNAILS;DAMP;DAMP_ALL;MAXIMA;LONGA;BREVIS
SEMIBREVIS_WHITE;SEMIBREVIS_BLACK;MINIMA;MINIMA_BLACK;SEMIMINIMA_WHITE;SEMIMINIMA_BLACK;FUSA_WHITE
FUSA_BLACK;LONGA_PERFECTA_REST;LONGA_IMPERFECTA_REST;BREVIS_REST;SEMIBREVIS_REST;MINIMA_REST
SEMIMINIMA_REST
1d1c7=MUSICAL_SYMBOL_TEMPUS_PERFECTUM_CUM_PROLATIONE_;PERFECTA;IMPERFECTA;PERFECTA_DIMINUTION-1
1d1ca=MUSICAL_SYMBOL_TEMPUS_IMPERFECTUM_CUM_PROLATIONE_;PERFECTA;IMPERFECTA;IMPERFECTA_DIMINUTION-1
IMPERFECTA_DIMINUTION-2;IMPERFECTA_DIMINUTION-3
1d1cf=MUSICAL_SYMBOL_;CROIX;GREGORIAN_C_CLEF;GREGORIAN_F_CLEF;SQUARE_B;VIRGA;PODATUS;CLIVIS
SCANDICUS;CLIMACUS;TORCULUS;PORRECTUS;PORRECTUS_FLEXUS;SCANDICUS_FLEXUS;TORCULUS_RESUPINUS
PES_SUBPUNCTIS;1d1de=MUSICAL_SYMBOL_KIEVAN_;C_CLEF;END_OF_PIECE;FINAL_NOTE;RECITATIVE_MARK
WHOLE_NOTE;HALF_NOTE;QUARTER_NOTE_STEM_DOWN;QUARTER_NOTE_STEM_UP;EIGHTH_NOTE_STEM_DOWN
EIGHTH_NOTE_STEM_UP;FLAT_SIGN;1d1e9=MUSICAL_SYMBOL_;SORI;KORON
1d200=GREEK_VOCAL_NOTATION_SYMBOL-;1;2;3;4;5;6;7;8;9;10;11;12;13;14;15;16;17;18;19;20;21;22;23;24;50
51;52;53;54;1d21d=GREEK_INSTRUMENTAL_NOTATION_SYMBOL-;1;2;4;5;7;8;11;12;13;14;17;18;19;23;24;25;26
27;29;30;32;36;37;38;39;40;42;43;45;47;48;49;50;51;52;53;54
1d242=COMBINING_GREEK_MUSICAL_;TRISEME;TETRASEME;PENTASEME
1d245=;GREEK_MUSICAL_LEIMMA;1d2e0=MAYAN_NUMERAL_;ZERO;ONE;TWO;THREE;FOUR;FIVE;SIX;SEVEN;EIGHT;NINE
TEN;ELEVEN;TWELVE;THIRTEEN;FOURTEEN;FIFTEEN;SIXTEEN;SEVENTEEN;EIGHTEEN;NINETEEN
1d300=;MONOGRAM_FOR_EARTH;1d301=DIGRAM_FOR_;HEAVENLY_EARTH;HUMAN_EARTH;EARTHLY_HEAVEN;EARTHLY_HUMAN
EARTH;1d306=TETRAGRAM_FOR_;CENTRE;FULL_CIRCLE;MIRED;BARRIER;KEEPING_SMALL;CONTRARIETY;ASCENT
OPPOSITION;BRANCHING_OUT;DEFECTIVENESS_OR_DISTORTION;DIVERGENCE;YOUTHFULNESS;INCREASE;PENETRATION
REACH;CONTACT;HOLDING_BACK;WAITING;FOLLOWING;ADVANCE;RELEASE;RESISTANCE;EASE;JOY;CONTENTION
ENDEAVOUR;DUTIES;CHANGE;DECISIVENESS;BOLD_RESOLUTION;PACKING;LEGION;CLOSENESS;KINSHIP;GATHERING
STRENGTH;PURITY;FULLNESS;RESIDENCE;LAW_OR_MODEL;RESPONSE;GOING_TO_MEET;ENCOUNTERS;STOVE;GREATNESS
ENLARGEMENT;PATTERN;RITUAL;FLIGHT;VASTNESS_OR_WASTING;CONSTANCY;MEASURE;ETERNITY;UNITY;DIMINISHMENT
CLOSED_MOUTH;GUARDEDNESS;GATHERING_IN;MASSING;ACCUMULATION;EMBELLISHMENT;DOUBT;WATCH;SINKING;INNER
DEPARTURE;DARKENING;DIMMING;EXHAUSTION;SEVERANCE;STOPPAGE;HARDNESS;COMPLETION;CLOSURE;FAILURE
AGGRAVATION;COMPLIANCE;ON_THE_VERGE;DIFFICULTIES;LABOURING;FOSTERING
1d360=COUNTING_ROD_UNIT_DIGIT_;ONE;TWO;THREE;FOUR;FIVE;SIX;SEVEN;EIGHT;NINE
1d369=COUNTING_ROD_TENS_DIGIT_;ONE;TWO;THREE;FOUR;FIVE;SIX;SEVEN;EIGHT;NINE
1d372=IDEOGRAPHIC_TALLY_MARK_;ONE;TWO;THREE;FOUR;FIVE
1d377=TALLY_MARK_;ONE;FIVE;1d400=MATHEMATICAL_BOLD_CAPITAL_;A;B;C;D;E;F;G;H;I;J;K;L;M;N;O;P;Q;R;S;T
U;V;W;X;Y;Z;1d41a=MATHEMATICAL_BOLD_SMALL_;A;B;C;D;E;F;G;H;I;J;K;L;M;N;O;P;Q;R;S;T;U;V;W;X;Y;Z
1d434=MATHEMATICAL_ITALIC_CAPITAL_;A;B;C;D;E;F;G;H;I;J;K;L;M;N;O;P;Q;R;S;T;U;V;W;X;Y;Z
1d44e=MATHEMATICAL_ITALIC_SMALL_;A;B;C;D;E;F;G
1d456=MATHEMATICAL_ITALIC_SMALL_;I;J;K;L;M;N;O;P;Q;R;S;T;U;V;W;X;Y;Z
1d468=MATHEMATICAL_BOLD_ITALIC_CAPITAL_;A;B;C;D;E;F;G;H;I;J;K;L;M;N;O;P;Q;R;S;T;U;V;W;X;Y;Z
1d482=MATHEMATICAL_BOLD_ITALIC_SMALL_;A;B;C;D;E;F;G;H;I;J;K;L;M;N;O;P;Q;R;S;T;U;V;W;X;Y;Z
1d49c=;MATHEMATICAL_SCRIPT_CAPITAL_A
1d49e=MATHEMATICAL_SCRIPT_CAPITAL_;C;D;1d4a2=;MATHEMATICAL_SCRIPT_CAPITAL_G
1d4a5=MATHEMATICAL_SCRIPT_CAPITAL_;J;K
1d4a9=MATHEMATICAL_SCRIPT_CAPITAL_;N;O;P;Q
1d4ae=MATHEMATICAL_SCRIPT_CAPITAL_;S;T;U;V;W;X;Y;Z
1d4b6=MATHEMATICAL_SCRIPT_SMALL_;A;B;C;D;1d4bb=;MATHEMATICAL_SCRIPT_SMALL_F
1d4bd=MATHEMATICAL_SCRIPT_SMALL_;H;I;J;K;L;M;N
1d4c5=MATHEMATICAL_SCRIPT_SMALL_;P;Q;R;S;T;U;V;W;X;Y;Z
1d4d0=MATHEMATICAL_BOLD_SCRIPT_CAPITAL_;A;B;C;D;E;F;G;H;I;J;K;L;M;N;O;P;Q;R;S;T;U;V;W;X;Y;Z
1d4ea=MATHEMATICAL_BOLD_SCRIPT_SMALL_;A;B;C;D;E;F;G;H;I;J;K;L;M;N;O;P;Q;R;S;T;U;V;W;X;Y;Z
1d504=MATHEMATICAL_FRAKTUR_CAPITAL_;A;B
1d507=MATHEMATICAL_FRAKTUR_CAPITAL_;D;E;F;G
1d50d=MATHEMATICAL_FRAKTUR_CAPITAL_;J;K;L;M;N;O;P;Q
1d516=MATHEMATICAL_FRAKTUR_CAPITAL_;S;T;U;V;W;X;Y
1d51e=MATHEMATICAL_FRAKTUR_SMALL_;A;B;C;D;E;F;G;H;I;J;K;L;M;N;O;P;Q;R;S;T;U;V;W;X;Y;Z
1d538=MATHEMATICAL_DOUBLE-STRUCK_CAPITAL_;A;B
1d53b=MATHEMATICAL_DOUBLE-STRUCK_CAPITAL_;D;E;F;G
1d540=MATHEMATICAL_DOUBLE-STRUCK_CAPITAL_;I;J;K;L;M;1d546=;MATHEMATICAL_DOUBLE-STRUCK_CAPITAL_O
1d54a=MATHEMATICAL_DOUBLE-STRUCK_CAPITAL_;S;T;U;V;W;X;Y
1d552=MATHEMATICAL_DOUBLE-STRUCK_SMALL_;A;B;C;D;E;F;G;H;I;J;K;L;M;N;O;P;Q;R;S;T;U;V;W;X;Y;Z
1d56c=MATHEMATICAL_BOLD_FRAKTUR_CAPITAL_;A;B;C;D;E;F;G;H;I;J;K;L;M;N;O;P;Q;R;S;T;U;V;W;X;Y;Z
1d586=MATHEMATICAL_BOLD_FRAKTUR_SMALL_;A;B;C;D;E;F;G;H;I;J;K;L;M;N;O;P;Q;R;S;T;U;V;W;X;Y;Z
1d5a0=MATHEMATICAL_SANS-SERIF_CAPITAL_;A;B;C;D;E;F;G;H;I;J;K;L;M;N;O;P;Q;R;S;T;U;V;W;X;Y;Z
1d5ba=MATHEMATICAL_SANS-SERIF_SMALL_;A;B;C;D;E;F;G;H;I;J;K;L;M;N;O;P;Q;R;S;T;U;V;W;X;Y;Z
1d5d4=MATHEMATICAL_SANS-SERIF_BOLD_CAPITAL_;A;B;C;D;E;F;G;H;I;J;K;L;M;N;O;P;Q;R;S;T;U;V;W;X;Y;Z
1d5ee=MATHEMATICAL_SANS-SERIF_BOLD_SMALL_;A;B;C;D;E;F;G;H;I;J;K;L;M;N;O;P;Q;R;S;T;U;V;W;X;Y;Z
1d608=MATHEMATICAL_SANS-SERIF_ITALIC_CAPITAL_;A;B;C;D;E;F;G;H;I;J;K;L;M;N;O;P;Q;R;S;T;U;V;W;X;Y;Z
1d622=MATHEMATICAL_SANS-SERIF_ITALIC_SMALL_;A;B;C;D;E;F;G;H;I;J;K;L;M;N;O;P;Q;R;S;T;U;V;W;X;Y;Z
1d63c=MATHEMATICAL_SANS-SERIF_BOLD_ITALIC_CAPITAL_;A;B;C;D;E;F;G;H;I;J;K;L;M;N;O;P;Q;R;S;T;U;V;W;X;Y
Z;1d656=MATHEMATICAL_SANS-SERIF_BOLD_ITALIC_SMALL_;A;B;C;D;E;F;G;H;I;J;K;L;M;N;O;P;Q;R;S;T;U;V;W;X;Y
Z;1d670=MATHEMATICAL_MONOSPACE_CAPITAL_;A;B;C;D;E;F;G;H;I;J;K;L;M;N;O;P;Q;R;S;T;U;V;W;X;Y;Z
1d68a=MATHEMATICAL_MONOSPACE_SMALL_;A;B;C;D;E;F;G;H;I;J;K;L;M;N;O;P;Q;R;S;T;U;V;W;X;Y;Z
1d6a4=MATHEMATICAL_ITALIC_SMALL_DOTLESS_;I;J
1d6a8=MATHEMATICAL_BOLD_CAPITAL_;ALPHA;BETA;GAMMA;DELTA;EPSILON;ZETA;ETA;THETA;IOTA;KAPPA;LAMDA;MU
NU;XI;OMICRON;PI;RHO;THETA_SYMBOL;SIGMA;TAU;UPSILON;PHI;CHI;PSI;OMEGA
1d6c1=;MATHEMATICAL_BOLD_NABLA
1d6c2=MATHEMATICAL_BOLD_SMALL_;ALPHA;BETA;GAMMA;DELTA;EPSILON;ZETA;ETA;THETA;IOTA;KAPPA;LAMDA;MU;NU
XI;OMICRON;PI;RHO;FINAL_SIGMA;SIGMA;TAU;UPSILON;PHI;CHI;PSI;OMEGA
1d6db=MATHEMATICAL_BOLD_;PARTIAL_DIFFERENTIAL;EPSILON_SYMBOL;THETA_SYMBOL;KAPPA_SYMBOL;PHI_SYMBOL
RHO_SYMBOL;PI_SYMBOL;1d6e2=MATHEMATICAL_ITALIC_CAPITAL_;ALPHA;BETA;GAMMA;DELTA;EPSILON;ZETA;ETA
THETA;IOTA;KAPPA;LAMDA;MU;NU;XI;OMICRON;PI;RHO;THETA_SYMBOL;SIGMA;TAU;UPSILON;PHI;CHI;PSI;OMEGA
1d6fb=;MATHEMATICAL_ITALIC_NABLA
1d6fc=MATHEMATICAL_ITALIC_SMALL_;ALPHA;BETA;GAMMA;DELTA;EPSILON;ZETA;ETA;THETA;IOTA;KAPPA;LAMDA;MU
NU;XI;OMICRON;PI;RHO;FINAL_SIGMA;SIGMA;TAU;UPSILON;PHI;CHI;PSI;OMEGA
1d715=MATHEMATICAL_ITALIC_;PARTIAL_DIFFERENTIAL;EPSILON_SYMBOL;THETA_SYMBOL;KAPPA_SYMBOL;PHI_SYMBOL
RHO_SYMBOL;PI_SYMBOL;1d71c=MATHEMATICAL_BOLD_ITALIC_CAPITAL_;ALPHA;BETA;GAMMA;DELTA;EPSILON;ZETA;ETA
THETA;IOTA;KAPPA;LAMDA;MU;NU;XI;OMICRON;PI;RHO;THETA_SYMBOL;SIGMA;TAU;UPSILON;PHI;CHI;PSI;OMEGA
1d735=;MATHEMATICAL_BOLD_ITALIC_NABLA
1d736=MATHEMATICAL_BOLD_ITALIC_SMALL_;ALPHA;BETA;GAMMA;DELTA;EPSILON;ZETA;ETA;THETA;IOTA;KAPPA;LAMDA
MU;NU;XI;OMICRON;PI;RHO;FINAL_SIGMA;SIGMA;TAU;UPSILON;PHI;CHI;PSI;OMEGA
1d74f=MATHEMATICAL_BOLD_ITALIC_;PARTIAL_DIFFERENTIAL;EPSILON_SYMBOL;THETA_SYMBOL;KAPPA_SYMBOL
PHI_SYMBOL;RHO_SYMBOL;PI_SYMBOL
1d756=MATHEMATICAL_SANS-SERIF_BOLD_CAPITAL_;ALPHA;BETA;GAMMA;DELTA;EPSILON;ZETA;ETA;THETA;IOTA;KAPPA
LAMDA;MU;NU;XI;OMICRON;PI;RHO;THETA_SYMBOL;SIGMA;TAU;UPSILON;PHI;CHI;PSI;OMEGA
1d76f=;MATHEMATICAL_SANS-SERIF_BOLD_NABLA
1d770=MATHEMATICAL_SANS-SERIF_BOLD_SMALL_;ALPHA;BETA;GAMMA;DELTA;EPSILON;ZETA;ETA;THETA;IOTA;KAPPA
LAMDA;MU;NU;XI;OMICRON;PI;RHO;FINAL_SIGMA;SIGMA;TAU;UPSILON;PHI;CHI;PSI;OMEGA
1d789=MATHEMATICAL_SANS-SERIF_BOLD_;PARTIAL_DIFFERENTIAL;EPSILON_SYMBOL;THETA_SYMBOL;KAPPA_SYMBOL
PHI_SYMBOL;RHO_SYMBOL;PI_SYMBOL
1d790=MATHEMATICAL_SANS-SERIF_BOLD_ITALIC_CAPITAL_;ALPHA;BETA;GAMMA;DELTA;EPSILON;ZETA;ETA;THETA
IOTA;KAPPA;LAMDA;MU;NU;XI;OMICRON;PI;RHO;THETA_SYMBOL;SIGMA;TAU;UPSILON;PHI;CHI;PSI;OMEGA
1d7a9=;MATHEMATICAL_SANS-SERIF_BOLD_ITALIC_NABLA
1d7aa=MATHEMATICAL_SANS-SERIF_BOLD_ITALIC_SMALL_;ALPHA;BETA;GAMMA;DELTA;EPSILON;ZETA;ETA;THETA;IOTA
KAPPA;LAMDA;MU;NU;XI;OMICRON;PI;RHO;FINAL_SIGMA;SIGMA;TAU;UPSILON;PHI;CHI;PSI;OMEGA
1d7c3=MATHEMATICAL_SANS-SERIF_BOLD_ITALIC_;PARTIAL_DIFFERENTIAL;EPSILON_SYMBOL;THETA_SYMBOL
KAPPA_SYMBOL;PHI_SYMBOL;RHO_SYMBOL;PI_SYMBOL
1d7ca=MATHEMATICAL_BOLD_;CAPITAL_DIGAMMA;SMALL_DIGAMMA
1d7ce=MATHEMATICAL_BOLD_DIGIT_;ZERO;ONE;TWO;THREE;FOUR;FIVE;SIX;SEVEN;EIGHT;NINE
1d7d8=MATHEMATICAL_DOUBLE-STRUCK_DIGIT_;ZERO;ONE;TWO;THREE;FOUR;FIVE;SIX;SEVEN;EIGHT;NINE
1d7e2=MATHEMATICAL_SANS-SERIF_DIGIT_;ZERO;ONE;TWO;THREE;FOUR;FIVE;SIX;SEVEN;EIGHT;NINE
1d7ec=MATHEMATICAL_SANS-SERIF_BOLD_DIGIT_;ZERO;ONE;TWO;THREE;FOUR;FIVE;SIX;SEVEN;EIGHT;NINE
1d7f6=MATHEMATICAL_MONOSPACE_DIGIT_;ZERO;ONE;TWO;THREE;FOUR;FIVE;SIX;SEVEN;EIGHT;NINE
1d800=SIGNWRITING_HAND-;FIST_INDEX;CIRCLE_INDEX;CUP_INDEX;OVAL_INDEX;HINGE_INDEX;ANGLE_INDEX
FIST_INDEX_BENT;CIRCLE_INDEX_BENT;FIST_THUMB_UNDER_INDEX_BENT;FIST_INDEX_RAISED_KNUCKLE
FIST_INDEX_CUPPED;FIST_INDEX_HINGED;FIST_INDEX_HINGED_LOW;CIRCLE_INDEX_HINGE;FIST_INDEX_MIDDLE
CIRCLE_INDEX_MIDDLE;1d810=SIGNWRITING_HAND-FIST_INDEX_;MIDDLE_BENT;MIDDLE_RAISED_KNUCKLES
MIDDLE_HINGED;UP_MIDDLE_HINGED;HINGED_MIDDLE_UP;MIDDLE_CONJOINED
1d816=SIGNWRITING_HAND-FIST_INDEX_MIDDLE_CONJOINED_;INDEX_BENT;MIDDLE_BENT;CUPPED;HINGED
1d81a=SIGNWRITING_HAND-;FIST_INDEX_MIDDLE_CROSSED;CIRCLE_INDEX_MIDDLE_CROSSED
FIST_MIDDLE_BENT_OVER_INDEX;FIST_INDEX_BENT_OVER_MIDDLE;FIST_INDEX_MIDDLE_THUMB
CIRCLE_INDEX_MIDDLE_THUMB;1d820=SIGNWRITING_HAND-FIST_INDEX_;MIDDLE_STRAIGHT_THUMB_BENT
MIDDLE_BENT_THUMB_STRAIGHT;MIDDLE_THUMB_BENT;MIDDLE_HINGED_SPREAD_THUMB_SIDE
UP_MIDDLE_HINGED_THUMB_SIDE;UP_MIDDLE_HINGED_THUMB_CONJOINED;HINGED_MIDDLE_UP_THUMB_SIDE
MIDDLE_UP_SPREAD_THUMB_FORWARD
1d828=SIGNWRITING_HAND-FIST_INDEX_MIDDLE_THUMB_;CUPPED;CIRCLED;HOOKED;HINGED
1d82c=SIGNWRITING_HAND-FIST_;THUMB_BETWEEN_INDEX_MIDDLE_STRAIGHT;INDEX_MIDDLE_CONJOINED_THUMB_SIDE
INDEX_MIDDLE_CONJOINED_THUMB_SIDE_CONJOINED;INDEX_MIDDLE_CONJOINED_THUMB_SIDE_BENT
MIDDLE_THUMB_HOOKED_INDEX_UP;INDEX_THUMB_HOOKED_MIDDLE_UP;INDEX_MIDDLE_CONJOINED_HINGED_THUMB_SIDE
INDEX_MIDDLE_CROSSED_THUMB_SIDE;INDEX_MIDDLE_CONJOINED_THUMB_FORWARD
INDEX_MIDDLE_CONJOINED_CUPPED_THUMB_FORWARD;MIDDLE_THUMB_CUPPED_INDEX_UP
INDEX_THUMB_CUPPED_MIDDLE_UP;MIDDLE_THUMB_CIRCLED_INDEX_UP;MIDDLE_THUMB_CIRCLED_INDEX_HINGED
INDEX_THUMB_ANGLED_OUT_MIDDLE_UP;INDEX_THUMB_ANGLED_IN_MIDDLE_UP;INDEX_THUMB_CIRCLED_MIDDLE_UP
1d83d=SIGNWRITING_HAND-FIST_INDEX_MIDDLE_THUMB_;CONJOINED_HINGED;ANGLED_OUT;ANGLED
1d840=SIGNWRITING_HAND-FIST_MIDDLE_THUMB_ANGLED_;OUT_INDEX_UP;OUT_INDEX_CROSSED;INDEX_UP
1d843=SIGNWRITING_HAND-;FIST_INDEX_THUMB_HOOKED_MIDDLE_HINGED;FLAT_FOUR_FINGERS
1d845=SIGNWRITING_HAND-FLAT_FOUR_FINGERS_;BENT;HINGED;CONJOINED;CONJOINED_SPLIT
1d849=SIGNWRITING_HAND-;CLAW_FOUR_FINGERS_CONJOINED;FIST_FOUR_FINGERS_CONJOINED_BENT
HINGE_FOUR_FINGERS_CONJOINED;FLAT_FIVE_FINGERS_SPREAD;FLAT_HEEL_FIVE_FINGERS_SPREAD
FLAT_FIVE_FINGERS_SPREAD_FOUR_BENT;FLAT_HEEL_FIVE_FINGERS_SPREAD_FOUR_BENT
FLAT_FIVE_FINGERS_SPREAD_BENT;FLAT_HEEL_FIVE_FINGERS_SPREAD_BENT
FLAT_FIVE_FINGERS_SPREAD_THUMB_FORWARD;CUP_FIVE_FINGERS_SPREAD;CUP_FIVE_FINGERS_SPREAD_OPEN
HINGE_FIVE_FINGERS_SPREAD_OPEN;OVAL_FIVE_FINGERS_SPREAD
1d857=SIGNWRITING_HAND-FLAT_FIVE_FINGERS_SPREAD_;HINGED;HINGED_THUMB_SIDE;HINGED_NO_THUMB
1d85a=;SIGNWRITING_HAND-FLAT;1d85b=SIGNWRITING_HAND-FLAT_;BETWEEN_PALM_FACINGS;HEEL;THUMB_SIDE
HEEL_THUMB_SIDE;THUMB_BENT;THUMB_FORWARD;SPLIT_INDEX_THUMB_SIDE;SPLIT_CENTRE;SPLIT_CENTRE_THUMB_SIDE
SPLIT_CENTRE_THUMB_SIDE_BENT;SPLIT_LITTLE
1d866=SIGNWRITING_HAND-;CLAW;CLAW_THUMB_SIDE;CLAW_NO_THUMB;CLAW_THUMB_FORWARD;HOOK_CURLICUE;HOOK
CUP_OPEN;CUP;CUP_OPEN_THUMB_SIDE;CUP_THUMB_SIDE;CUP_OPEN_NO_THUMB;CUP_NO_THUMB
CUP_OPEN_THUMB_FORWARD;CUP_THUMB_FORWARD;CURLICUE_OPEN;CURLICUE;CIRCLE;OVAL;OVAL_THUMB_SIDE
OVAL_NO_THUMB;OVAL_THUMB_FORWARD;HINGE_OPEN;HINGE_OPEN_THUMB_FORWARD;HINGE;HINGE_SMALL
HINGE_OPEN_THUMB_SIDE;HINGE_THUMB_SIDE;HINGE_OPEN_NO_THUMB;HINGE_NO_THUMB
HINGE_THUMB_SIDE_TOUCHING_INDEX;HINGE_THUMB_BETWEEN_MIDDLE_RING;ANGLE;FIST_INDEX_MIDDLE_RING
CIRCLE_INDEX_MIDDLE_RING;HINGE_INDEX_MIDDLE_RING;ANGLE_INDEX_MIDDLE_RING;HINGE_LITTLE
FIST_INDEX_MIDDLE_RING_BENT;FIST_INDEX_MIDDLE_RING_CONJOINED;HINGE_INDEX_MIDDLE_RING_CONJOINED
FIST_LITTLE_DOWN;FIST_LITTLE_DOWN_RIPPLE_STRAIGHT;FIST_LITTLE_DOWN_RIPPLE_CURVED
FIST_LITTLE_DOWN_OTHERS_CIRCLED;FIST_LITTLE_UP;FIST_THUMB_UNDER_LITTLE_UP;CIRCLE_LITTLE_UP
OVAL_LITTLE_UP;ANGLE_LITTLE_UP;FIST_LITTLE_RAISED_KNUCKLE;FIST_LITTLE_BENT;FIST_LITTLE_TOUCHES_THUMB
FIST_LITTLE_THUMB;HINGE_LITTLE_THUMB;FIST_LITTLE_INDEX_THUMB;HINGE_LITTLE_INDEX_THUMB
ANGLE_LITTLE_INDEX_THUMB_INDEX_THUMB_OUT;ANGLE_LITTLE_INDEX_THUMB_INDEX_THUMB;FIST_LITTLE_INDEX
CIRCLE_LITTLE_INDEX;HINGE_LITTLE_INDEX;ANGLE_LITTLE_INDEX;FIST_INDEX_MIDDLE_LITTLE
CIRCLE_INDEX_MIDDLE_LITTLE;HINGE_INDEX_MIDDLE_LITTLE;HINGE_RING;ANGLE_INDEX_MIDDLE_LITTLE
FIST_INDEX_MIDDLE_CROSS_LITTLE;CIRCLE_INDEX_MIDDLE_CROSS_LITTLE;FIST_RING_DOWN
HINGE_RING_DOWN_INDEX_THUMB_HOOK_MIDDLE;ANGLE_RING_DOWN_MIDDLE_THUMB_INDEX_CROSS;FIST_RING_UP
FIST_RING_RAISED_KNUCKLE;FIST_RING_LITTLE;CIRCLE_RING_LITTLE;OVAL_RING_LITTLE;ANGLE_RING_LITTLE
FIST_RING_MIDDLE;FIST_RING_MIDDLE_CONJOINED;FIST_RING_MIDDLE_RAISED_KNUCKLES;FIST_RING_INDEX
FIST_RING_THUMB;HOOK_RING_THUMB;FIST_INDEX_RING_LITTLE;CIRCLE_INDEX_RING_LITTLE
CURLICUE_INDEX_RING_LITTLE_ON;HOOK_INDEX_RING_LITTLE_OUT;HOOK_INDEX_RING_LITTLE_IN
HOOK_INDEX_RING_LITTLE_UNDER;CUP_INDEX_RING_LITTLE;HINGE_INDEX_RING_LITTLE
ANGLE_INDEX_RING_LITTLE_OUT;ANGLE_INDEX_RING_LITTLE;FIST_MIDDLE_DOWN;HINGE_MIDDLE;FIST_MIDDLE_UP
CIRCLE_MIDDLE_UP;FIST_MIDDLE_RAISED_KNUCKLE;FIST_MIDDLE_UP_THUMB_SIDE;HOOK_MIDDLE_THUMB
FIST_MIDDLE_THUMB_LITTLE;FIST_MIDDLE_LITTLE;FIST_MIDDLE_RING_LITTLE;CIRCLE_MIDDLE_RING_LITTLE
CURLICUE_MIDDLE_RING_LITTLE_ON;CUP_MIDDLE_RING_LITTLE;HINGE_MIDDLE_RING_LITTLE
ANGLE_MIDDLE_RING_LITTLE_OUT;ANGLE_MIDDLE_RING_LITTLE_IN;ANGLE_MIDDLE_RING_LITTLE
CIRCLE_MIDDLE_RING_LITTLE_BENT;CLAW_MIDDLE_RING_LITTLE_CONJOINED
CLAW_MIDDLE_RING_LITTLE_CONJOINED_SIDE;HOOK_MIDDLE_RING_LITTLE_CONJOINED_OUT
HOOK_MIDDLE_RING_LITTLE_CONJOINED_IN;HOOK_MIDDLE_RING_LITTLE_CONJOINED;HINGE_INDEX_HINGED
FIST_INDEX_THUMB_SIDE;HINGE_INDEX_THUMB_SIDE
1d8de=SIGNWRITING_HAND-FIST_INDEX_THUMB_;SIDE_THUMB_DIAGONAL;SIDE_THUMB_CONJOINED;SIDE_THUMB_BENT
SIDE_INDEX_BENT;SIDE_BOTH_BENT;SIDE_INDEX_HINGE;FORWARD_INDEX_STRAIGHT;FORWARD_INDEX_BENT;HOOK
CURLICUE;CURVE_THUMB_INSIDE;1d8e9=SIGNWRITING_HAND-;CLAW_INDEX_THUMB_CURVE_THUMB_INSIDE
FIST_INDEX_THUMB_CURVE_THUMB_UNDER;FIST_INDEX_THUMB_CIRCLE;CUP_INDEX_THUMB;CUP_INDEX_THUMB_OPEN
HINGE_INDEX_THUMB_OPEN;HINGE_INDEX_THUMB_LARGE;HINGE_INDEX_THUMB;HINGE_INDEX_THUMB_SMALL
ANGLE_INDEX_THUMB_OUT;ANGLE_INDEX_THUMB_IN;ANGLE_INDEX_THUMB;FIST_THUMB
1d8f6=SIGNWRITING_HAND-FIST_THUMB_;HEEL;SIDE_DIAGONAL;SIDE_CONJOINED;SIDE_BENT;FORWARD
BETWEEN_INDEX_MIDDLE;BETWEEN_MIDDLE_RING;BETWEEN_RING_LITTLE;UNDER_TWO_FINGERS;OVER_TWO_FINGERS
UNDER_THREE_FINGERS;UNDER_FOUR_FINGERS;OVER_FOUR_RAISED_KNUCKLES
1d903=SIGNWRITING_;HAND-FIST;HAND-FIST_HEEL;TOUCH_SINGLE;TOUCH_MULTIPLE;TOUCH_BETWEEN;GRASP_SINGLE
GRASP_MULTIPLE;GRASP_BETWEEN;STRIKE_SINGLE;STRIKE_MULTIPLE;STRIKE_BETWEEN;BRUSH_SINGLE
BRUSH_MULTIPLE;BRUSH_BETWEEN;RUB_SINGLE;RUB_MULTIPLE;RUB_BETWEEN;SURFACE_SYMBOLS;SURFACE_BETWEEN
SQUEEZE_LARGE_SINGLE;SQUEEZE_SMALL_SINGLE;SQUEEZE_LARGE_MULTIPLE;SQUEEZE_SMALL_MULTIPLE
SQUEEZE_SEQUENTIAL;FLICK_LARGE_SINGLE;FLICK_SMALL_SINGLE;FLICK_LARGE_MULTIPLE;FLICK_SMALL_MULTIPLE
FLICK_SEQUENTIAL;SQUEEZE_FLICK_ALTERNATING
1d921=SIGNWRITING_MOVEMENT-HINGE_;UP_DOWN_LARGE;UP_DOWN_SMALL;UP_SEQUENTIAL;DOWN_SEQUENTIAL
UP_DOWN_ALTERNATING_LARGE;UP_DOWN_ALTERNATING_SMALL;SIDE_TO_SIDE_SCISSORS
1d928=SIGNWRITING_MOVEMENT-;WALLPLANE_FINGER_CONTACT;FLOORPLANE_FINGER_CONTACT
1d92a=SIGNWRITING_MOVEMENT-WALLPLANE_SINGLE_STRAIGHT_;SMALL;MEDIUM;LARGE;LARGEST
1d92e=SIGNWRITING_MOVEMENT-WALLPLANE_;SINGLE_WRIST_FLEX;DOUBLE_STRAIGHT;DOUBLE_WRIST_FLEX
DOUBLE_ALTERNATING;DOUBLE_ALTERNATING_WRIST_FLEX;CROSS;TRIPLE_STRAIGHT_MOVEMENT;TRIPLE_WRIST_FLEX
TRIPLE_ALTERNATING;TRIPLE_ALTERNATING_WRIST_FLEX;BEND_SMALL;BEND_MEDIUM;BEND_LARGE;CORNER_SMALL
CORNER_MEDIUM;CORNER_LARGE;CORNER_ROTATION;CHECK_SMALL;CHECK_MEDIUM;CHECK_LARGE;BOX_SMALL;BOX_MEDIUM
BOX_LARGE;ZIGZAG_SMALL;ZIGZAG_MEDIUM;ZIGZAG_LARGE;PEAKS_SMALL;PEAKS_MEDIUM;PEAKS_LARGE
1d94b=SIGNWRITING_TRAVEL-WALLPLANE_ROTATION-;WALLPLANE_SINGLE;WALLPLANE_DOUBLE;WALLPLANE_ALTERNATING
FLOORPLANE_SINGLE;FLOORPLANE_DOUBLE;FLOORPLANE_ALTERNATING
1d951=SIGNWRITING_TRAVEL-WALLPLANE_;SHAKING;ARM_SPIRAL_SINGLE;ARM_SPIRAL_DOUBLE;ARM_SPIRAL_TRIPLE
1d955=SIGNWRITING_MOVEMENT-DIAGONAL_AWAY_;SMALL;MEDIUM;LARGE;LARGEST
1d959=SIGNWRITING_MOVEMENT-DIAGONAL_TOWARDS_;SMALL;MEDIUM;LARGE;LARGEST
1d95d=SIGNWRITING_MOVEMENT-DIAGONAL_BETWEEN_;AWAY_SMALL;AWAY_MEDIUM;AWAY_LARGE;AWAY_LARGEST
TOWARDS_SMALL;TOWARDS_MEDIUM;TOWARDS_LARGE;TOWARDS_LARGEST
1d965=SIGNWRITING_MOVEMENT-FLOORPLANE_SINGLE_STRAIGHT_;SMALL;MEDIUM;LARGE;LARGEST
1d969=SIGNWRITING_MOVEMENT-FLOORPLANE_;SINGLE_WRIST_FLEX;DOUBLE_STRAIGHT;DOUBLE_WRIST_FLEX
DOUBLE_ALTERNATING;DOUBLE_ALTERNATING_WRIST_FLEX;CROSS;TRIPLE_STRAIGHT_MOVEMENT;TRIPLE_WRIST_FLEX
TRIPLE_ALTERNATING_MOVEMENT;TRIPLE_ALTERNATING_WRIST_FLEX;BEND;CORNER_SMALL;CORNER_MEDIUM
CORNER_LARGE;CHECK;BOX_SMALL;BOX_MEDIUM;BOX_LARGE;ZIGZAG_SMALL;ZIGZAG_MEDIUM;ZIGZAG_LARGE
PEAKS_SMALL;PEAKS_MEDIUM;PEAKS_LARGE
1d981=SIGNWRITING_TRAVEL-FLOORPLANE_ROTATION-;FLOORPLANE_SINGLE;FLOORPLANE_DOUBLE
FLOORPLANE_ALTERNATING;WALLPLANE_SINGLE;WALLPLANE_DOUBLE;WALLPLANE_ALTERNATING
1d987=;SIGNWRITING_TRAVEL-FLOORPLANE_SHAKING
1d988=SIGNWRITING_MOVEMENT-WALLPLANE_CURVE_QUARTER_;SMALL;MEDIUM;LARGE;LARGEST
1d98c=SIGNWRITING_MOVEMENT-WALLPLANE_CURVE_HALF-CIRCLE_;SMALL;MEDIUM;LARGE;LARGEST
1d990=SIGNWRITING_MOVEMENT-WALLPLANE_;CURVE_THREE-QUARTER_CIRCLE_SMALL
CURVE_THREE-QUARTER_CIRCLE_MEDIUM;HUMP_SMALL;HUMP_MEDIUM;HUMP_LARGE;LOOP_SMALL;LOOP_MEDIUM
LOOP_LARGE;LOOP_SMALL_DOUBLE;WAVE_CURVE_DOUBLE_SMALL;WAVE_CURVE_DOUBLE_MEDIUM
WAVE_CURVE_DOUBLE_LARGE;WAVE_CURVE_TRIPLE_SMALL;WAVE_CURVE_TRIPLE_MEDIUM;WAVE_CURVE_TRIPLE_LARGE
CURVE_THEN_STRAIGHT;CURVED_CROSS_SMALL;CURVED_CROSS_MEDIUM
1d9a2=SIGNWRITING_ROTATION-WALLPLANE_;SINGLE;DOUBLE;ALTERNATE
1d9a5=SIGNWRITING_MOVEMENT-WALLPLANE_;SHAKING;CURVE_HITTING_FRONT_WALL;HUMP_HITTING_FRONT_WALL
LOOP_HITTING_FRONT_WALL;WAVE_HITTING_FRONT_WALL
1d9aa=SIGNWRITING_ROTATION-WALLPLANE_;SINGLE_HITTING_FRONT_WALL;DOUBLE_HITTING_FRONT_WALL
ALTERNATING_HITTING_FRONT_WALL
1d9ad=SIGNWRITING_MOVEMENT-WALLPLANE_;CURVE_HITTING_CHEST;HUMP_HITTING_CHEST;LOOP_HITTING_CHEST
WAVE_HITTING_CHEST;1d9b1=SIGNWRITING_ROTATION-WALLPLANE_;SINGLE_HITTING_CHEST;DOUBLE_HITTING_CHEST
ALTERNATING_HITTING_CHEST
1d9b4=SIGNWRITING_MOVEMENT-WALLPLANE_WAVE_DIAGONAL_PATH_;SMALL;MEDIUM;LARGE
1d9b7=SIGNWRITING_MOVEMENT-FLOORPLANE_CURVE_HITTING_CEILING_;SMALL;LARGE
1d9b9=SIGNWRITING_MOVEMENT-FLOORPLANE_HUMP_HITTING_CEILING_;SMALL_DOUBLE;LARGE_DOUBLE;SMALL_TRIPLE
LARGE_TRIPLE
1d9bd=SIGNWRITING_MOVEMENT-FLOORPLANE_LOOP_HITTING_CEILING_;SMALL_SINGLE;LARGE_SINGLE;SMALL_DOUBLE
LARGE_DOUBLE
1d9c1=SIGNWRITING_MOVEMENT-FLOORPLANE_WAVE_HITTING_CEILING_;SMALL;LARGE
1d9c3=SIGNWRITING_ROTATION-FLOORPLANE_;SINGLE_HITTING_CEILING;DOUBLE_HITTING_CEILING
ALTERNATING_HITTING_CEILING
1d9c6=SIGNWRITING_MOVEMENT-FLOORPLANE_CURVE_HITTING_FLOOR_;SMALL;LARGE
1d9c8=SIGNWRITING_MOVEMENT-FLOORPLANE_HUMP_HITTING_FLOOR_;SMALL_DOUBLE;LARGE_DOUBLE
TRIPLE_SMALL_TRIPLE;TRIPLE_LARGE_TRIPLE
1d9cc=SIGNWRITING_MOVEMENT-FLOORPLANE_LOOP_HITTING_FLOOR_;SMALL_SINGLE;LARGE_SINGLE;SMALL_DOUBLE
LARGE_DOUBLE
1d9d0=SIGNWRITING_MOVEMENT-FLOORPLANE_WAVE_HITTING_FLOOR_;SMALL;LARGE
1d9d2=SIGNWRITING_ROTATION-FLOORPLANE_;SINGLE_HITTING_FLOOR;DOUBLE_HITTING_FLOOR
ALTERNATING_HITTING_FLOOR
1d9d5=SIGNWRITING_MOVEMENT-FLOORPLANE_;CURVE_SMALL;CURVE_MEDIUM;CURVE_LARGE;CURVE_LARGEST
CURVE_COMBINED;HUMP_SMALL;LOOP_SMALL;WAVE_SNAKE;WAVE_SMALL;WAVE_LARGE
1d9df=SIGNWRITING_ROTATION-FLOORPLANE_;SINGLE;DOUBLE;ALTERNATING
1d9e2=;SIGNWRITING_MOVEMENT-FLOORPLANE_SHAKING_PARALLEL
1d9e3=SIGNWRITING_MOVEMENT-WALLPLANE_ARM_CIRCLE_;SMALL_SINGLE;MEDIUM_SINGLE;SMALL_DOUBLE
MEDIUM_DOUBLE
1d9e7=SIGNWRITING_MOVEMENT-FLOORPLANE_ARM_CIRCLE_HITTING_WALL_;SMALL_SINGLE;MEDIUM_SINGLE
LARGE_SINGLE;SMALL_DOUBLE;MEDIUM_DOUBLE;LARGE_DOUBLE
1d9ed=SIGNWRITING_MOVEMENT-WALLPLANE_WRIST_CIRCLE_FRONT_;SINGLE;DOUBLE
1d9ef=SIGNWRITING_MOVEMENT-FLOORPLANE_WRIST_CIRCLE_HITTING_WALL_;SINGLE;DOUBLE
1d9f1=SIGNWRITING_MOVEMENT-WALLPLANE_FINGER_CIRCLES_;SINGLE;DOUBLE
1d9f3=SIGNWRITING_MOVEMENT-FLOORPLANE_FINGER_CIRCLES_HITTING_WALL_;SINGLE;DOUBLE
1d9f5=SIGNWRITING_DYNAMIC_;ARROWHEAD_SMALL;ARROWHEAD_LARGE;FAST;SLOW;TENSE;RELAXED;SIMULTANEOUS
SIMULTANEOUS_ALTERNATING;EVERY_OTHER_TIME;GRADUAL
1d9ff=SIGNWRITING_;HEAD;HEAD_RIM
1da01=SIGNWRITING_HEAD_MOVEMENT-;WALLPLANE_STRAIGHT;WALLPLANE_TILT;FLOORPLANE_STRAIGHT
WALLPLANE_CURVE;FLOORPLANE_CURVE;1da06=;SIGNWRITING_HEAD_MOVEMENT_CIRCLE
1da07=SIGNWRITING_FACE_DIRECTION_POSITION_NOSE_;FORWARD_TILTING;UP_OR_DOWN;UP_OR_DOWN_TILTING
1da0a=SIGNWRITING_EYEBROWS_STRAIGHT_;UP;NEUTRAL;DOWN
1da0d=SIGNWRITING_DREAMY_EYEBROWS_;NEUTRAL_DOWN;DOWN_NEUTRAL;UP_NEUTRAL;NEUTRAL_UP
1da11=SIGNWRITING_;FOREHEAD_NEUTRAL;FOREHEAD_CONTACT;FOREHEAD_WRINKLED;EYES_OPEN;EYES_SQUEEZED
EYES_CLOSED;EYE_BLINK_SINGLE;EYE_BLINK_MULTIPLE;EYES_HALF_OPEN;EYES_WIDE_OPEN;EYES_HALF_CLOSED
EYES_WIDENING_MOVEMENT;EYE_WINK;1da1e=SIGNWRITING_EYELASHES_;UP;DOWN;FLUTTERING
1da21=SIGNWRITING_EYEGAZE-;WALLPLANE_STRAIGHT;WALLPLANE_STRAIGHT_DOUBLE
WALLPLANE_STRAIGHT_ALTERNATING;FLOORPLANE_STRAIGHT;FLOORPLANE_STRAIGHT_DOUBLE
FLOORPLANE_STRAIGHT_ALTERNATING;WALLPLANE_CURVED;FLOORPLANE_CURVED;WALLPLANE_CIRCLING
1da2a=SIGNWRITING_CHEEKS_;PUFFED;NEUTRAL;SUCKED
1da2d=SIGNWRITING_TENSE_CHEEKS_;HIGH;MIDDLE;LOW
1da30=SIGNWRITING_;EARS;NOSE_NEUTRAL;NOSE_CONTACT;NOSE_WRINKLES;NOSE_WIGGLES;AIR_BLOWING_OUT
AIR_SUCKING_IN;AIR_BLOW_SMALL_ROTATIONS;AIR_SUCK_SMALL_ROTATIONS;BREATH_INHALE;BREATH_EXHALE
1da3b=SIGNWRITING_MOUTH_;CLOSED_NEUTRAL;CLOSED_FORWARD;CLOSED_CONTACT;SMILE;SMILE_WRINKLED
SMILE_OPEN;FROWN;FROWN_WRINKLED;FROWN_OPEN;OPEN_CIRCLE;OPEN_FORWARD;OPEN_WRINKLED;OPEN_OVAL
OPEN_OVAL_WRINKLED;OPEN_OVAL_YAWN;OPEN_RECTANGLE;OPEN_RECTANGLE_WRINKLED;OPEN_RECTANGLE_YAWN;KISS
KISS_FORWARD;KISS_WRINKLED;TENSE;TENSE_FORWARD;TENSE_SUCKED
1da53=SIGNWRITING_;LIPS_PRESSED_TOGETHER;LIP_LOWER_OVER_UPPER;LIP_UPPER_OVER_LOWER;MOUTH_CORNERS
MOUTH_WRINKLES_SINGLE;MOUTH_WRINKLES_DOUBLE
1da59=SIGNWRITING_TONGUE_;STICKING_OUT_FAR;LICKING_LIPS;TIP_BETWEEN_LIPS;TIP_TOUCHING_INSIDE_MOUTH
INSIDE_MOUTH_RELAXED;MOVES_AGAINST_CHEEK;CENTRE_STICKING_OUT;CENTRE_INSIDE_MOUTH
1da61=SIGNWRITING_;TEETH;TEETH_MOVEMENT;TEETH_ON_TONGUE;TEETH_ON_TONGUE_MOVEMENT;TEETH_ON_LIPS
TEETH_ON_LIPS_MOVEMENT;TEETH_BITE_LIPS;MOVEMENT-WALLPLANE_JAW;MOVEMENT-FLOORPLANE_JAW;NECK;HAIR
EXCITEMENT;SHOULDER_HIP_SPINE;SHOULDER_HIP_POSITIONS;WALLPLANE_SHOULDER_HIP_MOVE
FLOORPLANE_SHOULDER_HIP_MOVE;SHOULDER_TILTING_FROM_WAIST;TORSO-WALLPLANE_STRAIGHT_STRETCH
TORSO-WALLPLANE_CURVED_BEND;TORSO-FLOORPLANE_TWISTING;UPPER_BODY_TILTING_FROM_HIP_JOINTS
LIMB_COMBINATION;1da77=SIGNWRITING_LIMB_LENGTH-;1;2;3;4;5;6;7
1da7e=SIGNWRITING_;FINGER;LOCATION-WALLPLANE_SPACE;LOCATION-FLOORPLANE_SPACE
1da81=SIGNWRITING_LOCATION_;HEIGHT;WIDTH;DEPTH;HEAD_NECK;TORSO;LIMBS_DIGITS
1da87=SIGNWRITING_;COMMA;FULL_STOP;SEMICOLON;COLON;PARENTHESIS
1da9b=SIGNWRITING_FILL_MODIFIER-;2;3;4;5;6
1daa1=SIGNWRITING_ROTATION_MODIFIER-;2;3;4;5;6;7;8;9;10;11;12;13;14;15;16
1df00=LATIN_;SMALL_LETTER_FENG_DIGRAPH_WITH_TRILL;SMALL_LETTER_REVERSED_SCRIPT_G
LETTER_SMALL_CAPITAL_TURNED_G;SMALL_LETTER_REVERSED_K;LETTER_SMALL_CAPITAL_L_WITH_BELT
1df05=LATIN_SMALL_LETTER_;LEZH_WITH_RETROFLEX_HOOK;TURNED_Y_WITH_BELT;REVERSED_ENG
TURNED_R_WITH_LONG_LEG_AND_RETROFLEX_HOOK;T_WITH_HOOK_AND_RETROFLEX_HOOK
1df0a=;LATIN_LETTER_RETROFLEX_CLICK_WITH_RETROFLEX_HOOK
1df0b=LATIN_SMALL_LETTER_;ESH_WITH_DOUBLE_BAR;ESH_WITH_DOUBLE_BAR_AND_CURL;TURNED_T_WITH_CURL
1df0e=LATIN_LETTER_;INVERTED_GLOTTAL_STOP_WITH_CURL;STRETCHED_C_WITH_CURL;SMALL_CAPITAL_TURNED_K
1df11=LATIN_SMALL_LETTER_;L_WITH_FISHHOOK;DEZH_DIGRAPH_WITH_PALATAL_HOOK
L_WITH_BELT_AND_PALATAL_HOOK;ENG_WITH_PALATAL_HOOK;TURNED_R_WITH_PALATAL_HOOK
R_WITH_FISHHOOK_AND_PALATAL_HOOK;TESH_DIGRAPH_WITH_PALATAL_HOOK;EZH_WITH_PALATAL_HOOK
DEZH_DIGRAPH_WITH_RETROFLEX_HOOK;I_WITH_STROKE_AND_RETROFLEX_HOOK;O_WITH_RETROFLEX_HOOK
TESH_DIGRAPH_WITH_RETROFLEX_HOOK;C_WITH_RETROFLEX_HOOK;S_WITH_CURL
1e000=COMBINING_GLAGOLITIC_LETTER_;AZU;BUKY;VEDE;GLAGOLI;DOBRO;YESTU;ZHIVETE
1e008=COMBINING_GLAGOLITIC_LETTER_;ZEMLJA;IZHE;INITIAL_IZHE;I;DJERVI;KAKO;LJUDIJE;MYSLITE;NASHI;ONU
POKOJI;RITSI;SLOVO;TVRIDO;UKU;FRITU;HERU
1e01b=COMBINING_GLAGOLITIC_LETTER_;SHTA;TSI;CHRIVI;SHA;YERU;YERI;YATI
1e023=COMBINING_GLAGOLITIC_LETTER_;YU;SMALL_YUS
1e026=COMBINING_GLAGOLITIC_LETTER_;YO;IOTATED_SMALL_YUS;BIG_YUS;IOTATED_BIG_YUS;FITA
1e100=NYIAKENG_PUACHUE_HMONG_LETTER_;MA;TSA;NTA;TA;HA;NA;XA;NKA;CA;LA;SA;ZA;NCA;NTSA;KA;DA;NYA;NRA
VA;NTXA;TXA;FA;RA;QA;YA;NQA;PA;XYA;NPA;DLA;NPLA;HAH;MLA;PLA;GA;RRA;A;AA;I;U;O;OO;E;EE;W
1e130=NYIAKENG_PUACHUE_HMONG_TONE-;B;M;J;V;S;G;D
1e137=NYIAKENG_PUACHUE_HMONG_SIGN_FOR_;PERSON;THING;LOCATION;ANIMAL;INVERTEBRATE
1e13c=NYIAKENG_PUACHUE_HMONG_;SIGN_XW_XW;SYLLABLE_LENGTHENER
1e140=NYIAKENG_PUACHUE_HMONG_DIGIT_;ZERO;ONE;TWO;THREE;FOUR;FIVE;SIX;SEVEN;EIGHT;NINE
1e14e=NYIAKENG_PUACHUE_HMONG_;LOGOGRAM_NYAJ;CIRCLED_CA
1e290=TOTO_LETTER_;PA;BA;TA;DA;KA;GA;MA;NA;NGA;SA;CHA;YA;WA;JA;HA;RA;LA;I;BREATHY_I;IU;BREATHY_IU;U
E;BREATHY_E;EO;BREATHY_EO;O;AE;BREATHY_AE;A;1e2ae=;TOTO_SIGN_RISING_TONE
1e2c0=WANCHO_LETTER_;AA;A;BA;CA;DA;GA;YA;PHA;LA;NA;PA;TA;THA;FA;SA;SHA;JA;ZA;WA;VA;KA;O;AU;RA;MA;KHA
HA;E;I;NGA;U;LLHA;TSA;TRA;ONG;AANG;ANG;ING;ON;EN;AAN;NYA;UEN;YIH
1e2ec=WANCHO_TONE_;TUP;TUPNI;KOI;KOINI;1e2f0=WANCHO_DIGIT_;ZERO;ONE;TWO;THREE;FOUR;FIVE;SIX;SEVEN
EIGHT;NINE;1e2ff=;WANCHO_NGUN_SIGN;1e7e0=ETHIOPIC_SYLLABLE_;HHYA;HHYU;HHYI;HHYAA;HHYEE;HHYE;HHYO
1e7e8=ETHIOPIC_SYLLABLE_;GURAGE_HHWA;HHWI;HHWEE;HHWE
1e7ed=ETHIOPIC_SYLLABLE_GURAGE_;MWI;MWEE
1e7f0=ETHIOPIC_SYLLABLE_GURAGE_;QWI;QWEE;QWE;BWI;BWEE;KWI;KWEE;KWE;GWI;GWEE;GWE;FWI;FWEE;PWI;PWEE
1e800=MENDE_KIKAKUI_SYLLABLE_;M001_KI;M002_KA;M003_KU;M065_KEE;M095_KE;M076_KOO;M048_KO;M179_KUA
M004_WI;M005_WA;M006_WU;M126_WEE;M118_WE;M114_WOO;M045_WO;M194_WUI;M143_WEI;M061_WVI;M049_WVA
M139_WVE;M007_MIN;M008_MAN;M009_MUN;M059_MEN;M094_MON;M154_MUAN;M189_MUEN;M010_BI;M011_BA;M012_BU
M150_BEE;M097_BE;M103_BOO;M138_BO;M013_I;M014_A;M015_U;M163_EE;M100_E;M165_OO;M147_O;M137_EI;M131_IN
M135_IN;M195_AN;M178_EN;M019_SI;M020_SA;M021_SU;M162_SEE;M116_SE;M136_SOO;M079_SO;M196_SIA;M025_LI
M026_LA;M027_LU;M084_LEE;M073_LE;M054_LOO;M153_LO;M110_LONG_LE;M016_DI;M017_DA;M018_DU;M089_DEE
M180_DOO;M181_DO;M022_TI;M023_TA;M024_TU;M091_TEE;M055_TE;M104_TOO;M069_TO;M028_JI;M029_JA;M030_JU
M157_JEE;M113_JE;M160_JOO;M063_JO;M175_LONG_JO;M031_YI;M032_YA;M033_YU;M109_YEE;M080_YE;M141_YOO
M121_YO;M034_FI;M035_FA;M036_FU;M078_FEE;M075_FE;M133_FOO;M088_FO;M197_FUA;M101_FAN;M037_NIN
M038_NAN;M039_NUN;M117_NEN;M169_NON;M176_HI;M041_HA;M186_HU;M040_HEE;M096_HE;M042_HOO;M140_HO
M083_HEEI;M128_HOOU;M053_HIN;M130_HAN;M087_HUN;M052_HEN;M193_HON;M046_HUAN;M090_NGGI;M043_NGGA
M082_NGGU;M115_NGGEE;M146_NGGE;M156_NGGOO;M120_NGGO;M159_NGGAA;M127_NGGUA;M086_LONG_NGGE
M106_LONG_NGGOO;M183_LONG_NGGO;M155_GI;M111_GA;M168_GU;M190_GEE;M166_GUEI;M167_GUAN;M184_NGEN
M057_NGON;M177_NGUAN;M068_PI;M099_PA;M050_PU;M081_PEE;M051_PE;M102_POO;M066_PO;M145_MBI;M062_MBA
M122_MBU;M047_MBEE;M188_MBEE;M072_MBE;M172_MBOO;M174_MBO;M187_MBUU;M161_LONG_MBE;M105_LONG_MBOO
M142_LONG_MBO;M132_KPI;M092_KPA;M074_KPU;M044_KPEE;M108_KPE;M112_KPOO;M158_KPO;M124_GBI;M056_GBA
M148_GBU;M093_GBEE;M107_GBE;M071_GBOO;M070_GBO;M171_RA;M123_NDI;M129_NDA;M125_NDU;M191_NDEE;M119_NDE
M067_NDOO;M064_NDO;M152_NJA;M192_NJU;M149_NJEE;M134_NJOO;M182_VI;M185_VA;M151_VU;M173_VEE;M085_VE
M144_VOO;M077_VO;M164_NYIN;M058_NYAN;M170_NYUN;M098_NYEN;M060_NYON
1e8c7=MENDE_KIKAKUI_DIGIT_;ONE;TWO;THREE;FOUR;FIVE;SIX;SEVEN;EIGHT;NINE
1e8d0=MENDE_KIKAKUI_COMBINING_NUMBER_;TEENS;TENS;HUNDREDS;THOUSANDS;TEN_THOUSANDS;HUNDRED_THOUSANDS
MILLIONS;1e900=ADLAM_CAPITAL_LETTER_;ALIF;DAALI;LAAM;MIIM;BA;SINNYIIYHE;PE;BHE;RA;E;FA;I;O;DHA;YHE
WAW;NUN;KAF;YA;U;JIIM;CHI;HA;QAAF;GA;NYA;TU;NHA;VA;KHA;GBE;ZAL;KPO;SHA
1e922=ADLAM_SMALL_LETTER_;ALIF;DAALI;LAAM;MIIM;BA;SINNYIIYHE;PE;BHE;RA;E;FA;I;O;DHA;YHE;WAW;NUN;KAF
YA;U;JIIM;CHI;HA;QAAF;GA;NYA;TU;NHA;VA;KHA;GBE;ZAL;KPO;SHA
1e944=ADLAM_;ALIF_LENGTHENER;VOWEL_LENGTHENER;GEMINATION_MARK;HAMZA;CONSONANT_MODIFIER
GEMINATE_CONSONANT_MODIFIER;NUKTA;NASALIZATION_MARK
1e950=ADLAM_DIGIT_;ZERO;ONE;TWO;THREE;FOUR;FIVE;SIX;SEVEN;EIGHT;NINE
1e95e=ADLAM_INITIAL_;EXCLAMATION_MARK;QUESTION_MARK
1ec71=INDIC_SIYAQ_NUMBER_;ONE;TWO;THREE;FOUR;FIVE;SIX;SEVEN;EIGHT;NINE;TEN;TWENTY;THIRTY;FORTY;FIFTY
SIXTY;SEVENTY;EIGHTY;NINETY;ONE_HUNDRED;TWO_HUNDRED;THREE_HUNDRED;FOUR_HUNDRED;FIVE_HUNDRED
SIX_HUNDRED;SEVEN_HUNDRED;EIGHT_HUNDRED;NINE_HUNDRED;ONE_THOUSAND;TWO_THOUSAND;THREE_THOUSAND
FOUR_THOUSAND;FIVE_THOUSAND;SIX_THOUSAND;SEVEN_THOUSAND;EIGHT_THOUSAND;NINE_THOUSAND;TEN_THOUSAND
TWENTY_THOUSAND;THIRTY_THOUSAND;FORTY_THOUSAND;FIFTY_THOUSAND;SIXTY_THOUSAND;SEVENTY_THOUSAND
EIGHTY_THOUSAND;NINETY_THOUSAND;LAKH;LAKHAN
1eca0=INDIC_SIYAQ_;LAKH_MARK;NUMBER_KAROR;NUMBER_KARORAN
1eca3=INDIC_SIYAQ_NUMBER_PREFIXED_;ONE;TWO;THREE;FOUR;FIVE;SIX;SEVEN;EIGHT;NINE
1ecac=INDIC_SIYAQ_;PLACEHOLDER;FRACTION_ONE_QUARTER;FRACTION_ONE_HALF;FRACTION_THREE_QUARTERS
RUPEE_MARK;NUMBER_ALTERNATE_ONE;NUMBER_ALTERNATE_TWO;NUMBER_ALTERNATE_TEN_THOUSAND
ALTERNATE_LAKH_MARK;1ed01=OTTOMAN_SIYAQ_NUMBER_;ONE;TWO;THREE;FOUR;FIVE;SIX;SEVEN;EIGHT;NINE;TEN
TWENTY;THIRTY;FORTY;FIFTY;SIXTY;SEVENTY;EIGHTY;NINETY;ONE_HUNDRED;TWO_HUNDRED;THREE_HUNDRED
FOUR_HUNDRED;FIVE_HUNDRED;SIX_HUNDRED;SEVEN_HUNDRED;EIGHT_HUNDRED;NINE_HUNDRED;ONE_THOUSAND
TWO_THOUSAND;THREE_THOUSAND;FOUR_THOUSAND;FIVE_THOUSAND;SIX_THOUSAND;SEVEN_THOUSAND;EIGHT_THOUSAND
NINE_THOUSAND;TEN_THOUSAND;TWENTY_THOUSAND;THIRTY_THOUSAND;FORTY_THOUSAND;FIFTY_THOUSAND
SIXTY_THOUSAND;SEVENTY_THOUSAND;EIGHTY_THOUSAND;NINETY_THOUSAND
1ed2e=;OTTOMAN_SIYAQ_MARRATAN
1ed2f=OTTOMAN_SIYAQ_ALTERNATE_NUMBER_;TWO;THREE;FOUR;FIVE;SIX;SEVEN;EIGHT;NINE;TEN;FOUR_HUNDRED
SIX_HUNDRED;TWO_THOUSAND;TEN_THOUSAND
1ed3c=OTTOMAN_SIYAQ_FRACTION_ONE_;HALF;SIXTH
1ee00=ARABIC_MATHEMATICAL_;ALEF;BEH;JEEM;DAL
1ee05=ARABIC_MATHEMATICAL_;WAW;ZAIN;HAH;TAH;YEH;KAF;LAM;MEEM;NOON;SEEN;AIN;FEH;SAD;QAF;REH;SHEEN;TEH
THEH;KHAH;THAL;DAD;ZAH;GHAIN;DOTLESS_BEH;DOTLESS_NOON;DOTLESS_FEH;DOTLESS_QAF
1ee21=ARABIC_MATHEMATICAL_INITIAL_;BEH;JEEM;1ee24=;ARABIC_MATHEMATICAL_INITIAL_HEH
1ee27=;ARABIC_MATHEMATICAL_INITIAL_HAH
1ee29=ARABIC_MATHEMATICAL_INITIAL_;YEH;KAF;LAM;MEEM;NOON;SEEN;AIN;FEH;SAD;QAF
1ee34=ARABIC_MATHEMATICAL_INITIAL_;SHEEN;TEH;THEH;KHAH
1ee39=;ARABIC_MATHEMATICAL_INITIAL_DAD;1ee3b=;ARABIC_MATHEMATICAL_INITIAL_GHAIN
1ee42=;ARABIC_MATHEMATICAL_TAILED_JEEM;1ee47=;ARABIC_MATHEMATICAL_TAILED_HAH
1ee49=;ARABIC_MATHEMATICAL_TAILED_YEH;1ee4b=;ARABIC_MATHEMATICAL_TAILED_LAM
1ee4d=ARABIC_MATHEMATICAL_TAILED_;NOON;SEEN;AIN
1ee51=ARABIC_MATHEMATICAL_TAILED_;SAD;QAF;1ee54=;ARABIC_MATHEMATICAL_TAILED_SHEEN
1ee57=;ARABIC_MATHEMATICAL_TAILED_KHAH;1ee59=;ARABIC_MATHEMATICAL_TAILED_DAD
1ee5b=;ARABIC_MATHEMATICAL_TAILED_GHAIN;1ee5d=;ARABIC_MATHEMATICAL_TAILED_DOTLESS_NOON
1ee5f=;ARABIC_MATHEMATICAL_TAILED_DOTLESS_QAF
1ee61=ARABIC_MATHEMATICAL_STRETCHED_;BEH;JEEM;1ee64=;ARABIC_MATHEMATICAL_STRETCHED_HEH
1ee67=ARABIC_MATHEMATICAL_STRETCHED_;HAH;TAH;YEH;KAF
1ee6c=ARABIC_MATHEMATICAL_STRETCHED_;MEEM;NOON;SEEN;AIN;FEH;SAD;QAF
1ee74=ARABIC_MATHEMATICAL_STRETCHED_;SHEEN;TEH;THEH;KHAH
1ee79=ARABIC_MATHEMATICAL_STRETCHED_;DAD;ZAH;GHAIN;DOTLESS_BEH
1ee7e=;ARABIC_MATHEMATICAL_STRETCHED_DOTLESS_FEH
1ee80=ARABIC_MATHEMATICAL_LOOPED_;ALEF;BEH;JEEM;DAL;HEH;WAW;ZAIN;HAH;TAH;YEH
1ee8b=ARABIC_MATHEMATICAL_LOOPED_;LAM;MEEM;NOON;SEEN;AIN;FEH;SAD;QAF;REH;SHEEN;TEH;THEH;KHAH;THAL
DAD;ZAH;GHAIN;1eea1=ARABIC_MATHEMATICAL_DOUBLE-STRUCK_;BEH;JEEM;DAL
1eea5=ARABIC_MATHEMATICAL_DOUBLE-STRUCK_;WAW;ZAIN;HAH;TAH;YEH
1eeab=ARABIC_MATHEMATICAL_DOUBLE-STRUCK_;LAM;MEEM;NOON;SEEN;AIN;FEH;SAD;QAF;REH;SHEEN;TEH;THEH;KHAH
THAL;DAD;ZAH;GHAIN;1eef0=ARABIC_MATHEMATICAL_OPERATOR_;MEEM_WITH_HAH_WITH_TATWEEL;HAH_WITH_DAL
1f000=MAHJONG_TILE_;EAST_WIND;SOUTH_WIND;WEST_WIND;NORTH_WIND;RED_DRAGON;GREEN_DRAGON;WHITE_DRAGON
ONE_OF_CHARACTERS;TWO_OF_CHARACTERS;THREE_OF_CHARACTERS;FOUR_OF_CHARACTERS;FIVE_OF_CHARACTERS
SIX_OF_CHARACTERS;SEVEN_OF_CHARACTERS;EIGHT_OF_CHARACTERS;NINE_OF_CHARACTERS;ONE_OF_BAMBOOS
TWO_OF_BAMBOOS;THREE_OF_BAMBOOS;FOUR_OF_BAMBOOS;FIVE_OF_BAMBOOS;SIX_OF_BAMBOOS;SEVEN_OF_BAMBOOS
EIGHT_OF_BAMBOOS;NINE_OF_BAMBOOS;ONE_OF_CIRCLES;TWO_OF_CIRCLES;THREE_OF_CIRCLES;FOUR_OF_CIRCLES
FIVE_OF_CIRCLES;SIX_OF_CIRCLES;SEVEN_OF_CIRCLES;EIGHT_OF_CIRCLES;NINE_OF_CIRCLES;PLUM;ORCHID;BAMBOO
CHRYSANTHEMUM;SPRING;SUMMER;AUTUMN;WINTER;JOKER;BACK;1f030=;DOMINO_TILE_HORIZONTAL_BACK
1f031=DOMINO_TILE_HORIZONTAL-;00-00;00-01;00-02;00-03;00-04;00-05;00-06;01-00;01-01;01-02;01-03
01-04;01-05;01-06;02-00;02-01;02-02;02-03;02-04;02-05;02-06;03-00;03-01;03-02;03-03;03-04;03-05
03-06;04-00;04-01;04-02;04-03;04-04;04-05;04-06;05-00;05-01;05-02;05-03;05-04;05-05;05-06;06-00
06-01;06-02;06-03;06-04;06-05;06-06;1f062=;DOMINO_TILE_VERTICAL_BACK
1f063=DOMINO_TILE_VERTICAL-;00-00;00-01;00-02;00-03;00-04;00-05;00-06;01-00;01-01;01-02;01-03;01-04
01-05;01-06;02-00;02-01;02-02;02-03;02-04;02-05;02-06;03-00;03-01;03-02;03-03;03-04;03-05;03-06
04-00;04-01;04-02;04-03;04-04;04-05;04-06;05-00;05-01;05-02;05-03;05-04;05-05;05-06;06-00;06-01
06-02;06-03;06-04;06-05;06-06;1f0a0=PLAYING_CARD_;BACK;ACE_OF_SPADES;TWO_OF_SPADES;THREE_OF_SPADES
FOUR_OF_SPADES;FIVE_OF_SPADES;SIX_OF_SPADES;SEVEN_OF_SPADES;EIGHT_OF_SPADES;NINE_OF_SPADES
TEN_OF_SPADES;JACK_OF_SPADES;KNIGHT_OF_SPADES;QUEEN_OF_SPADES;KING_OF_SPADES
1f0b1=PLAYING_CARD_;ACE_OF_HEARTS;TWO_OF_HEARTS;THREE_OF_HEARTS;FOUR_OF_HEARTS;FIVE_OF_HEARTS
SIX_OF_HEARTS;SEVEN_OF_HEARTS;EIGHT_OF_HEARTS;NINE_OF_HEARTS;TEN_OF_HEARTS;JACK_OF_HEARTS
KNIGHT_OF_HEARTS;QUEEN_OF_HEARTS;KING_OF_HEARTS;RED_JOKER
1f0c1=PLAYING_CARD_;ACE_OF_DIAMONDS;TWO_OF_DIAMONDS;THREE_OF_DIAMONDS;FOUR_OF_DIAMONDS
FIVE_OF_DIAMONDS;SIX_OF_DIAMONDS;SEVEN_OF_DIAMONDS;EIGHT_OF_DIAMONDS;NINE_OF_DIAMONDS
TEN_OF_DIAMONDS;JACK_OF_DIAMONDS;KNIGHT_OF_DIAMONDS;QUEEN_OF_DIAMONDS;KING_OF_DIAMONDS;BLACK_JOKER
1f0d1=PLAYING_CARD_;ACE_OF_CLUBS;TWO_OF_CLUBS;THREE_OF_CLUBS;FOUR_OF_CLUBS;FIVE_OF_CLUBS
SIX_OF_CLUBS;SEVEN_OF_CLUBS;EIGHT_OF_CLUBS;NINE_OF_CLUBS;TEN_OF_CLUBS;JACK_OF_CLUBS;KNIGHT_OF_CLUBS
QUEEN_OF_CLUBS;KING_OF_CLUBS;WHITE_JOKER;FOOL
1f0e1=PLAYING_CARD_TRUMP-;1;2;3;4;5;6;7;8;9;10;11;12;13;14;15;16;17;18;19;20;21
1f100=DIGIT_;ZERO_FULL_STOP;ZERO_COMMA;ONE_COMMA;TWO_COMMA;THREE_COMMA;FOUR_COMMA;FIVE_COMMA
SIX_COMMA;SEVEN_COMMA;EIGHT_COMMA;NINE_COMMA;1f10b=DINGBAT_;CIRCLED_SANS-SERIF_DIGIT_ZERO
NEGATIVE_CIRCLED_SANS-SERIF_DIGIT_ZERO;1f10d=CIRCLED_;ZERO_WITH_SLASH;ANTICLOCKWISE_ARROW
DOLLAR_SIGN_WITH_OVERLAID_BACKSLASH
1f110=PARENTHESIZED_LATIN_CAPITAL_LETTER_;A;B;C;D;E;F;G;H;I;J;K;L;M;N;O;P;Q;R;S;T;U;V;W;X;Y;Z
1f12a=;TORTOISE_SHELL_BRACKETED_LATIN_CAPITAL_LETTER_S
1f12b=CIRCLED_ITALIC_LATIN_CAPITAL_LETTER_;C;R
1f12d=CIRCLED_;CD;WZ;1f12f=;COPYLEFT_SYMBOL
1f130=SQUARED_LATIN_CAPITAL_LETTER_;A;B;C;D;E;F;G;H;I;J;K;L;M;N;O;P;Q;R;S;T;U;V;W;X;Y;Z
1f14a=SQUARED_;HV;MV;SD;SS;PPV;WC
1f150=NEGATIVE_CIRCLED_LATIN_CAPITAL_LETTER_;A;B;C;D;E;F;G;H;I;J;K;L;M;N;O;P;Q;R;S;T;U;V;W;X;Y;Z
1f16a=RAISED_;MC_SIGN;MD_SIGN;MR_SIGN;1f16d=CIRCLED_;CC;C_WITH_OVERLAID_BACKSLASH;HUMAN_FIGURE
1f170=NEGATIVE_SQUARED_LATIN_CAPITAL_LETTER_;A;B;C;D;E;F;G;H;I;J;K;L;M;N;O;P;Q;R;S;T;U;V;W;X;Y;Z
1f18a=;CROSSED_NEGATIVE_SQUARED_LATIN_CAPITAL_LETTER_P
1f18b=NEGATIVE_SQUARED_;IC;PA;SA;AB;WC;1f190=;SQUARE_DJ
1f191=SQUARED_;CL;COOL;FREE;ID;NEW;NG;OK;SOS;UP_WITH_EXCLAMATION_MARK;VS;THREE_D;SECOND_SCREEN;TWO_K
FOUR_K;EIGHT_K;FIVE_POINT_ONE;SEVEN_POINT_ONE;TWENTY-TWO_POINT_TWO;SIXTY_P;ONE_HUNDRED_TWENTY_P
LATIN_SMALL_LETTER_D;HC;HDR;HI-RES;LOSSLESS;SHV;UHD;VOD
1f1ad=;MASK_WORK_SYMBOL
1f1e6=REGIONAL_INDICATOR_SYMBOL_LETTER_;A;B;C;D;E;F;G;H;I;J;K;L;M;N;O;P;Q;R;S;T;U;V;W;X;Y;Z
1f200=;SQUARE_HIRAGANA_HOKA;1f201=SQUARED_KATAKANA_;KOKO;SA
1f210=SQUARED_CJK_UNIFIED_IDEOGRAPH-;624B;5B57;53CC;1f213=;SQUARED_KATAKANA_DE
1f214=SQUARED_CJK_UNIFIED_IDEOGRAPH-;4E8C;591A;89E3;5929;4EA4;6620;7121;6599;524D;5F8C;518D;65B0
521D;7D42;751F;8CA9;58F0;5439;6F14;6295;6355;4E00;4E09;904A;5DE6;4E2D;53F3;6307;8D70;6253;7981;7A7A
5408;6E80;6709;6708;7533;5272;55B6;914D
1f240=TORTOISE_SHELL_BRACKETED_CJK_UNIFIED_IDEOGRAPH-;672C;4E09;4E8C;5B89;70B9;6253;76D7;52DD;6557
1f250=CIRCLED_IDEOGRAPH_;ADVANTAGE;ACCEPT
1f260=ROUNDED_SYMBOL_FOR_;FU;LU;SHOU;XI;SHUANGXI;CAI;1f300=;CYCLONE;FOGGY;CLOSED_UMBRELLA
1f303=;NIGHT_WITH_STARS;SUNRISE_OVER_MOUNTAINS;SUNRISE;CITYSCAPE_AT_DUSK;SUNSET_OVER_BUILDINGS
1f308=;RAINBOW;BRIDGE_AT_NIGHT;WATER_WAVE;VOLCANO;MILKY_WAY
1f30d=EARTH_GLOBE_;EUROPE-AFRICA;AMERICAS;ASIA-AUSTRALIA
1f310=;GLOBE_WITH_MERIDIANS;NEW_MOON_SYMBOL;WAXING_CRESCENT_MOON_SYMBOL;FIRST_QUARTER_MOON_SYMBOL
WAXING_GIBBOUS_MOON_SYMBOL;1f315=;FULL_MOON_SYMBOL;WANING_GIBBOUS_MOON_SYMBOL
LAST_QUARTER_MOON_SYMBOL;WANING_CRESCENT_MOON_SYMBOL;CRESCENT_MOON
1f31a=;NEW_MOON_WITH_FACE;FIRST_QUARTER_MOON_WITH_FACE;LAST_QUARTER_MOON_WITH_FACE
FULL_MOON_WITH_FACE;SUN_WITH_FACE;1f31f=;GLOWING_STAR;SHOOTING_STAR;THERMOMETER;BLACK_DROPLET
WHITE_SUN;1f324=WHITE_SUN_;WITH_SMALL_CLOUD;BEHIND_CLOUD;BEHIND_CLOUD_WITH_RAIN
1f327=CLOUD_WITH_;RAIN;SNOW;LIGHTNING;TORNADO;1f32b=;FOG;WIND_BLOWING_FACE;HOT_DOG;TACO;BURRITO
1f330=;CHESTNUT;SEEDLING;EVERGREEN_TREE;DECIDUOUS_TREE;PALM_TREE
1f335=;CACTUS;HOT_PEPPER;TULIP;CHERRY_BLOSSOM;ROSE;1f33a=;HIBISCUS;SUNFLOWER;BLOSSOM;EAR_OF_MAIZE
EAR_OF_RICE;1f33f=;HERB;FOUR_LEAF_CLOVER;MAPLE_LEAF;FALLEN_LEAF;LEAF_FLUTTERING_IN_WIND
1f344=;MUSHROOM;TOMATO;AUBERGINE;GRAPES;MELON;1f349=;WATERMELON;TANGERINE;LEMON;BANANA;PINEAPPLE
1f34e=;RED_APPLE;GREEN_APPLE;PEAR;PEACH;CHERRIES;1f353=;STRAWBERRY;HAMBURGER;SLICE_OF_PIZZA
MEAT_ON_BONE;POULTRY_LEG;1f358=RICE_;CRACKER;BALL;1f35a=;COOKED_RICE;CURRY_AND_RICE;STEAMING_BOWL
SPAGHETTI;BREAD;1f35f=;FRENCH_FRIES;ROASTED_SWEET_POTATO;DANGO;ODEN;SUSHI
1f364=;FRIED_SHRIMP;FISH_CAKE_WITH_SWIRL_DESIGN;SOFT_ICE_CREAM;SHAVED_ICE;ICE_CREAM
1f369=;DOUGHNUT;COOKIE;CHOCOLATE_BAR;CANDY;LOLLIPOP;1f36e=;CUSTARD;HONEY_POT;SHORTCAKE;BENTO_BOX
POT_OF_FOOD;1f373=;COOKING;FORK_AND_KNIFE;TEACUP_WITHOUT_HANDLE;SAKE_BOTTLE_AND_CUP;WINE_GLASS
1f378=;COCKTAIL_GLASS;TROPICAL_DRINK;BEER_MUG;CLINKING_BEER_MUGS;BABY_BOTTLE
1f37d=;FORK_AND_KNIFE_WITH_PLATE;BOTTLE_WITH_POPPING_CORK;POPCORN;RIBBON;WRAPPED_PRESENT
1f382=;BIRTHDAY_CAKE;JACK-O-LANTERN;CHRISTMAS_TREE;FATHER_CHRISTMAS;FIREWORKS
1f387=;FIREWORK_SPARKLER;BALLOON;PARTY_POPPER;CONFETTI_BALL;TANABATA_TREE
1f38c=;CROSSED_FLAGS;PINE_DECORATION;JAPANESE_DOLLS;CARP_STREAMER;WIND_CHIME
1f391=;MOON_VIEWING_CEREMONY;SCHOOL_SATCHEL;GRADUATION_CAP;HEART_WITH_TIP_ON_THE_LEFT
BOUQUET_OF_FLOWERS;1f396=;MILITARY_MEDAL;REMINDER_RIBBON;MUSICAL_KEYBOARD_WITH_JACKS
STUDIO_MICROPHONE;LEVEL_SLIDER;1f39b=;CONTROL_KNOBS;BEAMED_ASCENDING_MUSICAL_NOTES
BEAMED_DESCENDING_MUSICAL_NOTES;FILM_FRAMES;ADMISSION_TICKETS
1f3a0=;CAROUSEL_HORSE;FERRIS_WHEEL;ROLLER_COASTER;FISHING_POLE_AND_FISH;MICROPHONE
1f3a5=;MOVIE_CAMERA;CINEMA;HEADPHONE;ARTIST_PALETTE;TOP_HAT
1f3aa=;CIRCUS_TENT;TICKET;CLAPPER_BOARD;PERFORMING_ARTS;VIDEO_GAME
1f3af=;DIRECT_HIT;SLOT_MACHINE;BILLIARDS;GAME_DIE;BOWLING
1f3b4=;FLOWER_PLAYING_CARDS;MUSICAL_NOTE;MULTIPLE_MUSICAL_NOTES;SAXOPHONE;GUITAR
1f3b9=;MUSICAL_KEYBOARD;TRUMPET;VIOLIN;MUSICAL_SCORE;RUNNING_SHIRT_WITH_SASH
1f3be=;TENNIS_RACQUET_AND_BALL;SKI_AND_SKI_BOOT;BASKETBALL_AND_HOOP;CHEQUERED_FLAG;SNOWBOARDER
1f3c3=;RUNNER;SURFER;SPORTS_MEDAL;TROPHY;HORSE_RACING;1f3c8=;AMERICAN_FOOTBALL;RUGBY_FOOTBALL
SWIMMER;WEIGHT_LIFTER;GOLFER;1f3cd=RACING_;MOTORCYCLE;CAR
1f3cf=;CRICKET_BAT_AND_BALL;VOLLEYBALL;FIELD_HOCKEY_STICK_AND_BALL;ICE_HOCKEY_STICK_AND_PUCK
1f3d3=;TABLE_TENNIS_PADDLE_AND_BALL;SNOW_CAPPED_MOUNTAIN;CAMPING;BEACH_WITH_UMBRELLA
BUILDING_CONSTRUCTION;1f3d8=;HOUSE_BUILDINGS;CITYSCAPE;DERELICT_HOUSE_BUILDING;CLASSICAL_BUILDING
DESERT;1f3dd=;DESERT_ISLAND;NATIONAL_PARK;STADIUM;HOUSE_BUILDING;HOUSE_WITH_GARDEN
1f3e2=;OFFICE_BUILDING;JAPANESE_POST_OFFICE;EUROPEAN_POST_OFFICE;HOSPITAL;BANK
1f3e7=;AUTOMATED_TELLER_MACHINE;HOTEL;LOVE_HOTEL;CONVENIENCE_STORE;SCHOOL
1f3ec=;DEPARTMENT_STORE;FACTORY;IZAKAYA_LANTERN;JAPANESE_CASTLE;EUROPEAN_CASTLE
1f3f1=;WHITE_PENNANT;BLACK_PENNANT;WAVING_WHITE_FLAG;WAVING_BLACK_FLAG;ROSETTE
1f3f6=;BLACK_ROSETTE;LABEL;BADMINTON_RACQUET_AND_SHUTTLECOCK;BOW_AND_ARROW;AMPHORA
1f3fb=EMOJI_MODIFIER_FITZPATRICK_TYPE-;1-2;3;4;5;6;1f400=;RAT;MOUSE;OX;WATER_BUFFALO;COW
1f405=;TIGER;LEOPARD;RABBIT;CAT;DRAGON;1f40a=;CROCODILE;WHALE;SNAIL;SNAKE;HORSE
1f40f=;RAM;GOAT;SHEEP;MONKEY;ROOSTER;1f414=;CHICKEN;DOG;PIG;BOAR;ELEPHANT
1f419=;OCTOPUS;SPIRAL_SHELL;BUG;ANT;HONEYBEE;1f41e=;LADY_BEETLE;FISH;TROPICAL_FISH;BLOWFISH;TURTLE
1f423=;HATCHING_CHICK;BABY_CHICK;FRONT-FACING_BABY_CHICK;BIRD;PENGUIN
1f428=;KOALA;POODLE;DROMEDARY_CAMEL;BACTRIAN_CAMEL;DOLPHIN
1f42d=;MOUSE_FACE;COW_FACE;TIGER_FACE;RABBIT_FACE;CAT_FACE
1f432=;DRAGON_FACE;SPOUTING_WHALE;HORSE_FACE;MONKEY_FACE;DOG_FACE
1f437=;PIG_FACE;FROG_FACE;HAMSTER_FACE;WOLF_FACE;BEAR_FACE
1f43c=;PANDA_FACE;PIG_NOSE;PAW_PRINTS;CHIPMUNK;EYES;1f441=;EYE;EAR;NOSE;MOUTH;TONGUE
1f446=WHITE_;UP_POINTING_BACKHAND_INDEX;DOWN_POINTING_BACKHAND_INDEX;LEFT_POINTING_BACKHAND_INDEX
RIGHT_POINTING_BACKHAND_INDEX;1f44a=;FISTED_HAND_SIGN;WAVING_HAND_SIGN;OK_HAND_SIGN;THUMBS_UP_SIGN
THUMBS_DOWN_SIGN;1f44f=;CLAPPING_HANDS_SIGN;OPEN_HANDS_SIGN;CROWN;WOMANS_HAT;EYEGLASSES
1f454=;NECKTIE;T-SHIRT;JEANS;DRESS;KIMONO;1f459=;BIKINI;WOMANS_CLOTHES;PURSE;HANDBAG;POUCH
1f45e=;MANS_SHOE;ATHLETIC_SHOE;HIGH-HEELED_SHOE;WOMANS_SANDAL;WOMANS_BOOTS
1f463=;FOOTPRINTS;BUST_IN_SILHOUETTE;BUSTS_IN_SILHOUETTE;BOY;GIRL
1f468=;MAN;WOMAN;FAMILY;MAN_AND_WOMAN_HOLDING_HANDS;TWO_MEN_HOLDING_HANDS
1f46d=;TWO_WOMEN_HOLDING_HANDS;POLICE_OFFICER;WOMAN_WITH_BUNNY_EARS;BRIDE_WITH_VEIL
PERSON_WITH_BLOND_HAIR;1f472=MAN_WITH_;GUA_PI_MAO;TURBAN
1f474=;OLDER_MAN;OLDER_WOMAN;BABY;CONSTRUCTION_WORKER;PRINCESS
1f479=JAPANESE_;OGRE;GOBLIN;1f47b=;GHOST;BABY_ANGEL;1f47d=;EXTRATERRESTRIAL_ALIEN;ALIEN_MONSTER;IMP
SKULL;INFORMATION_DESK_PERSON;1f482=;GUARDSMAN;DANCER;LIPSTICK;NAIL_POLISH;FACE_MASSAGE
1f487=;HAIRCUT;BARBER_POLE;SYRINGE;PILL;KISS_MARK;1f48c=;LOVE_LETTER;RING;GEM_STONE;KISS;BOUQUET
1f491=;COUPLE_WITH_HEART;WEDDING;BEATING_HEART;BROKEN_HEART;TWO_HEARTS
1f496=;SPARKLING_HEART;GROWING_HEART;HEART_WITH_ARROW;BLUE_HEART;GREEN_HEART
1f49b=;YELLOW_HEART;PURPLE_HEART;HEART_WITH_RIBBON;REVOLVING_HEARTS;HEART_DECORATION
1f4a0=;DIAMOND_SHAPE_WITH_A_DOT_INSIDE;ELECTRIC_LIGHT_BULB;ANGER_SYMBOL;BOMB;SLEEPING_SYMBOL
1f4a5=;COLLISION_SYMBOL;SPLASHING_SWEAT_SYMBOL;DROPLET;DASH_SYMBOL;PILE_OF_POO
1f4aa=;FLEXED_BICEPS;DIZZY_SYMBOL;SPEECH_BALLOON;THOUGHT_BALLOON;WHITE_FLOWER
1f4af=;HUNDRED_POINTS_SYMBOL;MONEY_BAG;CURRENCY_EXCHANGE;HEAVY_DOLLAR_SIGN;CREDIT_CARD
1f4b4=BANKNOTE_WITH_;YEN_SIGN;DOLLAR_SIGN;EURO_SIGN;POUND_SIGN
1f4b8=;MONEY_WITH_WINGS;CHART_WITH_UPWARDS_TREND_AND_YEN_SIGN;SEAT;PERSONAL_COMPUTER;BRIEFCASE
1f4bd=;MINIDISC;FLOPPY_DISK;OPTICAL_DISC;DVD;FILE_FOLDER
1f4c2=;OPEN_FILE_FOLDER;PAGE_WITH_CURL;PAGE_FACING_UP;CALENDAR;TEAR-OFF_CALENDAR
1f4c7=;CARD_INDEX;CHART_WITH_UPWARDS_TREND;CHART_WITH_DOWNWARDS_TREND;BAR_CHART;CLIPBOARD
1f4cc=;PUSHPIN;ROUND_PUSHPIN;PAPERCLIP;STRAIGHT_RULER;TRIANGULAR_RULER
1f4d1=;BOOKMARK_TABS;LEDGER;NOTEBOOK;NOTEBOOK_WITH_DECORATIVE_COVER;CLOSED_BOOK
1f4d6=;OPEN_BOOK;GREEN_BOOK;BLUE_BOOK;ORANGE_BOOK;BOOKS
1f4db=;NAME_BADGE;SCROLL;MEMO;TELEPHONE_RECEIVER;PAGER
1f4e0=;FAX_MACHINE;SATELLITE_ANTENNA;PUBLIC_ADDRESS_LOUDSPEAKER;CHEERING_MEGAPHONE;OUTBOX_TRAY
1f4e5=;INBOX_TRAY;PACKAGE;E-MAIL_SYMBOL;INCOMING_ENVELOPE;ENVELOPE_WITH_DOWNWARDS_ARROW_ABOVE
1f4ea=CLOSED_MAILBOX_WITH_;LOWERED_FLAG;RAISED_FLAG
1f4ec=OPEN_MAILBOX_WITH_;RAISED_FLAG;LOWERED_FLAG;1f4ee=;POSTBOX;POSTAL_HORN;NEWSPAPER;MOBILE_PHONE
1f4f2=;MOBILE_PHONE_WITH_RIGHTWARDS_ARROW_AT_LEFT;VIBRATION_MODE;MOBILE_PHONE_OFF;NO_MOBILE_PHONES
ANTENNA_WITH_BARS;1f4f7=;CAMERA;CAMERA_WITH_FLASH;VIDEO_CAMERA;TELEVISION;RADIO
1f4fc=;VIDEOCASSETTE;FILM_PROJECTOR;PORTABLE_STEREO;PRAYER_BEADS;TWISTED_RIGHTWARDS_ARROWS
1f501=CLOCKWISE_RIGHTWARDS_AND_LEFTWARDS_OPEN_CIRCLE_;ARROWS;ARROWS_WITH_CIRCLED_ONE_OVERLAY
1f503=;CLOCKWISE_DOWNWARDS_AND_UPWARDS_OPEN_CIRCLE_ARROWS
ANTICLOCKWISE_DOWNWARDS_AND_UPWARDS_OPEN_CIRCLE_ARROWS;LOW_BRIGHTNESS_SYMBOL;HIGH_BRIGHTNESS_SYMBOL
1f507=;SPEAKER_WITH_CANCELLATION_STROKE;SPEAKER;SPEAKER_WITH_ONE_SOUND_WAVE
SPEAKER_WITH_THREE_SOUND_WAVES;BATTERY;1f50c=;ELECTRIC_PLUG;LEFT-POINTING_MAGNIFYING_GLASS
RIGHT-POINTING_MAGNIFYING_GLASS;LOCK_WITH_INK_PEN;CLOSED_LOCK_WITH_KEY
1f511=;KEY;LOCK;OPEN_LOCK;BELL;BELL_WITH_CANCELLATION_STROKE
1f516=;BOOKMARK;LINK_SYMBOL;RADIO_BUTTON;BACK_WITH_LEFTWARDS_ARROW_ABOVE
END_WITH_LEFTWARDS_ARROW_ABOVE;1f51b=;ON_WITH_EXCLAMATION_MARK_WITH_LEFT_RIGHT_ARROW_ABOVE
SOON_WITH_RIGHTWARDS_ARROW_ABOVE;TOP_WITH_UPWARDS_ARROW_ABOVE;NO_ONE_UNDER_EIGHTEEN_SYMBOL
KEYCAP_TEN;1f520=INPUT_SYMBOL_FOR_;LATIN_CAPITAL_LETTERS;LATIN_SMALL_LETTERS;NUMBERS;SYMBOLS
LATIN_LETTERS;1f525=;FIRE;ELECTRIC_TORCH;WRENCH;HAMMER;NUT_AND_BOLT
1f52a=;HOCHO;PISTOL;MICROSCOPE;TELESCOPE;CRYSTAL_BALL;1f52f=;SIX_POINTED_STAR_WITH_MIDDLE_DOT
JAPANESE_SYMBOL_FOR_BEGINNER;TRIDENT_EMBLEM;BLACK_SQUARE_BUTTON;WHITE_SQUARE_BUTTON
1f534=LARGE_;RED_CIRCLE;BLUE_CIRCLE;ORANGE_DIAMOND;BLUE_DIAMOND
1f538=;SMALL_ORANGE_DIAMOND;SMALL_BLUE_DIAMOND;UP-POINTING_RED_TRIANGLE;DOWN-POINTING_RED_TRIANGLE
1f53c=;UP-POINTING_SMALL_RED_TRIANGLE;DOWN-POINTING_SMALL_RED_TRIANGLE
LOWER_RIGHT_SHADOWED_WHITE_CIRCLE;UPPER_RIGHT_SHADOWED_WHITE_CIRCLE;CIRCLED_CROSS_POMMEE
1f541=;CROSS_POMMEE_WITH_HALF-CIRCLE_BELOW;CROSS_POMMEE;NOTCHED_LEFT_SEMICIRCLE_WITH_THREE_DOTS
NOTCHED_RIGHT_SEMICIRCLE_WITH_THREE_DOTS;SYMBOL_FOR_MARKS_CHAPTER
1f546=;WHITE_LATIN_CROSS;HEAVY_LATIN_CROSS;CELTIC_CROSS;OM_SYMBOL;DOVE_OF_PEACE
1f54b=;KAABA;MOSQUE;SYNAGOGUE;MENORAH_WITH_NINE_BRANCHES;BOWL_OF_HYGIEIA
1f550=CLOCK_FACE_;ONE_OCLOCK;TWO_OCLOCK;THREE_OCLOCK;FOUR_OCLOCK;FIVE_OCLOCK;SIX_OCLOCK;SEVEN_OCLOCK
EIGHT_OCLOCK;NINE_OCLOCK;TEN_OCLOCK;ELEVEN_OCLOCK;TWELVE_OCLOCK;ONE-THIRTY;TWO-THIRTY;THREE-THIRTY
FOUR-THIRTY;FIVE-THIRTY;SIX-THIRTY;SEVEN-THIRTY;EIGHT-THIRTY;NINE-THIRTY;TEN-THIRTY;ELEVEN-THIRTY
TWELVE-THIRTY;1f568=RIGHT_;SPEAKER;SPEAKER_WITH_ONE_SOUND_WAVE;SPEAKER_WITH_THREE_SOUND_WAVES
1f56b=;BULLHORN;BULLHORN_WITH_SOUND_WAVES;RINGING_BELL;BOOK;CANDLE
1f570=;MANTELPIECE_CLOCK;BLACK_SKULL_AND_CROSSBONES;NO_PIRACY;HOLE;MAN_IN_BUSINESS_SUIT_LEVITATING
1f575=;SLEUTH_OR_SPY;DARK_SUNGLASSES;SPIDER;SPIDER_WEB;JOYSTICK
1f57a=;MAN_DANCING;LEFT_HAND_TELEPHONE_RECEIVER;TELEPHONE_RECEIVER_WITH_PAGE
RIGHT_HAND_TELEPHONE_RECEIVER;WHITE_TOUCHTONE_TELEPHONE
1f57f=;BLACK_TOUCHTONE_TELEPHONE;TELEPHONE_ON_TOP_OF_MODEM;CLAMSHELL_MOBILE_PHONE;BACK_OF_ENVELOPE
STAMPED_ENVELOPE;1f584=;ENVELOPE_WITH_LIGHTNING;FLYING_ENVELOPE;PEN_OVER_STAMPED_ENVELOPE
LINKED_PAPERCLIPS;BLACK_PUSHPIN;1f589=LOWER_LEFT_;PENCIL;BALLPOINT_PEN;FOUNTAIN_PEN;PAINTBRUSH
CRAYON;1f58e=;LEFT_WRITING_HAND;TURNED_OK_HAND_SIGN;RAISED_HAND_WITH_FINGERS_SPLAYED
1f591=REVERSED_;RAISED_HAND_WITH_FINGERS_SPLAYED;THUMBS_UP_SIGN;THUMBS_DOWN_SIGN;VICTORY_HAND
HAND_WITH_MIDDLE_FINGER_EXTENDED;1f596=;RAISED_HAND_WITH_PART_BETWEEN_MIDDLE_AND_RING_FINGERS
WHITE_DOWN_POINTING_LEFT_HAND_INDEX;1f598=SIDEWAYS_;WHITE_LEFT_POINTING_INDEX
WHITE_RIGHT_POINTING_INDEX;BLACK_LEFT_POINTING_INDEX;BLACK_RIGHT_POINTING_INDEX
1f59c=BLACK_;LEFT_POINTING_BACKHAND_INDEX;RIGHT_POINTING_BACKHAND_INDEX
1f59e=SIDEWAYS_;WHITE_UP_POINTING_INDEX;WHITE_DOWN_POINTING_INDEX;BLACK_UP_POINTING_INDEX
BLACK_DOWN_POINTING_INDEX;1f5a2=BLACK_;UP_POINTING_BACKHAND_INDEX;DOWN_POINTING_BACKHAND_INDEX;HEART
1f5a5=;DESKTOP_COMPUTER;KEYBOARD_AND_MOUSE;THREE_NETWORKED_COMPUTERS;PRINTER;POCKET_CALCULATOR
1f5aa=;BLACK_HARD_SHELL_FLOPPY_DISK;WHITE_HARD_SHELL_FLOPPY_DISK;SOFT_SHELL_FLOPPY_DISK
TAPE_CARTRIDGE;WIRED_KEYBOARD;1f5af=;ONE_BUTTON_MOUSE;TWO_BUTTON_MOUSE;THREE_BUTTON_MOUSE;TRACKBALL
OLD_PERSONAL_COMPUTER;1f5b4=;HARD_DISK;SCREEN;PRINTER_ICON;FAX_ICON;OPTICAL_DISC_ICON
1f5b9=DOCUMENT_WITH_;TEXT;TEXT_AND_PICTURE;PICTURE
1f5bc=FRAME_WITH_;PICTURE;TILES;AN_X;1f5bf=;BLACK_FOLDER
1f5c0=;FOLDER;OPEN_FOLDER;CARD_INDEX_DIVIDERS;CARD_FILE_BOX;FILE_CABINET
1f5c5=EMPTY_;NOTE;NOTE_PAGE;NOTE_PAD;1f5c8=;NOTE;NOTE_PAGE;NOTE_PAD
1f5cb=EMPTY_;DOCUMENT;PAGE;PAGES;1f5ce=;DOCUMENT;PAGE;1f5d0=;PAGES;WASTEBASKET;SPIRAL_NOTE_PAD
SPIRAL_CALENDAR_PAD;DESKTOP_WINDOW;1f5d5=;MINIMIZE;MAXIMIZE;OVERLAP
CLOCKWISE_RIGHT_AND_LEFT_SEMICIRCLE_ARROWS;CANCELLATION_X
1f5da=;INCREASE_FONT_SIZE_SYMBOL;DECREASE_FONT_SIZE_SYMBOL;COMPRESSION;OLD_KEY;ROLLED-UP_NEWSPAPER
1f5df=;PAGE_WITH_CIRCLED_TEXT;STOCK_CHART;DAGGER_KNIFE;LIPS;SPEAKING_HEAD_IN_SILHOUETTE
1f5e4=THREE_RAYS_;ABOVE;BELOW;LEFT;RIGHT;1f5e8=;LEFT_SPEECH_BUBBLE;RIGHT_SPEECH_BUBBLE
TWO_SPEECH_BUBBLES;THREE_SPEECH_BUBBLES;1f5ec=;LEFT_THOUGHT_BUBBLE;RIGHT_THOUGHT_BUBBLE
LEFT_ANGER_BUBBLE;RIGHT_ANGER_BUBBLE;MOOD_BUBBLE
1f5f1=LIGHTNING_;MOOD_BUBBLE;MOOD;1f5f3=BALLOT_;BOX_WITH_BALLOT;SCRIPT_X;BOX_WITH_SCRIPT_X
BOLD_SCRIPT_X;BOX_WITH_BOLD_SCRIPT_X;1f5f8=;LIGHT_CHECK_MARK;BALLOT_BOX_WITH_BOLD_CHECK;WORLD_MAP
1f5fb=;MOUNT_FUJI;TOKYO_TOWER;STATUE_OF_LIBERTY;SILHOUETTE_OF_JAPAN;MOYAI
1f600=GRINNING_;FACE;FACE_WITH_SMILING_EYES;1f602=;FACE_WITH_TEARS_OF_JOY
1f603=SMILING_FACE_WITH_;OPEN_MOUTH;OPEN_MOUTH_AND_SMILING_EYES;OPEN_MOUTH_AND_COLD_SWEAT
OPEN_MOUTH_AND_TIGHTLY-CLOSED_EYES;HALO;HORNS;1f609=;WINKING_FACE;SMILING_FACE_WITH_SMILING_EYES
FACE_SAVOURING_DELICIOUS_FOOD;RELIEVED_FACE
1f60d=SMILING_FACE_WITH_;HEART-SHAPED_EYES;SUNGLASSES;1f60f=;SMIRKING_FACE;NEUTRAL_FACE
EXPRESSIONLESS_FACE;UNAMUSED_FACE;FACE_WITH_COLD_SWEAT
1f614=;PENSIVE_FACE;CONFUSED_FACE;CONFOUNDED_FACE;KISSING_FACE;FACE_THROWING_A_KISS
1f619=KISSING_FACE_WITH_;SMILING_EYES;CLOSED_EYES
1f61b=FACE_WITH_STUCK-OUT_;TONGUE;TONGUE_AND_WINKING_EYE;TONGUE_AND_TIGHTLY-CLOSED_EYES
1f61e=;DISAPPOINTED_FACE;WORRIED_FACE;ANGRY_FACE;1f621=;POUTING_FACE;CRYING_FACE;PERSEVERING_FACE
FACE_WITH_LOOK_OF_TRIUMPH;DISAPPOINTED_BUT_RELIEVED_FACE
1f626=;FROWNING_FACE_WITH_OPEN_MOUTH;ANGUISHED_FACE;FEARFUL_FACE;WEARY_FACE;SLEEPY_FACE
1f62b=;TIRED_FACE;GRIMACING_FACE;LOUDLY_CRYING_FACE;FACE_WITH_OPEN_MOUTH;HUSHED_FACE
1f630=;FACE_WITH_OPEN_MOUTH_AND_COLD_SWEAT;FACE_SCREAMING_IN_FEAR;ASTONISHED_FACE;FLUSHED_FACE
SLEEPING_FACE;1f635=;DIZZY_FACE;FACE_WITHOUT_MOUTH;FACE_WITH_MEDICAL_MASK
GRINNING_CAT_FACE_WITH_SMILING_EYES;CAT_FACE_WITH_TEARS_OF_JOY
1f63a=SMILING_CAT_FACE_WITH_;OPEN_MOUTH;HEART-SHAPED_EYES
1f63c=;CAT_FACE_WITH_WRY_SMILE;KISSING_CAT_FACE_WITH_CLOSED_EYES;POUTING_CAT_FACE;CRYING_CAT_FACE
WEARY_CAT_FACE;1f641=SLIGHTLY_;FROWNING_FACE;SMILING_FACE
1f643=;UPSIDE-DOWN_FACE;1f644=FACE_WITH_;ROLLING_EYES;NO_GOOD_GESTURE;OK_GESTURE
1f647=;PERSON_BOWING_DEEPLY;SEE-NO-EVIL_MONKEY;HEAR-NO-EVIL_MONKEY;SPEAK-NO-EVIL_MONKEY
HAPPY_PERSON_RAISING_ONE_HAND;1f64c=PERSON_;RAISING_BOTH_HANDS_IN_CELEBRATION;FROWNING
WITH_POUTING_FACE;WITH_FOLDED_HANDS;1f650=;NORTH_WEST_POINTING_LEAF;SOUTH_WEST_POINTING_LEAF
NORTH_EAST_POINTING_LEAF;SOUTH_EAST_POINTING_LEAF
1f654=TURNED_;NORTH_WEST_POINTING_LEAF;SOUTH_WEST_POINTING_LEAF;NORTH_EAST_POINTING_LEAF
SOUTH_EAST_POINTING_LEAF;1f658=;NORTH_WEST_POINTING_VINE_LEAF;SOUTH_WEST_POINTING_VINE_LEAF
NORTH_EAST_POINTING_VINE_LEAF;SOUTH_EAST_POINTING_VINE_LEAF
1f65c=HEAVY_;NORTH_WEST_POINTING_VINE_LEAF;SOUTH_WEST_POINTING_VINE_LEAF
NORTH_EAST_POINTING_VINE_LEAF;SOUTH_EAST_POINTING_VINE_LEAF
1f660=;NORTH_WEST_POINTING_BUD;SOUTH_WEST_POINTING_BUD;NORTH_EAST_POINTING_BUD
SOUTH_EAST_POINTING_BUD;1f664=HEAVY_;NORTH_WEST_POINTING_BUD;SOUTH_WEST_POINTING_BUD
NORTH_EAST_POINTING_BUD;SOUTH_EAST_POINTING_BUD
1f668=HOLLOW_QUILT_SQUARE_;ORNAMENT;ORNAMENT_IN_BLACK_SQUARE
1f66a=SOLID_QUILT_SQUARE_;ORNAMENT;ORNAMENT_IN_BLACK_SQUARE
1f66c=;LEFTWARDS_ROCKET;UPWARDS_ROCKET;RIGHTWARDS_ROCKET;DOWNWARDS_ROCKET
SCRIPT_LIGATURE_ET_ORNAMENT;1f671=;HEAVY_SCRIPT_LIGATURE_ET_ORNAMENT;LIGATURE_OPEN_ET_ORNAMENT
HEAVY_LIGATURE_OPEN_ET_ORNAMENT;HEAVY_AMPERSAND_ORNAMENT;SWASH_AMPERSAND_ORNAMENT
1f676=SANS-SERIF_HEAVY_;DOUBLE_TURNED_COMMA_QUOTATION_MARK_ORNAMENT
DOUBLE_COMMA_QUOTATION_MARK_ORNAMENT;LOW_DOUBLE_COMMA_QUOTATION_MARK_ORNAMENT
1f679=;HEAVY_INTERROBANG_ORNAMENT;SANS-SERIF_INTERROBANG_ORNAMENT
HEAVY_SANS-SERIF_INTERROBANG_ORNAMENT;1f67c=VERY_HEAVY_;SOLIDUS;REVERSE_SOLIDUS
1f67e=;CHECKER_BOARD;REVERSE_CHECKER_BOARD;ROCKET;HELICOPTER;STEAM_LOCOMOTIVE
1f683=;RAILWAY_CAR;HIGH-SPEED_TRAIN;HIGH-SPEED_TRAIN_WITH_BULLET_NOSE;TRAIN;METRO
1f688=;LIGHT_RAIL;STATION;TRAM;TRAM_CAR;BUS;1f68d=;ONCOMING_BUS;TROLLEYBUS;BUS_STOP;MINIBUS
AMBULANCE;1f692=;FIRE_ENGINE;POLICE_CAR;ONCOMING_POLICE_CAR;TAXI;ONCOMING_TAXI
1f697=;AUTOMOBILE;ONCOMING_AUTOMOBILE;RECREATIONAL_VEHICLE;DELIVERY_TRUCK;ARTICULATED_LORRY
1f69c=;TRACTOR;MONORAIL;MOUNTAIN_RAILWAY;SUSPENSION_RAILWAY;MOUNTAIN_CABLEWAY
1f6a1=;AERIAL_TRAMWAY;SHIP;ROWBOAT;SPEEDBOAT;HORIZONTAL_TRAFFIC_LIGHT
1f6a6=;VERTICAL_TRAFFIC_LIGHT;CONSTRUCTION_SIGN;POLICE_CARS_REVOLVING_LIGHT;TRIANGULAR_FLAG_ON_POST
DOOR;1f6ab=;NO_ENTRY_SIGN;SMOKING_SYMBOL;NO_SMOKING_SYMBOL;PUT_LITTER_IN_ITS_PLACE_SYMBOL
DO_NOT_LITTER_SYMBOL;1f6b0=;POTABLE_WATER_SYMBOL;NON-POTABLE_WATER_SYMBOL;BICYCLE;NO_BICYCLES
BICYCLIST;1f6b5=;MOUNTAIN_BICYCLIST;PEDESTRIAN;NO_PEDESTRIANS;CHILDREN_CROSSING;MENS_SYMBOL
1f6ba=;WOMENS_SYMBOL;RESTROOM;BABY_SYMBOL;TOILET;WATER_CLOSET
1f6bf=;SHOWER;BATH;BATHTUB;PASSPORT_CONTROL;CUSTOMS;1f6c4=;BAGGAGE_CLAIM;LEFT_LUGGAGE
TRIANGLE_WITH_ROUNDED_CORNERS;PROHIBITED_SIGN;CIRCLED_INFORMATION_SOURCE
1f6c9=;BOYS_SYMBOL;GIRLS_SYMBOL;COUCH_AND_LAMP;SLEEPING_ACCOMMODATION;SHOPPING_BAGS
1f6ce=;BELLHOP_BELL;BED;PLACE_OF_WORSHIP;OCTAGONAL_SIGN;SHOPPING_TROLLEY
1f6d3=;STUPA;PAGODA;HINDU_TEMPLE;HUT;ELEVATOR;1f6dd=;PLAYGROUND_SLIDE;WHEEL;RING_BUOY
HAMMER_AND_WRENCH;1f6e1=;SHIELD;OIL_DRUM;MOTORWAY;RAILWAY_TRACK;MOTOR_BOAT
1f6e6=UP-POINTING_;MILITARY_AIRPLANE;AIRPLANE;SMALL_AIRPLANE
1f6e9=;SMALL_AIRPLANE;NORTHEAST-POINTING_AIRPLANE
1f6eb=AIRPLANE_;DEPARTURE;ARRIVING;1f6f0=;SATELLITE;ONCOMING_FIRE_ENGINE;DIESEL_LOCOMOTIVE
1f6f3=;PASSENGER_SHIP;SCOOTER;MOTOR_SCOOTER;CANOE;SLED
1f6f8=;FLYING_SAUCER;SKATEBOARD;AUTO_RICKSHAW;PICKUP_TRUCK;ROLLER_SKATE
1f700=ALCHEMICAL_SYMBOL_FOR_;QUINTESSENCE;AIR;FIRE;EARTH;WATER;AQUAFORTIS;AQUA_REGIA;AQUA_REGIA-2
AQUA_VITAE;AQUA_VITAE-2;VINEGAR;VINEGAR-2;VINEGAR-3;SULFUR;PHILOSOPHERS_SULFUR;BLACK_SULFUR
MERCURY_SUBLIMATE;MERCURY_SUBLIMATE-2;MERCURY_SUBLIMATE-3;CINNABAR;SALT;NITRE;VITRIOL;VITRIOL-2
ROCK_SALT;ROCK_SALT-2;GOLD;SILVER;IRON_ORE;IRON_ORE-2;CROCUS_OF_IRON;REGULUS_OF_IRON;COPPER_ORE
IRON-COPPER_ORE;SUBLIMATE_OF_COPPER;CROCUS_OF_COPPER;CROCUS_OF_COPPER-2;COPPER_ANTIMONIATE
SALT_OF_COPPER_ANTIMONIATE;SUBLIMATE_OF_SALT_OF_COPPER;VERDIGRIS;TIN_ORE;LEAD_ORE;ANTIMONY_ORE
SUBLIMATE_OF_ANTIMONY;SALT_OF_ANTIMONY;SUBLIMATE_OF_SALT_OF_ANTIMONY;VINEGAR_OF_ANTIMONY
REGULUS_OF_ANTIMONY;REGULUS_OF_ANTIMONY-2;REGULUS;REGULUS-2;REGULUS-3;REGULUS-4;ALKALI;ALKALI-2
MARCASITE;SAL-AMMONIAC;ARSENIC;REALGAR;REALGAR-2;AURIPIGMENT;BISMUTH_ORE;TARTAR;TARTAR-2;QUICK_LIME
BORAX;BORAX-2;BORAX-3;ALUM;OIL;SPIRIT;TINCTURE;GUM;WAX;POWDER;CALX;TUTTY;CAPUT_MORTUUM
SCEPTER_OF_JOVE;CADUCEUS;TRIDENT;STARRED_TRIDENT;LODESTONE;SOAP;URINE;HORSE_DUNG;ASHES;POT_ASHES
BRICK;POWDERED_BRICK;AMALGAM;STRATUM_SUPER_STRATUM;STRATUM_SUPER_STRATUM-2;SUBLIMATION;PRECIPITATE
DISTILL;DISSOLVE;DISSOLVE-2;PURIFY;PUTREFACTION;CRUCIBLE;CRUCIBLE-2;CRUCIBLE-3;CRUCIBLE-4;CRUCIBLE-5
ALEMBIC;BATH_OF_MARY;BATH_OF_VAPOURS;RETORT;HOUR;NIGHT;DAY-NIGHT;MONTH;HALF_DRAM;HALF_OUNCE
1f780=BLACK_;LEFT-POINTING_ISOSCELES_RIGHT_TRIANGLE;UP-POINTING_ISOSCELES_RIGHT_TRIANGLE
RIGHT-POINTING_ISOSCELES_RIGHT_TRIANGLE;DOWN-POINTING_ISOSCELES_RIGHT_TRIANGLE;SLIGHTLY_SMALL_CIRCLE
1f785=;MEDIUM_BOLD_WHITE_CIRCLE;BOLD_WHITE_CIRCLE;HEAVY_WHITE_CIRCLE;VERY_HEAVY_WHITE_CIRCLE
EXTREMELY_HEAVY_WHITE_CIRCLE;1f78a=;WHITE_CIRCLE_CONTAINING_BLACK_SMALL_CIRCLE;ROUND_TARGET
BLACK_TINY_SQUARE;BLACK_SLIGHTLY_SMALL_SQUARE;LIGHT_WHITE_SQUARE
1f78f=;MEDIUM_WHITE_SQUARE;BOLD_WHITE_SQUARE;HEAVY_WHITE_SQUARE;VERY_HEAVY_WHITE_SQUARE
EXTREMELY_HEAVY_WHITE_SQUARE
1f794=WHITE_SQUARE_CONTAINING_BLACK_;VERY_SMALL_SQUARE;MEDIUM_SQUARE
1f796=;SQUARE_TARGET;1f797=BLACK_;TINY_DIAMOND;VERY_SMALL_DIAMOND;MEDIUM_SMALL_DIAMOND
1f79a=WHITE_DIAMOND_CONTAINING_BLACK_;VERY_SMALL_DIAMOND;MEDIUM_DIAMOND
1f79c=;DIAMOND_TARGET;1f79d=BLACK_;TINY_LOZENGE;VERY_SMALL_LOZENGE;MEDIUM_SMALL_LOZENGE
1f7a0=;WHITE_LOZENGE_CONTAINING_BLACK_SMALL_LOZENGE;THIN_GREEK_CROSS;LIGHT_GREEK_CROSS
MEDIUM_GREEK_CROSS;BOLD_GREEK_CROSS;1f7a5=VERY_;BOLD_GREEK_CROSS;HEAVY_GREEK_CROSS
1f7a7=;EXTREMELY_HEAVY_GREEK_CROSS;THIN_SALTIRE;LIGHT_SALTIRE;MEDIUM_SALTIRE
1f7ab=;BOLD_SALTIRE;HEAVY_SALTIRE;VERY_HEAVY_SALTIRE;EXTREMELY_HEAVY_SALTIRE
LIGHT_FIVE_SPOKED_ASTERISK;1f7b0=;MEDIUM_FIVE_SPOKED_ASTERISK;BOLD_FIVE_SPOKED_ASTERISK
HEAVY_FIVE_SPOKED_ASTERISK;VERY_HEAVY_FIVE_SPOKED_ASTERISK;EXTREMELY_HEAVY_FIVE_SPOKED_ASTERISK
1f7b5=;LIGHT_SIX_SPOKED_ASTERISK;MEDIUM_SIX_SPOKED_ASTERISK;BOLD_SIX_SPOKED_ASTERISK
HEAVY_SIX_SPOKED_ASTERISK;VERY_HEAVY_SIX_SPOKED_ASTERISK
1f7ba=;EXTREMELY_HEAVY_SIX_SPOKED_ASTERISK;LIGHT_EIGHT_SPOKED_ASTERISK;MEDIUM_EIGHT_SPOKED_ASTERISK
BOLD_EIGHT_SPOKED_ASTERISK;HEAVY_EIGHT_SPOKED_ASTERISK
1f7bf=;VERY_HEAVY_EIGHT_SPOKED_ASTERISK;LIGHT_THREE_POINTED_BLACK_STAR
MEDIUM_THREE_POINTED_BLACK_STAR;THREE_POINTED_BLACK_STAR;MEDIUM_THREE_POINTED_PINWHEEL_STAR
1f7c4=;LIGHT_FOUR_POINTED_BLACK_STAR;MEDIUM_FOUR_POINTED_BLACK_STAR;FOUR_POINTED_BLACK_STAR
MEDIUM_FOUR_POINTED_PINWHEEL_STAR;REVERSE_LIGHT_FOUR_POINTED_PINWHEEL_STAR
1f7c9=;LIGHT_FIVE_POINTED_BLACK_STAR;HEAVY_FIVE_POINTED_BLACK_STAR;MEDIUM_SIX_POINTED_BLACK_STAR
HEAVY_SIX_POINTED_BLACK_STAR;SIX_POINTED_PINWHEEL_STAR
1f7ce=;MEDIUM_EIGHT_POINTED_BLACK_STAR;HEAVY_EIGHT_POINTED_BLACK_STAR
VERY_HEAVY_EIGHT_POINTED_BLACK_STAR;HEAVY_EIGHT_POINTED_PINWHEEL_STAR
LIGHT_TWELVE_POINTED_BLACK_STAR;1f7d3=HEAVY_TWELVE_POINTED_;BLACK_STAR;PINWHEEL_STAR
1f7d5=;CIRCLED_TRIANGLE;NEGATIVE_CIRCLED_TRIANGLE;CIRCLED_SQUARE;NEGATIVE_CIRCLED_SQUARE
1f7e0=LARGE_;ORANGE_CIRCLE;YELLOW_CIRCLE;GREEN_CIRCLE;PURPLE_CIRCLE;BROWN_CIRCLE;RED_SQUARE
BLUE_SQUARE;ORANGE_SQUARE;YELLOW_SQUARE;GREEN_SQUARE;PURPLE_SQUARE;BROWN_SQUARE
1f7f0=;HEAVY_EQUALS_SIGN;1f800=;LEFTWARDS_ARROW_WITH_SMALL_TRIANGLE_ARROWHEAD
UPWARDS_ARROW_WITH_SMALL_TRIANGLE_ARROWHEAD;1f802=;RIGHTWARDS_ARROW_WITH_SMALL_TRIANGLE_ARROWHEAD
DOWNWARDS_ARROW_WITH_SMALL_TRIANGLE_ARROWHEAD;LEFTWARDS_ARROW_WITH_MEDIUM_TRIANGLE_ARROWHEAD
UPWARDS_ARROW_WITH_MEDIUM_TRIANGLE_ARROWHEAD;RIGHTWARDS_ARROW_WITH_MEDIUM_TRIANGLE_ARROWHEAD
1f807=;DOWNWARDS_ARROW_WITH_MEDIUM_TRIANGLE_ARROWHEAD;LEFTWARDS_ARROW_WITH_LARGE_TRIANGLE_ARROWHEAD
UPWARDS_ARROW_WITH_LARGE_TRIANGLE_ARROWHEAD;RIGHTWARDS_ARROW_WITH_LARGE_TRIANGLE_ARROWHEAD
DOWNWARDS_ARROW_WITH_LARGE_TRIANGLE_ARROWHEAD;1f810=
LEFTWARDS_ARROW_WITH_SMALL_EQUILATERAL_ARROWHEAD;UPWARDS_ARROW_WITH_SMALL_EQUILATERAL_ARROWHEAD
RIGHTWARDS_ARROW_WITH_SMALL_EQUILATERAL_ARROWHEAD;1f813=
DOWNWARDS_ARROW_WITH_SMALL_EQUILATERAL_ARROWHEAD;LEFTWARDS_ARROW_WITH_EQUILATERAL_ARROWHEAD
UPWARDS_ARROW_WITH_EQUILATERAL_ARROWHEAD;RIGHTWARDS_ARROW_WITH_EQUILATERAL_ARROWHEAD
DOWNWARDS_ARROW_WITH_EQUILATERAL_ARROWHEAD;1f818=HEAVY_;LEFTWARDS_ARROW_WITH_EQUILATERAL_ARROWHEAD
UPWARDS_ARROW_WITH_EQUILATERAL_ARROWHEAD;RIGHTWARDS_ARROW_WITH_EQUILATERAL_ARROWHEAD
DOWNWARDS_ARROW_WITH_EQUILATERAL_ARROWHEAD;LEFTWARDS_ARROW_WITH_LARGE_EQUILATERAL_ARROWHEAD
UPWARDS_ARROW_WITH_LARGE_EQUILATERAL_ARROWHEAD;RIGHTWARDS_ARROW_WITH_LARGE_EQUILATERAL_ARROWHEAD
DOWNWARDS_ARROW_WITH_LARGE_EQUILATERAL_ARROWHEAD;1f820=
LEFTWARDS_TRIANGLE-HEADED_ARROW_WITH_NARROW_SHAFT;UPWARDS_TRIANGLE-HEADED_ARROW_WITH_NARROW_SHAFT
RIGHTWARDS_TRIANGLE-HEADED_ARROW_WITH_NARROW_SHAFT;DOWNWARDS_TRIANGLE-HEADED_ARROW_WITH_NARROW_SHAFT
LEFTWARDS_TRIANGLE-HEADED_ARROW_WITH_MEDIUM_SHAFT;1f825=
UPWARDS_TRIANGLE-HEADED_ARROW_WITH_MEDIUM_SHAFT;RIGHTWARDS_TRIANGLE-HEADED_ARROW_WITH_MEDIUM_SHAFT
DOWNWARDS_TRIANGLE-HEADED_ARROW_WITH_MEDIUM_SHAFT;LEFTWARDS_TRIANGLE-HEADED_ARROW_WITH_BOLD_SHAFT
UPWARDS_TRIANGLE-HEADED_ARROW_WITH_BOLD_SHAFT;1f82a=
RIGHTWARDS_TRIANGLE-HEADED_ARROW_WITH_BOLD_SHAFT;DOWNWARDS_TRIANGLE-HEADED_ARROW_WITH_BOLD_SHAFT
LEFTWARDS_TRIANGLE-HEADED_ARROW_WITH_HEAVY_SHAFT;UPWARDS_TRIANGLE-HEADED_ARROW_WITH_HEAVY_SHAFT
RIGHTWARDS_TRIANGLE-HEADED_ARROW_WITH_HEAVY_SHAFT;1f82f=
DOWNWARDS_TRIANGLE-HEADED_ARROW_WITH_HEAVY_SHAFT
LEFTWARDS_TRIANGLE-HEADED_ARROW_WITH_VERY_HEAVY_SHAFT
UPWARDS_TRIANGLE-HEADED_ARROW_WITH_VERY_HEAVY_SHAFT
RIGHTWARDS_TRIANGLE-HEADED_ARROW_WITH_VERY_HEAVY_SHAFT
DOWNWARDS_TRIANGLE-HEADED_ARROW_WITH_VERY_HEAVY_SHAFT;1f834=;LEFTWARDS_FINGER-POST_ARROW
UPWARDS_FINGER-POST_ARROW;RIGHTWARDS_FINGER-POST_ARROW;DOWNWARDS_FINGER-POST_ARROW
LEFTWARDS_SQUARED_ARROW;1f839=;UPWARDS_SQUARED_ARROW;RIGHTWARDS_SQUARED_ARROW
DOWNWARDS_SQUARED_ARROW;LEFTWARDS_COMPRESSED_ARROW;UPWARDS_COMPRESSED_ARROW
1f83e=;RIGHTWARDS_COMPRESSED_ARROW;DOWNWARDS_COMPRESSED_ARROW;LEFTWARDS_HEAVY_COMPRESSED_ARROW
UPWARDS_HEAVY_COMPRESSED_ARROW;RIGHTWARDS_HEAVY_COMPRESSED_ARROW
1f843=;DOWNWARDS_HEAVY_COMPRESSED_ARROW;LEFTWARDS_HEAVY_ARROW;UPWARDS_HEAVY_ARROW
RIGHTWARDS_HEAVY_ARROW;DOWNWARDS_HEAVY_ARROW;1f850=;LEFTWARDS_SANS-SERIF_ARROW
UPWARDS_SANS-SERIF_ARROW;RIGHTWARDS_SANS-SERIF_ARROW;DOWNWARDS_SANS-SERIF_ARROW
NORTH_WEST_SANS-SERIF_ARROW;1f855=;NORTH_EAST_SANS-SERIF_ARROW;SOUTH_EAST_SANS-SERIF_ARROW
SOUTH_WEST_SANS-SERIF_ARROW;LEFT_RIGHT_SANS-SERIF_ARROW;UP_DOWN_SANS-SERIF_ARROW
1f860=WIDE-HEADED_;LEFTWARDS_LIGHT_BARB_ARROW;UPWARDS_LIGHT_BARB_ARROW;RIGHTWARDS_LIGHT_BARB_ARROW
DOWNWARDS_LIGHT_BARB_ARROW;NORTH_WEST_LIGHT_BARB_ARROW;NORTH_EAST_LIGHT_BARB_ARROW
SOUTH_EAST_LIGHT_BARB_ARROW;SOUTH_WEST_LIGHT_BARB_ARROW;LEFTWARDS_BARB_ARROW;UPWARDS_BARB_ARROW
RIGHTWARDS_BARB_ARROW;DOWNWARDS_BARB_ARROW;NORTH_WEST_BARB_ARROW;NORTH_EAST_BARB_ARROW
SOUTH_EAST_BARB_ARROW;SOUTH_WEST_BARB_ARROW;LEFTWARDS_MEDIUM_BARB_ARROW;UPWARDS_MEDIUM_BARB_ARROW
RIGHTWARDS_MEDIUM_BARB_ARROW;DOWNWARDS_MEDIUM_BARB_ARROW;NORTH_WEST_MEDIUM_BARB_ARROW
NORTH_EAST_MEDIUM_BARB_ARROW;SOUTH_EAST_MEDIUM_BARB_ARROW;SOUTH_WEST_MEDIUM_BARB_ARROW
LEFTWARDS_HEAVY_BARB_ARROW;UPWARDS_HEAVY_BARB_ARROW;RIGHTWARDS_HEAVY_BARB_ARROW
DOWNWARDS_HEAVY_BARB_ARROW;NORTH_WEST_HEAVY_BARB_ARROW;NORTH_EAST_HEAVY_BARB_ARROW
SOUTH_EAST_HEAVY_BARB_ARROW;SOUTH_WEST_HEAVY_BARB_ARROW;LEFTWARDS_VERY_HEAVY_BARB_ARROW
UPWARDS_VERY_HEAVY_BARB_ARROW;RIGHTWARDS_VERY_HEAVY_BARB_ARROW;DOWNWARDS_VERY_HEAVY_BARB_ARROW
NORTH_WEST_VERY_HEAVY_BARB_ARROW;NORTH_EAST_VERY_HEAVY_BARB_ARROW;SOUTH_EAST_VERY_HEAVY_BARB_ARROW
SOUTH_WEST_VERY_HEAVY_BARB_ARROW;1f890=;LEFTWARDS_TRIANGLE_ARROWHEAD;UPWARDS_TRIANGLE_ARROWHEAD
1f892=;RIGHTWARDS_TRIANGLE_ARROWHEAD;DOWNWARDS_TRIANGLE_ARROWHEAD
LEFTWARDS_WHITE_ARROW_WITHIN_TRIANGLE_ARROWHEAD;UPWARDS_WHITE_ARROW_WITHIN_TRIANGLE_ARROWHEAD
RIGHTWARDS_WHITE_ARROW_WITHIN_TRIANGLE_ARROWHEAD;1f897=
DOWNWARDS_WHITE_ARROW_WITHIN_TRIANGLE_ARROWHEAD;LEFTWARDS_ARROW_WITH_NOTCHED_TAIL
UPWARDS_ARROW_WITH_NOTCHED_TAIL;RIGHTWARDS_ARROW_WITH_NOTCHED_TAIL;DOWNWARDS_ARROW_WITH_NOTCHED_TAIL
1f89c=HEAVY_ARROW_SHAFT_WIDTH_;ONE;TWO_THIRDS;ONE_HALF;ONE_THIRD
1f8a0=;LEFTWARDS_BOTTOM-SHADED_WHITE_ARROW;RIGHTWARDS_BOTTOM_SHADED_WHITE_ARROW
1f8a2=;LEFTWARDS_TOP_SHADED_WHITE_ARROW;RIGHTWARDS_TOP_SHADED_WHITE_ARROW
LEFTWARDS_LEFT-SHADED_WHITE_ARROW;RIGHTWARDS_RIGHT-SHADED_WHITE_ARROW
LEFTWARDS_RIGHT-SHADED_WHITE_ARROW;1f8a7=;RIGHTWARDS_LEFT-SHADED_WHITE_ARROW
LEFTWARDS_BACK-TILTED_SHADOWED_WHITE_ARROW;RIGHTWARDS_BACK-TILTED_SHADOWED_WHITE_ARROW
LEFTWARDS_FRONT-TILTED_SHADOWED_WHITE_ARROW;RIGHTWARDS_FRONT-TILTED_SHADOWED_WHITE_ARROW
1f8ac=WHITE_ARROW_SHAFT_WIDTH_;ONE;TWO_THIRDS
1f8b0=ARROW_POINTING_;UPWARDS_THEN_NORTH_WEST;RIGHTWARDS_THEN_CURVING_SOUTH_WEST
1f900=CIRCLED_CROSS_;FORMEE_WITH_FOUR_DOTS;FORMEE_WITH_TWO_DOTS;FORMEE
1f903=LEFT_HALF_CIRCLE_WITH_;FOUR_DOTS;THREE_DOTS;TWO_DOTS;DOT
1f907=;LEFT_HALF_CIRCLE;1f908=DOWNWARD_FACING_;HOOK;NOTCHED_HOOK;HOOK_WITH_DOT;NOTCHED_HOOK_WITH_DOT
1f90c=;PINCHED_FINGERS;WHITE_HEART;BROWN_HEART;PINCHING_HAND
1f910=;ZIPPER-MOUTH_FACE;MONEY-MOUTH_FACE;FACE_WITH_THERMOMETER;NERD_FACE;THINKING_FACE
1f915=;FACE_WITH_HEAD-BANDAGE;ROBOT_FACE;HUGGING_FACE;SIGN_OF_THE_HORNS;CALL_ME_HAND
1f91a=;RAISED_BACK_OF_HAND;LEFT-FACING_FIST;RIGHT-FACING_FIST;HANDSHAKE
HAND_WITH_INDEX_AND_MIDDLE_FINGERS_CROSSED;1f91f=;I_LOVE_YOU_HAND_SIGN;FACE_WITH_COWBOY_HAT
CLOWN_FACE;NAUSEATED_FACE;ROLLING_ON_THE_FLOOR_LAUGHING
1f924=;DROOLING_FACE;LYING_FACE;FACE_PALM;SNEEZING_FACE;FACE_WITH_ONE_EYEBROW_RAISED
1f929=GRINNING_FACE_WITH_;STAR_EYES;ONE_LARGE_AND_ONE_SMALL_EYE
1f92b=;FACE_WITH_FINGER_COVERING_CLOSED_LIPS;SERIOUS_FACE_WITH_SYMBOLS_COVERING_MOUTH
1f92d=;SMILING_FACE_WITH_SMILING_EYES_AND_HAND_COVERING_MOUTH;FACE_WITH_OPEN_MOUTH_VOMITING
SHOCKED_FACE_WITH_EXPLODING_HEAD;PREGNANT_WOMAN;BREAST-FEEDING
1f932=;PALMS_UP_TOGETHER;SELFIE;PRINCE;MAN_IN_TUXEDO;MOTHER_CHRISTMAS
1f937=;SHRUG;PERSON_DOING_CARTWHEEL;JUGGLING;FENCER;MODERN_PENTATHLON
1f93c=;WRESTLERS;WATER_POLO;HANDBALL;DIVING_MASK;WILTED_FLOWER
1f941=;DRUM_WITH_DRUMSTICKS;CLINKING_GLASSES;TUMBLER_GLASS;SPOON;GOAL_NET
1f946=;RIFLE;FIRST_PLACE_MEDAL;SECOND_PLACE_MEDAL;THIRD_PLACE_MEDAL;BOXING_GLOVE
1f94b=;MARTIAL_ARTS_UNIFORM;CURLING_STONE;LACROSSE_STICK_AND_BALL;SOFTBALL;FLYING_DISC
1f950=;CROISSANT;AVOCADO;CUCUMBER;BACON;POTATO;1f955=;CARROT;BAGUETTE_BREAD;GREEN_SALAD
SHALLOW_PAN_OF_FOOD;STUFFED_FLATBREAD;1f95a=;EGG;GLASS_OF_MILK;PEANUTS;KIWIFRUIT;PANCAKES
1f95f=;DUMPLING;FORTUNE_COOKIE;TAKEOUT_BOX;CHOPSTICKS;BOWL_WITH_SPOON
1f964=;CUP_WITH_STRAW;COCONUT;BROCCOLI;PIE;PRETZEL;1f969=;CUT_OF_MEAT;SANDWICH;CANNED_FOOD
LEAFY_GREEN;MANGO;1f96e=;MOON_CAKE;BAGEL;SMILING_FACE_WITH_SMILING_EYES_AND_THREE_HEARTS
YAWNING_FACE;SMILING_FACE_WITH_TEAR;1f973=FACE_WITH_;PARTY_HORN_AND_PARTY_HAT
UNEVEN_EYES_AND_WAVY_MOUTH;1f975=;OVERHEATED_FACE;FREEZING_FACE;NINJA;DISGUISED_FACE
1f979=;FACE_HOLDING_BACK_TEARS;FACE_WITH_PLEADING_EYES;SARI;LAB_COAT;GOGGLES
1f97e=;HIKING_BOOT;FLAT_SHOE;CRAB;LION_FACE;SCORPION;1f983=;TURKEY;UNICORN_FACE;EAGLE;DUCK;BAT
1f988=;SHARK;OWL;FOX_FACE;BUTTERFLY;DEER;1f98d=;GORILLA;LIZARD;RHINOCEROS;SHRIMP;SQUID
1f992=;GIRAFFE_FACE;ZEBRA_FACE;HEDGEHOG;SAUROPOD;T-REX
1f997=;CRICKET;KANGAROO;LLAMA;PEACOCK;HIPPOPOTAMUS;1f99c=;PARROT;RACCOON;LOBSTER;MOSQUITO;MICROBE
1f9a1=;BADGER;SWAN;MAMMOTH;DODO;SLOTH;1f9a6=;OTTER;ORANGUTAN;SKUNK;FLAMINGO;OYSTER
1f9ab=;BEAVER;BISON;SEAL;GUIDE_DOG;PROBING_CANE
1f9b0=EMOJI_COMPONENT_;RED_HAIR;CURLY_HAIR;BALD;WHITE_HAIR
1f9b4=;BONE;LEG;FOOT;TOOTH;SUPERHERO;1f9b9=;SUPERVILLAIN;SAFETY_VEST;EAR_WITH_HEARING_AID
MOTORIZED_WHEELCHAIR;MANUAL_WHEELCHAIR;1f9be=MECHANICAL_;ARM;LEG
1f9c0=;CHEESE_WEDGE;1f9c1=;CUPCAKE;SALT_SHAKER;BEVERAGE_BOX;GARLIC;ONION
1f9c6=;FALAFEL;WAFFLE;BUTTER;MATE_DRINK;ICE_CUBE;1f9cb=;BUBBLE_TEA;TROLL;STANDING_PERSON
KNEELING_PERSON;DEAF_PERSON;1f9d0=;FACE_WITH_MONOCLE;ADULT;CHILD;OLDER_ADULT;BEARDED_PERSON
1f9d5=PERSON_;WITH_HEADSCARF;IN_STEAMY_ROOM;CLIMBING;IN_LOTUS_POSITION
1f9d9=;MAGE;FAIRY;VAMPIRE;MERPERSON;1f9dd=;ELF;GENIE;ZOMBIE;BRAIN;ORANGE_HEART
1f9e2=;BILLED_CAP;SCARF;GLOVES;COAT;SOCKS;1f9e7=;RED_GIFT_ENVELOPE;FIRECRACKER;JIGSAW_PUZZLE_PIECE
TEST_TUBE;PETRI_DISH;1f9ec=;DNA_DOUBLE_HELIX;COMPASS;ABACUS;FIRE_EXTINGUISHER;TOOLBOX
1f9f1=;BRICK;MAGNET;LUGGAGE;LOTION_BOTTLE;SPOOL_OF_THREAD
1f9f6=;BALL_OF_YARN;SAFETY_PIN;TEDDY_BEAR;BROOM;BASKET
1f9fb=;ROLL_OF_PAPER;BAR_OF_SOAP;SPONGE;RECEIPT;NAZAR_AMULET
1fa00=NEUTRAL_CHESS_;KING;QUEEN;ROOK;BISHOP;KNIGHT;PAWN
1fa06=;WHITE_CHESS_KNIGHT_ROTATED_FORTY-FIVE_DEGREES;BLACK_CHESS_KNIGHT_ROTATED_FORTY-FIVE_DEGREES
NEUTRAL_CHESS_KNIGHT_ROTATED_FORTY-FIVE_DEGREES
1fa09=WHITE_CHESS_;KING_ROTATED_NINETY_DEGREES;QUEEN_ROTATED_NINETY_DEGREES
ROOK_ROTATED_NINETY_DEGREES;BISHOP_ROTATED_NINETY_DEGREES;KNIGHT_ROTATED_NINETY_DEGREES
PAWN_ROTATED_NINETY_DEGREES;1fa0f=BLACK_CHESS_;KING_ROTATED_NINETY_DEGREES
QUEEN_ROTATED_NINETY_DEGREES;ROOK_ROTATED_NINETY_DEGREES;BISHOP_ROTATED_NINETY_DEGREES
KNIGHT_ROTATED_NINETY_DEGREES;PAWN_ROTATED_NINETY_DEGREES
1fa15=NEUTRAL_CHESS_;KING_ROTATED_NINETY_DEGREES;QUEEN_ROTATED_NINETY_DEGREES
ROOK_ROTATED_NINETY_DEGREES;BISHOP_ROTATED_NINETY_DEGREES;KNIGHT_ROTATED_NINETY_DEGREES
PAWN_ROTATED_NINETY_DEGREES;1fa1b=;WHITE_CHESS_KNIGHT_ROTATED_ONE_HUNDRED_THIRTY-FIVE_DEGREES
BLACK_CHESS_KNIGHT_ROTATED_ONE_HUNDRED_THIRTY-FIVE_DEGREES
NEUTRAL_CHESS_KNIGHT_ROTATED_ONE_HUNDRED_THIRTY-FIVE_DEGREES
1fa1e=WHITE_CHESS_TURNED_;KING;QUEEN;ROOK;BISHOP;KNIGHT;PAWN
1fa24=BLACK_CHESS_TURNED_;KING;QUEEN;ROOK;BISHOP;KNIGHT;PAWN
1fa2a=NEUTRAL_CHESS_TURNED_;KING;QUEEN;ROOK;BISHOP;KNIGHT;PAWN
1fa30=;WHITE_CHESS_KNIGHT_ROTATED_TWO_HUNDRED_TWENTY-FIVE_DEGREES
BLACK_CHESS_KNIGHT_ROTATED_TWO_HUNDRED_TWENTY-FIVE_DEGREES
NEUTRAL_CHESS_KNIGHT_ROTATED_TWO_HUNDRED_TWENTY-FIVE_DEGREES
1fa33=WHITE_CHESS_;KING_ROTATED_TWO_HUNDRED_SEVENTY_DEGREES
QUEEN_ROTATED_TWO_HUNDRED_SEVENTY_DEGREES;ROOK_ROTATED_TWO_HUNDRED_SEVENTY_DEGREES
BISHOP_ROTATED_TWO_HUNDRED_SEVENTY_DEGREES;KNIGHT_ROTATED_TWO_HUNDRED_SEVENTY_DEGREES
PAWN_ROTATED_TWO_HUNDRED_SEVENTY_DEGREES;1fa39=BLACK_CHESS_;KING_ROTATED_TWO_HUNDRED_SEVENTY_DEGREES
QUEEN_ROTATED_TWO_HUNDRED_SEVENTY_DEGREES;ROOK_ROTATED_TWO_HUNDRED_SEVENTY_DEGREES
BISHOP_ROTATED_TWO_HUNDRED_SEVENTY_DEGREES;KNIGHT_ROTATED_TWO_HUNDRED_SEVENTY_DEGREES
PAWN_ROTATED_TWO_HUNDRED_SEVENTY_DEGREES
1fa3f=NEUTRAL_CHESS_;KING_ROTATED_TWO_HUNDRED_SEVENTY_DEGREES
QUEEN_ROTATED_TWO_HUNDRED_SEVENTY_DEGREES;ROOK_ROTATED_TWO_HUNDRED_SEVENTY_DEGREES
BISHOP_ROTATED_TWO_HUNDRED_SEVENTY_DEGREES;KNIGHT_ROTATED_TWO_HUNDRED_SEVENTY_DEGREES
PAWN_ROTATED_TWO_HUNDRED_SEVENTY_DEGREES;1fa45=
WHITE_CHESS_KNIGHT_ROTATED_THREE_HUNDRED_FIFTEEN_DEGREES
BLACK_CHESS_KNIGHT_ROTATED_THREE_HUNDRED_FIFTEEN_DEGREES
NEUTRAL_CHESS_KNIGHT_ROTATED_THREE_HUNDRED_FIFTEEN_DEGREES;WHITE_CHESS_EQUIHOPPER
1fa49=;BLACK_CHESS_EQUIHOPPER;NEUTRAL_CHESS_EQUIHOPPER;WHITE_CHESS_EQUIHOPPER_ROTATED_NINETY_DEGREES
BLACK_CHESS_EQUIHOPPER_ROTATED_NINETY_DEGREES;NEUTRAL_CHESS_EQUIHOPPER_ROTATED_NINETY_DEGREES
1fa4e=WHITE_CHESS_KNIGHT-;QUEEN;ROOK;BISHOP
1fa51=BLACK_CHESS_KNIGHT-;QUEEN;ROOK;BISHOP
1fa60=XIANGQI_RED_;GENERAL;MANDARIN;ELEPHANT;HORSE;CHARIOT;CANNON;SOLDIER
1fa67=XIANGQI_BLACK_;GENERAL;MANDARIN;ELEPHANT;HORSE;CHARIOT;CANNON;SOLDIER
1fa70=;BALLET_SHOES;ONE-PIECE_SWIMSUIT;BRIEFS;SHORTS;THONG_SANDAL
1fa78=;DROP_OF_BLOOD;ADHESIVE_BANDAGE;STETHOSCOPE;X-RAY;CRUTCH
1fa80=;YO-YO;KITE;1fa82=;PARACHUTE;BOOMERANG;MAGIC_WAND;PINATA;NESTING_DOLLS
1fa90=;RINGED_PLANET;CHAIR;RAZOR;AXE;1fa94=;DIYA_LAMP;BANJO;MILITARY_HELMET;ACCORDION;LONG_DRUM
1fa99=;COIN;CARPENTRY_SAW;SCREWDRIVER;LADDER;HOOK;1fa9e=;MIRROR;WINDOW;PLUNGER;SEWING_NEEDLE;KNOT
1faa3=;BUCKET;MOUSE_TRAP;TOOTHBRUSH;HEADSTONE;PLACARD;1faa8=;ROCK;MIRROR_BALL;IDENTIFICATION_CARD
LOW_BATTERY;HAMSA;1fab0=;FLY;1fab1=;WORM;BEETLE;COCKROACH;POTTED_PLANT;WOOD
1fab6=;FEATHER;LOTUS;CORAL;EMPTY_NEST;NEST_WITH_EGGS;1fac0=;ANATOMICAL_HEART;LUNGS;PEOPLE_HUGGING
1fac3=PREGNANT_;MAN;PERSON;1fac5=;PERSON_WITH_CROWN;1fad0=;BLUEBERRIES;BELL_PEPPER;OLIVE;FLATBREAD
TAMALE;1fad5=;FONDUE;TEAPOT;POURING_LIQUID;BEANS;JAR;1fae0=;MELTING_FACE;SALUTING_FACE
1fae2=FACE_WITH_;OPEN_EYES_AND_HAND_OVER_MOUTH;PEEKING_EYE;DIAGONAL_MOUTH
1fae5=;DOTTED_LINE_FACE;BITING_LIP;BUBBLES;1faf0=;HAND_WITH_INDEX_FINGER_AND_THUMB_CROSSED
RIGHTWARDS_HAND;1faf2=;LEFTWARDS_HAND;PALM_DOWN_HAND;PALM_UP_HAND;INDEX_POINTING_AT_THE_VIEWER
HEART_HANDS;1fb00=BLOCK_SEXTANT-;1;2;12;3;13;23;123;4;14;24;124;34;134;234;1234;5;15;25;125;35;235
1235;45;145;245;1245;345;1345;2345;12345;6;16;26;126;36;136;236;1236;46;146;1246;346;1346;2346;12346
56;156;256;1256;356;1356;2356;12356;456;1456;2456;12456;3456;13456;23456
1fb3c=LOWER_LEFT_BLOCK_DIAGONAL_LOWER_MIDDLE_LEFT_TO_LOWER_;CENTRE;RIGHT
1fb3e=LOWER_LEFT_BLOCK_DIAGONAL_UPPER_;MIDDLE_LEFT_TO_LOWER_CENTRE;MIDDLE_LEFT_TO_LOWER_RIGHT
LEFT_TO_LOWER_CENTRE
1fb41=LOWER_RIGHT_BLOCK_DIAGONAL_UPPER_MIDDLE_LEFT_TO_UPPER_;CENTRE;RIGHT
1fb43=LOWER_RIGHT_BLOCK_DIAGONAL_LOWER_;MIDDLE_LEFT_TO_UPPER_CENTRE;MIDDLE_LEFT_TO_UPPER_RIGHT
LEFT_TO_UPPER_CENTRE;MIDDLE_LEFT_TO_UPPER_MIDDLE_RIGHT;CENTRE_TO_LOWER_MIDDLE_RIGHT
LEFT_TO_LOWER_MIDDLE_RIGHT;CENTRE_TO_UPPER_MIDDLE_RIGHT;LEFT_TO_UPPER_MIDDLE_RIGHT
CENTRE_TO_UPPER_RIGHT;1fb4c=LOWER_LEFT_BLOCK_DIAGONAL_UPPER_;CENTRE_TO_UPPER_MIDDLE_RIGHT
LEFT_TO_UPPER_MIDDLE_RIGHT;CENTRE_TO_LOWER_MIDDLE_RIGHT;LEFT_TO_LOWER_MIDDLE_RIGHT
CENTRE_TO_LOWER_RIGHT;MIDDLE_LEFT_TO_LOWER_MIDDLE_RIGHT
1fb52=UPPER_RIGHT_BLOCK_DIAGONAL_LOWER_MIDDLE_LEFT_TO_LOWER_;CENTRE;RIGHT
1fb54=UPPER_RIGHT_BLOCK_DIAGONAL_UPPER_;MIDDLE_LEFT_TO_LOWER_CENTRE;MIDDLE_LEFT_TO_LOWER_RIGHT
LEFT_TO_LOWER_CENTRE
1fb57=UPPER_LEFT_BLOCK_DIAGONAL_UPPER_MIDDLE_LEFT_TO_UPPER_;CENTRE;RIGHT
1fb59=UPPER_LEFT_BLOCK_DIAGONAL_LOWER_;MIDDLE_LEFT_TO_UPPER_CENTRE;MIDDLE_LEFT_TO_UPPER_RIGHT
LEFT_TO_UPPER_CENTRE;MIDDLE_LEFT_TO_UPPER_MIDDLE_RIGHT;CENTRE_TO_LOWER_MIDDLE_RIGHT
LEFT_TO_LOWER_MIDDLE_RIGHT;CENTRE_TO_UPPER_MIDDLE_RIGHT;LEFT_TO_UPPER_MIDDLE_RIGHT
CENTRE_TO_UPPER_RIGHT
1fb62=UPPER_RIGHT_BLOCK_DIAGONAL_UPPER_;CENTRE_TO_UPPER_MIDDLE_RIGHT;LEFT_TO_UPPER_MIDDLE_RIGHT
CENTRE_TO_LOWER_MIDDLE_RIGHT;LEFT_TO_LOWER_MIDDLE_RIGHT;CENTRE_TO_LOWER_RIGHT
MIDDLE_LEFT_TO_LOWER_MIDDLE_RIGHT;1fb68=;UPPER_AND_RIGHT_AND_LOWER_TRIANGULAR_THREE_QUARTERS_BLOCK
LEFT_AND_LOWER_AND_RIGHT_TRIANGULAR_THREE_QUARTERS_BLOCK
UPPER_AND_LEFT_AND_LOWER_TRIANGULAR_THREE_QUARTERS_BLOCK
1fb6b=;LEFT_AND_UPPER_AND_RIGHT_TRIANGULAR_THREE_QUARTERS_BLOCK;LEFT_TRIANGULAR_ONE_QUARTER_BLOCK
UPPER_TRIANGULAR_ONE_QUARTER_BLOCK;RIGHT_TRIANGULAR_ONE_QUARTER_BLOCK
LOWER_TRIANGULAR_ONE_QUARTER_BLOCK
1fb70=VERTICAL_ONE_EIGHTH_BLOCK-;2;3;4;5;6;7
1fb76=HORIZONTAL_ONE_EIGHTH_BLOCK-;2;3;4;5;6;7
1fb7c=LEFT_AND_;LOWER_ONE_EIGHTH_BLOCK;UPPER_ONE_EIGHTH_BLOCK
1fb7e=RIGHT_AND_;UPPER_ONE_EIGHTH_BLOCK;LOWER_ONE_EIGHTH_BLOCK
1fb80=;UPPER_AND_LOWER_ONE_EIGHTH_BLOCK;HORIZONTAL_ONE_EIGHTH_BLOCK-1358
1fb82=UPPER_;ONE_QUARTER_BLOCK;THREE_EIGHTHS_BLOCK;FIVE_EIGHTHS_BLOCK;THREE_QUARTERS_BLOCK
SEVEN_EIGHTHS_BLOCK;1fb87=RIGHT_;ONE_QUARTER_BLOCK;THREE_EIGHTHS_BLOCK;FIVE_EIGHTHS_BLOCK
THREE_QUARTERS_BLOCK;SEVEN_EIGHTHS_BLOCK;1fb8c=;LEFT_HALF_MEDIUM_SHADE;RIGHT_HALF_MEDIUM_SHADE
UPPER_HALF_MEDIUM_SHADE;LOWER_HALF_MEDIUM_SHADE;INVERSE_MEDIUM_SHADE
1fb91=UPPER_HALF_;BLOCK_AND_LOWER_HALF_INVERSE_MEDIUM_SHADE
INVERSE_MEDIUM_SHADE_AND_LOWER_HALF_BLOCK;1fb94=;LEFT_HALF_INVERSE_MEDIUM_SHADE_AND_RIGHT_HALF_BLOCK
CHECKER_BOARD_FILL;INVERSE_CHECKER_BOARD_FILL;HEAVY_HORIZONTAL_FILL
1fb98=UPPER_;LEFT_TO_LOWER_RIGHT_FILL;RIGHT_TO_LOWER_LEFT_FILL;AND_LOWER_TRIANGULAR_HALF_BLOCK
1fb9b=;LEFT_AND_RIGHT_TRIANGULAR_HALF_BLOCK;UPPER_LEFT_TRIANGULAR_MEDIUM_SHADE
UPPER_RIGHT_TRIANGULAR_MEDIUM_SHADE;LOWER_RIGHT_TRIANGULAR_MEDIUM_SHADE
LOWER_LEFT_TRIANGULAR_MEDIUM_SHADE
1fba0=BOX_DRAWINGS_LIGHT_DIAGONAL_;UPPER_CENTRE_TO_MIDDLE_LEFT;UPPER_CENTRE_TO_MIDDLE_RIGHT
MIDDLE_LEFT_TO_LOWER_CENTRE;MIDDLE_RIGHT_TO_LOWER_CENTRE;UPPER_CENTRE_TO_MIDDLE_LEFT_TO_LOWER_CENTRE
UPPER_CENTRE_TO_MIDDLE_RIGHT_TO_LOWER_CENTRE;MIDDLE_LEFT_TO_LOWER_CENTRE_TO_MIDDLE_RIGHT
MIDDLE_LEFT_TO_UPPER_CENTRE_TO_MIDDLE_RIGHT
UPPER_CENTRE_TO_MIDDLE_LEFT_AND_MIDDLE_RIGHT_TO_LOWER_CENTRE
UPPER_CENTRE_TO_MIDDLE_RIGHT_AND_MIDDLE_LEFT_TO_LOWER_CENTRE
UPPER_CENTRE_TO_MIDDLE_RIGHT_TO_LOWER_CENTRE_TO_MIDDLE_LEFT
UPPER_CENTRE_TO_MIDDLE_LEFT_TO_LOWER_CENTRE_TO_MIDDLE_RIGHT
MIDDLE_LEFT_TO_UPPER_CENTRE_TO_MIDDLE_RIGHT_TO_LOWER_CENTRE
MIDDLE_RIGHT_TO_UPPER_CENTRE_TO_MIDDLE_LEFT_TO_LOWER_CENTRE;DIAMOND
1fbaf=;BOX_DRAWINGS_LIGHT_HORIZONTAL_WITH_VERTICAL_STROKE;ARROWHEAD-SHAPED_POINTER
INVERSE_CHECK_MARK;LEFT_HALF_RUNNING_MAN;1fbb3=;RIGHT_HALF_RUNNING_MAN
INVERSE_DOWNWARDS_ARROW_WITH_TIP_LEFTWARDS;LEFTWARDS_ARROW_AND_UPPER_AND_LOWER_ONE_EIGHTH_BLOCK
RIGHTWARDS_ARROW_AND_UPPER_AND_LOWER_ONE_EIGHTH_BLOCK;DOWNWARDS_ARROW_AND_RIGHT_ONE_EIGHTH_BLOCK
1fbb8=;UPWARDS_ARROW_AND_RIGHT_ONE_EIGHTH_BLOCK;LEFT_HALF_FOLDER;RIGHT_HALF_FOLDER
VOIDED_GREEK_CROSS;RIGHT_OPEN_SQUARED_DOT
1fbbd=NEGATIVE_DIAGONAL_;CROSS;MIDDLE_RIGHT_TO_LOWER_CENTRE;DIAMOND
1fbc0=;WHITE_HEAVY_SALTIRE_WITH_ROUNDED_CORNERS;1fbc1=;LEFT_THIRD_WHITE_RIGHT_POINTING_INDEX
MIDDLE_THIRD_WHITE_RIGHT_POINTING_INDEX;RIGHT_THIRD_WHITE_RIGHT_POINTING_INDEX
NEGATIVE_SQUARED_QUESTION_MARK;STICK_FIGURE
1fbc6=STICK_FIGURE_;WITH_ARMS_RAISED;LEANING_LEFT;LEANING_RIGHT;WITH_DRESS
1fbca=;WHITE_UP-POINTING_CHEVRON;1fbf0=SEGMENTED_DIGIT_;ZERO;ONE;TWO;THREE;FOUR;FIVE;SIX;SEVEN;EIGHT
NINE;e0001=;LANGUAGE_TAG;e0020=TAG_;SPACE;EXCLAMATION_MARK;QUOTATION_MARK;NUMBER_SIGN;DOLLAR_SIGN
PERCENT_SIGN;AMPERSAND;APOSTROPHE;LEFT_PARENTHESIS;RIGHT_PARENTHESIS;ASTERISK;PLUS_SIGN;COMMA
HYPHEN-MINUS;FULL_STOP;SOLIDUS;e0030=TAG_DIGIT_;ZERO;ONE;TWO;THREE;FOUR;FIVE;SIX;SEVEN;EIGHT;NINE
e003a=TAG_;COLON;SEMICOLON;LESS-THAN_SIGN;EQUALS_SIGN;GREATER-THAN_SIGN;QUESTION_MARK;COMMERCIAL_AT
e0041=TAG_LATIN_CAPITAL_LETTER_;A;B;C;D;E;F;G;H;I;J;K;L;M;N;O;P;Q;R;S;T;U;V;W;X;Y;Z
e005b=TAG_;LEFT_SQUARE_BRACKET;REVERSE_SOLIDUS;RIGHT_SQUARE_BRACKET;CIRCUMFLEX_ACCENT;LOW_LINE
GRAVE_ACCENT;e0061=TAG_LATIN_SMALL_LETTER_;A;B;C;D;E;F;G;H;I;J;K;L;M;N;O;P;Q;R;S;T;U;V;W;X;Y;Z
e007b=TAG_;LEFT_CURLY_BRACKET;VERTICAL_LINE;RIGHT_CURLY_BRACKET;TILDE
e007f=;CANCEL_TAG;e0100=VARIATION_SELECTOR-;17;18;19;20;21;22;23;24;25;26;27;28;29;30;31;32;33;34;35
36;37;38;39;40;41;42;43;44;45;46;47;48;49;50;51;52;53;54;55;56;57;58;59;60;61;62;63;64;65;66;67;68
69;70;71;72;73;74;75;76;77;78;79;80;81;82;83;84;85;86;87;88;89;90;91;92;93;94;95;96;97;98;99;100;101
102;103;104;105;106;107;108;109;110;111;112;113;114;115;116;117;118;119;120;121;122;123;124;125;126
127;128;129;130;131;132;133;134;135;136;137;138;139;140;141;142;143;144;145;146;147;148;149;150;151
152;153;154;155;156;157;158;159;160;161;162;163;164;165;166;167;168;169;170;171;172;173;174;175;176
177;178;179;180;181;182;183;184;185;186;187;188;189;190;191;192;193;194;195;196;197;198;199;200;201
202;203;204;205;206;207;208;209;210;211;212;213;214;215;216;217;218;219;220;221;222;223;224;225;226
227;228;229;230;231;232;233;234;235;236;237;238;239;240;241;242;243;244;245;246;247;248;249;250;251
252;253;254;255;256"

end ShaderShrink.Text.NameTable
