/-!
# Names of letters

The letters and marks of the scripts that have the lowest code points.

A row begins with a code point in base sixteen and with what some names begin with; the ends of these
names follow, for one code point after the other.  A low line stands for a blank.
-/

namespace ShaderShrink.Text.NameTable

/-- The names of the characters below the general punctuation. -/
def letters : String :=
  "20=;SPACE;21=;EXCLAMATION_MARK;QUOTATION_MARK;NUMBER_SIGN;DOLLAR_SIGN;PERCENT_SIGN
26=;AMPERSAND;APOSTROPHE;LEFT_PARENTHESIS;RIGHT_PARENTHESIS;ASTERISK
2b=;PLUS_SIGN;COMMA;HYPHEN-MINUS;FULL_STOP;SOLIDUS;30=DIGIT_;ZERO;ONE;TWO;THREE;FOUR;FIVE;SIX;SEVEN
EIGHT;NINE;3a=;COLON;SEMICOLON;3c=;LESS-THAN_SIGN;EQUALS_SIGN;GREATER-THAN_SIGN;QUESTION_MARK
COMMERCIAL_AT;41=LATIN_CAPITAL_LETTER_;A;B;C;D;E;F;G;H;I;J;K;L;M;N;O;P;Q;R;S;T;U;V;W;X;Y;Z
5b=;LEFT_SQUARE_BRACKET;5c=;REVERSE_SOLIDUS;RIGHT_SQUARE_BRACKET;CIRCUMFLEX_ACCENT;LOW_LINE
GRAVE_ACCENT;61=LATIN_SMALL_LETTER_;A;B;C;D;E;F;G;H;I;J;K;L;M;N;O;P;Q;R;S;T;U;V;W;X;Y;Z
7b=;LEFT_CURLY_BRACKET;VERTICAL_LINE;RIGHT_CURLY_BRACKET;TILDE
a0=;NO-BREAK_SPACE;INVERTED_EXCLAMATION_MARK;CENT_SIGN;a3=;POUND_SIGN;CURRENCY_SIGN;YEN_SIGN
BROKEN_BAR;SECTION_SIGN;a8=;DIAERESIS;COPYRIGHT_SIGN;FEMININE_ORDINAL_INDICATOR
LEFT-POINTING_DOUBLE_ANGLE_QUOTATION_MARK;NOT_SIGN;ad=;SOFT_HYPHEN;REGISTERED_SIGN;MACRON
DEGREE_SIGN;PLUS-MINUS_SIGN;b2=SUPERSCRIPT_;TWO;THREE;b4=;ACUTE_ACCENT;MICRO_SIGN;PILCROW_SIGN
b7=;MIDDLE_DOT;CEDILLA;SUPERSCRIPT_ONE;MASCULINE_ORDINAL_INDICATOR
RIGHT-POINTING_DOUBLE_ANGLE_QUOTATION_MARK
bc=VULGAR_FRACTION_;ONE_QUARTER;ONE_HALF;THREE_QUARTERS;bf=;INVERTED_QUESTION_MARK
c0=LATIN_CAPITAL_LETTER_A_WITH_;GRAVE;ACUTE;CIRCUMFLEX;TILDE;DIAERESIS;RING_ABOVE
c6=LATIN_CAPITAL_LETTER_;AE;C_WITH_CEDILLA;E_WITH_GRAVE;E_WITH_ACUTE;E_WITH_CIRCUMFLEX
E_WITH_DIAERESIS;I_WITH_GRAVE;I_WITH_ACUTE;I_WITH_CIRCUMFLEX;I_WITH_DIAERESIS;ETH;N_WITH_TILDE
d2=LATIN_CAPITAL_LETTER_O_WITH_;GRAVE;ACUTE;CIRCUMFLEX;TILDE;DIAERESIS
d7=;MULTIPLICATION_SIGN;d8=LATIN_CAPITAL_LETTER_;O_WITH_STROKE;U_WITH_GRAVE;U_WITH_ACUTE
U_WITH_CIRCUMFLEX;U_WITH_DIAERESIS;Y_WITH_ACUTE;THORN
df=LATIN_SMALL_LETTER_;SHARP_S;A_WITH_GRAVE;A_WITH_ACUTE;A_WITH_CIRCUMFLEX;A_WITH_TILDE
A_WITH_DIAERESIS;A_WITH_RING_ABOVE;AE;C_WITH_CEDILLA;E_WITH_GRAVE;E_WITH_ACUTE;E_WITH_CIRCUMFLEX
E_WITH_DIAERESIS;I_WITH_GRAVE;I_WITH_ACUTE;I_WITH_CIRCUMFLEX;I_WITH_DIAERESIS;ETH;N_WITH_TILDE
f2=LATIN_SMALL_LETTER_O_WITH_;GRAVE;ACUTE;CIRCUMFLEX;TILDE;DIAERESIS
f7=;DIVISION_SIGN;f8=LATIN_SMALL_LETTER_;O_WITH_STROKE;U_WITH_GRAVE;U_WITH_ACUTE;U_WITH_CIRCUMFLEX
U_WITH_DIAERESIS;Y_WITH_ACUTE;THORN;Y_WITH_DIAERESIS
100=LATIN_;CAPITAL_LETTER_A_WITH_MACRON;SMALL_LETTER_A_WITH_MACRON;CAPITAL_LETTER_A_WITH_BREVE
SMALL_LETTER_A_WITH_BREVE;CAPITAL_LETTER_A_WITH_OGONEK;SMALL_LETTER_A_WITH_OGONEK
CAPITAL_LETTER_C_WITH_ACUTE;SMALL_LETTER_C_WITH_ACUTE;CAPITAL_LETTER_C_WITH_CIRCUMFLEX
SMALL_LETTER_C_WITH_CIRCUMFLEX;CAPITAL_LETTER_C_WITH_DOT_ABOVE;SMALL_LETTER_C_WITH_DOT_ABOVE
CAPITAL_LETTER_C_WITH_CARON;SMALL_LETTER_C_WITH_CARON;CAPITAL_LETTER_D_WITH_CARON
SMALL_LETTER_D_WITH_CARON;CAPITAL_LETTER_D_WITH_STROKE;SMALL_LETTER_D_WITH_STROKE
CAPITAL_LETTER_E_WITH_MACRON;SMALL_LETTER_E_WITH_MACRON;CAPITAL_LETTER_E_WITH_BREVE
SMALL_LETTER_E_WITH_BREVE;CAPITAL_LETTER_E_WITH_DOT_ABOVE;SMALL_LETTER_E_WITH_DOT_ABOVE
CAPITAL_LETTER_E_WITH_OGONEK;SMALL_LETTER_E_WITH_OGONEK;CAPITAL_LETTER_E_WITH_CARON
SMALL_LETTER_E_WITH_CARON;CAPITAL_LETTER_G_WITH_CIRCUMFLEX;SMALL_LETTER_G_WITH_CIRCUMFLEX
CAPITAL_LETTER_G_WITH_BREVE;SMALL_LETTER_G_WITH_BREVE;CAPITAL_LETTER_G_WITH_DOT_ABOVE
SMALL_LETTER_G_WITH_DOT_ABOVE;CAPITAL_LETTER_G_WITH_CEDILLA;SMALL_LETTER_G_WITH_CEDILLA
CAPITAL_LETTER_H_WITH_CIRCUMFLEX;SMALL_LETTER_H_WITH_CIRCUMFLEX;CAPITAL_LETTER_H_WITH_STROKE
SMALL_LETTER_H_WITH_STROKE;CAPITAL_LETTER_I_WITH_TILDE;SMALL_LETTER_I_WITH_TILDE
CAPITAL_LETTER_I_WITH_MACRON;SMALL_LETTER_I_WITH_MACRON;CAPITAL_LETTER_I_WITH_BREVE
SMALL_LETTER_I_WITH_BREVE;CAPITAL_LETTER_I_WITH_OGONEK;SMALL_LETTER_I_WITH_OGONEK
CAPITAL_LETTER_I_WITH_DOT_ABOVE;SMALL_LETTER_DOTLESS_I;CAPITAL_LIGATURE_IJ;SMALL_LIGATURE_IJ
CAPITAL_LETTER_J_WITH_CIRCUMFLEX;SMALL_LETTER_J_WITH_CIRCUMFLEX;CAPITAL_LETTER_K_WITH_CEDILLA
SMALL_LETTER_K_WITH_CEDILLA;SMALL_LETTER_KRA;CAPITAL_LETTER_L_WITH_ACUTE;SMALL_LETTER_L_WITH_ACUTE
CAPITAL_LETTER_L_WITH_CEDILLA;SMALL_LETTER_L_WITH_CEDILLA;CAPITAL_LETTER_L_WITH_CARON
SMALL_LETTER_L_WITH_CARON;CAPITAL_LETTER_L_WITH_MIDDLE_DOT;SMALL_LETTER_L_WITH_MIDDLE_DOT
CAPITAL_LETTER_L_WITH_STROKE;SMALL_LETTER_L_WITH_STROKE;CAPITAL_LETTER_N_WITH_ACUTE
SMALL_LETTER_N_WITH_ACUTE;CAPITAL_LETTER_N_WITH_CEDILLA;SMALL_LETTER_N_WITH_CEDILLA
CAPITAL_LETTER_N_WITH_CARON;SMALL_LETTER_N_WITH_CARON;SMALL_LETTER_N_PRECEDED_BY_APOSTROPHE
CAPITAL_LETTER_ENG;SMALL_LETTER_ENG;CAPITAL_LETTER_O_WITH_MACRON;SMALL_LETTER_O_WITH_MACRON
CAPITAL_LETTER_O_WITH_BREVE;SMALL_LETTER_O_WITH_BREVE;CAPITAL_LETTER_O_WITH_DOUBLE_ACUTE
SMALL_LETTER_O_WITH_DOUBLE_ACUTE;CAPITAL_LIGATURE_OE;SMALL_LIGATURE_OE;CAPITAL_LETTER_R_WITH_ACUTE
SMALL_LETTER_R_WITH_ACUTE;CAPITAL_LETTER_R_WITH_CEDILLA;SMALL_LETTER_R_WITH_CEDILLA
CAPITAL_LETTER_R_WITH_CARON;SMALL_LETTER_R_WITH_CARON;CAPITAL_LETTER_S_WITH_ACUTE
SMALL_LETTER_S_WITH_ACUTE;CAPITAL_LETTER_S_WITH_CIRCUMFLEX;SMALL_LETTER_S_WITH_CIRCUMFLEX
CAPITAL_LETTER_S_WITH_CEDILLA;SMALL_LETTER_S_WITH_CEDILLA;CAPITAL_LETTER_S_WITH_CARON
SMALL_LETTER_S_WITH_CARON;CAPITAL_LETTER_T_WITH_CEDILLA;SMALL_LETTER_T_WITH_CEDILLA
CAPITAL_LETTER_T_WITH_CARON;SMALL_LETTER_T_WITH_CARON;CAPITAL_LETTER_T_WITH_STROKE
SMALL_LETTER_T_WITH_STROKE;CAPITAL_LETTER_U_WITH_TILDE;SMALL_LETTER_U_WITH_TILDE
CAPITAL_LETTER_U_WITH_MACRON;SMALL_LETTER_U_WITH_MACRON;CAPITAL_LETTER_U_WITH_BREVE
SMALL_LETTER_U_WITH_BREVE;CAPITAL_LETTER_U_WITH_RING_ABOVE;SMALL_LETTER_U_WITH_RING_ABOVE
CAPITAL_LETTER_U_WITH_DOUBLE_ACUTE;SMALL_LETTER_U_WITH_DOUBLE_ACUTE;CAPITAL_LETTER_U_WITH_OGONEK
SMALL_LETTER_U_WITH_OGONEK;CAPITAL_LETTER_W_WITH_CIRCUMFLEX;SMALL_LETTER_W_WITH_CIRCUMFLEX
CAPITAL_LETTER_Y_WITH_CIRCUMFLEX;SMALL_LETTER_Y_WITH_CIRCUMFLEX;CAPITAL_LETTER_Y_WITH_DIAERESIS
CAPITAL_LETTER_Z_WITH_ACUTE;SMALL_LETTER_Z_WITH_ACUTE;CAPITAL_LETTER_Z_WITH_DOT_ABOVE
SMALL_LETTER_Z_WITH_DOT_ABOVE;CAPITAL_LETTER_Z_WITH_CARON
17e=LATIN_SMALL_LETTER_;Z_WITH_CARON;LONG_S;B_WITH_STROKE
181=LATIN_CAPITAL_LETTER_B_WITH_;HOOK;TOPBAR;183=LATIN_;SMALL_LETTER_B_WITH_TOPBAR
CAPITAL_LETTER_TONE_SIX;SMALL_LETTER_TONE_SIX;CAPITAL_LETTER_OPEN_O;CAPITAL_LETTER_C_WITH_HOOK
SMALL_LETTER_C_WITH_HOOK;189=LATIN_CAPITAL_LETTER_;AFRICAN_D;D_WITH_HOOK;D_WITH_TOPBAR
18c=LATIN_SMALL_LETTER_;D_WITH_TOPBAR;TURNED_DELTA
18e=LATIN_CAPITAL_LETTER_;REVERSED_E;SCHWA;OPEN_E;F_WITH_HOOK
192=LATIN_;SMALL_LETTER_F_WITH_HOOK;CAPITAL_LETTER_G_WITH_HOOK;CAPITAL_LETTER_GAMMA;SMALL_LETTER_HV
196=LATIN_CAPITAL_LETTER_;IOTA;I_WITH_STROKE;K_WITH_HOOK
199=LATIN_SMALL_LETTER_;K_WITH_HOOK;L_WITH_BAR;LAMBDA_WITH_STROKE
19c=LATIN_CAPITAL_LETTER_;TURNED_M;N_WITH_LEFT_HOOK
19e=LATIN_;SMALL_LETTER_N_WITH_LONG_RIGHT_LEG;CAPITAL_LETTER_O_WITH_MIDDLE_TILDE
CAPITAL_LETTER_O_WITH_HORN;SMALL_LETTER_O_WITH_HORN;CAPITAL_LETTER_OI;SMALL_LETTER_OI
CAPITAL_LETTER_P_WITH_HOOK;SMALL_LETTER_P_WITH_HOOK;LETTER_YR;CAPITAL_LETTER_TONE_TWO
SMALL_LETTER_TONE_TWO;CAPITAL_LETTER_ESH;LETTER_REVERSED_ESH_LOOP;SMALL_LETTER_T_WITH_PALATAL_HOOK
CAPITAL_LETTER_T_WITH_HOOK;SMALL_LETTER_T_WITH_HOOK;CAPITAL_LETTER_T_WITH_RETROFLEX_HOOK
CAPITAL_LETTER_U_WITH_HORN;SMALL_LETTER_U_WITH_HORN
1b1=LATIN_CAPITAL_LETTER_;UPSILON;V_WITH_HOOK;Y_WITH_HOOK
1b4=LATIN_;SMALL_LETTER_Y_WITH_HOOK;CAPITAL_LETTER_Z_WITH_STROKE;SMALL_LETTER_Z_WITH_STROKE
CAPITAL_LETTER_EZH;CAPITAL_LETTER_EZH_REVERSED;SMALL_LETTER_EZH_REVERSED;SMALL_LETTER_EZH_WITH_TAIL
LETTER_TWO_WITH_STROKE;CAPITAL_LETTER_TONE_FIVE;SMALL_LETTER_TONE_FIVE
1be=LATIN_LETTER_;INVERTED_GLOTTAL_STOP_WITH_STROKE;WYNN;DENTAL_CLICK;LATERAL_CLICK;ALVEOLAR_CLICK
RETROFLEX_CLICK;1c4=LATIN_CAPITAL_LETTER_;DZ_WITH_CARON;D_WITH_SMALL_LETTER_Z_WITH_CARON
1c6=LATIN_;SMALL_LETTER_DZ_WITH_CARON;CAPITAL_LETTER_LJ;CAPITAL_LETTER_L_WITH_SMALL_LETTER_J
SMALL_LETTER_LJ;CAPITAL_LETTER_NJ;CAPITAL_LETTER_N_WITH_SMALL_LETTER_J;SMALL_LETTER_NJ
CAPITAL_LETTER_A_WITH_CARON;SMALL_LETTER_A_WITH_CARON;CAPITAL_LETTER_I_WITH_CARON
SMALL_LETTER_I_WITH_CARON;CAPITAL_LETTER_O_WITH_CARON;SMALL_LETTER_O_WITH_CARON
CAPITAL_LETTER_U_WITH_CARON;SMALL_LETTER_U_WITH_CARON;CAPITAL_LETTER_U_WITH_DIAERESIS_AND_MACRON
SMALL_LETTER_U_WITH_DIAERESIS_AND_MACRON;CAPITAL_LETTER_U_WITH_DIAERESIS_AND_ACUTE
SMALL_LETTER_U_WITH_DIAERESIS_AND_ACUTE;CAPITAL_LETTER_U_WITH_DIAERESIS_AND_CARON
SMALL_LETTER_U_WITH_DIAERESIS_AND_CARON;CAPITAL_LETTER_U_WITH_DIAERESIS_AND_GRAVE
SMALL_LETTER_U_WITH_DIAERESIS_AND_GRAVE;SMALL_LETTER_TURNED_E
CAPITAL_LETTER_A_WITH_DIAERESIS_AND_MACRON;SMALL_LETTER_A_WITH_DIAERESIS_AND_MACRON
CAPITAL_LETTER_A_WITH_DOT_ABOVE_AND_MACRON;SMALL_LETTER_A_WITH_DOT_ABOVE_AND_MACRON
CAPITAL_LETTER_AE_WITH_MACRON;SMALL_LETTER_AE_WITH_MACRON;CAPITAL_LETTER_G_WITH_STROKE
SMALL_LETTER_G_WITH_STROKE;CAPITAL_LETTER_G_WITH_CARON;SMALL_LETTER_G_WITH_CARON
CAPITAL_LETTER_K_WITH_CARON;SMALL_LETTER_K_WITH_CARON;CAPITAL_LETTER_O_WITH_OGONEK
SMALL_LETTER_O_WITH_OGONEK;CAPITAL_LETTER_O_WITH_OGONEK_AND_MACRON
SMALL_LETTER_O_WITH_OGONEK_AND_MACRON;CAPITAL_LETTER_EZH_WITH_CARON;SMALL_LETTER_EZH_WITH_CARON
SMALL_LETTER_J_WITH_CARON;CAPITAL_LETTER_DZ;CAPITAL_LETTER_D_WITH_SMALL_LETTER_Z;SMALL_LETTER_DZ
CAPITAL_LETTER_G_WITH_ACUTE;SMALL_LETTER_G_WITH_ACUTE
1f6=LATIN_CAPITAL_LETTER_;HWAIR;WYNN;N_WITH_GRAVE;1f9=LATIN_;SMALL_LETTER_N_WITH_GRAVE
CAPITAL_LETTER_A_WITH_RING_ABOVE_AND_ACUTE;SMALL_LETTER_A_WITH_RING_ABOVE_AND_ACUTE
CAPITAL_LETTER_AE_WITH_ACUTE;SMALL_LETTER_AE_WITH_ACUTE;CAPITAL_LETTER_O_WITH_STROKE_AND_ACUTE
SMALL_LETTER_O_WITH_STROKE_AND_ACUTE;CAPITAL_LETTER_A_WITH_DOUBLE_GRAVE
SMALL_LETTER_A_WITH_DOUBLE_GRAVE;CAPITAL_LETTER_A_WITH_INVERTED_BREVE
SMALL_LETTER_A_WITH_INVERTED_BREVE;CAPITAL_LETTER_E_WITH_DOUBLE_GRAVE
SMALL_LETTER_E_WITH_DOUBLE_GRAVE;CAPITAL_LETTER_E_WITH_INVERTED_BREVE
SMALL_LETTER_E_WITH_INVERTED_BREVE;CAPITAL_LETTER_I_WITH_DOUBLE_GRAVE
SMALL_LETTER_I_WITH_DOUBLE_GRAVE;CAPITAL_LETTER_I_WITH_INVERTED_BREVE
SMALL_LETTER_I_WITH_INVERTED_BREVE;CAPITAL_LETTER_O_WITH_DOUBLE_GRAVE
SMALL_LETTER_O_WITH_DOUBLE_GRAVE;CAPITAL_LETTER_O_WITH_INVERTED_BREVE
SMALL_LETTER_O_WITH_INVERTED_BREVE;CAPITAL_LETTER_R_WITH_DOUBLE_GRAVE
SMALL_LETTER_R_WITH_DOUBLE_GRAVE;CAPITAL_LETTER_R_WITH_INVERTED_BREVE
SMALL_LETTER_R_WITH_INVERTED_BREVE;CAPITAL_LETTER_U_WITH_DOUBLE_GRAVE
SMALL_LETTER_U_WITH_DOUBLE_GRAVE;CAPITAL_LETTER_U_WITH_INVERTED_BREVE
SMALL_LETTER_U_WITH_INVERTED_BREVE;CAPITAL_LETTER_S_WITH_COMMA_BELOW;SMALL_LETTER_S_WITH_COMMA_BELOW
CAPITAL_LETTER_T_WITH_COMMA_BELOW;SMALL_LETTER_T_WITH_COMMA_BELOW;CAPITAL_LETTER_YOGH
SMALL_LETTER_YOGH;CAPITAL_LETTER_H_WITH_CARON;SMALL_LETTER_H_WITH_CARON
CAPITAL_LETTER_N_WITH_LONG_RIGHT_LEG;SMALL_LETTER_D_WITH_CURL;CAPITAL_LETTER_OU;SMALL_LETTER_OU
CAPITAL_LETTER_Z_WITH_HOOK;SMALL_LETTER_Z_WITH_HOOK;CAPITAL_LETTER_A_WITH_DOT_ABOVE
SMALL_LETTER_A_WITH_DOT_ABOVE;CAPITAL_LETTER_E_WITH_CEDILLA;SMALL_LETTER_E_WITH_CEDILLA
CAPITAL_LETTER_O_WITH_DIAERESIS_AND_MACRON;SMALL_LETTER_O_WITH_DIAERESIS_AND_MACRON
CAPITAL_LETTER_O_WITH_TILDE_AND_MACRON;SMALL_LETTER_O_WITH_TILDE_AND_MACRON
CAPITAL_LETTER_O_WITH_DOT_ABOVE;SMALL_LETTER_O_WITH_DOT_ABOVE
CAPITAL_LETTER_O_WITH_DOT_ABOVE_AND_MACRON;SMALL_LETTER_O_WITH_DOT_ABOVE_AND_MACRON
CAPITAL_LETTER_Y_WITH_MACRON;233=LATIN_SMALL_LETTER_;Y_WITH_MACRON;L_WITH_CURL;N_WITH_CURL
T_WITH_CURL;DOTLESS_J;DB_DIGRAPH;QP_DIGRAPH
23a=LATIN_CAPITAL_LETTER_;A_WITH_STROKE;C_WITH_STROKE
23c=LATIN_;SMALL_LETTER_C_WITH_STROKE;CAPITAL_LETTER_L_WITH_BAR
CAPITAL_LETTER_T_WITH_DIAGONAL_STROKE;SMALL_LETTER_S_WITH_SWASH_TAIL;SMALL_LETTER_Z_WITH_SWASH_TAIL
CAPITAL_LETTER_GLOTTAL_STOP;SMALL_LETTER_GLOTTAL_STOP
243=LATIN_CAPITAL_LETTER_;B_WITH_STROKE;U_BAR;TURNED_V;E_WITH_STROKE
247=LATIN_;SMALL_LETTER_E_WITH_STROKE;CAPITAL_LETTER_J_WITH_STROKE;SMALL_LETTER_J_WITH_STROKE
CAPITAL_LETTER_SMALL_Q_WITH_HOOK_TAIL;SMALL_LETTER_Q_WITH_HOOK_TAIL;CAPITAL_LETTER_R_WITH_STROKE
SMALL_LETTER_R_WITH_STROKE;CAPITAL_LETTER_Y_WITH_STROKE
24f=LATIN_SMALL_LETTER_;Y_WITH_STROKE;TURNED_A;ALPHA;TURNED_ALPHA;B_WITH_HOOK;OPEN_O;C_WITH_CURL
D_WITH_TAIL;D_WITH_HOOK;REVERSED_E;SCHWA;SCHWA_WITH_HOOK;OPEN_E;REVERSED_OPEN_E
REVERSED_OPEN_E_WITH_HOOK;CLOSED_REVERSED_OPEN_E;DOTLESS_J_WITH_STROKE;G_WITH_HOOK;SCRIPT_G
262=;LATIN_LETTER_SMALL_CAPITAL_G;263=LATIN_SMALL_LETTER_;GAMMA;RAMS_HORN;TURNED_H;H_WITH_HOOK
HENG_WITH_HOOK;I_WITH_STROKE;IOTA;26a=;LATIN_LETTER_SMALL_CAPITAL_I
26b=LATIN_SMALL_LETTER_;L_WITH_MIDDLE_TILDE;L_WITH_BELT;L_WITH_RETROFLEX_HOOK;LEZH;TURNED_M
TURNED_M_WITH_LONG_LEG;M_WITH_HOOK;N_WITH_LEFT_HOOK;N_WITH_RETROFLEX_HOOK
274=LATIN_;LETTER_SMALL_CAPITAL_N;SMALL_LETTER_BARRED_O;LETTER_SMALL_CAPITAL_OE
277=LATIN_SMALL_LETTER_;CLOSED_OMEGA;PHI;TURNED_R;TURNED_R_WITH_LONG_LEG;TURNED_R_WITH_HOOK
R_WITH_LONG_LEG;R_WITH_TAIL;R_WITH_FISHHOOK;REVERSED_R_WITH_FISHHOOK
280=LATIN_LETTER_SMALL_CAPITAL_;R;INVERTED_R
282=LATIN_SMALL_LETTER_;S_WITH_HOOK;ESH;DOTLESS_J_WITH_STROKE_AND_HOOK;SQUAT_REVERSED_ESH
ESH_WITH_CURL;TURNED_T;T_WITH_RETROFLEX_HOOK;U_BAR;UPSILON;V_WITH_HOOK;TURNED_V;TURNED_W;TURNED_Y
28f=;LATIN_LETTER_SMALL_CAPITAL_Y;290=LATIN_SMALL_LETTER_;Z_WITH_RETROFLEX_HOOK;Z_WITH_CURL;EZH
EZH_WITH_CURL;294=LATIN_LETTER_;GLOTTAL_STOP;PHARYNGEAL_VOICED_FRICATIVE;INVERTED_GLOTTAL_STOP
STRETCHED_C;BILABIAL_CLICK;SMALL_CAPITAL_B;29a=;LATIN_SMALL_LETTER_CLOSED_OPEN_E
29b=LATIN_LETTER_SMALL_CAPITAL_;G_WITH_HOOK;H
29d=LATIN_SMALL_LETTER_;J_WITH_CROSSED-TAIL;TURNED_K
29f=LATIN_;LETTER_SMALL_CAPITAL_L;SMALL_LETTER_Q_WITH_HOOK;LETTER_GLOTTAL_STOP_WITH_STROKE
LETTER_REVERSED_GLOTTAL_STOP_WITH_STROKE
2a3=LATIN_SMALL_LETTER_;DZ_DIGRAPH;DEZH_DIGRAPH;DZ_DIGRAPH_WITH_CURL;TS_DIGRAPH;TESH_DIGRAPH
TC_DIGRAPH_WITH_CURL;FENG_DIGRAPH;LS_DIGRAPH;LZ_DIGRAPH
2ac=LATIN_LETTER_;BILABIAL_PERCUSSIVE;BIDENTAL_PERCUSSIVE
2ae=LATIN_SMALL_LETTER_TURNED_H_WITH_;FISHHOOK;FISHHOOK_AND_TAIL
2b0=MODIFIER_LETTER_SMALL_;H;H_WITH_HOOK;J;R;TURNED_R;TURNED_R_WITH_HOOK;CAPITAL_INVERTED_R;W;Y
2b9=MODIFIER_LETTER_;PRIME;DOUBLE_PRIME;TURNED_COMMA;APOSTROPHE;REVERSED_COMMA;RIGHT_HALF_RING
LEFT_HALF_RING;GLOTTAL_STOP;REVERSED_GLOTTAL_STOP;LEFT_ARROWHEAD;RIGHT_ARROWHEAD;UP_ARROWHEAD
DOWN_ARROWHEAD;CIRCUMFLEX_ACCENT;2c7=;CARON
2c8=MODIFIER_LETTER_;VERTICAL_LINE;MACRON;ACUTE_ACCENT;GRAVE_ACCENT;LOW_VERTICAL_LINE;LOW_MACRON
LOW_GRAVE_ACCENT;LOW_ACUTE_ACCENT;TRIANGULAR_COLON;HALF_TRIANGULAR_COLON;CENTRED_RIGHT_HALF_RING
CENTRED_LEFT_HALF_RING;UP_TACK;DOWN_TACK;PLUS_SIGN;MINUS_SIGN
2d8=;BREVE;2d9=;DOT_ABOVE;RING_ABOVE;OGONEK;SMALL_TILDE;DOUBLE_ACUTE_ACCENT
2de=MODIFIER_LETTER_;RHOTIC_HOOK;CROSS_ACCENT;SMALL_GAMMA;SMALL_L;SMALL_S;SMALL_X
SMALL_REVERSED_GLOTTAL_STOP;EXTRA-HIGH_TONE_BAR;HIGH_TONE_BAR;MID_TONE_BAR;LOW_TONE_BAR
EXTRA-LOW_TONE_BAR;YIN_DEPARTING_TONE_MARK;YANG_DEPARTING_TONE_MARK;VOICING;UNASPIRATED
DOUBLE_APOSTROPHE;LOW_DOWN_ARROWHEAD;LOW_UP_ARROWHEAD;LOW_LEFT_ARROWHEAD;LOW_RIGHT_ARROWHEAD
LOW_RING;MIDDLE_GRAVE_ACCENT;MIDDLE_DOUBLE_GRAVE_ACCENT;MIDDLE_DOUBLE_ACUTE_ACCENT;LOW_TILDE
RAISED_COLON;BEGIN_HIGH_TONE;END_HIGH_TONE;BEGIN_LOW_TONE;END_LOW_TONE;SHELF;OPEN_SHELF
LOW_LEFT_ARROW;300=COMBINING_;GRAVE_ACCENT;ACUTE_ACCENT;CIRCUMFLEX_ACCENT;TILDE;MACRON;OVERLINE
BREVE;DOT_ABOVE;DIAERESIS;HOOK_ABOVE;RING_ABOVE;DOUBLE_ACUTE_ACCENT;CARON;VERTICAL_LINE_ABOVE
DOUBLE_VERTICAL_LINE_ABOVE;DOUBLE_GRAVE_ACCENT;CANDRABINDU;INVERTED_BREVE;TURNED_COMMA_ABOVE
COMMA_ABOVE;REVERSED_COMMA_ABOVE;COMMA_ABOVE_RIGHT;GRAVE_ACCENT_BELOW;ACUTE_ACCENT_BELOW
LEFT_TACK_BELOW;RIGHT_TACK_BELOW;LEFT_ANGLE_ABOVE;HORN;LEFT_HALF_RING_BELOW;UP_TACK_BELOW
DOWN_TACK_BELOW;PLUS_SIGN_BELOW;MINUS_SIGN_BELOW;PALATALIZED_HOOK_BELOW;RETROFLEX_HOOK_BELOW
DOT_BELOW;DIAERESIS_BELOW;RING_BELOW;COMMA_BELOW;CEDILLA;OGONEK;VERTICAL_LINE_BELOW;BRIDGE_BELOW
INVERTED_DOUBLE_ARCH_BELOW;CARON_BELOW;CIRCUMFLEX_ACCENT_BELOW;BREVE_BELOW;INVERTED_BREVE_BELOW
TILDE_BELOW;MACRON_BELOW;LOW_LINE;DOUBLE_LOW_LINE;TILDE_OVERLAY;SHORT_STROKE_OVERLAY
LONG_STROKE_OVERLAY;SHORT_SOLIDUS_OVERLAY;LONG_SOLIDUS_OVERLAY;RIGHT_HALF_RING_BELOW
INVERTED_BRIDGE_BELOW;SQUARE_BELOW;SEAGULL_BELOW;X_ABOVE;VERTICAL_TILDE;DOUBLE_OVERLINE
GRAVE_TONE_MARK;ACUTE_TONE_MARK;GREEK_PERISPOMENI;GREEK_KORONIS;GREEK_DIALYTIKA_TONOS
GREEK_YPOGEGRAMMENI;BRIDGE_ABOVE;EQUALS_SIGN_BELOW;DOUBLE_VERTICAL_LINE_BELOW;LEFT_ANGLE_BELOW
NOT_TILDE_ABOVE;HOMOTHETIC_ABOVE;ALMOST_EQUAL_TO_ABOVE;LEFT_RIGHT_ARROW_BELOW;UPWARDS_ARROW_BELOW
GRAPHEME_JOINER;RIGHT_ARROWHEAD_ABOVE;LEFT_HALF_RING_ABOVE;FERMATA;X_BELOW;LEFT_ARROWHEAD_BELOW
RIGHT_ARROWHEAD_BELOW;RIGHT_ARROWHEAD_AND_UP_ARROWHEAD_BELOW;RIGHT_HALF_RING_ABOVE;DOT_ABOVE_RIGHT
ASTERISK_BELOW;DOUBLE_RING_BELOW;ZIGZAG_ABOVE
35c=COMBINING_DOUBLE_;BREVE_BELOW;BREVE;MACRON;MACRON_BELOW;TILDE;INVERTED_BREVE
RIGHTWARDS_ARROW_BELOW;363=COMBINING_LATIN_SMALL_LETTER_;A;E;I;O;U;C;D;H;M;R;T;V;X
370=GREEK_;CAPITAL_LETTER_HETA;SMALL_LETTER_HETA;CAPITAL_LETTER_ARCHAIC_SAMPI
SMALL_LETTER_ARCHAIC_SAMPI;NUMERAL_SIGN;LOWER_NUMERAL_SIGN;CAPITAL_LETTER_PAMPHYLIAN_DIGAMMA
SMALL_LETTER_PAMPHYLIAN_DIGAMMA;37a=GREEK_;YPOGEGRAMMENI;SMALL_REVERSED_LUNATE_SIGMA_SYMBOL
SMALL_DOTTED_LUNATE_SIGMA_SYMBOL;SMALL_REVERSED_DOTTED_LUNATE_SIGMA_SYMBOL;QUESTION_MARK
CAPITAL_LETTER_YOT;384=GREEK_;TONOS;DIALYTIKA_TONOS;CAPITAL_LETTER_ALPHA_WITH_TONOS;ANO_TELEIA
388=GREEK_CAPITAL_LETTER_;EPSILON_WITH_TONOS;ETA_WITH_TONOS;IOTA_WITH_TONOS
38c=;GREEK_CAPITAL_LETTER_OMICRON_WITH_TONOS
38e=GREEK_CAPITAL_LETTER_;UPSILON_WITH_TONOS;OMEGA_WITH_TONOS
390=;GREEK_SMALL_LETTER_IOTA_WITH_DIALYTIKA_AND_TONOS
391=GREEK_CAPITAL_LETTER_;ALPHA;BETA;GAMMA;DELTA;EPSILON;ZETA;ETA;THETA;IOTA;KAPPA;LAMDA;MU;NU;XI
OMICRON;PI;RHO;3a3=GREEK_CAPITAL_LETTER_;SIGMA;TAU;UPSILON;PHI;CHI;PSI;OMEGA;IOTA_WITH_DIALYTIKA
UPSILON_WITH_DIALYTIKA;3ac=GREEK_SMALL_LETTER_;ALPHA_WITH_TONOS;EPSILON_WITH_TONOS;ETA_WITH_TONOS
IOTA_WITH_TONOS;UPSILON_WITH_DIALYTIKA_AND_TONOS;ALPHA;BETA;GAMMA;DELTA;EPSILON;ZETA;ETA;THETA;IOTA
KAPPA;LAMDA;MU;NU;XI;OMICRON;PI;RHO;FINAL_SIGMA;SIGMA;TAU;UPSILON;PHI;CHI;PSI;OMEGA
IOTA_WITH_DIALYTIKA;UPSILON_WITH_DIALYTIKA;OMICRON_WITH_TONOS;UPSILON_WITH_TONOS;OMEGA_WITH_TONOS
3cf=GREEK_;CAPITAL_KAI_SYMBOL;BETA_SYMBOL;THETA_SYMBOL
3d2=GREEK_UPSILON_WITH_;HOOK_SYMBOL;ACUTE_AND_HOOK_SYMBOL;DIAERESIS_AND_HOOK_SYMBOL
3d5=GREEK_;PHI_SYMBOL;PI_SYMBOL;KAI_SYMBOL;LETTER_ARCHAIC_KOPPA;SMALL_LETTER_ARCHAIC_KOPPA
LETTER_STIGMA;SMALL_LETTER_STIGMA;LETTER_DIGAMMA;SMALL_LETTER_DIGAMMA;LETTER_KOPPA
SMALL_LETTER_KOPPA;LETTER_SAMPI;SMALL_LETTER_SAMPI
3e2=COPTIC_;CAPITAL_LETTER_SHEI;SMALL_LETTER_SHEI;CAPITAL_LETTER_FEI;SMALL_LETTER_FEI
CAPITAL_LETTER_KHEI;SMALL_LETTER_KHEI;CAPITAL_LETTER_HORI;SMALL_LETTER_HORI;CAPITAL_LETTER_GANGIA
SMALL_LETTER_GANGIA;CAPITAL_LETTER_SHIMA;SMALL_LETTER_SHIMA;CAPITAL_LETTER_DEI;SMALL_LETTER_DEI
3f0=GREEK_;KAPPA_SYMBOL;RHO_SYMBOL;LUNATE_SIGMA_SYMBOL;LETTER_YOT;CAPITAL_THETA_SYMBOL
LUNATE_EPSILON_SYMBOL;REVERSED_LUNATE_EPSILON_SYMBOL;CAPITAL_LETTER_SHO;SMALL_LETTER_SHO
CAPITAL_LUNATE_SIGMA_SYMBOL;CAPITAL_LETTER_SAN;SMALL_LETTER_SAN;RHO_WITH_STROKE_SYMBOL
3fd=GREEK_CAPITAL_;REVERSED_LUNATE_SIGMA_SYMBOL;DOTTED_LUNATE_SIGMA_SYMBOL
REVERSED_DOTTED_LUNATE_SIGMA_SYMBOL
400=CYRILLIC_CAPITAL_LETTER_;IE_WITH_GRAVE;IO;DJE;GJE;UKRAINIAN_IE;DZE;BYELORUSSIAN-UKRAINIAN_I;YI
JE;LJE;NJE;TSHE;KJE;I_WITH_GRAVE;SHORT_U;DZHE;A;BE;VE;GHE;DE;IE;ZHE;ZE;I;SHORT_I;KA;EL;EM;EN;O;PE;ER
ES;TE;U;EF;HA;TSE;CHE;SHA;SHCHA;HARD_SIGN;YERU;SOFT_SIGN;E;YU;YA
430=CYRILLIC_SMALL_LETTER_;A;BE;VE;GHE;DE;IE;ZHE;ZE;I;SHORT_I;KA;EL;EM;EN;O;PE;ER;ES;TE;U;EF;HA;TSE
CHE;SHA;SHCHA;HARD_SIGN;YERU;SOFT_SIGN;E;YU;YA;IE_WITH_GRAVE;IO;DJE;GJE;UKRAINIAN_IE;DZE
BYELORUSSIAN-UKRAINIAN_I;YI;JE;LJE;NJE;TSHE;KJE;I_WITH_GRAVE;SHORT_U;DZHE
460=CYRILLIC_;CAPITAL_LETTER_OMEGA;SMALL_LETTER_OMEGA;CAPITAL_LETTER_YAT;SMALL_LETTER_YAT
CAPITAL_LETTER_IOTIFIED_E;SMALL_LETTER_IOTIFIED_E;CAPITAL_LETTER_LITTLE_YUS;SMALL_LETTER_LITTLE_YUS
CAPITAL_LETTER_IOTIFIED_LITTLE_YUS;SMALL_LETTER_IOTIFIED_LITTLE_YUS;CAPITAL_LETTER_BIG_YUS
SMALL_LETTER_BIG_YUS;CAPITAL_LETTER_IOTIFIED_BIG_YUS;SMALL_LETTER_IOTIFIED_BIG_YUS
CAPITAL_LETTER_KSI;SMALL_LETTER_KSI;CAPITAL_LETTER_PSI;SMALL_LETTER_PSI;CAPITAL_LETTER_FITA
SMALL_LETTER_FITA;CAPITAL_LETTER_IZHITSA;SMALL_LETTER_IZHITSA
CAPITAL_LETTER_IZHITSA_WITH_DOUBLE_GRAVE_ACCENT;SMALL_LETTER_IZHITSA_WITH_DOUBLE_GRAVE_ACCENT
CAPITAL_LETTER_UK;SMALL_LETTER_UK;CAPITAL_LETTER_ROUND_OMEGA;SMALL_LETTER_ROUND_OMEGA
CAPITAL_LETTER_OMEGA_WITH_TITLO;SMALL_LETTER_OMEGA_WITH_TITLO;CAPITAL_LETTER_OT;SMALL_LETTER_OT
CAPITAL_LETTER_KOPPA;SMALL_LETTER_KOPPA;THOUSANDS_SIGN
483=COMBINING_CYRILLIC_;TITLO;PALATALIZATION;DASIA_PNEUMATA;PSILI_PNEUMATA;POKRYTIE
HUNDRED_THOUSANDS_SIGN;MILLIONS_SIGN;48a=CYRILLIC_;CAPITAL_LETTER_SHORT_I_WITH_TAIL
SMALL_LETTER_SHORT_I_WITH_TAIL;CAPITAL_LETTER_SEMISOFT_SIGN;SMALL_LETTER_SEMISOFT_SIGN
CAPITAL_LETTER_ER_WITH_TICK;SMALL_LETTER_ER_WITH_TICK;CAPITAL_LETTER_GHE_WITH_UPTURN
SMALL_LETTER_GHE_WITH_UPTURN;CAPITAL_LETTER_GHE_WITH_STROKE;SMALL_LETTER_GHE_WITH_STROKE
CAPITAL_LETTER_GHE_WITH_MIDDLE_HOOK;SMALL_LETTER_GHE_WITH_MIDDLE_HOOK
CAPITAL_LETTER_ZHE_WITH_DESCENDER;SMALL_LETTER_ZHE_WITH_DESCENDER;CAPITAL_LETTER_ZE_WITH_DESCENDER
SMALL_LETTER_ZE_WITH_DESCENDER;CAPITAL_LETTER_KA_WITH_DESCENDER;SMALL_LETTER_KA_WITH_DESCENDER
CAPITAL_LETTER_KA_WITH_VERTICAL_STROKE;SMALL_LETTER_KA_WITH_VERTICAL_STROKE
CAPITAL_LETTER_KA_WITH_STROKE;SMALL_LETTER_KA_WITH_STROKE;CAPITAL_LETTER_BASHKIR_KA
SMALL_LETTER_BASHKIR_KA;CAPITAL_LETTER_EN_WITH_DESCENDER;SMALL_LETTER_EN_WITH_DESCENDER
CAPITAL_LIGATURE_EN_GHE;SMALL_LIGATURE_EN_GHE;CAPITAL_LETTER_PE_WITH_MIDDLE_HOOK
SMALL_LETTER_PE_WITH_MIDDLE_HOOK;CAPITAL_LETTER_ABKHASIAN_HA;SMALL_LETTER_ABKHASIAN_HA
CAPITAL_LETTER_ES_WITH_DESCENDER;SMALL_LETTER_ES_WITH_DESCENDER;CAPITAL_LETTER_TE_WITH_DESCENDER
SMALL_LETTER_TE_WITH_DESCENDER;CAPITAL_LETTER_STRAIGHT_U;SMALL_LETTER_STRAIGHT_U
CAPITAL_LETTER_STRAIGHT_U_WITH_STROKE;SMALL_LETTER_STRAIGHT_U_WITH_STROKE
CAPITAL_LETTER_HA_WITH_DESCENDER;SMALL_LETTER_HA_WITH_DESCENDER;CAPITAL_LIGATURE_TE_TSE
SMALL_LIGATURE_TE_TSE;CAPITAL_LETTER_CHE_WITH_DESCENDER;SMALL_LETTER_CHE_WITH_DESCENDER
CAPITAL_LETTER_CHE_WITH_VERTICAL_STROKE;SMALL_LETTER_CHE_WITH_VERTICAL_STROKE;CAPITAL_LETTER_SHHA
SMALL_LETTER_SHHA;CAPITAL_LETTER_ABKHASIAN_CHE;SMALL_LETTER_ABKHASIAN_CHE
CAPITAL_LETTER_ABKHASIAN_CHE_WITH_DESCENDER;SMALL_LETTER_ABKHASIAN_CHE_WITH_DESCENDER
LETTER_PALOCHKA;CAPITAL_LETTER_ZHE_WITH_BREVE;SMALL_LETTER_ZHE_WITH_BREVE
CAPITAL_LETTER_KA_WITH_HOOK;SMALL_LETTER_KA_WITH_HOOK;CAPITAL_LETTER_EL_WITH_TAIL
SMALL_LETTER_EL_WITH_TAIL;CAPITAL_LETTER_EN_WITH_HOOK;SMALL_LETTER_EN_WITH_HOOK
CAPITAL_LETTER_EN_WITH_TAIL;SMALL_LETTER_EN_WITH_TAIL;CAPITAL_LETTER_KHAKASSIAN_CHE
SMALL_LETTER_KHAKASSIAN_CHE;CAPITAL_LETTER_EM_WITH_TAIL;SMALL_LETTER_EM_WITH_TAIL
SMALL_LETTER_PALOCHKA;CAPITAL_LETTER_A_WITH_BREVE;SMALL_LETTER_A_WITH_BREVE
CAPITAL_LETTER_A_WITH_DIAERESIS;SMALL_LETTER_A_WITH_DIAERESIS;CAPITAL_LIGATURE_A_IE
SMALL_LIGATURE_A_IE;CAPITAL_LETTER_IE_WITH_BREVE;SMALL_LETTER_IE_WITH_BREVE;CAPITAL_LETTER_SCHWA
SMALL_LETTER_SCHWA;CAPITAL_LETTER_SCHWA_WITH_DIAERESIS;SMALL_LETTER_SCHWA_WITH_DIAERESIS
CAPITAL_LETTER_ZHE_WITH_DIAERESIS;SMALL_LETTER_ZHE_WITH_DIAERESIS;CAPITAL_LETTER_ZE_WITH_DIAERESIS
SMALL_LETTER_ZE_WITH_DIAERESIS;CAPITAL_LETTER_ABKHASIAN_DZE;SMALL_LETTER_ABKHASIAN_DZE
CAPITAL_LETTER_I_WITH_MACRON;SMALL_LETTER_I_WITH_MACRON;CAPITAL_LETTER_I_WITH_DIAERESIS
SMALL_LETTER_I_WITH_DIAERESIS;CAPITAL_LETTER_O_WITH_DIAERESIS;SMALL_LETTER_O_WITH_DIAERESIS
CAPITAL_LETTER_BARRED_O;SMALL_LETTER_BARRED_O;CAPITAL_LETTER_BARRED_O_WITH_DIAERESIS
SMALL_LETTER_BARRED_O_WITH_DIAERESIS;CAPITAL_LETTER_E_WITH_DIAERESIS;SMALL_LETTER_E_WITH_DIAERESIS
CAPITAL_LETTER_U_WITH_MACRON;SMALL_LETTER_U_WITH_MACRON;CAPITAL_LETTER_U_WITH_DIAERESIS
SMALL_LETTER_U_WITH_DIAERESIS;CAPITAL_LETTER_U_WITH_DOUBLE_ACUTE;SMALL_LETTER_U_WITH_DOUBLE_ACUTE
CAPITAL_LETTER_CHE_WITH_DIAERESIS;SMALL_LETTER_CHE_WITH_DIAERESIS;CAPITAL_LETTER_GHE_WITH_DESCENDER
SMALL_LETTER_GHE_WITH_DESCENDER;CAPITAL_LETTER_YERU_WITH_DIAERESIS;SMALL_LETTER_YERU_WITH_DIAERESIS
CAPITAL_LETTER_GHE_WITH_STROKE_AND_HOOK;SMALL_LETTER_GHE_WITH_STROKE_AND_HOOK
CAPITAL_LETTER_HA_WITH_HOOK;SMALL_LETTER_HA_WITH_HOOK;CAPITAL_LETTER_HA_WITH_STROKE
SMALL_LETTER_HA_WITH_STROKE;CAPITAL_LETTER_KOMI_DE;SMALL_LETTER_KOMI_DE;CAPITAL_LETTER_KOMI_DJE
SMALL_LETTER_KOMI_DJE;CAPITAL_LETTER_KOMI_ZJE;SMALL_LETTER_KOMI_ZJE;CAPITAL_LETTER_KOMI_DZJE
SMALL_LETTER_KOMI_DZJE;CAPITAL_LETTER_KOMI_LJE;SMALL_LETTER_KOMI_LJE;CAPITAL_LETTER_KOMI_NJE
SMALL_LETTER_KOMI_NJE;CAPITAL_LETTER_KOMI_SJE;SMALL_LETTER_KOMI_SJE;CAPITAL_LETTER_KOMI_TJE
SMALL_LETTER_KOMI_TJE;CAPITAL_LETTER_REVERSED_ZE;SMALL_LETTER_REVERSED_ZE
CAPITAL_LETTER_EL_WITH_HOOK;SMALL_LETTER_EL_WITH_HOOK;CAPITAL_LETTER_LHA;SMALL_LETTER_LHA
CAPITAL_LETTER_RHA;SMALL_LETTER_RHA;CAPITAL_LETTER_YAE;SMALL_LETTER_YAE;CAPITAL_LETTER_QA
SMALL_LETTER_QA;CAPITAL_LETTER_WE;SMALL_LETTER_WE;CAPITAL_LETTER_ALEUT_KA;SMALL_LETTER_ALEUT_KA
CAPITAL_LETTER_EL_WITH_MIDDLE_HOOK;SMALL_LETTER_EL_WITH_MIDDLE_HOOK
CAPITAL_LETTER_EN_WITH_MIDDLE_HOOK;SMALL_LETTER_EN_WITH_MIDDLE_HOOK;CAPITAL_LETTER_PE_WITH_DESCENDER
SMALL_LETTER_PE_WITH_DESCENDER;CAPITAL_LETTER_SHHA_WITH_DESCENDER;SMALL_LETTER_SHHA_WITH_DESCENDER
CAPITAL_LETTER_EN_WITH_LEFT_HOOK;SMALL_LETTER_EN_WITH_LEFT_HOOK;CAPITAL_LETTER_DZZHE
SMALL_LETTER_DZZHE;CAPITAL_LETTER_DCHE;SMALL_LETTER_DCHE;CAPITAL_LETTER_EL_WITH_DESCENDER
SMALL_LETTER_EL_WITH_DESCENDER;531=ARMENIAN_CAPITAL_LETTER_;AYB;BEN;GIM;DA;ECH;ZA;EH;ET;TO;ZHE;INI
LIWN;XEH;CA;KEN;HO;JA;GHAD;CHEH;MEN;YI;NOW;SHA;VO;CHA;PEH;JHEH;RA;SEH;VEW;TIWN;REH;CO;YIWN;PIWR;KEH
OH;FEH;559=ARMENIAN_;MODIFIER_LETTER_LEFT_HALF_RING;APOSTROPHE;EMPHASIS_MARK;EXCLAMATION_MARK;COMMA
QUESTION_MARK;ABBREVIATION_MARK;560=ARMENIAN_SMALL_LETTER_;TURNED_AYB;AYB;BEN;GIM;DA;ECH;ZA;EH;ET;TO
ZHE;INI;LIWN;XEH;CA;KEN;HO;JA;GHAD;CHEH;MEN;YI;NOW;SHA;VO;CHA;PEH;JHEH;RA;SEH;VEW;TIWN;REH;CO;YIWN
PIWR;KEH;OH;FEH;587=ARMENIAN_;SMALL_LIGATURE_ECH_YIWN;SMALL_LETTER_YI_WITH_STROKE;FULL_STOP;HYPHEN
58d=;RIGHT-FACING_ARMENIAN_ETERNITY_SIGN;LEFT-FACING_ARMENIAN_ETERNITY_SIGN;ARMENIAN_DRAM_SIGN
591=HEBREW_ACCENT_;ETNAHTA;SEGOL;SHALSHELET;ZAQEF_QATAN;ZAQEF_GADOL;TIPEHA;REVIA;ZARQA;PASHTA;YETIV
TEVIR;GERESH;GERESH_MUQDAM;GERSHAYIM;QARNEY_PARA;TELISHA_GEDOLA;PAZER;ATNAH_HAFUKH;MUNAH;MAHAPAKH
MERKHA;MERKHA_KEFULA;DARGA;QADMA;TELISHA_QETANA;YERAH_BEN_YOMO;OLE;ILUY;DEHI;ZINOR
5af=;HEBREW_MARK_MASORA_CIRCLE;5b0=HEBREW_POINT_;SHEVA;HATAF_SEGOL;HATAF_PATAH;HATAF_QAMATS;HIRIQ
TSERE;SEGOL;PATAH;QAMATS;HOLAM;HOLAM_HASER_FOR_VAV;QUBUTS;DAGESH_OR_MAPIQ;METEG
5be=HEBREW_;PUNCTUATION_MAQAF;POINT_RAFE;PUNCTUATION_PASEQ;POINT_SHIN_DOT;POINT_SIN_DOT
PUNCTUATION_SOF_PASUQ;MARK_UPPER_DOT;MARK_LOWER_DOT;PUNCTUATION_NUN_HAFUKHA;POINT_QAMATS_QATAN
5d0=HEBREW_LETTER_;ALEF;BET;GIMEL;DALET;HE;VAV;ZAYIN;HET;TET;YOD;FINAL_KAF;KAF;LAMED;FINAL_MEM;MEM
FINAL_NUN;NUN;SAMEKH;AYIN;FINAL_PE;PE;FINAL_TSADI;TSADI;QOF;RESH;SHIN;TAV
5ef=;HEBREW_YOD_TRIANGLE;5f0=HEBREW_LIGATURE_YIDDISH_;DOUBLE_VAV;VAV_YOD;DOUBLE_YOD
5f3=HEBREW_PUNCTUATION_;GERESH;GERSHAYIM;600=ARABIC_;NUMBER_SIGN;SIGN_SANAH;FOOTNOTE_MARKER
SIGN_SAFHA;SIGN_SAMVAT;NUMBER_MARK_ABOVE;606=ARABIC-INDIC_;CUBE_ROOT;FOURTH_ROOT
608=;ARABIC_RAY;609=ARABIC-INDIC_PER_;MILLE_SIGN;TEN_THOUSAND_SIGN
60b=;AFGHANI_SIGN;60c=ARABIC_;COMMA;DATE_SEPARATOR;POETIC_VERSE_SIGN
60f=ARABIC_SIGN_;MISRA;SALLALLAHOU_ALAYHE_WASSALLAM;ALAYHE_ASSALLAM;RAHMATULLAH_ALAYHE
RADI_ALLAHOU_ANHU;TAKHALLUS;615=ARABIC_SMALL_;HIGH_TAH;HIGH_LIGATURE_ALEF_WITH_LAM_WITH_YEH
HIGH_ZAIN;FATHA;DAMMA;KASRA;61b=ARABIC_;SEMICOLON;LETTER_MARK;END_OF_TEXT_MARK
TRIPLE_DOT_PUNCTUATION_MARK;QUESTION_MARK;620=ARABIC_LETTER_;KASHMIRI_YEH;HAMZA
ALEF_WITH_MADDA_ABOVE;ALEF_WITH_HAMZA_ABOVE;WAW_WITH_HAMZA_ABOVE;ALEF_WITH_HAMZA_BELOW
YEH_WITH_HAMZA_ABOVE;ALEF;BEH;TEH_MARBUTA;TEH;THEH;JEEM;HAH;KHAH;DAL;THAL;REH;ZAIN;SEEN;SHEEN;SAD
DAD;TAH;ZAH;AIN;GHAIN;KEHEH_WITH_TWO_DOTS_ABOVE;KEHEH_WITH_THREE_DOTS_BELOW
63d=ARABIC_LETTER_FARSI_YEH_WITH_;INVERTED_V;TWO_DOTS_ABOVE;THREE_DOTS_ABOVE
640=;ARABIC_TATWEEL;641=ARABIC_LETTER_;FEH;QAF;KAF;LAM;MEEM;NOON;HEH;WAW;ALEF_MAKSURA;YEH
64b=ARABIC_;FATHATAN;DAMMATAN;KASRATAN;FATHA;DAMMA;KASRA;SHADDA;SUKUN;MADDAH_ABOVE;HAMZA_ABOVE
HAMZA_BELOW;SUBSCRIPT_ALEF;INVERTED_DAMMA;MARK_NOON_GHUNNA;ZWARAKAY;VOWEL_SIGN_SMALL_V_ABOVE
VOWEL_SIGN_INVERTED_SMALL_V_ABOVE;VOWEL_SIGN_DOT_BELOW;REVERSED_DAMMA;FATHA_WITH_TWO_DOTS
WAVY_HAMZA_BELOW;660=ARABIC-INDIC_DIGIT_;ZERO;ONE;TWO;THREE;FOUR;FIVE;SIX;SEVEN;EIGHT;NINE
66a=ARABIC_;PERCENT_SIGN;DECIMAL_SEPARATOR;THOUSANDS_SEPARATOR;FIVE_POINTED_STAR
66e=ARABIC_LETTER_;DOTLESS_BEH;DOTLESS_QAF;SUPERSCRIPT_ALEF;ALEF_WASLA;ALEF_WITH_WAVY_HAMZA_ABOVE
ALEF_WITH_WAVY_HAMZA_BELOW;HIGH_HAMZA;HIGH_HAMZA_ALEF;HIGH_HAMZA_WAW;U_WITH_HAMZA_ABOVE
HIGH_HAMZA_YEH;TTEH;TTEHEH;BEEH;TEH_WITH_RING;TEH_WITH_THREE_DOTS_ABOVE_DOWNWARDS;PEH;TEHEH;BEHEH
HAH_WITH_HAMZA_ABOVE;HAH_WITH_TWO_DOTS_VERTICAL_ABOVE;NYEH;DYEH;HAH_WITH_THREE_DOTS_ABOVE;TCHEH
TCHEHEH;DDAL;DAL_WITH_RING;DAL_WITH_DOT_BELOW;DAL_WITH_DOT_BELOW_AND_SMALL_TAH;DAHAL;DDAHAL;DUL
DAL_WITH_THREE_DOTS_ABOVE_DOWNWARDS;DAL_WITH_FOUR_DOTS_ABOVE;RREH
692=ARABIC_LETTER_REH_WITH_;SMALL_V;RING;DOT_BELOW;SMALL_V_BELOW;DOT_BELOW_AND_DOT_ABOVE
TWO_DOTS_ABOVE;698=ARABIC_LETTER_;JEH;REH_WITH_FOUR_DOTS_ABOVE;SEEN_WITH_DOT_BELOW_AND_DOT_ABOVE
SEEN_WITH_THREE_DOTS_BELOW;SEEN_WITH_THREE_DOTS_BELOW_AND_THREE_DOTS_ABOVE;SAD_WITH_TWO_DOTS_BELOW
SAD_WITH_THREE_DOTS_ABOVE;TAH_WITH_THREE_DOTS_ABOVE;AIN_WITH_THREE_DOTS_ABOVE;DOTLESS_FEH
FEH_WITH_DOT_MOVED_BELOW;FEH_WITH_DOT_BELOW;VEH;FEH_WITH_THREE_DOTS_BELOW;PEHEH;QAF_WITH_DOT_ABOVE
QAF_WITH_THREE_DOTS_ABOVE;KEHEH;SWASH_KAF;KAF_WITH_RING;KAF_WITH_DOT_ABOVE;NG
KAF_WITH_THREE_DOTS_BELOW;GAF;GAF_WITH_RING;NGOEH;GAF_WITH_TWO_DOTS_BELOW;GUEH
GAF_WITH_THREE_DOTS_ABOVE;LAM_WITH_SMALL_V;LAM_WITH_DOT_ABOVE;LAM_WITH_THREE_DOTS_ABOVE
LAM_WITH_THREE_DOTS_BELOW;NOON_WITH_DOT_BELOW;NOON_GHUNNA;RNOON;NOON_WITH_RING
NOON_WITH_THREE_DOTS_ABOVE;HEH_DOACHASHMEE;TCHEH_WITH_DOT_ABOVE;HEH_WITH_YEH_ABOVE;HEH_GOAL
HEH_GOAL_WITH_HAMZA_ABOVE;TEH_MARBUTA_GOAL;WAW_WITH_RING;KIRGHIZ_OE;OE;U;YU;KIRGHIZ_YU
WAW_WITH_TWO_DOTS_ABOVE;VE;FARSI_YEH;YEH_WITH_TAIL;YEH_WITH_SMALL_V;WAW_WITH_DOT_ABOVE;E
YEH_WITH_THREE_DOTS_BELOW;YEH_BARREE;YEH_BARREE_WITH_HAMZA_ABOVE
6d4=ARABIC_;FULL_STOP;LETTER_AE;6d6=ARABIC_SMALL_HIGH_;LIGATURE_SAD_WITH_LAM_WITH_ALEF_MAKSURA
LIGATURE_QAF_WITH_LAM_WITH_ALEF_MAKSURA;MEEM_INITIAL_FORM;LAM_ALEF;JEEM;THREE_DOTS;SEEN
6dd=ARABIC_;END_OF_AYAH;START_OF_RUB_EL_HIZB
6df=ARABIC_SMALL_;HIGH_ROUNDED_ZERO;HIGH_UPRIGHT_RECTANGULAR_ZERO;HIGH_DOTLESS_HEAD_OF_KHAH
HIGH_MEEM_ISOLATED_FORM;LOW_SEEN;HIGH_MADDA;WAW;YEH;HIGH_YEH;HIGH_NOON
6e9=ARABIC_;PLACE_OF_SAJDAH;EMPTY_CENTRE_LOW_STOP;EMPTY_CENTRE_HIGH_STOP
ROUNDED_HIGH_STOP_WITH_FILLED_CENTRE;SMALL_LOW_MEEM;LETTER_DAL_WITH_INVERTED_V
LETTER_REH_WITH_INVERTED_V;6f0=EXTENDED_ARABIC-INDIC_DIGIT_;ZERO;ONE;TWO;THREE;FOUR;FIVE;SIX;SEVEN
EIGHT;NINE;6fa=ARABIC_LETTER_;SHEEN_WITH_DOT_BELOW;DAD_WITH_DOT_BELOW;GHAIN_WITH_DOT_BELOW
6fd=ARABIC_;SIGN_SINDHI_AMPERSAND;SIGN_SINDHI_POSTPOSITION_MEN;LETTER_HEH_WITH_INVERTED_V
700=SYRIAC_;END_OF_PARAGRAPH;SUPRALINEAR_FULL_STOP;SUBLINEAR_FULL_STOP;SUPRALINEAR_COLON
SUBLINEAR_COLON;HORIZONTAL_COLON;COLON_SKEWED_LEFT;COLON_SKEWED_RIGHT;SUPRALINEAR_COLON_SKEWED_LEFT
SUBLINEAR_COLON_SKEWED_RIGHT;CONTRACTION
70b=SYRIAC_HARKLEAN_;OBELUS;METOBELUS;ASTERISCUS;70f=;SYRIAC_ABBREVIATION_MARK
710=SYRIAC_LETTER_;ALAPH;SUPERSCRIPT_ALAPH;BETH;GAMAL;GAMAL_GARSHUNI;DALATH;DOTLESS_DALATH_RISH;HE
WAW;ZAIN;HETH;TETH;TETH_GARSHUNI;YUDH;YUDH_HE;KAPH;LAMADH;MIM;NUN;SEMKATH;FINAL_SEMKATH;E;PE
REVERSED_PE;SADHE;QAPH;RISH;SHIN;TAW;PERSIAN_BHETH;PERSIAN_GHAMAL;PERSIAN_DHALATH
730=SYRIAC_PTHAHA_;ABOVE;BELOW;DOTTED;733=SYRIAC_ZQAPHA_;ABOVE;BELOW;DOTTED
736=SYRIAC_;RBASA_ABOVE;RBASA_BELOW;DOTTED_ZLAMA_HORIZONTAL;DOTTED_ZLAMA_ANGULAR;HBASA_ABOVE
HBASA_BELOW;HBASA-ESASA_DOTTED;ESASA_ABOVE;ESASA_BELOW;RWAHA;FEMININE_DOT;QUSHSHAYA;RUKKAKHA
TWO_VERTICAL_DOTS_ABOVE;TWO_VERTICAL_DOTS_BELOW;THREE_DOTS_ABOVE;THREE_DOTS_BELOW;OBLIQUE_LINE_ABOVE
OBLIQUE_LINE_BELOW;MUSIC;BARREKH;74d=SYRIAC_LETTER_SOGDIAN_;ZHAIN;KHAPH;FE
750=ARABIC_LETTER_BEH_WITH_;THREE_DOTS_HORIZONTALLY_BELOW;DOT_BELOW_AND_THREE_DOTS_ABOVE
THREE_DOTS_POINTING_UPWARDS_BELOW;THREE_DOTS_POINTING_UPWARDS_BELOW_AND_TWO_DOTS_ABOVE
TWO_DOTS_BELOW_AND_DOT_ABOVE;INVERTED_SMALL_V_BELOW;SMALL_V
757=ARABIC_LETTER_;HAH_WITH_TWO_DOTS_ABOVE;HAH_WITH_THREE_DOTS_POINTING_UPWARDS_BELOW
DAL_WITH_TWO_DOTS_VERTICALLY_BELOW_AND_SMALL_TAH;DAL_WITH_INVERTED_SMALL_V_BELOW;REH_WITH_STROKE
SEEN_WITH_FOUR_DOTS_ABOVE;AIN_WITH_TWO_DOTS_ABOVE;AIN_WITH_THREE_DOTS_POINTING_DOWNWARDS_ABOVE
AIN_WITH_TWO_DOTS_VERTICALLY_ABOVE;FEH_WITH_TWO_DOTS_BELOW
FEH_WITH_THREE_DOTS_POINTING_UPWARDS_BELOW;KEHEH_WITH_DOT_ABOVE;KEHEH_WITH_THREE_DOTS_ABOVE
KEHEH_WITH_THREE_DOTS_POINTING_UPWARDS_BELOW;MEEM_WITH_DOT_ABOVE;MEEM_WITH_DOT_BELOW
NOON_WITH_TWO_DOTS_BELOW;NOON_WITH_SMALL_TAH;NOON_WITH_SMALL_V;LAM_WITH_BAR
REH_WITH_TWO_DOTS_VERTICALLY_ABOVE;REH_WITH_HAMZA_ABOVE;SEEN_WITH_TWO_DOTS_VERTICALLY_ABOVE
HAH_WITH_SMALL_ARABIC_LETTER_TAH_BELOW;HAH_WITH_SMALL_ARABIC_LETTER_TAH_AND_TWO_DOTS
SEEN_WITH_SMALL_ARABIC_LETTER_TAH_AND_TWO_DOTS;REH_WITH_SMALL_ARABIC_LETTER_TAH_AND_TWO_DOTS
HAH_WITH_SMALL_ARABIC_LETTER_TAH_ABOVE
773=ARABIC_LETTER_ALEF_WITH_EXTENDED_ARABIC-INDIC_DIGIT_;TWO_ABOVE;THREE_ABOVE
775=ARABIC_LETTER_FARSI_YEH_WITH_EXTENDED_ARABIC-INDIC_DIGIT_;TWO_ABOVE;THREE_ABOVE;FOUR_BELOW
778=ARABIC_LETTER_WAW_WITH_EXTENDED_ARABIC-INDIC_DIGIT_;TWO_ABOVE;THREE_ABOVE
77a=ARABIC_LETTER_YEH_BARREE_WITH_EXTENDED_ARABIC-INDIC_DIGIT_;TWO_ABOVE;THREE_ABOVE
77c=ARABIC_LETTER_;HAH_WITH_EXTENDED_ARABIC-INDIC_DIGIT_FOUR_BELOW
SEEN_WITH_EXTENDED_ARABIC-INDIC_DIGIT_FOUR_ABOVE;SEEN_WITH_INVERTED_V;KAF_WITH_TWO_DOTS_ABOVE
780=THAANA_LETTER_;HAA;SHAVIYANI;NOONU;RAA;BAA;LHAVIYANI;KAAFU;ALIFU;VAAVU;MEEMU;FAAFU;DHAALU;THAA
LAAMU;GAAFU;GNAVIYANI;SEENU;DAVIYANI;ZAVIYANI;TAVIYANI;YAA;PAVIYANI;JAVIYANI;CHAVIYANI;TTAA;HHAA
KHAA;THAALU;ZAA;SHEENU;SAADHU;DAADHU;TO;ZO;AINU;GHAINU;QAAFU;WAAVU
7a6=THAANA_;ABAFILI;AABAAFILI;IBIFILI;EEBEEFILI;UBUFILI;OOBOOFILI;EBEFILI;EYBEYFILI;OBOFILI
OABOAFILI;SUKUN;LETTER_NAA;7c0=NKO_DIGIT_;ZERO;ONE;TWO;THREE;FOUR;FIVE;SIX;SEVEN;EIGHT;NINE
7ca=NKO_LETTER_;A;EE;I;E;U;OO;O;DAGBASINNA;N;BA;PA;TA;JA;CHA;DA;RA;RRA;SA;GBA;FA;KA;LA;NA_WOLOSO;MA
NYA;NA;HA;WA;YA;NYA_WOLOSO;JONA_JA;JONA_CHA;JONA_RA
7eb=NKO_COMBINING_;SHORT_HIGH_TONE;SHORT_LOW_TONE;SHORT_RISING_TONE;LONG_DESCENDING_TONE
LONG_HIGH_TONE;LONG_LOW_TONE;LONG_RISING_TONE;NASALIZATION_MARK;DOUBLE_DOT_ABOVE
7f4=NKO_;HIGH_TONE_APOSTROPHE;LOW_TONE_APOSTROPHE;SYMBOL_OO_DENNEN;SYMBOL_GBAKURUNEN;COMMA
EXCLAMATION_MARK;LAJANYALAN;7fd=NKO_;DANTAYALAN;DOROME_SIGN;TAMAN_SIGN
800=SAMARITAN_LETTER_;ALAF;BIT;GAMAN;DALAT;IY;BAA;ZEN;IT;TIT;YUT;KAAF;LABAT;MIM;NUN;SINGAAT;IN;FI
TSAADIY;QUF;RISH;SHAN;TAAF;816=SAMARITAN_;MARK_IN;MARK_IN-ALAF;MARK_OCCLUSION;MARK_DAGESH
MODIFIER_LETTER_EPENTHETIC_YUT;MARK_EPENTHETIC_YUT
81c=SAMARITAN_VOWEL_SIGN_;LONG_E;E;OVERLONG_AA;LONG_AA;AA;OVERLONG_A;LONG_A;A
824=SAMARITAN_;MODIFIER_LETTER_SHORT_A;VOWEL_SIGN_SHORT_A;VOWEL_SIGN_LONG_U;VOWEL_SIGN_U
MODIFIER_LETTER_I;829=SAMARITAN_VOWEL_SIGN_;LONG_I;I;O;SUKUN
82d=;SAMARITAN_MARK_NEQUDAA;830=SAMARITAN_PUNCTUATION_;NEQUDAA;AFSAAQ;ANGED;BAU;ATMAAU;SHIYYAALAA
836=;SAMARITAN_ABBREVIATION_MARK;837=SAMARITAN_PUNCTUATION_;MELODIC_QITSA;ZIQAA;QITSA;ZAEF;TURU
ARKAANU;SOF_MASHFAAT;ANNAAU;840=MANDAIC_LETTER_;HALQA;AB;AG;AD;AH;USHENNA;AZ;IT;ATT;AKSA;AK;AL;AM;AN
AS;IN;AP;ASZ;AQ;AR;ASH;AT;DUSHENNA;KAD;AIN;859=MANDAIC_;AFFRICATION_MARK;VOCALIZATION_MARK
GEMINATION_MARK;85e=;MANDAIC_PUNCTUATION
860=SYRIAC_LETTER_MALAYALAM_;NGA;JA;NYA;TTA;NNA;NNNA;BHA;RA;LLA;LLLA;SSA
870=ARABIC_LETTER_ALEF_WITH_;ATTACHED_FATHA;ATTACHED_TOP_RIGHT_FATHA;RIGHT_MIDDLE_STROKE
LEFT_MIDDLE_STROKE;ATTACHED_KASRA;ATTACHED_BOTTOM_RIGHT_KASRA;ATTACHED_ROUND_DOT_ABOVE
ATTACHED_RIGHT_ROUND_DOT;ATTACHED_LEFT_ROUND_DOT;ATTACHED_ROUND_DOT_BELOW;DOT_ABOVE
ATTACHED_TOP_RIGHT_FATHA_AND_DOT_ABOVE;RIGHT_MIDDLE_STROKE_AND_DOT_ABOVE
ATTACHED_BOTTOM_RIGHT_KASRA_AND_DOT_ABOVE;ATTACHED_TOP_RIGHT_FATHA_AND_LEFT_RING
RIGHT_MIDDLE_STROKE_AND_LEFT_RING;ATTACHED_BOTTOM_RIGHT_KASRA_AND_LEFT_RING;ATTACHED_RIGHT_HAMZA
ATTACHED_LEFT_HAMZA;883=ARABIC_TATWEEL_WITH_;OVERSTRUCK_HAMZA;OVERSTRUCK_WAW;TWO_DOTS_BELOW
886=ARABIC_;LETTER_THIN_YEH;BASELINE_ROUND_DOT;RAISED_ROUND_DOT
889=ARABIC_LETTER_;NOON_WITH_INVERTED_SMALL_V;HAH_WITH_INVERTED_SMALL_V_BELOW;TAH_WITH_DOT_BELOW
TAH_WITH_THREE_DOTS_BELOW;KEHEH_WITH_TWO_DOTS_VERTICALLY_BELOW
88e=;ARABIC_VERTICAL_TAIL;890=ARABIC_;POUND_MARK_ABOVE;PIASTRE_MARK_ABOVE
898=ARABIC_SMALL_;HIGH_WORD_AL-JUZ;LOW_WORD_ISHMAAM;LOW_WORD_IMAALA;LOW_WORD_TASHEEL
89c=ARABIC_;MADDA_WAAJIB;SUPERSCRIPT_ALEF_MOKHASSAS;DOUBLED_MADDA;HALF_MADDA_OVER_MADDA
8a0=ARABIC_LETTER_;BEH_WITH_SMALL_V_BELOW;BEH_WITH_HAMZA_ABOVE;JEEM_WITH_TWO_DOTS_ABOVE
TAH_WITH_TWO_DOTS_ABOVE;FEH_WITH_DOT_BELOW_AND_THREE_DOTS_ABOVE;QAF_WITH_DOT_BELOW
LAM_WITH_DOUBLE_BAR;MEEM_WITH_THREE_DOTS_ABOVE;YEH_WITH_TWO_DOTS_BELOW_AND_HAMZA_ABOVE
YEH_WITH_TWO_DOTS_BELOW_AND_DOT_ABOVE;REH_WITH_LOOP;WAW_WITH_DOT_WITHIN;ROHINGYA_YEH;LOW_ALEF
DAL_WITH_THREE_DOTS_BELOW;SAD_WITH_THREE_DOTS_BELOW;GAF_WITH_INVERTED_STROKE;STRAIGHT_WAW
ZAIN_WITH_INVERTED_V_ABOVE;AIN_WITH_THREE_DOTS_BELOW;KAF_WITH_DOT_BELOW
QAF_WITH_DOT_BELOW_AND_NO_DOTS_ABOVE;BEH_WITH_SMALL_MEEM_ABOVE;PEH_WITH_SMALL_MEEM_ABOVE
TEH_WITH_SMALL_TEH_ABOVE;REH_WITH_SMALL_NOON_ABOVE;YEH_WITH_TWO_DOTS_BELOW_AND_SMALL_NOON_ABOVE
AFRICAN_FEH;AFRICAN_QAF;AFRICAN_NOON;PEH_WITH_SMALL_V;TEH_WITH_SMALL_V;TTEH_WITH_SMALL_V
TCHEH_WITH_SMALL_V;KEHEH_WITH_SMALL_V;GHAIN_WITH_THREE_DOTS_ABOVE;AFRICAN_QAF_WITH_THREE_DOTS_ABOVE
JEEM_WITH_THREE_DOTS_ABOVE;JEEM_WITH_THREE_DOTS_BELOW;LAM_WITH_SMALL_ARABIC_LETTER_TAH_ABOVE;GRAF
8c9=ARABIC_SMALL_;FARSI_YEH;HIGH_FARSI_YEH;HIGH_YEH_BARREE_WITH_TWO_DOTS_BELOW;HIGH_WORD_SAH
HIGH_ZAH;8ce=ARABIC_LARGE_ROUND_DOT_;ABOVE;BELOW;8d0=ARABIC_;SUKUN_BELOW;LARGE_CIRCLE_BELOW
LARGE_ROUND_DOT_INSIDE_CIRCLE_BELOW;8d3=ARABIC_SMALL_;LOW_WAW;HIGH_WORD_AR-RUB;HIGH_SAD;HIGH_AIN
HIGH_QAF;HIGH_NOON_WITH_KASRA;LOW_NOON_WITH_KASRA
8da=ARABIC_SMALL_HIGH_WORD_;ATH-THALATHA;AS-SAJDA;AN-NISF;SAKTA;QIF;WAQFA
8e0=ARABIC_;SMALL_HIGH_FOOTNOTE_MARKER;SMALL_HIGH_SIGN_SAFHA;DISPUTED_END_OF_AYAH;TURNED_DAMMA_BELOW
8e4=ARABIC_CURLY_;FATHA;DAMMA;KASRA;FATHATAN;DAMMATAN;KASRATAN
8ea=ARABIC_TONE_;ONE_DOT_ABOVE;TWO_DOTS_ABOVE;LOOP_ABOVE;ONE_DOT_BELOW;TWO_DOTS_BELOW;LOOP_BELOW
8f0=ARABIC_;OPEN_FATHATAN;OPEN_DAMMATAN;OPEN_KASRATAN;SMALL_HIGH_WAW;FATHA_WITH_RING
FATHA_WITH_DOT_ABOVE;KASRA_WITH_DOT_BELOW;LEFT_ARROWHEAD_ABOVE;RIGHT_ARROWHEAD_ABOVE
LEFT_ARROWHEAD_BELOW;RIGHT_ARROWHEAD_BELOW;DOUBLE_RIGHT_ARROWHEAD_ABOVE
DOUBLE_RIGHT_ARROWHEAD_ABOVE_WITH_DOT;RIGHT_ARROWHEAD_ABOVE_WITH_DOT;DAMMA_WITH_DOT
MARK_SIDEWAYS_NOON_GHUNNA;900=DEVANAGARI_SIGN_;INVERTED_CANDRABINDU;CANDRABINDU;ANUSVARA;VISARGA
904=DEVANAGARI_LETTER_;SHORT_A;A;AA;I;II;U;UU;VOCALIC_R;VOCALIC_L;CANDRA_E;SHORT_E;E;AI;CANDRA_O
SHORT_O;O;AU;KA;KHA;GA;GHA;NGA;CA;CHA;JA;JHA;NYA;TTA;TTHA;DDA;DDHA;NNA;TA;THA;DA;DHA;NA;NNNA;PA;PHA
BA;BHA;MA;YA;RA;RRA;LA;LLA;LLLA;VA;SHA;SSA;SA;HA
93a=DEVANAGARI_;VOWEL_SIGN_OE;VOWEL_SIGN_OOE;SIGN_NUKTA;SIGN_AVAGRAHA
93e=DEVANAGARI_VOWEL_SIGN_;AA;I;II;U;UU;VOCALIC_R;VOCALIC_RR;CANDRA_E;SHORT_E;E;AI;CANDRA_O;SHORT_O
O;AU;94d=DEVANAGARI_;SIGN_VIRAMA;VOWEL_SIGN_PRISHTHAMATRA_E;VOWEL_SIGN_AW;OM;STRESS_SIGN_UDATTA
STRESS_SIGN_ANUDATTA;GRAVE_ACCENT;ACUTE_ACCENT
955=DEVANAGARI_VOWEL_SIGN_;CANDRA_LONG_E;UE;UUE
958=DEVANAGARI_LETTER_;QA;KHHA;GHHA;ZA;DDDHA;RHA;FA;YYA;VOCALIC_RR;VOCALIC_LL
962=DEVANAGARI_VOWEL_SIGN_VOCALIC_;L;LL;964=DEVANAGARI_;DANDA;DOUBLE_DANDA
966=DEVANAGARI_DIGIT_;ZERO;ONE;TWO;THREE;FOUR;FIVE;SIX;SEVEN;EIGHT;NINE
970=DEVANAGARI_;ABBREVIATION_SIGN;SIGN_HIGH_SPACING_DOT
972=DEVANAGARI_LETTER_;CANDRA_A;OE;OOE;AW;UE;UUE;MARWARI_DDA;ZHA;HEAVY_YA;GGA;JJA;GLOTTAL_STOP;DDDA
BBA;980=BENGALI_;ANJI;SIGN_CANDRABINDU;SIGN_ANUSVARA;SIGN_VISARGA
985=BENGALI_LETTER_;A;AA;I;II;U;UU;VOCALIC_R;VOCALIC_L
98f=BENGALI_LETTER_;E;AI;993=BENGALI_LETTER_;O;AU;KA;KHA;GA;GHA;NGA;CA;CHA;JA;JHA;NYA;TTA;TTHA;DDA
DDHA;NNA;TA;THA;DA;DHA;NA;9aa=BENGALI_LETTER_;PA;PHA;BA;BHA;MA;YA;RA
9b2=;BENGALI_LETTER_LA;9b6=BENGALI_LETTER_;SHA;SSA;SA;HA
9bc=BENGALI_SIGN_;NUKTA;AVAGRAHA;9be=BENGALI_VOWEL_SIGN_;AA;I;II;U;UU;VOCALIC_R;VOCALIC_RR
9c7=BENGALI_VOWEL_SIGN_;E;AI;9cb=BENGALI_;VOWEL_SIGN_O;VOWEL_SIGN_AU;SIGN_VIRAMA;LETTER_KHANDA_TA
9d7=;BENGALI_AU_LENGTH_MARK;9dc=BENGALI_LETTER_;RRA;RHA
9df=BENGALI_LETTER_;YYA;VOCALIC_RR;VOCALIC_LL
9e2=BENGALI_VOWEL_SIGN_VOCALIC_;L;LL;9e6=BENGALI_DIGIT_;ZERO;ONE;TWO;THREE;FOUR;FIVE;SIX;SEVEN;EIGHT
NINE;9f0=BENGALI_LETTER_RA_WITH_;MIDDLE_DIAGONAL;LOWER_DIAGONAL
9f2=BENGALI_RUPEE_;MARK;SIGN;9f4=BENGALI_CURRENCY_NUMERATOR_;ONE;TWO;THREE;FOUR
ONE_LESS_THAN_THE_DENOMINATOR;9f9=BENGALI_;CURRENCY_DENOMINATOR_SIXTEEN;ISSHAR;GANDA_MARK
LETTER_VEDIC_ANUSVARA;ABBREVIATION_SIGN;SANDHI_MARK
a01=GURMUKHI_SIGN_;ADAK_BINDI;BINDI;VISARGA
a05=GURMUKHI_LETTER_;A;AA;I;II;U;UU;a0f=GURMUKHI_LETTER_;EE;AI
a13=GURMUKHI_LETTER_;OO;AU;KA;KHA;GA;GHA;NGA;CA;CHA;JA;JHA;NYA;TTA;TTHA;DDA;DDHA;NNA;TA;THA;DA;DHA
NA;a2a=GURMUKHI_LETTER_;PA;PHA;BA;BHA;MA;YA;RA
a32=GURMUKHI_LETTER_;LA;LLA;a35=GURMUKHI_LETTER_;VA;SHA
a38=GURMUKHI_LETTER_;SA;HA;a3c=;GURMUKHI_SIGN_NUKTA
a3e=GURMUKHI_VOWEL_SIGN_;AA;I;II;U;UU
a47=GURMUKHI_VOWEL_SIGN_;EE;AI;a4b=GURMUKHI_;VOWEL_SIGN_OO;VOWEL_SIGN_AU;SIGN_VIRAMA
a51=;GURMUKHI_SIGN_UDAAT;a59=GURMUKHI_LETTER_;KHHA;GHHA;ZA;RRA
a5e=;GURMUKHI_LETTER_FA;a66=GURMUKHI_DIGIT_;ZERO;ONE;TWO;THREE;FOUR;FIVE;SIX;SEVEN;EIGHT;NINE
a70=GURMUKHI_;TIPPI;ADDAK;IRI;URA;EK_ONKAR;SIGN_YAKASH;ABBREVIATION_SIGN
a81=GUJARATI_SIGN_;CANDRABINDU;ANUSVARA;VISARGA
a85=GUJARATI_LETTER_;A;AA;I;II;U;UU;VOCALIC_R;VOCALIC_L;a8d=;GUJARATI_VOWEL_CANDRA_E
a8f=GUJARATI_;LETTER_E;LETTER_AI;VOWEL_CANDRA_O
a93=GUJARATI_LETTER_;O;AU;KA;KHA;GA;GHA;NGA;CA;CHA;JA;JHA;NYA;TTA;TTHA;DDA;DDHA;NNA;TA;THA;DA;DHA;NA
aaa=GUJARATI_LETTER_;PA;PHA;BA;BHA;MA;YA;RA
ab2=GUJARATI_LETTER_;LA;LLA;ab5=GUJARATI_LETTER_;VA;SHA;SSA;SA;HA
abc=GUJARATI_SIGN_;NUKTA;AVAGRAHA;abe=GUJARATI_VOWEL_SIGN_;AA;I;II;U;UU;VOCALIC_R;VOCALIC_RR
CANDRA_E;ac7=GUJARATI_VOWEL_SIGN_;E;AI;CANDRA_O
acb=GUJARATI_;VOWEL_SIGN_O;VOWEL_SIGN_AU;SIGN_VIRAMA;ad0=;GUJARATI_OM
ae0=GUJARATI_LETTER_VOCALIC_;RR;LL
ae2=GUJARATI_VOWEL_SIGN_VOCALIC_;L;LL;ae6=GUJARATI_DIGIT_;ZERO;ONE;TWO;THREE;FOUR;FIVE;SIX;SEVEN
EIGHT;NINE;af0=GUJARATI_;ABBREVIATION_SIGN;RUPEE_SIGN;af9=;GUJARATI_LETTER_ZHA
afa=GUJARATI_SIGN_;SUKUN;SHADDA;MADDAH;THREE-DOT_NUKTA_ABOVE;CIRCLE_NUKTA_ABOVE
TWO-CIRCLE_NUKTA_ABOVE;b01=ORIYA_SIGN_;CANDRABINDU;ANUSVARA;VISARGA
b05=ORIYA_LETTER_;A;AA;I;II;U;UU;VOCALIC_R;VOCALIC_L
b0f=ORIYA_LETTER_;E;AI;b13=ORIYA_LETTER_;O;AU;KA;KHA;GA;GHA;NGA;CA;CHA;JA;JHA;NYA;TTA;TTHA;DDA;DDHA
NNA;TA;THA;DA;DHA;NA;b2a=ORIYA_LETTER_;PA;PHA;BA;BHA;MA;YA;RA
b32=ORIYA_LETTER_;LA;LLA;b35=ORIYA_LETTER_;VA;SHA;SSA;SA;HA
b3c=ORIYA_SIGN_;NUKTA;AVAGRAHA;b3e=ORIYA_VOWEL_SIGN_;AA;I;II;U;UU;VOCALIC_R;VOCALIC_RR
b47=ORIYA_VOWEL_SIGN_;E;AI;b4b=ORIYA_;VOWEL_SIGN_O;VOWEL_SIGN_AU;SIGN_VIRAMA
b55=ORIYA_;SIGN_OVERLINE;AI_LENGTH_MARK;AU_LENGTH_MARK
b5c=ORIYA_LETTER_;RRA;RHA;b5f=ORIYA_LETTER_;YYA;VOCALIC_RR;VOCALIC_LL
b62=ORIYA_VOWEL_SIGN_VOCALIC_;L;LL;b66=ORIYA_DIGIT_;ZERO;ONE;TWO;THREE;FOUR;FIVE;SIX;SEVEN;EIGHT
NINE;b70=ORIYA_;ISSHAR;LETTER_WA;b72=ORIYA_FRACTION_;ONE_QUARTER;ONE_HALF;THREE_QUARTERS
ONE_SIXTEENTH;ONE_EIGHTH;THREE_SIXTEENTHS;b82=TAMIL_SIGN_;ANUSVARA;VISARGA
b85=TAMIL_LETTER_;A;AA;I;II;U;UU;b8e=TAMIL_LETTER_;E;EE;AI
b92=TAMIL_LETTER_;O;OO;AU;KA;b99=TAMIL_LETTER_;NGA;CA;b9c=;TAMIL_LETTER_JA
b9e=TAMIL_LETTER_;NYA;TTA;ba3=TAMIL_LETTER_;NNA;TA
ba8=TAMIL_LETTER_;NA;NNNA;PA;bae=TAMIL_LETTER_;MA;YA;RA;RRA;LA;LLA;LLLA;VA;SHA;SSA;SA;HA
bbe=TAMIL_VOWEL_SIGN_;AA;I;II;U;UU;bc6=TAMIL_VOWEL_SIGN_;E;EE;AI
bca=TAMIL_VOWEL_SIGN_;O;OO;AU;bcd=;TAMIL_SIGN_VIRAMA;bd0=;TAMIL_OM
bd7=;TAMIL_AU_LENGTH_MARK;be6=TAMIL_DIGIT_;ZERO;ONE;TWO;THREE;FOUR;FIVE;SIX;SEVEN;EIGHT;NINE
bf0=TAMIL_NUMBER_;TEN;ONE_HUNDRED;ONE_THOUSAND;bf3=TAMIL_;DAY_SIGN;MONTH_SIGN;YEAR_SIGN;DEBIT_SIGN
CREDIT_SIGN;AS_ABOVE_SIGN;RUPEE_SIGN;NUMBER_SIGN
c00=TELUGU_SIGN_;COMBINING_CANDRABINDU_ABOVE;CANDRABINDU;ANUSVARA;VISARGA;COMBINING_ANUSVARA_ABOVE
c05=TELUGU_LETTER_;A;AA;I;II;U;UU;VOCALIC_R;VOCALIC_L
c0e=TELUGU_LETTER_;E;EE;AI;c12=TELUGU_LETTER_;O;OO;AU;KA;KHA;GA;GHA;NGA;CA;CHA;JA;JHA;NYA;TTA;TTHA
DDA;DDHA;NNA;TA;THA;DA;DHA;NA;c2a=TELUGU_LETTER_;PA;PHA;BA;BHA;MA;YA;RA;RRA;LA;LLA;LLLA;VA;SHA;SSA
SA;HA;c3c=TELUGU_SIGN_;NUKTA;AVAGRAHA;c3e=TELUGU_VOWEL_SIGN_;AA;I;II;U;UU;VOCALIC_R;VOCALIC_RR
c46=TELUGU_VOWEL_SIGN_;E;EE;AI;c4a=TELUGU_VOWEL_SIGN_;O;OO;AU
c4d=;TELUGU_SIGN_VIRAMA;c55=TELUGU_;LENGTH_MARK;AI_LENGTH_MARK
c58=TELUGU_LETTER_;TSA;DZA;RRRA;c5d=;TELUGU_LETTER_NAKAARA_POLLU
c60=TELUGU_LETTER_VOCALIC_;RR;LL
c62=TELUGU_VOWEL_SIGN_VOCALIC_;L;LL;c66=TELUGU_DIGIT_;ZERO;ONE;TWO;THREE;FOUR;FIVE;SIX;SEVEN;EIGHT
NINE;c77=;TELUGU_SIGN_SIDDHAM;c78=TELUGU_FRACTION_DIGIT_;ZERO_FOR_ODD_POWERS_OF_FOUR
ONE_FOR_ODD_POWERS_OF_FOUR;TWO_FOR_ODD_POWERS_OF_FOUR;THREE_FOR_ODD_POWERS_OF_FOUR
ONE_FOR_EVEN_POWERS_OF_FOUR;TWO_FOR_EVEN_POWERS_OF_FOUR;THREE_FOR_EVEN_POWERS_OF_FOUR
c7f=;TELUGU_SIGN_TUUMU;c80=KANNADA_SIGN_;SPACING_CANDRABINDU;CANDRABINDU;ANUSVARA;VISARGA;SIDDHAM
c85=KANNADA_LETTER_;A;AA;I;II;U;UU;VOCALIC_R;VOCALIC_L
c8e=KANNADA_LETTER_;E;EE;AI;c92=KANNADA_LETTER_;O;OO;AU;KA;KHA;GA;GHA;NGA;CA;CHA;JA;JHA;NYA;TTA;TTHA
DDA;DDHA;NNA;TA;THA;DA;DHA;NA;caa=KANNADA_LETTER_;PA;PHA;BA;BHA;MA;YA;RA;RRA;LA;LLA
cb5=KANNADA_LETTER_;VA;SHA;SSA;SA;HA;cbc=KANNADA_SIGN_;NUKTA;AVAGRAHA
cbe=KANNADA_VOWEL_SIGN_;AA;I;II;U;UU;VOCALIC_R;VOCALIC_RR
cc6=KANNADA_VOWEL_SIGN_;E;EE;AI;cca=KANNADA_VOWEL_SIGN_;O;OO;AU
ccd=;KANNADA_SIGN_VIRAMA;cd5=KANNADA_;LENGTH_MARK;AI_LENGTH_MARK
cdd=KANNADA_LETTER_;NAKAARA_POLLU;FA
ce0=KANNADA_LETTER_VOCALIC_;RR;LL
ce2=KANNADA_VOWEL_SIGN_VOCALIC_;L;LL;ce6=KANNADA_DIGIT_;ZERO;ONE;TWO;THREE;FOUR;FIVE;SIX;SEVEN;EIGHT
NINE;cf1=KANNADA_SIGN_;JIHVAMULIYA;UPADHMANIYA
d00=MALAYALAM_SIGN_;COMBINING_ANUSVARA_ABOVE;CANDRABINDU;ANUSVARA;VISARGA
d04=MALAYALAM_LETTER_;VEDIC_ANUSVARA;A;AA;I;II;U;UU;VOCALIC_R;VOCALIC_L
d0e=MALAYALAM_LETTER_;E;EE;AI;d12=MALAYALAM_LETTER_;O;OO;AU;KA;KHA;GA;GHA;NGA;CA;CHA;JA;JHA;NYA;TTA
TTHA;DDA;DDHA;NNA;TA;THA;DA;DHA;NA;NNNA;PA;PHA;BA;BHA;MA;YA;RA;RRA;LA;LLA;LLLA;VA;SHA;SSA;SA;HA;TTTA
d3b=MALAYALAM_SIGN_;VERTICAL_BAR_VIRAMA;CIRCULAR_VIRAMA;AVAGRAHA
d3e=MALAYALAM_VOWEL_SIGN_;AA;I;II;U;UU;VOCALIC_R;VOCALIC_RR
d46=MALAYALAM_VOWEL_SIGN_;E;EE;AI;d4a=MALAYALAM_VOWEL_SIGN_;O;OO;AU
d4d=MALAYALAM_;SIGN_VIRAMA;LETTER_DOT_REPH;SIGN_PARA
d54=MALAYALAM_LETTER_CHILLU_;M;Y;LLL;d57=;MALAYALAM_AU_LENGTH_MARK
d58=MALAYALAM_FRACTION_;ONE_ONE-HUNDRED-AND-SIXTIETH;ONE_FORTIETH;THREE_EIGHTIETHS;ONE_TWENTIETH
ONE_TENTH;THREE_TWENTIETHS;ONE_FIFTH;d5f=MALAYALAM_LETTER_;ARCHAIC_II;VOCALIC_RR;VOCALIC_LL
d62=MALAYALAM_VOWEL_SIGN_VOCALIC_;L;LL;d66=MALAYALAM_DIGIT_;ZERO;ONE;TWO;THREE;FOUR;FIVE;SIX;SEVEN
EIGHT;NINE;d70=MALAYALAM_NUMBER_;TEN;ONE_HUNDRED;ONE_THOUSAND
d73=MALAYALAM_FRACTION_;ONE_QUARTER;ONE_HALF;THREE_QUARTERS;ONE_SIXTEENTH;ONE_EIGHTH
THREE_SIXTEENTHS;d79=;MALAYALAM_DATE_MARK
d7a=MALAYALAM_LETTER_CHILLU_;NN;N;RR;L;LL;K
d81=SINHALA_SIGN_;CANDRABINDU;ANUSVARAYA;VISARGAYA
d85=SINHALA_LETTER_;AYANNA;AAYANNA;AEYANNA;AEEYANNA;IYANNA;IIYANNA;UYANNA;UUYANNA;IRUYANNA;IRUUYANNA
ILUYANNA;ILUUYANNA;EYANNA;EEYANNA;AIYANNA;OYANNA;OOYANNA;AUYANNA
d9a=SINHALA_LETTER_;ALPAPRAANA_KAYANNA;MAHAAPRAANA_KAYANNA;ALPAPRAANA_GAYANNA;MAHAAPRAANA_GAYANNA
KANTAJA_NAASIKYAYA;SANYAKA_GAYANNA;ALPAPRAANA_CAYANNA;MAHAAPRAANA_CAYANNA;ALPAPRAANA_JAYANNA
MAHAAPRAANA_JAYANNA;TAALUJA_NAASIKYAYA;TAALUJA_SANYOOGA_NAAKSIKYAYA;SANYAKA_JAYANNA
ALPAPRAANA_TTAYANNA;MAHAAPRAANA_TTAYANNA;ALPAPRAANA_DDAYANNA;MAHAAPRAANA_DDAYANNA;MUURDHAJA_NAYANNA
SANYAKA_DDAYANNA;ALPAPRAANA_TAYANNA;MAHAAPRAANA_TAYANNA;ALPAPRAANA_DAYANNA;MAHAAPRAANA_DAYANNA
DANTAJA_NAYANNA;db3=SINHALA_LETTER_;SANYAKA_DAYANNA;ALPAPRAANA_PAYANNA;MAHAAPRAANA_PAYANNA
ALPAPRAANA_BAYANNA;MAHAAPRAANA_BAYANNA;MAYANNA;AMBA_BAYANNA;YAYANNA;RAYANNA
dbd=;SINHALA_LETTER_DANTAJA_LAYANNA;dc0=SINHALA_LETTER_;VAYANNA;TAALUJA_SAYANNA;MUURDHAJA_SAYANNA
DANTAJA_SAYANNA;HAYANNA;MUURDHAJA_LAYANNA;FAYANNA;dca=;SINHALA_SIGN_AL-LAKUNA
dcf=SINHALA_VOWEL_SIGN_;AELA-PILLA;KETTI_AEDA-PILLA;DIGA_AEDA-PILLA;KETTI_IS-PILLA;DIGA_IS-PILLA
KETTI_PAA-PILLA;dd6=;SINHALA_VOWEL_SIGN_DIGA_PAA-PILLA
dd8=SINHALA_VOWEL_SIGN_;GAETTA-PILLA;KOMBUVA;DIGA_KOMBUVA;KOMBU_DEKA;KOMBUVA_HAA_AELA-PILLA
KOMBUVA_HAA_DIGA_AELA-PILLA;KOMBUVA_HAA_GAYANUKITTA;GAYANUKITTA
de6=SINHALA_LITH_DIGIT_;ZERO;ONE;TWO;THREE;FOUR;FIVE;SIX;SEVEN;EIGHT;NINE
df2=SINHALA_VOWEL_SIGN_DIGA_;GAETTA-PILLA;GAYANUKITTA;df4=;SINHALA_PUNCTUATION_KUNDDALIYA
e01=THAI_CHARACTER_;KO_KAI;KHO_KHAI;KHO_KHUAT;KHO_KHWAI;KHO_KHON;KHO_RAKHANG;NGO_NGU;CHO_CHAN
CHO_CHING;CHO_CHANG;SO_SO;CHO_CHOE;YO_YING;DO_CHADA;TO_PATAK;THO_THAN;THO_NANGMONTHO;THO_PHUTHAO
NO_NEN;DO_DEK;TO_TAO;THO_THUNG;THO_THAHAN;THO_THONG;NO_NU;BO_BAIMAI;PO_PLA;PHO_PHUNG;FO_FA;PHO_PHAN
FO_FAN;PHO_SAMPHAO;MO_MA;YO_YAK;RO_RUA;RU;LO_LING;LU;WO_WAEN;SO_SALA;SO_RUSI;SO_SUA;HO_HIP;LO_CHULA
O_ANG;HO_NOKHUK;PAIYANNOI;SARA_A;MAI_HAN-AKAT;SARA_AA;SARA_AM;SARA_I;SARA_II;SARA_UE;SARA_UEE;SARA_U
SARA_UU;PHINTHU;e3f=;THAI_CURRENCY_SYMBOL_BAHT
e40=THAI_CHARACTER_;SARA_E;SARA_AE;SARA_O;SARA_AI_MAIMUAN;SARA_AI_MAIMALAI;LAKKHANGYAO;MAIYAMOK
MAITAIKHU;MAI_EK;MAI_THO;MAI_TRI;MAI_CHATTAWA;THANTHAKHAT;NIKHAHIT;YAMAKKAN;FONGMAN
e50=THAI_DIGIT_;ZERO;ONE;TWO;THREE;FOUR;FIVE;SIX;SEVEN;EIGHT;NINE
e5a=THAI_CHARACTER_;ANGKHANKHU;KHOMUT;e81=LAO_LETTER_;KO;KHO_SUNG
e84=;LAO_LETTER_KHO_TAM;e86=LAO_LETTER_;PALI_GHA;NGO;CO;PALI_CHA;SO_TAM
e8c=LAO_LETTER_;PALI_JHA;NYO;PALI_NYA;PALI_TTA;PALI_TTHA;PALI_DDA;PALI_DDHA;PALI_NNA;DO;TO;THO_SUNG
THO_TAM;PALI_DHA;NO;BO;PO;PHO_SUNG;FO_TAM;PHO_TAM;FO_SUNG;PALI_BHA;MO;YO;LO_LING
ea5=;LAO_LETTER_LO_LOOT;ea7=LAO_LETTER_;WO;SANSKRIT_SHA;SANSKRIT_SSA;SO_SUNG;HO_SUNG;PALI_LLA;O
HO_TAM;eaf=;LAO_ELLIPSIS;eb0=LAO_VOWEL_SIGN_;A;MAI_KAN;AA;AM;I;II;Y;YY;U;UU
eba=LAO_;SIGN_PALI_VIRAMA;VOWEL_SIGN_MAI_KON
ebc=LAO_SEMIVOWEL_SIGN_;LO;NYO;ec0=LAO_VOWEL_SIGN_;E;EI;O;AY;AI
ec6=;LAO_KO_LA;ec8=LAO_TONE_MAI_;EK;THO;TI;CATAWA;ecc=LAO_;CANCELLATION_MARK;NIGGAHITA
ed0=LAO_DIGIT_;ZERO;ONE;TWO;THREE;FOUR;FIVE;SIX;SEVEN;EIGHT;NINE
edc=LAO_HO_;NO;MO;ede=LAO_LETTER_KHMU_;GO;NYO;f00=;TIBETAN_SYLLABLE_OM
f01=TIBETAN_MARK_GTER_YIG_MGO_;TRUNCATED_A;-UM_RNAM_BCAD_MA;-UM_GTER_TSHEG_MA
f04=TIBETAN_MARK_;INITIAL_YIG_MGO_MDUN_MA;CLOSING_YIG_MGO_SGAB_MA;CARET_YIG_MGO_PHUR_SHAD_MA
YIG_MGO_TSHEG_SHAD_MA;SBRUL_SHAD;BSKUR_YIG_MGO;BKA-_SHOG_YIG_MGO;INTERSYLLABIC_TSHEG
DELIMITER_TSHEG_BSTAR;SHAD;NYIS_SHAD;TSHEG_SHAD;NYIS_TSHEG_SHAD;RIN_CHEN_SPUNGS_SHAD;RGYA_GRAM_SHAD
CARET_-DZUD_RTAGS_ME_LONG_CAN;GTER_TSHEG
f15=TIBETAN_LOGOTYPE_SIGN_;CHAD_RTAGS;LHAG_RTAGS
f17=TIBETAN_ASTROLOGICAL_SIGN_;SGRA_GCAN_-CHAR_RTAGS;-KHYUD_PA;SDONG_TSHUGS
f1a=TIBETAN_SIGN_RDEL_;DKAR_GCIG;DKAR_GNYIS;DKAR_GSUM;NAG_GCIG;NAG_GNYIS;DKAR_RDEL_NAG
f20=TIBETAN_DIGIT_;ZERO;ONE;TWO;THREE;FOUR;FIVE;SIX;SEVEN;EIGHT;NINE
f2a=TIBETAN_DIGIT_HALF_;ONE;TWO;THREE;FOUR;FIVE;SIX;SEVEN;EIGHT;NINE;ZERO
f34=TIBETAN_MARK_;BSDUS_RTAGS;NGAS_BZUNG_NYI_ZLA;CARET_-DZUD_RTAGS_BZHI_MIG_CAN
NGAS_BZUNG_SGOR_RTAGS;CHE_MGO;TSA_-PHRU;GUG_RTAGS_GYON;GUG_RTAGS_GYAS;ANG_KHANG_GYON;ANG_KHANG_GYAS
f3e=TIBETAN_SIGN_;YAR_TSHES;MAR_TSHES;f40=TIBETAN_LETTER_;KA;KHA;GA;GHA;NGA;CA;CHA;JA
f49=TIBETAN_LETTER_;NYA;TTA;TTHA;DDA;DDHA;NNA;TA;THA;DA;DHA;NA;PA;PHA;BA;BHA;MA;TSA;TSHA;DZA;DZHA;WA
ZHA;ZA;-A;YA;RA;LA;SHA;SSA;SA;HA;A;KSSA;FIXED-FORM_RA;KKA;RRA
f71=TIBETAN_VOWEL_SIGN_;AA;I;II;U;UU;VOCALIC_R;VOCALIC_RR;VOCALIC_L;VOCALIC_LL;E;EE;O;OO
f7e=TIBETAN_;SIGN_RJES_SU_NGA_RO;SIGN_RNAM_BCAD;VOWEL_SIGN_REVERSED_I;VOWEL_SIGN_REVERSED_II
SIGN_NYI_ZLA_NAA_DA;SIGN_SNA_LDAN;MARK_HALANTA;MARK_PALUTA
f86=TIBETAN_SIGN_;LCI_RTAGS;YANG_RTAGS;LCE_TSA_CAN;MCHU_CAN;GRU_CAN_RGYINGS;GRU_MED_RGYINGS
INVERTED_MCHU_CAN;f8d=TIBETAN_SUBJOINED_SIGN_;LCE_TSA_CAN;MCHU_CAN;INVERTED_MCHU_CAN
f90=TIBETAN_SUBJOINED_LETTER_;KA;KHA;GA;GHA;NGA;CA;CHA;JA
f99=TIBETAN_SUBJOINED_LETTER_;NYA;TTA;TTHA;DDA;DDHA;NNA;TA;THA;DA;DHA;NA;PA;PHA;BA;BHA;MA;TSA;TSHA
DZA;DZHA;WA;ZHA;ZA;-A;YA;RA;LA;SHA;SSA;SA;HA;A;KSSA;FIXED-FORM_WA;FIXED-FORM_YA;FIXED-FORM_RA
fbe=TIBETAN_KU_RU_;KHA;KHA_BZHI_MIG_CAN
fc0=TIBETAN_CANTILLATION_SIGN_;HEAVY_BEAT;LIGHT_BEAT;CANG_TE-U;SBUB_-CHAL
fc4=TIBETAN_SYMBOL_;DRIL_BU;RDO_RJE;PADMA_GDAN;RDO_RJE_RGYA_GRAM;PHUR_PA;NOR_BU;NOR_BU_NYIS_-KHYIL
NOR_BU_GSUM_-KHYIL;NOR_BU_BZHI_-KHYIL
fce=TIBETAN_SIGN_RDEL_NAG_;RDEL_DKAR;GSUM;fd0=TIBETAN_MARK_;BSKA-_SHOG_GI_MGO_RGYAN
MNYAM_YIG_GI_MGO_RGYAN;NYIS_TSHEG;INITIAL_BRDA_RNYING_YIG_MGO_MDUN_MA
CLOSING_BRDA_RNYING_YIG_MGO_SGAB_MA;fd5=;RIGHT-FACING_SVASTI_SIGN;LEFT-FACING_SVASTI_SIGN
RIGHT-FACING_SVASTI_SIGN_WITH_DOTS;LEFT-FACING_SVASTI_SIGN_WITH_DOTS
fd9=TIBETAN_MARK_;LEADING_MCHAN_RTAGS;TRAILING_MCHAN_RTAGS
1000=MYANMAR_LETTER_;KA;KHA;GA;GHA;NGA;CA;CHA;JA;JHA;NYA;NNYA;TTA;TTHA;DDA;DDHA;NNA;TA;THA;DA;DHA;NA
PA;PHA;BA;BHA;MA;YA;RA;LA;WA;SA;HA;LLA;A;SHAN_A;I;II;U;UU;E;MON_E;O;AU
102b=MYANMAR_VOWEL_SIGN_;TALL_AA;AA;I;II;U;UU;E;AI;MON_II;MON_O;E_ABOVE
1036=MYANMAR_SIGN_;ANUSVARA;DOT_BELOW;VISARGA;VIRAMA;ASAT
103b=MYANMAR_CONSONANT_SIGN_MEDIAL_;YA;RA;WA;HA;103f=;MYANMAR_LETTER_GREAT_SA
1040=MYANMAR_DIGIT_;ZERO;ONE;TWO;THREE;FOUR;FIVE;SIX;SEVEN;EIGHT;NINE
104a=MYANMAR_SIGN_;LITTLE_SECTION;SECTION
104c=MYANMAR_SYMBOL_;LOCATIVE;COMPLETED;AFOREMENTIONED;GENITIVE
1050=MYANMAR_LETTER_;SHA;SSA;1052=MYANMAR_LETTER_VOCALIC_;R;RR;L;LL
1056=MYANMAR_VOWEL_SIGN_VOCALIC_;R;RR;L;LL
105a=MYANMAR_LETTER_MON_;NGA;JHA;BBA;BBE
105e=MYANMAR_CONSONANT_SIGN_MON_MEDIAL_;NA;MA;LA
1061=MYANMAR_;LETTER_SGAW_KAREN_SHA;VOWEL_SIGN_SGAW_KAREN_EU
1063=MYANMAR_TONE_MARK_SGAW_KAREN_;HATHI;KE_PHO
1065=MYANMAR_LETTER_WESTERN_PWO_KAREN_;THA;PWA
1067=MYANMAR_VOWEL_SIGN_WESTERN_PWO_KAREN_;EU;UE
1069=MYANMAR_SIGN_WESTERN_PWO_KAREN_TONE-;1;2;3;4;5
106e=MYANMAR_LETTER_EASTERN_PWO_KAREN_;NNA;YWA;GHWA
1071=MYANMAR_VOWEL_SIGN_;GEBA_KAREN_I;KAYAH_OE;KAYAH_U;KAYAH_EE
1075=MYANMAR_LETTER_SHAN_;KA;KHA;GA;CA;ZA;NYA;DA;NA;PHA;FA;BA;THA;HA
1082=;MYANMAR_CONSONANT_SIGN_SHAN_MEDIAL_WA
1083=MYANMAR_VOWEL_SIGN_SHAN_;AA;E;E_ABOVE;FINAL_Y
1087=MYANMAR_SIGN_SHAN_TONE-;2;3;5;6
108b=MYANMAR_SIGN_SHAN_COUNCIL_;TONE-2;TONE-3;EMPHATIC_TONE
108e=MYANMAR_;LETTER_RUMAI_PALAUNG_FA;SIGN_RUMAI_PALAUNG_TONE-5
1090=MYANMAR_SHAN_DIGIT_;ZERO;ONE;TWO;THREE;FOUR;FIVE;SIX;SEVEN;EIGHT;NINE
109a=MYANMAR_SIGN_KHAMTI_TONE-;1;3
109c=MYANMAR_VOWEL_SIGN_AITON_;A;AI
109e=MYANMAR_SYMBOL_SHAN_;ONE;EXCLAMATION
10a0=GEORGIAN_CAPITAL_LETTER_;AN;BAN;GAN;DON;EN;VIN;ZEN;TAN;IN;KAN;LAS;MAN;NAR;ON;PAR;ZHAR;RAE;SAN
TAR;UN;PHAR;KHAR;GHAN;QAR;SHIN;CHIN;CAN;JIL;CIL;CHAR;XAN;JHAN;HAE;HE;HIE;WE;HAR;HOE
10c7=;GEORGIAN_CAPITAL_LETTER_YN;10cd=;GEORGIAN_CAPITAL_LETTER_AEN
10d0=GEORGIAN_LETTER_;AN;BAN;GAN;DON;EN;VIN;ZEN;TAN;IN;KAN;LAS;MAN;NAR;ON;PAR;ZHAR;RAE;SAN;TAR;UN
PHAR;KHAR;GHAN;QAR;SHIN;CHIN;CAN;JIL;CIL;CHAR;XAN;JHAN;HAE;HE;HIE;WE;HAR;HOE;FI;YN;ELIFI;TURNED_GAN
AIN;10fb=;GEORGIAN_PARAGRAPH_SEPARATOR;MODIFIER_LETTER_GEORGIAN_NAR
10fd=GEORGIAN_LETTER_;AEN;HARD_SIGN;LABIAL_SIGN
1100=HANGUL_CHOSEONG_;KIYEOK;SSANGKIYEOK;NIEUN;TIKEUT;SSANGTIKEUT;RIEUL;MIEUM;PIEUP;SSANGPIEUP;SIOS
SSANGSIOS;IEUNG;CIEUC;SSANGCIEUC;CHIEUCH;KHIEUKH;THIEUTH;PHIEUPH;HIEUH;NIEUN-KIYEOK;SSANGNIEUN
NIEUN-TIKEUT;NIEUN-PIEUP;TIKEUT-KIYEOK;RIEUL-NIEUN;SSANGRIEUL;RIEUL-HIEUH;KAPYEOUNRIEUL;MIEUM-PIEUP
KAPYEOUNMIEUM;111e=HANGUL_CHOSEONG_PIEUP-;KIYEOK;NIEUN;TIKEUT;SIOS;SIOS-KIYEOK;SIOS-TIKEUT
SIOS-PIEUP;SSANGSIOS;SIOS-CIEUC;CIEUC;CHIEUCH;THIEUTH;PHIEUPH
112b=HANGUL_CHOSEONG_;KAPYEOUNPIEUP;KAPYEOUNSSANGPIEUP
112d=HANGUL_CHOSEONG_SIOS-;KIYEOK;NIEUN;TIKEUT;RIEUL;MIEUM;PIEUP;PIEUP-KIYEOK;SSANGSIOS;IEUNG;CIEUC
CHIEUCH;KHIEUKH;THIEUTH;PHIEUPH;HIEUH;113c=HANGUL_CHOSEONG_;CHITUEUMSIOS;CHITUEUMSSANGSIOS
CEONGCHIEUMSIOS;CEONGCHIEUMSSANGSIOS;PANSIOS;IEUNG-KIYEOK;IEUNG-TIKEUT;IEUNG-MIEUM;IEUNG-PIEUP
IEUNG-SIOS;IEUNG-PANSIOS;SSANGIEUNG;IEUNG-CIEUC;IEUNG-CHIEUCH;IEUNG-THIEUTH;IEUNG-PHIEUPH;YESIEUNG
CIEUC-IEUNG;CHITUEUMCIEUC;CHITUEUMSSANGCIEUC;CEONGCHIEUMCIEUC;CEONGCHIEUMSSANGCIEUC;CHIEUCH-KHIEUKH
CHIEUCH-HIEUH;CHITUEUMCHIEUCH;CEONGCHIEUMCHIEUCH;PHIEUPH-PIEUP;KAPYEOUNPHIEUPH;SSANGHIEUH
YEORINHIEUH;KIYEOK-TIKEUT;NIEUN-SIOS;NIEUN-CIEUC;NIEUN-HIEUH;TIKEUT-RIEUL;FILLER
1160=HANGUL_JUNGSEONG_;FILLER;A;AE;YA;YAE;EO;E;YEO;YE;O;WA;WAE;OE;YO;U;WEO;WE;WI;YU;EU;YI;I;A-O;A-U
YA-O;YA-YO;EO-O;EO-U;EO-EU;YEO-O;YEO-U;O-EO;O-E;O-YE;O-O;O-U;YO-YA;YO-YAE;YO-YEO;YO-O;YO-I;U-A;U-AE
U-EO-EU;U-YE;U-U;YU-A;YU-EO;YU-E;YU-YEO;YU-YE;YU-U;YU-I;EU-U;EU-EU;YI-U;I-A;I-YA;I-O;I-U;I-EU
I-ARAEA;ARAEA;ARAEA-EO;ARAEA-U;ARAEA-I;SSANGARAEA;A-EU;YA-U;YEO-YA;O-YA;O-YAE
11a8=HANGUL_JONGSEONG_;KIYEOK;SSANGKIYEOK;KIYEOK-SIOS;NIEUN;NIEUN-CIEUC;NIEUN-HIEUH;TIKEUT;RIEUL
RIEUL-KIYEOK;RIEUL-MIEUM;RIEUL-PIEUP;RIEUL-SIOS;RIEUL-THIEUTH;RIEUL-PHIEUPH;RIEUL-HIEUH;MIEUM;PIEUP
PIEUP-SIOS;SIOS;SSANGSIOS;IEUNG;CIEUC;CHIEUCH;KHIEUKH;THIEUTH;PHIEUPH;HIEUH;KIYEOK-RIEUL
KIYEOK-SIOS-KIYEOK;NIEUN-KIYEOK;NIEUN-TIKEUT;NIEUN-SIOS;NIEUN-PANSIOS;NIEUN-THIEUTH;TIKEUT-KIYEOK
TIKEUT-RIEUL;RIEUL-KIYEOK-SIOS;RIEUL-NIEUN;RIEUL-TIKEUT;RIEUL-TIKEUT-HIEUH;SSANGRIEUL
11d1=HANGUL_JONGSEONG_RIEUL-;MIEUM-KIYEOK;MIEUM-SIOS;PIEUP-SIOS;PIEUP-HIEUH;KAPYEOUNPIEUP;SSANGSIOS
PANSIOS;KHIEUKH;YEORINHIEUH;11da=HANGUL_JONGSEONG_MIEUM-;KIYEOK;RIEUL;PIEUP;SIOS;SSANGSIOS;PANSIOS
CHIEUCH;HIEUH;11e2=HANGUL_JONGSEONG_;KAPYEOUNMIEUM;PIEUP-RIEUL;PIEUP-PHIEUPH;PIEUP-HIEUH
KAPYEOUNPIEUP;SIOS-KIYEOK;SIOS-TIKEUT;SIOS-RIEUL;SIOS-PIEUP;PANSIOS;IEUNG-KIYEOK;IEUNG-SSANGKIYEOK
SSANGIEUNG;IEUNG-KHIEUKH;YESIEUNG;YESIEUNG-SIOS;YESIEUNG-PANSIOS;PHIEUPH-PIEUP;KAPYEOUNPHIEUPH
HIEUH-NIEUN;HIEUH-RIEUL;HIEUH-MIEUM;HIEUH-PIEUP;YEORINHIEUH;KIYEOK-NIEUN;KIYEOK-PIEUP;KIYEOK-CHIEUCH
KIYEOK-KHIEUKH;KIYEOK-HIEUH;SSANGNIEUN
1200=ETHIOPIC_SYLLABLE_;HA;HU;HI;HAA;HEE;HE;HO;HOA;LA;LU;LI;LAA;LEE;LE;LO;LWA;HHA;HHU;HHI;HHAA;HHEE
HHE;HHO;HHWA;MA;MU;MI;MAA;MEE;ME;MO;MWA;SZA;SZU;SZI;SZAA;SZEE;SZE;SZO;SZWA;RA;RU;RI;RAA;REE;RE;RO
RWA;SA;SU;SI;SAA;SEE;SE;SO;SWA;SHA;SHU;SHI;SHAA;SHEE;SHE;SHO;SHWA;QA;QU;QI;QAA;QEE;QE;QO;QOA;QWA
124a=ETHIOPIC_SYLLABLE_;QWI;QWAA;QWEE;QWE
1250=ETHIOPIC_SYLLABLE_;QHA;QHU;QHI;QHAA;QHEE;QHE;QHO;1258=;ETHIOPIC_SYLLABLE_QHWA
125a=ETHIOPIC_SYLLABLE_;QHWI;QHWAA;QHWEE;QHWE
1260=ETHIOPIC_SYLLABLE_;BA;BU;BI;BAA;BEE;BE;BO;BWA;VA;VU;VI;VAA;VEE;VE;VO;VWA;TA;TU;TI;TAA;TEE;TE;TO
TWA;CA;CU;CI;CAA;CEE;CE;CO;CWA;XA;XU;XI;XAA;XEE;XE;XO;XOA;XWA
128a=ETHIOPIC_SYLLABLE_;XWI;XWAA;XWEE;XWE
1290=ETHIOPIC_SYLLABLE_;NA;NU;NI;NAA;NEE;NE;NO;NWA;NYA;NYU;NYI;NYAA;NYEE;NYE;NYO;NYWA
12a0=ETHIOPIC_SYLLABLE_GLOTTAL_;A;U;I;AA;EE;E;O;WA
12a8=ETHIOPIC_SYLLABLE_;KA;KU;KI;KAA;KEE;KE;KO;KOA;KWA
12b2=ETHIOPIC_SYLLABLE_;KWI;KWAA;KWEE;KWE
12b8=ETHIOPIC_SYLLABLE_;KXA;KXU;KXI;KXAA;KXEE;KXE;KXO;12c0=;ETHIOPIC_SYLLABLE_KXWA
12c2=ETHIOPIC_SYLLABLE_;KXWI;KXWAA;KXWEE;KXWE
12c8=ETHIOPIC_SYLLABLE_;WA;WU;WI;WAA;WEE;WE;WO;WOA
12d0=ETHIOPIC_SYLLABLE_PHARYNGEAL_;A;U;I;AA;EE;E;O
12d8=ETHIOPIC_SYLLABLE_;ZA;ZU;ZI;ZAA;ZEE;ZE;ZO;ZWA;ZHA;ZHU;ZHI;ZHAA;ZHEE;ZHE;ZHO;ZHWA;YA;YU;YI;YAA
YEE;YE;YO;YOA;DA;DU;DI;DAA;DEE;DE;DO;DWA;DDA;DDU;DDI;DDAA;DDEE;DDE;DDO;DDWA;JA;JU;JI;JAA;JEE;JE;JO
JWA;GA;GU;GI;GAA;GEE;GE;GO;GOA;GWA;1312=ETHIOPIC_SYLLABLE_;GWI;GWAA;GWEE;GWE
1318=ETHIOPIC_SYLLABLE_;GGA;GGU;GGI;GGAA;GGEE;GGE;GGO;GGWAA;THA;THU;THI;THAA;THEE;THE;THO;THWA;CHA
CHU;CHI;CHAA;CHEE;CHE;CHO;CHWA;PHA;PHU;PHI;PHAA;PHEE;PHE;PHO;PHWA;TSA;TSU;TSI;TSAA;TSEE;TSE;TSO;TSWA
TZA;TZU;TZI;TZAA;TZEE;TZE;TZO;TZOA;FA;FU;FI;FAA;FEE;FE;FO;FWA;PA;PU;PI;PAA;PEE;PE;PO;PWA;RYA;MYA;FYA
135d=ETHIOPIC_COMBINING_;GEMINATION_AND_VOWEL_LENGTH_MARK;VOWEL_LENGTH_MARK;GEMINATION_MARK
1360=ETHIOPIC_;SECTION_MARK;WORDSPACE;FULL_STOP;COMMA;SEMICOLON;COLON;PREFACE_COLON;QUESTION_MARK
PARAGRAPH_SEPARATOR;1369=ETHIOPIC_DIGIT_;ONE;TWO;THREE;FOUR;FIVE;SIX;SEVEN;EIGHT;NINE
1372=ETHIOPIC_NUMBER_;TEN;TWENTY;THIRTY;FORTY;FIFTY;SIXTY;SEVENTY;EIGHTY;NINETY;HUNDRED;TEN_THOUSAND
1380=ETHIOPIC_SYLLABLE_;SEBATBEIT_MWA;MWI;MWEE;MWE;SEBATBEIT_BWA;BWI;BWEE;BWE;SEBATBEIT_FWA;FWI;FWEE
FWE;SEBATBEIT_PWA;PWI;PWEE;PWE;1390=ETHIOPIC_TONAL_MARK_;YIZET;DERET;RIKRIK;SHORT_RIKRIK;DIFAT;KENAT
CHIRET;HIDET;DERET-HIDET;KURT;13a0=CHEROKEE_LETTER_;A;E;I;O;U;V;GA;KA;GE;GI;GO;GU;GV;HA;HE;HI;HO;HU
HV;LA;LE;LI;LO;LU;LV;MA;ME;MI;MO;MU;NA;HNA;NAH;NE;NI;NO;NU;NV;QUA;QUE;QUI;QUO;QUU;QUV;SA;S;SE;SI;SO
SU;SV;DA;TA;DE;TE;DI;TI;DO;DU;DV;DLA;TLA;TLE;TLI;TLO;TLU;TLV;TSA;TSE;TSI;TSO;TSU;TSV;WA;WE;WI;WO;WU
WV;YA;YE;YI;YO;YU;YV;MV;13f8=CHEROKEE_SMALL_LETTER_;YE;YI;YO;YU;YV;MV
1400=CANADIAN_SYLLABICS_;HYPHEN;E;AAI;I;II;O;OO;Y-CREE_OO;CARRIER_EE;CARRIER_I;A;AA;WE;WEST-CREE_WE
WI;WEST-CREE_WI;WII;WEST-CREE_WII;WO;WEST-CREE_WO;WOO;WEST-CREE_WOO;NASKAPI_WOO;WA;WEST-CREE_WA;WAA
WEST-CREE_WAA;NASKAPI_WAA;AI;Y-CREE_W;GLOTTAL_STOP
141f=CANADIAN_SYLLABICS_FINAL_;ACUTE;GRAVE;BOTTOM_HALF_RING;TOP_HALF_RING;RIGHT_HALF_RING;RING
DOUBLE_ACUTE;DOUBLE_SHORT_VERTICAL_STROKES;MIDDLE_DOT;SHORT_HORIZONTAL_STROKE;PLUS;DOWN_TACK
142b=CANADIAN_SYLLABICS_;EN;IN;ON;AN;PE;PAAI;PI;PII;PO;POO;Y-CREE_POO;CARRIER_HEE;CARRIER_HI;PA;PAA
PWE;WEST-CREE_PWE;PWI;WEST-CREE_PWI;PWII;WEST-CREE_PWII;PWO;WEST-CREE_PWO;PWOO;WEST-CREE_PWOO;PWA
WEST-CREE_PWA;PWAA;WEST-CREE_PWAA;Y-CREE_PWAA;P;WEST-CREE_P;CARRIER_H;TE;TAAI;TI;TII;TO;TOO
Y-CREE_TOO;CARRIER_DEE;CARRIER_DI;TA;TAA;TWE;WEST-CREE_TWE;TWI;WEST-CREE_TWI;TWII;WEST-CREE_TWII;TWO
WEST-CREE_TWO;TWOO;WEST-CREE_TWOO;TWA;WEST-CREE_TWA;TWAA;WEST-CREE_TWAA;NASKAPI_TWAA;T;TTE;TTI;TTO
TTA;KE;KAAI;KI;KII;KO;KOO;Y-CREE_KOO;KA;KAA;KWE;WEST-CREE_KWE;KWI;WEST-CREE_KWI;KWII;WEST-CREE_KWII
KWO;WEST-CREE_KWO;KWOO;WEST-CREE_KWOO;KWA;WEST-CREE_KWA;KWAA;WEST-CREE_KWAA;NASKAPI_KWAA;K;KW
SOUTH-SLAVEY_KEH;SOUTH-SLAVEY_KIH;SOUTH-SLAVEY_KOH;SOUTH-SLAVEY_KAH;CE;CAAI;CI;CII;CO;COO;Y-CREE_COO
CA;CAA;CWE;WEST-CREE_CWE;CWI;WEST-CREE_CWI;CWII;WEST-CREE_CWII;CWO;WEST-CREE_CWO;CWOO;WEST-CREE_CWOO
CWA;WEST-CREE_CWA;CWAA;WEST-CREE_CWAA;NASKAPI_CWAA;C;SAYISI_TH;ME;MAAI;MI;MII;MO;MOO;Y-CREE_MOO;MA
MAA;MWE;WEST-CREE_MWE;MWI;WEST-CREE_MWI;MWII;WEST-CREE_MWII;MWO;WEST-CREE_MWO;MWOO;WEST-CREE_MWOO
MWA;WEST-CREE_MWA;MWAA;WEST-CREE_MWAA;NASKAPI_MWAA;M;WEST-CREE_M;MH;ATHAPASCAN_M;SAYISI_M;NE;NAAI;NI
NII;NO;NOO;Y-CREE_NOO;NA;NAA;NWE;WEST-CREE_NWE;NWA;WEST-CREE_NWA;NWAA;WEST-CREE_NWAA;NASKAPI_NWAA;N
CARRIER_NG;NH;LE;LAAI;LI;LII;LO;LOO;Y-CREE_LOO;LA;LAA;LWE;WEST-CREE_LWE;LWI;WEST-CREE_LWI;LWII
WEST-CREE_LWII;LWO;WEST-CREE_LWO;LWOO;WEST-CREE_LWOO;LWA;WEST-CREE_LWA;LWAA;WEST-CREE_LWAA;L
WEST-CREE_L;MEDIAL_L;SE;SAAI;SI;SII;SO;SOO;Y-CREE_SOO;SA;SAA;SWE;WEST-CREE_SWE;SWI;WEST-CREE_SWI
SWII;WEST-CREE_SWII;SWO;WEST-CREE_SWO;SWOO;WEST-CREE_SWOO;SWA;WEST-CREE_SWA;SWAA;WEST-CREE_SWAA
NASKAPI_SWAA;S;ATHAPASCAN_S;SW;BLACKFOOT_S;MOOSE-CREE_SK;NASKAPI_SKW;NASKAPI_S-W;NASKAPI_SPWA
NASKAPI_STWA;NASKAPI_SKWA;NASKAPI_SCWA;SHE;SHI;SHII;SHO;SHOO;SHA;SHAA;SHWE;WEST-CREE_SHWE;SHWI
WEST-CREE_SHWI;SHWII;WEST-CREE_SHWII;SHWO;WEST-CREE_SHWO;SHWOO;WEST-CREE_SHWOO;SHWA;WEST-CREE_SHWA
SHWAA;WEST-CREE_SHWAA;SH;YE;YAAI;YI;YII;YO;YOO;Y-CREE_YOO;YA;YAA;YWE;WEST-CREE_YWE;YWI;WEST-CREE_YWI
YWII;WEST-CREE_YWII;YWO;WEST-CREE_YWO;YWOO;WEST-CREE_YWOO;YWA;WEST-CREE_YWA;YWAA;WEST-CREE_YWAA
NASKAPI_YWAA;Y;BIBLE-CREE_Y;WEST-CREE_Y;SAYISI_YI;RE;R-CREE_RE;WEST-CREE_LE;RAAI;RI;RII;RO;ROO
WEST-CREE_LO;RA;RAA;WEST-CREE_LA;RWAA;WEST-CREE_RWAA;R;WEST-CREE_R;MEDIAL_R;FE;FAAI;FI;FII;FO;FOO;FA
FAA;FWAA;WEST-CREE_FWAA;F;THE;N-CREE_THE;THI;N-CREE_THI;THII;N-CREE_THII;THO;THOO;THA;THAA;THWAA
WEST-CREE_THWAA;TH;TTHE;TTHI;TTHO;TTHA;TTH;TYE;TYI;TYO;TYA
1574=CANADIAN_SYLLABICS_NUNAVIK_;HE;HI;HII;HO;HOO;HA;HAA;H
157c=CANADIAN_SYLLABICS_;NUNAVUT_H;HK;QAAI;QI;QII;QO;QOO;QA;QAA;Q;TLHE;TLHI;TLHO;TLHA;WEST-CREE_RE
WEST-CREE_RI;WEST-CREE_RO;WEST-CREE_RA;NGAAI;NGI;NGII;NGO;NGOO;NGA;NGAA;NG;NNG;SAYISI_SHE;SAYISI_SHI
SAYISI_SHO;SAYISI_SHA;WOODS-CREE_THE;WOODS-CREE_THI;WOODS-CREE_THO;WOODS-CREE_THA;WOODS-CREE_TH;LHI
LHII;LHO;LHOO;LHA;LHAA;LH;15a7=CANADIAN_SYLLABICS_TH-CREE_;THE;THI;THII;THO;THOO;THA;THAA;TH
15af=;CANADIAN_SYLLABICS_AIVILIK_B
15b0=CANADIAN_SYLLABICS_BLACKFOOT_;E;I;O;A;WE;WI;WO;WA;NE;NI;NO;NA;KE;KI;KO;KA
15c0=CANADIAN_SYLLABICS_SAYISI_;HE;HI;HO;HA
15c4=CANADIAN_SYLLABICS_CARRIER_;GHU;GHO;GHE;GHEE;GHI;GHA;RU;RO;RE;REE;RI;RA;WU;WO;WE;WEE;WI;WA;HWU
HWO;HWE;HWEE;HWI;HWA;THU;THO;THE;THEE;THI;THA;TTU;TTO;TTE;TTEE;TTI;TTA;PU;PO;PE;PEE;PI;PA;P;GU;GO;GE
GEE;GI;GA;KHU;KHO;KHE;KHEE;KHI;KHA;KKU;KKO;KKE;KKEE;KKI;KKA;KK;NU;NO;NE;NEE;NI;NA;MU;MO;ME;MEE;MI;MA
YU;YO;YE;YEE;YI;YA;JU;1615=CANADIAN_SYLLABICS_;SAYISI_JU;CARRIER_JO;CARRIER_JE;CARRIER_JEE
CARRIER_JI;SAYISI_JI;161b=CANADIAN_SYLLABICS_CARRIER_;JA;JJU;JJO;JJE;JJEE;JJI;JJA;LU;LO;LE;LEE;LI;LA
DLU;DLO;DLE;DLEE;DLI;DLA;LHU;LHO;LHE;LHEE;LHI;LHA;TLHU;TLHO;TLHE;TLHEE;TLHI;TLHA;TLU;TLO;TLE;TLEE
TLI;TLA;ZU;ZO;ZE;ZEE;ZI;ZA;Z;INITIAL_Z;DZU;DZO;DZE;DZEE;DZI;DZA;SU;SO;SE;SEE;SI;SA;SHU;SHO;SHE;SHEE
SHI;SHA;SH;TSU;TSO;TSE;TSEE;TSI;TSA;CHU;CHO;CHE;CHEE;CHI;CHA;TTSU;TTSO;TTSE;TTSEE;TTSI;TTSA
166d=CANADIAN_SYLLABICS_;CHI_SIGN;FULL_STOP;QAI;NGAI;NNGI;NNGII;NNGO;NNGOO;NNGA;NNGAA
1677=CANADIAN_SYLLABICS_WOODS-CREE_;THWEE;THWI;THWII;THWO;THWOO;THWA;THWAA;FINAL_TH
167f=;CANADIAN_SYLLABICS_BLACKFOOT_W;OGHAM_SPACE_MARK
1681=OGHAM_LETTER_;BEITH;LUIS;FEARN;SAIL;NION;UATH;DAIR;TINNE;COLL;CEIRT;MUIN;GORT;NGEADAL;STRAIF
RUIS;AILM;ONN;UR;EADHADH;IODHADH;EABHADH;OR;UILLEANN;IFIN;EAMHANCHOLL;PEITH
169b=OGHAM_;FEATHER_MARK;REVERSED_FEATHER_MARK
16a0=RUNIC_LETTER_;FEHU_FEOH_FE_F;V;URUZ_UR_U;YR;Y;W;THURISAZ_THURS_THORN;ETH;ANSUZ_A;OS_O;AC_A;AESC
LONG-BRANCH-OSS_O;SHORT-TWIG-OSS_O;O;OE;ON;RAIDO_RAD_REID_R;KAUNA;CEN;KAUN_K;G;ENG;GEBO_GYFU_G;GAR
WUNJO_WYNN_W;HAGLAZ_H;HAEGL_H;LONG-BRANCH-HAGALL_H;SHORT-TWIG-HAGALL_H;NAUDIZ_NYD_NAUD_N
SHORT-TWIG-NAUD_N;DOTTED-N;ISAZ_IS_ISS_I;E;JERAN_J;GER;LONG-BRANCH-AR_AE;SHORT-TWIG-AR_A;IWAZ_EOH
PERTHO_PEORTH_P;ALGIZ_EOLHX;SOWILO_S;SIGEL_LONG-BRANCH-SOL_S;SHORT-TWIG-SOL_S;C;Z;TIWAZ_TIR_TYR_T
SHORT-TWIG-TYR_T;D;BERKANAN_BEORC_BJARKAN_B;SHORT-TWIG-BJARKAN_B;DOTTED-P;OPEN-P;EHWAZ_EH_E
MANNAZ_MAN_M;LONG-BRANCH-MADR_M;SHORT-TWIG-MADR_M;LAUKAZ_LAGU_LOGR_L;DOTTED-L;INGWAZ;ING
DAGAZ_DAEG_D;OTHALAN_ETHEL_O;EAR;IOR;CWEORTH;CALC;CEALC;STAN;LONG-BRANCH-YR;SHORT-TWIG-YR
ICELANDIC-YR;Q;X;16eb=RUNIC_;SINGLE_PUNCTUATION;MULTIPLE_PUNCTUATION;CROSS_PUNCTUATION;ARLAUG_SYMBOL
TVIMADUR_SYMBOL;BELGTHOR_SYMBOL;16f1=RUNIC_LETTER_;K;SH;OO
16f4=RUNIC_LETTER_FRANKS_CASKET_;OS;IS;EH;AC;AESC
1700=TAGALOG_LETTER_;A;I;U;KA;GA;NGA;TA;DA;NA;PA;BA;MA;YA;RA;LA;WA;SA;HA
1712=TAGALOG_VOWEL_SIGN_;I;U;1714=TAGALOG_SIGN_;VIRAMA;PAMUDPOD
171f=;TAGALOG_LETTER_ARCHAIC_RA;1720=HANUNOO_LETTER_;A;I;U;KA;GA;NGA;TA;DA;NA;PA;BA;MA;YA;RA;LA;WA
SA;HA;1732=HANUNOO_;VOWEL_SIGN_I;VOWEL_SIGN_U;SIGN_PAMUDPOD
1735=PHILIPPINE_;SINGLE_PUNCTUATION;DOUBLE_PUNCTUATION
1740=BUHID_LETTER_;A;I;U;KA;GA;NGA;TA;DA;NA;PA;BA;MA;YA;RA;LA;WA;SA;HA
1752=BUHID_VOWEL_SIGN_;I;U;1760=TAGBANWA_LETTER_;A;I;U;KA;GA;NGA;TA;DA;NA;PA;BA;MA;YA
176e=TAGBANWA_LETTER_;LA;WA;SA;1772=TAGBANWA_VOWEL_SIGN_;I;U
1780=KHMER_LETTER_;KA;KHA;KO;KHO;NGO;CA;CHA;CO;CHO;NYO;DA;TTHA;DO;TTHO;NNO;TA;THA;TO;THO;NO;BA;PHA
PO;PHO;MO;YO;RO;LO;VO;SHA;SSO;SA;HA;LA;QA
17a3=KHMER_INDEPENDENT_VOWEL_;QAQ;QAA;QI;QII;QU;QUK;QUU;QUUV;RY;RYY;LY;LYY;QE;QAI;QOO_TYPE_ONE
QOO_TYPE_TWO;QAU;17b4=KHMER_VOWEL_INHERENT_;AQ;AA
17b6=KHMER_VOWEL_SIGN_;AA;I;II;Y;YY;U;UU;UA;OE;YA;IE;E;AE;AI;OO;AU
17c6=KHMER_SIGN_;NIKAHIT;REAHMUK;YUUKALEAPINTU;MUUSIKATOAN;TRIISAP;BANTOC;ROBAT;TOANDAKHIAT;KAKABAT
AHSDA;SAMYOK_SANNYA;VIRIAM;COENG;BATHAMASAT;KHAN;BARIYOOSAN;CAMNUC_PII_KUUH;LEK_TOO;BEYYAL
PHNAEK_MUAN;KOOMUUT;17db=KHMER_;CURRENCY_SYMBOL_RIEL;SIGN_AVAKRAHASANYA;SIGN_ATTHACAN
17e0=KHMER_DIGIT_;ZERO;ONE;TWO;THREE;FOUR;FIVE;SIX;SEVEN;EIGHT;NINE
17f0=KHMER_SYMBOL_LEK_ATTAK_;SON;MUOY;PII;BEI;BUON;PRAM;PRAM-MUOY;PRAM-PII;PRAM-BEI;PRAM-BUON
1800=MONGOLIAN_;BIRGA;ELLIPSIS;COMMA;FULL_STOP;COLON;FOUR_DOTS;TODO_SOFT_HYPHEN
SIBE_SYLLABLE_BOUNDARY_MARKER;MANCHU_COMMA;MANCHU_FULL_STOP;NIRUGU
180b=MONGOLIAN_FREE_VARIATION_SELECTOR_;ONE;TWO;THREE
180e=MONGOLIAN_;VOWEL_SEPARATOR;FREE_VARIATION_SELECTOR_FOUR
1810=MONGOLIAN_DIGIT_;ZERO;ONE;TWO;THREE;FOUR;FIVE;SIX;SEVEN;EIGHT;NINE
1820=MONGOLIAN_LETTER_;A;E;I;O;U;OE;UE;EE;NA;ANG;BA;PA;QA;GA;MA;LA;SA;SHA;TA;DA;CHA;JA;YA;RA;WA;FA
KA;KHA;TSA;ZA;HAA;ZRA;LHA;ZHI;CHI
1843=MONGOLIAN_LETTER_TODO_;LONG_VOWEL_SIGN;E;I;O;U;OE;UE;ANG;BA;PA;QA;GA;MA;TA;DA;CHA;JA;TSA;YA;WA
KA;GAA;HAA;JIA;NIA;DZA;185d=MONGOLIAN_LETTER_SIBE_;E;I;IY;UE;U;ANG;KA;GA;HA;PA;SHA;TA;DA;JA;FA;GAA
HAA;TSA;ZA;RAA;CHA;ZHA;1873=MONGOLIAN_LETTER_MANCHU_;I;KA;RA;FA;ZHA
1878=;MONGOLIAN_LETTER_CHA_WITH_TWO_DOTS
1880=MONGOLIAN_LETTER_ALI_GALI_;ANUSVARA_ONE;VISARGA_ONE;DAMARU;UBADAMA;INVERTED_UBADAMA;BALUDA
THREE_BALUDA;A;I;KA;NGA;CA;TTA;TTHA;DDA;NNA;TA;DA;PA;PHA;SSA;ZHA;ZA;AH
1898=MONGOLIAN_LETTER_TODO_ALI_GALI_;TA;ZHA
189a=MONGOLIAN_LETTER_MANCHU_ALI_GALI_;GHA;NGA;CA;JHA;TTA;DDHA;TA;DHA;SSA;CYA;ZHA;ZA
18a6=MONGOLIAN_LETTER_;ALI_GALI_HALF_U;ALI_GALI_HALF_YA;MANCHU_ALI_GALI_BHA;ALI_GALI_DAGALGA
MANCHU_ALI_GALI_LHA;18b0=CANADIAN_SYLLABICS_;OY;AY;AAY;WAY;POY;PAY;PWOY;TAY;KAY;KWAY;MAY;NOY;NAY;LAY
SOY;SAY;SHOY;SHAY;SHWOY;YOY;YAY;RAY;NWI;OJIBWAY_NWI;NWII;OJIBWAY_NWII;NWO;OJIBWAY_NWO;NWOO
OJIBWAY_NWOO;RWEE;RWI;RWII;RWO;RWOO;RWA
18d4=CANADIAN_SYLLABICS_OJIBWAY_;P;T;K;C;M;N;S;SH
18dc=CANADIAN_SYLLABICS_;EASTERN_W;WESTERN_W;FINAL_SMALL_RING;FINAL_RAISED_DOT;R-CREE_RWE
WEST-CREE_LOO;WEST-CREE_LAA;THWE;THWA;TTHWE;TTHOO;TTHAA;TLHWE;TLHOO;SAYISI_SHWE;SAYISI_SHOO
SAYISI_HOO;CARRIER_GWU;CARRIER_DENE_GEE;CARRIER_GAA;CARRIER_GWA;SAYISI_JUU;CARRIER_JWA;BEAVER_DENE_L
BEAVER_DENE_R;CARRIER_DENTAL_S;1900=;LIMBU_VOWEL-CARRIER_LETTER
1901=LIMBU_LETTER_;KA;KHA;GA;GHA;NGA;CA;CHA;JA;JHA;YAN;TA;THA;DA;DHA;NA;PA;PHA;BA;BHA;MA;YA;RA;LA;WA
SHA;SSA;SA;HA;GYAN;TRA;1920=LIMBU_VOWEL_SIGN_;A;I;U;EE;AI;OO;AU;E;O
1929=LIMBU_SUBJOINED_LETTER_;YA;RA;WA
1930=LIMBU_SMALL_LETTER_;KA;NGA;ANUSVARA;TA;NA;PA;MA;RA;LA
1939=LIMBU_SIGN_;MUKPHRENG;KEMPHRENG;SA-I;1940=;LIMBU_SIGN_LOO
1944=LIMBU_;EXCLAMATION_MARK;QUESTION_MARK;1946=LIMBU_DIGIT_;ZERO;ONE;TWO;THREE;FOUR;FIVE;SIX;SEVEN
EIGHT;NINE;1950=TAI_LE_LETTER_;KA;XA;NGA;TSA;SA;YA;TA;THA;LA;PA;PHA;MA;FA;VA;HA;QA;KHA;TSHA;NA;A;I
EE;EH;U;OO;O;UE;E;AUE;AI;1970=TAI_LE_LETTER_TONE-;2;3;4;5;6
1980=NEW_TAI_LUE_LETTER_;HIGH_QA;LOW_QA;HIGH_KA;HIGH_XA;HIGH_NGA;LOW_KA;LOW_XA;LOW_NGA;HIGH_TSA
HIGH_SA;HIGH_YA;LOW_TSA;LOW_SA;LOW_YA;HIGH_TA;HIGH_THA;HIGH_NA;LOW_TA;LOW_THA;LOW_NA;HIGH_PA
HIGH_PHA;HIGH_MA;LOW_PA;LOW_PHA;LOW_MA;HIGH_FA;HIGH_VA;HIGH_LA;LOW_FA;LOW_VA;LOW_LA;HIGH_HA;HIGH_DA
HIGH_BA;LOW_HA;LOW_DA;LOW_BA;HIGH_KVA;HIGH_XVA;LOW_KVA;LOW_XVA;HIGH_SUA;LOW_SUA
19b0=NEW_TAI_LUE_VOWEL_SIGN_;VOWEL_SHORTENER;AA;II;U;UU;E;AE;O;OA;UE;AY;AAY;UY;OY;OAY;UEY;IY
19c1=NEW_TAI_LUE_LETTER_FINAL_;V;NG;N;M;K;D;B
19c8=NEW_TAI_LUE_TONE_MARK-;1;2;19d0=NEW_TAI_LUE_DIGIT_;ZERO;ONE;TWO;THREE;FOUR;FIVE;SIX;SEVEN;EIGHT
NINE;19da=;NEW_TAI_LUE_THAM_DIGIT_ONE;19de=NEW_TAI_LUE_SIGN_;LAE;LAEV
19e0=KHMER_SYMBOL_;PATHAMASAT;MUOY_KOET;PII_KOET;BEI_KOET;BUON_KOET;PRAM_KOET;PRAM-MUOY_KOET
PRAM-PII_KOET;PRAM-BEI_KOET;PRAM-BUON_KOET;DAP_KOET;DAP-MUOY_KOET;DAP-PII_KOET;DAP-BEI_KOET
DAP-BUON_KOET;DAP-PRAM_KOET;TUTEYASAT;MUOY_ROC;PII_ROC;BEI_ROC;BUON_ROC;PRAM_ROC;PRAM-MUOY_ROC
PRAM-PII_ROC;PRAM-BEI_ROC;PRAM-BUON_ROC;DAP_ROC;DAP-MUOY_ROC;DAP-PII_ROC;DAP-BEI_ROC;DAP-BUON_ROC
DAP-PRAM_ROC;1a00=BUGINESE_LETTER_;KA;GA;NGA;NGKA;PA;BA;MA;MPA;TA;DA;NA;NRA;CA;JA;NYA;NYCA;YA;RA;LA
VA;SA;A;HA;1a17=BUGINESE_VOWEL_SIGN_;I;U;E;O;AE
1a1e=BUGINESE_;PALLAWA;END_OF_SECTION;1a20=TAI_THAM_LETTER_;HIGH_KA;HIGH_KHA;HIGH_KXA;LOW_KA;LOW_KXA
LOW_KHA;NGA;HIGH_CA;HIGH_CHA;LOW_CA;LOW_SA;LOW_CHA;NYA;RATA;HIGH_RATHA;DA;LOW_RATHA;RANA;HIGH_TA
HIGH_THA;LOW_TA;LOW_THA;NA;BA;HIGH_PA;HIGH_PHA;HIGH_FA;LOW_PA;LOW_FA;LOW_PHA;MA;LOW_YA;HIGH_YA;RA
RUE;LA;LUE;WA;HIGH_SHA;HIGH_SSA;HIGH_SA;HIGH_HA;LLA;A;LOW_HA;I;II;U;UU;EE;OO;LAE;GREAT_SA
1a55=TAI_THAM_CONSONANT_SIGN_;MEDIAL_RA;MEDIAL_LA;LA_TANG_LAI
1a58=;TAI_THAM_SIGN_MAI_KANG_LAI
1a59=TAI_THAM_CONSONANT_SIGN_;FINAL_NGA;LOW_PA;HIGH_RATHA_OR_LOW_PA;MA;BA;SA
1a60=;TAI_THAM_SIGN_SAKOT;1a61=TAI_THAM_VOWEL_SIGN_;A;MAI_SAT;AA;TALL_AA;I;II;UE;UUE;U;UU;O;OA_BELOW
OY;E;AE;OO;AI;THAM_AI;OA_ABOVE;1a74=TAI_THAM_SIGN_;MAI_KANG;TONE-1;TONE-2;KHUEN_TONE-3;KHUEN_TONE-4
KHUEN_TONE-5;RA_HAAM;MAI_SAM;KHUEN-LUE_KARAN;1a7f=;TAI_THAM_COMBINING_CRYPTOGRAMMIC_DOT
1a80=TAI_THAM_HORA_DIGIT_;ZERO;ONE;TWO;THREE;FOUR;FIVE;SIX;SEVEN;EIGHT;NINE
1a90=TAI_THAM_THAM_DIGIT_;ZERO;ONE;TWO;THREE;FOUR;FIVE;SIX;SEVEN;EIGHT;NINE
1aa0=TAI_THAM_SIGN_;WIANG;WIANGWAAK;SAWAN;KEOW;HOY;DOKMAI;REVERSED_ROTATED_RANA;MAI_YAMOK;KAAN
KAANKUU;SATKAAN;SATKAANKUU;HANG;CAANG;1ab0=COMBINING_;DOUBLED_CIRCUMFLEX_ACCENT;DIAERESIS-RING
INFINITY;DOWNWARDS_ARROW;TRIPLE_DOT;X-X_BELOW;WIGGLY_LINE_BELOW;OPEN_MARK_BELOW
DOUBLE_OPEN_MARK_BELOW;LIGHT_CENTRALIZATION_STROKE_BELOW;STRONG_CENTRALIZATION_STROKE_BELOW
PARENTHESES_ABOVE;DOUBLE_PARENTHESES_ABOVE;PARENTHESES_BELOW;PARENTHESES_OVERLAY
LATIN_SMALL_LETTER_W_BELOW;LATIN_SMALL_LETTER_TURNED_W_BELOW;LEFT_PARENTHESIS_ABOVE_LEFT
RIGHT_PARENTHESIS_ABOVE_RIGHT;LEFT_PARENTHESIS_BELOW_LEFT;RIGHT_PARENTHESIS_BELOW_RIGHT
SQUARE_BRACKETS_ABOVE;NUMBER_SIGN_ABOVE;INVERTED_DOUBLE_ARCH_ABOVE;PLUS_SIGN_ABOVE
DOUBLE_PLUS_SIGN_ABOVE;DOUBLE_PLUS_SIGN_BELOW;TRIPLE_ACUTE_ACCENT
1acc=COMBINING_LATIN_SMALL_LETTER_INSULAR_;G;R;T
1b00=BALINESE_SIGN_;ULU_RICEM;ULU_CANDRA;CECEK;SURANG;BISAH
1b05=BALINESE_LETTER_;AKARA;AKARA_TEDUNG;IKARA;IKARA_TEDUNG;UKARA;UKARA_TEDUNG;RA_REPA
RA_REPA_TEDUNG;LA_LENGA;LA_LENGA_TEDUNG;EKARA;AIKARA;OKARA;OKARA_TEDUNG;KA;KA_MAHAPRANA;GA;GA_GORA
NGA;CA;CA_LACA;JA;JA_JERA;NYA;TA_LATIK;TA_MURDA_MAHAPRANA;DA_MURDA_ALPAPRANA;DA_MURDA_MAHAPRANA
NA_RAMBAT;TA;TA_TAWA;DA;DA_MADU;NA;PA;PA_KAPAL;BA;BA_KEMBANG;MA;YA;RA;LA;WA;SA_SAGA;SA_SAPA;SA;HA
1b34=;BALINESE_SIGN_REREKAN;1b35=BALINESE_VOWEL_SIGN_;TEDUNG;ULU;ULU_SARI;SUKU;SUKU_ILUT;RA_REPA
RA_REPA_TEDUNG;LA_LENGA;LA_LENGA_TEDUNG;TALING;TALING_REPA;TALING_TEDUNG;TALING_REPA_TEDUNG;PEPET
PEPET_TEDUNG;1b44=;BALINESE_ADEG_ADEG;1b45=BALINESE_LETTER_;KAF_SASAK;KHOT_SASAK;TZIR_SASAK;EF_SASAK
VE_SASAK;ZAL_SASAK;ASYURA_SASAK;ARCHAIC_JNYA
1b50=BALINESE_DIGIT_;ZERO;ONE;TWO;THREE;FOUR;FIVE;SIX;SEVEN;EIGHT;NINE
1b5a=BALINESE_;PANTI;PAMADA;WINDU;CARIK_PAMUNGKAH;CARIK_SIKI;CARIK_PAREREN;PAMENENG
1b61=BALINESE_MUSICAL_SYMBOL_;DONG;DENG;DUNG;DANG;DANG_SURANG;DING;DAENG;DEUNG;DAING;DANG_GEDE
1b6b=BALINESE_MUSICAL_SYMBOL_COMBINING_;TEGEH;ENDEP;KEMPUL;KEMPLI;JEGOGAN;KEMPUL_WITH_JEGOGAN
KEMPLI_WITH_JEGOGAN;BENDE;GONG
1b74=BALINESE_MUSICAL_SYMBOL_RIGHT-HAND_;OPEN_DUG;OPEN_DAG;CLOSED_TUK;CLOSED_TAK
1b78=BALINESE_MUSICAL_SYMBOL_LEFT-HAND_;OPEN_PANG;OPEN_PUNG;CLOSED_PLAK;CLOSED_PLUK;OPEN_PING
1b7d=BALINESE_;PANTI_LANTANG;PAMADA_LANTANG
1b80=SUNDANESE_SIGN_;PANYECEK;PANGLAYAR;PANGWISAD
1b83=SUNDANESE_LETTER_;A;I;U;AE;O;E;EU;KA;QA;GA;NGA;CA;JA;ZA;NYA;TA;DA;NA;PA;FA;VA;BA;MA;YA;RA;LA;WA
SA;XA;HA;1ba1=SUNDANESE_CONSONANT_SIGN_;PAMINGKAL;PANYAKRA;PANYIKU
1ba4=SUNDANESE_VOWEL_SIGN_;PANGHULU;PANYUKU;PANAELAENG;PANOLONG;PAMEPET;PANEULEUNG
1baa=SUNDANESE_SIGN_;PAMAAEH;VIRAMA
1bac=SUNDANESE_CONSONANT_SIGN_PASANGAN_;MA;WA
1bae=SUNDANESE_LETTER_;KHA;SYA;1bb0=SUNDANESE_DIGIT_;ZERO;ONE;TWO;THREE;FOUR;FIVE;SIX;SEVEN;EIGHT
NINE;1bba=;SUNDANESE_AVAGRAHA;1bbb=SUNDANESE_LETTER_;REU;LEU;BHA;FINAL_K;FINAL_M
1bc0=BATAK_LETTER_;A;SIMALUNGUN_A;HA;SIMALUNGUN_HA;MANDAILING_HA;BA;KARO_BA;PA;SIMALUNGUN_PA;NA
MANDAILING_NA;WA;SIMALUNGUN_WA;PAKPAK_WA;GA;SIMALUNGUN_GA;JA;DA;RA;SIMALUNGUN_RA;MA;SIMALUNGUN_MA
SOUTHERN_TA;NORTHERN_TA;SA;SIMALUNGUN_SA;MANDAILING_SA;YA;SIMALUNGUN_YA;NGA;LA;SIMALUNGUN_LA;NYA;CA
NDA;MBA;I;U;1be6=;BATAK_SIGN_TOMPI;1be7=BATAK_VOWEL_SIGN_;E;PAKPAK_E;EE;I;KARO_I;O;KARO_O;U
U_FOR_SIMALUNGUN_SA;1bf0=BATAK_CONSONANT_SIGN_;NG;H
1bf2=BATAK_;PANGOLAT;PANONGONAN;1bfc=BATAK_SYMBOL_BINDU_;NA_METEK;PINARBORAS;JUDUL;PANGOLAT
1c00=LEPCHA_LETTER_;KA;KLA;KHA;GA;GLA;NGA;CA;CHA;JA;NYA;TA;THA;DA;NA;PA;PLA;PHA;FA;FLA;BA;BLA;MA;MLA
TSA;TSHA;DZA;YA;RA;LA;HA;HLA;VA;SA;SHA;WA;A
1c24=LEPCHA_SUBJOINED_LETTER_;YA;RA;1c26=LEPCHA_VOWEL_SIGN_;AA;I;O;OO;U;UU;E
1c2d=LEPCHA_CONSONANT_SIGN_;K;M;L;N;P;R;T;NYIN-DO;KANG
1c36=LEPCHA_SIGN_;RAN;NUKTA;1c3b=LEPCHA_PUNCTUATION_;TA-ROL;NYET_THYOOM_TA-ROL;CER-WA;TSHOOK_CER-WA
TSHOOK;1c40=LEPCHA_DIGIT_;ZERO;ONE;TWO;THREE;FOUR;FIVE;SIX;SEVEN;EIGHT;NINE
1c4d=LEPCHA_LETTER_;TTA;TTHA;DDA;1c50=OL_CHIKI_DIGIT_;ZERO;ONE;TWO;THREE;FOUR;FIVE;SIX;SEVEN;EIGHT
NINE;1c5a=OL_CHIKI_LETTER_;LA;AT;AG;ANG;AL;LAA;AAK;AAJ;AAM;AAW;LI;IS;IH;INY;IR;LU;UC;UD;UNN;UY;LE;EP
EDD;EN;ERR;LO;OTT;OB;OV;OH;1c78=OL_CHIKI_;MU_TTUDDAG;GAAHLAA_TTUDDAAG;MU-GAAHLAA_TTUDDAAG;RELAA
PHAARKAA;AHAD;PUNCTUATION_MUCAAD;PUNCTUATION_DOUBLE_MUCAAD
1c80=CYRILLIC_SMALL_LETTER_;ROUNDED_VE;LONG-LEGGED_DE;NARROW_O;WIDE_ES;TALL_TE;THREE-LEGGED_TE
TALL_HARD_SIGN;TALL_YAT;UNBLENDED_UK
1c90=GEORGIAN_MTAVRULI_CAPITAL_LETTER_;AN;BAN;GAN;DON;EN;VIN;ZEN;TAN;IN;KAN;LAS;MAN;NAR;ON;PAR;ZHAR
RAE;SAN;TAR;UN;PHAR;KHAR;GHAN;QAR;SHIN;CHIN;CAN;JIL;CIL;CHAR;XAN;JHAN;HAE;HE;HIE;WE;HAR;HOE;FI;YN
ELIFI;TURNED_GAN;AIN;1cbd=GEORGIAN_MTAVRULI_CAPITAL_LETTER_;AEN;HARD_SIGN;LABIAL_SIGN
1cc0=SUNDANESE_PUNCTUATION_BINDU_;SURYA;PANGLONG;PURNAMA;CAKRA;LEU_SATANGA;KA_SATANGA;DA_SATANGA
BA_SATANGA;1cd0=VEDIC_TONE_;KARSHANA;SHARA;PRENKHA
1cd3=VEDIC_SIGN_;NIHSHVASA;YAJURVEDIC_MIDLINE_SVARITA
1cd5=VEDIC_TONE_YAJURVEDIC_;AGGRAVATED_INDEPENDENT_SVARITA;INDEPENDENT_SVARITA
KATHAKA_INDEPENDENT_SVARITA;1cd8=VEDIC_TONE_;CANDRA_BELOW
YAJURVEDIC_KATHAKA_INDEPENDENT_SVARITA_SCHROEDER;DOUBLE_SVARITA;TRIPLE_SVARITA;KATHAKA_ANUDATTA
DOT_BELOW;TWO_DOTS_BELOW;THREE_DOTS_BELOW;RIGVEDIC_KASHMIRI_INDEPENDENT_SVARITA
ATHARVAVEDIC_INDEPENDENT_SVARITA;1ce2=VEDIC_SIGN_;VISARGA_SVARITA;VISARGA_UDATTA
REVERSED_VISARGA_UDATTA;VISARGA_ANUDATTA;REVERSED_VISARGA_ANUDATTA;VISARGA_UDATTA_WITH_TAIL
VISARGA_ANUDATTA_WITH_TAIL;ANUSVARA_ANTARGOMUKHA;ANUSVARA_BAHIRGOMUKHA;ANUSVARA_VAMAGOMUKHA
ANUSVARA_VAMAGOMUKHA_WITH_TAIL;TIRYAK;HEXIFORM_LONG_ANUSVARA;LONG_ANUSVARA;RTHANG_LONG_ANUSVARA
ANUSVARA_UBHAYATO_MUKHA;ARDHAVISARGA;ROTATED_ARDHAVISARGA
1cf4=VEDIC_;TONE_CANDRA_ABOVE;SIGN_JIHVAMULIYA;SIGN_UPADHMANIYA;SIGN_ATIKRAMA;TONE_RING_ABOVE
TONE_DOUBLE_RING_ABOVE;SIGN_DOUBLE_ANUSVARA_ANTARGOMUKHA
1d00=LATIN_LETTER_SMALL_CAPITAL_;A;AE;1d02=;LATIN_SMALL_LETTER_TURNED_AE
1d03=LATIN_LETTER_SMALL_CAPITAL_;BARRED_B;C;D;ETH;E
1d08=LATIN_SMALL_LETTER_TURNED_;OPEN_E;I
1d0a=LATIN_LETTER_SMALL_CAPITAL_;J;K;L_WITH_STROKE;M;REVERSED_N;O;OPEN_O
1d11=LATIN_SMALL_LETTER_SIDEWAYS_;O;OPEN_O;O_WITH_STROKE
1d14=LATIN_;SMALL_LETTER_TURNED_OE;LETTER_SMALL_CAPITAL_OU
1d16=LATIN_SMALL_LETTER_;TOP_HALF_O;BOTTOM_HALF_O
1d18=LATIN_LETTER_SMALL_CAPITAL_;P;REVERSED_R;TURNED_R;T;U
1d1d=LATIN_SMALL_LETTER_SIDEWAYS_;U;DIAERESIZED_U;TURNED_M
1d20=LATIN_LETTER_SMALL_CAPITAL_;V;W;Z;EZH
1d24=LATIN_LETTER_;VOICED_LARYNGEAL_SPIRANT;AIN
1d26=GREEK_LETTER_SMALL_CAPITAL_;GAMMA;LAMDA;PI;RHO;PSI
1d2b=;CYRILLIC_LETTER_SMALL_CAPITAL_EL
1d2c=MODIFIER_LETTER_CAPITAL_;A;AE;B;BARRED_B;D;E;REVERSED_E;G;H;I;J;K;L;M;N;REVERSED_N;O;OU;P;R;T;U
W;1d43=MODIFIER_LETTER_SMALL_;A;TURNED_A;ALPHA;TURNED_AE;B;D;E;SCHWA;OPEN_E;TURNED_OPEN_E;G;TURNED_I
K;M;ENG;O;OPEN_O;TOP_HALF_O;BOTTOM_HALF_O;P;T;U;SIDEWAYS_U;TURNED_M;V;AIN;BETA;GREEK_GAMMA;DELTA
GREEK_PHI;CHI;1d62=LATIN_SUBSCRIPT_SMALL_LETTER_;I;R;U;V
1d66=GREEK_SUBSCRIPT_SMALL_LETTER_;BETA;GAMMA;RHO;PHI;CHI
1d6b=LATIN_SMALL_LETTER_;UE;B_WITH_MIDDLE_TILDE;D_WITH_MIDDLE_TILDE;F_WITH_MIDDLE_TILDE
M_WITH_MIDDLE_TILDE;N_WITH_MIDDLE_TILDE;P_WITH_MIDDLE_TILDE;R_WITH_MIDDLE_TILDE
R_WITH_FISHHOOK_AND_MIDDLE_TILDE;S_WITH_MIDDLE_TILDE;T_WITH_MIDDLE_TILDE;Z_WITH_MIDDLE_TILDE
TURNED_G;1d78=;MODIFIER_LETTER_CYRILLIC_EN;1d79=LATIN_SMALL_;LETTER_INSULAR_G
LETTER_TH_WITH_STRIKETHROUGH;CAPITAL_LETTER_I_WITH_STROKE;LETTER_IOTA_WITH_STROKE
LETTER_P_WITH_STROKE;CAPITAL_LETTER_U_WITH_STROKE
1d7f=LATIN_SMALL_LETTER_;UPSILON_WITH_STROKE;B_WITH_PALATAL_HOOK;D_WITH_PALATAL_HOOK
F_WITH_PALATAL_HOOK;G_WITH_PALATAL_HOOK;K_WITH_PALATAL_HOOK;L_WITH_PALATAL_HOOK;M_WITH_PALATAL_HOOK
N_WITH_PALATAL_HOOK;P_WITH_PALATAL_HOOK;R_WITH_PALATAL_HOOK;S_WITH_PALATAL_HOOK
ESH_WITH_PALATAL_HOOK;V_WITH_PALATAL_HOOK;X_WITH_PALATAL_HOOK;Z_WITH_PALATAL_HOOK
A_WITH_RETROFLEX_HOOK;ALPHA_WITH_RETROFLEX_HOOK;D_WITH_HOOK_AND_TAIL;E_WITH_RETROFLEX_HOOK
OPEN_E_WITH_RETROFLEX_HOOK;REVERSED_OPEN_E_WITH_RETROFLEX_HOOK;SCHWA_WITH_RETROFLEX_HOOK
I_WITH_RETROFLEX_HOOK;OPEN_O_WITH_RETROFLEX_HOOK;ESH_WITH_RETROFLEX_HOOK;U_WITH_RETROFLEX_HOOK
EZH_WITH_RETROFLEX_HOOK;1d9b=MODIFIER_LETTER_SMALL_;TURNED_ALPHA;C;C_WITH_CURL;ETH;REVERSED_OPEN_E;F
DOTLESS_J_WITH_STROKE;SCRIPT_G;TURNED_H;I_WITH_STROKE;IOTA;CAPITAL_I;CAPITAL_I_WITH_STROKE
J_WITH_CROSSED-TAIL;L_WITH_RETROFLEX_HOOK;L_WITH_PALATAL_HOOK;CAPITAL_L;M_WITH_HOOK
TURNED_M_WITH_LONG_LEG;N_WITH_LEFT_HOOK;N_WITH_RETROFLEX_HOOK;CAPITAL_N;BARRED_O;PHI;S_WITH_HOOK;ESH
T_WITH_PALATAL_HOOK;U_BAR;UPSILON;CAPITAL_U;V_WITH_HOOK;TURNED_V;Z;Z_WITH_RETROFLEX_HOOK;Z_WITH_CURL
EZH;THETA;1dc0=COMBINING_;DOTTED_GRAVE_ACCENT;DOTTED_ACUTE_ACCENT;SNAKE_BELOW;SUSPENSION_MARK
MACRON-ACUTE;GRAVE-MACRON;MACRON-GRAVE;ACUTE-MACRON;GRAVE-ACUTE-GRAVE;ACUTE-GRAVE-ACUTE
LATIN_SMALL_LETTER_R_BELOW;BREVE-MACRON;MACRON-BREVE;DOUBLE_CIRCUMFLEX_ABOVE;OGONEK_ABOVE
ZIGZAG_BELOW;IS_BELOW;UR_ABOVE;US_ABOVE
1dd3=COMBINING_LATIN_SMALL_LETTER_;FLATTENED_OPEN_A_ABOVE;AE;AO;AV;C_CEDILLA;INSULAR_D;ETH;G
1ddb=COMBINING_LATIN_;LETTER_SMALL_CAPITAL_G;SMALL_LETTER_K;SMALL_LETTER_L;LETTER_SMALL_CAPITAL_L
LETTER_SMALL_CAPITAL_M;SMALL_LETTER_N;LETTER_SMALL_CAPITAL_N;LETTER_SMALL_CAPITAL_R
1de3=COMBINING_LATIN_SMALL_LETTER_;R_ROTUNDA;S;LONG_S;Z;ALPHA;B;BETA;SCHWA;F
L_WITH_DOUBLE_MIDDLE_TILDE;O_WITH_LIGHT_CENTRALIZATION_STROKE;P;ESH
U_WITH_LIGHT_CENTRALIZATION_STROKE;W;A_WITH_DIAERESIS;O_WITH_DIAERESIS;U_WITH_DIAERESIS
1df5=COMBINING_;UP_TACK_ABOVE;KAVYKA_ABOVE_RIGHT;KAVYKA_ABOVE_LEFT;DOT_ABOVE_LEFT
WIDE_INVERTED_BRIDGE_BELOW;DOT_BELOW_LEFT;DELETION_MARK;DOUBLE_INVERTED_BREVE_BELOW
ALMOST_EQUAL_TO_BELOW;LEFT_ARROWHEAD_ABOVE;RIGHT_ARROWHEAD_AND_DOWN_ARROWHEAD_BELOW
1e00=LATIN_;CAPITAL_LETTER_A_WITH_RING_BELOW;SMALL_LETTER_A_WITH_RING_BELOW
CAPITAL_LETTER_B_WITH_DOT_ABOVE;SMALL_LETTER_B_WITH_DOT_ABOVE;CAPITAL_LETTER_B_WITH_DOT_BELOW
SMALL_LETTER_B_WITH_DOT_BELOW;CAPITAL_LETTER_B_WITH_LINE_BELOW;SMALL_LETTER_B_WITH_LINE_BELOW
CAPITAL_LETTER_C_WITH_CEDILLA_AND_ACUTE;SMALL_LETTER_C_WITH_CEDILLA_AND_ACUTE
CAPITAL_LETTER_D_WITH_DOT_ABOVE;SMALL_LETTER_D_WITH_DOT_ABOVE;CAPITAL_LETTER_D_WITH_DOT_BELOW
SMALL_LETTER_D_WITH_DOT_BELOW;CAPITAL_LETTER_D_WITH_LINE_BELOW;SMALL_LETTER_D_WITH_LINE_BELOW
CAPITAL_LETTER_D_WITH_CEDILLA;SMALL_LETTER_D_WITH_CEDILLA;CAPITAL_LETTER_D_WITH_CIRCUMFLEX_BELOW
SMALL_LETTER_D_WITH_CIRCUMFLEX_BELOW;CAPITAL_LETTER_E_WITH_MACRON_AND_GRAVE
SMALL_LETTER_E_WITH_MACRON_AND_GRAVE;CAPITAL_LETTER_E_WITH_MACRON_AND_ACUTE
SMALL_LETTER_E_WITH_MACRON_AND_ACUTE;CAPITAL_LETTER_E_WITH_CIRCUMFLEX_BELOW
SMALL_LETTER_E_WITH_CIRCUMFLEX_BELOW;CAPITAL_LETTER_E_WITH_TILDE_BELOW
SMALL_LETTER_E_WITH_TILDE_BELOW;CAPITAL_LETTER_E_WITH_CEDILLA_AND_BREVE
SMALL_LETTER_E_WITH_CEDILLA_AND_BREVE;CAPITAL_LETTER_F_WITH_DOT_ABOVE;SMALL_LETTER_F_WITH_DOT_ABOVE
CAPITAL_LETTER_G_WITH_MACRON;SMALL_LETTER_G_WITH_MACRON;CAPITAL_LETTER_H_WITH_DOT_ABOVE
SMALL_LETTER_H_WITH_DOT_ABOVE;CAPITAL_LETTER_H_WITH_DOT_BELOW;SMALL_LETTER_H_WITH_DOT_BELOW
CAPITAL_LETTER_H_WITH_DIAERESIS;SMALL_LETTER_H_WITH_DIAERESIS;CAPITAL_LETTER_H_WITH_CEDILLA
SMALL_LETTER_H_WITH_CEDILLA;CAPITAL_LETTER_H_WITH_BREVE_BELOW;SMALL_LETTER_H_WITH_BREVE_BELOW
CAPITAL_LETTER_I_WITH_TILDE_BELOW;SMALL_LETTER_I_WITH_TILDE_BELOW
CAPITAL_LETTER_I_WITH_DIAERESIS_AND_ACUTE;SMALL_LETTER_I_WITH_DIAERESIS_AND_ACUTE
CAPITAL_LETTER_K_WITH_ACUTE;SMALL_LETTER_K_WITH_ACUTE;CAPITAL_LETTER_K_WITH_DOT_BELOW
SMALL_LETTER_K_WITH_DOT_BELOW;CAPITAL_LETTER_K_WITH_LINE_BELOW;SMALL_LETTER_K_WITH_LINE_BELOW
CAPITAL_LETTER_L_WITH_DOT_BELOW;SMALL_LETTER_L_WITH_DOT_BELOW
CAPITAL_LETTER_L_WITH_DOT_BELOW_AND_MACRON;SMALL_LETTER_L_WITH_DOT_BELOW_AND_MACRON
CAPITAL_LETTER_L_WITH_LINE_BELOW;SMALL_LETTER_L_WITH_LINE_BELOW
CAPITAL_LETTER_L_WITH_CIRCUMFLEX_BELOW;SMALL_LETTER_L_WITH_CIRCUMFLEX_BELOW
CAPITAL_LETTER_M_WITH_ACUTE;SMALL_LETTER_M_WITH_ACUTE;CAPITAL_LETTER_M_WITH_DOT_ABOVE
SMALL_LETTER_M_WITH_DOT_ABOVE;CAPITAL_LETTER_M_WITH_DOT_BELOW;SMALL_LETTER_M_WITH_DOT_BELOW
CAPITAL_LETTER_N_WITH_DOT_ABOVE;SMALL_LETTER_N_WITH_DOT_ABOVE;CAPITAL_LETTER_N_WITH_DOT_BELOW
SMALL_LETTER_N_WITH_DOT_BELOW;CAPITAL_LETTER_N_WITH_LINE_BELOW;SMALL_LETTER_N_WITH_LINE_BELOW
CAPITAL_LETTER_N_WITH_CIRCUMFLEX_BELOW;SMALL_LETTER_N_WITH_CIRCUMFLEX_BELOW
CAPITAL_LETTER_O_WITH_TILDE_AND_ACUTE;SMALL_LETTER_O_WITH_TILDE_AND_ACUTE
CAPITAL_LETTER_O_WITH_TILDE_AND_DIAERESIS;SMALL_LETTER_O_WITH_TILDE_AND_DIAERESIS
CAPITAL_LETTER_O_WITH_MACRON_AND_GRAVE;SMALL_LETTER_O_WITH_MACRON_AND_GRAVE
CAPITAL_LETTER_O_WITH_MACRON_AND_ACUTE;SMALL_LETTER_O_WITH_MACRON_AND_ACUTE
CAPITAL_LETTER_P_WITH_ACUTE;SMALL_LETTER_P_WITH_ACUTE;CAPITAL_LETTER_P_WITH_DOT_ABOVE
SMALL_LETTER_P_WITH_DOT_ABOVE;CAPITAL_LETTER_R_WITH_DOT_ABOVE;SMALL_LETTER_R_WITH_DOT_ABOVE
CAPITAL_LETTER_R_WITH_DOT_BELOW;SMALL_LETTER_R_WITH_DOT_BELOW
CAPITAL_LETTER_R_WITH_DOT_BELOW_AND_MACRON;SMALL_LETTER_R_WITH_DOT_BELOW_AND_MACRON
CAPITAL_LETTER_R_WITH_LINE_BELOW;SMALL_LETTER_R_WITH_LINE_BELOW;CAPITAL_LETTER_S_WITH_DOT_ABOVE
SMALL_LETTER_S_WITH_DOT_ABOVE;CAPITAL_LETTER_S_WITH_DOT_BELOW;SMALL_LETTER_S_WITH_DOT_BELOW
CAPITAL_LETTER_S_WITH_ACUTE_AND_DOT_ABOVE;SMALL_LETTER_S_WITH_ACUTE_AND_DOT_ABOVE
CAPITAL_LETTER_S_WITH_CARON_AND_DOT_ABOVE;SMALL_LETTER_S_WITH_CARON_AND_DOT_ABOVE
CAPITAL_LETTER_S_WITH_DOT_BELOW_AND_DOT_ABOVE;SMALL_LETTER_S_WITH_DOT_BELOW_AND_DOT_ABOVE
CAPITAL_LETTER_T_WITH_DOT_ABOVE;SMALL_LETTER_T_WITH_DOT_ABOVE;CAPITAL_LETTER_T_WITH_DOT_BELOW
SMALL_LETTER_T_WITH_DOT_BELOW;CAPITAL_LETTER_T_WITH_LINE_BELOW;SMALL_LETTER_T_WITH_LINE_BELOW
CAPITAL_LETTER_T_WITH_CIRCUMFLEX_BELOW;SMALL_LETTER_T_WITH_CIRCUMFLEX_BELOW
CAPITAL_LETTER_U_WITH_DIAERESIS_BELOW;SMALL_LETTER_U_WITH_DIAERESIS_BELOW
CAPITAL_LETTER_U_WITH_TILDE_BELOW;SMALL_LETTER_U_WITH_TILDE_BELOW
CAPITAL_LETTER_U_WITH_CIRCUMFLEX_BELOW;SMALL_LETTER_U_WITH_CIRCUMFLEX_BELOW
CAPITAL_LETTER_U_WITH_TILDE_AND_ACUTE;SMALL_LETTER_U_WITH_TILDE_AND_ACUTE
CAPITAL_LETTER_U_WITH_MACRON_AND_DIAERESIS;SMALL_LETTER_U_WITH_MACRON_AND_DIAERESIS
CAPITAL_LETTER_V_WITH_TILDE;SMALL_LETTER_V_WITH_TILDE;CAPITAL_LETTER_V_WITH_DOT_BELOW
SMALL_LETTER_V_WITH_DOT_BELOW;CAPITAL_LETTER_W_WITH_GRAVE;SMALL_LETTER_W_WITH_GRAVE
CAPITAL_LETTER_W_WITH_ACUTE;SMALL_LETTER_W_WITH_ACUTE;CAPITAL_LETTER_W_WITH_DIAERESIS
SMALL_LETTER_W_WITH_DIAERESIS;CAPITAL_LETTER_W_WITH_DOT_ABOVE;SMALL_LETTER_W_WITH_DOT_ABOVE
CAPITAL_LETTER_W_WITH_DOT_BELOW;SMALL_LETTER_W_WITH_DOT_BELOW;CAPITAL_LETTER_X_WITH_DOT_ABOVE
SMALL_LETTER_X_WITH_DOT_ABOVE;CAPITAL_LETTER_X_WITH_DIAERESIS;SMALL_LETTER_X_WITH_DIAERESIS
CAPITAL_LETTER_Y_WITH_DOT_ABOVE;SMALL_LETTER_Y_WITH_DOT_ABOVE;CAPITAL_LETTER_Z_WITH_CIRCUMFLEX
SMALL_LETTER_Z_WITH_CIRCUMFLEX;CAPITAL_LETTER_Z_WITH_DOT_BELOW;SMALL_LETTER_Z_WITH_DOT_BELOW
CAPITAL_LETTER_Z_WITH_LINE_BELOW;1e95=LATIN_SMALL_LETTER_;Z_WITH_LINE_BELOW;H_WITH_LINE_BELOW
T_WITH_DIAERESIS;W_WITH_RING_ABOVE;Y_WITH_RING_ABOVE;A_WITH_RIGHT_HALF_RING;LONG_S_WITH_DOT_ABOVE
LONG_S_WITH_DIAGONAL_STROKE;LONG_S_WITH_HIGH_STROKE
1e9e=LATIN_;CAPITAL_LETTER_SHARP_S;SMALL_LETTER_DELTA;CAPITAL_LETTER_A_WITH_DOT_BELOW
SMALL_LETTER_A_WITH_DOT_BELOW;CAPITAL_LETTER_A_WITH_HOOK_ABOVE;SMALL_LETTER_A_WITH_HOOK_ABOVE
CAPITAL_LETTER_A_WITH_CIRCUMFLEX_AND_ACUTE;SMALL_LETTER_A_WITH_CIRCUMFLEX_AND_ACUTE
CAPITAL_LETTER_A_WITH_CIRCUMFLEX_AND_GRAVE;SMALL_LETTER_A_WITH_CIRCUMFLEX_AND_GRAVE
CAPITAL_LETTER_A_WITH_CIRCUMFLEX_AND_HOOK_ABOVE;SMALL_LETTER_A_WITH_CIRCUMFLEX_AND_HOOK_ABOVE
CAPITAL_LETTER_A_WITH_CIRCUMFLEX_AND_TILDE;SMALL_LETTER_A_WITH_CIRCUMFLEX_AND_TILDE
CAPITAL_LETTER_A_WITH_CIRCUMFLEX_AND_DOT_BELOW;SMALL_LETTER_A_WITH_CIRCUMFLEX_AND_DOT_BELOW
CAPITAL_LETTER_A_WITH_BREVE_AND_ACUTE;SMALL_LETTER_A_WITH_BREVE_AND_ACUTE
CAPITAL_LETTER_A_WITH_BREVE_AND_GRAVE;SMALL_LETTER_A_WITH_BREVE_AND_GRAVE
CAPITAL_LETTER_A_WITH_BREVE_AND_HOOK_ABOVE;SMALL_LETTER_A_WITH_BREVE_AND_HOOK_ABOVE
CAPITAL_LETTER_A_WITH_BREVE_AND_TILDE;SMALL_LETTER_A_WITH_BREVE_AND_TILDE
CAPITAL_LETTER_A_WITH_BREVE_AND_DOT_BELOW;SMALL_LETTER_A_WITH_BREVE_AND_DOT_BELOW
CAPITAL_LETTER_E_WITH_DOT_BELOW;SMALL_LETTER_E_WITH_DOT_BELOW;CAPITAL_LETTER_E_WITH_HOOK_ABOVE
SMALL_LETTER_E_WITH_HOOK_ABOVE;CAPITAL_LETTER_E_WITH_TILDE;SMALL_LETTER_E_WITH_TILDE
CAPITAL_LETTER_E_WITH_CIRCUMFLEX_AND_ACUTE;SMALL_LETTER_E_WITH_CIRCUMFLEX_AND_ACUTE
CAPITAL_LETTER_E_WITH_CIRCUMFLEX_AND_GRAVE;SMALL_LETTER_E_WITH_CIRCUMFLEX_AND_GRAVE
CAPITAL_LETTER_E_WITH_CIRCUMFLEX_AND_HOOK_ABOVE;SMALL_LETTER_E_WITH_CIRCUMFLEX_AND_HOOK_ABOVE
CAPITAL_LETTER_E_WITH_CIRCUMFLEX_AND_TILDE;SMALL_LETTER_E_WITH_CIRCUMFLEX_AND_TILDE
CAPITAL_LETTER_E_WITH_CIRCUMFLEX_AND_DOT_BELOW;SMALL_LETTER_E_WITH_CIRCUMFLEX_AND_DOT_BELOW
CAPITAL_LETTER_I_WITH_HOOK_ABOVE;SMALL_LETTER_I_WITH_HOOK_ABOVE;CAPITAL_LETTER_I_WITH_DOT_BELOW
SMALL_LETTER_I_WITH_DOT_BELOW;CAPITAL_LETTER_O_WITH_DOT_BELOW;SMALL_LETTER_O_WITH_DOT_BELOW
CAPITAL_LETTER_O_WITH_HOOK_ABOVE;SMALL_LETTER_O_WITH_HOOK_ABOVE
CAPITAL_LETTER_O_WITH_CIRCUMFLEX_AND_ACUTE;SMALL_LETTER_O_WITH_CIRCUMFLEX_AND_ACUTE
CAPITAL_LETTER_O_WITH_CIRCUMFLEX_AND_GRAVE;SMALL_LETTER_O_WITH_CIRCUMFLEX_AND_GRAVE
CAPITAL_LETTER_O_WITH_CIRCUMFLEX_AND_HOOK_ABOVE;SMALL_LETTER_O_WITH_CIRCUMFLEX_AND_HOOK_ABOVE
CAPITAL_LETTER_O_WITH_CIRCUMFLEX_AND_TILDE;SMALL_LETTER_O_WITH_CIRCUMFLEX_AND_TILDE
CAPITAL_LETTER_O_WITH_CIRCUMFLEX_AND_DOT_BELOW;SMALL_LETTER_O_WITH_CIRCUMFLEX_AND_DOT_BELOW
CAPITAL_LETTER_O_WITH_HORN_AND_ACUTE;SMALL_LETTER_O_WITH_HORN_AND_ACUTE
CAPITAL_LETTER_O_WITH_HORN_AND_GRAVE;SMALL_LETTER_O_WITH_HORN_AND_GRAVE
CAPITAL_LETTER_O_WITH_HORN_AND_HOOK_ABOVE;SMALL_LETTER_O_WITH_HORN_AND_HOOK_ABOVE
CAPITAL_LETTER_O_WITH_HORN_AND_TILDE;SMALL_LETTER_O_WITH_HORN_AND_TILDE
CAPITAL_LETTER_O_WITH_HORN_AND_DOT_BELOW;SMALL_LETTER_O_WITH_HORN_AND_DOT_BELOW
CAPITAL_LETTER_U_WITH_DOT_BELOW;SMALL_LETTER_U_WITH_DOT_BELOW;CAPITAL_LETTER_U_WITH_HOOK_ABOVE
SMALL_LETTER_U_WITH_HOOK_ABOVE;CAPITAL_LETTER_U_WITH_HORN_AND_ACUTE
SMALL_LETTER_U_WITH_HORN_AND_ACUTE;CAPITAL_LETTER_U_WITH_HORN_AND_GRAVE
SMALL_LETTER_U_WITH_HORN_AND_GRAVE;CAPITAL_LETTER_U_WITH_HORN_AND_HOOK_ABOVE
SMALL_LETTER_U_WITH_HORN_AND_HOOK_ABOVE;CAPITAL_LETTER_U_WITH_HORN_AND_TILDE
SMALL_LETTER_U_WITH_HORN_AND_TILDE;CAPITAL_LETTER_U_WITH_HORN_AND_DOT_BELOW
SMALL_LETTER_U_WITH_HORN_AND_DOT_BELOW;CAPITAL_LETTER_Y_WITH_GRAVE;SMALL_LETTER_Y_WITH_GRAVE
CAPITAL_LETTER_Y_WITH_DOT_BELOW;SMALL_LETTER_Y_WITH_DOT_BELOW;CAPITAL_LETTER_Y_WITH_HOOK_ABOVE
SMALL_LETTER_Y_WITH_HOOK_ABOVE;CAPITAL_LETTER_Y_WITH_TILDE;SMALL_LETTER_Y_WITH_TILDE
CAPITAL_LETTER_MIDDLE-WELSH_LL;SMALL_LETTER_MIDDLE-WELSH_LL;CAPITAL_LETTER_MIDDLE-WELSH_V
SMALL_LETTER_MIDDLE-WELSH_V;CAPITAL_LETTER_Y_WITH_LOOP;SMALL_LETTER_Y_WITH_LOOP
1f00=GREEK_SMALL_LETTER_ALPHA_WITH_;PSILI;DASIA;PSILI_AND_VARIA;DASIA_AND_VARIA;PSILI_AND_OXIA
DASIA_AND_OXIA;PSILI_AND_PERISPOMENI;DASIA_AND_PERISPOMENI
1f08=GREEK_CAPITAL_LETTER_ALPHA_WITH_;PSILI;DASIA;PSILI_AND_VARIA;DASIA_AND_VARIA;PSILI_AND_OXIA
DASIA_AND_OXIA;PSILI_AND_PERISPOMENI;DASIA_AND_PERISPOMENI
1f10=GREEK_SMALL_LETTER_EPSILON_WITH_;PSILI;DASIA;PSILI_AND_VARIA;DASIA_AND_VARIA;PSILI_AND_OXIA
DASIA_AND_OXIA;1f18=GREEK_CAPITAL_LETTER_EPSILON_WITH_;PSILI;DASIA;PSILI_AND_VARIA;DASIA_AND_VARIA
PSILI_AND_OXIA;DASIA_AND_OXIA
1f20=GREEK_SMALL_LETTER_ETA_WITH_;PSILI;DASIA;PSILI_AND_VARIA;DASIA_AND_VARIA;PSILI_AND_OXIA
DASIA_AND_OXIA;PSILI_AND_PERISPOMENI;DASIA_AND_PERISPOMENI
1f28=GREEK_CAPITAL_LETTER_ETA_WITH_;PSILI;DASIA;PSILI_AND_VARIA;DASIA_AND_VARIA;PSILI_AND_OXIA
DASIA_AND_OXIA;PSILI_AND_PERISPOMENI;DASIA_AND_PERISPOMENI
1f30=GREEK_SMALL_LETTER_IOTA_WITH_;PSILI;DASIA;PSILI_AND_VARIA;DASIA_AND_VARIA;PSILI_AND_OXIA
DASIA_AND_OXIA;PSILI_AND_PERISPOMENI;DASIA_AND_PERISPOMENI
1f38=GREEK_CAPITAL_LETTER_IOTA_WITH_;PSILI;DASIA;PSILI_AND_VARIA;DASIA_AND_VARIA;PSILI_AND_OXIA
DASIA_AND_OXIA;PSILI_AND_PERISPOMENI;DASIA_AND_PERISPOMENI
1f40=GREEK_SMALL_LETTER_OMICRON_WITH_;PSILI;DASIA;PSILI_AND_VARIA;DASIA_AND_VARIA;PSILI_AND_OXIA
DASIA_AND_OXIA;1f48=GREEK_CAPITAL_LETTER_OMICRON_WITH_;PSILI;DASIA;PSILI_AND_VARIA;DASIA_AND_VARIA
PSILI_AND_OXIA;DASIA_AND_OXIA
1f50=GREEK_SMALL_LETTER_UPSILON_WITH_;PSILI;DASIA;PSILI_AND_VARIA;DASIA_AND_VARIA;PSILI_AND_OXIA
DASIA_AND_OXIA;PSILI_AND_PERISPOMENI;DASIA_AND_PERISPOMENI
1f59=;GREEK_CAPITAL_LETTER_UPSILON_WITH_DASIA;1f5b=
GREEK_CAPITAL_LETTER_UPSILON_WITH_DASIA_AND_VARIA;1f5d=
GREEK_CAPITAL_LETTER_UPSILON_WITH_DASIA_AND_OXIA;1f5f=
GREEK_CAPITAL_LETTER_UPSILON_WITH_DASIA_AND_PERISPOMENI
1f60=GREEK_SMALL_LETTER_OMEGA_WITH_;PSILI;DASIA;PSILI_AND_VARIA;DASIA_AND_VARIA;PSILI_AND_OXIA
DASIA_AND_OXIA;PSILI_AND_PERISPOMENI;DASIA_AND_PERISPOMENI
1f68=GREEK_CAPITAL_LETTER_OMEGA_WITH_;PSILI;DASIA;PSILI_AND_VARIA;DASIA_AND_VARIA;PSILI_AND_OXIA
DASIA_AND_OXIA;PSILI_AND_PERISPOMENI;DASIA_AND_PERISPOMENI
1f70=GREEK_SMALL_LETTER_;ALPHA_WITH_VARIA;ALPHA_WITH_OXIA;EPSILON_WITH_VARIA;EPSILON_WITH_OXIA
ETA_WITH_VARIA;ETA_WITH_OXIA;IOTA_WITH_VARIA;IOTA_WITH_OXIA;OMICRON_WITH_VARIA;OMICRON_WITH_OXIA
UPSILON_WITH_VARIA;UPSILON_WITH_OXIA;OMEGA_WITH_VARIA;OMEGA_WITH_OXIA
1f80=GREEK_SMALL_LETTER_ALPHA_WITH_;PSILI_AND_YPOGEGRAMMENI;DASIA_AND_YPOGEGRAMMENI
PSILI_AND_VARIA_AND_YPOGEGRAMMENI;DASIA_AND_VARIA_AND_YPOGEGRAMMENI;PSILI_AND_OXIA_AND_YPOGEGRAMMENI
DASIA_AND_OXIA_AND_YPOGEGRAMMENI;PSILI_AND_PERISPOMENI_AND_YPOGEGRAMMENI
DASIA_AND_PERISPOMENI_AND_YPOGEGRAMMENI
1f88=GREEK_CAPITAL_LETTER_ALPHA_WITH_;PSILI_AND_PROSGEGRAMMENI;DASIA_AND_PROSGEGRAMMENI
PSILI_AND_VARIA_AND_PROSGEGRAMMENI;DASIA_AND_VARIA_AND_PROSGEGRAMMENI
PSILI_AND_OXIA_AND_PROSGEGRAMMENI;DASIA_AND_OXIA_AND_PROSGEGRAMMENI
PSILI_AND_PERISPOMENI_AND_PROSGEGRAMMENI;DASIA_AND_PERISPOMENI_AND_PROSGEGRAMMENI
1f90=GREEK_SMALL_LETTER_ETA_WITH_;PSILI_AND_YPOGEGRAMMENI;DASIA_AND_YPOGEGRAMMENI
PSILI_AND_VARIA_AND_YPOGEGRAMMENI;DASIA_AND_VARIA_AND_YPOGEGRAMMENI;PSILI_AND_OXIA_AND_YPOGEGRAMMENI
DASIA_AND_OXIA_AND_YPOGEGRAMMENI;PSILI_AND_PERISPOMENI_AND_YPOGEGRAMMENI
DASIA_AND_PERISPOMENI_AND_YPOGEGRAMMENI
1f98=GREEK_CAPITAL_LETTER_ETA_WITH_;PSILI_AND_PROSGEGRAMMENI;DASIA_AND_PROSGEGRAMMENI
PSILI_AND_VARIA_AND_PROSGEGRAMMENI;DASIA_AND_VARIA_AND_PROSGEGRAMMENI
PSILI_AND_OXIA_AND_PROSGEGRAMMENI;DASIA_AND_OXIA_AND_PROSGEGRAMMENI
PSILI_AND_PERISPOMENI_AND_PROSGEGRAMMENI;DASIA_AND_PERISPOMENI_AND_PROSGEGRAMMENI
1fa0=GREEK_SMALL_LETTER_OMEGA_WITH_;PSILI_AND_YPOGEGRAMMENI;DASIA_AND_YPOGEGRAMMENI
PSILI_AND_VARIA_AND_YPOGEGRAMMENI;DASIA_AND_VARIA_AND_YPOGEGRAMMENI;PSILI_AND_OXIA_AND_YPOGEGRAMMENI
DASIA_AND_OXIA_AND_YPOGEGRAMMENI;PSILI_AND_PERISPOMENI_AND_YPOGEGRAMMENI
DASIA_AND_PERISPOMENI_AND_YPOGEGRAMMENI
1fa8=GREEK_CAPITAL_LETTER_OMEGA_WITH_;PSILI_AND_PROSGEGRAMMENI;DASIA_AND_PROSGEGRAMMENI
PSILI_AND_VARIA_AND_PROSGEGRAMMENI;DASIA_AND_VARIA_AND_PROSGEGRAMMENI
PSILI_AND_OXIA_AND_PROSGEGRAMMENI;DASIA_AND_OXIA_AND_PROSGEGRAMMENI
PSILI_AND_PERISPOMENI_AND_PROSGEGRAMMENI;DASIA_AND_PERISPOMENI_AND_PROSGEGRAMMENI
1fb0=GREEK_SMALL_LETTER_ALPHA_WITH_;VRACHY;MACRON;VARIA_AND_YPOGEGRAMMENI;YPOGEGRAMMENI
OXIA_AND_YPOGEGRAMMENI;1fb6=GREEK_SMALL_LETTER_ALPHA_WITH_;PERISPOMENI;PERISPOMENI_AND_YPOGEGRAMMENI
1fb8=GREEK_CAPITAL_LETTER_ALPHA_WITH_;VRACHY;MACRON;VARIA;OXIA;PROSGEGRAMMENI
1fbd=GREEK_;KORONIS;PROSGEGRAMMENI;PSILI;PERISPOMENI;DIALYTIKA_AND_PERISPOMENI
1fc2=GREEK_SMALL_LETTER_ETA_WITH_;VARIA_AND_YPOGEGRAMMENI;YPOGEGRAMMENI;OXIA_AND_YPOGEGRAMMENI
1fc6=GREEK_SMALL_LETTER_ETA_WITH_;PERISPOMENI;PERISPOMENI_AND_YPOGEGRAMMENI
1fc8=GREEK_CAPITAL_LETTER_EPSILON_WITH_;VARIA;OXIA
1fca=GREEK_CAPITAL_LETTER_ETA_WITH_;VARIA;OXIA;PROSGEGRAMMENI
1fcd=GREEK_PSILI_AND_;VARIA;OXIA;PERISPOMENI
1fd0=GREEK_SMALL_LETTER_IOTA_WITH_;VRACHY;MACRON;DIALYTIKA_AND_VARIA;DIALYTIKA_AND_OXIA
1fd6=GREEK_SMALL_LETTER_IOTA_WITH_;PERISPOMENI;DIALYTIKA_AND_PERISPOMENI
1fd8=GREEK_CAPITAL_LETTER_IOTA_WITH_;VRACHY;MACRON;VARIA;OXIA
1fdd=GREEK_DASIA_AND_;VARIA;OXIA;PERISPOMENI
1fe0=GREEK_SMALL_LETTER_UPSILON_WITH_;VRACHY;MACRON;DIALYTIKA_AND_VARIA;DIALYTIKA_AND_OXIA
1fe4=GREEK_SMALL_LETTER_;RHO_WITH_PSILI;RHO_WITH_DASIA;UPSILON_WITH_PERISPOMENI
UPSILON_WITH_DIALYTIKA_AND_PERISPOMENI
1fe8=GREEK_CAPITAL_LETTER_UPSILON_WITH_;VRACHY;MACRON;VARIA;OXIA
1fec=GREEK_;CAPITAL_LETTER_RHO_WITH_DASIA;DIALYTIKA_AND_VARIA;DIALYTIKA_AND_OXIA;VARIA
1ff2=GREEK_SMALL_LETTER_OMEGA_WITH_;VARIA_AND_YPOGEGRAMMENI;YPOGEGRAMMENI;OXIA_AND_YPOGEGRAMMENI
1ff6=GREEK_SMALL_LETTER_OMEGA_WITH_;PERISPOMENI;PERISPOMENI_AND_YPOGEGRAMMENI
1ff8=GREEK_CAPITAL_LETTER_OMICRON_WITH_;VARIA;OXIA
1ffa=GREEK_CAPITAL_LETTER_OMEGA_WITH_;VARIA;OXIA;PROSGEGRAMMENI
1ffd=GREEK_;OXIA;DASIA"

end ShaderShrink.Text.NameTable
