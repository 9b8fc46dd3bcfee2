/-!
# Names of signs

Punctuation, signs for numbers, currencies and operations, and dingbats.

A row begins with a code point in base sixteen and with what some names begin with; the ends of these
names follow, for one code point after the other.  A low line stands for a blank.
-/

namespace ShaderShrink.Text.NameTable

/-- The names of the characters from the general punctuation up to the radicals. -/
def signs : String :=
  "2000=;EN_QUAD;2001=;EM_QUAD;EN_SPACE;EM_SPACE;THREE-PER-EM_SPACE;FOUR-PER-EM_SPACE
2006=;SIX-PER-EM_SPACE;FIGURE_SPACE;PUNCTUATION_SPACE;THIN_SPACE;HAIR_SPACE
200b=ZERO_WIDTH_;SPACE;NON-JOINER;JOINER;200e=;LEFT-TO-RIGHT_MARK;RIGHT-TO-LEFT_MARK;HYPHEN
2011=;NON-BREAKING_HYPHEN;FIGURE_DASH;EN_DASH;EM_DASH;HORIZONTAL_BAR
2016=DOUBLE_;VERTICAL_LINE;LOW_LINE;2018=;LEFT_SINGLE_QUOTATION_MARK;RIGHT_SINGLE_QUOTATION_MARK
201a=SINGLE_;LOW-9_QUOTATION_MARK;HIGH-REVERSED-9_QUOTATION_MARK
201c=;LEFT_DOUBLE_QUOTATION_MARK;RIGHT_DOUBLE_QUOTATION_MARK;DOUBLE_LOW-9_QUOTATION_MARK
DOUBLE_HIGH-REVERSED-9_QUOTATION_MARK;DAGGER;2021=;DOUBLE_DAGGER;BULLET;TRIANGULAR_BULLET
ONE_DOT_LEADER;TWO_DOT_LEADER;2026=;HORIZONTAL_ELLIPSIS;HYPHENATION_POINT;LINE_SEPARATOR
PARAGRAPH_SEPARATOR;LEFT-TO-RIGHT_EMBEDDING;202b=;RIGHT-TO-LEFT_EMBEDDING;POP_DIRECTIONAL_FORMATTING
LEFT-TO-RIGHT_OVERRIDE;RIGHT-TO-LEFT_OVERRIDE;NARROW_NO-BREAK_SPACE
2030=;PER_MILLE_SIGN;PER_TEN_THOUSAND_SIGN;PRIME;DOUBLE_PRIME;TRIPLE_PRIME
2035=REVERSED_;PRIME;DOUBLE_PRIME;TRIPLE_PRIME;2038=;CARET;SINGLE_LEFT-POINTING_ANGLE_QUOTATION_MARK
SINGLE_RIGHT-POINTING_ANGLE_QUOTATION_MARK;REFERENCE_MARK;DOUBLE_EXCLAMATION_MARK
203d=;INTERROBANG;OVERLINE;UNDERTIE;CHARACTER_TIE;CARET_INSERTION_POINT
2042=;ASTERISM;HYPHEN_BULLET;FRACTION_SLASH;LEFT_SQUARE_BRACKET_WITH_QUILL
RIGHT_SQUARE_BRACKET_WITH_QUILL;2047=;DOUBLE_QUESTION_MARK;QUESTION_EXCLAMATION_MARK
EXCLAMATION_QUESTION_MARK;TIRONIAN_SIGN_ET;REVERSED_PILCROW_SIGN
204c=BLACK_;LEFTWARDS_BULLET;RIGHTWARDS_BULLET;204e=;LOW_ASTERISK;REVERSED_SEMICOLON;CLOSE_UP
TWO_ASTERISKS_ALIGNED_VERTICALLY;COMMERCIAL_MINUS_SIGN;2053=;SWUNG_DASH;INVERTED_UNDERTIE
FLOWER_PUNCTUATION_MARK;THREE_DOT_PUNCTUATION;QUADRUPLE_PRIME
2058=;FOUR_DOT_PUNCTUATION;FIVE_DOT_PUNCTUATION;TWO_DOT_PUNCTUATION;FOUR_DOT_MARK;DOTTED_CROSS
205d=;TRICOLON;VERTICAL_FOUR_DOTS;MEDIUM_MATHEMATICAL_SPACE;WORD_JOINER;FUNCTION_APPLICATION
2062=INVISIBLE_;TIMES;SEPARATOR;PLUS;2066=;LEFT-TO-RIGHT_ISOLATE;RIGHT-TO-LEFT_ISOLATE
FIRST_STRONG_ISOLATE;POP_DIRECTIONAL_ISOLATE;INHIBIT_SYMMETRIC_SWAPPING
206b=;ACTIVATE_SYMMETRIC_SWAPPING;INHIBIT_ARABIC_FORM_SHAPING;ACTIVATE_ARABIC_FORM_SHAPING
NATIONAL_DIGIT_SHAPES;NOMINAL_DIGIT_SHAPES;2070=SUPERSCRIPT_;ZERO;LATIN_SMALL_LETTER_I
2074=SUPERSCRIPT_;FOUR;FIVE;SIX;SEVEN;EIGHT;NINE;PLUS_SIGN;MINUS;EQUALS_SIGN;LEFT_PARENTHESIS
RIGHT_PARENTHESIS;LATIN_SMALL_LETTER_N;2080=SUBSCRIPT_;ZERO;ONE;TWO;THREE;FOUR;FIVE;SIX;SEVEN;EIGHT
NINE;PLUS_SIGN;MINUS;EQUALS_SIGN;LEFT_PARENTHESIS;RIGHT_PARENTHESIS
2090=LATIN_SUBSCRIPT_SMALL_LETTER_;A;E;O;X;SCHWA;H;K;L;M;N;P;S;T
20a0=;EURO-CURRENCY_SIGN;COLON_SIGN;CRUZEIRO_SIGN;20a3=;FRENCH_FRANC_SIGN;LIRA_SIGN;MILL_SIGN
NAIRA_SIGN;PESETA_SIGN;20a8=;RUPEE_SIGN;WON_SIGN;NEW_SHEQEL_SIGN;DONG_SIGN;EURO_SIGN
20ad=;KIP_SIGN;TUGRIK_SIGN;DRACHMA_SIGN;GERMAN_PENNY_SIGN;PESO_SIGN
20b2=;GUARANI_SIGN;AUSTRAL_SIGN;HRYVNIA_SIGN;CEDI_SIGN;LIVRE_TOURNOIS_SIGN
20b7=;SPESMILO_SIGN;TENGE_SIGN;INDIAN_RUPEE_SIGN;TURKISH_LIRA_SIGN;NORDIC_MARK_SIGN
20bc=;MANAT_SIGN;RUBLE_SIGN;LARI_SIGN;BITCOIN_SIGN;SOM_SIGN
20d0=COMBINING_;LEFT_HARPOON_ABOVE;RIGHT_HARPOON_ABOVE;LONG_VERTICAL_LINE_OVERLAY
SHORT_VERTICAL_LINE_OVERLAY;ANTICLOCKWISE_ARROW_ABOVE;CLOCKWISE_ARROW_ABOVE;LEFT_ARROW_ABOVE
RIGHT_ARROW_ABOVE;RING_OVERLAY;CLOCKWISE_RING_OVERLAY;ANTICLOCKWISE_RING_OVERLAY;THREE_DOTS_ABOVE
FOUR_DOTS_ABOVE;ENCLOSING_CIRCLE;ENCLOSING_SQUARE;ENCLOSING_DIAMOND;ENCLOSING_CIRCLE_BACKSLASH
LEFT_RIGHT_ARROW_ABOVE;ENCLOSING_SCREEN;ENCLOSING_KEYCAP;ENCLOSING_UPWARD_POINTING_TRIANGLE
REVERSE_SOLIDUS_OVERLAY;DOUBLE_VERTICAL_STROKE_OVERLAY;ANNUITY_SYMBOL;TRIPLE_UNDERDOT
WIDE_BRIDGE_ABOVE;LEFTWARDS_ARROW_OVERLAY;LONG_DOUBLE_SOLIDUS_OVERLAY
RIGHTWARDS_HARPOON_WITH_BARB_DOWNWARDS;LEFTWARDS_HARPOON_WITH_BARB_DOWNWARDS;LEFT_ARROW_BELOW
RIGHT_ARROW_BELOW;ASTERISK_ABOVE;2100=;ACCOUNT_OF;ADDRESSED_TO_THE_SUBJECT;DOUBLE-STRUCK_CAPITAL_C
DEGREE_CELSIUS;CENTRE_LINE_SYMBOL;2105=;CARE_OF;CADA_UNA;EULER_CONSTANT;SCRUPLE;DEGREE_FAHRENHEIT
210a=SCRIPT_;SMALL_G;CAPITAL_H;210c=;BLACK-LETTER_CAPITAL_H;DOUBLE-STRUCK_CAPITAL_H
210e=PLANCK_;CONSTANT;CONSTANT_OVER_TWO_PI;2110=;SCRIPT_CAPITAL_I;BLACK-LETTER_CAPITAL_I
2112=SCRIPT_;CAPITAL_L;SMALL_L;2114=;L_B_BAR_SYMBOL;DOUBLE-STRUCK_CAPITAL_N;NUMERO_SIGN
SOUND_RECORDING_COPYRIGHT;SCRIPT_CAPITAL_P
2119=DOUBLE-STRUCK_CAPITAL_;P;Q;211b=;SCRIPT_CAPITAL_R;BLACK-LETTER_CAPITAL_R
DOUBLE-STRUCK_CAPITAL_R;PRESCRIPTION_TAKE;RESPONSE;2120=;SERVICE_MARK;TELEPHONE_SIGN;TRADE_MARK_SIGN
VERSICLE;DOUBLE-STRUCK_CAPITAL_Z;2125=;OUNCE_SIGN;OHM_SIGN;INVERTED_OHM_SIGN;BLACK-LETTER_CAPITAL_Z
TURNED_GREEK_SMALL_LETTER_IOTA;212a=;KELVIN_SIGN;ANGSTROM_SIGN;SCRIPT_CAPITAL_B
BLACK-LETTER_CAPITAL_C;ESTIMATED_SYMBOL;212f=SCRIPT_;SMALL_E;CAPITAL_E;CAPITAL_F
2132=;TURNED_CAPITAL_F;SCRIPT_CAPITAL_M;SCRIPT_SMALL_O;ALEF_SYMBOL;BET_SYMBOL
2137=;GIMEL_SYMBOL;DALET_SYMBOL;INFORMATION_SOURCE;ROTATED_CAPITAL_Q;FACSIMILE_SIGN
213c=DOUBLE-STRUCK_;SMALL_PI;SMALL_GAMMA;CAPITAL_GAMMA;CAPITAL_PI;N-ARY_SUMMATION
2141=TURNED_SANS-SERIF_CAPITAL_;G;L;2143=;REVERSED_SANS-SERIF_CAPITAL_L;TURNED_SANS-SERIF_CAPITAL_Y
2145=DOUBLE-STRUCK_ITALIC_;CAPITAL_D;SMALL_D;SMALL_E;SMALL_I;SMALL_J
214a=;PROPERTY_LINE;214b=;TURNED_AMPERSAND;PER_SIGN;AKTIESELSKAB;TURNED_SMALL_F
SYMBOL_FOR_SAMARITAN_SOURCE;2150=VULGAR_FRACTION_;ONE_SEVENTH;ONE_NINTH;ONE_TENTH;ONE_THIRD
TWO_THIRDS;ONE_FIFTH;TWO_FIFTHS;THREE_FIFTHS;FOUR_FIFTHS;ONE_SIXTH;FIVE_SIXTHS;ONE_EIGHTH
THREE_EIGHTHS;FIVE_EIGHTHS;SEVEN_EIGHTHS;215f=;FRACTION_NUMERATOR_ONE
2160=ROMAN_NUMERAL_;ONE;TWO;THREE;FOUR;FIVE;SIX;SEVEN;EIGHT;NINE;TEN;ELEVEN;TWELVE;FIFTY;ONE_HUNDRED
FIVE_HUNDRED;ONE_THOUSAND;2170=SMALL_ROMAN_NUMERAL_;ONE;TWO;THREE;FOUR;FIVE;SIX;SEVEN;EIGHT;NINE;TEN
ELEVEN;TWELVE;FIFTY;ONE_HUNDRED;FIVE_HUNDRED;ONE_THOUSAND
2180=ROMAN_NUMERAL_;ONE_THOUSAND_C_D;FIVE_THOUSAND;TEN_THOUSAND;REVERSED_ONE_HUNDRED
2184=;LATIN_SMALL_LETTER_REVERSED_C;2185=ROMAN_NUMERAL_;SIX_LATE_FORM;FIFTY_EARLY_FORM
FIFTY_THOUSAND;ONE_HUNDRED_THOUSAND;2189=;VULGAR_FRACTION_ZERO_THIRDS
218a=TURNED_DIGIT_;TWO;THREE;2190=;LEFTWARDS_ARROW;UPWARDS_ARROW;RIGHTWARDS_ARROW;DOWNWARDS_ARROW
2194=;LEFT_RIGHT_ARROW;UP_DOWN_ARROW;NORTH_WEST_ARROW;NORTH_EAST_ARROW;SOUTH_EAST_ARROW
2199=;SOUTH_WEST_ARROW;LEFTWARDS_ARROW_WITH_STROKE;RIGHTWARDS_ARROW_WITH_STROKE;LEFTWARDS_WAVE_ARROW
RIGHTWARDS_WAVE_ARROW;219e=;LEFTWARDS_TWO_HEADED_ARROW;UPWARDS_TWO_HEADED_ARROW
RIGHTWARDS_TWO_HEADED_ARROW;DOWNWARDS_TWO_HEADED_ARROW;LEFTWARDS_ARROW_WITH_TAIL
21a3=;RIGHTWARDS_ARROW_WITH_TAIL;LEFTWARDS_ARROW_FROM_BAR;UPWARDS_ARROW_FROM_BAR
RIGHTWARDS_ARROW_FROM_BAR;DOWNWARDS_ARROW_FROM_BAR;21a8=;UP_DOWN_ARROW_WITH_BASE
LEFTWARDS_ARROW_WITH_HOOK;RIGHTWARDS_ARROW_WITH_HOOK;LEFTWARDS_ARROW_WITH_LOOP
RIGHTWARDS_ARROW_WITH_LOOP;21ad=LEFT_RIGHT_;WAVE_ARROW;ARROW_WITH_STROKE
21af=;DOWNWARDS_ZIGZAG_ARROW;21b0=UPWARDS_ARROW_WITH_TIP_;LEFTWARDS;RIGHTWARDS
21b2=DOWNWARDS_ARROW_WITH_TIP_;LEFTWARDS;RIGHTWARDS;21b4=;RIGHTWARDS_ARROW_WITH_CORNER_DOWNWARDS
DOWNWARDS_ARROW_WITH_CORNER_LEFTWARDS;ANTICLOCKWISE_TOP_SEMICIRCLE_ARROW
21b7=;CLOCKWISE_TOP_SEMICIRCLE_ARROW;NORTH_WEST_ARROW_TO_LONG_BAR
LEFTWARDS_ARROW_TO_BAR_OVER_RIGHTWARDS_ARROW_TO_BAR;ANTICLOCKWISE_OPEN_CIRCLE_ARROW
CLOCKWISE_OPEN_CIRCLE_ARROW
21bc=LEFTWARDS_HARPOON_WITH_BARB_;UPWARDS;DOWNWARDS
21be=UPWARDS_HARPOON_WITH_BARB_;RIGHTWARDS;LEFTWARDS
21c0=RIGHTWARDS_HARPOON_WITH_BARB_;UPWARDS;DOWNWARDS
21c2=DOWNWARDS_HARPOON_WITH_BARB_;RIGHTWARDS;LEFTWARDS;21c4=;RIGHTWARDS_ARROW_OVER_LEFTWARDS_ARROW
UPWARDS_ARROW_LEFTWARDS_OF_DOWNWARDS_ARROW;21c6=LEFTWARDS_;ARROW_OVER_RIGHTWARDS_ARROW;PAIRED_ARROWS
21c8=;UPWARDS_PAIRED_ARROWS;RIGHTWARDS_PAIRED_ARROWS;DOWNWARDS_PAIRED_ARROWS
LEFTWARDS_HARPOON_OVER_RIGHTWARDS_HARPOON;21cc=;RIGHTWARDS_HARPOON_OVER_LEFTWARDS_HARPOON
LEFTWARDS_DOUBLE_ARROW_WITH_STROKE;LEFT_RIGHT_DOUBLE_ARROW_WITH_STROKE
RIGHTWARDS_DOUBLE_ARROW_WITH_STROKE;LEFTWARDS_DOUBLE_ARROW
21d1=;UPWARDS_DOUBLE_ARROW;RIGHTWARDS_DOUBLE_ARROW;DOWNWARDS_DOUBLE_ARROW;LEFT_RIGHT_DOUBLE_ARROW
UP_DOWN_DOUBLE_ARROW;21d6=;NORTH_WEST_DOUBLE_ARROW;NORTH_EAST_DOUBLE_ARROW;SOUTH_EAST_DOUBLE_ARROW
SOUTH_WEST_DOUBLE_ARROW;LEFTWARDS_TRIPLE_ARROW;21db=;RIGHTWARDS_TRIPLE_ARROW
LEFTWARDS_SQUIGGLE_ARROW;RIGHTWARDS_SQUIGGLE_ARROW;UPWARDS_ARROW_WITH_DOUBLE_STROKE
DOWNWARDS_ARROW_WITH_DOUBLE_STROKE;21e0=;LEFTWARDS_DASHED_ARROW;UPWARDS_DASHED_ARROW
RIGHTWARDS_DASHED_ARROW;DOWNWARDS_DASHED_ARROW;LEFTWARDS_ARROW_TO_BAR
21e5=;RIGHTWARDS_ARROW_TO_BAR;LEFTWARDS_WHITE_ARROW;UPWARDS_WHITE_ARROW;RIGHTWARDS_WHITE_ARROW
DOWNWARDS_WHITE_ARROW;21ea=UPWARDS_WHITE_ARROW_;FROM_BAR;ON_PEDESTAL;ON_PEDESTAL_WITH_HORIZONTAL_BAR
ON_PEDESTAL_WITH_VERTICAL_BAR;21ee=UPWARDS_WHITE_DOUBLE_;ARROW;ARROW_ON_PEDESTAL
21f0=;RIGHTWARDS_WHITE_ARROW_FROM_WALL;NORTH_WEST_ARROW_TO_CORNER;SOUTH_EAST_ARROW_TO_CORNER
UP_DOWN_WHITE_ARROW;21f4=;RIGHT_ARROW_WITH_SMALL_CIRCLE;DOWNWARDS_ARROW_LEFTWARDS_OF_UPWARDS_ARROW
THREE_RIGHTWARDS_ARROWS;LEFTWARDS_ARROW_WITH_VERTICAL_STROKE;RIGHTWARDS_ARROW_WITH_VERTICAL_STROKE
21f9=;LEFT_RIGHT_ARROW_WITH_VERTICAL_STROKE;LEFTWARDS_ARROW_WITH_DOUBLE_VERTICAL_STROKE
RIGHTWARDS_ARROW_WITH_DOUBLE_VERTICAL_STROKE;LEFT_RIGHT_ARROW_WITH_DOUBLE_VERTICAL_STROKE
LEFTWARDS_OPEN-HEADED_ARROW;21fe=;RIGHTWARDS_OPEN-HEADED_ARROW;LEFT_RIGHT_OPEN-HEADED_ARROW;FOR_ALL
COMPLEMENT;PARTIAL_DIFFERENTIAL;2203=THERE_;EXISTS;DOES_NOT_EXIST
2205=;EMPTY_SET;INCREMENT;NABLA;ELEMENT_OF;NOT_AN_ELEMENT_OF
220a=;SMALL_ELEMENT_OF;CONTAINS_AS_MEMBER;DOES_NOT_CONTAIN_AS_MEMBER;SMALL_CONTAINS_AS_MEMBER
END_OF_PROOF;220f=N-ARY_;PRODUCT;COPRODUCT;SUMMATION;2212=;MINUS_SIGN
2213=;MINUS-OR-PLUS_SIGN;DOT_PLUS;DIVISION_SLASH;SET_MINUS;ASTERISK_OPERATOR
2218=;RING_OPERATOR;BULLET_OPERATOR;SQUARE_ROOT;CUBE_ROOT;FOURTH_ROOT
221d=;PROPORTIONAL_TO;INFINITY;RIGHT_ANGLE;ANGLE;MEASURED_ANGLE
2222=;SPHERICAL_ANGLE;DIVIDES;DOES_NOT_DIVIDE;PARALLEL_TO;NOT_PARALLEL_TO
2227=LOGICAL_;AND;OR;2229=;INTERSECTION;UNION;INTEGRAL;222c=;DOUBLE_INTEGRAL;TRIPLE_INTEGRAL
CONTOUR_INTEGRAL;SURFACE_INTEGRAL;VOLUME_INTEGRAL
2231=CLOCKWISE_;INTEGRAL;CONTOUR_INTEGRAL;2233=;ANTICLOCKWISE_CONTOUR_INTEGRAL;THEREFORE;BECAUSE
2236=;RATIO;PROPORTION;DOT_MINUS;EXCESS;GEOMETRIC_PROPORTION
223b=;HOMOTHETIC;TILDE_OPERATOR;REVERSED_TILDE;INVERTED_LAZY_S;SINE_WAVE
2240=;WREATH_PRODUCT;NOT_TILDE;MINUS_TILDE;ASYMPTOTICALLY_EQUAL_TO;NOT_ASYMPTOTICALLY_EQUAL_TO
2245=APPROXIMATELY_;EQUAL_TO;BUT_NOT_ACTUALLY_EQUAL_TO;2247=
NEITHER_APPROXIMATELY_NOR_ACTUALLY_EQUAL_TO;ALMOST_EQUAL_TO;NOT_ALMOST_EQUAL_TO
224a=;ALMOST_EQUAL_OR_EQUAL_TO;TRIPLE_TILDE;ALL_EQUAL_TO;EQUIVALENT_TO;GEOMETRICALLY_EQUIVALENT_TO
224f=;DIFFERENCE_BETWEEN;APPROACHES_THE_LIMIT;GEOMETRICALLY_EQUAL_TO
APPROXIMATELY_EQUAL_TO_OR_THE_IMAGE_OF;IMAGE_OF_OR_APPROXIMATELY_EQUAL_TO
2254=;COLON_EQUALS;EQUALS_COLON;RING_IN_EQUAL_TO;RING_EQUAL_TO;CORRESPONDS_TO
2259=;ESTIMATES;EQUIANGULAR_TO;STAR_EQUALS;DELTA_EQUAL_TO;EQUAL_TO_BY_DEFINITION
225e=;MEASURED_BY;QUESTIONED_EQUAL_TO;NOT_EQUAL_TO;IDENTICAL_TO;NOT_IDENTICAL_TO
2263=;STRICTLY_EQUIVALENT_TO;LESS-THAN_OR_EQUAL_TO;GREATER-THAN_OR_EQUAL_TO;LESS-THAN_OVER_EQUAL_TO
GREATER-THAN_OVER_EQUAL_TO;2268=;LESS-THAN_BUT_NOT_EQUAL_TO;GREATER-THAN_BUT_NOT_EQUAL_TO
MUCH_LESS-THAN;MUCH_GREATER-THAN;BETWEEN;226d=NOT_;EQUIVALENT_TO;LESS-THAN;GREATER-THAN
2270=NEITHER_;LESS-THAN_NOR_EQUAL_TO;GREATER-THAN_NOR_EQUAL_TO
2272=;LESS-THAN_OR_EQUIVALENT_TO;GREATER-THAN_OR_EQUIVALENT_TO
2274=NEITHER_;LESS-THAN_NOR_EQUIVALENT_TO;GREATER-THAN_NOR_EQUIVALENT_TO
2276=;LESS-THAN_OR_GREATER-THAN;GREATER-THAN_OR_LESS-THAN;NEITHER_LESS-THAN_NOR_GREATER-THAN
NEITHER_GREATER-THAN_NOR_LESS-THAN;PRECEDES;227b=;SUCCEEDS;PRECEDES_OR_EQUAL_TO;SUCCEEDS_OR_EQUAL_TO
PRECEDES_OR_EQUIVALENT_TO;SUCCEEDS_OR_EQUIVALENT_TO
2280=DOES_NOT_;PRECEDE;SUCCEED;2282=;SUBSET_OF;2283=;SUPERSET_OF;NOT_A_SUBSET_OF;NOT_A_SUPERSET_OF
SUBSET_OF_OR_EQUAL_TO;SUPERSET_OF_OR_EQUAL_TO
2288=NEITHER_A_;SUBSET_OF_NOR_EQUAL_TO;SUPERSET_OF_NOR_EQUAL_TO
228a=;SUBSET_OF_WITH_NOT_EQUAL_TO;SUPERSET_OF_WITH_NOT_EQUAL_TO;MULTISET
228d=MULTISET_;MULTIPLICATION;UNION;228f=;SQUARE_IMAGE_OF
2290=SQUARE_ORIGIN;AL_OF;2291=;SQUARE_IMAGE_OF_OR_EQUAL_TO
2292=SQUARE_ORIGIN;AL_OF_OR_EQUAL_TO;2293=SQUARE_;CAP;CUP
2295=CIRCLED_;PLUS;MINUS;TIMES;DIVISION_SLASH;DOT_OPERATOR;RING_OPERATOR;ASTERISK_OPERATOR;EQUALS
DASH;229e=SQUARED_;PLUS;MINUS;TIMES;DOT_OPERATOR;22a2=;RIGHT_TACK;LEFT_TACK;DOWN_TACK;UP_TACK
ASSERTION;22a7=;MODELS;TRUE;FORCES;TRIPLE_VERTICAL_BAR_RIGHT_TURNSTILE
DOUBLE_VERTICAL_BAR_DOUBLE_RIGHT_TURNSTILE;22ac=;DOES_NOT_PROVE;NOT_TRUE;DOES_NOT_FORCE
NEGATED_DOUBLE_VERTICAL_BAR_DOUBLE_RIGHT_TURNSTILE;PRECEDES_UNDER_RELATION
22b1=;SUCCEEDS_UNDER_RELATION;NORMAL_SUBGROUP_OF;CONTAINS_AS_NORMAL_SUBGROUP
NORMAL_SUBGROUP_OF_OR_EQUAL_TO;CONTAINS_AS_NORMAL_SUBGROUP_OR_EQUAL_TO
22b6=ORIGIN;AL_OF;22b7=;IMAGE_OF;MULTIMAP;HERMITIAN_CONJUGATE_MATRIX;INTERCALATE
22bb=;XOR;NAND;NOR;RIGHT_ANGLE_WITH_ARC;RIGHT_TRIANGLE
22c0=N-ARY_;LOGICAL_AND;LOGICAL_OR;INTERSECTION;UNION;22c4=;DIAMOND_OPERATOR;DOT_OPERATOR
STAR_OPERATOR;DIVISION_TIMES;BOWTIE;22c9=;LEFT_NORMAL_FACTOR_SEMIDIRECT_PRODUCT
RIGHT_NORMAL_FACTOR_SEMIDIRECT_PRODUCT;LEFT_SEMIDIRECT_PRODUCT;RIGHT_SEMIDIRECT_PRODUCT
REVERSED_TILDE_EQUALS;22ce=CURLY_LOGICAL_;OR;AND
22d0=DOUBLE_;SUBSET;SUPERSET;INTERSECTION;UNION;22d4=;PITCHFORK;EQUAL_AND_PARALLEL_TO
LESS-THAN_WITH_DOT;GREATER-THAN_WITH_DOT;22d8=VERY_MUCH_;LESS-THAN;GREATER-THAN
22da=;LESS-THAN_EQUAL_TO_OR_GREATER-THAN;GREATER-THAN_EQUAL_TO_OR_LESS-THAN
22dc=EQUAL_TO_OR_;LESS-THAN;GREATER-THAN;PRECEDES;SUCCEEDS
22e0=DOES_NOT_;PRECEDE_OR_EQUAL;SUCCEED_OR_EQUAL;22e2=;NOT_SQUARE_IMAGE_OF_OR_EQUAL_TO
22e3=NOT_SQUARE_ORIGIN;AL_OF_OR_EQUAL_TO;22e4=;SQUARE_IMAGE_OF_OR_NOT_EQUAL_TO
22e5=SQUARE_ORIGIN;AL_OF_OR_NOT_EQUAL_TO;22e6=;LESS-THAN_BUT_NOT_EQUIVALENT_TO
GREATER-THAN_BUT_NOT_EQUIVALENT_TO;22e8=;PRECEDES_BUT_NOT_EQUIVALENT_TO
SUCCEEDS_BUT_NOT_EQUIVALENT_TO;NOT_NORMAL_SUBGROUP_OF;DOES_NOT_CONTAIN_AS_NORMAL_SUBGROUP
NOT_NORMAL_SUBGROUP_OF_OR_EQUAL_TO;22ed=;DOES_NOT_CONTAIN_AS_NORMAL_SUBGROUP_OR_EQUAL
VERTICAL_ELLIPSIS;MIDLINE_HORIZONTAL_ELLIPSIS;UP_RIGHT_DIAGONAL_ELLIPSIS
DOWN_RIGHT_DIAGONAL_ELLIPSIS;22f2=ELEMENT_OF_WITH_;LONG_HORIZONTAL_STROKE
VERTICAL_BAR_AT_END_OF_HORIZONTAL_STROKE;22f4=
SMALL_ELEMENT_OF_WITH_VERTICAL_BAR_AT_END_OF_HORIZONTAL_STROKE
22f5=ELEMENT_OF_WITH_;DOT_ABOVE;OVERBAR;22f7=;SMALL_ELEMENT_OF_WITH_OVERBAR
22f8=ELEMENT_OF_WITH_;UNDERBAR;TWO_HORIZONTAL_STROKES
22fa=CONTAINS_WITH_;LONG_HORIZONTAL_STROKE;VERTICAL_BAR_AT_END_OF_HORIZONTAL_STROKE
22fc=;SMALL_CONTAINS_WITH_VERTICAL_BAR_AT_END_OF_HORIZONTAL_STROKE
22fd=;CONTAINS_WITH_OVERBAR;SMALL_CONTAINS_WITH_OVERBAR;Z_NOTATION_BAG_MEMBERSHIP;DIAMETER_SIGN
ELECTRIC_ARROW;2302=;HOUSE;UP_ARROWHEAD;DOWN_ARROWHEAD;PROJECTIVE;PERSPECTIVE
2307=;WAVY_LINE;LEFT_CEILING;RIGHT_CEILING;LEFT_FLOOR;RIGHT_FLOOR
230c=BOTTOM_;RIGHT_CROP;LEFT_CROP;230e=;TOP_RIGHT_CROP;TOP_LEFT_CROP;REVERSED_NOT_SIGN
SQUARE_LOZENGE;ARC;2313=;SEGMENT;SECTOR;TELEPHONE_RECORDER;POSITION_INDICATOR;VIEWDATA_SQUARE
2318=;PLACE_OF_INTEREST_SIGN;TURNED_NOT_SIGN;WATCH;HOURGLASS;TOP_LEFT_CORNER
231d=;TOP_RIGHT_CORNER;BOTTOM_LEFT_CORNER;BOTTOM_RIGHT_CORNER;TOP_HALF_INTEGRAL;BOTTOM_HALF_INTEGRAL
2322=;FROWN;SMILE;UP_ARROWHEAD_BETWEEN_TWO_HORIZONTAL_BARS;OPTION_KEY;ERASE_TO_THE_RIGHT
2327=;X_IN_A_RECTANGLE_BOX;KEYBOARD;LEFT-POINTING_ANGLE_BRACKET;RIGHT-POINTING_ANGLE_BRACKET
ERASE_TO_THE_LEFT;232c=;BENZENE_RING;CYLINDRICITY;ALL_AROUND-PROFILE;SYMMETRY;TOTAL_RUNOUT
2331=;DIMENSION_ORIGIN;CONICAL_TAPER;SLOPE;COUNTERBORE;COUNTERSINK
2336=APL_FUNCTIONAL_SYMBOL_;I-BEAM;SQUISH_QUAD;QUAD_EQUAL;QUAD_DIVIDE;QUAD_DIAMOND;QUAD_JOT
QUAD_CIRCLE;CIRCLE_STILE;CIRCLE_JOT;SLASH_BAR;BACKSLASH_BAR;QUAD_SLASH;QUAD_BACKSLASH;QUAD_LESS-THAN
QUAD_GREATER-THAN;LEFTWARDS_VANE;RIGHTWARDS_VANE;QUAD_LEFTWARDS_ARROW;QUAD_RIGHTWARDS_ARROW
CIRCLE_BACKSLASH;DOWN_TACK_UNDERBAR;DELTA_STILE;QUAD_DOWN_CARET;QUAD_DELTA;DOWN_TACK_JOT
UPWARDS_VANE;QUAD_UPWARDS_ARROW;UP_TACK_OVERBAR;DEL_STILE;QUAD_UP_CARET;QUAD_DEL;UP_TACK_JOT
DOWNWARDS_VANE;QUAD_DOWNWARDS_ARROW;QUOTE_UNDERBAR;DELTA_UNDERBAR;DIAMOND_UNDERBAR;JOT_UNDERBAR
CIRCLE_UNDERBAR;UP_SHOE_JOT;QUOTE_QUAD;CIRCLE_STAR;QUAD_COLON;UP_TACK_DIAERESIS;DEL_DIAERESIS
STAR_DIAERESIS;JOT_DIAERESIS;CIRCLE_DIAERESIS;DOWN_SHOE_STILE;LEFT_SHOE_STILE;TILDE_DIAERESIS
GREATER-THAN_DIAERESIS;COMMA_BAR;DEL_TILDE;ZILDE;STILE_TILDE;SEMICOLON_UNDERBAR;QUAD_NOT_EQUAL
QUAD_QUESTION;DOWN_CARET_TILDE;UP_CARET_TILDE;IOTA;RHO;OMEGA;ALPHA_UNDERBAR;EPSILON_UNDERBAR
IOTA_UNDERBAR;OMEGA_UNDERBAR;ALPHA;237b=;NOT_CHECK_MARK;RIGHT_ANGLE_WITH_DOWNWARDS_ZIGZAG_ARROW
SHOULDERED_OPEN_BOX;BELL_SYMBOL;237f=;VERTICAL_LINE_WITH_MIDDLE_DOT;INSERTION_SYMBOL
CONTINUOUS_UNDERLINE_SYMBOL;DISCONTINUOUS_UNDERLINE_SYMBOL;EMPHASIS_SYMBOL
2384=;COMPOSITION_SYMBOL;WHITE_SQUARE_WITH_CENTRE_VERTICAL_LINE;ENTER_SYMBOL;ALTERNATIVE_KEY_SYMBOL
HELM_SYMBOL;2389=CIRCLED_;HORIZONTAL_BAR_WITH_NOTCH;TRIANGLE_DOWN
238b=;BROKEN_CIRCLE_WITH_NORTHWEST_ARROW;UNDO_SYMBOL;MONOSTABLE_SYMBOL;HYSTERESIS_SYMBOL
238f=OPEN-CIRCUIT-OUTPUT_;H-TYPE_SYMBOL;L-TYPE_SYMBOL
2391=PASSIVE-PULL-;DOWN-OUTPUT_SYMBOL;UP-OUTPUT_SYMBOL;2393=;DIRECT_CURRENT_SYMBOL_FORM_TWO
SOFTWARE-FUNCTION_SYMBOL;APL_FUNCTIONAL_SYMBOL_QUAD;2396=;DECIMAL_SEPARATOR_KEY_SYMBOL;PREVIOUS_PAGE
NEXT_PAGE;PRINT_SCREEN_SYMBOL;CLEAR_SCREEN_SYMBOL
239b=LEFT_PARENTHESIS_;UPPER_HOOK;EXTENSION;LOWER_HOOK
239e=RIGHT_PARENTHESIS_;UPPER_HOOK;EXTENSION;LOWER_HOOK
23a1=LEFT_SQUARE_BRACKET_;UPPER_CORNER;EXTENSION;LOWER_CORNER
23a4=RIGHT_SQUARE_BRACKET_;UPPER_CORNER;EXTENSION;LOWER_CORNER
23a7=LEFT_CURLY_BRACKET_;UPPER_HOOK;MIDDLE_PIECE;LOWER_HOOK
23aa=;CURLY_BRACKET_EXTENSION;23ab=RIGHT_CURLY_BRACKET_;UPPER_HOOK;MIDDLE_PIECE;LOWER_HOOK
23ae=;INTEGRAL_EXTENSION;HORIZONTAL_LINE_EXTENSION;UPPER_LEFT_OR_LOWER_RIGHT_CURLY_BRACKET_SECTION
UPPER_RIGHT_OR_LOWER_LEFT_CURLY_BRACKET_SECTION
23b2=SUMMATION_;TOP;BOTTOM;23b4=;TOP_SQUARE_BRACKET
23b5=BOTTOM_SQUARE_;BRACKET;BRACKET_OVER_TOP_SQUARE_BRACKET
23b7=;RADICAL_SYMBOL_BOTTOM;LEFT_VERTICAL_BOX_LINE;RIGHT_VERTICAL_BOX_LINE
23ba=HORIZONTAL_SCAN_LINE-;1;3;7;9
23be=DENTISTRY_SYMBOL_LIGHT_;VERTICAL_AND_TOP_RIGHT;VERTICAL_AND_BOTTOM_RIGHT;VERTICAL_WITH_CIRCLE
DOWN_AND_HORIZONTAL_WITH_CIRCLE;UP_AND_HORIZONTAL_WITH_CIRCLE;VERTICAL_WITH_TRIANGLE
DOWN_AND_HORIZONTAL_WITH_TRIANGLE;UP_AND_HORIZONTAL_WITH_TRIANGLE;VERTICAL_AND_WAVE
DOWN_AND_HORIZONTAL_WITH_WAVE;UP_AND_HORIZONTAL_WITH_WAVE;DOWN_AND_HORIZONTAL;UP_AND_HORIZONTAL
VERTICAL_AND_TOP_LEFT;VERTICAL_AND_BOTTOM_LEFT;23cd=;SQUARE_FOOT;RETURN_SYMBOL;EJECT_SYMBOL
VERTICAL_LINE_EXTENSION;23d1=METRICAL_;BREVE;LONG_OVER_SHORT;SHORT_OVER_LONG;LONG_OVER_TWO_SHORTS
TWO_SHORTS_OVER_LONG;TWO_SHORTS_JOINED;TRISEME;TETRASEME;PENTASEME
23da=;EARTH_GROUND;FUSE;TOP_PARENTHESIS;BOTTOM_PARENTHESIS;TOP_CURLY_BRACKET
23df=;BOTTOM_CURLY_BRACKET;TOP_TORTOISE_SHELL_BRACKET;BOTTOM_TORTOISE_SHELL_BRACKET;WHITE_TRAPEZIUM
BENZENE_RING_WITH_CIRCLE;23e4=;STRAIGHTNESS;FLATNESS;AC_CURRENT;ELECTRICAL_INTERSECTION
DECIMAL_EXPONENT_SYMBOL;23e9=BLACK_;RIGHT-POINTING_DOUBLE_TRIANGLE;LEFT-POINTING_DOUBLE_TRIANGLE
UP-POINTING_DOUBLE_TRIANGLE;DOWN-POINTING_DOUBLE_TRIANGLE
RIGHT-POINTING_DOUBLE_TRIANGLE_WITH_VERTICAL_BAR;LEFT-POINTING_DOUBLE_TRIANGLE_WITH_VERTICAL_BAR
RIGHT-POINTING_TRIANGLE_WITH_DOUBLE_VERTICAL_BAR;23f0=;ALARM_CLOCK;STOPWATCH;TIMER_CLOCK
HOURGLASS_WITH_FLOWING_SAND;23f4=BLACK_MEDIUM_;LEFT-POINTING_TRIANGLE;RIGHT-POINTING_TRIANGLE
UP-POINTING_TRIANGLE;DOWN-POINTING_TRIANGLE;23f8=;DOUBLE_VERTICAL_BAR;BLACK_SQUARE_FOR_STOP
BLACK_CIRCLE_FOR_RECORD;23fb=POWER_;SYMBOL;ON-OFF_SYMBOL;ON_SYMBOL;SLEEP_SYMBOL
23ff=;OBSERVER_EYE_SYMBOL;2400=SYMBOL_FOR_;NULL;START_OF_HEADING;START_OF_TEXT;END_OF_TEXT
END_OF_TRANSMISSION;ENQUIRY;ACKNOWLEDGE;BELL;BACKSPACE;HORIZONTAL_TABULATION;LINE_FEED
VERTICAL_TABULATION;FORM_FEED;CARRIAGE_RETURN;SHIFT_OUT;SHIFT_IN;DATA_LINK_ESCAPE
2411=SYMBOL_FOR_DEVICE_CONTROL_;ONE;TWO;THREE;FOUR
2415=SYMBOL_FOR_;NEGATIVE_ACKNOWLEDGE;SYNCHRONOUS_IDLE;END_OF_TRANSMISSION_BLOCK;CANCEL
END_OF_MEDIUM;SUBSTITUTE;ESCAPE;FILE_SEPARATOR;GROUP_SEPARATOR;RECORD_SEPARATOR;UNIT_SEPARATOR;SPACE
DELETE;2422=;BLANK_SYMBOL;OPEN_BOX;2424=SYMBOL_FOR_;NEWLINE;DELETE_FORM_TWO;SUBSTITUTE_FORM_TWO
2440=OCR_;HOOK;CHAIR;FORK;INVERTED_FORK;BELT_BUCKLE;BOW_TIE;BRANCH_BANK_IDENTIFICATION
AMOUNT_OF_CHECK;DASH;CUSTOMER_ACCOUNT_NUMBER;DOUBLE_BACKSLASH
2460=CIRCLED_DIGIT_;ONE;TWO;THREE;FOUR;FIVE;SIX;SEVEN;EIGHT;NINE
2469=CIRCLED_NUMBER_;TEN;ELEVEN;TWELVE;THIRTEEN;FOURTEEN;FIFTEEN;SIXTEEN;SEVENTEEN;EIGHTEEN;NINETEEN
TWENTY;2474=PARENTHESIZED_DIGIT_;ONE;TWO;THREE;FOUR;FIVE;SIX;SEVEN;EIGHT;NINE
247d=PARENTHESIZED_NUMBER_;TEN;ELEVEN;TWELVE;THIRTEEN;FOURTEEN;FIFTEEN;SIXTEEN;SEVENTEEN;EIGHTEEN
NINETEEN;TWENTY;2488=DIGIT_;ONE_FULL_STOP;TWO_FULL_STOP;THREE_FULL_STOP;FOUR_FULL_STOP
FIVE_FULL_STOP;SIX_FULL_STOP;SEVEN_FULL_STOP;EIGHT_FULL_STOP;NINE_FULL_STOP
2491=NUMBER_;TEN_FULL_STOP;ELEVEN_FULL_STOP;TWELVE_FULL_STOP;THIRTEEN_FULL_STOP;FOURTEEN_FULL_STOP
FIFTEEN_FULL_STOP;SIXTEEN_FULL_STOP;SEVENTEEN_FULL_STOP;EIGHTEEN_FULL_STOP;NINETEEN_FULL_STOP
TWENTY_FULL_STOP;249c=PARENTHESIZED_LATIN_SMALL_LETTER_;A;B;C;D;E;F;G;H;I;J;K;L;M;N;O;P;Q;R;S;T;U;V
W;X;Y;Z;24b6=CIRCLED_LATIN_CAPITAL_LETTER_;A;B;C;D;E;F;G;H;I;J;K;L;M;N;O;P;Q;R;S;T;U;V;W;X;Y;Z
24d0=CIRCLED_LATIN_SMALL_LETTER_;A;B;C;D;E;F;G;H;I;J;K;L;M;N;O;P;Q;R;S;T;U;V;W;X;Y;Z
24ea=;CIRCLED_DIGIT_ZERO;24eb=NEGATIVE_CIRCLED_NUMBER_;ELEVEN;TWELVE;THIRTEEN;FOURTEEN;FIFTEEN
SIXTEEN;SEVENTEEN;EIGHTEEN;NINETEEN;TWENTY
24f5=DOUBLE_CIRCLED_DIGIT_;ONE;TWO;THREE;FOUR;FIVE;SIX;SEVEN;EIGHT;NINE
24fe=;DOUBLE_CIRCLED_NUMBER_TEN;NEGATIVE_CIRCLED_DIGIT_ZERO
2500=BOX_DRAWINGS_;LIGHT_HORIZONTAL;HEAVY_HORIZONTAL;LIGHT_VERTICAL;HEAVY_VERTICAL
LIGHT_TRIPLE_DASH_HORIZONTAL;HEAVY_TRIPLE_DASH_HORIZONTAL;LIGHT_TRIPLE_DASH_VERTICAL
HEAVY_TRIPLE_DASH_VERTICAL;LIGHT_QUADRUPLE_DASH_HORIZONTAL;HEAVY_QUADRUPLE_DASH_HORIZONTAL
LIGHT_QUADRUPLE_DASH_VERTICAL;HEAVY_QUADRUPLE_DASH_VERTICAL;LIGHT_DOWN_AND_RIGHT
DOWN_LIGHT_AND_RIGHT_HEAVY;DOWN_HEAVY_AND_RIGHT_LIGHT;HEAVY_DOWN_AND_RIGHT;LIGHT_DOWN_AND_LEFT
DOWN_LIGHT_AND_LEFT_HEAVY;DOWN_HEAVY_AND_LEFT_LIGHT;HEAVY_DOWN_AND_LEFT;LIGHT_UP_AND_RIGHT
UP_LIGHT_AND_RIGHT_HEAVY;UP_HEAVY_AND_RIGHT_LIGHT;HEAVY_UP_AND_RIGHT;LIGHT_UP_AND_LEFT
UP_LIGHT_AND_LEFT_HEAVY;UP_HEAVY_AND_LEFT_LIGHT;HEAVY_UP_AND_LEFT;LIGHT_VERTICAL_AND_RIGHT
VERTICAL_LIGHT_AND_RIGHT_HEAVY;UP_HEAVY_AND_RIGHT_DOWN_LIGHT;DOWN_HEAVY_AND_RIGHT_UP_LIGHT
VERTICAL_HEAVY_AND_RIGHT_LIGHT;DOWN_LIGHT_AND_RIGHT_UP_HEAVY;UP_LIGHT_AND_RIGHT_DOWN_HEAVY
HEAVY_VERTICAL_AND_RIGHT;LIGHT_VERTICAL_AND_LEFT;VERTICAL_LIGHT_AND_LEFT_HEAVY
UP_HEAVY_AND_LEFT_DOWN_LIGHT;DOWN_HEAVY_AND_LEFT_UP_LIGHT;VERTICAL_HEAVY_AND_LEFT_LIGHT
DOWN_LIGHT_AND_LEFT_UP_HEAVY;UP_LIGHT_AND_LEFT_DOWN_HEAVY;HEAVY_VERTICAL_AND_LEFT
LIGHT_DOWN_AND_HORIZONTAL;LEFT_HEAVY_AND_RIGHT_DOWN_LIGHT;RIGHT_HEAVY_AND_LEFT_DOWN_LIGHT
DOWN_LIGHT_AND_HORIZONTAL_HEAVY;DOWN_HEAVY_AND_HORIZONTAL_LIGHT;RIGHT_LIGHT_AND_LEFT_DOWN_HEAVY
LEFT_LIGHT_AND_RIGHT_DOWN_HEAVY;HEAVY_DOWN_AND_HORIZONTAL;LIGHT_UP_AND_HORIZONTAL
LEFT_HEAVY_AND_RIGHT_UP_LIGHT;RIGHT_HEAVY_AND_LEFT_UP_LIGHT;UP_LIGHT_AND_HORIZONTAL_HEAVY
UP_HEAVY_AND_HORIZONTAL_LIGHT;RIGHT_LIGHT_AND_LEFT_UP_HEAVY;LEFT_LIGHT_AND_RIGHT_UP_HEAVY
HEAVY_UP_AND_HORIZONTAL;LIGHT_VERTICAL_AND_HORIZONTAL;LEFT_HEAVY_AND_RIGHT_VERTICAL_LIGHT
RIGHT_HEAVY_AND_LEFT_VERTICAL_LIGHT;VERTICAL_LIGHT_AND_HORIZONTAL_HEAVY
UP_HEAVY_AND_DOWN_HORIZONTAL_LIGHT;DOWN_HEAVY_AND_UP_HORIZONTAL_LIGHT
VERTICAL_HEAVY_AND_HORIZONTAL_LIGHT;LEFT_UP_HEAVY_AND_RIGHT_DOWN_LIGHT
RIGHT_UP_HEAVY_AND_LEFT_DOWN_LIGHT;LEFT_DOWN_HEAVY_AND_RIGHT_UP_LIGHT
RIGHT_DOWN_HEAVY_AND_LEFT_UP_LIGHT;DOWN_LIGHT_AND_UP_HORIZONTAL_HEAVY
UP_LIGHT_AND_DOWN_HORIZONTAL_HEAVY;RIGHT_LIGHT_AND_LEFT_VERTICAL_HEAVY
LEFT_LIGHT_AND_RIGHT_VERTICAL_HEAVY;HEAVY_VERTICAL_AND_HORIZONTAL;LIGHT_DOUBLE_DASH_HORIZONTAL
HEAVY_DOUBLE_DASH_HORIZONTAL;LIGHT_DOUBLE_DASH_VERTICAL;HEAVY_DOUBLE_DASH_VERTICAL;DOUBLE_HORIZONTAL
DOUBLE_VERTICAL;DOWN_SINGLE_AND_RIGHT_DOUBLE;DOWN_DOUBLE_AND_RIGHT_SINGLE;DOUBLE_DOWN_AND_RIGHT
DOWN_SINGLE_AND_LEFT_DOUBLE;DOWN_DOUBLE_AND_LEFT_SINGLE;DOUBLE_DOWN_AND_LEFT
UP_SINGLE_AND_RIGHT_DOUBLE;UP_DOUBLE_AND_RIGHT_SINGLE;DOUBLE_UP_AND_RIGHT;UP_SINGLE_AND_LEFT_DOUBLE
UP_DOUBLE_AND_LEFT_SINGLE;DOUBLE_UP_AND_LEFT;VERTICAL_SINGLE_AND_RIGHT_DOUBLE
VERTICAL_DOUBLE_AND_RIGHT_SINGLE;DOUBLE_VERTICAL_AND_RIGHT;VERTICAL_SINGLE_AND_LEFT_DOUBLE
VERTICAL_DOUBLE_AND_LEFT_SINGLE;DOUBLE_VERTICAL_AND_LEFT;DOWN_SINGLE_AND_HORIZONTAL_DOUBLE
DOWN_DOUBLE_AND_HORIZONTAL_SINGLE;DOUBLE_DOWN_AND_HORIZONTAL;UP_SINGLE_AND_HORIZONTAL_DOUBLE
UP_DOUBLE_AND_HORIZONTAL_SINGLE;DOUBLE_UP_AND_HORIZONTAL;VERTICAL_SINGLE_AND_HORIZONTAL_DOUBLE
VERTICAL_DOUBLE_AND_HORIZONTAL_SINGLE;DOUBLE_VERTICAL_AND_HORIZONTAL
256d=BOX_DRAWINGS_LIGHT_;ARC_DOWN_AND_RIGHT;ARC_DOWN_AND_LEFT;ARC_UP_AND_LEFT;ARC_UP_AND_RIGHT
DIAGONAL_UPPER_RIGHT_TO_LOWER_LEFT;DIAGONAL_UPPER_LEFT_TO_LOWER_RIGHT;DIAGONAL_CROSS;LEFT;UP;RIGHT
DOWN;2578=BOX_DRAWINGS_;HEAVY_LEFT;HEAVY_UP;HEAVY_RIGHT;HEAVY_DOWN;LIGHT_LEFT_AND_HEAVY_RIGHT
LIGHT_UP_AND_HEAVY_DOWN;HEAVY_LEFT_AND_LIGHT_RIGHT;HEAVY_UP_AND_LIGHT_DOWN
2580=;UPPER_HALF_BLOCK;2581=LOWER_;ONE_EIGHTH_BLOCK;ONE_QUARTER_BLOCK;THREE_EIGHTHS_BLOCK;HALF_BLOCK
FIVE_EIGHTHS_BLOCK;THREE_QUARTERS_BLOCK;SEVEN_EIGHTHS_BLOCK
2588=;FULL_BLOCK;2589=LEFT_;SEVEN_EIGHTHS_BLOCK;THREE_QUARTERS_BLOCK;FIVE_EIGHTHS_BLOCK;HALF_BLOCK
THREE_EIGHTHS_BLOCK;ONE_QUARTER_BLOCK;ONE_EIGHTH_BLOCK;2590=;RIGHT_HALF_BLOCK
2591=;LIGHT_SHADE;MEDIUM_SHADE;DARK_SHADE;UPPER_ONE_EIGHTH_BLOCK;RIGHT_ONE_EIGHTH_BLOCK
2596=QUADRANT_LOWER_;LEFT;RIGHT;2598=QUADRANT_UPPER_;LEFT;LEFT_AND_LOWER_LEFT_AND_LOWER_RIGHT
LEFT_AND_LOWER_RIGHT;LEFT_AND_UPPER_RIGHT_AND_LOWER_LEFT;LEFT_AND_UPPER_RIGHT_AND_LOWER_RIGHT;RIGHT
RIGHT_AND_LOWER_LEFT;RIGHT_AND_LOWER_LEFT_AND_LOWER_RIGHT
25a0=;BLACK_SQUARE;WHITE_SQUARE;25a2=WHITE_SQUARE_;WITH_ROUNDED_CORNERS
CONTAINING_BLACK_SMALL_SQUARE;25a4=SQUARE_WITH_;HORIZONTAL_FILL;VERTICAL_FILL
ORTHOGONAL_CROSSHATCH_FILL;UPPER_LEFT_TO_LOWER_RIGHT_FILL;UPPER_RIGHT_TO_LOWER_LEFT_FILL
DIAGONAL_CROSSHATCH_FILL;25aa=;BLACK_SMALL_SQUARE;WHITE_SMALL_SQUARE;BLACK_RECTANGLE
25ad=;WHITE_RECTANGLE;BLACK_VERTICAL_RECTANGLE;WHITE_VERTICAL_RECTANGLE;BLACK_PARALLELOGRAM
WHITE_PARALLELOGRAM;25b2=;BLACK_UP-POINTING_TRIANGLE;WHITE_UP-POINTING_TRIANGLE
BLACK_UP-POINTING_SMALL_TRIANGLE;WHITE_UP-POINTING_SMALL_TRIANGLE;BLACK_RIGHT-POINTING_TRIANGLE
25b7=;WHITE_RIGHT-POINTING_TRIANGLE;BLACK_RIGHT-POINTING_SMALL_TRIANGLE
WHITE_RIGHT-POINTING_SMALL_TRIANGLE;BLACK_RIGHT-POINTING_POINTER;WHITE_RIGHT-POINTING_POINTER
25bc=;BLACK_DOWN-POINTING_TRIANGLE;WHITE_DOWN-POINTING_TRIANGLE;BLACK_DOWN-POINTING_SMALL_TRIANGLE
WHITE_DOWN-POINTING_SMALL_TRIANGLE;BLACK_LEFT-POINTING_TRIANGLE
25c1=;WHITE_LEFT-POINTING_TRIANGLE;BLACK_LEFT-POINTING_SMALL_TRIANGLE
WHITE_LEFT-POINTING_SMALL_TRIANGLE;BLACK_LEFT-POINTING_POINTER;WHITE_LEFT-POINTING_POINTER
25c6=;BLACK_DIAMOND;WHITE_DIAMOND;WHITE_DIAMOND_CONTAINING_BLACK_SMALL_DIAMOND;FISHEYE;LOZENGE
25cb=;WHITE_CIRCLE;DOTTED_CIRCLE;CIRCLE_WITH_VERTICAL_FILL;BULLSEYE;BLACK_CIRCLE
25d0=CIRCLE_WITH_;LEFT_HALF_BLACK;RIGHT_HALF_BLACK;LOWER_HALF_BLACK;UPPER_HALF_BLACK
UPPER_RIGHT_QUADRANT_BLACK;ALL_BUT_UPPER_LEFT_QUADRANT_BLACK
25d6=;LEFT_HALF_BLACK_CIRCLE;RIGHT_HALF_BLACK_CIRCLE
25d8=INVERSE_;BULLET;WHITE_CIRCLE;25da=;UPPER_HALF_INVERSE_WHITE_CIRCLE
LOWER_HALF_INVERSE_WHITE_CIRCLE;UPPER_LEFT_QUADRANT_CIRCULAR_ARC
25dd=;UPPER_RIGHT_QUADRANT_CIRCULAR_ARC;LOWER_RIGHT_QUADRANT_CIRCULAR_ARC
LOWER_LEFT_QUADRANT_CIRCULAR_ARC;UPPER_HALF_CIRCLE;LOWER_HALF_CIRCLE
25e2=BLACK_;LOWER_RIGHT_TRIANGLE;LOWER_LEFT_TRIANGLE;UPPER_LEFT_TRIANGLE;UPPER_RIGHT_TRIANGLE
25e6=;WHITE_BULLET;25e7=SQUARE_WITH_;LEFT_HALF_BLACK;RIGHT_HALF_BLACK;UPPER_LEFT_DIAGONAL_HALF_BLACK
LOWER_RIGHT_DIAGONAL_HALF_BLACK;25eb=WHITE_;SQUARE_WITH_VERTICAL_BISECTING_LINE
UP-POINTING_TRIANGLE_WITH_DOT
25ed=UP-POINTING_TRIANGLE_WITH_;LEFT_HALF_BLACK;RIGHT_HALF_BLACK
25ef=;LARGE_CIRCLE;25f0=WHITE_SQUARE_WITH_;UPPER_LEFT_QUADRANT;LOWER_LEFT_QUADRANT
LOWER_RIGHT_QUADRANT;UPPER_RIGHT_QUADRANT
25f4=WHITE_CIRCLE_WITH_;UPPER_LEFT_QUADRANT;LOWER_LEFT_QUADRANT;LOWER_RIGHT_QUADRANT
UPPER_RIGHT_QUADRANT;25f8=;UPPER_LEFT_TRIANGLE;UPPER_RIGHT_TRIANGLE;LOWER_LEFT_TRIANGLE
WHITE_MEDIUM_SQUARE;BLACK_MEDIUM_SQUARE;25fd=;WHITE_MEDIUM_SMALL_SQUARE;BLACK_MEDIUM_SMALL_SQUARE
LOWER_RIGHT_TRIANGLE;BLACK_SUN_WITH_RAYS;CLOUD;2602=;UMBRELLA;SNOWMAN;COMET;BLACK_STAR;WHITE_STAR
2607=;LIGHTNING;THUNDERSTORM;SUN;ASCENDING_NODE;DESCENDING_NODE
260c=;CONJUNCTION;OPPOSITION;BLACK_TELEPHONE;WHITE_TELEPHONE;BALLOT_BOX
2611=BALLOT_BOX_WITH_;CHECK;X;2613=;SALTIRE;UMBRELLA_WITH_RAIN_DROPS;HOT_BEVERAGE;WHITE_SHOGI_PIECE
2617=;BLACK_SHOGI_PIECE;SHAMROCK;REVERSED_ROTATED_FLORAL_HEART_BULLET;BLACK_LEFT_POINTING_INDEX
BLACK_RIGHT_POINTING_INDEX;261c=WHITE_;LEFT_POINTING_INDEX;UP_POINTING_INDEX;RIGHT_POINTING_INDEX
DOWN_POINTING_INDEX;2620=;SKULL_AND_CROSSBONES;CAUTION_SIGN;RADIOACTIVE_SIGN
2623=;BIOHAZARD_SIGN;CADUCEUS;ANKH;ORTHODOX_CROSS;CHI_RHO
2628=CROSS_OF_;LORRAINE;JERUSALEM;262a=;STAR_AND_CRESCENT
262b=;FARSI_SYMBOL;ADI_SHAKTI;HAMMER_AND_SICKLE;PEACE_SYMBOL;YIN_YANG
2630=TRIGRAM_FOR_;HEAVEN;LAKE;FIRE;THUNDER;WIND;WATER;MOUNTAIN;EARTH
2638=;WHEEL_OF_DHARMA;WHITE_FROWNING_FACE;WHITE_SMILING_FACE
263b=;BLACK_SMILING_FACE;WHITE_SUN_WITH_RAYS;FIRST_QUARTER_MOON;LAST_QUARTER_MOON;MERCURY
2640=;FEMALE_SIGN;EARTH;MALE_SIGN;JUPITER;SATURN;2645=;URANUS;NEPTUNE;PLUTO;ARIES;TAURUS
264a=;GEMINI;CANCER;LEO;VIRGO;LIBRA;264f=;SCORPIUS;SAGITTARIUS;CAPRICORN;AQUARIUS;PISCES
2654=WHITE_CHESS_;KING;QUEEN;ROOK;BISHOP;KNIGHT;PAWN
265a=BLACK_CHESS_;KING;QUEEN;ROOK;BISHOP;KNIGHT;PAWN;2660=;BLACK_SPADE_SUIT;WHITE_HEART_SUIT
WHITE_DIAMOND_SUIT;BLACK_CLUB_SUIT;WHITE_SPADE_SUIT
2665=BLACK_;HEART_SUIT;DIAMOND_SUIT;2667=;WHITE_CLUB_SUIT;HOT_SPRINGS;QUARTER_NOTE;EIGHTH_NOTE
266b=BEAMED_;EIGHTH_NOTES;SIXTEENTH_NOTES;266d=MUSIC_;FLAT_SIGN;NATURAL_SIGN;SHARP_SIGN
2670=;WEST_SYRIAC_CROSS;EAST_SYRIAC_CROSS;UNIVERSAL_RECYCLING_SYMBOL
2673=RECYCLING_SYMBOL_FOR_TYPE-;1_PLASTICS;2_PLASTICS;3_PLASTICS;4_PLASTICS;5_PLASTICS;6_PLASTICS
7_PLASTICS;267a=;RECYCLING_SYMBOL_FOR_GENERIC_MATERIALS
267b=;BLACK_UNIVERSAL_RECYCLING_SYMBOL;RECYCLED_PAPER_SYMBOL;PARTIALLY-RECYCLED_PAPER_SYMBOL
PERMANENT_PAPER_SIGN;WHEELCHAIR_SYMBOL;2680=DIE_FACE-;1;2;3;4;5;6
2686=WHITE_CIRCLE_WITH_;DOT_RIGHT;TWO_DOTS
2688=BLACK_CIRCLE_WITH_;WHITE_DOT_RIGHT;TWO_WHITE_DOTS
268a=MONOGRAM_FOR_;YANG;YIN;268c=DIGRAM_FOR_;GREATER_YANG;LESSER_YIN;LESSER_YANG;GREATER_YIN
2690=;WHITE_FLAG;BLACK_FLAG;HAMMER_AND_PICK;ANCHOR;2694=;CROSSED_SWORDS;STAFF_OF_AESCULAPIUS;SCALES
ALEMBIC;FLOWER;2699=;GEAR;STAFF_OF_HERMES;ATOM_SYMBOL;FLEUR-DE-LIS;OUTLINED_WHITE_STAR
269e=THREE_LINES_CONVERGING_;RIGHT;LEFT;26a0=;WARNING_SIGN;HIGH_VOLTAGE_SIGN
26a2=DOUBLED_;FEMALE_SIGN;MALE_SIGN;26a4=;INTERLOCKED_FEMALE_AND_MALE_SIGN;MALE_AND_FEMALE_SIGN
26a6=MALE_WITH_STROKE_;SIGN;AND_MALE_AND_FEMALE_SIGN;26a8=;VERTICAL_MALE_WITH_STROKE_SIGN
HORIZONTAL_MALE_WITH_STROKE_SIGN;26aa=MEDIUM_;WHITE_CIRCLE;BLACK_CIRCLE;SMALL_WHITE_CIRCLE
26ad=;MARRIAGE_SYMBOL;DIVORCE_SYMBOL;UNMARRIED_PARTNERSHIP_SYMBOL;COFFIN
26b1=;FUNERAL_URN;NEUTER;CERES;PALLAS;JUNO;26b6=;VESTA;CHIRON;BLACK_MOON_LILITH;SEXTILE;SEMISEXTILE
26bb=;QUINCUNX;SESQUIQUADRATE;SOCCER_BALL;BASEBALL;SQUARED_KEY
26c0=WHITE_DRAUGHTS_;MAN;KING;26c2=BLACK_DRAUGHTS_;MAN;KING
26c4=;SNOWMAN_WITHOUT_SNOW;SUN_BEHIND_CLOUD;RAIN;BLACK_SNOWMAN;THUNDER_CLOUD_AND_RAIN
26c9=TURNED_;WHITE_SHOGI_PIECE;BLACK_SHOGI_PIECE;26cb=;WHITE_DIAMOND_IN_SQUARE
26cc=;CROSSING_LANES;DISABLED_CAR;OPHIUCHUS;PICK;CAR_SLIDING
26d1=;HELMET_WITH_WHITE_CROSS;CIRCLED_CROSSING_LANES;CHAINS;NO_ENTRY
ALTERNATE_ONE-WAY_LEFT_WAY_TRAFFIC;26d6=;BLACK_TWO-WAY_LEFT_WAY_TRAFFIC
WHITE_TWO-WAY_LEFT_WAY_TRAFFIC;BLACK_LEFT_LANE_MERGE;WHITE_LEFT_LANE_MERGE;DRIVE_SLOW_SIGN
26db=;HEAVY_WHITE_DOWN-POINTING_TRIANGLE;LEFT_CLOSED_ENTRY;SQUARED_SALTIRE
FALLING_DIAGONAL_IN_WHITE_CIRCLE_IN_BLACK_SQUARE;BLACK_TRUCK
26e0=RESTRICTED_LEFT_ENTRY-;1;2;26e2=;ASTRONOMICAL_SYMBOL_FOR_URANUS
HEAVY_CIRCLE_WITH_STROKE_AND_TWO_DOTS_ABOVE;PENTAGRAM;RIGHT-HANDED_INTERLACED_PENTAGRAM
LEFT-HANDED_INTERLACED_PENTAGRAM;26e7=;INVERTED_PENTAGRAM;BLACK_CROSS_ON_SHIELD;SHINTO_SHRINE;CHURCH
CASTLE;26ec=;HISTORIC_SITE;GEAR_WITHOUT_HUB;GEAR_WITH_HANDLES;MAP_SYMBOL_FOR_LIGHTHOUSE;MOUNTAIN
26f1=;UMBRELLA_ON_GROUND;FOUNTAIN;FLAG_IN_HOLE;FERRY;SAILBOAT
26f6=;SQUARE_FOUR_CORNERS;SKIER;ICE_SKATE;PERSON_WITH_BALL;TENT
26fb=;JAPANESE_BANK_SYMBOL;HEADSTONE_GRAVEYARD_SYMBOL;FUEL_PUMP;CUP_ON_BLACK_SQUARE
WHITE_FLAG_WITH_HORIZONTAL_MIDDLE_BLACK_STRIPE;2700=;BLACK_SAFETY_SCISSORS;UPPER_BLADE_SCISSORS
BLACK_SCISSORS;LOWER_BLADE_SCISSORS;WHITE_SCISSORS;2705=;WHITE_HEAVY_CHECK_MARK
TELEPHONE_LOCATION_SIGN;TAPE_DRIVE;AIRPLANE;ENVELOPE
270a=RAISED_;FIST;HAND;270c=;VICTORY_HAND;WRITING_HAND;LOWER_RIGHT_PENCIL;PENCIL;UPPER_RIGHT_PENCIL
2711=;WHITE_NIB;BLACK_NIB;CHECK_MARK;HEAVY_CHECK_MARK;MULTIPLICATION_X
2716=;HEAVY_MULTIPLICATION_X;BALLOT_X;HEAVY_BALLOT_X;OUTLINED_GREEK_CROSS;HEAVY_GREEK_CROSS
271b=;OPEN_CENTRE_CROSS;HEAVY_OPEN_CENTRE_CROSS;LATIN_CROSS;SHADOWED_WHITE_LATIN_CROSS
OUTLINED_LATIN_CROSS;2720=;MALTESE_CROSS;STAR_OF_DAVID;FOUR_TEARDROP-SPOKED_ASTERISK
FOUR_BALLOON-SPOKED_ASTERISK;HEAVY_FOUR_BALLOON-SPOKED_ASTERISK
2725=;FOUR_CLUB-SPOKED_ASTERISK;BLACK_FOUR_POINTED_STAR;WHITE_FOUR_POINTED_STAR;SPARKLES
STRESS_OUTLINED_WHITE_STAR;272a=;CIRCLED_WHITE_STAR;OPEN_CENTRE_BLACK_STAR;BLACK_CENTRE_WHITE_STAR
OUTLINED_BLACK_STAR;HEAVY_OUTLINED_BLACK_STAR;272f=;PINWHEEL_STAR;SHADOWED_WHITE_STAR;HEAVY_ASTERISK
OPEN_CENTRE_ASTERISK;EIGHT_SPOKED_ASTERISK
2734=EIGHT_POINTED_;BLACK_STAR;PINWHEEL_STAR;2736=;SIX_POINTED_BLACK_STAR
EIGHT_POINTED_RECTILINEAR_BLACK_STAR;HEAVY_EIGHT_POINTED_RECTILINEAR_BLACK_STAR
TWELVE_POINTED_BLACK_STAR;SIXTEEN_POINTED_ASTERISK;273b=;TEARDROP-SPOKED_ASTERISK
OPEN_CENTRE_TEARDROP-SPOKED_ASTERISK;HEAVY_TEARDROP-SPOKED_ASTERISK
SIX_PETALLED_BLACK_AND_WHITE_FLORETTE;BLACK_FLORETTE;2740=;WHITE_FLORETTE
EIGHT_PETALLED_OUTLINED_BLACK_FLORETTE;CIRCLED_OPEN_CENTRE_EIGHT_POINTED_STAR
HEAVY_TEARDROP-SPOKED_PINWHEEL_ASTERISK;SNOWFLAKE;2745=;TIGHT_TRIFOLIATE_SNOWFLAKE
HEAVY_CHEVRON_SNOWFLAKE;SPARKLE;HEAVY_SPARKLE;BALLOON-SPOKED_ASTERISK
274a=;EIGHT_TEARDROP-SPOKED_PROPELLER_ASTERISK;HEAVY_EIGHT_TEARDROP-SPOKED_PROPELLER_ASTERISK
CROSS_MARK;SHADOWED_WHITE_CIRCLE;NEGATIVE_SQUARED_CROSS_MARK
274f=;LOWER_RIGHT_DROP-SHADOWED_WHITE_SQUARE;UPPER_RIGHT_DROP-SHADOWED_WHITE_SQUARE
LOWER_RIGHT_SHADOWED_WHITE_SQUARE;UPPER_RIGHT_SHADOWED_WHITE_SQUARE;BLACK_QUESTION_MARK_ORNAMENT
2754=WHITE_;QUESTION_MARK_ORNAMENT;EXCLAMATION_MARK_ORNAMENT
2756=;BLACK_DIAMOND_MINUS_WHITE_X;HEAVY_EXCLAMATION_MARK_SYMBOL;LIGHT_VERTICAL_BAR
MEDIUM_VERTICAL_BAR;275a=HEAVY_;VERTICAL_BAR;SINGLE_TURNED_COMMA_QUOTATION_MARK_ORNAMENT
SINGLE_COMMA_QUOTATION_MARK_ORNAMENT;DOUBLE_TURNED_COMMA_QUOTATION_MARK_ORNAMENT
DOUBLE_COMMA_QUOTATION_MARK_ORNAMENT;LOW_SINGLE_COMMA_QUOTATION_MARK_ORNAMENT
LOW_DOUBLE_COMMA_QUOTATION_MARK_ORNAMENT;2761=;CURVED_STEM_PARAGRAPH_SIGN_ORNAMENT
2762=HEAVY_;EXCLAMATION_MARK_ORNAMENT;HEART_EXCLAMATION_MARK_ORNAMENT;BLACK_HEART
2765=;ROTATED_HEAVY_BLACK_HEART_BULLET;FLORAL_HEART;ROTATED_FLORAL_HEART_BULLET
2768=MEDIUM_;LEFT_PARENTHESIS_ORNAMENT;RIGHT_PARENTHESIS_ORNAMENT
FLATTENED_LEFT_PARENTHESIS_ORNAMENT;FLATTENED_RIGHT_PARENTHESIS_ORNAMENT
LEFT-POINTING_ANGLE_BRACKET_ORNAMENT;RIGHT-POINTING_ANGLE_BRACKET_ORNAMENT
276e=HEAVY_;LEFT-POINTING_ANGLE_QUOTATION_MARK_ORNAMENT;RIGHT-POINTING_ANGLE_QUOTATION_MARK_ORNAMENT
LEFT-POINTING_ANGLE_BRACKET_ORNAMENT;RIGHT-POINTING_ANGLE_BRACKET_ORNAMENT
2772=LIGHT_;LEFT_TORTOISE_SHELL_BRACKET_ORNAMENT;RIGHT_TORTOISE_SHELL_BRACKET_ORNAMENT
2774=MEDIUM_;LEFT_CURLY_BRACKET_ORNAMENT;RIGHT_CURLY_BRACKET_ORNAMENT
2776=DINGBAT_NEGATIVE_CIRCLED_DIGIT_;ONE;TWO;THREE;FOUR;FIVE;SIX;SEVEN;EIGHT;NINE
277f=;DINGBAT_NEGATIVE_CIRCLED_NUMBER_TEN
2780=DINGBAT_CIRCLED_SANS-SERIF_DIGIT_;ONE;TWO;THREE;FOUR;FIVE;SIX;SEVEN;EIGHT;NINE
2789=;DINGBAT_CIRCLED_SANS-SERIF_NUMBER_TEN
278a=DINGBAT_NEGATIVE_CIRCLED_SANS-SERIF_DIGIT_;ONE;TWO;THREE;FOUR;FIVE;SIX;SEVEN;EIGHT;NINE
2793=;DINGBAT_NEGATIVE_CIRCLED_SANS-SERIF_NUMBER_TEN
2794=HEAVY_;WIDE-HEADED_RIGHTWARDS_ARROW;PLUS_SIGN;MINUS_SIGN;DIVISION_SIGN;SOUTH_EAST_ARROW
RIGHTWARDS_ARROW;NORTH_EAST_ARROW;279b=;DRAFTING_POINT_RIGHTWARDS_ARROW
HEAVY_ROUND-TIPPED_RIGHTWARDS_ARROW;TRIANGLE-HEADED_RIGHTWARDS_ARROW
HEAVY_TRIANGLE-HEADED_RIGHTWARDS_ARROW;DASHED_TRIANGLE-HEADED_RIGHTWARDS_ARROW
27a0=;HEAVY_DASHED_TRIANGLE-HEADED_RIGHTWARDS_ARROW;BLACK_RIGHTWARDS_ARROW
THREE-D_TOP-LIGHTED_RIGHTWARDS_ARROWHEAD;THREE-D_BOTTOM-LIGHTED_RIGHTWARDS_ARROWHEAD
BLACK_RIGHTWARDS_ARROWHEAD;27a5=HEAVY_BLACK_CURVED_;DOWNWARDS_AND_RIGHTWARDS_ARROW
UPWARDS_AND_RIGHTWARDS_ARROW;27a7=;SQUAT_BLACK_RIGHTWARDS_ARROW
HEAVY_CONCAVE-POINTED_BLACK_RIGHTWARDS_ARROW;RIGHT-SHADED_WHITE_RIGHTWARDS_ARROW
27aa=;LEFT-SHADED_WHITE_RIGHTWARDS_ARROW;BACK-TILTED_SHADOWED_WHITE_RIGHTWARDS_ARROW
FRONT-TILTED_SHADOWED_WHITE_RIGHTWARDS_ARROW;HEAVY_LOWER_RIGHT-SHADOWED_WHITE_RIGHTWARDS_ARROW
HEAVY_UPPER_RIGHT-SHADOWED_WHITE_RIGHTWARDS_ARROW;27af=
NOTCHED_LOWER_RIGHT-SHADOWED_WHITE_RIGHTWARDS_ARROW;CURLY_LOOP
NOTCHED_UPPER_RIGHT-SHADOWED_WHITE_RIGHTWARDS_ARROW;CIRCLED_HEAVY_WHITE_RIGHTWARDS_ARROW
WHITE-FEATHERED_RIGHTWARDS_ARROW;27b4=BLACK-FEATHERED_;SOUTH_EAST_ARROW;RIGHTWARDS_ARROW
NORTH_EAST_ARROW;27b7=HEAVY_BLACK-FEATHERED_;SOUTH_EAST_ARROW;RIGHTWARDS_ARROW;NORTH_EAST_ARROW
27ba=;TEARDROP-BARBED_RIGHTWARDS_ARROW;HEAVY_TEARDROP-SHANKED_RIGHTWARDS_ARROW
WEDGE-TAILED_RIGHTWARDS_ARROW;HEAVY_WEDGE-TAILED_RIGHTWARDS_ARROW;OPEN-OUTLINED_RIGHTWARDS_ARROW
27bf=;DOUBLE_CURLY_LOOP;THREE_DIMENSIONAL_ANGLE;WHITE_TRIANGLE_CONTAINING_SMALL_WHITE_TRIANGLE
PERPENDICULAR;OPEN_SUBSET;27c4=;OPEN_SUPERSET;LEFT_S-SHAPED_BAG_DELIMITER
RIGHT_S-SHAPED_BAG_DELIMITER;OR_WITH_DOT_INSIDE;REVERSE_SOLIDUS_PRECEDING_SUBSET
27c9=;SUPERSET_PRECEDING_SOLIDUS;VERTICAL_BAR_WITH_HORIZONTAL_STROKE;MATHEMATICAL_RISING_DIAGONAL
LONG_DIVISION;MATHEMATICAL_FALLING_DIAGONAL
27ce=SQUARED_LOGICAL_;AND;OR;27d0=;WHITE_DIAMOND_WITH_CENTRED_DOT;AND_WITH_DOT
ELEMENT_OF_OPENING_UPWARDS;LOWER_RIGHT_CORNER_WITH_DOT;UPPER_LEFT_CORNER_WITH_DOT
27d5=;LEFT_OUTER_JOIN;RIGHT_OUTER_JOIN;FULL_OUTER_JOIN;LARGE_UP_TACK;LARGE_DOWN_TACK
27da=LEFT_AND_RIGHT_;DOUBLE_TURNSTILE;TACK;27dc=;LEFT_MULTIMAP;LONG_RIGHT_TACK;LONG_LEFT_TACK
UP_TACK_WITH_CIRCLE_ABOVE;LOZENGE_DIVIDED_BY_HORIZONTAL_RULE
27e1=WHITE_CONCAVE-SIDED_;DIAMOND;DIAMOND_WITH_LEFTWARDS_TICK;DIAMOND_WITH_RIGHTWARDS_TICK
27e4=WHITE_SQUARE_WITH_;LEFTWARDS_TICK;RIGHTWARDS_TICK
27e6=MATHEMATICAL_;LEFT_WHITE_SQUARE_BRACKET;RIGHT_WHITE_SQUARE_BRACKET;LEFT_ANGLE_BRACKET
RIGHT_ANGLE_BRACKET;LEFT_DOUBLE_ANGLE_BRACKET;RIGHT_DOUBLE_ANGLE_BRACKET
LEFT_WHITE_TORTOISE_SHELL_BRACKET;RIGHT_WHITE_TORTOISE_SHELL_BRACKET;LEFT_FLATTENED_PARENTHESIS
RIGHT_FLATTENED_PARENTHESIS;27f0=;UPWARDS_QUADRUPLE_ARROW;DOWNWARDS_QUADRUPLE_ARROW
ANTICLOCKWISE_GAPPED_CIRCLE_ARROW;CLOCKWISE_GAPPED_CIRCLE_ARROW;RIGHT_ARROW_WITH_CIRCLED_PLUS
27f5=LONG_;LEFTWARDS_ARROW;RIGHTWARDS_ARROW;LEFT_RIGHT_ARROW;LEFTWARDS_DOUBLE_ARROW
RIGHTWARDS_DOUBLE_ARROW;LEFT_RIGHT_DOUBLE_ARROW;LEFTWARDS_ARROW_FROM_BAR;RIGHTWARDS_ARROW_FROM_BAR
LEFTWARDS_DOUBLE_ARROW_FROM_BAR;RIGHTWARDS_DOUBLE_ARROW_FROM_BAR;RIGHTWARDS_SQUIGGLE_ARROW
2800=;BRAILLE_PATTERN_BLANK;2801=BRAILLE_PATTERN_DOTS-;1;2;12;3;13;23;123;4;14;24;124;34;134;234
1234;5;15;25;125;35;135;235;1235;45;145;245;1245;345;1345;2345;12345;6;16;26;126;36;136;236;1236;46
146;246;1246;346;1346;2346;12346;56;156;256;1256;356;1356;2356;12356;456;1456;2456;12456;3456;13456
23456;123456;7;17;27;127;37;137;237;1237;47;147;247;1247;347;1347;2347;12347;57;157;257;1257;357
1357;2357;12357;457;1457;2457;12457;3457;13457;23457;123457;67;167;267;1267;367;1367;2367;12367;467
1467;2467;12467;3467;13467;23467;123467;567;1567;2567;12567;3567;13567;23567;123567;4567;14567;24567
124567;34567;134567;234567;1234567;8;18;28;128;38;138;238;1238;48;148;248;1248;348;1348;2348;12348
58;158;258;1258;358;1358;2358;12358;458;1458;2458;12458;3458;13458;23458;123458;68;168;268;1268;368
1368;2368;12368;468;1468;2468;12468;3468;13468;23468;123468;568;1568;2568;12568;3568;13568;23568
123568;4568;14568;24568;124568;34568;134568;234568;1234568;78;178;278;1278;378;1378;2378;12378;478
1478;2478;12478;3478;13478;23478;123478;578;1578;2578;12578;3578;13578;23578;123578;4578;14578;24578
124578;34578;134578;234578;1234578;678;1678;2678;12678;3678;13678;23678;123678;4678;14678;24678
124678;34678;134678;234678;1234678;5678;15678;25678;125678;35678;135678;235678;1235678;45678;145678
245678;1245678;345678;1345678;2345678;12345678
2900=RIGHTWARDS_TWO-HEADED_ARROW_WITH_;VERTICAL_STROKE;DOUBLE_VERTICAL_STROKE
2902=;LEFTWARDS_DOUBLE_ARROW_WITH_VERTICAL_STROKE;RIGHTWARDS_DOUBLE_ARROW_WITH_VERTICAL_STROKE
2904=;LEFT_RIGHT_DOUBLE_ARROW_WITH_VERTICAL_STROKE;RIGHTWARDS_TWO-HEADED_ARROW_FROM_BAR
LEFTWARDS_DOUBLE_ARROW_FROM_BAR;RIGHTWARDS_DOUBLE_ARROW_FROM_BAR
DOWNWARDS_ARROW_WITH_HORIZONTAL_STROKE;2909=UPWARDS_;ARROW_WITH_HORIZONTAL_STROKE;TRIPLE_ARROW
290b=;DOWNWARDS_TRIPLE_ARROW;LEFTWARDS_DOUBLE_DASH_ARROW;RIGHTWARDS_DOUBLE_DASH_ARROW
LEFTWARDS_TRIPLE_DASH_ARROW;290f=RIGHTWARDS_;TRIPLE_DASH_ARROW;TWO-HEADED_TRIPLE_DASH_ARROW
ARROW_WITH_DOTTED_STEM;2912=;UPWARDS_ARROW_TO_BAR;DOWNWARDS_ARROW_TO_BAR
2914=RIGHTWARDS_ARROW_WITH_TAIL_WITH_;VERTICAL_STROKE;DOUBLE_VERTICAL_STROKE
2916=RIGHTWARDS_TWO-HEADED_ARROW_WITH_;TAIL;TAIL_WITH_VERTICAL_STROKE
TAIL_WITH_DOUBLE_VERTICAL_STROKE;2919=;LEFTWARDS_ARROW-TAIL;RIGHTWARDS_ARROW-TAIL
LEFTWARDS_DOUBLE_ARROW-TAIL;291c=;RIGHTWARDS_DOUBLE_ARROW-TAIL;LEFTWARDS_ARROW_TO_BLACK_DIAMOND
RIGHTWARDS_ARROW_TO_BLACK_DIAMOND;LEFTWARDS_ARROW_FROM_BAR_TO_BLACK_DIAMOND
RIGHTWARDS_ARROW_FROM_BAR_TO_BLACK_DIAMOND;2921=NORTH_;WEST_AND_SOUTH_EAST_ARROW
EAST_AND_SOUTH_WEST_ARROW;WEST_ARROW_WITH_HOOK;EAST_ARROW_WITH_HOOK
2925=SOUTH_;EAST_ARROW_WITH_HOOK;WEST_ARROW_WITH_HOOK
2927=NORTH_;WEST_ARROW_AND_NORTH_EAST_ARROW;EAST_ARROW_AND_SOUTH_EAST_ARROW
2929=SOUTH_;EAST_ARROW_AND_SOUTH_WEST_ARROW;WEST_ARROW_AND_NORTH_WEST_ARROW
292b=;RISING_DIAGONAL_CROSSING_FALLING_DIAGONAL;FALLING_DIAGONAL_CROSSING_RISING_DIAGONAL
SOUTH_EAST_ARROW_CROSSING_NORTH_EAST_ARROW;NORTH_EAST_ARROW_CROSSING_SOUTH_EAST_ARROW
292f=;FALLING_DIAGONAL_CROSSING_NORTH_EAST_ARROW;RISING_DIAGONAL_CROSSING_SOUTH_EAST_ARROW
NORTH_EAST_ARROW_CROSSING_NORTH_WEST_ARROW;NORTH_WEST_ARROW_CROSSING_NORTH_EAST_ARROW
WAVE_ARROW_POINTING_DIRECTLY_RIGHT
2934=ARROW_POINTING_RIGHTWARDS_THEN_CURVING_;UPWARDS;DOWNWARDS
2936=ARROW_POINTING_DOWNWARDS_THEN_CURVING_;LEFTWARDS;RIGHTWARDS
2938=;RIGHT-SIDE_ARC_CLOCKWISE_ARROW;LEFT-SIDE_ARC_ANTICLOCKWISE_ARROW;TOP_ARC_ANTICLOCKWISE_ARROW
BOTTOM_ARC_ANTICLOCKWISE_ARROW;293c=TOP_ARC_;CLOCKWISE_ARROW_WITH_MINUS
ANTICLOCKWISE_ARROW_WITH_PLUS;293e=LOWER_;RIGHT_SEMICIRCULAR_CLOCKWISE_ARROW
LEFT_SEMICIRCULAR_ANTICLOCKWISE_ARROW;2940=;ANTICLOCKWISE_CLOSED_CIRCLE_ARROW
CLOCKWISE_CLOSED_CIRCLE_ARROW;RIGHTWARDS_ARROW_ABOVE_SHORT_LEFTWARDS_ARROW
LEFTWARDS_ARROW_ABOVE_SHORT_RIGHTWARDS_ARROW;SHORT_RIGHTWARDS_ARROW_ABOVE_LEFTWARDS_ARROW
2945=;RIGHTWARDS_ARROW_WITH_PLUS_BELOW;LEFTWARDS_ARROW_WITH_PLUS_BELOW;RIGHTWARDS_ARROW_THROUGH_X
LEFT_RIGHT_ARROW_THROUGH_SMALL_CIRCLE;UPWARDS_TWO-HEADED_ARROW_FROM_SMALL_CIRCLE
294a=LEFT_BARB_;UP_RIGHT_BARB_DOWN_HARPOON;DOWN_RIGHT_BARB_UP_HARPOON
294c=UP_BARB_;RIGHT_DOWN_BARB_LEFT_HARPOON;LEFT_DOWN_BARB_RIGHT_HARPOON
294e=;LEFT_BARB_UP_RIGHT_BARB_UP_HARPOON;UP_BARB_RIGHT_DOWN_BARB_RIGHT_HARPOON
LEFT_BARB_DOWN_RIGHT_BARB_DOWN_HARPOON;UP_BARB_LEFT_DOWN_BARB_LEFT_HARPOON
2952=;LEFTWARDS_HARPOON_WITH_BARB_UP_TO_BAR;RIGHTWARDS_HARPOON_WITH_BARB_UP_TO_BAR
UPWARDS_HARPOON_WITH_BARB_RIGHT_TO_BAR;DOWNWARDS_HARPOON_WITH_BARB_RIGHT_TO_BAR
LEFTWARDS_HARPOON_WITH_BARB_DOWN_TO_BAR;2957=;RIGHTWARDS_HARPOON_WITH_BARB_DOWN_TO_BAR
UPWARDS_HARPOON_WITH_BARB_LEFT_TO_BAR;DOWNWARDS_HARPOON_WITH_BARB_LEFT_TO_BAR
LEFTWARDS_HARPOON_WITH_BARB_UP_FROM_BAR;RIGHTWARDS_HARPOON_WITH_BARB_UP_FROM_BAR
295c=;UPWARDS_HARPOON_WITH_BARB_RIGHT_FROM_BAR;DOWNWARDS_HARPOON_WITH_BARB_RIGHT_FROM_BAR
LEFTWARDS_HARPOON_WITH_BARB_DOWN_FROM_BAR;RIGHTWARDS_HARPOON_WITH_BARB_DOWN_FROM_BAR
UPWARDS_HARPOON_WITH_BARB_LEFT_FROM_BAR;2961=;DOWNWARDS_HARPOON_WITH_BARB_LEFT_FROM_BAR
LEFTWARDS_HARPOON_WITH_BARB_UP_ABOVE_LEFTWARDS_HARPOON_WITH_BARB_DOWN
UPWARDS_HARPOON_WITH_BARB_LEFT_BESIDE_UPWARDS_HARPOON_WITH_BARB_RIGHT
RIGHTWARDS_HARPOON_WITH_BARB_UP_ABOVE_RIGHTWARDS_HARPOON_WITH_BARB_DOWN
DOWNWARDS_HARPOON_WITH_BARB_LEFT_BESIDE_DOWNWARDS_HARPOON_WITH_BARB_RIGHT
2966=LEFTWARDS_HARPOON_WITH_BARB_;UP_ABOVE_RIGHTWARDS_HARPOON_WITH_BARB_UP
DOWN_ABOVE_RIGHTWARDS_HARPOON_WITH_BARB_DOWN
2968=RIGHTWARDS_HARPOON_WITH_BARB_;UP_ABOVE_LEFTWARDS_HARPOON_WITH_BARB_UP
DOWN_ABOVE_LEFTWARDS_HARPOON_WITH_BARB_DOWN
296a=LEFTWARDS_HARPOON_WITH_BARB_;UP_ABOVE_LONG_DASH;DOWN_BELOW_LONG_DASH
296c=RIGHTWARDS_HARPOON_WITH_BARB_;UP_ABOVE_LONG_DASH;DOWN_BELOW_LONG_DASH
296e=;UPWARDS_HARPOON_WITH_BARB_LEFT_BESIDE_DOWNWARDS_HARPOON_WITH_BARB_RIGHT
296f=;DOWNWARDS_HARPOON_WITH_BARB_LEFT_BESIDE_UPWARDS_HARPOON_WITH_BARB_RIGHT
RIGHT_DOUBLE_ARROW_WITH_ROUNDED_HEAD;EQUALS_SIGN_ABOVE_RIGHTWARDS_ARROW
TILDE_OPERATOR_ABOVE_RIGHTWARDS_ARROW;LEFTWARDS_ARROW_ABOVE_TILDE_OPERATOR
2974=RIGHTWARDS_ARROW_ABOVE_;TILDE_OPERATOR;ALMOST_EQUAL_TO
2976=;LESS-THAN_ABOVE_LEFTWARDS_ARROW;2977=;LEFTWARDS_ARROW_THROUGH_LESS-THAN
GREATER-THAN_ABOVE_RIGHTWARDS_ARROW;SUBSET_ABOVE_RIGHTWARDS_ARROW;LEFTWARDS_ARROW_THROUGH_SUBSET
SUPERSET_ABOVE_LEFTWARDS_ARROW;297c=;LEFT_FISH_TAIL;RIGHT_FISH_TAIL;UP_FISH_TAIL;DOWN_FISH_TAIL
TRIPLE_VERTICAL_BAR_DELIMITER;2981=Z_NOTATION_;SPOT;TYPE_COLON
2983=;LEFT_WHITE_CURLY_BRACKET;RIGHT_WHITE_CURLY_BRACKET;LEFT_WHITE_PARENTHESIS
RIGHT_WHITE_PARENTHESIS;2987=Z_NOTATION_;LEFT_IMAGE_BRACKET;RIGHT_IMAGE_BRACKET;LEFT_BINDING_BRACKET
RIGHT_BINDING_BRACKET;298b=;LEFT_SQUARE_BRACKET_WITH_UNDERBAR;RIGHT_SQUARE_BRACKET_WITH_UNDERBAR
LEFT_SQUARE_BRACKET_WITH_TICK_IN_TOP_CORNER;RIGHT_SQUARE_BRACKET_WITH_TICK_IN_BOTTOM_CORNER
LEFT_SQUARE_BRACKET_WITH_TICK_IN_BOTTOM_CORNER;2990=;RIGHT_SQUARE_BRACKET_WITH_TICK_IN_TOP_CORNER
LEFT_ANGLE_BRACKET_WITH_DOT;RIGHT_ANGLE_BRACKET_WITH_DOT;LEFT_ARC_LESS-THAN_BRACKET
RIGHT_ARC_GREATER-THAN_BRACKET;2995=DOUBLE_;LEFT_ARC_GREATER-THAN_BRACKET
RIGHT_ARC_LESS-THAN_BRACKET;2997=;LEFT_BLACK_TORTOISE_SHELL_BRACKET
RIGHT_BLACK_TORTOISE_SHELL_BRACKET;DOTTED_FENCE;VERTICAL_ZIGZAG_LINE
299b=;MEASURED_ANGLE_OPENING_LEFT;RIGHT_ANGLE_VARIANT_WITH_SQUARE;MEASURED_RIGHT_ANGLE_WITH_DOT
ANGLE_WITH_S_INSIDE;ACUTE_ANGLE
29a0=SPHERICAL_ANGLE_OPENING_;LEFT;UP;29a2=;TURNED_ANGLE;REVERSED_ANGLE;ANGLE_WITH_UNDERBAR
REVERSED_ANGLE_WITH_UNDERBAR;29a6=OBLIQUE_ANGLE_OPENING_;UP;DOWN
29a8=MEASURED_ANGLE_WITH_OPEN_ARM_ENDING_IN_ARROW_POINTING_;UP_AND_RIGHT;UP_AND_LEFT;DOWN_AND_RIGHT
DOWN_AND_LEFT;RIGHT_AND_UP;LEFT_AND_UP;RIGHT_AND_DOWN;LEFT_AND_DOWN
29b0=;REVERSED_EMPTY_SET;29b1=EMPTY_SET_WITH_;OVERBAR;SMALL_CIRCLE_ABOVE;RIGHT_ARROW_ABOVE
LEFT_ARROW_ABOVE;29b5=;CIRCLE_WITH_HORIZONTAL_BAR
29b6=CIRCLED_;VERTICAL_BAR;PARALLEL;REVERSE_SOLIDUS;PERPENDICULAR
29ba=CIRCLE_;DIVIDED_BY_HORIZONTAL_BAR_AND_TOP_HALF_DIVIDED_BY_VERTICAL_BAR;WITH_SUPERIMPOSED_X
29bc=;CIRCLED_ANTICLOCKWISE-ROTATED_DIVISION_SIGN;UP_ARROW_THROUGH_CIRCLE
29be=CIRCLED_;WHITE_BULLET;BULLET;LESS-THAN;GREATER-THAN
29c2=CIRCLE_WITH_;SMALL_CIRCLE_TO_THE_RIGHT;TWO_HORIZONTAL_STROKES_TO_THE_RIGHT
29c4=SQUARED_;RISING_DIAGONAL_SLASH;FALLING_DIAGONAL_SLASH;ASTERISK;SMALL_CIRCLE;SQUARE
29c9=;TWO_JOINED_SQUARES;29ca=TRIANGLE_WITH_;DOT_ABOVE;UNDERBAR
29cc=;S_IN_TRIANGLE;TRIANGLE_WITH_SERIFS_AT_BOTTOM;RIGHT_TRIANGLE_ABOVE_LEFT_TRIANGLE
LEFT_TRIANGLE_BESIDE_VERTICAL_BAR;VERTICAL_BAR_BESIDE_RIGHT_TRIANGLE
29d1=BOWTIE_WITH_;LEFT_HALF_BLACK;RIGHT_HALF_BLACK;29d3=;BLACK_BOWTIE
29d4=TIMES_WITH_;LEFT_HALF_BLACK;RIGHT_HALF_BLACK;29d6=;WHITE_HOURGLASS;BLACK_HOURGLASS
LEFT_WIGGLY_FENCE;29d9=;RIGHT_WIGGLY_FENCE;LEFT_DOUBLE_WIGGLY_FENCE;RIGHT_DOUBLE_WIGGLY_FENCE
INCOMPLETE_INFINITY;TIE_OVER_INFINITY;29de=;INFINITY_NEGATED_WITH_VERTICAL_BAR;DOUBLE-ENDED_MULTIMAP
SQUARE_WITH_CONTOURED_OUTLINE;INCREASES_AS;SHUFFLE_PRODUCT
29e3=EQUALS_SIGN_AND_SLANTED_;PARALLEL;PARALLEL_WITH_TILDE_ABOVE
29e5=;IDENTICAL_TO_AND_SLANTED_PARALLEL;GLEICH_STARK;THERMODYNAMIC
29e8=DOWN-POINTING_TRIANGLE_WITH_;LEFT_HALF_BLACK;RIGHT_HALF_BLACK
29ea=;BLACK_DIAMOND_WITH_DOWN_ARROW;BLACK_LOZENGE;WHITE_CIRCLE_WITH_DOWN_ARROW
BLACK_CIRCLE_WITH_DOWN_ARROW;29ee=ERROR-BARRED_;WHITE_SQUARE;BLACK_SQUARE;WHITE_DIAMOND
BLACK_DIAMOND;WHITE_CIRCLE;BLACK_CIRCLE;29f4=;RULE-DELAYED;REVERSE_SOLIDUS_OPERATOR
29f6=;SOLIDUS_WITH_OVERBAR;REVERSE_SOLIDUS_WITH_HORIZONTAL_STROKE;BIG_SOLIDUS;BIG_REVERSE_SOLIDUS
DOUBLE_PLUS;29fb=;TRIPLE_PLUS;LEFT-POINTING_CURVED_ANGLE_BRACKET;RIGHT-POINTING_CURVED_ANGLE_BRACKET
TINY;MINY;2a00=N-ARY_CIRCLED_;DOT_OPERATOR;PLUS_OPERATOR;TIMES_OPERATOR
2a03=N-ARY_UNION_OPERATOR_WITH_;DOT;PLUS;2a05=N-ARY_SQUARE_;INTERSECTION_OPERATOR;UNION_OPERATOR
2a07=TWO_LOGICAL_;AND_OPERATOR;OR_OPERATOR;2a09=;N-ARY_TIMES_OPERATOR;MODULO_TWO_SUM
SUMMATION_WITH_INTEGRAL;QUADRUPLE_INTEGRAL_OPERATOR;FINITE_PART_INTEGRAL
2a0e=INTEGRAL_;WITH_DOUBLE_STROKE;AVERAGE_WITH_SLASH;2a10=;CIRCULATION_FUNCTION
ANTICLOCKWISE_INTEGRATION;2a12=LINE_INTEGRATION_;WITH_RECTANGULAR_PATH_AROUND_POLE
WITH_SEMICIRCULAR_PATH_AROUND_POLE;NOT_INCLUDING_THE_POLE
2a15=;INTEGRAL_AROUND_A_POINT_OPERATOR;QUATERNION_INTEGRAL_OPERATOR
2a17=INTEGRAL_WITH_;LEFTWARDS_ARROW_WITH_HOOK;TIMES_SIGN;INTERSECTION;UNION;OVERBAR;UNDERBAR
2a1d=;JOIN;LARGE_LEFT_TRIANGLE_OPERATOR
2a1f=Z_NOTATION_SCHEMA_;COMPOSITION;PIPING;PROJECTION
2a22=PLUS_SIGN_WITH_;SMALL_CIRCLE_ABOVE;CIRCUMFLEX_ACCENT_ABOVE;TILDE_ABOVE;DOT_BELOW;TILDE_BELOW
SUBSCRIPT_TWO;BLACK_TRIANGLE;2a29=MINUS_SIGN_WITH_;COMMA_ABOVE;DOT_BELOW;FALLING_DOTS;RISING_DOTS
2a2d=PLUS_SIGN_IN_;LEFT_HALF_CIRCLE;RIGHT_HALF_CIRCLE;2a2f=;VECTOR_OR_CROSS_PRODUCT
2a30=MULTIPLICATION_SIGN_WITH_;DOT_ABOVE;UNDERBAR;2a32=;SEMIDIRECT_PRODUCT_WITH_BOTTOM_CLOSED
SMASH_PRODUCT;2a34=MULTIPLICATION_SIGN_IN_;LEFT_HALF_CIRCLE;RIGHT_HALF_CIRCLE
2a36=;CIRCLED_MULTIPLICATION_SIGN_WITH_CIRCUMFLEX_ACCENT
2a37=;MULTIPLICATION_SIGN_IN_DOUBLE_CIRCLE;CIRCLED_DIVISION_SIGN;PLUS_SIGN_IN_TRIANGLE
MINUS_SIGN_IN_TRIANGLE;MULTIPLICATION_SIGN_IN_TRIANGLE;2a3c=;INTERIOR_PRODUCT
RIGHTHAND_INTERIOR_PRODUCT;Z_NOTATION_RELATIONAL_COMPOSITION;AMALGAMATION_OR_COPRODUCT
INTERSECTION_WITH_DOT;2a41=UNION_WITH_;MINUS_SIGN;OVERBAR
2a43=INTERSECTION_WITH_;OVERBAR;LOGICAL_AND;2a45=UNION_;WITH_LOGICAL_OR;ABOVE_INTERSECTION
2a47=;INTERSECTION_ABOVE_UNION;UNION_ABOVE_BAR_ABOVE_INTERSECTION;INTERSECTION_ABOVE_BAR_ABOVE_UNION
UNION_BESIDE_AND_JOINED_WITH_UNION;INTERSECTION_BESIDE_AND_JOINED_WITH_INTERSECTION
2a4c=CLOSED_;UNION_WITH_SERIFS;INTERSECTION_WITH_SERIFS
2a4e=DOUBLE_SQUARE_;INTERSECTION;UNION;2a50=;CLOSED_UNION_WITH_SERIFS_AND_SMASH_PRODUCT
2a51=LOGICAL_;AND_WITH_DOT_ABOVE;OR_WITH_DOT_ABOVE
2a53=DOUBLE_LOGICAL_;AND;OR;2a55=TWO_INTERSECTING_LOGICAL_;AND;OR
2a57=SLOPING_LARGE_;OR;AND;2a59=LOGICAL_;OR_OVERLAPPING_LOGICAL_AND;AND_WITH_MIDDLE_STEM
OR_WITH_MIDDLE_STEM;AND_WITH_HORIZONTAL_DASH;OR_WITH_HORIZONTAL_DASH
2a5e=LOGICAL_AND_WITH_;DOUBLE_OVERBAR;UNDERBAR;DOUBLE_UNDERBAR
2a61=;SMALL_VEE_WITH_UNDERBAR;2a62=LOGICAL_OR_WITH_DOUBLE_;OVERBAR;UNDERBAR
2a64=Z_NOTATION_;DOMAIN_ANTIRESTRICTION;RANGE_ANTIRESTRICTION
2a66=;EQUALS_SIGN_WITH_DOT_BELOW;IDENTICAL_WITH_DOT_ABOVE
2a68=TRIPLE_HORIZONTAL_BAR_WITH_;DOUBLE_VERTICAL_STROKE;TRIPLE_VERTICAL_STROKE
2a6a=TILDE_OPERATOR_WITH_;DOT_ABOVE;RISING_DOTS;2a6c=;SIMILAR_MINUS_SIMILAR
2a6d=;CONGRUENT_WITH_DOT_ABOVE;EQUALS_WITH_ASTERISK;ALMOST_EQUAL_TO_WITH_CIRCUMFLEX_ACCENT
APPROXIMATELY_EQUAL_OR_EQUAL_TO;EQUALS_SIGN_ABOVE_PLUS_SIGN
2a72=;PLUS_SIGN_ABOVE_EQUALS_SIGN;EQUALS_SIGN_ABOVE_TILDE_OPERATOR;DOUBLE_COLON_EQUAL
TWO_CONSECUTIVE_EQUALS_SIGNS;THREE_CONSECUTIVE_EQUALS_SIGNS
2a77=;EQUALS_SIGN_WITH_TWO_DOTS_ABOVE_AND_TWO_DOTS_BELOW;EQUIVALENT_WITH_FOUR_DOTS_ABOVE
LESS-THAN_WITH_CIRCLE_INSIDE;GREATER-THAN_WITH_CIRCLE_INSIDE;LESS-THAN_WITH_QUESTION_MARK_ABOVE
2a7c=;GREATER-THAN_WITH_QUESTION_MARK_ABOVE;LESS-THAN_OR_SLANTED_EQUAL_TO
GREATER-THAN_OR_SLANTED_EQUAL_TO;LESS-THAN_OR_SLANTED_EQUAL_TO_WITH_DOT_INSIDE
GREATER-THAN_OR_SLANTED_EQUAL_TO_WITH_DOT_INSIDE;2a81=;LESS-THAN_OR_SLANTED_EQUAL_TO_WITH_DOT_ABOVE
GREATER-THAN_OR_SLANTED_EQUAL_TO_WITH_DOT_ABOVE;LESS-THAN_OR_SLANTED_EQUAL_TO_WITH_DOT_ABOVE_RIGHT
GREATER-THAN_OR_SLANTED_EQUAL_TO_WITH_DOT_ABOVE_LEFT;LESS-THAN_OR_APPROXIMATE
2a86=;GREATER-THAN_OR_APPROXIMATE;LESS-THAN_AND_SINGLE-LINE_NOT_EQUAL_TO
GREATER-THAN_AND_SINGLE-LINE_NOT_EQUAL_TO;LESS-THAN_AND_NOT_APPROXIMATE
GREATER-THAN_AND_NOT_APPROXIMATE;2a8b=;LESS-THAN_ABOVE_DOUBLE-LINE_EQUAL_ABOVE_GREATER-THAN
GREATER-THAN_ABOVE_DOUBLE-LINE_EQUAL_ABOVE_LESS-THAN;LESS-THAN_ABOVE_SIMILAR_OR_EQUAL
GREATER-THAN_ABOVE_SIMILAR_OR_EQUAL;LESS-THAN_ABOVE_SIMILAR_ABOVE_GREATER-THAN
2a90=;GREATER-THAN_ABOVE_SIMILAR_ABOVE_LESS-THAN
LESS-THAN_ABOVE_GREATER-THAN_ABOVE_DOUBLE-LINE_EQUAL
GREATER-THAN_ABOVE_LESS-THAN_ABOVE_DOUBLE-LINE_EQUAL
LESS-THAN_ABOVE_SLANTED_EQUAL_ABOVE_GREATER-THAN_ABOVE_SLANTED_EQUAL
GREATER-THAN_ABOVE_SLANTED_EQUAL_ABOVE_LESS-THAN_ABOVE_SLANTED_EQUAL
2a95=SLANTED_EQUAL_TO_OR_;LESS-THAN;GREATER-THAN;LESS-THAN_WITH_DOT_INSIDE
GREATER-THAN_WITH_DOT_INSIDE;2a99=DOUBLE-LINE_EQUAL_TO_OR_;LESS-THAN;GREATER-THAN
2a9b=DOUBLE-LINE_SLANTED_EQUAL_TO_OR_;LESS-THAN;GREATER-THAN
2a9d=SIMILAR_;OR_LESS-THAN;OR_GREATER-THAN;ABOVE_LESS-THAN_ABOVE_EQUALS_SIGN
ABOVE_GREATER-THAN_ABOVE_EQUALS_SIGN;2aa1=DOUBLE_NESTED_;LESS-THAN;GREATER-THAN
LESS-THAN_WITH_UNDERBAR;2aa4=GREATER-THAN_;OVERLAPPING_LESS-THAN;BESIDE_LESS-THAN
2aa6=;LESS-THAN_CLOSED_BY_CURVE;GREATER-THAN_CLOSED_BY_CURVE
LESS-THAN_CLOSED_BY_CURVE_ABOVE_SLANTED_EQUAL;GREATER-THAN_CLOSED_BY_CURVE_ABOVE_SLANTED_EQUAL
2aaa=;SMALLER_THAN;LARGER_THAN;SMALLER_THAN_OR_EQUAL_TO;LARGER_THAN_OR_EQUAL_TO
EQUALS_SIGN_WITH_BUMPY_ABOVE;2aaf=;PRECEDES_ABOVE_SINGLE-LINE_EQUALS_SIGN
SUCCEEDS_ABOVE_SINGLE-LINE_EQUALS_SIGN;PRECEDES_ABOVE_SINGLE-LINE_NOT_EQUAL_TO
SUCCEEDS_ABOVE_SINGLE-LINE_NOT_EQUAL_TO;PRECEDES_ABOVE_EQUALS_SIGN
2ab4=;SUCCEEDS_ABOVE_EQUALS_SIGN;PRECEDES_ABOVE_NOT_EQUAL_TO;SUCCEEDS_ABOVE_NOT_EQUAL_TO
PRECEDES_ABOVE_ALMOST_EQUAL_TO;SUCCEEDS_ABOVE_ALMOST_EQUAL_TO
2ab9=;PRECEDES_ABOVE_NOT_ALMOST_EQUAL_TO;SUCCEEDS_ABOVE_NOT_ALMOST_EQUAL_TO;DOUBLE_PRECEDES
DOUBLE_SUCCEEDS;SUBSET_WITH_DOT;2abe=;SUPERSET_WITH_DOT;SUBSET_WITH_PLUS_SIGN_BELOW
SUPERSET_WITH_PLUS_SIGN_BELOW;SUBSET_WITH_MULTIPLICATION_SIGN_BELOW
SUPERSET_WITH_MULTIPLICATION_SIGN_BELOW;2ac3=;SUBSET_OF_OR_EQUAL_TO_WITH_DOT_ABOVE
SUPERSET_OF_OR_EQUAL_TO_WITH_DOT_ABOVE;SUBSET_OF_ABOVE_EQUALS_SIGN;SUPERSET_OF_ABOVE_EQUALS_SIGN
SUBSET_OF_ABOVE_TILDE_OPERATOR;2ac8=;SUPERSET_OF_ABOVE_TILDE_OPERATOR
SUBSET_OF_ABOVE_ALMOST_EQUAL_TO;SUPERSET_OF_ABOVE_ALMOST_EQUAL_TO;SUBSET_OF_ABOVE_NOT_EQUAL_TO
SUPERSET_OF_ABOVE_NOT_EQUAL_TO;2acd=SQUARE_;LEFT_OPEN_BOX_OPERATOR;RIGHT_OPEN_BOX_OPERATOR
2acf=CLOSED_;SUBSET;SUPERSET;SUBSET_OR_EQUAL_TO;SUPERSET_OR_EQUAL_TO
2ad3=;SUBSET_ABOVE_SUPERSET;SUPERSET_ABOVE_SUBSET;SUBSET_ABOVE_SUBSET
2ad6=SUPERSET_;ABOVE_SUPERSET;BESIDE_SUBSET;BESIDE_AND_JOINED_BY_DASH_WITH_SUBSET
2ad9=;ELEMENT_OF_OPENING_DOWNWARDS;PITCHFORK_WITH_TEE_TOP;TRANSVERSAL_INTERSECTION;FORKING
NONFORKING;2ade=SHORT_;LEFT_TACK;DOWN_TACK;UP_TACK;2ae1=;PERPENDICULAR_WITH_S
VERTICAL_BAR_TRIPLE_RIGHT_TURNSTILE;2ae3=;DOUBLE_VERTICAL_BAR_LEFT_TURNSTILE
VERTICAL_BAR_DOUBLE_LEFT_TURNSTILE;DOUBLE_VERTICAL_BAR_DOUBLE_LEFT_TURNSTILE
LONG_DASH_FROM_LEFT_MEMBER_OF_DOUBLE_VERTICAL;SHORT_DOWN_TACK_WITH_OVERBAR
2ae8=SHORT_UP_TACK_;WITH_UNDERBAR;ABOVE_SHORT_DOWN_TACK
2aea=DOUBLE_;DOWN_TACK;UP_TACK;STROKE_NOT_SIGN;2aed=;REVERSED_DOUBLE_STROKE_NOT_SIGN
DOES_NOT_DIVIDE_WITH_REVERSED_NEGATION_SLASH
2aef=VERTICAL_LINE_WITH_CIRCLE_;ABOVE;BELOW;2af1=;DOWN_TACK_WITH_CIRCLE_BELOW
2af2=PARALLEL_WITH_;HORIZONTAL_STROKE;TILDE_OPERATOR
2af4=TRIPLE_;VERTICAL_BAR_BINARY_RELATION;VERTICAL_BAR_WITH_HORIZONTAL_STROKE;COLON_OPERATOR
NESTED_LESS-THAN;NESTED_GREATER-THAN
2af9=DOUBLE-LINE_SLANTED_;LESS-THAN_OR_EQUAL_TO;GREATER-THAN_OR_EQUAL_TO
2afb=;TRIPLE_SOLIDUS_BINARY_RELATION;LARGE_TRIPLE_VERTICAL_BAR_OPERATOR;DOUBLE_SOLIDUS_OPERATOR
WHITE_VERTICAL_BAR;N-ARY_WHITE_VERTICAL_BAR;2b00=NORTH_;EAST_WHITE_ARROW;WEST_WHITE_ARROW
2b02=SOUTH_;EAST_WHITE_ARROW;WEST_WHITE_ARROW;2b04=;LEFT_RIGHT_WHITE_ARROW;LEFTWARDS_BLACK_ARROW
UPWARDS_BLACK_ARROW;DOWNWARDS_BLACK_ARROW;NORTH_EAST_BLACK_ARROW
2b09=;NORTH_WEST_BLACK_ARROW;SOUTH_EAST_BLACK_ARROW;SOUTH_WEST_BLACK_ARROW;LEFT_RIGHT_BLACK_ARROW
UP_DOWN_BLACK_ARROW;2b0e=RIGHTWARDS_ARROW_WITH_TIP_;DOWNWARDS;UPWARDS
2b10=LEFTWARDS_ARROW_WITH_TIP_;DOWNWARDS;UPWARDS
2b12=SQUARE_WITH_;TOP_HALF_BLACK;BOTTOM_HALF_BLACK;UPPER_RIGHT_DIAGONAL_HALF_BLACK
LOWER_LEFT_DIAGONAL_HALF_BLACK;2b16=DIAMOND_WITH_;LEFT_HALF_BLACK;RIGHT_HALF_BLACK;TOP_HALF_BLACK
BOTTOM_HALF_BLACK;2b1a=;DOTTED_SQUARE;BLACK_LARGE_SQUARE;WHITE_LARGE_SQUARE;BLACK_VERY_SMALL_SQUARE
WHITE_VERY_SMALL_SQUARE;2b1f=;BLACK_PENTAGON;WHITE_PENTAGON;WHITE_HEXAGON;BLACK_HEXAGON
HORIZONTAL_BLACK_HEXAGON;2b24=;BLACK_LARGE_CIRCLE;BLACK_MEDIUM_DIAMOND;WHITE_MEDIUM_DIAMOND
BLACK_MEDIUM_LOZENGE;WHITE_MEDIUM_LOZENGE;2b29=BLACK_SMALL_;DIAMOND;LOZENGE
2b2b=;WHITE_SMALL_LOZENGE;BLACK_HORIZONTAL_ELLIPSE;WHITE_HORIZONTAL_ELLIPSE;BLACK_VERTICAL_ELLIPSE
2b2f=;WHITE_VERTICAL_ELLIPSE;LEFT_ARROW_WITH_SMALL_CIRCLE;THREE_LEFTWARDS_ARROWS
LEFT_ARROW_WITH_CIRCLED_PLUS;LONG_LEFTWARDS_SQUIGGLE_ARROW
2b34=LEFTWARDS_TWO-HEADED_;ARROW_WITH_VERTICAL_STROKE;ARROW_WITH_DOUBLE_VERTICAL_STROKE
ARROW_FROM_BAR;TRIPLE_DASH_ARROW;2b38=LEFTWARDS_ARROW_WITH_;DOTTED_STEM;TAIL_WITH_VERTICAL_STROKE
TAIL_WITH_DOUBLE_VERTICAL_STROKE
2b3b=LEFTWARDS_TWO-HEADED_ARROW_WITH_;TAIL;TAIL_WITH_VERTICAL_STROKE
TAIL_WITH_DOUBLE_VERTICAL_STROKE;2b3e=;LEFTWARDS_ARROW_THROUGH_X;WAVE_ARROW_POINTING_DIRECTLY_LEFT
EQUALS_SIGN_ABOVE_LEFTWARDS_ARROW;REVERSE_TILDE_OPERATOR_ABOVE_LEFTWARDS_ARROW
LEFTWARDS_ARROW_ABOVE_REVERSE_ALMOST_EQUAL_TO
2b43=RIGHTWARDS_ARROW_THROUGH_;GREATER-THAN;SUPERSET;2b45=;LEFTWARDS_QUADRUPLE_ARROW
RIGHTWARDS_QUADRUPLE_ARROW;REVERSE_TILDE_OPERATOR_ABOVE_RIGHTWARDS_ARROW
RIGHTWARDS_ARROW_ABOVE_REVERSE_ALMOST_EQUAL_TO;TILDE_OPERATOR_ABOVE_LEFTWARDS_ARROW
2b4a=LEFTWARDS_ARROW_ABOVE_;ALMOST_EQUAL_TO;REVERSE_TILDE_OPERATOR
2b4c=;RIGHTWARDS_ARROW_ABOVE_REVERSE_TILDE_OPERATOR;DOWNWARDS_TRIANGLE-HEADED_ZIGZAG_ARROW
SHORT_SLANTED_NORTH_ARROW;SHORT_BACKSLANTED_SOUTH_ARROW
2b50=;WHITE_MEDIUM_STAR;BLACK_SMALL_STAR;WHITE_SMALL_STAR;BLACK_RIGHT-POINTING_PENTAGON
WHITE_RIGHT-POINTING_PENTAGON;2b55=HEAVY_;LARGE_CIRCLE;OVAL_WITH_OVAL_INSIDE
CIRCLE_WITH_CIRCLE_INSIDE;CIRCLE;CIRCLED_SALTIRE;2b5a=;SLANTED_NORTH_ARROW_WITH_HOOKED_HEAD
BACKSLANTED_SOUTH_ARROW_WITH_HOOKED_TAIL;SLANTED_NORTH_ARROW_WITH_HORIZONTAL_TAIL
BACKSLANTED_SOUTH_ARROW_WITH_HORIZONTAL_TAIL;2b5e=;BENT_ARROW_POINTING_DOWNWARDS_THEN_NORTH_EAST
SHORT_BENT_ARROW_POINTING_DOWNWARDS_THEN_NORTH_EAST;LEFTWARDS_TRIANGLE-HEADED_ARROW
UPWARDS_TRIANGLE-HEADED_ARROW;RIGHTWARDS_TRIANGLE-HEADED_ARROW
2b63=;DOWNWARDS_TRIANGLE-HEADED_ARROW;LEFT_RIGHT_TRIANGLE-HEADED_ARROW;UP_DOWN_TRIANGLE-HEADED_ARROW
NORTH_WEST_TRIANGLE-HEADED_ARROW;NORTH_EAST_TRIANGLE-HEADED_ARROW
2b68=SOUTH_;EAST_TRIANGLE-HEADED_ARROW;WEST_TRIANGLE-HEADED_ARROW
2b6a=;LEFTWARDS_TRIANGLE-HEADED_DASHED_ARROW;UPWARDS_TRIANGLE-HEADED_DASHED_ARROW
RIGHTWARDS_TRIANGLE-HEADED_DASHED_ARROW;DOWNWARDS_TRIANGLE-HEADED_DASHED_ARROW
CLOCKWISE_TRIANGLE-HEADED_OPEN_CIRCLE_ARROW;2b6f=;ANTICLOCKWISE_TRIANGLE-HEADED_OPEN_CIRCLE_ARROW
LEFTWARDS_TRIANGLE-HEADED_ARROW_TO_BAR;UPWARDS_TRIANGLE-HEADED_ARROW_TO_BAR
RIGHTWARDS_TRIANGLE-HEADED_ARROW_TO_BAR;DOWNWARDS_TRIANGLE-HEADED_ARROW_TO_BAR
2b76=NORTH_;WEST_TRIANGLE-HEADED_ARROW_TO_BAR;EAST_TRIANGLE-HEADED_ARROW_TO_BAR
2b78=;SOUTH_EAST_TRIANGLE-HEADED_ARROW_TO_BAR;SOUTH_WEST_TRIANGLE-HEADED_ARROW_TO_BAR
LEFTWARDS_TRIANGLE-HEADED_ARROW_WITH_DOUBLE_HORIZONTAL_STROKE
UPWARDS_TRIANGLE-HEADED_ARROW_WITH_DOUBLE_HORIZONTAL_STROKE
RIGHTWARDS_TRIANGLE-HEADED_ARROW_WITH_DOUBLE_HORIZONTAL_STROKE
2b7d=;DOWNWARDS_TRIANGLE-HEADED_ARROW_WITH_DOUBLE_HORIZONTAL_STROKE;HORIZONTAL_TAB_KEY
VERTICAL_TAB_KEY;LEFTWARDS_TRIANGLE-HEADED_ARROW_OVER_RIGHTWARDS_TRIANGLE-HEADED_ARROW
UPWARDS_TRIANGLE-HEADED_ARROW_LEFTWARDS_OF_DOWNWARDS_TRIANGLE-HEADED_ARROW
2b82=;RIGHTWARDS_TRIANGLE-HEADED_ARROW_OVER_LEFTWARDS_TRIANGLE-HEADED_ARROW
DOWNWARDS_TRIANGLE-HEADED_ARROW_LEFTWARDS_OF_UPWARDS_TRIANGLE-HEADED_ARROW
LEFTWARDS_TRIANGLE-HEADED_PAIRED_ARROWS;UPWARDS_TRIANGLE-HEADED_PAIRED_ARROWS
RIGHTWARDS_TRIANGLE-HEADED_PAIRED_ARROWS;2b87=;DOWNWARDS_TRIANGLE-HEADED_PAIRED_ARROWS
LEFTWARDS_BLACK_CIRCLED_WHITE_ARROW;UPWARDS_BLACK_CIRCLED_WHITE_ARROW
RIGHTWARDS_BLACK_CIRCLED_WHITE_ARROW;DOWNWARDS_BLACK_CIRCLED_WHITE_ARROW
2b8c=ANTICLOCKWISE_TRIANGLE-HEADED_;RIGHT_U-SHAPED_ARROW;BOTTOM_U-SHAPED_ARROW;LEFT_U-SHAPED_ARROW
TOP_U-SHAPED_ARROW;2b90=RETURN_;LEFT;RIGHT;2b92=NEWLINE_;LEFT;RIGHT
2b94=;FOUR_CORNER_ARROWS_CIRCLING_ANTICLOCKWISE;RIGHTWARDS_BLACK_ARROW
2b97=;SYMBOL_FOR_TYPE_A_ELECTRONICS;2b98=THREE-D_;TOP-LIGHTED_LEFTWARDS_EQUILATERAL_ARROWHEAD
RIGHT-LIGHTED_UPWARDS_EQUILATERAL_ARROWHEAD;TOP-LIGHTED_RIGHTWARDS_EQUILATERAL_ARROWHEAD
LEFT-LIGHTED_DOWNWARDS_EQUILATERAL_ARROWHEAD;2b9c=BLACK_;LEFTWARDS_EQUILATERAL_ARROWHEAD
UPWARDS_EQUILATERAL_ARROWHEAD;RIGHTWARDS_EQUILATERAL_ARROWHEAD;DOWNWARDS_EQUILATERAL_ARROWHEAD
2ba0=DOWNWARDS_TRIANGLE-HEADED_ARROW_WITH_LONG_TIP_;LEFTWARDS;RIGHTWARDS
2ba2=UPWARDS_TRIANGLE-HEADED_ARROW_WITH_LONG_TIP_;LEFTWARDS;RIGHTWARDS
2ba4=;LEFTWARDS_TRIANGLE-HEADED_ARROW_WITH_LONG_TIP_UPWARDS
RIGHTWARDS_TRIANGLE-HEADED_ARROW_WITH_LONG_TIP_UPWARDS
LEFTWARDS_TRIANGLE-HEADED_ARROW_WITH_LONG_TIP_DOWNWARDS
RIGHTWARDS_TRIANGLE-HEADED_ARROW_WITH_LONG_TIP_DOWNWARDS
2ba8=BLACK_CURVED_;DOWNWARDS_AND_LEFTWARDS_ARROW;DOWNWARDS_AND_RIGHTWARDS_ARROW
UPWARDS_AND_LEFTWARDS_ARROW;UPWARDS_AND_RIGHTWARDS_ARROW;LEFTWARDS_AND_UPWARDS_ARROW
RIGHTWARDS_AND_UPWARDS_ARROW;LEFTWARDS_AND_DOWNWARDS_ARROW;RIGHTWARDS_AND_DOWNWARDS_ARROW
2bb0=RIBBON_ARROW_;DOWN_LEFT;DOWN_RIGHT;UP_LEFT;UP_RIGHT;LEFT_UP;RIGHT_UP;LEFT_DOWN;RIGHT_DOWN
2bb8=;UPWARDS_WHITE_ARROW_FROM_BAR_WITH_HORIZONTAL_BAR;UP_ARROWHEAD_IN_A_RECTANGLE_BOX
2bba=OVERLAPPING_;WHITE_SQUARES;WHITE_AND_BLACK_SQUARES;BLACK_SQUARES
2bbd=;BALLOT_BOX_WITH_LIGHT_X;2bbe=CIRCLED_;X;BOLD_X;2bc0=;BLACK_SQUARE_CENTRED
BLACK_DIAMOND_CENTRED;TURNED_BLACK_PENTAGON;HORIZONTAL_BLACK_OCTAGON;BLACK_OCTAGON
2bc5=BLACK_MEDIUM_;UP-POINTING_TRIANGLE_CENTRED;DOWN-POINTING_TRIANGLE_CENTRED
LEFT-POINTING_TRIANGLE_CENTRED;RIGHT-POINTING_TRIANGLE_CENTRED
2bc9=;NEPTUNE_FORM_TWO;TOP_HALF_BLACK_CIRCLE;BOTTOM_HALF_BLACK_CIRCLE;LIGHT_FOUR_POINTED_BLACK_CUSP
ROTATED_LIGHT_FOUR_POINTED_BLACK_CUSP;2bce=;WHITE_FOUR_POINTED_CUSP;ROTATED_WHITE_FOUR_POINTED_CUSP
SQUARE_POSITION_INDICATOR;UNCERTAINTY_SIGN;GROUP_MARK
2bd3=PLUTO_FORM_;TWO;THREE;FOUR;FIVE;2bd7=;TRANSPLUTO;PROSERPINA;ASTRAEA;HYGIEA
2bdb=;PHOLUS;NESSUS;WHITE_MOON_SELENA;BLACK_DIAMOND_ON_CROSS;TRUE_LIGHT_MOON_ARTA
2be0=;CUPIDO;HADES;ZEUS;KRONOS;APOLLON;2be5=;ADMETOS;VULCANUS;POSEIDON;LEFT_HALF_BLACK_STAR
RIGHT_HALF_BLACK_STAR;2bea=STAR_WITH_;LEFT_HALF_BLACK;RIGHT_HALF_BLACK
2bec=;LEFTWARDS_TWO-HEADED_ARROW_WITH_TRIANGLE_ARROWHEADS
UPWARDS_TWO-HEADED_ARROW_WITH_TRIANGLE_ARROWHEADS
RIGHTWARDS_TWO-HEADED_ARROW_WITH_TRIANGLE_ARROWHEADS
DOWNWARDS_TWO-HEADED_ARROW_WITH_TRIANGLE_ARROWHEADS
2bf0=ERIS_FORM_;ONE;TWO;2bf2=;SEDNA
2bf3=RUSSIAN_ASTROLOGICAL_SYMBOL_;VIGINTILE;NOVILE;QUINTILE;BINOVILE;SENTAGON;TREDECILE
2bf9=;EQUALS_SIGN_WITH_INFINITY_BELOW;UNITED_SYMBOL;2bfb=;SEPARATED_SYMBOL;DOUBLED_SYMBOL
PASSED_SYMBOL;REVERSED_RIGHT_ANGLE;HELLSCHREIBER_PAUSE_SYMBOL
2c00=GLAGOLITIC_CAPITAL_LETTER_;AZU;BUKY;VEDE;GLAGOLI;DOBRO;YESTU;ZHIVETE;DZELO;ZEMLJA;IZHE
INITIAL_IZHE;I;DJERVI;KAKO;LJUDIJE;MYSLITE;NASHI;ONU;POKOJI;RITSI;SLOVO;TVRIDO;UKU;FRITU;HERU;OTU;PE
SHTA;TSI;CHRIVI;SHA;YERU;YERI;YATI;SPIDERY_HA;YU;SMALL_YUS;SMALL_YUS_WITH_TAIL;YO;IOTATED_SMALL_YUS
BIG_YUS;IOTATED_BIG_YUS;FITA;IZHITSA;SHTAPIC;TROKUTASTI_A;LATINATE_MYSLITE;CAUDATE_CHRIVI
2c30=GLAGOLITIC_SMALL_LETTER_;AZU;BUKY;VEDE;GLAGOLI;DOBRO;YESTU;ZHIVETE;DZELO;ZEMLJA;IZHE
INITIAL_IZHE;I;DJERVI;KAKO;LJUDIJE;MYSLITE;NASHI;ONU;POKOJI;RITSI;SLOVO;TVRIDO;UKU;FRITU;HERU;OTU;PE
SHTA;TSI;CHRIVI;SHA;YERU;YERI;YATI;SPIDERY_HA;YU;SMALL_YUS;SMALL_YUS_WITH_TAIL;YO;IOTATED_SMALL_YUS
BIG_YUS;IOTATED_BIG_YUS;FITA;IZHITSA;SHTAPIC;TROKUTASTI_A;LATINATE_MYSLITE;CAUDATE_CHRIVI
2c60=LATIN_;CAPITAL_LETTER_L_WITH_DOUBLE_BAR;SMALL_LETTER_L_WITH_DOUBLE_BAR
2c62=LATIN_CAPITAL_LETTER_;L_WITH_MIDDLE_TILDE;P_WITH_STROKE;R_WITH_TAIL
2c65=LATIN_SMALL_LETTER_;A_WITH_STROKE;T_WITH_DIAGONAL_STROKE
2c67=LATIN_;CAPITAL_LETTER_H_WITH_DESCENDER;SMALL_LETTER_H_WITH_DESCENDER
CAPITAL_LETTER_K_WITH_DESCENDER;SMALL_LETTER_K_WITH_DESCENDER;CAPITAL_LETTER_Z_WITH_DESCENDER
SMALL_LETTER_Z_WITH_DESCENDER;2c6d=LATIN_CAPITAL_LETTER_;ALPHA;M_WITH_HOOK;TURNED_A;TURNED_ALPHA
2c71=LATIN_;SMALL_LETTER_V_WITH_RIGHT_HOOK;CAPITAL_LETTER_W_WITH_HOOK;SMALL_LETTER_W_WITH_HOOK
SMALL_LETTER_V_WITH_CURL;CAPITAL_LETTER_HALF_H
2c76=LATIN_SMALL_LETTER_;HALF_H;TAILLESS_PHI;E_WITH_NOTCH;TURNED_R_WITH_TAIL;O_WITH_LOW_RING_INSIDE
2c7b=;LATIN_LETTER_SMALL_CAPITAL_TURNED_E;LATIN_SUBSCRIPT_SMALL_LETTER_J;MODIFIER_LETTER_CAPITAL_V
2c7e=LATIN_CAPITAL_LETTER_;S_WITH_SWASH_TAIL;Z_WITH_SWASH_TAIL
2c80=COPTIC_;CAPITAL_LETTER_ALFA;SMALL_LETTER_ALFA;CAPITAL_LETTER_VIDA;SMALL_LETTER_VIDA
CAPITAL_LETTER_GAMMA;SMALL_LETTER_GAMMA;CAPITAL_LETTER_DALDA;SMALL_LETTER_DALDA;CAPITAL_LETTER_EIE
SMALL_LETTER_EIE;CAPITAL_LETTER_SOU;SMALL_LETTER_SOU;CAPITAL_LETTER_ZATA;SMALL_LETTER_ZATA
CAPITAL_LETTER_HATE;SMALL_LETTER_HATE;CAPITAL_LETTER_THETHE;SMALL_LETTER_THETHE;CAPITAL_LETTER_IAUDA
SMALL_LETTER_IAUDA;CAPITAL_LETTER_KAPA;SMALL_LETTER_KAPA;CAPITAL_LETTER_LAULA;SMALL_LETTER_LAULA
CAPITAL_LETTER_MI;SMALL_LETTER_MI;CAPITAL_LETTER_NI;SMALL_LETTER_NI;CAPITAL_LETTER_KSI
SMALL_LETTER_KSI;CAPITAL_LETTER_O;SMALL_LETTER_O;CAPITAL_LETTER_PI;SMALL_LETTER_PI;CAPITAL_LETTER_RO
SMALL_LETTER_RO;CAPITAL_LETTER_SIMA;SMALL_LETTER_SIMA;CAPITAL_LETTER_TAU;SMALL_LETTER_TAU
CAPITAL_LETTER_UA;SMALL_LETTER_UA;CAPITAL_LETTER_FI;SMALL_LETTER_FI;CAPITAL_LETTER_KHI
SMALL_LETTER_KHI;CAPITAL_LETTER_PSI;SMALL_LETTER_PSI;CAPITAL_LETTER_OOU;SMALL_LETTER_OOU
CAPITAL_LETTER_DIALECT-P_ALEF;SMALL_LETTER_DIALECT-P_ALEF;CAPITAL_LETTER_OLD_COPTIC_AIN
SMALL_LETTER_OLD_COPTIC_AIN;CAPITAL_LETTER_CRYPTOGRAMMIC_EIE;SMALL_LETTER_CRYPTOGRAMMIC_EIE
CAPITAL_LETTER_DIALECT-P_KAPA;SMALL_LETTER_DIALECT-P_KAPA;CAPITAL_LETTER_DIALECT-P_NI
SMALL_LETTER_DIALECT-P_NI;CAPITAL_LETTER_CRYPTOGRAMMIC_NI;SMALL_LETTER_CRYPTOGRAMMIC_NI
CAPITAL_LETTER_OLD_COPTIC_OOU;SMALL_LETTER_OLD_COPTIC_OOU;CAPITAL_LETTER_SAMPI;SMALL_LETTER_SAMPI
CAPITAL_LETTER_CROSSED_SHEI;SMALL_LETTER_CROSSED_SHEI;CAPITAL_LETTER_OLD_COPTIC_SHEI
SMALL_LETTER_OLD_COPTIC_SHEI;CAPITAL_LETTER_OLD_COPTIC_ESH;SMALL_LETTER_OLD_COPTIC_ESH
CAPITAL_LETTER_AKHMIMIC_KHEI;SMALL_LETTER_AKHMIMIC_KHEI;CAPITAL_LETTER_DIALECT-P_HORI
SMALL_LETTER_DIALECT-P_HORI;CAPITAL_LETTER_OLD_COPTIC_HORI;SMALL_LETTER_OLD_COPTIC_HORI
CAPITAL_LETTER_OLD_COPTIC_HA;SMALL_LETTER_OLD_COPTIC_HA;CAPITAL_LETTER_L-SHAPED_HA
SMALL_LETTER_L-SHAPED_HA;CAPITAL_LETTER_OLD_COPTIC_HEI;SMALL_LETTER_OLD_COPTIC_HEI
CAPITAL_LETTER_OLD_COPTIC_HAT;SMALL_LETTER_OLD_COPTIC_HAT;CAPITAL_LETTER_OLD_COPTIC_GANGIA
SMALL_LETTER_OLD_COPTIC_GANGIA;CAPITAL_LETTER_OLD_COPTIC_DJA;SMALL_LETTER_OLD_COPTIC_DJA
CAPITAL_LETTER_OLD_COPTIC_SHIMA;SMALL_LETTER_OLD_COPTIC_SHIMA;CAPITAL_LETTER_OLD_NUBIAN_SHIMA
SMALL_LETTER_OLD_NUBIAN_SHIMA;CAPITAL_LETTER_OLD_NUBIAN_NGI;SMALL_LETTER_OLD_NUBIAN_NGI
CAPITAL_LETTER_OLD_NUBIAN_NYI;SMALL_LETTER_OLD_NUBIAN_NYI;CAPITAL_LETTER_OLD_NUBIAN_WAU
SMALL_LETTER_OLD_NUBIAN_WAU;2ce4=COPTIC_SYMBOL_;KAI;MI_RO;PI_RO;STAUROS;TAU_RO;KHI_RO;SHIMA_SIMA
2ceb=COPTIC_;CAPITAL_LETTER_CRYPTOGRAMMIC_SHEI;SMALL_LETTER_CRYPTOGRAMMIC_SHEI
CAPITAL_LETTER_CRYPTOGRAMMIC_GANGIA;SMALL_LETTER_CRYPTOGRAMMIC_GANGIA;COMBINING_NI_ABOVE
COMBINING_SPIRITUS_ASPER;COMBINING_SPIRITUS_LENIS;CAPITAL_LETTER_BOHAIRIC_KHEI
SMALL_LETTER_BOHAIRIC_KHEI;2cf9=COPTIC_OLD_NUBIAN_;FULL_STOP;DIRECT_QUESTION_MARK
INDIRECT_QUESTION_MARK;VERSE_DIVIDER;2cfd=COPTIC_;FRACTION_ONE_HALF;FULL_STOP;MORPHOLOGICAL_DIVIDER
2d00=GEORGIAN_SMALL_LETTER_;AN;BAN;GAN;DON;EN;VIN;ZEN;TAN;IN;KAN;LAS;MAN;NAR;ON;PAR;ZHAR;RAE;SAN;TAR
UN;PHAR;KHAR;GHAN;QAR;SHIN;CHIN;CAN;JIL;CIL;CHAR;XAN;JHAN;HAE;HE;HIE;WE;HAR;HOE
2d27=;GEORGIAN_SMALL_LETTER_YN;2d2d=;GEORGIAN_SMALL_LETTER_AEN
2d30=TIFINAGH_LETTER_;YA;YAB;YABH;YAG;YAGHH;BERBER_ACADEMY_YAJ;YAJ;YAD;YADH;YADD;YADDH;YEY;YAF;YAK
TUAREG_YAK;YAKHH;YAH;BERBER_ACADEMY_YAH;TUAREG_YAH;YAHH;YAA;YAKH;TUAREG_YAKH;YAQ;TUAREG_YAQ;YI;YAZH
AHAGGAR_YAZH;TUAREG_YAZH;YAL;YAM;YAN;TUAREG_YAGN;TUAREG_YANG;YAP;YU;YAR;YARR;YAGH;TUAREG_YAGH
AYER_YAGH;YAS;YASS;YASH;YAT;YATH;YACH;YATT;YAV;YAW;YAY;YAZ;TAWELLEMET_YAZ;YAZZ;YE;YO
2d6f=TIFINAGH_;MODIFIER_LETTER_LABIALIZATION_MARK;SEPARATOR_MARK
2d7f=;TIFINAGH_CONSONANT_JOINER;2d80=ETHIOPIC_SYLLABLE_;LOA;MOA;ROA;SOA;SHOA;BOA;TOA;COA;NOA;NYOA
GLOTTAL_OA;ZOA;DOA;DDOA;JOA;THOA;CHOA;PHOA;POA;GGWA;GGWI;GGWEE;GGWE
2da0=ETHIOPIC_SYLLABLE_;SSA;SSU;SSI;SSAA;SSEE;SSE;SSO
2da8=ETHIOPIC_SYLLABLE_;CCA;CCU;CCI;CCAA;CCEE;CCE;CCO
2db0=ETHIOPIC_SYLLABLE_;ZZA;ZZU;ZZI;ZZAA;ZZEE;ZZE;ZZO
2db8=ETHIOPIC_SYLLABLE_;CCHA;CCHU;CCHI;CCHAA;CCHEE;CCHE;CCHO
2dc0=ETHIOPIC_SYLLABLE_;QYA;QYU;QYI;QYAA;QYEE;QYE;QYO
2dc8=ETHIOPIC_SYLLABLE_;KYA;KYU;KYI;KYAA;KYEE;KYE;KYO
2dd0=ETHIOPIC_SYLLABLE_;XYA;XYU;XYI;XYAA;XYEE;XYE;XYO
2dd8=ETHIOPIC_SYLLABLE_;GYA;GYU;GYI;GYAA;GYEE;GYE;GYO
2de0=COMBINING_CYRILLIC_LETTER_;BE;VE;GHE;DE;ZHE;ZE;KA;EL;EM;EN;O;PE;ER;ES;TE;HA;TSE;CHE;SHA;SHCHA
FITA;ES-TE;A;IE;DJERV;MONOGRAPH_UK;YAT;YU;IOTIFIED_A;LITTLE_YUS;BIG_YUS;IOTIFIED_BIG_YUS
2e00=RIGHT_ANGLE_;SUBSTITUTION_MARKER;DOTTED_SUBSTITUTION_MARKER
2e02=;LEFT_SUBSTITUTION_BRACKET;RIGHT_SUBSTITUTION_BRACKET;LEFT_DOTTED_SUBSTITUTION_BRACKET
RIGHT_DOTTED_SUBSTITUTION_BRACKET;2e06=RAISED_;INTERPOLATION_MARKER;DOTTED_INTERPOLATION_MARKER
2e08=;DOTTED_TRANSPOSITION_MARKER;LEFT_TRANSPOSITION_BRACKET
2e0a=;RIGHT_TRANSPOSITION_BRACKET;RAISED_SQUARE;LEFT_RAISED_OMISSION_BRACKET
RIGHT_RAISED_OMISSION_BRACKET;EDITORIAL_CORONIS;2e0f=;PARAGRAPHOS;FORKED_PARAGRAPHOS
REVERSED_FORKED_PARAGRAPHOS;HYPODIASTOLE;DOTTED_OBELOS;2e14=;DOWNWARDS_ANCORA;UPWARDS_ANCORA
DOTTED_RIGHT-POINTING_ANGLE;DOUBLE_OBLIQUE_HYPHEN;INVERTED_INTERROBANG
2e19=;PALM_BRANCH;HYPHEN_WITH_DIAERESIS;TILDE_WITH_RING_ABOVE;LEFT_LOW_PARAPHRASE_BRACKET
RIGHT_LOW_PARAPHRASE_BRACKET;2e1e=TILDE_WITH_DOT_;ABOVE;BELOW
2e20=;LEFT_VERTICAL_BAR_WITH_QUILL;RIGHT_VERTICAL_BAR_WITH_QUILL;TOP_LEFT_HALF_BRACKET
TOP_RIGHT_HALF_BRACKET;2e24=BOTTOM_;LEFT_HALF_BRACKET;RIGHT_HALF_BRACKET
2e26=;LEFT_SIDEWAYS_U_BRACKET;RIGHT_SIDEWAYS_U_BRACKET;LEFT_DOUBLE_PARENTHESIS
2e29=;RIGHT_DOUBLE_PARENTHESIS;TWO_DOTS_OVER_ONE_DOT_PUNCTUATION;ONE_DOT_OVER_TWO_DOTS_PUNCTUATION
SQUARED_FOUR_DOT_PUNCTUATION;FIVE_DOT_MARK;2e2e=;REVERSED_QUESTION_MARK;VERTICAL_TILDE;RING_POINT
WORD_SEPARATOR_MIDDLE_DOT;TURNED_COMMA;2e33=RAISED_;DOT;COMMA
2e35=;TURNED_SEMICOLON;2e36=DAGGER_WITH_;LEFT_GUARD;RIGHT_GUARD
2e38=;TURNED_DAGGER;TOP_HALF_SECTION_SIGN;TWO-EM_DASH;2e3b=;THREE-EM_DASH;STENOGRAPHIC_FULL_STOP
VERTICAL_SIX_DOTS;WIGGLY_VERTICAL_LINE;CAPITULUM;2e40=;DOUBLE_HYPHEN;REVERSED_COMMA
DOUBLE_LOW-REVERSED-9_QUOTATION_MARK;DASH_WITH_LEFT_UPTURN;DOUBLE_SUSPENSION_MARK
2e45=INVERTED_LOW_;KAVYKA;KAVYKA_WITH_KAVYKA_ABOVE;2e47=;LOW_KAVYKA;LOW_KAVYKA_WITH_DOT
DOUBLE_STACKED_COMMA;DOTTED_SOLIDUS;2e4b=;TRIPLE_DAGGER;MEDIEVAL_COMMA;PARAGRAPHUS_MARK
PUNCTUS_ELEVATUS_MARK;CORNISH_VERSE_DIVIDER
2e50=CROSS_PATTY_WITH_;RIGHT_CROSSBAR;LEFT_CROSSBAR;2e52=;TIRONIAN_SIGN_CAPITAL_ET
2e53=MEDIEVAL_;EXCLAMATION_MARK;QUESTION_MARK;2e55=;LEFT_SQUARE_BRACKET_WITH_STROKE
RIGHT_SQUARE_BRACKET_WITH_STROKE;LEFT_SQUARE_BRACKET_WITH_DOUBLE_STROKE
RIGHT_SQUARE_BRACKET_WITH_DOUBLE_STROKE;2e59=TOP_HALF_;LEFT_PARENTHESIS;RIGHT_PARENTHESIS
2e5b=BOTTOM_HALF_;LEFT_PARENTHESIS;RIGHT_PARENTHESIS;2e5d=;OBLIQUE_HYPHEN
2e80=CJK_RADICAL_;REPEAT;CLIFF;SECOND_ONE;SECOND_TWO;SECOND_THREE;PERSON;BOX;TABLE;KNIFE_ONE
KNIFE_TWO;DIVINATION;SEAL;SMALL_ONE;SMALL_TWO;LAME_ONE;LAME_TWO;LAME_THREE;LAME_FOUR;SNAKE;THREAD
SNOUT_ONE;SNOUT_TWO;HEART_ONE;HEART_TWO;HAND;RAP
2e9b=CJK_RADICAL_;CHOKE;SUN;MOON;DEATH;MOTHER;CIVILIAN;WATER_ONE;WATER_TWO;FIRE;PAW_ONE;PAW_TWO
SIMPLIFIED_HALF_TREE_TRUNK;COW;DOG;JADE;BOLT_OF_CLOTH;EYE;SPIRIT_ONE;SPIRIT_TWO;BAMBOO;SILK
C-SIMPLIFIED_SILK;NET_ONE;NET_TWO;NET_THREE;NET_FOUR;MESH;SHEEP;RAM;EWE;OLD;BRUSH_ONE;BRUSH_TWO;MEAT
MORTAR;GRASS_ONE;GRASS_TWO;GRASS_THREE;TIGER;CLOTHES;WEST_ONE;WEST_TWO;C-SIMPLIFIED_SEE
SIMPLIFIED_HORN;HORN;C-SIMPLIFIED_SPEECH;C-SIMPLIFIED_SHELL;FOOT;C-SIMPLIFIED_CART;SIMPLIFIED_WALK
WALK_ONE;WALK_TWO;CITY;C-SIMPLIFIED_GOLD;LONG_ONE;LONG_TWO;C-SIMPLIFIED_LONG;C-SIMPLIFIED_GATE
MOUND_ONE;MOUND_TWO;RAIN;BLUE;2ed9=CJK_RADICAL_C-SIMPLIFIED_;TANNED_LEATHER;LEAF;WIND;FLY
2edd=CJK_RADICAL_;EAT_ONE;EAT_TWO;EAT_THREE;C-SIMPLIFIED_EAT;HEAD;C-SIMPLIFIED_HORSE;BONE;GHOST
C-SIMPLIFIED_FISH;C-SIMPLIFIED_BIRD;C-SIMPLIFIED_SALT;SIMPLIFIED_WHEAT;SIMPLIFIED_YELLOW
C-SIMPLIFIED_FROG;J-SIMPLIFIED_EVEN;C-SIMPLIFIED_EVEN;J-SIMPLIFIED_TOOTH;C-SIMPLIFIED_TOOTH
J-SIMPLIFIED_DRAGON;C-SIMPLIFIED_DRAGON;TURTLE;J-SIMPLIFIED_TURTLE;C-SIMPLIFIED_TURTLE
2f00=KANGXI_RADICAL_;ONE;LINE;DOT;SLASH;SECOND;HOOK;TWO;LID;MAN;LEGS;ENTER;EIGHT;DOWN_BOX;COVER;ICE
TABLE;OPEN_BOX;KNIFE;POWER;WRAP;SPOON;RIGHT_OPEN_BOX;HIDING_ENCLOSURE;TEN;DIVINATION;SEAL;CLIFF
PRIVATE;AGAIN;MOUTH;ENCLOSURE;EARTH;SCHOLAR;GO;GO_SLOWLY;EVENING;BIG;WOMAN;CHILD;ROOF;INCH;SMALL
LAME;CORPSE;SPROUT;MOUNTAIN;RIVER;WORK;ONESELF;TURBAN;DRY;SHORT_THREAD;DOTTED_CLIFF;LONG_STRIDE
TWO_HANDS;SHOOT;BOW;SNOUT;BRISTLE;STEP;HEART;HALBERD;DOOR;HAND;BRANCH;RAP;SCRIPT;DIPPER;AXE;SQUARE
NOT;SUN;SAY;MOON;TREE;LACK;STOP;DEATH;WEAPON;DO_NOT;COMPARE;FUR;CLAN;STEAM;WATER;FIRE;CLAW;FATHER
DOUBLE_X;HALF_TREE_TRUNK;SLICE;FANG;COW;DOG;PROFOUND;JADE;MELON;TILE;SWEET;LIFE;USE;FIELD
BOLT_OF_CLOTH;SICKNESS;DOTTED_TENT;WHITE;SKIN;DISH;EYE;SPEAR;ARROW;STONE;SPIRIT;TRACK;GRAIN;CAVE
STAND;BAMBOO;RICE;SILK;JAR;NET;SHEEP;FEATHER;OLD;AND;PLOW;EAR;BRUSH;MEAT;MINISTER;SELF;ARRIVE;MORTAR
TONGUE;OPPOSE;BOAT;STOPPING;COLOR;GRASS;TIGER;INSECT;BLOOD;WALK_ENCLOSURE;CLOTHES;WEST;SEE;HORN
SPEECH;VALLEY;BEAN;PIG;BADGER;SHELL;RED;RUN;FOOT;BODY;CART;BITTER;MORNING;WALK;CITY;WINE;DISTINGUISH
VILLAGE;GOLD;LONG;GATE;MOUND;SLAVE;SHORT_TAILED_BIRD;RAIN;BLUE;WRONG;FACE;LEATHER;TANNED_LEATHER
LEEK;SOUND;LEAF;WIND;FLY;EAT;HEAD;FRAGRANT;HORSE;BONE;TALL;HAIR;FIGHT;SACRIFICIAL_WINE;CAULDRON
GHOST;FISH;BIRD;SALT;DEER;WHEAT;HEMP;YELLOW;MILLET;BLACK;EMBROIDERY;FROG;TRIPOD;DRUM;RAT;NOSE;EVEN
TOOTH;DRAGON;TURTLE;FLUTE
2ff0=IDEOGRAPHIC_DESCRIPTION_CHARACTER_;LEFT_TO_RIGHT;ABOVE_TO_BELOW;LEFT_TO_MIDDLE_AND_RIGHT
ABOVE_TO_MIDDLE_AND_BELOW;FULL_SURROUND;SURROUND_FROM_ABOVE;SURROUND_FROM_BELOW;SURROUND_FROM_LEFT
SURROUND_FROM_UPPER_LEFT;SURROUND_FROM_UPPER_RIGHT;SURROUND_FROM_LOWER_LEFT;OVERLAID"

end ShaderShrink.Text.NameTable
