/-!
# Second names

Some characters have other names besides their own, and some have only such names.

A row begins with a code point in base sixteen and with what some names begin with; the ends of these
names follow, for one code point after the other.  A low line stands for a blank.
-/

namespace ShaderShrink.Text.NameTable

/-- Other names of characters. -/
def others : String :=
  "0=;NUL;SOH;START_OF_TEXT;3=END_OF_;TEXT;TRANSMISSION;5=;ENQ;ACK;ALERT;BACKSPACE
9=;CHARACTER_TABULATION;END_OF_LINE;LINE_TABULATION;FF;CARRIAGE_RETURN
e=LOCKING-SHIFT_;ONE;ZERO;10=;DATA_LINK_ESCAPE;DC1;DC2;DC3
14=;DC4;NAK;SYN;END_OF_TRANSMISSION_BLOCK;CAN;19=;END_OF_MEDIUM;SUB;ESC;FILE_SEPARATOR
GROUP_SEPARATOR;1e=INFORMATION_SEPARATOR_;TWO;ONE;20=;SP;7f=;DEL;PAD;HIGH_OCTET_PRESET;BPH
83=;NBH;IND;NEL;SSA;END_OF_SELECTED_AREA
88=CHARACTER_TABULATION_;SET;WITH_JUSTIFICATION;8a=;LINE_TABULATION_SET
8b=PARTIAL_LINE_;DOWN;BACKWARD;8d=;REVERSE_INDEX
8e=SINGLE-SHIFT-;2;3;90=;DCS;91=PRIVATE_USE-;1;2;93=;SET_TRANSMIT_STATE;CANCEL_CHARACTER
MESSAGE_WAITING;SPA;97=;END_OF_GUARDED_AREA;SOS;SGC;SCI;CONTROL_SEQUENCE_INTRODUCER
9c=;ST;OPERATING_SYSTEM_COMMAND;PM;APC;NBSP;ad=;SHY
1a2=LATIN_;CAPITAL_LETTER_GHA;SMALL_LETTER_GHA;34f=;CGJ;61c=;ALM
709=;SYRIAC_SUBLINEAR_COLON_SKEWED_LEFT;cde=;KANNADA_LETTER_LLLA
e9d=;LAO_LETTER_FO_FON;e9f=;LAO_LETTER_FO_FAY;ea3=;LAO_LETTER_RO
ea5=;LAO_LETTER_LO;fd0=;TIBETAN_MARK_BKA-_SHOG_GI_MGO_RGYAN
11ec=HANGUL_JONGSEONG_;YESIEUNG-KIYEOK;YESIEUNG-SSANGKIYEOK;SSANGYESIEUNG;YESIEUNG-KHIEUKH
180b=;FVS1;FVS2;FVS3;MVS;FVS4;200b=;ZWSP;ZWNJ;ZWJ;LRM;RLM
202a=;LRE;202b=;RLE;PDF;LRO;RLO;NNBSP;205f=;MMSP;WJ;2066=;LRI;RLI;FSI;PDI
2118=;WEIERSTRASS_ELLIPTIC_FUNCTION;2448=MICR_;ON_US_SYMBOL;DASH_SYMBOL
2b7a=;LEFTWARDS_TRIANGLE-HEADED_ARROW_WITH_DOUBLE_VERTICAL_STROKE
2b7c=;RIGHTWARDS_TRIANGLE-HEADED_ARROW_WITH_DOUBLE_VERTICAL_STROKE
a015=;YI_SYLLABLE_ITERATION_MARK;aa6e=;MYANMAR_LETTER_KHAMTI_LLA
fe00=;VS1;fe01=;VS2;VS3;VS4;VS5;VS6;fe06=;VS7;VS8;VS9;VS10;VS11
fe0b=;VS12;VS13;VS14;VS15;VS16;fe18=;PRESENTATION_FORM_FOR_VERTICAL_RIGHT_WHITE_LENTICULAR_BRACKET
feff=;BOM;122d4=CUNEIFORM_SIGN_NU11_;TENU;OVER_NU11_BUR_OVER_BUR
16e56=MEDEFAIDRIN_CAPITAL_LETTER_;H;NG
16e76=MEDEFAIDRIN_SMALL_LETTER_;H;NG;1b001=;HENTAIGANA_LETTER_E-1
1d0c5=;BYZANTINE_MUSICAL_SYMBOL_FTHORA_SKLIRON_CHROMA_VASIS
e0100=;VS17;VS18;VS19;VS20;VS21;e0105=;VS22;VS23;VS24;VS25;VS26
e010a=;VS27;VS28;VS29;VS30;VS31;e010f=;VS32;VS33;VS34;VS35;VS36
e0114=;VS37;VS38;VS39;VS40;VS41;e0119=;VS42;VS43;VS44;VS45;VS46
e011e=;VS47;VS48;VS49;VS50;VS51;e0123=;VS52;VS53;VS54;VS55;VS56
e0128=;VS57;VS58;VS59;VS60;VS61;e012d=;VS62;VS63;VS64;VS65;VS66
e0132=;VS67;VS68;VS69;VS70;VS71;e0137=;VS72;VS73;VS74;VS75;VS76
e013c=;VS77;VS78;VS79;VS80;VS81;e0141=;VS82;VS83;VS84;VS85;VS86
e0146=;VS87;VS88;VS89;VS90;VS91;e014b=;VS92;VS93;VS94;VS95;VS96
e0150=;VS97;VS98;VS99;VS100;VS101;e0155=;VS102;VS103;VS104;VS105;VS106
e015a=;VS107;VS108;VS109;VS110;VS111;e015f=;VS112;VS113;VS114;VS115;VS116
e0164=;VS117;VS118;VS119;VS120;VS121;e0169=;VS122;VS123;VS124;VS125;VS126
e016e=;VS127;VS128;VS129;VS130;VS131;e0173=;VS132;VS133;VS134;VS135;VS136
e0178=;VS137;VS138;VS139;VS140;VS141;e017d=;VS142;VS143;VS144;VS145;VS146
e0182=;VS147;VS148;VS149;VS150;VS151;e0187=;VS152;VS153;VS154;VS155;VS156
e018c=;VS157;VS158;VS159;VS160;VS161;e0191=;VS162;VS163;VS164;VS165;VS166
e0196=;VS167;VS168;VS169;VS170;VS171;e019b=;VS172;VS173;VS174;VS175;VS176
e01a0=;VS177;VS178;VS179;VS180;VS181;e01a5=;VS182;VS183;VS184;VS185;VS186
e01aa=;VS187;VS188;VS189;VS190;VS191;e01af=;VS192;VS193;VS194;VS195;VS196
e01b4=;VS197;VS198;VS199;VS200;VS201;e01b9=;VS202;VS203;VS204;VS205;VS206
e01be=;VS207;VS208;VS209;VS210;VS211;e01c3=;VS212;VS213;VS214;VS215;VS216
e01c8=;VS217;VS218;VS219;VS220;VS221;e01cd=;VS222;VS223;VS224;VS225;VS226
e01d2=;VS227;VS228;VS229;VS230;VS231;e01d7=;VS232;VS233;VS234;VS235;VS236
e01dc=;VS237;VS238;VS239;VS240;VS241;e01e1=;VS242;VS243;VS244;VS245;VS246
e01e6=;VS247;VS248;VS249;VS250;VS251;e01eb=;VS252;VS253;VS254;VS255;VS256
0=;NULL;START_OF_HEADING;STX;ETX;4=;EOT;ENQUIRY;ACKNOWLEDGE;BEL;BS
9=;HORIZONTAL_TABULATION;EOL;VERTICAL_TABULATION;FORM_FEED;CR
e=SHIFT_;OUT;IN;10=;DLE;11=DEVICE_CONTROL_;ONE;TWO;THREE;FOUR
15=;NEGATIVE_ACKNOWLEDGE;16=;SYNCHRONOUS_IDLE;ETB;CANCEL;EOM;SUBSTITUTE
1b=;ESCAPE;FS;GS;RECORD_SEPARATOR;UNIT_SEPARATOR;7f=;DELETE;PADDING_CHARACTER;HOP
BREAK_PERMITTED_HERE;83=;NO_BREAK_HERE;INDEX;NEXT_LINE;START_OF_SELECTED_AREA;ESA
88=HORIZONTAL_TABULATION_;SET;WITH_JUSTIFICATION;8a=;VERTICAL_TABULATION_SET
8b=PARTIAL_LINE_;FORWARD;UP;8d=;REVERSE_LINE_FEED
8e=SINGLE_SHIFT_;TWO;THREE;90=;DEVICE_CONTROL_STRING
91=PRIVATE_USE_;ONE;TWO;93=;STS;94=;CCH;MW;START_OF_GUARDED_AREA;END_OF_PROTECTED_AREA
START_OF_STRING;99=SINGLE_;GRAPHIC_CHARACTER_INTRODUCER;CHARACTER_INTRODUCER
9b=;CSI;STRING_TERMINATOR;OSC;PRIVACY_MESSAGE;APPLICATION_PROGRAM_COMMAND
feff=;BYTE_ORDER_MARK;9=;HT;LF;VT;e=;SO;SI
1c=INFORMATION_SEPARATOR_;FOUR;THREE;1e=;RS;US;88=;HTS;HTJ;VTS
8b=;PLD;PLU;RI;SS2;SS3;91=;PU1;PU2;96=;START_OF_PROTECTED_AREA;EPA
feff=;ZWNBSP;9=;TAB;LINE_FEED;a=;NEW_LINE;a=;NL"

end ShaderShrink.Text.NameTable
