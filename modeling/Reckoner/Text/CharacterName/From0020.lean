import Reckoner.Text.CharacterName.Outline

/-!
# Names from U+0020 on

The names of the characters from U+0020 to U+06FF, as outlines.
-/

namespace Reckoner
namespace Text
namespace CharacterName

/-- Names of the characters from U+0020 to U+06FF. -/
def from0020 : List Outline := [
  ⟨0x0020, ["SPACE,EXCLAMATION MARK,QUOTATION MARK,NUMBER SIGN,DOLLAR SIGN,PERCENT SIGN,AMPERSAND,",
    "APOSTROPHE,LEFT PARENTHESIS,RIGHT PARENTHESIS,ASTERISK,PLUS SIGN,COMMA,HYPHEN-MINUS,",
    "FULL STOP,SOLIDUS,DIGIT (ZERO,ONE,TWO,THREE,FOUR,FIVE,SIX,SEVEN,EIGHT,NINE),COLON,SEMICOLON,",
    "LESS-THAN SIGN,EQUALS SIGN,GREATER-THAN SIGN,QUESTION MARK,COMMERCIAL AT,",
    "LATIN CAPITAL LETTER (A,B,C,D,E,F,G,H,I,J,K,L,M,N,O,P,Q,R,S,T,U,V,W,X,Y,Z),",
    "LEFT SQUARE BRACKET,REVERSE SOLIDUS,RIGHT SQUARE BRACKET,CIRCUMFLEX ACCENT,LOW LINE,",
    "GRAVE ACCENT,LATIN SMALL LETTER (A,B,C,D,E,F,G,H,I,J,K,L,M,N,O,P,Q,R,S,T,U,V,W,X,Y,Z),",
    "LEFT CURLY BRACKET,VERTICAL LINE,RIGHT CURLY BRACKET,TILDE"]⟩,
  ⟨0x00A0, ["NO-BREAK SPACE,INVERTED EXCLAMATION MARK,CENT SIGN,POUND SIGN,CURRENCY SIGN,YEN SIGN,",
    "BROKEN BAR,SECTION SIGN,DIAERESIS,COPY",
    "RIGHT SIGN,FEMININE ORDINAL INDICATOR,LEFT-POINTING DOUBLE ANGLE QUOTATION MARK,NOT SIGN,",
    "SOFT HYPHEN,REGISTERED SIGN,MACRON,DEGREE SIGN,PLUS-MINUS SIGN,SUPERSCRIPT (TWO,THREE),",
    "ACUTE ACCENT,MICRO SIGN,PILCROW SIGN,MIDDLE DOT,CEDILLA,SUPERSCRIPT ONE,",
    "MASCULINE ORDINAL INDICATOR,RIGHT-POINTING DOUBLE ANGLE QUOTATION MARK,VULGAR FRACTION (ONE (",
    "QUARTER,HALF),THREE QUARTERS),INVERTED QUESTION MARK,LATIN CAPITAL LETTER (A WITH (GRAVE,",
    "ACUTE,CIRCUMFLEX,TILDE,DIAERESIS,RING ABOVE),AE,C WITH CEDILLA,E WITH (GRAVE,ACUTE,",
    "CIRCUMFLEX,DIAERESIS),I WITH (GRAVE,ACUTE,CIRCUMFLEX,DIAERESIS),ETH,N WITH TILDE,O WITH (",
    "GRAVE,ACUTE,CIRCUMFLEX,TILDE,DIAERESIS)),MULTIPLICATION SIGN,LATIN (CAPITAL LETTER (",
    "O WITH STROKE,U WITH (GRAVE,ACUTE,CIRCUMFLEX,DIAERESIS),Y WITH ACUTE,THORN),SMALL LETTER (",
    "SHARP S,A WITH (GRAVE,ACUTE,CIRCUMFLEX,TILDE,DIAERESIS,RING ABOVE),AE,C WITH CEDILLA,E WITH (",
    "GRAVE,ACUTE,CIRCUMFLEX,DIAERESIS),I WITH (GRAVE,ACUTE,CIRCUMFLEX,DIAERESIS),ETH,N WITH TILDE,",
    "O WITH (GRAVE,ACUTE,CIRCUMFLEX,TILDE,DIAERESIS))),DIVISION SIGN,LATIN (SMALL LETTER (",
    "O WITH STROKE,U WITH (GRAVE,ACUTE,CIRCUMFLEX,DIAERESIS),Y WITH ACUTE,THORN,Y WITH DIAERESIS),",
    "CAPITAL LETTER A WITH MACRON,SMALL LETTER A WITH MACRON,CAPITAL LETTER A WITH BREVE,",
    "SMALL LETTER A WITH BREVE,CAPITAL LETTER A WITH OGONEK,SMALL LETTER A WITH OGONEK,",
    "CAPITAL LETTER C WITH ACUTE,SMALL LETTER C WITH ACUTE,CAPITAL LETTER C WITH CIRCUMFLEX,",
    "SMALL LETTER C WITH CIRCUMFLEX,CAPITAL LETTER C WITH DOT ABOVE,SMALL LETTER C WITH DOT ABOVE,",
    "CAPITAL LETTER C WITH CARON,SMALL LETTER C WITH CARON,CAPITAL LETTER D WITH CARON,",
    "SMALL LETTER D WITH CARON,CAPITAL LETTER D WITH STROKE,SMALL LETTER D WITH STROKE,",
    "CAPITAL LETTER E WITH MACRON,SMALL LETTER E WITH MACRON,CAPITAL LETTER E WITH BREVE,",
    "SMALL LETTER E WITH BREVE,CAPITAL LETTER E WITH DOT ABOVE,SMALL LETTER E WITH DOT ABOVE,",
    "CAPITAL LETTER E WITH OGONEK,SMALL LETTER E WITH OGONEK,CAPITAL LETTER E WITH CARON,",
    "SMALL LETTER E WITH CARON,CAPITAL LETTER G WITH CIRCUMFLEX,SMALL LETTER G WITH CIRCUMFLEX,",
    "CAPITAL LETTER G WITH BREVE,SMALL LETTER G WITH BREVE,CAPITAL LETTER G WITH DOT ABOVE,",
    "SMALL LETTER G WITH DOT ABOVE,CAPITAL LETTER G WITH CEDILLA,SMALL LETTER G WITH CEDILLA,",
    "CAPITAL LETTER H WITH CIRCUMFLEX,SMALL LETTER H WITH CIRCUMFLEX,CAPITAL LETTER H WITH STROKE,",
    "SMALL LETTER H WITH STROKE,CAPITAL LETTER I WITH TILDE,SMALL LETTER I WITH TILDE,",
    "CAPITAL LETTER I WITH MACRON,SMALL LETTER I WITH MACRON,CAPITAL LETTER I WITH BREVE,",
    "SMALL LETTER I WITH BREVE,CAPITAL LETTER I WITH OGONEK,SMALL LETTER I WITH OGONEK,",
    "CAPITAL LETTER I WITH DOT ABOVE,SMALL LETTER DOTLESS I,CAPITAL LIGATURE IJ,SMALL LIGATURE IJ,",
    "CAPITAL LETTER J WITH CIRCUMFLEX,SMALL LETTER J WITH CIRCUMFLEX,",
    "CAPITAL LETTER K WITH CEDILLA,SMALL LETTER (K WITH CEDILLA,KRA),CAPITAL LETTER L WITH ACUTE,",
    "SMALL LETTER L WITH ACUTE,CAPITAL LETTER L WITH CEDILLA,SMALL LETTER L WITH CEDILLA,",
    "CAPITAL LETTER L WITH CARON,SMALL LETTER L WITH CARON,CAPITAL LETTER L WITH MIDDLE DOT,",
    "SMALL LETTER L WITH MIDDLE DOT,CAPITAL LETTER L WITH STROKE,SMALL LETTER L WITH STROKE,",
    "CAPITAL LETTER N WITH ACUTE,SMALL LETTER N WITH ACUTE,CAPITAL LETTER N WITH CEDILLA,",
    "SMALL LETTER N WITH CEDILLA,CAPITAL LETTER N WITH CARON,SMALL LETTER N (WITH CARON,",
    "PRECEDED BY APOSTROPHE),CAPITAL LETTER ENG,SMALL LETTER ENG,CAPITAL LETTER O WITH MACRON,",
    "SMALL LETTER O WITH MACRON,CAPITAL LETTER O WITH BREVE,SMALL LETTER O WITH BREVE,",
    "CAPITAL LETTER O WITH DOUBLE ACUTE,SMALL LETTER O WITH DOUBLE ACUTE,CAPITAL LIGATURE OE,",
    "SMALL LIGATURE OE,CAPITAL LETTER R WITH ACUTE,SMALL LETTER R WITH ACUTE,",
    "CAPITAL LETTER R WITH CEDILLA,SMALL LETTER R WITH CEDILLA,CAPITAL LETTER R WITH CARON,",
    "SMALL LETTER R WITH CARON,CAPITAL LETTER S WITH ACUTE,SMALL LETTER S WITH ACUTE,",
    "CAPITAL LETTER S WITH CIRCUMFLEX,SMALL LETTER S WITH CIRCUMFLEX,",
    "CAPITAL LETTER S WITH CEDILLA,SMALL LETTER S WITH CEDILLA,CAPITAL LETTER S WITH CARON,",
    "SMALL LETTER S WITH CARON,CAPITAL LETTER T WITH CEDILLA,SMALL LETTER T WITH CEDILLA,",
    "CAPITAL LETTER T WITH CARON,SMALL LETTER T WITH CARON,CAPITAL LETTER T WITH STROKE,",
    "SMALL LETTER T WITH STROKE,CAPITAL LETTER U WITH TILDE,SMALL LETTER U WITH TILDE,",
    "CAPITAL LETTER U WITH MACRON,SMALL LETTER U WITH MACRON,CAPITAL LETTER U WITH BREVE,",
    "SMALL LETTER U WITH BREVE,CAPITAL LETTER U WITH RING ABOVE,SMALL LETTER U WITH RING ABOVE,",
    "CAPITAL LETTER U WITH DOUBLE ACUTE,SMALL LETTER U WITH DOUBLE ACUTE,",
    "CAPITAL LETTER U WITH OGONEK,SMALL LETTER U WITH OGONEK,CAPITAL LETTER W WITH CIRCUMFLEX,",
    "SMALL LETTER W WITH CIRCUMFLEX,CAPITAL LETTER Y WITH CIRCUMFLEX,",
    "SMALL LETTER Y WITH CIRCUMFLEX,CAPITAL LETTER (Y WITH DIAERESIS,Z WITH ACUTE),",
    "SMALL LETTER Z WITH ACUTE,CAPITAL LETTER Z WITH DOT ABOVE,SMALL LETTER Z WITH DOT ABOVE,",
    "CAPITAL LETTER Z WITH CARON,SMALL LETTER (Z WITH CARON,LONG S,B WITH STROKE),",
    "CAPITAL LETTER B WITH (HOOK,TOPBAR),SMALL LETTER B WITH TOPBAR,CAPITAL LETTER TONE SIX,",
    "SMALL LETTER TONE SIX,CAPITAL LETTER (OPEN O,C WITH HOOK),SMALL LETTER C WITH HOOK,",
    "CAPITAL LETTER (AFRICAN D,D WITH (HOOK,TOPBAR)),SMALL LETTER (D WITH TOPBAR,TURNED DELTA),",
    "CAPITAL LETTER (REVERSED E,SCHWA,OPEN E,F WITH HOOK),SMALL LETTER F WITH HOOK,",
    "CAPITAL LETTER (G WITH HOOK,GAMMA),SMALL LETTER HV,CAPITAL LETTER (IOTA,I WITH STROKE,",
    "K WITH HOOK),SMALL LETTER (K WITH HOOK,L WITH BAR,LAMBDA WITH STROKE),CAPITAL LETTER (",
    "TURNED M,N WITH LEFT HOOK),SMALL LETTER N WITH LONG RIGHT LEG,CAPITAL LETTER O WITH (",
    "MIDDLE TILDE,HORN),SMALL LETTER O WITH HORN,CAPITAL LETTER OI,SMALL LETTER OI,",
    "CAPITAL LETTER P WITH HOOK,SMALL LETTER P WITH HOOK,LETTER YR,CAPITAL LETTER TONE TWO,",
    "SMALL LETTER TONE TWO,CAPITAL LETTER ESH,LETTER REVERSED ESH LOOP,",
    "SMALL LETTER T WITH PALATAL HOOK,CAPITAL LETTER T WITH HOOK,SMALL LETTER T WITH HOOK,",
    "CAPITAL LETTER (T WITH RETROFLEX HOOK,U WITH HORN),SMALL LETTER U WITH HORN,CAPITAL LETTER (",
    "UPSILON,V WITH HOOK,Y WITH HOOK),SMALL LETTER Y WITH HOOK,CAPITAL LETTER Z WITH STROKE,",
    "SMALL LETTER Z WITH STROKE,CAPITAL LETTER EZH(, REVERSED),SMALL LETTER EZH (REVERSED,",
    "WITH TAIL),LETTER TWO WITH STROKE,CAPITAL LETTER TONE FIVE,SMALL LETTER TONE FIVE,LETTER (",
    "INVERTED GLOTTAL STOP WITH STROKE,WYNN,DENTAL CLICK,LATERAL CLICK,ALVEOLAR CLICK,",
    "RETROFLEX CLICK),CAPITAL LETTER (DZ WITH CARON,D WITH SMALL LETTER Z WITH CARON),",
    "SMALL LETTER DZ WITH CARON,CAPITAL LETTER (LJ,L WITH SMALL LETTER J),SMALL LETTER LJ,",
    "CAPITAL LETTER (NJ,N WITH SMALL LETTER J),SMALL LETTER NJ,CAPITAL LETTER A WITH CARON,",
    "SMALL LETTER A WITH CARON,CAPITAL LETTER I WITH CARON,SMALL LETTER I WITH CARON,",
    "CAPITAL LETTER O WITH CARON,SMALL LETTER O WITH CARON,CAPITAL LETTER U WITH CARON,",
    "SMALL LETTER U WITH CARON,CAPITAL LETTER U WITH DIAERESIS AND MACRON,",
    "SMALL LETTER U WITH DIAERESIS AND MACRON,CAPITAL LETTER U WITH DIAERESIS AND ACUTE,",
    "SMALL LETTER U WITH DIAERESIS AND ACUTE,CAPITAL LETTER U WITH DIAERESIS AND CARON,",
    "SMALL LETTER U WITH DIAERESIS AND CARON,CAPITAL LETTER U WITH DIAERESIS AND GRAVE,",
    "SMALL LETTER (U WITH DIAERESIS AND GRAVE,TURNED E),",
    "CAPITAL LETTER A WITH DIAERESIS AND MACRON,SMALL LETTER A WITH DIAERESIS AND MACRON,",
    "CAPITAL LETTER A WITH DOT ABOVE AND MACRON,SMALL LETTER A WITH DOT ABOVE AND MACRON,",
    "CAPITAL LETTER AE WITH MACRON,SMALL LETTER AE WITH MACRON,CAPITAL LETTER G WITH STROKE,",
    "SMALL LETTER G WITH STROKE,CAPITAL LETTER G WITH CARON,SMALL LETTER G WITH CARON,",
    "CAPITAL LETTER K WITH CARON,SMALL LETTER K WITH CARON,CAPITAL LETTER O WITH OGONEK,",
    "SMALL LETTER O WITH OGONEK,CAPITAL LETTER O WITH OGONEK AND MACRON,",
    "SMALL LETTER O WITH OGONEK AND MACRON,CAPITAL LETTER EZH WITH CARON,SMALL LETTER (",
    "EZH WITH CARON,J WITH CARON),CAPITAL LETTER (DZ,D WITH SMALL LETTER Z),SMALL LETTER DZ,",
    "CAPITAL LETTER G WITH ACUTE,SMALL LETTER G WITH ACUTE,CAPITAL LETTER (HWAIR,WYNN,",
    "N WITH GRAVE),SMALL LETTER N WITH GRAVE,CAPITAL LETTER A WITH RING ABOVE AND ACUTE,",
    "SMALL LETTER A WITH RING ABOVE AND ACUTE,CAPITAL LETTER AE WITH ACUTE,",
    "SMALL LETTER AE WITH ACUTE,CAPITAL LETTER O WITH STROKE AND ACUTE,",
    "SMALL LETTER O WITH STROKE AND ACUTE,CAPITAL LETTER A WITH DOUBLE GRAVE,",
    "SMALL LETTER A WITH DOUBLE GRAVE,CAPITAL LETTER A WITH INVERTED BREVE,",
    "SMALL LETTER A WITH INVERTED BREVE,CAPITAL LETTER E WITH DOUBLE GRAVE,",
    "SMALL LETTER E WITH DOUBLE GRAVE,CAPITAL LETTER E WITH INVERTED BREVE,",
    "SMALL LETTER E WITH INVERTED BREVE,CAPITAL LETTER I WITH DOUBLE GRAVE,",
    "SMALL LETTER I WITH DOUBLE GRAVE,CAPITAL LETTER I WITH INVERTED BREVE,",
    "SMALL LETTER I WITH INVERTED BREVE,CAPITAL LETTER O WITH DOUBLE GRAVE,",
    "SMALL LETTER O WITH DOUBLE GRAVE,CAPITAL LETTER O WITH INVERTED BREVE,",
    "SMALL LETTER O WITH INVERTED BREVE,CAPITAL LETTER R WITH DOUBLE GRAVE,",
    "SMALL LETTER R WITH DOUBLE GRAVE,CAPITAL LETTER R WITH INVERTED BREVE,",
    "SMALL LETTER R WITH INVERTED BREVE,CAPITAL LETTER U WITH DOUBLE GRAVE,",
    "SMALL LETTER U WITH DOUBLE GRAVE,CAPITAL LETTER U WITH INVERTED BREVE,",
    "SMALL LETTER U WITH INVERTED BREVE,CAPITAL LETTER S WITH COMMA BELOW,",
    "SMALL LETTER S WITH COMMA BELOW,CAPITAL LETTER T WITH COMMA BELOW,",
    "SMALL LETTER T WITH COMMA BELOW,CAPITAL LETTER YOGH,SMALL LETTER YOGH,",
    "CAPITAL LETTER H WITH CARON,SMALL LETTER H WITH CARON,CAPITAL LETTER N WITH LONG RIGHT LEG,",
    "SMALL LETTER D WITH CURL,CAPITAL LETTER OU,SMALL LETTER OU,CAPITAL LETTER Z WITH HOOK,",
    "SMALL LETTER Z WITH HOOK,CAPITAL LETTER A WITH DOT ABOVE,SMALL LETTER A WITH DOT ABOVE,",
    "CAPITAL LETTER E WITH CEDILLA,SMALL LETTER E WITH CEDILLA,",
    "CAPITAL LETTER O WITH DIAERESIS AND MACRON,SMALL LETTER O WITH DIAERESIS AND MACRON,",
    "CAPITAL LETTER O WITH TILDE AND MACRON,SMALL LETTER O WITH TILDE AND MACRON,",
    "CAPITAL LETTER O WITH DOT ABOVE,SMALL LETTER O WITH DOT ABOVE,",
    "CAPITAL LETTER O WITH DOT ABOVE AND MACRON,SMALL LETTER O WITH DOT ABOVE AND MACRON,",
    "CAPITAL LETTER Y WITH MACRON,SMALL LETTER (Y WITH MACRON,L WITH CURL,N WITH CURL,T WITH CURL,",
    "DOTLESS J,DB DIGRAPH,QP DIGRAPH),CAPITAL LETTER (A WITH STROKE,C WITH STROKE),",
    "SMALL LETTER C WITH STROKE,CAPITAL LETTER (L WITH BAR,T WITH DIAGONAL STROKE),SMALL LETTER (",
    "S WITH SWASH TAIL,Z WITH SWASH TAIL),CAPITAL LETTER GLOTTAL STOP,SMALL LETTER GLOTTAL STOP,",
    "CAPITAL LETTER (B WITH STROKE,U BAR,TURNED V,E WITH STROKE),SMALL LETTER E WITH STROKE,",
    "CAPITAL LETTER J WITH STROKE,SMALL LETTER J WITH STROKE,",
    "CAPITAL LETTER SMALL Q WITH HOOK TAIL,SMALL LETTER Q WITH HOOK TAIL,",
    "CAPITAL LETTER R WITH STROKE,SMALL LETTER R WITH STROKE,CAPITAL LETTER Y WITH STROKE,",
    "SMALL LETTER (Y WITH STROKE,TURNED A,ALPHA,TURNED ALPHA,B WITH HOOK,OPEN O,C WITH CURL,",
    "D WITH (TAIL,HOOK),REVERSED E,SCHWA(, WITH HOOK),OPEN E,REVERSED OPEN E(, WITH HOOK),",
    "CLOSED REVERSED OPEN E,DOTLESS J WITH STROKE,G WITH HOOK,SCRIPT G),LETTER SMALL CAPITAL G,",
    "SMALL LETTER (GAMMA,RAMS HORN,TURNED H,H WITH HOOK,HENG WITH HOOK,I WITH STROKE,IOTA),",
    "LETTER SMALL CAPITAL I,SMALL LETTER (L WITH (MIDDLE TILDE,BELT,RETROFLEX HOOK),LEZH,TURNED M(",
    ", WITH LONG LEG),M WITH HOOK,N WITH (LEFT HOOK,RETROFLEX HOOK)),LETTER SMALL CAPITAL N,",
    "SMALL LETTER BARRED O,LETTER SMALL CAPITAL OE,SMALL LETTER (CLOSED OMEGA,PHI,TURNED R(,",
    " WITH (LONG LEG,HOOK)),R WITH (LONG LEG,TAIL,FISHHOOK),REVERSED R WITH FISHHOOK),",
    "LETTER SMALL CAPITAL (R,INVERTED R),SMALL LETTER (S WITH HOOK,ESH,",
    "DOTLESS J WITH STROKE AND HOOK,SQUAT REVERSED ESH,ESH WITH CURL,TURNED T,",
    "T WITH RETROFLEX HOOK,U BAR,UPSILON,V WITH HOOK,TURNED (V,W,Y)),LETTER SMALL CAPITAL Y,",
    "SMALL LETTER (Z WITH (RETROFLEX HOOK,CURL),EZH(, WITH CURL)),LETTER (GLOTTAL STOP,",
    "PHARYNGEAL VOICED FRICATIVE,INVERTED GLOTTAL STOP,STRETCHED C,BILABIAL CLICK,",
    "SMALL CAPITAL B),SMALL LETTER CLOSED OPEN E,LETTER SMALL CAPITAL (G WITH HOOK,H),",
    "SMALL LETTER (J WITH CROSSED-TAIL,TURNED K),LETTER SMALL CAPITAL L,SMALL LETTER Q WITH HOOK,",
    "LETTER (GLOTTAL STOP WITH STROKE,REVERSED GLOTTAL STOP WITH STROKE),SMALL LETTER (DZ DIGRAPH,",
    "DEZH DIGRAPH,DZ DIGRAPH WITH CURL,TS DIGRAPH,TESH DIGRAPH,TC DIGRAPH WITH CURL,FENG DIGRAPH,",
    "LS DIGRAPH,LZ DIGRAPH),LETTER (BILABIAL PERCUSSIVE,BIDENTAL PERCUSSIVE),",
    "SMALL LETTER TURNED H WITH FISHHOOK(, AND TAIL)),MODIFIER LETTER (SMALL (H,H WITH HOOK,J,R,",
    "TURNED R(, WITH HOOK),CAPITAL INVERTED R,W,Y),PRIME,DOUBLE PRIME,TURNED COMMA,APOSTROPHE,",
    "REVERSED COMMA,RIGHT HALF RING,LEFT HALF RING,GLOTTAL STOP,REVERSED GLOTTAL STOP,",
    "LEFT ARROWHEAD,RIGHT ARROWHEAD,UP ARROWHEAD,DOWN ARROWHEAD,CIRCUMFLEX ACCENT),CARON,",
    "MODIFIER LETTER (VERTICAL LINE,MACRON,ACUTE ACCENT,GRAVE ACCENT,LOW (VERTICAL LINE,MACRON,",
    "GRAVE ACCENT,ACUTE ACCENT),TRIANGULAR COLON,HALF TRIANGULAR COLON,CENTRED (RIGHT HALF RING,",
    "LEFT HALF RING),UP TACK,DOWN TACK,PLUS SIGN,MINUS SIGN),BREVE,DOT ABOVE,RING ABOVE,OGONEK,",
    "SMALL TILDE,DOUBLE ACUTE ACCENT,MODIFIER LETTER (RHOTIC HOOK,CROSS ACCENT,SMALL (GAMMA,L,S,X,",
    "REVERSED GLOTTAL STOP),EXTRA-HIGH TONE BAR,HIGH TONE BAR,MID TONE BAR,LOW TONE BAR,",
    "EXTRA-LOW TONE BAR,YIN DEPARTING TONE MARK,YANG DEPARTING TONE MARK,VOICING,UNASPIRATED,",
    "DOUBLE APOSTROPHE,LOW (DOWN ARROWHEAD,UP ARROWHEAD,LEFT ARROWHEAD,RIGHT ARROWHEAD,RING),",
    "MIDDLE (GRAVE ACCENT,DOUBLE (GRAVE ACCENT,ACUTE ACCENT)),LOW TILDE,RAISED COLON,",
    "BEGIN HIGH TONE,END HIGH TONE,BEGIN LOW TONE,END LOW TONE,SHELF,OPEN SHELF,LOW LEFT ARROW),",
    "COMBINING (GRAVE ACCENT,ACUTE ACCENT,CIRCUMFLEX ACCENT,TILDE,MACRON,OVERLINE,BREVE,DOT ABOVE,",
    "DIAERESIS,HOOK ABOVE,RING ABOVE,DOUBLE ACUTE ACCENT,CARON,VERTICAL LINE ABOVE,DOUBLE (",
    "VERTICAL LINE ABOVE,GRAVE ACCENT),CANDRABINDU,INVERTED BREVE,TURNED COMMA ABOVE,COMMA ABOVE,",
    "REVERSED COMMA ABOVE,COMMA ABOVE RIGHT,GRAVE ACCENT BELOW,ACUTE ACCENT BELOW,LEFT TACK BELOW,",
    "RIGHT TACK BELOW,LEFT ANGLE ABOVE,HORN,LEFT HALF RING BELOW,UP TACK BELOW,DOWN TACK BELOW,",
    "PLUS SIGN BELOW,MINUS SIGN BELOW,PALATALIZED HOOK BELOW,RETROFLEX HOOK BELOW,DOT BELOW,",
    "DIAERESIS BELOW,RING BELOW,COMMA BELOW,CEDILLA,OGONEK,VERTICAL LINE BELOW,BRIDGE BELOW,",
    "INVERTED DOUBLE ARCH BELOW,CARON BELOW,CIRCUMFLEX ACCENT BELOW,BREVE BELOW,",
    "INVERTED BREVE BELOW,TILDE BELOW,MACRON BELOW,LOW LINE,DOUBLE LOW LINE,TILDE OVERLAY,",
    "SHORT STROKE OVERLAY,LONG STROKE OVERLAY,SHORT SOLIDUS OVERLAY,LONG SOLIDUS OVERLAY,",
    "RIGHT HALF RING BELOW,INVERTED BRIDGE BELOW,SQUARE BELOW,SEAGULL BELOW,X ABOVE,",
    "VERTICAL TILDE,DOUBLE OVERLINE,GRAVE TONE MARK,ACUTE TONE MARK,GREEK (PERISPOMENI,KORONIS,",
    "DIALYTIKA TONOS,YPOGEGRAMMENI),BRIDGE ABOVE,EQUALS SIGN BELOW,DOUBLE VERTICAL LINE BELOW,",
    "LEFT ANGLE BELOW,NOT TILDE ABOVE,HOMOTHETIC ABOVE,ALMOST EQUAL TO ABOVE,",
    "LEFT RIGHT ARROW BELOW,UPWARDS ARROW BELOW,GRAPHEME JOINER,RIGHT ARROWHEAD ABOVE,",
    "LEFT HALF RING ABOVE,FERMATA,X BELOW,LEFT ARROWHEAD BELOW,RIGHT (ARROWHEAD (BELOW,",
    "AND UP ARROWHEAD BELOW),HALF RING ABOVE),DOT ABOVE RIGHT,ASTERISK BELOW,DOUBLE RING BELOW,",
    "ZIGZAG ABOVE,DOUBLE (BREVE( BELOW,),MACRON(, BELOW),TILDE,INVERTED BREVE,",
    "RIGHTWARDS ARROW BELOW),LATIN SMALL LETTER (A,E,I,O,U,C,D,H,M,R,T,V,X)),GREEK (",
    "CAPITAL LETTER HETA,SMALL LETTER HETA,CAPITAL LETTER ARCHAIC SAMPI,",
    "SMALL LETTER ARCHAIC SAMPI,NUMERAL SIGN,LOWER NUMERAL SIGN,CAPITAL LETTER PAMPHYLIAN DIGAMMA,",
    "SMALL LETTER PAMPHYLIAN DIGAMMA)"]⟩,
  ⟨0x037A, ["GREEK (YPOGEGRAMMENI,SMALL (REVERSED LUNATE SIGMA SYMBOL,DOTTED LUNATE SIGMA SYMBOL,",
    "REVERSED DOTTED LUNATE SIGMA SYMBOL),QUESTION MARK,CAPITAL LETTER YOT)"]⟩,
  ⟨0x0384, ["GREEK (TONOS,DIALYTIKA TONOS,CAPITAL LETTER ALPHA WITH TONOS,ANO TELEIA,",
    "CAPITAL LETTER (EPSILON WITH TONOS,ETA WITH TONOS,IOTA WITH TONOS))"]⟩,
  ⟨0x038C, ["GREEK CAPITAL LETTER OMICRON WITH TONOS"]⟩,
  ⟨0x038E, ["GREEK (CAPITAL LETTER (UPSILON WITH TONOS,OMEGA WITH TONOS),",
    "SMALL LETTER IOTA WITH DIALYTIKA AND TONOS,CAPITAL LETTER (ALPHA,BETA,GAMMA,DELTA,EPSILON,",
    "ZETA,ETA,THETA,IOTA,KAPPA,LAMDA,MU,NU,XI,OMICRON,PI,RHO))"]⟩,
  ⟨0x03A3, ["GREEK (CAPITAL LETTER (SIGMA,TAU,UPSILON,PHI,CHI,PSI,OMEGA,IOTA WITH DIALYTIKA,",
    "UPSILON WITH DIALYTIKA),SMALL LETTER (ALPHA WITH TONOS,EPSILON WITH TONOS,ETA WITH TONOS,",
    "IOTA WITH TONOS,UPSILON WITH DIALYTIKA AND TONOS,ALPHA,BETA,GAMMA,DELTA,EPSILON,ZETA,ETA,",
    "THETA,IOTA,KAPPA,LAMDA,MU,NU,XI,OMICRON,PI,RHO,FINAL SIGMA,SIGMA,TAU,UPSILON,PHI,CHI,PSI,",
    "OMEGA,IOTA WITH DIALYTIKA,UPSILON WITH DIALYTIKA,OMICRON WITH TONOS,UPSILON WITH TONOS,",
    "OMEGA WITH TONOS),CAPITAL KAI SYMBOL,BETA SYMBOL,THETA SYMBOL,UPSILON WITH (HOOK SYMBOL,",
    "ACUTE AND HOOK SYMBOL,DIAERESIS AND HOOK SYMBOL),PHI SYMBOL,PI SYMBOL,KAI SYMBOL,",
    "LETTER ARCHAIC KOPPA,SMALL LETTER ARCHAIC KOPPA,LETTER STIGMA,SMALL LETTER STIGMA,",
    "LETTER DIGAMMA,SMALL LETTER DIGAMMA,LETTER KOPPA,SMALL LETTER KOPPA,LETTER SAMPI,",
    "SMALL LETTER SAMPI),COPTIC (CAPITAL LETTER SHEI,SMALL LETTER SHEI,CAPITAL LETTER FEI,",
    "SMALL LETTER FEI,CAPITAL LETTER KHEI,SMALL LETTER KHEI,CAPITAL LETTER HORI,SMALL LETTER HORI,",
    "CAPITAL LETTER GANGIA,SMALL LETTER GANGIA,CAPITAL LETTER SHIMA,SMALL LETTER SHIMA,",
    "CAPITAL LETTER DEI,SMALL LETTER DEI),GREEK (KAPPA SYMBOL,RHO SYMBOL,LUNATE SIGMA SYMBOL,",
    "LETTER YOT,CAPITAL THETA SYMBOL,LUNATE EPSILON SYMBOL,REVERSED LUNATE EPSILON SYMBOL,",
    "CAPITAL LETTER SHO,SMALL LETTER SHO,CAPITAL (LUNATE SIGMA SYMBOL,LETTER SAN),",
    "SMALL LETTER SAN,RHO WITH STROKE SYMBOL,CAPITAL (REVERSED LUNATE SIGMA SYMBOL,",
    "DOTTED LUNATE SIGMA SYMBOL,REVERSED DOTTED LUNATE SIGMA SYMBOL)),CYRILLIC (CAPITAL LETTER (",
    "IE WITH GRAVE,IO,DJE,GJE,UKRAINIAN IE,DZE,BYELORUSSIAN-UKRAINIAN I,YI,JE,LJE,NJE,TSHE,KJE,",
    "I WITH GRAVE,SHORT U,DZHE,A,BE,VE,GHE,DE,IE,ZHE,ZE,I,SHORT I,KA,EL,EM,EN,O,PE,ER,ES,TE,U,EF,",
    "HA,TSE,CHE,SHA,SHCHA,HARD SIGN,YERU,SOFT SIGN,E,YU,YA),SMALL LETTER (A,BE,VE,GHE,DE,IE,ZHE,",
    "ZE,I,SHORT I,KA,EL,EM,EN,O,PE,ER,ES,TE,U,EF,HA,TSE,CHE,SHA,SHCHA,HARD SIGN,YERU,SOFT SIGN,E,",
    "YU,YA,IE WITH GRAVE,IO,DJE,GJE,UKRAINIAN IE,DZE,BYELORUSSIAN-UKRAINIAN I,YI,JE,LJE,NJE,TSHE,",
    "KJE,I WITH GRAVE,SHORT U,DZHE),CAPITAL LETTER OMEGA,SMALL LETTER OMEGA,CAPITAL LETTER YAT,",
    "SMALL LETTER YAT,CAPITAL LETTER IOTIFIED E,SMALL LETTER IOTIFIED E,CAPITAL LETTER LITTLE YUS,",
    "SMALL LETTER LITTLE YUS,CAPITAL LETTER IOTIFIED LITTLE YUS,SMALL LETTER IOTIFIED LITTLE YUS,",
    "CAPITAL LETTER BIG YUS,SMALL LETTER BIG YUS,CAPITAL LETTER IOTIFIED BIG YUS,",
    "SMALL LETTER IOTIFIED BIG YUS,CAPITAL LETTER KSI,SMALL LETTER KSI,CAPITAL LETTER PSI,",
    "SMALL LETTER PSI,CAPITAL LETTER FITA,SMALL LETTER FITA,CAPITAL LETTER IZHITSA,",
    "SMALL LETTER IZHITSA,CAPITAL LETTER IZHITSA WITH DOUBLE GRAVE ACCENT,",
    "SMALL LETTER IZHITSA WITH DOUBLE GRAVE ACCENT,CAPITAL LETTER UK,SMALL LETTER UK,",
    "CAPITAL LETTER ROUND OMEGA,SMALL LETTER ROUND OMEGA,CAPITAL LETTER OMEGA WITH TITLO,",
    "SMALL LETTER OMEGA WITH TITLO,CAPITAL LETTER OT,SMALL LETTER OT,CAPITAL LETTER KOPPA,",
    "SMALL LETTER KOPPA,THOUSANDS SIGN),COMBINING CYRILLIC (TITLO,PALATALIZATION,DASIA PNEUMATA,",
    "PSILI PNEUMATA,POKRYTIE,HUNDRED THOUSANDS SIGN,MILLIONS SIGN),CYRILLIC (",
    "CAPITAL LETTER SHORT I WITH TAIL,SMALL LETTER SHORT I WITH TAIL,CAPITAL LETTER SEMISOFT SIGN,",
    "SMALL LETTER SEMISOFT SIGN,CAPITAL LETTER ER WITH TICK,SMALL LETTER ER WITH TICK,",
    "CAPITAL LETTER GHE WITH UPTURN,SMALL LETTER GHE WITH UPTURN,CAPITAL LETTER GHE WITH STROKE,",
    "SMALL LETTER GHE WITH STROKE,CAPITAL LETTER GHE WITH MIDDLE HOOK,",
    "SMALL LETTER GHE WITH MIDDLE HOOK,CAPITAL LETTER ZHE WITH DESCENDER,",
    "SMALL LETTER ZHE WITH DESCENDER,CAPITAL LETTER ZE WITH DESCENDER,",
    "SMALL LETTER ZE WITH DESCENDER,CAPITAL LETTER KA WITH DESCENDER,",
    "SMALL LETTER KA WITH DESCENDER,CAPITAL LETTER KA WITH VERTICAL STROKE,",
    "SMALL LETTER KA WITH VERTICAL STROKE,CAPITAL LETTER KA WITH STROKE,",
    "SMALL LETTER KA WITH STROKE,CAPITAL LETTER BASHKIR KA,SMALL LETTER BASHKIR KA,",
    "CAPITAL LETTER EN WITH DESCENDER,SMALL LETTER EN WITH DESCENDER,CAPITAL LIGATURE EN GHE,",
    "SMALL LIGATURE EN GHE,CAPITAL LETTER PE WITH MIDDLE HOOK,SMALL LETTER PE WITH MIDDLE HOOK,",
    "CAPITAL LETTER ABKHASIAN HA,SMALL LETTER ABKHASIAN HA,CAPITAL LETTER ES WITH DESCENDER,",
    "SMALL LETTER ES WITH DESCENDER,CAPITAL LETTER TE WITH DESCENDER,",
    "SMALL LETTER TE WITH DESCENDER,CAPITAL LETTER STRAIGHT U,SMALL LETTER STRAIGHT U,",
    "CAPITAL LETTER STRAIGHT U WITH STROKE,SMALL LETTER STRAIGHT U WITH STROKE,",
    "CAPITAL LETTER HA WITH DESCENDER,SMALL LETTER HA WITH DESCENDER,CAPITAL LIGATURE TE TSE,",
    "SMALL LIGATURE TE TSE,CAPITAL LETTER CHE WITH DESCENDER,SMALL LETTER CHE WITH DESCENDER,",
    "CAPITAL LETTER CHE WITH VERTICAL STROKE,SMALL LETTER CHE WITH VERTICAL STROKE,",
    "CAPITAL LETTER SHHA,SMALL LETTER SHHA,CAPITAL LETTER ABKHASIAN CHE,",
    "SMALL LETTER ABKHASIAN CHE,CAPITAL LETTER ABKHASIAN CHE WITH DESCENDER,",
    "SMALL LETTER ABKHASIAN CHE WITH DESCENDER,LETTER PALOCHKA,CAPITAL LETTER ZHE WITH BREVE,",
    "SMALL LETTER ZHE WITH BREVE,CAPITAL LETTER KA WITH HOOK,SMALL LETTER KA WITH HOOK,",
    "CAPITAL LETTER EL WITH TAIL,SMALL LETTER EL WITH TAIL,CAPITAL LETTER EN WITH HOOK,",
    "SMALL LETTER EN WITH HOOK,CAPITAL LETTER EN WITH TAIL,SMALL LETTER EN WITH TAIL,",
    "CAPITAL LETTER KHAKASSIAN CHE,SMALL LETTER KHAKASSIAN CHE,CAPITAL LETTER EM WITH TAIL,",
    "SMALL LETTER (EM WITH TAIL,PALOCHKA),CAPITAL LETTER A WITH BREVE,SMALL LETTER A WITH BREVE,",
    "CAPITAL LETTER A WITH DIAERESIS,SMALL LETTER A WITH DIAERESIS,CAPITAL LIGATURE A IE,",
    "SMALL LIGATURE A IE,CAPITAL LETTER IE WITH BREVE,SMALL LETTER IE WITH BREVE,",
    "CAPITAL LETTER SCHWA,SMALL LETTER SCHWA,CAPITAL LETTER SCHWA WITH DIAERESIS,",
    "SMALL LETTER SCHWA WITH DIAERESIS,CAPITAL LETTER ZHE WITH DIAERESIS,",
    "SMALL LETTER ZHE WITH DIAERESIS,CAPITAL LETTER ZE WITH DIAERESIS,",
    "SMALL LETTER ZE WITH DIAERESIS,CAPITAL LETTER ABKHASIAN DZE,SMALL LETTER ABKHASIAN DZE,",
    "CAPITAL LETTER I WITH MACRON,SMALL LETTER I WITH MACRON,CAPITAL LETTER I WITH DIAERESIS,",
    "SMALL LETTER I WITH DIAERESIS,CAPITAL LETTER O WITH DIAERESIS,SMALL LETTER O WITH DIAERESIS,",
    "CAPITAL LETTER BARRED O,SMALL LETTER BARRED O,CAPITAL LETTER BARRED O WITH DIAERESIS,",
    "SMALL LETTER BARRED O WITH DIAERESIS,CAPITAL LETTER E WITH DIAERESIS,",
    "SMALL LETTER E WITH DIAERESIS,CAPITAL LETTER U WITH MACRON,SMALL LETTER U WITH MACRON,",
    "CAPITAL LETTER U WITH DIAERESIS,SMALL LETTER U WITH DIAERESIS,",
    "CAPITAL LETTER U WITH DOUBLE ACUTE,SMALL LETTER U WITH DOUBLE ACUTE,",
    "CAPITAL LETTER CHE WITH DIAERESIS,SMALL LETTER CHE WITH DIAERESIS,",
    "CAPITAL LETTER GHE WITH DESCENDER,SMALL LETTER GHE WITH DESCENDER,",
    "CAPITAL LETTER YERU WITH DIAERESIS,SMALL LETTER YERU WITH DIAERESIS,",
    "CAPITAL LETTER GHE WITH STROKE AND HOOK,SMALL LETTER GHE WITH STROKE AND HOOK,",
    "CAPITAL LETTER HA WITH HOOK,SMALL LETTER HA WITH HOOK,CAPITAL LETTER HA WITH STROKE,",
    "SMALL LETTER HA WITH STROKE,CAPITAL LETTER KOMI DE,SMALL LETTER KOMI DE,",
    "CAPITAL LETTER KOMI DJE,SMALL LETTER KOMI DJE,CAPITAL LETTER KOMI ZJE,SMALL LETTER KOMI ZJE,",
    "CAPITAL LETTER KOMI DZJE,SMALL LETTER KOMI DZJE,CAPITAL LETTER KOMI LJE,",
    "SMALL LETTER KOMI LJE,CAPITAL LETTER KOMI NJE,SMALL LETTER KOMI NJE,CAPITAL LETTER KOMI SJE,",
    "SMALL LETTER KOMI SJE,CAPITAL LETTER KOMI TJE,SMALL LETTER KOMI TJE,",
    "CAPITAL LETTER REVERSED ZE,SMALL LETTER REVERSED ZE,CAPITAL LETTER EL WITH HOOK,",
    "SMALL LETTER EL WITH HOOK,CAPITAL LETTER LHA,SMALL LETTER LHA,CAPITAL LETTER RHA,",
    "SMALL LETTER RHA,CAPITAL LETTER YAE,SMALL LETTER YAE,CAPITAL LETTER QA,SMALL LETTER QA,",
    "CAPITAL LETTER WE,SMALL LETTER WE,CAPITAL LETTER ALEUT KA,SMALL LETTER ALEUT KA,",
    "CAPITAL LETTER EL WITH MIDDLE HOOK,SMALL LETTER EL WITH MIDDLE HOOK,",
    "CAPITAL LETTER EN WITH MIDDLE HOOK,SMALL LETTER EN WITH MIDDLE HOOK,",
    "CAPITAL LETTER PE WITH DESCENDER,SMALL LETTER PE WITH DESCENDER,",
    "CAPITAL LETTER SHHA WITH DESCENDER,SMALL LETTER SHHA WITH DESCENDER,",
    "CAPITAL LETTER EN WITH LEFT HOOK,SMALL LETTER EN WITH LEFT HOOK,CAPITAL LETTER DZZHE,",
    "SMALL LETTER DZZHE,CAPITAL LETTER DCHE,SMALL LETTER DCHE,CAPITAL LETTER EL WITH DESCENDER,",
    "SMALL LETTER EL WITH DESCENDER)"]⟩,
  ⟨0x0531, ["ARMENIAN CAPITAL LETTER (AYB,BEN,GIM,DA,ECH,ZA,EH,ET,TO,ZHE,INI,LIWN,XEH,CA,KEN,HO,",
    "JA,GHAD,CHEH,MEN,YI,NOW,SHA,VO,CHA,PEH,JHEH,RA,SEH,VEW,TIWN,REH,CO,YIWN,PIWR,KEH,OH,FEH)"]⟩,
  ⟨0x0559, ["ARMENIAN (MODIFIER LETTER LEFT HALF RING,APOSTROPHE,EMPHASIS MARK,EXCLAMATION MARK,",
    "COMMA,QUESTION MARK,ABBREVIATION MARK,SMALL (LETTER (TURNED AYB,AYB,BEN,GIM,DA,ECH,ZA,EH,ET,",
    "TO,ZHE,INI,LIWN,XEH,CA,KEN,HO,JA,GHAD,CHEH,MEN,YI,NOW,SHA,VO,CHA,PEH,JHEH,RA,SEH,VEW,TIWN,",
    "REH,CO,YIWN,PIWR,KEH,OH,FEH),LIGATURE ECH YIWN,LETTER YI WITH STROKE),FULL STOP,HYPHEN)"]⟩,
  ⟨0x058D, ["RIGHT-FACING ARMENIAN ETERNITY SIGN,LEFT-FACING ARMENIAN ETERNITY SIGN,",
    "ARMENIAN DRAM SIGN"]⟩,
  ⟨0x0591, ["HEBREW (ACCENT (ETNAHTA,SEGOL,SHALSHELET,ZAQEF (QATAN,GADOL),TIPEHA,REVIA,ZARQA,",
    "PASHTA,YETIV,TEVIR,GERESH(, MUQDAM),GERSHAYIM,QARNEY PARA,TELISHA GEDOLA,PAZER,ATNAH HAFUKH,",
    "MUNAH,MAHAPAKH,MERKHA(, KEFULA),DARGA,QADMA,TELISHA QETANA,YERAH BEN YOMO,OLE,ILUY,DEHI,",
    "ZINOR),MARK MASORA CIRCLE,POINT (SHEVA,HATAF (SEGOL,PATAH,QAMATS),HIRIQ,TSERE,SEGOL,PATAH,",
    "QAMATS,HOLAM(, HASER FOR VAV),QUBUTS,DAGESH OR MAPIQ,METEG),PUNCTUATION MAQAF,POINT RAFE,",
    "PUNCTUATION PASEQ,POINT (SHIN DOT,SIN DOT),PUNCTUATION SOF PASUQ,MARK (UPPER DOT,LOWER DOT),",
    "PUNCTUATION NUN HAFUKHA,POINT QAMATS QATAN)"]⟩,
  ⟨0x05D0, ["HEBREW LETTER (ALEF,BET,GIMEL,DALET,HE,VAV,ZAYIN,HET,TET,YOD,FINAL KAF,KAF,LAMED,",
    "FINAL MEM,MEM,FINAL NUN,NUN,SAMEKH,AYIN,FINAL PE,PE,FINAL TSADI,TSADI,QOF,RESH,SHIN,TAV)"]⟩,
  ⟨0x05EF, ["HEBREW (YOD TRIANGLE,LIGATURE YIDDISH (DOUBLE VAV,VAV YOD,DOUBLE YOD),PUNCTUATION (",
    "GERESH,GERSHAYIM))"]⟩,
  ⟨0x0600, ["ARABIC( (NUMBER SIGN,SIGN SANAH,FOOTNOTE MARKER,SIGN (SAFHA,SAMVAT),",
    "NUMBER MARK ABOVE),-INDIC (CUBE ROOT,FOURTH ROOT), RAY,-INDIC PER (MILLE SIGN,",
    "TEN THOUSAND SIGN)),AFGHANI SIGN,ARABIC( (COMMA,DATE SEPARATOR,POETIC VERSE SIGN,SIGN (MISRA,",
    "SALLALLAHOU ALAYHE WASSALLAM,ALAYHE ASSALLAM,RAHMATULLAH ALAYHE,RADI ALLAHOU ANHU,TAKHALLUS),",
    "SMALL (HIGH (TAH,LIGATURE ALEF WITH LAM WITH YEH,ZAIN),FATHA,DAMMA,KASRA),SEMICOLON,",
    "LETTER MARK,END OF TEXT MARK,TRIPLE DOT PUNCTUATION MARK,QUESTION MARK,LETTER (KASHMIRI YEH,",
    "HAMZA,ALEF WITH (MADDA ABOVE,HAMZA ABOVE),WAW WITH HAMZA ABOVE,ALEF WITH HAMZA BELOW,",
    "YEH WITH HAMZA ABOVE,ALEF,BEH,TEH( MARBUTA,),THEH,JEEM,HAH,KHAH,DAL,THAL,REH,ZAIN,SEEN,SHEEN,",
    "SAD,DAD,TAH,ZAH,AIN,GHAIN,KEHEH WITH (TWO DOTS ABOVE,THREE DOTS BELOW),FARSI YEH WITH (",
    "INVERTED V,TWO DOTS ABOVE,THREE DOTS ABOVE)),TATWEEL,LETTER (FEH,QAF,KAF,LAM,MEEM,NOON,HEH,",
    "WAW,ALEF MAKSURA,YEH),FATHATAN,DAMMATAN,KASRATAN,FATHA,DAMMA,KASRA,SHADDA,SUKUN,MADDAH ABOVE,",
    "HAMZA (ABOVE,BELOW),SUBSCRIPT ALEF,INVERTED DAMMA,MARK NOON GHUNNA,ZWARAKAY,VOWEL SIGN (",
    "SMALL V ABOVE,INVERTED SMALL V ABOVE,DOT BELOW),REVERSED DAMMA,FATHA WITH TWO DOTS,",
    "WAVY HAMZA BELOW),-INDIC DIGIT (ZERO,ONE,TWO,THREE,FOUR,FIVE,SIX,SEVEN,EIGHT,NINE), (",
    "PERCENT SIGN,DECIMAL SEPARATOR,THOUSANDS SEPARATOR,FIVE POINTED STAR,LETTER (DOTLESS (BEH,",
    "QAF),SUPERSCRIPT ALEF,ALEF (WASLA,WITH WAVY HAMZA (ABOVE,BELOW)),HIGH HAMZA(, ALEF, WAW),",
    "U WITH HAMZA ABOVE,HIGH HAMZA YEH,TTEH,TTEHEH,BEEH,TEH WITH (RING,",
    "THREE DOTS ABOVE DOWNWARDS),PEH,TEHEH,BEHEH,HAH WITH (HAMZA ABOVE,TWO DOTS VERTICAL ABOVE),",
    "NYEH,DYEH,HAH WITH THREE DOTS ABOVE,TCHEH,TCHEHEH,DDAL,DAL WITH (RING,DOT BELOW(,",
    " AND SMALL TAH)),DAHAL,DDAHAL,DUL,DAL WITH (THREE DOTS ABOVE DOWNWARDS,FOUR DOTS ABOVE),RREH,",
    "REH WITH (SMALL V,RING,DOT BELOW,SMALL V BELOW,DOT BELOW AND DOT ABOVE,TWO DOTS ABOVE),JEH,",
    "REH WITH FOUR DOTS ABOVE,SEEN WITH (DOT BELOW AND DOT ABOVE,THREE DOTS BELOW(,",
    " AND THREE DOTS ABOVE)),SAD WITH (TWO DOTS BELOW,THREE DOTS ABOVE),TAH WITH THREE DOTS ABOVE,",
    "AIN WITH THREE DOTS ABOVE,DOTLESS FEH,FEH WITH DOT (MOVED BELOW,BELOW),VEH,",
    "FEH WITH THREE DOTS BELOW,PEHEH,QAF WITH (DOT ABOVE,THREE DOTS ABOVE),KEHEH,SWASH KAF,",
    "KAF WITH (RING,DOT ABOVE),NG,KAF WITH THREE DOTS BELOW,GAF(, WITH RING),NGOEH,",
    "GAF WITH TWO DOTS BELOW,GUEH,GAF WITH THREE DOTS ABOVE,LAM WITH (SMALL V,DOT ABOVE,",
    "THREE DOTS (ABOVE,BELOW)),NOON (WITH DOT BELOW,GHUNNA),RNOON,NOON WITH (RING,",
    "THREE DOTS ABOVE),HEH DOACHASHMEE,TCHEH WITH DOT ABOVE,HEH (WITH YEH ABOVE,GOAL(,",
    " WITH HAMZA ABOVE)),TEH MARBUTA GOAL,WAW WITH RING,KIRGHIZ OE,OE,U,YU,KIRGHIZ YU,",
    "WAW WITH TWO DOTS ABOVE,VE,FARSI YEH,YEH WITH (TAIL,SMALL V),WAW WITH DOT ABOVE,E,YEH (",
    "WITH THREE DOTS BELOW,BARREE(, WITH HAMZA ABOVE))),FULL STOP,LETTER AE,SMALL HIGH (LIGATURE (",
    "SAD WITH LAM WITH ALEF MAKSURA,QAF WITH LAM WITH ALEF MAKSURA),MEEM INITIAL FORM,LAM ALEF,",
    "JEEM,THREE DOTS,SEEN),END OF AYAH,START OF RUB EL HIZB,SMALL (HIGH (ROUNDED ZERO,",
    "UPRIGHT RECTANGULAR ZERO,DOTLESS HEAD OF KHAH,MEEM ISOLATED FORM),LOW SEEN,HIGH MADDA,WAW,",
    "YEH,HIGH (YEH,NOON)),PLACE OF SAJDAH,EMPTY CENTRE (LOW STOP,HIGH STOP),",
    "ROUNDED HIGH STOP WITH FILLED CENTRE,SMALL LOW MEEM,LETTER (DAL WITH INVERTED V,",
    "REH WITH INVERTED V))),EXTENDED ARABIC-INDIC DIGIT (ZERO,ONE,TWO,THREE,FOUR,FIVE,SIX,SEVEN,",
    "EIGHT,NINE),ARABIC (LETTER (SHEEN WITH DOT BELOW,DAD WITH DOT BELOW,GHAIN WITH DOT BELOW),",
    "SIGN SINDHI (AMPERSAND,POSTPOSITION MEN),LETTER HEH WITH INVERTED V)"]⟩]

end CharacterName
end Text
end Reckoner
