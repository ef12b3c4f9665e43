import Reckoner.Text.CharacterName.Outline

/-!
# Names from U+2B00 on

The names of the characters from U+2B00 to U+A62B, as outlines.
-/

namespace Reckoner
namespace Text
namespace CharacterName

/-- Names of the characters from U+2B00 to U+A62B. -/
def from2B00 : List Outline := [
  ⟨0x2B00, ["NORTH (EAST WHITE ARROW,WEST WHITE ARROW),SOUTH (EAST WHITE ARROW,WEST WHITE ARROW),",
    "LEFT RIGHT WHITE ARROW,LEFTWARDS BLACK ARROW,UPWARDS BLACK ARROW,DOWNWARDS BLACK ARROW,",
    "NORTH (EAST BLACK ARROW,WEST BLACK ARROW),SOUTH (EAST BLACK ARROW,WEST BLACK ARROW),",
    "LEFT RIGHT BLACK ARROW,UP DOWN BLACK ARROW,RIGHTWARDS ARROW WITH TIP (DOWNWARDS,UPWARDS),",
    "LEFTWARDS ARROW WITH TIP (DOWNWARDS,UPWARDS),SQUARE WITH (TOP HALF BLACK,BOTTOM HALF BLACK,",
    "UPPER RIGHT DIAGONAL HALF BLACK,LOWER LEFT DIAGONAL HALF BLACK),DIAMOND WITH (",
    "LEFT HALF BLACK,RIGHT HALF BLACK,TOP HALF BLACK,BOTTOM HALF BLACK),DOTTED SQUARE,",
    "BLACK LARGE SQUARE,WHITE LARGE SQUARE,BLACK VERY SMALL SQUARE,WHITE VERY SMALL SQUARE,",
    "BLACK PENTAGON,WHITE (PENTAGON,HEXAGON),BLACK HEXAGON,HORIZONTAL BLACK HEXAGON,BLACK (",
    "LARGE CIRCLE,MEDIUM DIAMOND),WHITE MEDIUM DIAMOND,BLACK MEDIUM LOZENGE,WHITE MEDIUM LOZENGE,",
    "BLACK SMALL (DIAMOND,LOZENGE),WHITE SMALL LOZENGE,BLACK HORIZONTAL ELLIPSE,",
    "WHITE HORIZONTAL ELLIPSE,BLACK VERTICAL ELLIPSE,WHITE VERTICAL ELLIPSE,",
    "LEFT ARROW WITH SMALL CIRCLE,THREE LEFTWARDS ARROWS,LEFT ARROW WITH CIRCLED PLUS,",
    "LONG LEFTWARDS SQUIGGLE ARROW,LEFTWARDS (TWO-HEADED (ARROW (WITH (VERTICAL STROKE,",
    "DOUBLE VERTICAL STROKE),FROM BAR),TRIPLE DASH ARROW),ARROW WITH (DOTTED STEM,TAIL WITH (",
    "VERTICAL STROKE,DOUBLE VERTICAL STROKE)),TWO-HEADED ARROW WITH TAIL(, WITH (VERTICAL STROKE,",
    "DOUBLE VERTICAL STROKE)),ARROW THROUGH X),WAVE ARROW POINTING DIRECTLY LEFT,",
    "EQUALS SIGN ABOVE LEFTWARDS ARROW,REVERSE TILDE OPERATOR ABOVE LEFTWARDS ARROW,",
    "LEFTWARDS ARROW ABOVE REVERSE ALMOST EQUAL TO,RIGHTWARDS ARROW THROUGH (GREATER-THAN,",
    "SUPERSET),LEFTWARDS QUADRUPLE ARROW,RIGHTWARDS QUADRUPLE ARROW,",
    "REVERSE TILDE OPERATOR ABOVE RIGHTWARDS ARROW,RIGHTWARDS ARROW ABOVE REVERSE ALMOST EQUAL TO,",
    "TILDE OPERATOR ABOVE LEFTWARDS ARROW,LEFTWARDS ARROW ABOVE (ALMOST EQUAL TO,",
    "REVERSE TILDE OPERATOR),RIGHTWARDS ARROW ABOVE REVERSE TILDE OPERATOR,",
    "DOWNWARDS TRIANGLE-HEADED ZIGZAG ARROW,SHORT (SLANTED NORTH ARROW,BACKSLANTED SOUTH ARROW),",
    "WHITE MEDIUM STAR,BLACK SMALL STAR,WHITE SMALL STAR,BLACK RIGHT-POINTING PENTAGON,",
    "WHITE RIGHT-POINTING PENTAGON,HEAVY (LARGE CIRCLE,OVAL WITH OVAL INSIDE,CIRCLE(",
    " WITH CIRCLE INSIDE,),CIRCLED SALTIRE),SLANTED NORTH ARROW WITH HOOKED HEAD,",
    "BACKSLANTED SOUTH ARROW WITH HOOKED TAIL,SLANTED NORTH ARROW WITH HORIZONTAL TAIL,",
    "BACKSLANTED SOUTH ARROW WITH HORIZONTAL TAIL,BENT ARROW POINTING DOWNWARDS THEN NORTH EAST,",
    "SHORT BENT ARROW POINTING DOWNWARDS THEN NORTH EAST,LEFTWARDS TRIANGLE-HEADED ARROW,",
    "UPWARDS TRIANGLE-HEADED ARROW,RIGHTWARDS TRIANGLE-HEADED ARROW,",
    "DOWNWARDS TRIANGLE-HEADED ARROW,LEFT RIGHT TRIANGLE-HEADED ARROW,",
    "UP DOWN TRIANGLE-HEADED ARROW,NORTH (WEST TRIANGLE-HEADED ARROW,EAST TRIANGLE-HEADED ARROW),",
    "SOUTH (EAST TRIANGLE-HEADED ARROW,WEST TRIANGLE-HEADED ARROW),",
    "LEFTWARDS TRIANGLE-HEADED DASHED ARROW,UPWARDS TRIANGLE-HEADED DASHED ARROW,",
    "RIGHTWARDS TRIANGLE-HEADED DASHED ARROW,DOWNWARDS TRIANGLE-HEADED DASHED ARROW,",
    "CLOCKWISE TRIANGLE-HEADED OPEN CIRCLE ARROW,ANTICLOCKWISE TRIANGLE-HEADED OPEN CIRCLE ARROW,",
    "LEFTWARDS TRIANGLE-HEADED ARROW TO BAR,UPWARDS TRIANGLE-HEADED ARROW TO BAR,",
    "RIGHTWARDS TRIANGLE-HEADED ARROW TO BAR,DOWNWARDS TRIANGLE-HEADED ARROW TO BAR"]⟩,
  ⟨0x2B76, ["NORTH (WEST TRIANGLE-HEADED ARROW TO BAR,EAST TRIANGLE-HEADED ARROW TO BAR),SOUTH (",
    "EAST TRIANGLE-HEADED ARROW TO BAR,WEST TRIANGLE-HEADED ARROW TO BAR),",
    "LEFTWARDS TRIANGLE-HEADED ARROW WITH DOUBLE HORIZONTAL STROKE,",
    "UPWARDS TRIANGLE-HEADED ARROW WITH DOUBLE HORIZONTAL STROKE,",
    "RIGHTWARDS TRIANGLE-HEADED ARROW WITH DOUBLE HORIZONTAL STROKE,",
    "DOWNWARDS TRIANGLE-HEADED ARROW WITH DOUBLE HORIZONTAL STROKE,HORIZONTAL TAB KEY,",
    "VERTICAL TAB KEY,LEFTWARDS TRIANGLE-HEADED ARROW OVER RIGHTWARDS TRIANGLE-HEADED ARROW,",
    "UPWARDS TRIANGLE-HEADED ARROW LEFTWARDS OF DOWNWARDS TRIANGLE-HEADED ARROW,",
    "RIGHTWARDS TRIANGLE-HEADED ARROW OVER LEFTWARDS TRIANGLE-HEADED ARROW,",
    "DOWNWARDS TRIANGLE-HEADED ARROW LEFTWARDS OF UPWARDS TRIANGLE-HEADED ARROW,",
    "LEFTWARDS TRIANGLE-HEADED PAIRED ARROWS,UPWARDS TRIANGLE-HEADED PAIRED ARROWS,",
    "RIGHTWARDS TRIANGLE-HEADED PAIRED ARROWS,DOWNWARDS TRIANGLE-HEADED PAIRED ARROWS,",
    "LEFTWARDS BLACK CIRCLED WHITE ARROW,UPWARDS BLACK CIRCLED WHITE ARROW,",
    "RIGHTWARDS BLACK CIRCLED WHITE ARROW,DOWNWARDS BLACK CIRCLED WHITE ARROW,",
    "ANTICLOCKWISE TRIANGLE-HEADED (RIGHT U-SHAPED ARROW,BOTTOM U-SHAPED ARROW,",
    "LEFT U-SHAPED ARROW,TOP U-SHAPED ARROW),RETURN (LEFT,RIGHT),NEWLINE (LEFT,RIGHT),",
    "FOUR CORNER ARROWS CIRCLING ANTICLOCKWISE,RIGHTWARDS BLACK ARROW"]⟩,
  ⟨0x2B97, ["SYMBOL FOR TYPE A ELECTRONICS,THREE-D (TOP-LIGHTED LEFTWARDS EQUILATERAL ARROWHEAD,",
    "RIGHT-LIGHTED UPWARDS EQUILATERAL ARROWHEAD,TOP-LIGHTED RIGHTWARDS EQUILATERAL ARROWHEAD,",
    "LEFT-LIGHTED DOWNWARDS EQUILATERAL ARROWHEAD),BLACK (LEFTWARDS EQUILATERAL ARROWHEAD,",
    "UPWARDS EQUILATERAL ARROWHEAD,RIGHTWARDS EQUILATERAL ARROWHEAD,",
    "DOWNWARDS EQUILATERAL ARROWHEAD),DOWNWARDS TRIANGLE-HEADED ARROW WITH LONG TIP (LEFTWARDS,",
    "RIGHTWARDS),UPWARDS TRIANGLE-HEADED ARROW WITH LONG TIP (LEFTWARDS,RIGHTWARDS),",
    "LEFTWARDS TRIANGLE-HEADED ARROW WITH LONG TIP UPWARDS,",
    "RIGHTWARDS TRIANGLE-HEADED ARROW WITH LONG TIP UPWARDS,",
    "LEFTWARDS TRIANGLE-HEADED ARROW WITH LONG TIP DOWNWARDS,",
    "RIGHTWARDS TRIANGLE-HEADED ARROW WITH LONG TIP DOWNWARDS,BLACK CURVED (DOWNWARDS AND (",
    "LEFTWARDS ARROW,RIGHTWARDS ARROW),UPWARDS AND (LEFTWARDS ARROW,RIGHTWARDS ARROW),",
    "LEFTWARDS AND UPWARDS ARROW,RIGHTWARDS AND UPWARDS ARROW,LEFTWARDS AND DOWNWARDS ARROW,",
    "RIGHTWARDS AND DOWNWARDS ARROW),RIBBON ARROW (DOWN (LEFT,RIGHT),UP (LEFT,RIGHT),LEFT UP,",
    "RIGHT UP,LEFT DOWN,RIGHT DOWN),UPWARDS WHITE ARROW FROM BAR WITH HORIZONTAL BAR,",
    "UP ARROWHEAD IN A RECTANGLE BOX,OVERLAPPING (WHITE (SQUARES,AND BLACK SQUARES),",
    "BLACK SQUARES),BALLOT BOX WITH LIGHT X,CIRCLED (X,BOLD X),BLACK (SQUARE CENTRED,",
    "DIAMOND CENTRED),TURNED BLACK PENTAGON,HORIZONTAL BLACK OCTAGON,BLACK (OCTAGON,MEDIUM (",
    "UP-POINTING TRIANGLE CENTRED,DOWN-POINTING TRIANGLE CENTRED,LEFT-POINTING TRIANGLE CENTRED,",
    "RIGHT-POINTING TRIANGLE CENTRED)),NEPTUNE FORM TWO,TOP HALF BLACK CIRCLE,",
    "BOTTOM HALF BLACK CIRCLE,LIGHT FOUR POINTED BLACK CUSP,ROTATED LIGHT FOUR POINTED BLACK CUSP,",
    "WHITE FOUR POINTED CUSP,ROTATED WHITE FOUR POINTED CUSP,SQUARE POSITION INDICATOR,",
    "UNCERTAINTY SIGN,GROUP MARK,PLUTO FORM (TWO,THREE,FOUR,FIVE),TRANSPLUTO,PROSERPINA,ASTRAEA,",
    "HYGIEA,PHOLUS,NESSUS,WHITE MOON SELENA,BLACK DIAMOND ON CROSS,TRUE LIGHT MOON ARTA,CUPIDO,",
    "HADES,ZEUS,KRONOS,APOLLON,ADMETOS,VULCANUS,POSEIDON,LEFT HALF BLACK STAR,",
    "RIGHT HALF BLACK STAR,STAR WITH (LEFT HALF BLACK,RIGHT HALF BLACK),",
    "LEFTWARDS TWO-HEADED ARROW WITH TRIANGLE ARROWHEADS,",
    "UPWARDS TWO-HEADED ARROW WITH TRIANGLE ARROWHEADS,",
    "RIGHTWARDS TWO-HEADED ARROW WITH TRIANGLE ARROWHEADS,",
    "DOWNWARDS TWO-HEADED ARROW WITH TRIANGLE ARROWHEADS,ERIS FORM (ONE,TWO),SEDNA,",
    "RUSSIAN ASTROLOGICAL SYMBOL (VIGINTILE,NOVILE,QUINTILE,BINOVILE,SENTAGON,TREDECILE),",
    "EQUALS SIGN WITH INFINITY BELOW,UNITED SYMBOL,SEPARATED SYMBOL,DOUBLED SYMBOL,PASSED SYMBOL,",
    "REVERSED RIGHT ANGLE,HELLSCHREIBER PAUSE SYMBOL,GLAGOLITIC (CAPITAL LETTER (AZU,BUKY,VEDE,",
    "GLAGOLI,DOBRO,YESTU,ZHIVETE,DZELO,ZEMLJA,IZHE,INITIAL IZHE,I,DJERVI,KAKO,LJUDIJE,MYSLITE,",
    "NASHI,ONU,POKOJI,RITSI,SLOVO,TVRIDO,UKU,FRITU,HERU,OTU,PE,SHTA,TSI,CHRIVI,SHA,YERU,YERI,YATI,",
    "SPIDERY HA,YU,SMALL YUS(, WITH TAIL),YO,IOTATED SMALL YUS,BIG YUS,IOTATED BIG YUS,FITA,",
    "IZHITSA,SHTAPIC,TROKUTASTI A,LATINATE MYSLITE,CAUDATE CHRIVI),SMALL LETTER (AZU,BUKY,VEDE,",
    "GLAGOLI,DOBRO,YESTU,ZHIVETE,DZELO,ZEMLJA,IZHE,INITIAL IZHE,I,DJERVI,KAKO,LJUDIJE,MYSLITE,",
    "NASHI,ONU,POKOJI,RITSI,SLOVO,TVRIDO,UKU,FRITU,HERU,OTU,PE,SHTA,TSI,CHRIVI,SHA,YERU,YERI,YATI,",
    "SPIDERY HA,YU,SMALL YUS(, WITH TAIL),YO,IOTATED SMALL YUS,BIG YUS,IOTATED BIG YUS,FITA,",
    "IZHITSA,SHTAPIC,TROKUTASTI A,LATINATE MYSLITE,CAUDATE CHRIVI)),LATIN (",
    "CAPITAL LETTER L WITH DOUBLE BAR,SMALL LETTER L WITH DOUBLE BAR,CAPITAL LETTER (",
    "L WITH MIDDLE TILDE,P WITH STROKE,R WITH TAIL),SMALL LETTER (A WITH STROKE,",
    "T WITH DIAGONAL STROKE),CAPITAL LETTER H WITH DESCENDER,SMALL LETTER H WITH DESCENDER,",
    "CAPITAL LETTER K WITH DESCENDER,SMALL LETTER K WITH DESCENDER,",
    "CAPITAL LETTER Z WITH DESCENDER,SMALL LETTER Z WITH DESCENDER,CAPITAL LETTER (ALPHA,",
    "M WITH HOOK,TURNED (A,ALPHA)),SMALL LETTER V WITH RIGHT HOOK,CAPITAL LETTER W WITH HOOK,",
    "SMALL LETTER (W WITH HOOK,V WITH CURL),CAPITAL LETTER HALF H,SMALL LETTER (HALF H,",
    "TAILLESS PHI,E WITH NOTCH,TURNED R WITH TAIL,O WITH LOW RING INSIDE),",
    "LETTER SMALL CAPITAL TURNED E,SUBSCRIPT SMALL LETTER J),MODIFIER LETTER CAPITAL V,",
    "LATIN CAPITAL LETTER (S WITH SWASH TAIL,Z WITH SWASH TAIL),COPTIC (CAPITAL LETTER ALFA,",
    "SMALL LETTER ALFA,CAPITAL LETTER VIDA,SMALL LETTER VIDA,CAPITAL LETTER GAMMA,",
    "SMALL LETTER GAMMA,CAPITAL LETTER DALDA,SMALL LETTER DALDA,CAPITAL LETTER EIE,",
    "SMALL LETTER EIE,CAPITAL LETTER SOU,SMALL LETTER SOU,CAPITAL LETTER ZATA,SMALL LETTER ZATA,",
    "CAPITAL LETTER HATE,SMALL LETTER HATE,CAPITAL LETTER THETHE,SMALL LETTER THETHE,",
    "CAPITAL LETTER IAUDA,SMALL LETTER IAUDA,CAPITAL LETTER KAPA,SMALL LETTER KAPA,",
    "CAPITAL LETTER LAULA,SMALL LETTER LAULA,CAPITAL LETTER MI,SMALL LETTER MI,CAPITAL LETTER NI,",
    "SMALL LETTER NI,CAPITAL LETTER KSI,SMALL LETTER KSI,CAPITAL LETTER O,SMALL LETTER O,",
    "CAPITAL LETTER PI,SMALL LETTER PI,CAPITAL LETTER RO,SMALL LETTER RO,CAPITAL LETTER SIMA,",
    "SMALL LETTER SIMA,CAPITAL LETTER TAU,SMALL LETTER TAU,CAPITAL LETTER UA,SMALL LETTER UA,",
    "CAPITAL LETTER FI,SMALL LETTER FI,CAPITAL LETTER KHI,SMALL LETTER KHI,CAPITAL LETTER PSI,",
    "SMALL LETTER PSI,CAPITAL LETTER OOU,SMALL LETTER OOU,CAPITAL LETTER DIALECT-P ALEF,",
    "SMALL LETTER DIALECT-P ALEF,CAPITAL LETTER OLD COPTIC AIN,SMALL LETTER OLD COPTIC AIN,",
    "CAPITAL LETTER CRYPTOGRAMMIC EIE,SMALL LETTER CRYPTOGRAMMIC EIE,",
    "CAPITAL LETTER DIALECT-P KAPA,SMALL LETTER DIALECT-P KAPA,CAPITAL LETTER DIALECT-P NI,",
    "SMALL LETTER DIALECT-P NI,CAPITAL LETTER CRYPTOGRAMMIC NI,SMALL LETTER CRYPTOGRAMMIC NI,",
    "CAPITAL LETTER OLD COPTIC OOU,SMALL LETTER OLD COPTIC OOU,CAPITAL LETTER SAMPI,",
    "SMALL LETTER SAMPI,CAPITAL LETTER CROSSED SHEI,SMALL LETTER CROSSED SHEI,",
    "CAPITAL LETTER OLD COPTIC SHEI,SMALL LETTER OLD COPTIC SHEI,CAPITAL LETTER OLD COPTIC ESH,",
    "SMALL LETTER OLD COPTIC ESH,CAPITAL LETTER AKHMIMIC KHEI,SMALL LETTER AKHMIMIC KHEI,",
    "CAPITAL LETTER DIALECT-P HORI,SMALL LETTER DIALECT-P HORI,CAPITAL LETTER OLD COPTIC HORI,",
    "SMALL LETTER OLD COPTIC HORI,CAPITAL LETTER OLD COPTIC HA,SMALL LETTER OLD COPTIC HA,",
    "CAPITAL LETTER L-SHAPED HA,SMALL LETTER L-SHAPED HA,CAPITAL LETTER OLD COPTIC HEI,",
    "SMALL LETTER OLD COPTIC HEI,CAPITAL LETTER OLD COPTIC HAT,SMALL LETTER OLD COPTIC HAT,",
    "CAPITAL LETTER OLD COPTIC GANGIA,SMALL LETTER OLD COPTIC GANGIA,",
    "CAPITAL LETTER OLD COPTIC DJA,SMALL LETTER OLD COPTIC DJA,CAPITAL LETTER OLD COPTIC SHIMA,",
    "SMALL LETTER OLD COPTIC SHIMA,CAPITAL LETTER OLD NUBIAN SHIMA,SMALL LETTER OLD NUBIAN SHIMA,",
    "CAPITAL LETTER OLD NUBIAN NGI,SMALL LETTER OLD NUBIAN NGI,CAPITAL LETTER OLD NUBIAN NYI,",
    "SMALL LETTER OLD NUBIAN NYI,CAPITAL LETTER OLD NUBIAN WAU,SMALL LETTER OLD NUBIAN WAU,",
    "SYMBOL (KAI,MI RO,PI RO,STAUROS,TAU RO,KHI RO,SHIMA SIMA),CAPITAL LETTER CRYPTOGRAMMIC SHEI,",
    "SMALL LETTER CRYPTOGRAMMIC SHEI,CAPITAL LETTER CRYPTOGRAMMIC GANGIA,",
    "SMALL LETTER CRYPTOGRAMMIC GANGIA,COMBINING (NI ABOVE,SPIRITUS (ASPER,LENIS)),",
    "CAPITAL LETTER BOHAIRIC KHEI,SMALL LETTER BOHAIRIC KHEI)"]⟩,
  ⟨0x2CF9, ["COPTIC (OLD NUBIAN (FULL STOP,DIRECT QUESTION MARK,INDIRECT QUESTION MARK,",
    "VERSE DIVIDER),FRACTION ONE HALF,FULL STOP,MORPHOLOGICAL DIVIDER),GEORGIAN SMALL LETTER (AN,",
    "BAN,GAN,DON,EN,VIN,ZEN,TAN,IN,KAN,LAS,MAN,NAR,ON,PAR,ZHAR,RAE,SAN,TAR,UN,PHAR,KHAR,GHAN,QAR,",
    "SHIN,CHIN,CAN,JIL,CIL,CHAR,XAN,JHAN,HAE,HE,HIE,WE,HAR,HOE)"]⟩,
  ⟨0x2D27, ["GEORGIAN SMALL LETTER YN"]⟩,
  ⟨0x2D2D, ["GEORGIAN SMALL LETTER AEN"]⟩,
  ⟨0x2D30, ["TIFINAGH LETTER (YA,YAB,YABH,YAG,YAGHH,BERBER ACADEMY YAJ,YAJ,YAD,YADH,YADD,YADDH,",
    "YEY,YAF,YAK,TUAREG YAK,YAKHH,YAH,BERBER ACADEMY YAH,TUAREG YAH,YAHH,YAA,YAKH,TUAREG YAKH,YAQ,",
    "TUAREG YAQ,YI,YAZH,AHAGGAR YAZH,TUAREG YAZH,YAL,YAM,YAN,TUAREG (YAGN,YANG),YAP,YU,YAR,YARR,",
    "YAGH,TUAREG YAGH,AYER YAGH,YAS,YASS,YASH,YAT,YATH,YACH,YATT,YAV,YAW,YAY,YAZ,TAWELLEMET YAZ,",
    "YAZZ,YE,YO)"]⟩,
  ⟨0x2D6F, ["TIFINAGH (MODIFIER LETTER LABIALIZATION MARK,SEPARATOR MARK)"]⟩,
  ⟨0x2D7F, ["TIFINAGH CONSONANT JOINER,ETHIOPIC SYLLABLE (LOA,MOA,ROA,SOA,SHOA,BOA,TOA,COA,NOA,",
    "NYOA,GLOTTAL OA,ZOA,DOA,DDOA,JOA,THOA,CHOA,PHOA,POA,GGWA,GGWI,GGWEE,GGWE)"]⟩,
  ⟨0x2DA0, ["ETHIOPIC SYLLABLE (SSA,SSU,SSI,SSAA,SSEE,SSE,SSO)"]⟩,
  ⟨0x2DA8, ["ETHIOPIC SYLLABLE (CCA,CCU,CCI,CCAA,CCEE,CCE,CCO)"]⟩,
  ⟨0x2DB0, ["ETHIOPIC SYLLABLE (ZZA,ZZU,ZZI,ZZAA,ZZEE,ZZE,ZZO)"]⟩,
  ⟨0x2DB8, ["ETHIOPIC SYLLABLE (CCHA,CCHU,CCHI,CCHAA,CCHEE,CCHE,CCHO)"]⟩,
  ⟨0x2DC0, ["ETHIOPIC SYLLABLE (QYA,QYU,QYI,QYAA,QYEE,QYE,QYO)"]⟩,
  ⟨0x2DC8, ["ETHIOPIC SYLLABLE (KYA,KYU,KYI,KYAA,KYEE,KYE,KYO)"]⟩,
  ⟨0x2DD0, ["ETHIOPIC SYLLABLE (XYA,XYU,XYI,XYAA,XYEE,XYE,XYO)"]⟩,
  ⟨0x2DD8, ["ETHIOPIC SYLLABLE (GYA,GYU,GYI,GYAA,GYEE,GYE,GYO)"]⟩,
  ⟨0x2DE0, ["COMBINING CYRILLIC LETTER (BE,VE,GHE,DE,ZHE,ZE,KA,EL,EM,EN,O,PE,ER,ES,TE,HA,TSE,CHE,",
    "SHA,SHCHA,FITA,ES-TE,A,IE,DJERV,MONOGRAPH UK,YAT,YU,IOTIFIED A,LITTLE YUS,BIG YUS,",
    "IOTIFIED BIG YUS),RIGHT ANGLE (SUBSTITUTION MARKER,DOTTED SUBSTITUTION MARKER),",
    "LEFT SUBSTITUTION BRACKET,RIGHT SUBSTITUTION BRACKET,LEFT DOTTED SUBSTITUTION BRACKET,",
    "RIGHT DOTTED SUBSTITUTION BRACKET,RAISED (INTERPOLATION MARKER,DOTTED INTERPOLATION MARKER),",
    "DOTTED TRANSPOSITION MARKER,LEFT TRANSPOSITION BRACKET,RIGHT TRANSPOSITION BRACKET,",
    "RAISED SQUARE,LEFT RAISED OMISSION BRACKET,RIGHT RAISED OMISSION BRACKET,EDITORIAL CORONIS,",
    "PARAGRAPHOS,FORKED PARAGRAPHOS,REVERSED FORKED PARAGRAPHOS,HYPODIASTOLE,DOTTED OBELOS,",
    "DOWNWARDS ANCORA,UPWARDS ANCORA,DOTTED RIGHT-POINTING ANGLE,DOUBLE OBLIQUE HYPHEN,",
    "INVERTED INTERROBANG,PALM BRANCH,HYPHEN WITH DIAERESIS,TILDE WITH RING ABOVE,",
    "LEFT LOW PARAPHRASE BRACKET,RIGHT LOW PARAPHRASE BRACKET,TILDE WITH DOT (ABOVE,BELOW),",
    "LEFT VERTICAL BAR WITH QUILL,RIGHT VERTICAL BAR WITH QUILL,TOP (LEFT HALF BRACKET,",
    "RIGHT HALF BRACKET),BOTTOM (LEFT HALF BRACKET,RIGHT HALF BRACKET),LEFT SIDEWAYS U BRACKET,",
    "RIGHT SIDEWAYS U BRACKET,LEFT DOUBLE PARENTHESIS,RIGHT DOUBLE PARENTHESIS,",
    "TWO DOTS OVER ONE DOT PUNCTUATION,ONE DOT OVER TWO DOTS PUNCTUATION,",
    "SQUARED FOUR DOT PUNCTUATION,FIVE DOT MARK,REVERSED QUESTION MARK,VERTICAL TILDE,RING POINT,",
    "WORD SEPARATOR MIDDLE DOT,TURNED COMMA,RAISED (DOT,COMMA),TURNED SEMICOLON,DAGGER WITH (",
    "LEFT GUARD,RIGHT GUARD),TURNED DAGGER,TOP HALF SECTION SIGN,TWO-EM DASH,THREE-EM DASH,",
    "STENOGRAPHIC FULL STOP,VERTICAL SIX DOTS,WIGGLY VERTICAL LINE,CAPITULUM,DOUBLE HYPHEN,",
    "REVERSED COMMA,DOUBLE LOW-REVERSED-9 QUOTATION MARK,DASH WITH LEFT UPTURN,",
    "DOUBLE SUSPENSION MARK,INVERTED LOW KAVYKA(, WITH KAVYKA ABOVE),LOW KAVYKA(, WITH DOT),",
    "DOUBLE STACKED COMMA,DOTTED SOLIDUS,TRIPLE DAGGER,MEDIEVAL COMMA,PARAGRAPHUS MARK,",
    "PUNCTUS ELEVATUS MARK,CORNISH VERSE DIVIDER,CROSS PATTY WITH (RIGHT CROSSBAR,LEFT CROSSBAR),",
    "TIRONIAN SIGN CAPITAL ET,MEDIEVAL (EXCLAMATION MARK,QUESTION MARK),",
    "LEFT SQUARE BRACKET WITH STROKE,RIGHT SQUARE BRACKET WITH STROKE,",
    "LEFT SQUARE BRACKET WITH DOUBLE STROKE,RIGHT SQUARE BRACKET WITH DOUBLE STROKE,TOP HALF (",
    "LEFT PARENTHESIS,RIGHT PARENTHESIS),BOTTOM HALF (LEFT PARENTHESIS,RIGHT PARENTHESIS),",
    "OBLIQUE HYPHEN"]⟩,
  ⟨0x2E80, ["CJK RADICAL (REPEAT,CLIFF,SECOND (ONE,TWO,THREE),PERSON,BOX,TABLE,KNIFE (ONE,TWO),",
    "DIVINATION,SEAL,SMALL (ONE,TWO),LAME (ONE,TWO,THREE,FOUR),SNAKE,THREAD,SNOUT (ONE,TWO),",
    "HEART (ONE,TWO),HAND,RAP)"]⟩,
  ⟨0x2E9B, ["CJK RADICAL (CHOKE,SUN,MOON,DEATH,MOTHER,CIVILIAN,WATER (ONE,TWO),FIRE,PAW (ONE,TWO),",
    "SIMPLIFIED HALF TREE TRUNK,COW,DOG,JADE,BOLT OF CLOTH,EYE,SPIRIT (ONE,TWO),BAMBOO,SILK,",
    "C-SIMPLIFIED SILK,NET (ONE,TWO,THREE,FOUR),MESH,SHEEP,RAM,EWE,OLD,BRUSH (ONE,TWO),MEAT,",
    "MORTAR,GRASS (ONE,TWO,THREE),TIGER,CLOTHES,WEST (ONE,TWO),C-SIMPLIFIED SEE,SIMPLIFIED HORN,",
    "HORN,C-SIMPLIFIED (SPEECH,SHELL),FOOT,C-SIMPLIFIED CART,SIMPLIFIED WALK,WALK (ONE,TWO),CITY,",
    "C-SIMPLIFIED GOLD,LONG (ONE,TWO),C-SIMPLIFIED (LONG,GATE),MOUND (ONE,TWO),RAIN,BLUE,",
    "C-SIMPLIFIED (TANNED LEATHER,LEAF,WIND,FLY),EAT (ONE,TWO,THREE),C-SIMPLIFIED EAT,HEAD,",
    "C-SIMPLIFIED HORSE,BONE,GHOST,C-SIMPLIFIED (FISH,BIRD,SALT),SIMPLIFIED (WHEAT,YELLOW),",
    "C-SIMPLIFIED FROG,J-SIMPLIFIED EVEN,C-SIMPLIFIED EVEN,J-SIMPLIFIED TOOTH,C-SIMPLIFIED TOOTH,",
    "J-SIMPLIFIED DRAGON,C-SIMPLIFIED DRAGON,TURTLE,J-SIMPLIFIED TURTLE,C-SIMPLIFIED TURTLE)"]⟩,
  ⟨0x2F00, ["KANGXI RADICAL (ONE,LINE,DOT,SLASH,SECOND,HOOK,TWO,LID,MAN,LEGS,ENTER,EIGHT,DOWN BOX,",
    "COVER,ICE,TABLE,OPEN BOX,KNIFE,POWER,WRAP,SPOON,RIGHT OPEN BOX,HIDING ENCLOSURE,TEN,",
    "DIVINATION,SEAL,CLIFF,PRIVATE,AGAIN,MOUTH,ENCLOSURE,EARTH,SCHOLAR,GO,GO SLOWLY,EVENING,BIG,",
    "WOMAN,CHILD,ROOF,INCH,SMALL,LAME,CORPSE,SPROUT,MOUNTAIN,RIVER,WORK,ONESELF,TURBAN,DRY,",
    "SHORT THREAD,DOTTED CLIFF,LONG STRIDE,TWO HANDS,SHOOT,BOW,SNOUT,BRISTLE,STEP,HEART,HALBERD,",
    "DOOR,HAND,BRANCH,RAP,SCRIPT,DIPPER,AXE,SQUARE,NOT,SUN,SAY,MOON,TREE,LACK,STOP,DEATH,WEAPON,",
    "DO NOT,COMPARE,FUR,CLAN,STEAM,WATER,FIRE,CLAW,FATHER,DOUBLE X,HALF TREE TRUNK,SLICE,FANG,COW,",
    "DOG,PROFOUND,JADE,MELON,TILE,SWEET,LIFE,USE,FIELD,BOLT OF CLOTH,SICKNESS,DOTTED TENT,WHITE,",
    "SKIN,DISH,EYE,SPEAR,ARROW,STONE,SPIRIT,TRACK,GRAIN,CAVE,STAND,BAMBOO,RICE,SILK,JAR,NET,SHEEP,",
    "FEATHER,OLD,AND,PLOW,EAR,BRUSH,MEAT,MINISTER,SELF,ARRIVE,MORTAR,TONGUE,OPPOSE,BOAT,STOPPING,",
    "COLOR,GRASS,TIGER,INSECT,BLOOD,WALK ENCLOSURE,CLOTHES,WEST,SEE,HORN,SPEECH,VALLEY,BEAN,PIG,",
    "BADGER,SHELL,RED,RUN,FOOT,BODY,CART,BITTER,MORNING,WALK,CITY,WINE,DISTINGUISH,VILLAGE,GOLD,",
    "LONG,GATE,MOUND,SLAVE,SHORT TAILED BIRD,RAIN,BLUE,WRONG,FACE,LEATHER,TANNED LEATHER,LEEK,",
    "SOUND,LEAF,WIND,FLY,EAT,HEAD,FRAGRANT,HORSE,BONE,TALL,HAIR,FIGHT,SACRIFICIAL WINE,CAULDRON,",
    "GHOST,FISH,BIRD,SALT,DEER,WHEAT,HEMP,YELLOW,MILLET,BLACK,EMBROIDERY,FROG,TRIPOD,DRUM,RAT,",
    "NOSE,EVEN,TOOTH,DRAGON,TURTLE,FLUTE)"]⟩,
  ⟨0x2FF0, ["IDEOGRAPHIC DESCRIPTION CHARACTER (LEFT TO RIGHT,ABOVE TO BELOW,",
    "LEFT TO MIDDLE AND RIGHT,ABOVE TO MIDDLE AND BELOW,FULL SURROUND,SURROUND FROM (ABOVE,BELOW,",
    "LEFT,UPPER (LEFT,RIGHT),LOWER LEFT),OVERLAID)"]⟩,
  ⟨0x3000, ["IDEOGRAPHIC (SPACE,COMMA,FULL STOP),DITTO MARK,JAPANESE INDUSTRIAL STANDARD SYMBOL,",
    "IDEOGRAPHIC (ITERATION MARK,CLOSING MARK,NUMBER ZERO),LEFT ANGLE BRACKET,RIGHT ANGLE BRACKET,",
    "LEFT DOUBLE ANGLE BRACKET,RIGHT DOUBLE ANGLE BRACKET,LEFT CORNER BRACKET,",
    "RIGHT CORNER BRACKET,LEFT WHITE CORNER BRACKET,RIGHT WHITE CORNER BRACKET,",
    "LEFT BLACK LENTICULAR BRACKET,RIGHT BLACK LENTICULAR BRACKET,POSTAL MARK,GETA MARK,",
    "LEFT TORTOISE SHELL BRACKET,RIGHT TORTOISE SHELL BRACKET,LEFT WHITE LENTICULAR BRACKET,",
    "RIGHT WHITE LENTICULAR BRACKET,LEFT WHITE TORTOISE SHELL BRACKET,",
    "RIGHT WHITE TORTOISE SHELL BRACKET,LEFT WHITE SQUARE BRACKET,RIGHT WHITE SQUARE BRACKET,",
    "WAVE DASH,REVERSED DOUBLE PRIME QUOTATION MARK,DOUBLE PRIME QUOTATION MARK,",
    "LOW DOUBLE PRIME QUOTATION MARK,POSTAL MARK FACE,HANGZHOU NUMERAL (ONE,TWO,THREE,FOUR,FIVE,",
    "SIX,SEVEN,EIGHT,NINE),IDEOGRAPHIC (LEVEL TONE MARK,RISING TONE MARK,DEPARTING TONE MARK,",
    "ENTERING TONE MARK),HANGUL (SINGLE DOT TONE MARK,DOUBLE DOT TONE MARK),WAVY DASH,",
    "VERTICAL KANA REPEAT (MARK,WITH VOICED SOUND MARK,MARK UPPER HALF,",
    "WITH VOICED SOUND MARK UPPER HALF,MARK LOWER HALF),CIRCLED POSTAL MARK,",
    "IDEOGRAPHIC TELEGRAPH LINE FEED SEPARATOR SYMBOL,HANGZHOU NUMERAL (TEN,TWENTY,THIRTY),",
    "VERTICAL IDEOGRAPHIC ITERATION MARK,MASU MARK,PART ALTERNATION MARK,IDEOGRAPHIC (",
    "VARIATION INDICATOR,HALF FILL SPACE)"]⟩,
  ⟨0x3041, ["HIRAGANA LETTER (SMALL A,A,SMALL I,I,SMALL U,U,SMALL E,E,SMALL O,O,KA,GA,KI,GI,KU,GU,",
    "KE,GE,KO,GO,SA,ZA,SI,ZI,SU,ZU,SE,ZE,SO,ZO,TA,DA,TI,DI,SMALL TU,TU,DU,TE,DE,TO,DO,NA,NI,NU,NE,",
    "NO,HA,BA,PA,HI,BI,PI,HU,BU,PU,HE,BE,PE,HO,BO,PO,MA,MI,MU,ME,MO,SMALL YA,YA,SMALL YU,YU,",
    "SMALL YO,YO,RA,RI,RU,RE,RO,SMALL WA,WA,WI,WE,WO,N,VU,SMALL (KA,KE))"]⟩,
  ⟨0x3099, ["COMBINING KATAKANA-HIRAGANA (VOICED SOUND MARK,SEMI-VOICED SOUND MARK),",
    "KATAKANA-HIRAGANA (VOICED SOUND MARK,SEMI-VOICED SOUND MARK),HIRAGANA (ITERATION MARK,",
    "VOICED ITERATION MARK,DIGRAPH YORI),KATAKANA(-HIRAGANA DOUBLE HYPHEN, (LETTER (SMALL A,A,",
    "SMALL I,I,SMALL U,U,SMALL E,E,SMALL O,O,KA,GA,KI,GI,KU,GU,KE,GE,KO,GO,SA,ZA,SI,ZI,SU,ZU,SE,",
    "ZE,SO,ZO,TA,DA,TI,DI,SMALL TU,TU,DU,TE,DE,TO,DO,NA,NI,NU,NE,NO,HA,BA,PA,HI,BI,PI,HU,BU,PU,HE,",
    "BE,PE,HO,BO,PO,MA,MI,MU,ME,MO,SMALL YA,YA,SMALL YU,YU,SMALL YO,YO,RA,RI,RU,RE,RO,SMALL WA,WA,",
    "WI,WE,WO,N,VU,SMALL (KA,KE),VA,VI,VE,VO),MIDDLE DOT),-HIRAGANA PROLONGED SOUND MARK,",
    " ITERATION MARK, VOICED ITERATION MARK, DIGRAPH KOTO)"]⟩,
  ⟨0x3105, ["BOPOMOFO LETTER (B,P,M,F,D,T,N,L,G,K,H,J,Q,X,ZH,CH,SH,R,Z,C,S,A,O,E,EH,AI,EI,AU,OU,",
    "AN,EN,ANG,ENG,ER,I,U,IU,V,NG,GN,IH,O WITH DOT ABOVE,NN)"]⟩,
  ⟨0x3131, ["HANGUL (LETTER (KIYEOK,SSANGKIYEOK,KIYEOK-SIOS,NIEUN(,-CIEUC,-HIEUH),TIKEUT,",
    "SSANGTIKEUT,RIEUL(,-(KIYEOK,MIEUM,PIEUP,SIOS,THIEUTH,PHIEUPH,HIEUH)),MIEUM,PIEUP,SSANGPIEUP,",
    "PIEUP-SIOS,SIOS,SSANGSIOS,IEUNG,CIEUC,SSANGCIEUC,CHIEUCH,KHIEUKH,THIEUTH,PHIEUPH,HIEUH,A,AE,",
    "YA,YAE,EO,E,YEO,YE,O,WA,WAE,OE,YO,U,WEO,WE,WI,YU,EU,YI,I),FILLER,LETTER (SSANGNIEUN,NIEUN-(",
    "TIKEUT,SIOS,PANSIOS),RIEUL-(KIYEOK-SIOS,TIKEUT,PIEUP-SIOS,PANSIOS,YEORINHIEUH),MIEUM-(PIEUP,",
    "SIOS,PANSIOS),KAPYEOUNMIEUM,PIEUP-(KIYEOK,TIKEUT,SIOS-(KIYEOK,TIKEUT),CIEUC,THIEUTH),",
    "KAPYEOUNPIEUP,KAPYEOUNSSANGPIEUP,SIOS-(KIYEOK,NIEUN,TIKEUT,PIEUP,CIEUC),PANSIOS,SSANGIEUNG,",
    "YESIEUNG(,-SIOS,-PANSIOS),KAPYEOUNPHIEUPH,SSANGHIEUH,YEORINHIEUH,YO-(YA,YAE,I),YU-(YEO,YE,I),",
    "ARAEA,ARAEAE))"]⟩,
  ⟨0x3190, ["IDEOGRAPHIC ANNOTATION (LINKING MARK,REVERSE MARK,ONE MARK,TWO MARK,THREE MARK,",
    "FOUR MARK,TOP MARK,MIDDLE MARK,BOTTOM MARK,FIRST MARK,SECOND MARK,THIRD MARK,FOURTH MARK,",
    "HEAVEN MARK,EARTH MARK,MAN MARK),BOPOMOFO (LETTER (BU,ZI,JI,GU,EE,ENN,OO,ONN,IR,ANN,INN,UNN,",
    "IM,NGG,AINN,AUNN,AM,OM,ONG,INNN),FINAL LETTER (P,T,K,H),LETTER (GH,LH,ZY),FINAL LETTER G,",
    "LETTER (GW,KW,OE,AH)),CJK STROKE (T,WG,XG,BXG,SW,HZZ,HZG,HP,HZWG,SZWG,HZT,HZZP,HPWG,HZW,HZZZ,",
    "N,H,S,P,SP,D,HZ,HG,SZ,SWZ,ST,SG,PD,PZ,TN,SZZ,SWG,HXWG,HZZZG,PG,Q)"]⟩,
  ⟨0x31F0, ["KATAKANA LETTER SMALL (KU,SI,SU,TO,NU,HA,HI,HU,HE,HO,MU,RA,RI,RU,RE,RO),",
    "PARENTHESIZED (HANGUL (KIYEOK,NIEUN,TIKEUT,RIEUL,MIEUM,PIEUP,SIOS,IEUNG,CIEUC,CHIEUCH,",
    "KHIEUKH,THIEUTH,PHIEUPH,HIEUH,KIYEOK A,NIEUN A,TIKEUT A,RIEUL A,MIEUM A,PIEUP A,SIOS A,",
    "IEUNG A,CIEUC A,CHIEUCH A,KHIEUKH A,THIEUTH A,PHIEUPH A,HIEUH A,CIEUC U),KOREAN CHARACTER (",
    "OJEON,O HU))"]⟩,
  ⟨0x3220, ["PARENTHESIZED IDEOGRAPH (ONE,TWO,THREE,FOUR,FIVE,SIX,SEVEN,EIGHT,NINE,TEN,MOON,FIRE,",
    "WATER,WOOD,METAL,EARTH,SUN,STOCK,HAVE,SOCIETY,NAME,SPECIAL,FINANCIAL,CONGRATULATION,LABOR,",
    "REPRESENT,CALL,STUDY,SUPERVISE,ENTERPRISE,RESOURCE,ALLIANCE,FESTIVAL,REST,SELF,REACH),",
    "CIRCLED (IDEOGRAPH (QUESTION,KINDERGARTEN,SCHOOL,KOTO),NUMBER (TEN ON BLACK SQUARE,",
    "TWENTY ON BLACK SQUARE,THIRTY ON BLACK SQUARE,FORTY ON BLACK SQUARE,FIFTY ON BLACK SQUARE,",
    "SIXTY ON BLACK SQUARE,SEVENTY ON BLACK SQUARE,EIGHTY ON BLACK SQUARE)),PARTNERSHIP SIGN,",
    "CIRCLED (NUMBER (TWENTY (ONE,TWO,THREE,FOUR,FIVE,SIX,SEVEN,EIGHT,NINE),THIRTY(, (ONE,TWO,",
    "THREE,FOUR,FIVE))),HANGUL (KIYEOK,NIEUN,TIKEUT,RIEUL,MIEUM,PIEUP,SIOS,IEUNG,CIEUC,CHIEUCH,",
    "KHIEUKH,THIEUTH,PHIEUPH,HIEUH,KIYEOK A,NIEUN A,TIKEUT A,RIEUL A,MIEUM A,PIEUP A,SIOS A,",
    "IEUNG A,CIEUC A,CHIEUCH A,KHIEUKH A,THIEUTH A,PHIEUPH A,HIEUH A),KOREAN CHARACTER (CHAMKO,",
    "JUEUI),HANGUL IEUNG U),KOREAN STANDARD SYMBOL,CIRCLED (IDEOGRAPH (ONE,TWO,THREE,FOUR,FIVE,",
    "SIX,SEVEN,EIGHT,NINE,TEN,MOON,FIRE,WATER,WOOD,METAL,EARTH,SUN,STOCK,HAVE,SOCIETY,NAME,",
    "SPECIAL,FINANCIAL,CONGRATULATION,LABOR,SECRET,MALE,FEMALE,SUITABLE,EXCELLENT,PRINT,ATTENTION,",
    "ITEM,REST,COPY,CORRECT,HIGH,CENTRE,LOW,LEFT,RIGHT,MEDICINE,RELIGION,STUDY,SUPERVISE,",
    "ENTERPRISE,RESOURCE,ALLIANCE,NIGHT),NUMBER (THIRTY (SIX,SEVEN,EIGHT,NINE),FORTY(, (ONE,TWO,",
    "THREE,FOUR,FIVE,SIX,SEVEN,EIGHT,NINE)),FIFTY)),IDEOGRAPHIC TELEGRAPH SYMBOL FOR (JANUARY,",
    "FEBRUARY,MARCH,APRIL,MAY,JUNE,JULY,AUGUST,SEPTEMBER,OCTOBER,NOVEMBER,DECEMBER),SQUARE (HG,",
    "ERG,EV),LIMITED LIABILITY SIGN,CIRCLED KATAKANA (A,I,U,E,O,KA,KI,KU,KE,KO,SA,SI,SU,SE,SO,TA,",
    "TI,TU,TE,TO,NA,NI,NU,NE,NO,HA,HI,HU,HE,HO,MA,MI,MU,ME,MO,YA,YU,YO,RA,RI,RU,RE,RO,WA,WI,WE,",
    "WO),SQUARE (ERA NAME REIWA,APAATO,ARUHUA,ANPEA,AARU,ININGU,INTI,UON,ESUKUUDO,EEKAA,ONSU,OOMU,",
    "KAIRI,KARATTO,KARORII,GARON,GANMA,GIGA,GINII,KYURII,GIRUDAA,KIRO,KIROGURAMU,KIROMEETORU,",
    "KIROWATTO,GURAMU,GURAMUTON,KURUZEIRO,KUROONE,KEESU,KORUNA,KOOPO,SAIKURU,SANTIIMU,SIRINGU,",
    "SENTI,SENTO,DAASU,DESI,DORU,TON,NANO,NOTTO,HAITU,PAASENTO,PAATU,BAARERU,PIASUTORU,PIKURU,",
    "PIKO,BIRU,HUARADDO,HUIITO,BUSSYERU,HURAN,HEKUTAARU,PESO,PENIHI,HERUTU,PENSU,PEEZI,BEETA,",
    "POINTO,BORUTO,HON,PONDO,HOORU,HOON,MAIKURO,MAIRU,MAHHA,MARUKU,MANSYON,MIKURON,MIRI,MIRIBAARU,",
    "MEGA,MEGATON,MEETORU,YAADO,YAARU,YUAN,RITTORU,RIRA,RUPII,RUUBURU,REMU,RENTOGEN,WATTO),",
    "IDEOGRAPHIC TELEGRAPH SYMBOL FOR HOUR (ZERO,ONE,TWO,THREE,FOUR,FIVE,SIX,SEVEN,EIGHT,NINE,TEN,",
    "ELEVEN,TWELVE,THIRTEEN,FOURTEEN,FIFTEEN,SIXTEEN,SEVENTEEN,EIGHTEEN,NINETEEN,TWENTY(,-(ONE,",
    "TWO,THREE,FOUR))),SQUARE (HPA,DA,AU,BAR,OV,PC,DM(, SQUARED, CUBED),IU,ERA NAME (HEISEI,",
    "SYOUWA,TAISYOU,MEIZI),CORPORATION,PA AMPS,NA,MU A,MA,KA,KB,MB,GB,CAL,KCAL,PF,NF,MU (F,G),MG,",
    "KG,HZ,KHZ,MHZ,GHZ,THZ,MU L,ML,DL,KL,FM,NM,MU M,MM,CM,KM,MM SQUARED,CM SQUARED,M SQUARED,",
    "KM SQUARED,MM CUBED,CM CUBED,M CUBED,KM CUBED,M OVER S(, SQUARED),PA,KPA,MPA,GPA,RAD(,",
    " OVER S(, SQUARED)),PS,NS,MU S,MS,PV,NV,MU V,MV,KV,MV MEGA,PW,NW,MU W,MW,KW,MW MEGA,K OHM,",
    "M OHM,AM,BQ,CC,CD,C OVER KG,CO,DB,GY,HA,HP,IN,KK,KM CAPITAL,KT,LM,LN,LOG,LX,MB SMALL,MIL,MOL,",
    "PH,PM,PPM,PR,SR,SV,WB,V OVER M,A OVER M),IDEOGRAPHIC TELEGRAPH SYMBOL FOR DAY (ONE,TWO,THREE,",
    "FOUR,FIVE,SIX,SEVEN,EIGHT,NINE,TEN,ELEVEN,TWELVE,THIRTEEN,FOURTEEN,FIFTEEN,SIXTEEN,SEVENTEEN,",
    "EIGHTEEN,NINETEEN,TWENTY(,-(ONE,TWO,THREE,FOUR,FIVE,SIX,SEVEN,EIGHT,NINE)),THIRTY(,-ONE)),",
    "SQUARE GAL"]⟩,
  ⟨0x4DC0, ["HEXAGRAM FOR (THE (CREATIVE HEAVEN,RECEPTIVE EARTH),DIFFICULTY AT THE BEGINNING,",
    "YOUTHFUL FOLLY,WAITING,CONFLICT,THE ARMY,HOLDING TOGETHER,SMALL TAMING,TREADING,PEACE,",
    "STANDSTILL,FELLOWSHIP,GREAT POSSESSION,MODESTY,ENTHUSIASM,FOLLOWING,WORK ON THE DECAYED,",
    "APPROACH,CONTEMPLATION,BITING THROUGH,GRACE,SPLITTING APART,RETURN,INNOCENCE,GREAT TAMING,",
    "MOUTH CORNERS,GREAT PREPONDERANCE,THE (ABYSMAL WATER,CLINGING FIRE),INFLUENCE,DURATION,",
    "RETREAT,GREAT POWER,PROGRESS,DARKENING OF THE LIGHT,THE FAMILY,OPPOSITION,OBSTRUCTION,",
    "DELIVERANCE,DECREASE,INCREASE,BREAKTHROUGH,COMING TO MEET,GATHERING TOGETHER,PUSHING UPWARD,",
    "OPPRESSION,THE WELL,REVOLUTION,THE (CAULDRON,AROUSING THUNDER,KEEPING STILL MOUNTAIN),",
    "DEVELOPMENT,THE MARRYING MAIDEN,ABUNDANCE,THE (WANDERER,GENTLE WIND,JOYOUS LAKE),DISPERSION,",
    "LIMITATION,INNER TRUTH,SMALL PREPONDERANCE,AFTER COMPLETION,BEFORE COMPLETION)"]⟩,
  ⟨0xA000, ["YI SYLLABLE (IT,IX,I,IP,IET,IEX,IE,IEP,AT,AX,A,AP,UOX,UO,UOP,OT,OX,O,OP,EX,E,WU,BIT,",
    "BIX,BI,BIP,BIET,BIEX,BIE,BIEP,BAT,BAX,BA,BAP,BUOX,BUO,BUOP,BOT,BOX,BO,BOP,BEX,BE,BEP,BUT,BUX,",
    "BU,BUP,BURX,BUR,BYT,BYX,BY,BYP,BYRX,BYR,PIT,PIX,PI,PIP,PIEX,PIE,PIEP,PAT,PAX,PA,PAP,PUOX,PUO,",
    "PUOP,POT,POX,PO,POP,PUT,PUX,PU,PUP,PURX,PUR,PYT,PYX,PY,PYP,PYRX,PYR,BBIT,BBIX,BBI,BBIP,BBIET,",
    "BBIEX,BBIE,BBIEP,BBAT,BBAX,BBA,BBAP,BBUOX,BBUO,BBUOP,BBOT,BBOX,BBO,BBOP,BBEX,BBE,BBEP,BBUT,",
    "BBUX,BBU,BBUP,BBURX,BBUR,BBYT,BBYX,BBY,BBYP,NBIT,NBIX,NBI,NBIP,NBIEX,NBIE,NBIEP,NBAT,NBAX,",
    "NBA,NBAP,NBOT,NBOX,NBO,NBOP,NBUT,NBUX,NBU,NBUP,NBURX,NBUR,NBYT,NBYX,NBY,NBYP,NBYRX,NBYR,HMIT,",
    "HMIX,HMI,HMIP,HMIEX,HMIE,HMIEP,HMAT,HMAX,HMA,HMAP,HMUOX,HMUO,HMUOP,HMOT,HMOX,HMO,HMOP,HMUT,",
    "HMUX,HMU,HMUP,HMURX,HMUR,HMYX,HMY,HMYP,HMYRX,HMYR,MIT,MIX,MI,MIP,MIEX,MIE,MIEP,MAT,MAX,MA,",
    "MAP,MUOT,MUOX,MUO,MUOP,MOT,MOX,MO,MOP,MEX,ME,MUT,MUX,MU,MUP,MURX,MUR,MYT,MYX,MY,MYP,FIT,FIX,",
    "FI,FIP,FAT,FAX,FA,FAP,FOX,FO,FOP,FUT,FUX,FU,FUP,FURX,FUR,FYT,FYX,FY,FYP,VIT,VIX,VI,VIP,VIET,",
    "VIEX,VIE,VIEP,VAT,VAX,VA,VAP,VOT,VOX,VO,VOP,VEX,VEP,VUT,VUX,VU,VUP,VURX,VUR,VYT,VYX,VY,VYP,",
    "VYRX,VYR,DIT,DIX,DI,DIP,DIEX,DIE,DIEP,DAT,DAX,DA,DAP,DUOX,DUO,DOT,DOX,DO,DOP,DEX,DE,DEP,DUT,",
    "DUX,DU,DUP,DURX,DUR,TIT,TIX,TI,TIP,TIEX,TIE,TIEP,TAT,TAX,TA,TAP,TUOT,TUOX,TUO,TUOP,TOT,TOX,",
    "TO,TOP,TEX,TE,TEP,TUT,TUX,TU,TUP,TURX,TUR,DDIT,DDIX,DDI,DDIP,DDIEX,DDIE,DDIEP,DDAT,DDAX,DDA,",
    "DDAP,DDUOX,DDUO,DDUOP,DDOT,DDOX,DDO,DDOP,DDEX,DDE,DDEP,DDUT,DDUX,DDU,DDUP,DDURX,DDUR,NDIT,",
    "NDIX,NDI,NDIP,NDIEX,NDIE,NDAT,NDAX,NDA,NDAP,NDOT,NDOX,NDO,NDOP,NDEX,NDE,NDEP,NDUT,NDUX,NDU,",
    "NDUP,NDURX,NDUR,HNIT,HNIX,HNI,HNIP,HNIET,HNIEX,HNIE,HNIEP,HNAT,HNAX,HNA,HNAP,HNUOX,HNUO,HNOT,",
    "HNOX,HNOP,HNEX,HNE,HNEP,HNUT,NIT,NIX,NI,NIP,NIEX,NIE,NIEP,NAX,NA,NAP,NUOX,NUO,NUOP,NOT,NOX,",
    "NO,NOP,NEX,NE,NEP,NUT,NUX,NU,NUP,NURX,NUR,HLIT,HLIX,HLI,HLIP,HLIEX,HLIE,HLIEP,HLAT,HLAX,HLA,",
    "HLAP,HLUOX,HLUO,HLUOP,HLOX,HLO,HLOP,HLEX,HLE,HLEP,HLUT,HLUX,HLU,HLUP,HLURX,HLUR,HLYT,HLYX,",
    "HLY,HLYP,HLYRX,HLYR,LIT,LIX,LI,LIP,LIET,LIEX,LIE,LIEP,LAT,LAX,LA,LAP,LUOT,LUOX,LUO,LUOP,LOT,",
    "LOX,LO,LOP,LEX,LE,LEP,LUT,LUX,LU,LUP,LURX,LUR,LYT,LYX,LY,LYP,LYRX,LYR,GIT,GIX,GI,GIP,GIET,",
    "GIEX,GIE,GIEP,GAT,GAX,GA,GAP,GUOT,GUOX,GUO,GUOP,GOT,GOX,GO,GOP,GET,GEX,GE,GEP,GUT,GUX,GU,GUP,",
    "GURX,GUR,KIT,KIX,KI,KIP,KIEX,KIE,KIEP,KAT,KAX,KA,KAP,KUOX,KUO,KUOP,KOT,KOX,KO,KOP,KET,KEX,KE,",
    "KEP,KUT,KUX,KU,KUP,KURX,KUR,GGIT,GGIX,GGI,GGIEX,GGIE,GGIEP,GGAT,GGAX,GGA,GGAP,GGUOT,GGUOX,",
    "GGUO,GGUOP,GGOT,GGOX,GGO,GGOP,GGET,GGEX,GGE,GGEP,GGUT,GGUX,GGU,GGUP,GGURX,GGUR,MGIEX,MGIE,",
    "MGAT,MGAX,MGA,MGAP,MGUOX,MGUO,MGUOP,MGOT,MGOX,MGO,MGOP,MGEX,MGE,MGEP,MGUT,MGUX,MGU,MGUP,",
    "MGURX,MGUR,HXIT,HXIX,HXI,HXIP,HXIET,HXIEX,HXIE,HXIEP,HXAT,HXAX,HXA,HXAP,HXUOT,HXUOX,HXUO,",
    "HXUOP,HXOT,HXOX,HXO,HXOP,HXEX,HXE,HXEP,NGIEX,NGIE,NGIEP,NGAT,NGAX,NGA,NGAP,NGUOT,NGUOX,NGUO,",
    "NGOT,NGOX,NGO,NGOP,NGEX,NGE,NGEP,HIT,HIEX,HIE,HAT,HAX,HA,HAP,HUOT,HUOX,HUO,HUOP,HOT,HOX,HO,",
    "HOP,HEX,HE,HEP,WAT,WAX,WA,WAP,WUOX,WUO,WUOP,WOX,WO,WOP,WEX,WE,WEP,ZIT,ZIX,ZI,ZIP,ZIEX,ZIE,",
    "ZIEP,ZAT,ZAX,ZA,ZAP,ZUOX,ZUO,ZUOP,ZOT,ZOX,ZO,ZOP,ZEX,ZE,ZEP,ZUT,ZUX,ZU,ZUP,ZURX,ZUR,ZYT,ZYX,",
    "ZY,ZYP,ZYRX,ZYR,CIT,CIX,CI,CIP,CIET,CIEX,CIE,CIEP,CAT,CAX,CA,CAP,CUOX,CUO,CUOP,COT,COX,CO,",
    "COP,CEX,CE,CEP,CUT,CUX,CU,CUP,CURX,CUR,CYT,CYX,CY,CYP,CYRX,CYR,ZZIT,ZZIX,ZZI,ZZIP,ZZIET,",
    "ZZIEX,ZZIE,ZZIEP,ZZAT,ZZAX,ZZA,ZZAP,ZZOX,ZZO,ZZOP,ZZEX,ZZE,ZZEP,ZZUX,ZZU,ZZUP,ZZURX,ZZUR,",
    "ZZYT,ZZYX,ZZY,ZZYP,ZZYRX,ZZYR,NZIT,NZIX,NZI,NZIP,NZIEX,NZIE,NZIEP,NZAT,NZAX,NZA,NZAP,NZUOX,",
    "NZUO,NZOX,NZOP,NZEX,NZE,NZUX,NZU,NZUP,NZURX,NZUR,NZYT,NZYX,NZY,NZYP,NZYRX,NZYR,SIT,SIX,SI,",
    "SIP,SIEX,SIE,SIEP,SAT,SAX,SA,SAP,SUOX,SUO,SUOP,SOT,SOX,SO,SOP,SEX,SE,SEP,SUT,SUX,SU,SUP,SURX,",
    "SUR,SYT,SYX,SY,SYP,SYRX,SYR,SSIT,SSIX,SSI,SSIP,SSIEX,SSIE,SSIEP,SSAT,SSAX,SSA,SSAP,SSOT,SSOX,",
    "SSO,SSOP,SSEX,SSE,SSEP,SSUT,SSUX,SSU,SSUP,SSYT,SSYX,SSY,SSYP,SSYRX,SSYR,ZHAT,ZHAX,ZHA,ZHAP,",
    "ZHUOX,ZHUO,ZHUOP,ZHOT,ZHOX,ZHO,ZHOP,ZHET,ZHEX,ZHE,ZHEP,ZHUT,ZHUX,ZHU,ZHUP,ZHURX,ZHUR,ZHYT,",
    "ZHYX,ZHY,ZHYP,ZHYRX,ZHYR,CHAT,CHAX,CHA,CHAP,CHUOT,CHUOX,CHUO,CHUOP,CHOT,CHOX,CHO,CHOP,CHET,",
    "CHEX,CHE,CHEP,CHUX,CHU,CHUP,CHURX,CHUR,CHYT,CHYX,CHY,CHYP,CHYRX,CHYR,RRAX,RRA,RRUOX,RRUO,",
    "RROT,RROX,RRO,RROP,RRET,RREX,RRE,RREP,RRUT,RRUX,RRU,RRUP,RRURX,RRUR,RRYT,RRYX,RRY,RRYP,RRYRX,",
    "RRYR,NRAT,NRAX,NRA,NRAP,NROX,NRO,NROP,NRET,NREX,NRE,NREP,NRUT,NRUX,NRU,NRUP,NRURX,NRUR,NRYT,",
    "NRYX,NRY,NRYP,NRYRX,NRYR,SHAT,SHAX,SHA,SHAP,SHUOX,SHUO,SHUOP,SHOT,SHOX,SHO,SHOP,SHET,SHEX,",
    "SHE,SHEP,SHUT,SHUX,SHU,SHUP,SHURX,SHUR,SHYT,SHYX,SHY,SHYP,SHYRX,SHYR,RAT,RAX,RA,RAP,RUOX,RUO,",
    "RUOP,ROT,ROX,RO,ROP,REX,RE,REP,RUT,RUX,RU,RUP,RURX,RUR,RYT,RYX,RY,RYP,RYRX,RYR,JIT,JIX,JI,",
    "JIP,JIET,JIEX,JIE,JIEP,JUOT,JUOX,JUO,JUOP,JOT,JOX,JO,JOP,JUT,JUX,JU,JUP,JURX,JUR,JYT,JYX,JY,",
    "JYP,JYRX,JYR,QIT,QIX,QI,QIP,QIET,QIEX,QIE,QIEP,QUOT,QUOX,QUO,QUOP,QOT,QOX,QO,QOP,QUT,QUX,QU,",
    "QUP,QURX,QUR,QYT,QYX,QY,QYP,QYRX,QYR,JJIT,JJIX,JJI,JJIP,JJIET,JJIEX,JJIE,JJIEP,JJUOX,JJUO,",
    "JJUOP,JJOT,JJOX,JJO,JJOP,JJUT,JJUX,JJU,JJUP,JJURX,JJUR,JJYT,JJYX,JJY,JJYP,NJIT,NJIX,NJI,NJIP,",
    "NJIET,NJIEX,NJIE,NJIEP,NJUOX,NJUO,NJOT,NJOX,NJO,NJOP,NJUX,NJU,NJUP,NJURX,NJUR,NJYT,NJYX,NJY,",
    "NJYP,NJYRX,NJYR,NYIT,NYIX,NYI,NYIP,NYIET,NYIEX,NYIE,NYIEP,NYUOX,NYUO,NYUOP,NYOT,NYOX,NYO,",
    "NYOP,NYUT,NYUX,NYU,NYUP,XIT,XIX,XI,XIP,XIET,XIEX,XIE,XIEP,XUOX,XUO,XOT,XOX,XO,XOP,XYT,XYX,XY,",
    "XYP,XYRX,XYR,YIT,YIX,YI,YIP,YIET,YIEX,YIE,YIEP,YUOT,YUOX,YUO,YUOP,YOT,YOX,YO,YOP,YUT,YUX,YU,",
    "YUP,YURX,YUR,YYT,YYX,YY,YYP,YYRX,YYR)"]⟩,
  ⟨0xA490, ["YI RADICAL (QOT,LI,KIT,NYIP,CYP,SSI,GGOP,GEP,MI,HXIT,LYR,BBUT,MOP,YO,PUT,HXUO,TAT,GA,",
    "ZUP,CYT,DDUR,BUR,GGUO,NYOP,TU,OP,JJUT,ZOT,PYT,HMO,YIT,VUR,SHY,VEP,ZA,JO,NZUP,JJY,GOT,JJIE,WO,",
    "DU,SHUR,LIE,CY,CUOP,CIP,HXOP,SHAT,ZUR,SHOP,CHE,ZZIET,NBIE,KE)"]⟩,
  ⟨0xA4D0, ["LISU (LETTER (BA,PA,PHA,DA,TA,THA,GA,KA,KHA,JA,CA,CHA,DZA,TSA,TSHA,MA,NA,LA,SA,ZHA,",
    "ZA,NGA,HA,XA,HHA,FA,WA,SHA,YA,GHA,A,AE,E,EU,I,O,U,UE,UH,OE,TONE (MYA TI,NA PO,MYA (CYA,BO,NA,",
    "JEU))),PUNCTUATION (COMMA,FULL STOP)),VAI (SYLLABLE (EE,EEN,HEE,WEE,WEEN,PEE,BHEE,BEE,MBEE,",
    "KPEE,MGBEE,GBEE,FEE,VEE,TEE,THEE,DHEE,DHHEE,LEE,REE,DEE,NDEE,SEE,SHEE,ZEE,ZHEE,CEE,JEE,NJEE,",
    "YEE,KEE,NGGEE,GEE,MEE,NEE,NYEE,I,IN,HI,HIN,WI,WIN,PI,BHI,BI,MBI,KPI,MGBI,GBI,FI,VI,TI,THI,",
    "DHI,DHHI,LI,RI,DI,NDI,SI,SHI,ZI,ZHI,CI,JI,NJI,YI,KI,NGGI,GI,MI,NI,NYI,A,AN,NGAN,HA,HAN,WA,",
    "WAN,PA,BHA,BA,MBA,KPA,KPAN,MGBA,GBA,FA,VA,TA,THA,DHA,DHHA,LA,RA,DA,NDA,SA,SHA,ZA,ZHA,CA,JA,",
    "NJA,YA,KA,KAN,NGGA,GA,MA,NA,NYA,OO,OON,HOO,WOO,WOON,POO,BHOO,BOO,MBOO,KPOO,MGBOO,GBOO,FOO,",
    "VOO,TOO,THOO,DHOO,DHHOO,LOO,ROO,DOO,NDOO,SOO,SHOO,ZOO,ZHOO,COO,JOO,NJOO,YOO,KOO,NGGOO,GOO,",
    "MOO,NOO,NYOO,U,UN,HU,HUN,WU,WUN,PU,BHU,BU,MBU,KPU,MGBU,GBU,FU,VU,TU,THU,DHU,DHHU,LU,RU,DU,",
    "NDU,SU,SHU,ZU,ZHU,CU,JU,NJU,YU,KU,NGGU,GU,MU,NU,NYU,O,ON,NGON,HO,HON,WO,WON,PO,BHO,BO,MBO,",
    "KPO,MGBO,GBO,GBON,FO,VO,TO,THO,DHO,DHHO,LO,RO,DO,NDO,SO,SHO,ZO,ZHO,CO,JO,NJO,YO,KO,NGGO,GO,",
    "MO,NO,NYO,E,EN,NGEN,HE,HEN,WE,WEN,PE,BHE,BE,MBE,KPE,KPEN,MGBE,GBE,GBEN,FE,VE,TE,THE,DHE,DHHE,",
    "LE,RE,DE,NDE,SE,SHE,ZE,ZHE,CE,JE,NJE,YE,KE,NGGE,NGGEN,GE,GEN,ME,NE,NYE,NG,LENGTHENER),COMMA,",
    "FULL STOP,QUESTION MARK,SYLLABLE NDOLE (FA,KA,SOO),SYMBOL (FEENG,KEENG,TING,NII,BANG,FAA,TAA,",
    "DANG,DOONG,KUNG,TONG,DO-O,JONG),DIGIT (ZERO,ONE,TWO,THREE,FOUR,FIVE,SIX,SEVEN,EIGHT,NINE),",
    "SYLLABLE NDOLE (MA,DO))"]⟩]

end CharacterName
end Text
end Reckoner
