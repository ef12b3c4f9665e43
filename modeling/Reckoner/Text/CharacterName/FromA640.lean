import Reckoner.Text.CharacterName.Outline

/-!
# Names from U+A640 on

The names of the characters from U+A640 to U+FB4F, as outlines.
-/

namespace Reckoner
namespace Text
namespace CharacterName

/-- Names of the characters from U+A640 to U+FB4F. -/
def fromA640 : List Outline := [
  ⟨0xA640, ["CYRILLIC (CAPITAL LETTER ZEMLYA,SMALL LETTER ZEMLYA,CAPITAL LETTER DZELO,",
    "SMALL LETTER DZELO,CAPITAL LETTER REVERSED DZE,SMALL LETTER REVERSED DZE,CAPITAL LETTER IOTA,",
    "SMALL LETTER IOTA,CAPITAL LETTER DJERV,SMALL LETTER DJERV,CAPITAL LETTER MONOGRAPH UK,",
    "SMALL LETTER MONOGRAPH UK,CAPITAL LETTER BROAD OMEGA,SMALL LETTER BROAD OMEGA,",
    "CAPITAL LETTER NEUTRAL YER,SMALL LETTER NEUTRAL YER,CAPITAL LETTER YERU WITH BACK YER,",
    "SMALL LETTER YERU WITH BACK YER,CAPITAL LETTER IOTIFIED YAT,SMALL LETTER IOTIFIED YAT,",
    "CAPITAL LETTER REVERSED YU,SMALL LETTER REVERSED YU,CAPITAL LETTER IOTIFIED A,",
    "SMALL LETTER IOTIFIED A,CAPITAL LETTER CLOSED LITTLE YUS,SMALL LETTER CLOSED LITTLE YUS,",
    "CAPITAL LETTER BLENDED YUS,SMALL LETTER BLENDED YUS,",
    "CAPITAL LETTER IOTIFIED CLOSED LITTLE YUS,SMALL LETTER IOTIFIED CLOSED LITTLE YUS,",
    "CAPITAL LETTER YN,SMALL LETTER YN,CAPITAL LETTER REVERSED TSE,SMALL LETTER REVERSED TSE,",
    "CAPITAL LETTER SOFT DE,SMALL LETTER SOFT DE,CAPITAL LETTER SOFT EL,SMALL LETTER SOFT EL,",
    "CAPITAL LETTER SOFT EM,SMALL LETTER SOFT EM,CAPITAL LETTER MONOCULAR O,",
    "SMALL LETTER MONOCULAR O,CAPITAL LETTER BINOCULAR O,SMALL LETTER BINOCULAR O,",
    "CAPITAL LETTER DOUBLE MONOCULAR O,SMALL LETTER DOUBLE MONOCULAR O,LETTER MULTIOCULAR O),",
    "COMBINING CYRILLIC (VZMET,TEN MILLIONS SIGN,HUNDRED MILLIONS SIGN,THOUSAND MILLIONS SIGN),",
    "SLAVONIC ASTERISK,COMBINING CYRILLIC (LETTER (UKRAINIAN IE,I,YI,U,HARD SIGN,YERU,SOFT SIGN,",
    "OMEGA),KAVYKA,PAYEROK),CYRILLIC (KAVYKA,PAYEROK,CAPITAL LETTER DWE,SMALL LETTER DWE,",
    "CAPITAL LETTER DZWE,SMALL LETTER DZWE,CAPITAL LETTER ZHWE,SMALL LETTER ZHWE,",
    "CAPITAL LETTER CCHE,SMALL LETTER CCHE,CAPITAL LETTER DZZE,SMALL LETTER DZZE,",
    "CAPITAL LETTER TE WITH MIDDLE HOOK,SMALL LETTER TE WITH MIDDLE HOOK,CAPITAL LETTER TWE,",
    "SMALL LETTER TWE,CAPITAL LETTER TSWE,SMALL LETTER TSWE,CAPITAL LETTER TSSE,SMALL LETTER TSSE,",
    "CAPITAL LETTER TCHE,SMALL LETTER TCHE,CAPITAL LETTER HWE,SMALL LETTER HWE,",
    "CAPITAL LETTER SHWE,SMALL LETTER SHWE,CAPITAL LETTER DOUBLE O,SMALL LETTER DOUBLE O,",
    "CAPITAL LETTER CROSSED O,SMALL LETTER CROSSED O),MODIFIER LETTER CYRILLIC (HARD SIGN,",
    "SOFT SIGN),COMBINING CYRILLIC LETTER (EF,IOTIFIED E),BAMUM (LETTER (A,KA,U,KU,EE,REE,TAE,O,",
    "NYI,I,LA,PA,RII,RIEE,LEEEE,MEEEE,TAA,NDAA,NJAEM,M,SUU,MU,SHII,SI,SHEUX,SEUX,KYEE,KET,NUAE,NU,",
    "NJUAE,YOQ,SHU,YUQ,YA,NSHA,KEUX,PEUX,NJEE,NTEE,PUE,WUE,PEE,FEE,RU,LU,MI,NI,REUX,RAE,KEN,",
    "NGKWAEN,NGGA,NGA,SHO,PUAE,FU,FOM,WA,NA,LI,PI,LOQ,KO,MBEN,REN,MEN,MA,TI,KI,MO,MBAA,TET,KPA,",
    "TEN,NTUU,SAMBA,FAAMAE,KOVUU,KOGHOM),COMBINING MARK (KOQNDON,TUKWENTIS),NJAEMLI,FULL STOP,",
    "COLON,COMMA,SEMICOLON,QUESTION MARK)"]⟩,
  ⟨0xA700, ["MODIFIER LETTER (CHINESE TONE (YIN PING,YANG PING,YIN SHANG,YANG SHANG,YIN QU,",
    "YANG QU,YIN RU,YANG RU),EXTRA-HIGH DOTTED TONE BAR,HIGH DOTTED TONE BAR,MID DOTTED TONE BAR,",
    "LOW DOTTED TONE BAR,EXTRA-(LOW DOTTED TONE BAR,HIGH DOTTED LEFT-STEM TONE BAR),",
    "HIGH DOTTED LEFT-STEM TONE BAR,MID DOTTED LEFT-STEM TONE BAR,LOW DOTTED LEFT-STEM TONE BAR,",
    "EXTRA-(LOW DOTTED LEFT-STEM TONE BAR,HIGH LEFT-STEM TONE BAR),HIGH LEFT-STEM TONE BAR,",
    "MID LEFT-STEM TONE BAR,LOW LEFT-STEM TONE BAR,EXTRA-LOW LEFT-STEM TONE BAR,DOT (VERTICAL BAR,",
    "SLASH,HORIZONTAL BAR),LOWER RIGHT CORNER ANGLE,RAISED (UP ARROW,DOWN ARROW,EXCLAMATION MARK,",
    "INVERTED EXCLAMATION MARK),LOW INVERTED EXCLAMATION MARK,STRESS AND (HIGH TONE,LOW TONE)),",
    "LATIN (CAPITAL LETTER EGYPTOLOGICAL ALEF,SMALL LETTER EGYPTOLOGICAL ALEF,",
    "CAPITAL LETTER EGYPTOLOGICAL AIN,SMALL LETTER EGYPTOLOGICAL AIN,CAPITAL LETTER HENG,",
    "SMALL LETTER HENG,CAPITAL LETTER TZ,SMALL LETTER TZ,CAPITAL LETTER TRESILLO,",
    "SMALL LETTER TRESILLO,CAPITAL LETTER CUATRILLO,SMALL LETTER CUATRILLO,",
    "CAPITAL LETTER CUATRILLO WITH COMMA,SMALL LETTER CUATRILLO WITH COMMA,LETTER SMALL CAPITAL (",
    "F,S),CAPITAL LETTER AA,SMALL LETTER AA,CAPITAL LETTER AO,SMALL LETTER AO,CAPITAL LETTER AU,",
    "SMALL LETTER AU,CAPITAL LETTER AV,SMALL LETTER AV,CAPITAL LETTER AV WITH HORIZONTAL BAR,",
    "SMALL LETTER AV WITH HORIZONTAL BAR,CAPITAL LETTER AY,SMALL LETTER AY,",
    "CAPITAL LETTER REVERSED C WITH DOT,SMALL LETTER REVERSED C WITH DOT,",
    "CAPITAL LETTER K WITH STROKE,SMALL LETTER K WITH STROKE,",
    "CAPITAL LETTER K WITH DIAGONAL STROKE,SMALL LETTER K WITH DIAGONAL STROKE,",
    "CAPITAL LETTER K WITH STROKE AND DIAGONAL STROKE,",
    "SMALL LETTER K WITH STROKE AND DIAGONAL STROKE,CAPITAL LETTER BROKEN L,SMALL LETTER BROKEN L,",
    "CAPITAL LETTER L WITH HIGH STROKE,SMALL LETTER L WITH HIGH STROKE,",
    "CAPITAL LETTER O WITH LONG STROKE OVERLAY,SMALL LETTER O WITH LONG STROKE OVERLAY,",
    "CAPITAL LETTER O WITH LOOP,SMALL LETTER O WITH LOOP,CAPITAL LETTER OO,SMALL LETTER OO,",
    "CAPITAL LETTER P WITH STROKE THROUGH DESCENDER,SMALL LETTER P WITH STROKE THROUGH DESCENDER,",
    "CAPITAL LETTER P WITH FLOURISH,SMALL LETTER P WITH FLOURISH,",
    "CAPITAL LETTER P WITH SQUIRREL TAIL,SMALL LETTER P WITH SQUIRREL TAIL,",
    "CAPITAL LETTER Q WITH STROKE THROUGH DESCENDER,SMALL LETTER Q WITH STROKE THROUGH DESCENDER,",
    "CAPITAL LETTER Q WITH DIAGONAL STROKE,SMALL LETTER Q WITH DIAGONAL STROKE,",
    "CAPITAL LETTER R ROTUNDA,SMALL LETTER R ROTUNDA,CAPITAL LETTER RUM ROTUNDA,",
    "SMALL LETTER RUM ROTUNDA,CAPITAL LETTER V WITH DIAGONAL STROKE,",
    "SMALL LETTER V WITH DIAGONAL STROKE,CAPITAL LETTER VY,SMALL LETTER VY,",
    "CAPITAL LETTER VISIGOTHIC Z,SMALL LETTER VISIGOTHIC Z,CAPITAL LETTER THORN WITH STROKE,",
    "SMALL LETTER THORN WITH STROKE,CAPITAL LETTER THORN WITH STROKE THROUGH DESCENDER,",
    "SMALL LETTER THORN WITH STROKE THROUGH DESCENDER,CAPITAL LETTER VEND,SMALL LETTER VEND,",
    "CAPITAL LETTER ET,SMALL LETTER ET,CAPITAL LETTER IS,SMALL LETTER IS,CAPITAL LETTER CON,",
    "SMALL LETTER CON),MODIFIER LETTER US,LATIN (SMALL LETTER (DUM,LUM,MUM,NUM,RUM),",
    "LETTER SMALL CAPITAL RUM,SMALL LETTER (TUM,UM),CAPITAL LETTER INSULAR D,",
    "SMALL LETTER INSULAR D,CAPITAL LETTER INSULAR F,SMALL LETTER INSULAR F,CAPITAL LETTER (",
    "INSULAR G,TURNED INSULAR G),SMALL LETTER TURNED INSULAR G,CAPITAL LETTER TURNED L,",
    "SMALL LETTER TURNED L,CAPITAL LETTER INSULAR R,SMALL LETTER INSULAR R,",
    "CAPITAL LETTER INSULAR S,SMALL LETTER INSULAR S,CAPITAL LETTER INSULAR T,",
    "SMALL LETTER INSULAR T),MODIFIER LETTER (LOW CIRCUMFLEX ACCENT,COLON,SHORT EQUALS SIGN),",
    "LATIN (CAPITAL LETTER SALTILLO,SMALL LETTER SALTILLO,CAPITAL LETTER TURNED H,",
    "SMALL LETTER L WITH RETROFLEX HOOK AND BELT,LETTER SINOLOGICAL DOT,",
    "CAPITAL LETTER N WITH DESCENDER,SMALL LETTER N WITH DESCENDER,CAPITAL LETTER C WITH BAR,",
    "SMALL LETTER (C WITH (BAR,PALATAL HOOK),H WITH PALATAL HOOK),CAPITAL LETTER B WITH FLOURISH,",
    "SMALL LETTER B WITH FLOURISH,CAPITAL LETTER F WITH STROKE,SMALL LETTER F WITH STROKE,",
    "CAPITAL LETTER VOLAPUK AE,SMALL LETTER VOLAPUK AE,CAPITAL LETTER VOLAPUK OE,",
    "SMALL LETTER VOLAPUK OE,CAPITAL LETTER VOLAPUK UE,SMALL LETTER VOLAPUK UE,",
    "CAPITAL LETTER G WITH OBLIQUE STROKE,SMALL LETTER G WITH OBLIQUE STROKE,",
    "CAPITAL LETTER K WITH OBLIQUE STROKE,SMALL LETTER K WITH OBLIQUE STROKE,",
    "CAPITAL LETTER N WITH OBLIQUE STROKE,SMALL LETTER N WITH OBLIQUE STROKE,",
    "CAPITAL LETTER R WITH OBLIQUE STROKE,SMALL LETTER R WITH OBLIQUE STROKE,",
    "CAPITAL LETTER S WITH OBLIQUE STROKE,SMALL LETTER S WITH OBLIQUE STROKE,CAPITAL LETTER (",
    "H WITH HOOK,REVERSED OPEN E,SCRIPT G,L WITH BELT,SMALL CAPITAL I),LETTER SMALL CAPITAL Q,",
    "CAPITAL LETTER (TURNED (K,T),J WITH CROSSED-TAIL,CHI,BETA),SMALL LETTER BETA,",
    "CAPITAL LETTER OMEGA,SMALL LETTER OMEGA,CAPITAL LETTER U WITH STROKE,",
    "SMALL LETTER U WITH STROKE,CAPITAL LETTER GLOTTAL A,SMALL LETTER GLOTTAL A,",
    "CAPITAL LETTER GLOTTAL I,SMALL LETTER GLOTTAL I,CAPITAL LETTER GLOTTAL U,",
    "SMALL LETTER GLOTTAL U,CAPITAL LETTER OLD POLISH O,SMALL LETTER OLD POLISH O,",
    "CAPITAL LETTER ANGLICANA W,SMALL LETTER ANGLICANA W,CAPITAL LETTER (C WITH PALATAL HOOK,",
    "S WITH HOOK,Z WITH PALATAL HOOK,D WITH SHORT STROKE OVERLAY),",
    "SMALL LETTER D WITH SHORT STROKE OVERLAY,CAPITAL LETTER S WITH SHORT STROKE OVERLAY,",
    "SMALL LETTER S WITH SHORT STROKE OVERLAY)"]⟩,
  ⟨0xA7D0, ["LATIN (CAPITAL LETTER CLOSED INSULAR G,SMALL LETTER CLOSED INSULAR G)"]⟩,
  ⟨0xA7D3, ["LATIN SMALL LETTER DOUBLE THORN"]⟩,
  ⟨0xA7D5, ["LATIN (SMALL LETTER DOUBLE WYNN,CAPITAL LETTER MIDDLE SCOTS S,",
    "SMALL LETTER MIDDLE SCOTS S,CAPITAL LETTER SIGMOID S,SMALL LETTER SIGMOID S)"]⟩,
  ⟨0xA7F2, ["MODIFIER LETTER CAPITAL (C,F,Q),LATIN (CAPITAL LETTER REVERSED HALF H,",
    "SMALL LETTER REVERSED HALF H,EPIGRAPHIC LETTER SIDEWAYS I),MODIFIER LETTER (",
    "CAPITAL H WITH STROKE,SMALL LIGATURE OE),LATIN (LETTER SMALL CAPITAL TURNED M,",
    "EPIGRAPHIC LETTER (REVERSED (F,P),INVERTED M,I LONGA,ARCHAIC M)),SYLOTI NAGRI (LETTER (A,I),",
    "SIGN DVISVARA,LETTER (U,E,O),SIGN HASANTA,LETTER (KO,KHO,GO,GHO),SIGN ANUSVARA,LETTER (CO,",
    "CHO,JO,JHO,TTO,TTHO,DDO,DDHO,TO,THO,DO,DHO,NO,PO,PHO,BO,BHO,MO,RO,LO,RRO,SO,HO),VOWEL SIGN (",
    "A,I,U,E,OO),POETRY MARK-(1,2,3,4),SIGN ALTERNATE HASANTA)"]⟩,
  ⟨0xA830, ["NORTH INDIC (FRACTION (ONE (QUARTER,HALF),THREE QUARTERS,ONE (SIXTEENTH,EIGHTH),",
    "THREE SIXTEENTHS),QUARTER MARK,PLACEHOLDER MARK,RUPEE MARK,QUANTITY MARK)"]⟩,
  ⟨0xA840, ["PHAGS-PA (LETTER (KA,KHA,GA,NGA,CA,CHA,JA,NYA,TA,THA,DA,NA,PA,PHA,BA,MA,TSA,TSHA,DZA,",
    "WA,ZHA,ZA,SMALL A,YA,RA,LA,SHA,SA,HA,A,I,U,E,O,QA,XA,FA,GGA,EE),SUBJOINED LETTER (WA,YA),",
    "LETTER (TTA,TTHA,DDA,NNA,ALTERNATE YA,VOICELESS SHA,VOICED HA,ASPIRATED FA),",
    "SUBJOINED LETTER RA,SUPERFIXED LETTER RA,LETTER CANDRABINDU,SINGLE HEAD MARK,",
    "DOUBLE HEAD MARK,MARK (SHAD,DOUBLE SHAD))"]⟩,
  ⟨0xA880, ["SAURASHTRA (SIGN (ANUSVARA,VISARGA),LETTER (A,AA,I,II,U,UU,VOCALIC (R,RR,L,LL),E,EE,",
    "AI,O,OO,AU,KA,KHA,GA,GHA,NGA,CA,CHA,JA,JHA,NYA,TTA,TTHA,DDA,DDHA,NNA,TA,THA,DA,DHA,NA,PA,PHA,",
    "BA,BHA,MA,YA,RA,LA,VA,SHA,SSA,SA,HA,LLA),CONSONANT SIGN HAARU,VOWEL SIGN (AA,I,II,U,UU,",
    "VOCALIC (R,RR,L,LL),E,EE,AI,O,OO,AU),SIGN (VIRAMA,CANDRABINDU))"]⟩,
  ⟨0xA8CE, ["SAURASHTRA (DANDA,DOUBLE DANDA,DIGIT (ZERO,ONE,TWO,THREE,FOUR,FIVE,SIX,SEVEN,EIGHT,",
    "NINE))"]⟩,
  ⟨0xA8E0, ["COMBINING DEVANAGARI (DIGIT (ZERO,ONE,TWO,THREE,FOUR,FIVE,SIX,SEVEN,EIGHT,NINE),",
    "LETTER (A,U,KA,NA,PA,RA,VI),SIGN AVAGRAHA),DEVANAGARI (SIGN (SPACING CANDRABINDU,",
    "CANDRABINDU VIRAMA,DOUBLE CANDRABINDU VIRAMA,CANDRABINDU (TWO,THREE,AVAGRAHA),PUSHPIKA),",
    "GAP FILLER,CARET,HEADSTROKE,SIGN SIDDHAM,JAIN OM,LETTER AY,VOWEL SIGN AY),KAYAH LI (DIGIT (",
    "ZERO,ONE,TWO,THREE,FOUR,FIVE,SIX,SEVEN,EIGHT,NINE),LETTER (KA,KHA,GA,NGA,SA,SHA,ZA,NYA,TA,",
    "HTA,NA,PA,PHA,MA,DA,BA,RA,YA,LA,WA,THA,HA,VA,CA,A,OE,I,OO),VOWEL (UE,E,U,EE,O),TONE (PLOPHU,",
    "CALYA(, PLOPHU)),SIGN (CWI,SHYA)),REJANG (LETTER (KA,GA,NGA,TA,DA,NA,PA,BA,MA,CA,JA,NYA,SA,",
    "RA,LA,YA,WA,HA,MBA,NGGA,NDA,NYJA,A),VOWEL SIGN (I,U,E,AI,O,AU,EU,EA),CONSONANT SIGN (NG,N,R,",
    "H),VIRAMA)"]⟩,
  ⟨0xA95F, ["REJANG SECTION MARK,HANGUL CHOSEONG (TIKEUT-(MIEUM,PIEUP,SIOS,CIEUC),RIEUL-(KIYEOK,",
    "SSANGKIYEOK,TIKEUT,SSANGTIKEUT,MIEUM,PIEUP,SSANGPIEUP,KAPYEOUNPIEUP,SIOS,CIEUC,KHIEUKH),",
    "MIEUM-(KIYEOK,TIKEUT,SIOS),PIEUP-(SIOS-THIEUTH,KHIEUKH,HIEUH),SSANGSIOS-PIEUP,IEUNG-(RIEUL,",
    "HIEUH),SSANGCIEUC-HIEUH,SSANGTHIEUTH,PHIEUPH-HIEUH,HIEUH-SIOS,SSANGYEORINHIEUH)"]⟩,
  ⟨0xA980, ["JAVANESE (SIGN (PANYANGGA,CECAK,LAYAR,WIGNYAN),LETTER (A,I KAWI,I,II,U,PA CEREK,",
    "NGA LELET(, RASWADI),E,AI,O,KA(, SASAK, MURDA),GA,GA MURDA,NGA,CA,CA MURDA,JA,NYA MURDA,",
    "JA MAHAPRANA,NYA,TTA(, MAHAPRANA),DDA(, MAHAPRANA),NA MURDA,TA,TA MURDA,DA,DA MAHAPRANA,NA,",
    "PA,PA MURDA,BA,BA MURDA,MA,YA,RA,RA AGUNG,LA,WA,SA( MURDA, MAHAPRANA,),HA),SIGN CECAK TELU,",
    "VOWEL SIGN (TARUNG,TOLONG,WULU(, MELIK),SUKU(, MENDUT),TALING,DIRGA MURE,PEPET),",
    "CONSONANT SIGN (KERET,PENGKAL,CAKRA),PANGKON,LEFT RERENGGAN,RIGHT RERENGGAN,PADA (ANDAP,",
    "MADYA,LUHUR,WINDU,PANGKAT,LINGSA,LUNGSI,ADEG(, ADEG),PISELEH),TURNED PADA PISELEH)"]⟩,
  ⟨0xA9CF, ["JAVANESE (PANGRANGKEP,DIGIT (ZERO,ONE,TWO,THREE,FOUR,FIVE,SIX,SEVEN,EIGHT,NINE))"]⟩,
  ⟨0xA9DE, ["JAVANESE PADA (TIRTA TUMETES,ISEN-ISEN),MYANMAR (LETTER SHAN (GHA,CHA,JHA,NNA,BHA),",
    "SIGN SHAN SAW,MODIFIER LETTER SHAN REDUPLICATION,LETTER TAI LAING (NYA,FA,GA,GHA,JA,JHA,DDA,",
    "DDHA,NNA),TAI LAING DIGIT (ZERO,ONE,TWO,THREE,FOUR,FIVE,SIX,SEVEN,EIGHT,NINE),",
    "LETTER TAI LAING (LLA,DA,DHA,BA,BHA))"]⟩,
  ⟨0xAA00, ["CHAM (LETTER (A,I,U,E,AI,O,KA,KHA,GA,GHA,NGUE,NGA,CHA,CHHA,JA,JHA,NHUE,NHA,NHJA,TA,",
    "THA,DA,DHA,NUE,NA,DDA,PA,PPA,PHA,BA,BHA,MUE,MA,BBA,YA,RA,LA,VA,SSA,SA,HA),VOWEL SIGN (AA,I,",
    "II,EI,U,OE,O,AI,AU,UE),CONSONANT SIGN (YA,RA,LA,WA))"]⟩,
  ⟨0xAA40, ["CHAM (LETTER FINAL (K,G,NG),CONSONANT SIGN FINAL NG,LETTER FINAL (CH,T,N,P,Y,R,L,SS),",
    "CONSONANT SIGN FINAL (M,H))"]⟩,
  ⟨0xAA50, ["CHAM DIGIT (ZERO,ONE,TWO,THREE,FOUR,FIVE,SIX,SEVEN,EIGHT,NINE)"]⟩,
  ⟨0xAA5C, ["CHAM PUNCTUATION (SPIRAL,DANDA,DOUBLE DANDA,TRIPLE DANDA),MYANMAR (LETTER KHAMTI (GA,",
    "CA,CHA,JA,JHA,NYA,TTA,TTHA,DDA,DDHA,DHA,NA,SA,HA,HHA,FA),",
    "MODIFIER LETTER KHAMTI REDUPLICATION,LETTER KHAMTI (XA,ZA,RA),LOGOGRAM KHAMTI (OAY,QN,HM),",
    "SYMBOL AITON (EXCLAMATION,ONE,TWO),LETTER AITON RA,SIGN (PAO KAREN TONE,TAI LAING TONE-(2,",
    "5)),LETTER SHWE PALAUNG (CHA,SHA)),TAI VIET (LETTER (LOW KO,HIGH KO,LOW KHO,HIGH KHO,",
    "LOW KHHO,HIGH KHHO,LOW GO,HIGH GO,LOW NGO,HIGH NGO,LOW CO,HIGH CO,LOW CHO,HIGH CHO,LOW SO,",
    "HIGH SO,LOW NYO,HIGH NYO,LOW DO,HIGH DO,LOW TO,HIGH TO,LOW THO,HIGH THO,LOW NO,HIGH NO,",
    "LOW BO,HIGH BO,LOW PO,HIGH PO,LOW PHO,HIGH PHO,LOW FO,HIGH FO,LOW MO,HIGH MO,LOW YO,HIGH YO,",
    "LOW RO,HIGH RO,LOW LO,HIGH LO,LOW VO,HIGH VO,LOW HO,HIGH HO,LOW O,HIGH O),MAI KANG,VOWEL (AA,",
    "I,UE,U,E,O),MAI KHIT,VOWEL (IA,UEA,UA,AUE,AY,AN,AM),TONE MAI (EK,NUENG,THO,SONG))"]⟩,
  ⟨0xAADB, ["TAI VIET SYMBOL (KON,NUENG,SAM,HO HOI,KOI KOI),MEETEI MAYEK (LETTER (E,O,CHA,NYA,TTA,",
    "TTHA,DDA,DDHA,NNA,SHA,SSA),VOWEL SIGN (II,UU,AAI,AU,AAU),CHEIKHAN,AHANG KHUDAM,ANJI,",
    "SYLLABLE REPETITION MARK,WORD REPETITION MARK,VOWEL SIGN VISARGA,VIRAMA)"]⟩,
  ⟨0xAB01, ["ETHIOPIC SYLLABLE (TTHU,TTHI,TTHAA,TTHEE,TTHE,TTHO)"]⟩,
  ⟨0xAB09, ["ETHIOPIC SYLLABLE (DDHU,DDHI,DDHAA,DDHEE,DDHE,DDHO)"]⟩,
  ⟨0xAB11, ["ETHIOPIC SYLLABLE (DZU,DZI,DZAA,DZEE,DZE,DZO)"]⟩,
  ⟨0xAB20, ["ETHIOPIC SYLLABLE (CCHHA,CCHHU,CCHHI,CCHHAA,CCHHEE,CCHHE,CCHHO)"]⟩,
  ⟨0xAB28, ["ETHIOPIC SYLLABLE (BBA,BBU,BBI,BBAA,BBEE,BBE,BBO)"]⟩,
  ⟨0xAB30, ["LATIN (SMALL LETTER (BARRED ALPHA,A REVERSED-SCHWA,BLACKLETTER E,BARRED E,",
    "E WITH FLOURISH,LENIS F,SCRIPT G WITH CROSSED-TAIL,L WITH (INVERTED LAZY S,",
    "DOUBLE MIDDLE TILDE,MIDDLE RING),M WITH CROSSED-TAIL,N WITH CROSSED-TAIL,",
    "ENG WITH CROSSED-TAIL,BLACKLETTER O(, WITH STROKE),OPEN O WITH STROKE,INVERTED OE,TURNED (",
    "OE WITH (STROKE,HORIZONTAL STROKE),O OPEN-O(, WITH STROKE)),STIRRUP R),",
    "LETTER SMALL CAPITAL R WITH RIGHT LEG,SMALL LETTER (R WITHOUT HANDLE,DOUBLE R,",
    "R WITH CROSSED-TAIL,DOUBLE R WITH CROSSED-TAIL,SCRIPT R(, WITH RING),BASELINE ESH,",
    "U WITH SHORT RIGHT LEG,U BAR WITH SHORT RIGHT LEG,UI,TURNED UI,U WITH LEFT HOOK,CHI(,",
    " WITH LOW (RIGHT RING,LEFT SERIF)),X WITH (LOW RIGHT RING,LONG LEFT LEG(, AND LOW RIGHT RING,",
    " WITH SERIF)),Y WITH SHORT RIGHT LEG)),MODIFIER (BREVE WITH INVERTED BREVE,LETTER SMALL (",
    "HENG,L WITH (INVERTED LAZY S,MIDDLE TILDE),U WITH LEFT HOOK)),LATIN SMALL LETTER (SAKHA YAT,",
    "IOTIFIED E,OPEN OE,UO,INVERTED ALPHA),GREEK LETTER SMALL CAPITAL OMEGA,LATIN SMALL LETTER (",
    "DZ DIGRAPH WITH RETROFLEX HOOK,TS DIGRAPH WITH RETROFLEX HOOK,TURNED R WITH MIDDLE TILDE),",
    "MODIFIER LETTER (SMALL TURNED W,LEFT TACK,RIGHT TACK)"]⟩,
  ⟨0xAB70, ["CHEROKEE SMALL LETTER (A,E,I,O,U,V,GA,KA,GE,GI,GO,GU,GV,HA,HE,HI,HO,HU,HV,LA,LE,LI,",
    "LO,LU,LV,MA,ME,MI,MO,MU,NA,HNA,NAH,NE,NI,NO,NU,NV,QUA,QUE,QUI,QUO,QUU,QUV,SA,S,SE,SI,SO,SU,",
    "SV,DA,TA,DE,TE,DI,TI,DO,DU,DV,DLA,TLA,TLE,TLI,TLO,TLU,TLV,TSA,TSE,TSI,TSO,TSU,TSV,WA,WE,WI,",
    "WO,WU,WV,YA),MEETEI MAYEK (LETTER (KOK,SAM,LAI,MIT,PA,NA,CHIL,TIL,KHOU,NGOU,THOU,WAI,YANG,",
    "HUK,UN,I,PHAM,ATIYA,GOK,JHAM,RAI,BA,JIL,DIL,GHOU,DHOU,BHAM,KOK LONSUM,LAI LONSUM,MIT LONSUM,",
    "PA LONSUM,NA LONSUM,TIL LONSUM,NGOU LONSUM,I LONSUM),VOWEL SIGN (ONAP,INAP,ANAP,YENAP,SOUNAP,",
    "UNAP,CHEINAP,NUNG),CHEIKHEI,LUM IYEK,APUN IYEK)"]⟩,
  ⟨0xABF0, ["MEETEI MAYEK DIGIT (ZERO,ONE,TWO,THREE,FOUR,FIVE,SIX,SEVEN,EIGHT,NINE)"]⟩,
  ⟨0xD7B0, ["HANGUL JUNGSEONG (O-YEO,O-O-I,YO-(A,AE,EO),U-YEO,U-I-I,YU-(AE,O),EU-(A,EO,E,O),I-(",
    "YA-O,YAE,YEO,YE,O-I,YO,YU,I),ARAEA-(A,E))"]⟩,
  ⟨0xD7CB, ["HANGUL JONGSEONG (NIEUN-(RIEUL,CHIEUCH),SSANGTIKEUT(,-PIEUP),TIKEUT-(PIEUP,SIOS(,",
    "-KIYEOK),CIEUC,CHIEUCH,THIEUTH),RIEUL-(SSANGKIYEOK,KIYEOK-HIEUH),SSANGRIEUL-KHIEUKH,RIEUL-(",
    "MIEUM-HIEUH,PIEUP-(TIKEUT,PHIEUPH),YESIEUNG,YEORINHIEUH-HIEUH),KAPYEOUNRIEUL,MIEUM-(NIEUN,",
    "SSANGNIEUN),SSANGMIEUM,MIEUM-(PIEUP-SIOS,CIEUC),PIEUP-(TIKEUT,RIEUL-PHIEUPH,MIEUM),",
    "SSANGPIEUP,PIEUP-(SIOS-TIKEUT,CIEUC,CHIEUCH),SIOS-(MIEUM,KAPYEOUNPIEUP),SSANGSIOS-(KIYEOK,",
    "TIKEUT),SIOS-(PANSIOS,CIEUC,CHIEUCH,THIEUTH,HIEUH),PANSIOS-(PIEUP,KAPYEOUNPIEUP),YESIEUNG-(",
    "MIEUM,HIEUH),CIEUC-(PIEUP,SSANGPIEUP),SSANGCIEUC,PHIEUPH-(SIOS,THIEUTH))"]⟩,
  ⟨0xFB00, ["LATIN SMALL LIGATURE (FF,FI,FL,FFI,FFL,LONG S T,ST)"]⟩,
  ⟨0xFB13, ["ARMENIAN SMALL LIGATURE (MEN (NOW,ECH,INI),VEW NOW,MEN XEH)"]⟩,
  ⟨0xFB1D, ["HEBREW (LETTER YOD WITH HIRIQ,POINT JUDEO-SPANISH VARIKA,",
    "LIGATURE YIDDISH YOD YOD PATAH,LETTER (ALTERNATIVE AYIN,WIDE (ALEF,DALET,HE,KAF,LAMED,",
    "FINAL MEM,RESH,TAV),ALTERNATIVE PLUS SIGN,SHIN WITH (SHIN DOT,SIN DOT,DAGESH AND (SHIN DOT,",
    "SIN DOT)),ALEF WITH (PATAH,QAMATS,MAPIQ),BET WITH DAGESH,GIMEL WITH DAGESH,DALET WITH DAGESH,",
    "HE WITH MAPIQ,VAV WITH DAGESH,ZAYIN WITH DAGESH))"]⟩,
  ⟨0xFB38, ["HEBREW LETTER (TET WITH DAGESH,YOD WITH DAGESH,FINAL KAF WITH DAGESH,KAF WITH DAGESH,",
    "LAMED WITH DAGESH)"]⟩,
  ⟨0xFB3E, ["HEBREW LETTER MEM WITH DAGESH"]⟩,
  ⟨0xFB40, ["HEBREW LETTER (NUN WITH DAGESH,SAMEKH WITH DAGESH)"]⟩,
  ⟨0xFB43, ["HEBREW LETTER (FINAL PE WITH DAGESH,PE WITH DAGESH)"]⟩,
  ⟨0xFB46, ["HEBREW (LETTER (TSADI WITH DAGESH,QOF WITH DAGESH,RESH WITH DAGESH,SHIN WITH DAGESH,",
    "TAV WITH DAGESH,VAV WITH HOLAM,BET WITH RAFE,KAF WITH RAFE,PE WITH RAFE),",
    "LIGATURE ALEF LAMED)"]⟩]

end CharacterName
end Text
end Reckoner
