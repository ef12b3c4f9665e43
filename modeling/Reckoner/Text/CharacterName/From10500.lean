import Reckoner.Text.CharacterName.Outline

/-!
# Names from U+10500 on

The names of the characters from U+10500 to U+1123E, as outlines.
-/

namespace Reckoner
namespace Text
namespace CharacterName

/-- Names of the characters from U+10500 to U+1123E. -/
def from10500 : List Outline := [
  ⟨0x10500, ["ELBASAN LETTER (A,BE,CE,CHE,DE,NDE,DHE,EI,E,FE,GE,GJE,HE,I,JE,KE,LE,LLE,ME,NE,NA,",
    "NJE,O,PE,QE,RE,RRE,SE,SHE,TE,THE,U,VE,XE,Y,ZE,ZHE,GHE,GHAMMA,KHE)"]⟩,
  ⟨0x10530, ["CAUCASIAN ALBANIAN LETTER (ALT,BET,GIM,DAT,EB,ZARL,EYN,ZHIL,TAS,CHA,YOWD,ZHA,IRB,",
    "SHA,LAN,INYA,XEYN,DYAN,CAR,JHOX,KAR,LYIT,HEYT,QAY,AOR,CHOY,CHI,CYAY,MAQ,QAR,NOWC,DZYAY,SHAK,",
    "JAYN,ON,TYAY,FAM,DZAY,CHAT,PEN,GHEYS,RAT,SEYK,VEYZ,TIWR,SHOY,IWN,CYAW,CAYN,YAYD,PIWR,KIW)"]⟩,
  ⟨0x1056F, ["CAUCASIAN ALBANIAN CITATION MARK,VITHKUQI CAPITAL LETTER (A,BBE,BE,CE,CHE,DE,DHE,EI,",
    "E,FE,GA)"]⟩,
  ⟨0x1057C, ["VITHKUQI CAPITAL LETTER (HA,HHA,I,IJE,JE,KA,LA,LLA,ME,NE,NJE,O,PE,QA,RE)"]⟩,
  ⟨0x1058C, ["VITHKUQI CAPITAL LETTER (SE,SHE,TE,THE,U,VE,XE)"]⟩,
  ⟨0x10594, ["VITHKUQI CAPITAL LETTER (Y,ZE)"]⟩,
  ⟨0x10597, ["VITHKUQI SMALL LETTER (A,BBE,BE,CE,CHE,DE,DHE,EI,E,FE,GA)"]⟩,
  ⟨0x105A3, ["VITHKUQI SMALL LETTER (HA,HHA,I,IJE,JE,KA,LA,LLA,ME,NE,NJE,O,PE,QA,RE)"]⟩,
  ⟨0x105B3, ["VITHKUQI SMALL LETTER (SE,SHE,TE,THE,U,VE,XE)"]⟩,
  ⟨0x105BB, ["VITHKUQI SMALL LETTER (Y,ZE)"]⟩,
  ⟨0x10600, ["LINEAR A SIGN (AB(001,002,003,004,005,006,007,008,009,010,011,013,016,017,020,021(,",
    "F,M),022(,F,M),023(,M),024,026,027,028),A028B,AB(029,030,031,034,037,038,039,040,041,044,045,",
    "046,047,048,049,050,051,053,054,055,056,057,058,059,060,061,065,066,067,069,070,073,074,076,",
    "077,078,079,080,081,082,085,086,087),A100-102,AB118,AB120,A120B,AB(122,123,131(A,B)),A131C,",
    "AB(164,171,180,188,191),A(301,302,303,304,305,306,307,308,309(A,B,C),310,311,312,313(A,B,C),",
    "314,315,316,317,318,319,320,321,322,323,324,325,326,327,328,329,330,331,332,333,334,335,336,",
    "337,338,339,340,341,342,343,344,345,346,347,348,349,350,351,352,353,354,355,356,357,358,359,",
    "360,361,362,363,364,365,366,367,368,369,370,371,400-VAS,401-VAS,402-VAS,403-VAS,404-VAS,",
    "405-VAS,406-VAS,407-VAS,408-VAS,409-VAS,410-VAS,411-VAS,412-VAS,413-VAS,414-VAS,415-VAS,",
    "416-VAS,417-VAS,418-VAS,501,502,503,504,505,506,508,509,510,511,512,513,515,516,520,521,523,",
    "524,525,526,527,528,529,530,531,532,534,535,536,537,538,539,540,541,542,545,547,548,549,550,",
    "551,552,553,554,555,556,557,559,563,564,565,566,568,569,570,571,572,573,574,575,576,577,578,",
    "579,580,581,582,583,584,585,586,587,588,589,591,592,594,595,596,598,600,601,602,603,604,606,",
    "608,609,610,611,612,613,614,615,616,617,618,619,620,621,622,623,624,626,627,628,629,634,637,",
    "638,640,642,643,644,645,646,648,649,651,652,653,654,655,656,657,658,659,660,661,662,663,",
    "664))"]⟩,
  ⟨0x10740, ["LINEAR A SIGN A(701 A,702 B,703 D,704 E,705 F,706 H,707 J,708 K,709( L,-(2 L2,3 L3,",
    "4 L4,6 L6)),710 W,711 X,712 Y,713 OMEGA,714 ABB,715 BB,717 DD,726 EYYY,732 JE)"]⟩,
  ⟨0x10760, ["LINEAR A SIGN A(800,801,802,803,804,805,806,807)"]⟩,
  ⟨0x10780, ["MODIFIER LETTER (SMALL CAPITAL AA,SUPERSCRIPT (TRIANGULAR COLON,",
    "HALF TRIANGULAR COLON),SMALL (AE,CAPITAL B,B WITH HOOK))"]⟩,
  ⟨0x10787, ["MODIFIER LETTER SMALL (DZ DIGRAPH(, WITH (RETROFLEX HOOK,CURL)),DEZH DIGRAPH,",
    "D WITH (TAIL,HOOK(, AND TAIL)),REVERSED E,CLOSED REVERSED OPEN E,FENG DIGRAPH,RAMS HORN,",
    "CAPITAL G,G WITH HOOK,CAPITAL G WITH HOOK,H WITH STROKE,CAPITAL H,HENG WITH HOOK,",
    "DOTLESS J WITH STROKE AND HOOK,LS DIGRAPH,LZ DIGRAPH,L WITH BELT,CAPITAL L WITH BELT,",
    "L WITH RETROFLEX HOOK AND BELT,LEZH(, WITH RETROFLEX HOOK),TURNED Y(, WITH BELT),",
    "O WITH STROKE,CAPITAL OE,CLOSED OMEGA,Q,TURNED R WITH LONG LEG(, AND RETROFLEX HOOK),R WITH (",
    "TAIL,FISHHOOK),CAPITAL R,TC DIGRAPH WITH CURL,TS DIGRAPH(, WITH RETROFLEX HOOK),TESH DIGRAPH,",
    "T WITH RETROFLEX HOOK,V WITH RIGHT HOOK)"]⟩,
  ⟨0x107B2, ["MODIFIER LETTER (SMALL CAPITAL Y,GLOTTAL STOP WITH STROKE,",
    "REVERSED GLOTTAL STOP WITH STROKE,BILABIAL CLICK,DENTAL CLICK,LATERAL CLICK,ALVEOLAR CLICK,",
    "RETROFLEX CLICK WITH RETROFLEX HOOK,SMALL S WITH CURL)"]⟩,
  ⟨0x10800, ["CYPRIOT SYLLABLE (A,E,I,O,U,JA)"]⟩,
  ⟨0x10808, ["CYPRIOT SYLLABLE JO"]⟩,
  ⟨0x1080A, ["CYPRIOT SYLLABLE (KA,KE,KI,KO,KU,LA,LE,LI,LO,LU,MA,ME,MI,MO,MU,NA,NE,NI,NO,NU,PA,PE,",
    "PI,PO,PU,RA,RE,RI,RO,RU,SA,SE,SI,SO,SU,TA,TE,TI,TO,TU,WA,WE,WI,WO)"]⟩,
  ⟨0x10837, ["CYPRIOT SYLLABLE (XA,XE)"]⟩,
  ⟨0x1083C, ["CYPRIOT SYLLABLE ZA"]⟩,
  ⟨0x1083F, ["CYPRIOT SYLLABLE ZO,IMPERIAL ARAMAIC LETTER (ALEPH,BETH,GIMEL,DALETH,HE,WAW,ZAYIN,",
    "HETH,TETH,YODH,KAPH,LAMEDH,MEM,NUN,SAMEKH,AYIN,PE,SADHE,QOPH,RESH,SHIN,TAW)"]⟩,
  ⟨0x10857, ["IMPERIAL ARAMAIC (SECTION SIGN,NUMBER (ONE,TWO,THREE,TEN,TWENTY,ONE (HUNDRED,",
    "THOUSAND),TEN THOUSAND)),PALMYRENE (LETTER (ALEPH,BETH,GIMEL,DALETH,HE,WAW,ZAYIN,HETH,TETH,",
    "YODH,KAPH,LAMEDH,MEM,FINAL NUN,NUN,SAMEKH,AYIN,PE,SADHE,QOPH,RESH,SHIN,TAW),",
    "LEFT-POINTING FLEURON,RIGHT-POINTING FLEURON,NUMBER (ONE,TWO,THREE,FOUR,FIVE,TEN,TWENTY)),",
    "NABATAEAN LETTER (FINAL ALEPH,ALEPH,FINAL BETH,BETH,GIMEL,DALETH,FINAL HE,HE,WAW,ZAYIN,HETH,",
    "TETH,FINAL YODH,YODH,FINAL KAPH,KAPH,FINAL LAMEDH,LAMEDH,FINAL MEM,MEM,FINAL NUN,NUN,SAMEKH,",
    "AYIN,PE,SADHE,QOPH,RESH,FINAL SHIN,SHIN,TAW)"]⟩,
  ⟨0x108A7, ["NABATAEAN (NUMBER (ONE,TWO,THREE,FOUR),CRUCIFORM NUMBER FOUR,NUMBER (FIVE,TEN,",
    "TWENTY,ONE HUNDRED))"]⟩,
  ⟨0x108E0, ["HATRAN LETTER (ALEPH,BETH,GIMEL,DALETH-RESH,HE,WAW,ZAYN,HETH,TETH,YODH,KAPH,LAMEDH,",
    "MEM,NUN,SAMEKH,AYN,PE,SADHE,QOPH)"]⟩,
  ⟨0x108F4, ["HATRAN LETTER (SHIN,TAW)"]⟩,
  ⟨0x108FB, ["HATRAN NUMBER (ONE,FIVE,TEN,TWENTY,ONE HUNDRED),PHOENICIAN (LETTER (ALF,BET,GAML,",
    "DELT,HE,WAU,ZAI,HET,TET,YOD,KAF,LAMD,MEM,NUN,SEMK,AIN,PE,SADE,QOF,ROSH,SHIN,TAU),NUMBER (ONE,",
    "TEN,TWENTY,ONE HUNDRED,TWO,THREE))"]⟩,
  ⟨0x1091F, ["PHOENICIAN WORD SEPARATOR,LYDIAN LETTER (A,B,G,D,E,V,I,Y,K,L,M,N,O,R,SS,T,U,F,Q,S,",
    "TT,AN,EN,LY,NN,C)"]⟩,
  ⟨0x1093F, ["LYDIAN TRIANGULAR MARK"]⟩,
  ⟨0x10980, ["MEROITIC (HIEROGLYPHIC (LETTER (A,E,I,O,YA,WA,BA,BA-2,PA,MA,NA,NA-2,NE,NE-2,RA,RA-2,",
    "LA,KHA,HHA,SA,SA-2,SE,KA,QA,TA,TA-2,TE,TE-2,TO,DA),SYMBOL VIDJ(,-2)),CURSIVE LETTER (A,E,I,O,",
    "YA,WA,BA,PA,MA,NA,NE,RA,LA,KHA,HHA,SA,ARCHAIC SA,SE,KA,QA,TA,TE,TO,DA))"]⟩,
  ⟨0x109BC, ["MEROITIC CURSIVE (FRACTION (ELEVEN TWELFTHS,ONE HALF),LOGOGRAM (RMT,IMN),NUMBER (",
    "ONE,TWO,THREE,FOUR,FIVE,SIX,SEVEN,EIGHT,NINE,TEN,TWENTY,THIRTY,FORTY,FIFTY,SIXTY,SEVENTY))"]⟩,
  ⟨0x109D2, ["MEROITIC CURSIVE (NUMBER (ONE HUNDRED,TWO HUNDRED,THREE HUNDRED,FOUR HUNDRED,",
    "FIVE HUNDRED,SIX HUNDRED,SEVEN HUNDRED,EIGHT HUNDRED,NINE HUNDRED,ONE THOUSAND,TWO THOUSAND,",
    "THREE THOUSAND,FOUR THOUSAND,FIVE THOUSAND,SIX THOUSAND,SEVEN THOUSAND,EIGHT THOUSAND,",
    "NINE THOUSAND,TEN THOUSAND,TWENTY THOUSAND,THIRTY THOUSAND,FORTY THOUSAND,FIFTY THOUSAND,",
    "SIXTY THOUSAND,SEVENTY THOUSAND,EIGHTY THOUSAND,NINETY THOUSAND,ONE HUNDRED THOUSAND,",
    "TWO HUNDRED THOUSAND,THREE HUNDRED THOUSAND,FOUR HUNDRED THOUSAND,FIVE HUNDRED THOUSAND,",
    "SIX HUNDRED THOUSAND,SEVEN HUNDRED THOUSAND,EIGHT HUNDRED THOUSAND,NINE HUNDRED THOUSAND),",
    "FRACTION (ONE TWELFTH,TWO TWELFTHS,THREE TWELFTHS,FOUR TWELFTHS,FIVE TWELFTHS,SIX TWELFTHS,",
    "SEVEN TWELFTHS,EIGHT TWELFTHS,NINE TWELFTHS,TEN TWELFTHS)),KHAROSHTHI (LETTER A,VOWEL SIGN (",
    "I,U,VOCALIC R))"]⟩,
  ⟨0x10A05, ["KHAROSHTHI VOWEL SIGN (E,O)"]⟩,
  ⟨0x10A0C, ["KHAROSHTHI (VOWEL LENGTH MARK,SIGN (DOUBLE RING BELOW,ANUSVARA,VISARGA),LETTER (KA,",
    "KHA,GA,GHA))"]⟩,
  ⟨0x10A15, ["KHAROSHTHI LETTER (CA,CHA,JA)"]⟩,
  ⟨0x10A19, ["KHAROSHTHI LETTER (NYA,TTA,TTHA,DDA,DDHA,NNA,TA,THA,DA,DHA,NA,PA,PHA,BA,BHA,MA,YA,",
    "RA,LA,VA,SHA,SSA,SA,ZA,HA,KKA,TTTHA,TTTA,VHA)"]⟩,
  ⟨0x10A38, ["KHAROSHTHI SIGN (BAR ABOVE,CAUDA,DOT BELOW)"]⟩,
  ⟨0x10A3F, ["KHAROSHTHI (VIRAMA,DIGIT (ONE,TWO,THREE,FOUR),NUMBER (TEN,TWENTY,ONE (HUNDRED,",
    "THOUSAND)),FRACTION ONE HALF)"]⟩,
  ⟨0x10A50, ["KHAROSHTHI PUNCTUATION (DOT,SMALL CIRCLE,CIRCLE,CRESCENT BAR,MANGALAM,LOTUS,DANDA,",
    "DOUBLE DANDA,LINES)"]⟩,
  ⟨0x10A60, ["OLD (SOUTH ARABIAN (LETTER (HE,LAMEDH,HETH,MEM,QOPH,WAW,SHIN,RESH,BETH,TAW,SAT,KAPH,",
    "NUN,KHETH,SADHE,SAMEKH,FE,ALEF,AYN,DHADHE,GIMEL,DALETH,GHAYN,TETH,ZAYN,DHALETH,YODH,THAW,",
    "THETH),NUMBER (ONE,FIFTY),NUMERIC INDICATOR),NORTH ARABIAN (LETTER (HEH,LAM,HAH,MEEM,QAF,WAW,",
    "ES-2,REH,BEH,TEH,ES-1,KAF,NOON,KHAH,SAD,ES-3,FEH,ALEF,AIN,DAD,GEEM,DAL,GHAIN,TAH,ZAIN,THAL,",
    "YEH,THEH,ZAH),NUMBER (ONE,TEN,TWENTY)))"]⟩,
  ⟨0x10AC0, ["MANICHAEAN (LETTER (ALEPH,BETH,BHETH,GIMEL,GHIMEL,DALETH,HE,WAW),SIGN UD,LETTER (",
    "ZAYIN,ZHAYIN,JAYIN,JHAYIN,HETH,TETH,YODH,KAPH,XAPH,KHAPH,LAMEDH,DHAMEDH,THAMEDH,MEM,NUN,",
    "SAMEKH,AYIN,AAYIN,PE,FE,SADHE,QOPH,XOPH,QHOPH,RESH,SHIN,SSHIN,TAW),ABBREVIATION MARK (ABOVE,",
    "BELOW))"]⟩,
  ⟨0x10AEB, ["MANICHAEAN (NUMBER (ONE,FIVE,TEN,TWENTY,ONE HUNDRED),PUNCTUATION (STAR,FLEURON,",
    "DOUBLE DOT WITHIN DOT,DOT( WITHIN DOT,),TWO DOTS,LINE FILLER))"]⟩,
  ⟨0x10B00, ["AVESTAN LETTER (A,AA,AO,AAO,AN,AAN,AE,AEE,E,EE,O,OO,I,II,U,UU,KE,XE,XYE,XVE,GE,GGE,",
    "GHE,CE,JE,TE,THE,DE,DHE,TTE,PE,FE,BE,BHE,NGE,NGYE,NGVE,NE,NYE,NNE,ME,HME,YYE,YE,VE,RE,LE,SE,",
    "ZE,SHE,ZHE,SHYE,SSHE,HE)"]⟩,
  ⟨0x10B39, ["AVESTAN ABBREVIATION MARK,TINY TWO DOTS OVER ONE DOT PUNCTUATION,",
    "SMALL TWO DOTS OVER ONE DOT PUNCTUATION,LARGE (TWO DOTS OVER ONE DOT PUNCTUATION,",
    "ONE DOT OVER TWO DOTS PUNCTUATION,TWO RINGS OVER ONE RING PUNCTUATION,",
    "ONE RING OVER TWO RINGS PUNCTUATION),INSCRIPTIONAL PARTHIAN LETTER (ALEPH,BETH,GIMEL,DALETH,",
    "HE,WAW,ZAYIN,HETH,TETH,YODH,KAPH,LAMEDH,MEM,NUN,SAMEKH,AYIN,PE,SADHE,QOPH,RESH,SHIN,TAW)"]⟩,
  ⟨0x10B58, ["INSCRIPTIONAL (PARTHIAN NUMBER (ONE,TWO,THREE,FOUR,TEN,TWENTY,ONE (HUNDRED,",
    "THOUSAND)),PAHLAVI LETTER (ALEPH,BETH,GIMEL,DALETH,HE,WAW-AYIN-RESH,ZAYIN,HETH,TETH,YODH,",
    "KAPH,LAMEDH,MEM-QOPH,NUN,SAMEKH,PE,SADHE,SHIN,TAW))"]⟩,
  ⟨0x10B78, ["INSCRIPTIONAL PAHLAVI NUMBER (ONE,TWO,THREE,FOUR,TEN,TWENTY,ONE (HUNDRED,THOUSAND)),",
    "PSALTER PAHLAVI LETTER (ALEPH,BETH,GIMEL,DALETH,HE,WAW-AYIN-RESH,ZAYIN,HETH,YODH,KAPH,LAMEDH,",
    "MEM-QOPH,NUN,SAMEKH,PE,SADHE,SHIN,TAW)"]⟩,
  ⟨0x10B99, ["PSALTER PAHLAVI (SECTION MARK,TURNED SECTION MARK,FOUR DOTS WITH (CROSS,DOT))"]⟩,
  ⟨0x10BA9, ["PSALTER PAHLAVI NUMBER (ONE,TWO,THREE,FOUR,TEN,TWENTY,ONE HUNDRED)"]⟩,
  ⟨0x10C00, ["OLD TURKIC LETTER (ORKHON A,YENISEI (A,AE),ORKHON I,YENISEI (I,E),ORKHON (O,OE),",
    "YENISEI OE,ORKHON AB,YENISEI AB,ORKHON AEB,YENISEI AEB,ORKHON AG,YENISEI AG,ORKHON AEG,",
    "YENISEI AEG,ORKHON AD,YENISEI AD,ORKHON (AED,EZ),YENISEI EZ,ORKHON AY,YENISEI AY,ORKHON AEY,",
    "YENISEI AEY,ORKHON AEK,YENISEI AEK,ORKHON OEK,YENISEI OEK,ORKHON AL,YENISEI AL,ORKHON (AEL,",
    "ELT,EM,AN,AEN),YENISEI AEN,ORKHON ENT,YENISEI ENT,ORKHON ENC,YENISEI ENC,ORKHON ENY,YENISEI (",
    "ENY,ANG),ORKHON ENG,YENISEI AENG,ORKHON (EP,OP,IC,EC),YENISEI EC,ORKHON AQ,YENISEI AQ,",
    "ORKHON IQ,YENISEI IQ,ORKHON OQ,YENISEI OQ,ORKHON AR,YENISEI AR,ORKHON (AER,AS,AES,ASH),",
    "YENISEI ASH,ORKHON ESH,YENISEI ESH,ORKHON AT,YENISEI AT,ORKHON AET,YENISEI AET,ORKHON (OT,",
    "BASH))"]⟩,
  ⟨0x10C80, ["OLD HUNGARIAN CAPITAL LETTER (A,AA,EB,AMB,EC,ENC,ECS,ED,AND,E,CLOSE E,EE,EF,EG,EGY,",
    "EH,I,II,EJ,EK,AK,UNK,EL,ELY,EM,EN,ENY,O,OO,NIKOLSBURG OE,RUDIMENTA OE,OEE,EP,EMP,ER,SHORT ER,",
    "ES,ESZ,ET,ENT,ETY,ECH,U,UU,NIKOLSBURG UE,RUDIMENTA UE,EV,EZ,EZS,ENT-SHAPED SIGN,US)"]⟩,
  ⟨0x10CC0, ["OLD HUNGARIAN SMALL LETTER (A,AA,EB,AMB,EC,ENC,ECS,ED,AND,E,CLOSE E,EE,EF,EG,EGY,EH,",
    "I,II,EJ,EK,AK,UNK,EL,ELY,EM,EN,ENY,O,OO,NIKOLSBURG OE,RUDIMENTA OE,OEE,EP,EMP,ER,SHORT ER,ES,",
    "ESZ,ET,ENT,ETY,ECH,U,UU,NIKOLSBURG UE,RUDIMENTA UE,EV,EZ,EZS,ENT-SHAPED SIGN,US)"]⟩,
  ⟨0x10CFA, ["OLD HUNGARIAN NUMBER (ONE,FIVE,TEN,FIFTY,ONE (HUNDRED,THOUSAND)),HANIFI ROHINGYA (",
    "LETTER (A,BA,PA,TA,TTA,JA,CA,HA,KHA,FA,DA,DDA,RA,RRA,ZA,SA,SHA,KA,GA,LA,MA,NA,WA,KINNA WA,YA,",
    "KINNA YA,NGA,NYA,VA),VOWEL (A,I,U,E,O),MARK (SAKIN,NA KHONNA),SIGN (HARBAHAY,TAHALA,TANA,",
    "TASSI))"]⟩,
  ⟨0x10D30, ["HANIFI ROHINGYA DIGIT (ZERO,ONE,TWO,THREE,FOUR,FIVE,SIX,SEVEN,EIGHT,NINE)"]⟩,
  ⟨0x10E60, ["RUMI (DIGIT (ONE,TWO,THREE,FOUR,FIVE,SIX,SEVEN,EIGHT,NINE),NUMBER (TEN,TWENTY,",
    "THIRTY,FORTY,FIFTY,SIXTY,SEVENTY,EIGHTY,NINETY,ONE HUNDRED,TWO HUNDRED,THREE HUNDRED,",
    "FOUR HUNDRED,FIVE HUNDRED,SIX HUNDRED,SEVEN HUNDRED,EIGHT HUNDRED,NINE HUNDRED),FRACTION (",
    "ONE (HALF,QUARTER,THIRD),TWO THIRDS))"]⟩,
  ⟨0x10E80, ["YEZIDI LETTER (ELIF,BE,PE,PHE,THE,SE,CIM,CHIM,CHHIM,HHA,XA,DAL,ZAL,RA,RHA,ZA,JA,SIN,",
    "SHIN,SAD,DAD,TA,ZE,EYN,XHEYN,FA,VA,VA ALTERNATE FORM,QAF,KAF,KHAF,GAF,LAM,MIM,NUN,UM,WAW,OW,",
    "EW,HAY,YOT,ET)"]⟩,
  ⟨0x10EAB, ["YEZIDI (COMBINING (HAMZA MARK,MADDA MARK),HYPHENATION MARK)"]⟩,
  ⟨0x10EB0, ["YEZIDI LETTER (LAM WITH DOT ABOVE,YOT WITH CIRCUMFLEX ABOVE)"]⟩,
  ⟨0x10F00, ["OLD SOGDIAN (LETTER (ALEPH,FINAL ALEPH,BETH,FINAL BETH,GIMEL,HE,FINAL HE,WAW,ZAYIN,",
    "HETH,YODH,KAPH,LAMEDH,MEM,NUN,FINAL NUN(, WITH VERTICAL TAIL),SAMEKH,AYIN,ALTERNATE AYIN,PE,",
    "SADHE,FINAL SADHE(, WITH VERTICAL TAIL),RESH-AYIN-DALETH,SHIN,TAW,FINAL TAW(,",
    " WITH VERTICAL TAIL)),NUMBER (ONE,TWO,THREE,FOUR,FIVE,TEN,TWENTY,THIRTY,ONE HUNDRED),",
    "FRACTION ONE HALF,LIGATURE AYIN-DALETH)"]⟩,
  ⟨0x10F30, ["SOGDIAN (LETTER (ALEPH,BETH,GIMEL,HE,WAW,ZAYIN,HETH,YODH,KAPH,LAMEDH,MEM,NUN,SAMEKH,",
    "AYIN,PE,SADHE,RESH-AYIN,SHIN,TAW,FETH,LESH),INDEPENDENT SHIN,COMBINING (DOT BELOW,",
    "TWO DOTS BELOW,DOT ABOVE,TWO DOTS ABOVE,CURVE (ABOVE,BELOW),HOOK (ABOVE,BELOW),",
    "LONG HOOK BELOW,RESH BELOW,STROKE BELOW),NUMBER (ONE,TEN,TWENTY,ONE HUNDRED),PUNCTUATION (",
    "TWO VERTICAL BARS(, WITH DOTS),CIRCLE WITH DOT,TWO CIRCLES WITH DOTS,HALF CIRCLE WITH DOT))"]⟩,
  ⟨0x10F70, ["OLD UYGHUR (LETTER (ALEPH,BETH,GIMEL-HETH,WAW,ZAYIN,FINAL HETH,YODH,KAPH,LAMEDH,MEM,",
    "NUN,SAMEKH,PE,SADHE,RESH,SHIN,TAW,LESH),COMBINING (DOT (ABOVE,BELOW),TWO DOTS (ABOVE,BELOW)),",
    "PUNCTUATION (BAR,TWO (BARS,DOTS),FOUR DOTS))"]⟩,
  ⟨0x10FB0, ["CHORASMIAN (LETTER (ALEPH,SMALL ALEPH,BETH,GIMEL,DALETH,HE,WAW,CURLED WAW,ZAYIN,",
    "HETH,YODH,KAPH,LAMEDH,MEM,NUN,SAMEKH,AYIN,PE,RESH,SHIN,TAW),NUMBER (ONE,TWO,THREE,FOUR,TEN,",
    "TWENTY,ONE HUNDRED))"]⟩,
  ⟨0x10FE0, ["ELYMAIC (LETTER (ALEPH,BETH,GIMEL,DALETH,HE,WAW,ZAYIN,HETH,TETH,YODH,KAPH,LAMEDH,",
    "MEM,NUN,SAMEKH,AYIN,PE,SADHE,QOPH,RESH,SHIN,TAW),LIGATURE ZAYIN-YODH)"]⟩,
  ⟨0x11000, ["BRAHMI (SIGN (CANDRABINDU,ANUSVARA,VISARGA,JIHVAMULIYA,UPADHMANIYA),LETTER (A,AA,I,",
    "II,U,UU,VOCALIC (R,RR,L,LL),E,AI,O,AU,KA,KHA,GA,GHA,NGA,CA,CHA,JA,JHA,NYA,TTA,TTHA,DDA,DDHA,",
    "NNA,TA,THA,DA,DHA,NA,PA,PHA,BA,BHA,MA,YA,RA,LA,VA,SHA,SSA,SA,HA,LLA,OLD TAMIL (LLLA,RRA,",
    "NNNA)),VOWEL SIGN (AA,BHATTIPROLU AA,I,II,U,UU,VOCALIC (R,RR,L,LL),E,AI,O,AU),VIRAMA,DANDA,",
    "DOUBLE DANDA,PUNCTUATION (DOT,DOUBLE DOT,LINE,CRESCENT BAR,LOTUS))"]⟩,
  ⟨0x11052, ["BRAHMI (NUMBER (ONE,TWO,THREE,FOUR,FIVE,SIX,SEVEN,EIGHT,NINE,TEN,TWENTY,THIRTY,",
    "FORTY,FIFTY,SIXTY,SEVENTY,EIGHTY,NINETY,ONE (HUNDRED,THOUSAND)),DIGIT (ZERO,ONE,TWO,THREE,",
    "FOUR,FIVE,SIX,SEVEN,EIGHT,NINE),SIGN OLD TAMIL VIRAMA,LETTER OLD TAMIL SHORT (E,O),",
    "VOWEL SIGN OLD TAMIL SHORT (E,O),LETTER OLD TAMIL LLA)"]⟩,
  ⟨0x1107F, ["BRAHMI NUMBER JOINER,KAITHI (SIGN (CANDRABINDU,ANUSVARA,VISARGA),LETTER (A,AA,I,II,",
    "U,UU,E,AI,O,AU,KA,KHA,GA,GHA,NGA,CA,CHA,JA,JHA,NYA,TTA,TTHA,DDA,DDDHA,DDHA,RHA,NNA,TA,THA,DA,",
    "DHA,NA,PA,PHA,BA,BHA,MA,YA,RA,LA,VA,SHA,SSA,SA,HA),VOWEL SIGN (AA,I,II,U,UU,E,AI,O,AU),SIGN (",
    "VIRAMA,NUKTA),ABBREVIATION SIGN,ENUMERATION SIGN,NUMBER SIGN,SECTION MARK,",
    "DOUBLE SECTION MARK,DANDA,DOUBLE DANDA,VOWEL SIGN VOCALIC R)"]⟩,
  ⟨0x110CD, ["KAITHI NUMBER SIGN ABOVE"]⟩,
  ⟨0x110D0, ["SORA SOMPENG LETTER (SAH,TAH,BAH,CAH,DAH,GAH,MAH,NGAH,LAH,NAH,VAH,PAH,YAH,RAH,HAH,",
    "KAH,JAH,NYAH,AH,EEH,IH,UH,OH,EH,MAE)"]⟩,
  ⟨0x110F0, ["SORA SOMPENG DIGIT (ZERO,ONE,TWO,THREE,FOUR,FIVE,SIX,SEVEN,EIGHT,NINE)"]⟩,
  ⟨0x11100, ["CHAKMA (SIGN (CANDRABINDU,ANUSVARA,VISARGA),LETTER (AA,I,U,E,KAA,KHAA,GAA,GHAA,NGAA,",
    "CAA,CHAA,JAA,JHAA,NYAA,TTAA,TTHAA,DDAA,DDHAA,NNAA,TAA,THAA,DAA,DHAA,NAA,PAA,PHAA,BAA,BHAA,",
    "MAA,YYAA,YAA,RAA,LAA,WAA,SAA,HAA),VOWEL SIGN (A,I,II,U,UU,E,AI,O,AU,OI),O MARK,AU MARK,",
    "VIRAMA,MAAYYAA)"]⟩,
  ⟨0x11136, ["CHAKMA (DIGIT (ZERO,ONE,TWO,THREE,FOUR,FIVE,SIX,SEVEN,EIGHT,NINE),SECTION MARK,",
    "DANDA,DOUBLE DANDA,QUESTION MARK,LETTER LHAA,VOWEL SIGN (AA,EI),LETTER VAA)"]⟩,
  ⟨0x11150, ["MAHAJANI (LETTER (A,I,U,E,O,KA,KHA,GA,GHA,CA,CHA,JA,JHA,NYA,TTA,TTHA,DDA,DDHA,NNA,",
    "TA,THA,DA,DHA,NA,PA,PHA,BA,BHA,MA,RA,LA,VA,SA,HA,RRA),SIGN NUKTA,ABBREVIATION SIGN,",
    "SECTION MARK,LIGATURE SHRI)"]⟩,
  ⟨0x11180, ["SHARADA (SIGN (CANDRABINDU,ANUSVARA,VISARGA),LETTER (A,AA,I,II,U,UU,VOCALIC (R,RR,L,",
    "LL),E,AI,O,AU,KA,KHA,GA,GHA,NGA,CA,CHA,JA,JHA,NYA,TTA,TTHA,DDA,DDHA,NNA,TA,THA,DA,DHA,NA,PA,",
    "PHA,BA,BHA,MA,YA,RA,LA,LLA,VA,SHA,SSA,SA,HA),VOWEL SIGN (AA,I,II,U,UU,VOCALIC (R,RR,L,LL),E,",
    "AI,O,AU),SIGN (VIRAMA,AVAGRAHA,JIHVAMULIYA,UPADHMANIYA),OM,DANDA,DOUBLE DANDA,",
    "ABBREVIATION SIGN,SEPARATOR,SANDHI MARK,SIGN NUKTA,VOWEL MODIFIER MARK,",
    "EXTRA SHORT VOWEL MARK,SUTRA MARK,VOWEL SIGN PRISHTHAMATRA E,SIGN INVERTED CANDRABINDU,",
    "DIGIT (ZERO,ONE,TWO,THREE,FOUR,FIVE,SIX,SEVEN,EIGHT,NINE),EKAM,SIGN SIDDHAM,HEADSTROKE,",
    "CONTINUATION SIGN,SECTION MARK-(1,2))"]⟩,
  ⟨0x111E1, ["SINHALA ARCHAIC (DIGIT (ONE,TWO,THREE,FOUR,FIVE,SIX,SEVEN,EIGHT,NINE),NUMBER (TEN,",
    "TWENTY,THIRTY,FORTY,FIFTY,SIXTY,SEVENTY,EIGHTY,NINETY,ONE (HUNDRED,THOUSAND)))"]⟩,
  ⟨0x11200, ["KHOJKI LETTER (A,AA,I,U,E,AI,O,AU,KA,KHA,GA,GGA,GHA,NGA,CA,CHA,JA,JJA)"]⟩,
  ⟨0x11213, ["KHOJKI (LETTER (NYA,TTA,TTHA,DDA,DDHA,NNA,TA,THA,DA,DDDA,DHA,NA,PA,PHA,BA,BBA,BHA,",
    "MA,YA,RA,LA,VA,SA,HA,LLA),VOWEL SIGN (AA,I,II,U,E,AI,O,AU),SIGN (ANUSVARA,VIRAMA,NUKTA,",
    "SHADDA),DANDA,DOUBLE DANDA,WORD SEPARATOR,SECTION MARK,DOUBLE SECTION MARK,ABBREVIATION SIGN,",
    "SIGN SUKUN)"]⟩]

end CharacterName
end Text
end Reckoner
