import Reckoner.Text.CharacterName.Outline

/-!
# Names from U+0700 on

The names of the characters from U+0700 to U+1773, as outlines.
-/

namespace Reckoner
namespace Text
namespace CharacterName

/-- Names of the characters from U+0700 to U+1773. -/
def from0700 : List Outline := [
  ⟨0x0700, ["SYRIAC (END OF PARAGRAPH,SUPRALINEAR FULL STOP,SUBLINEAR FULL STOP,SUPRALINEAR COLON,",
    "SUBLINEAR COLON,HORIZONTAL COLON,COLON SKEWED (LEFT,RIGHT),SUPRALINEAR COLON SKEWED LEFT,",
    "SUBLINEAR COLON SKEWED RIGHT,CONTRACTION,HARKLEAN (OBELUS,METOBELUS,ASTERISCUS))"]⟩,
  ⟨0x070F, ["SYRIAC (ABBREVIATION MARK,LETTER (ALAPH,SUPERSCRIPT ALAPH,BETH,GAMAL(, GARSHUNI),",
    "DALATH,DOTLESS DALATH RISH,HE,WAW,ZAIN,HETH,TETH(, GARSHUNI),YUDH(, HE),KAPH,LAMADH,MIM,NUN,",
    "SEMKATH,FINAL SEMKATH,E,PE,REVERSED PE,SADHE,QAPH,RISH,SHIN,TAW,PERSIAN (BHETH,GHAMAL,",
    "DHALATH)),PTHAHA (ABOVE,BELOW,DOTTED),ZQAPHA (ABOVE,BELOW,DOTTED),RBASA (ABOVE,BELOW),",
    "DOTTED ZLAMA (HORIZONTAL,ANGULAR),HBASA( ABOVE, BELOW,-ESASA DOTTED),ESASA (ABOVE,BELOW),",
    "RWAHA,FEMININE DOT,QUSHSHAYA,RUKKAKHA,TWO VERTICAL DOTS (ABOVE,BELOW),THREE DOTS (ABOVE,",
    "BELOW),OBLIQUE LINE (ABOVE,BELOW),MUSIC,BARREKH)"]⟩,
  ⟨0x074D, ["SYRIAC LETTER SOGDIAN (ZHAIN,KHAPH,FE),ARABIC LETTER (BEH WITH (",
    "THREE DOTS HORIZONTALLY BELOW,DOT BELOW AND THREE DOTS ABOVE,",
    "THREE DOTS POINTING UPWARDS BELOW(, AND TWO DOTS ABOVE),TWO DOTS BELOW AND DOT ABOVE,",
    "INVERTED SMALL V BELOW,SMALL V),HAH WITH (TWO DOTS ABOVE,THREE DOTS POINTING UPWARDS BELOW),",
    "DAL WITH (TWO DOTS VERTICALLY BELOW AND SMALL TAH,INVERTED SMALL V BELOW),REH WITH STROKE,",
    "SEEN WITH FOUR DOTS ABOVE,AIN WITH (TWO DOTS ABOVE,THREE DOTS POINTING DOWNWARDS ABOVE,",
    "TWO DOTS VERTICALLY ABOVE),FEH WITH (TWO DOTS BELOW,THREE DOTS POINTING UPWARDS BELOW),",
    "KEHEH WITH (DOT ABOVE,THREE DOTS (ABOVE,POINTING UPWARDS BELOW)),MEEM WITH DOT (ABOVE,BELOW),",
    "NOON WITH (TWO DOTS BELOW,SMALL (TAH,V)),LAM WITH BAR,REH WITH (TWO DOTS VERTICALLY ABOVE,",
    "HAMZA ABOVE),SEEN WITH TWO DOTS VERTICALLY ABOVE,HAH WITH SMALL ARABIC LETTER TAH (BELOW,",
    "AND TWO DOTS),SEEN WITH SMALL ARABIC LETTER TAH AND TWO DOTS,",
    "REH WITH SMALL ARABIC LETTER TAH AND TWO DOTS,HAH WITH SMALL ARABIC LETTER TAH ABOVE,",
    "ALEF WITH EXTENDED ARABIC-INDIC DIGIT (TWO ABOVE,THREE ABOVE),",
    "FARSI YEH WITH EXTENDED ARABIC-INDIC DIGIT (TWO ABOVE,THREE ABOVE,FOUR BELOW),",
    "WAW WITH EXTENDED ARABIC-INDIC DIGIT (TWO ABOVE,THREE ABOVE),",
    "YEH BARREE WITH EXTENDED ARABIC-INDIC DIGIT (TWO ABOVE,THREE ABOVE),",
    "HAH WITH EXTENDED ARABIC-INDIC DIGIT FOUR BELOW,SEEN WITH (",
    "EXTENDED ARABIC-INDIC DIGIT FOUR ABOVE,INVERTED V),KAF WITH TWO DOTS ABOVE),THAANA (LETTER (",
    "HAA,SHAVIYANI,NOONU,RAA,BAA,LHAVIYANI,KAAFU,ALIFU,VAAVU,MEEMU,FAAFU,DHAALU,THAA,LAAMU,GAAFU,",
    "GNAVIYANI,SEENU,DAVIYANI,ZAVIYANI,TAVIYANI,YAA,PAVIYANI,JAVIYANI,CHAVIYANI,TTAA,HHAA,KHAA,",
    "THAALU,ZAA,SHEENU,SAADHU,DAADHU,TO,ZO,AINU,GHAINU,QAAFU,WAAVU),ABAFILI,AABAAFILI,IBIFILI,",
    "EEBEEFILI,UBUFILI,OOBOOFILI,EBEFILI,EYBEYFILI,OBOFILI,OABOAFILI,SUKUN,LETTER NAA)"]⟩,
  ⟨0x07C0, ["NKO (DIGIT (ZERO,ONE,TWO,THREE,FOUR,FIVE,SIX,SEVEN,EIGHT,NINE),LETTER (A,EE,I,E,U,OO,",
    "O,DAGBASINNA,N,BA,PA,TA,JA,CHA,DA,RA,RRA,SA,GBA,FA,KA,LA,NA WOLOSO,MA,NYA,NA,HA,WA,YA,",
    "NYA WOLOSO,JONA (JA,CHA,RA)),COMBINING (SHORT (HIGH TONE,LOW TONE,RISING TONE),LONG (",
    "DESCENDING TONE,HIGH TONE,LOW TONE,RISING TONE),NASALIZATION MARK,DOUBLE DOT ABOVE),",
    "HIGH TONE APOSTROPHE,LOW TONE APOSTROPHE,SYMBOL (OO DENNEN,GBAKURUNEN),COMMA,",
    "EXCLAMATION MARK,LAJANYALAN)"]⟩,
  ⟨0x07FD, ["NKO (DANTAYALAN,DOROME SIGN,TAMAN SIGN),SAMARITAN (LETTER (ALAF,BIT,GAMAN,DALAT,IY,",
    "BAA,ZEN,IT,TIT,YUT,KAAF,LABAT,MIM,NUN,SINGAAT,IN,FI,TSAADIY,QUF,RISH,SHAN,TAAF),MARK (IN,",
    "IN-ALAF,OCCLUSION,DAGESH),MODIFIER LETTER EPENTHETIC YUT,MARK EPENTHETIC YUT,VOWEL SIGN (",
    "LONG E,E,OVERLONG AA,LONG AA,AA,OVERLONG A,LONG A,A),MODIFIER LETTER SHORT A,VOWEL SIGN (",
    "SHORT A,LONG U,U),MODIFIER LETTER I,VOWEL SIGN (LONG I,I,O,SUKUN),MARK NEQUDAA)"]⟩,
  ⟨0x0830, ["SAMARITAN (PUNCTUATION (NEQUDAA,AFSAAQ,ANGED,BAU,ATMAAU,SHIYYAALAA),",
    "ABBREVIATION MARK,PUNCTUATION (MELODIC QITSA,ZIQAA,QITSA,ZAEF,TURU,ARKAANU,SOF MASHFAAT,",
    "ANNAAU))"]⟩,
  ⟨0x0840, ["MANDAIC (LETTER (HALQA,AB,AG,AD,AH,USHENNA,AZ,IT,ATT,AKSA,AK,AL,AM,AN,AS,IN,AP,ASZ,",
    "AQ,AR,ASH,AT,DUSHENNA,KAD,AIN),AFFRICATION MARK,VOCALIZATION MARK,GEMINATION MARK)"]⟩,
  ⟨0x085E, ["MANDAIC PUNCTUATION"]⟩,
  ⟨0x0860, ["SYRIAC LETTER MALAYALAM (NGA,JA,NYA,TTA,NNA,NNNA,BHA,RA,LLA,LLLA,SSA)"]⟩,
  ⟨0x0870, ["ARABIC (LETTER ALEF WITH (ATTACHED (FATHA,TOP RIGHT FATHA),RIGHT MIDDLE STROKE,",
    "LEFT MIDDLE STROKE,ATTACHED (KASRA,BOTTOM RIGHT KASRA,ROUND DOT ABOVE,RIGHT ROUND DOT,",
    "LEFT ROUND DOT,ROUND DOT BELOW),DOT ABOVE,ATTACHED TOP RIGHT FATHA AND DOT ABOVE,",
    "RIGHT MIDDLE STROKE AND DOT ABOVE,ATTACHED (BOTTOM RIGHT KASRA AND DOT ABOVE,",
    "TOP RIGHT FATHA AND LEFT RING),RIGHT MIDDLE STROKE AND LEFT RING,ATTACHED (",
    "BOTTOM RIGHT KASRA AND LEFT RING,RIGHT HAMZA,LEFT HAMZA)),TATWEEL WITH (OVERSTRUCK (HAMZA,",
    "WAW),TWO DOTS BELOW),LETTER THIN YEH,BASELINE ROUND DOT,RAISED ROUND DOT,LETTER (",
    "NOON WITH INVERTED SMALL V,HAH WITH INVERTED SMALL V BELOW,TAH WITH (DOT BELOW,",
    "THREE DOTS BELOW),KEHEH WITH TWO DOTS VERTICALLY BELOW),VERTICAL TAIL)"]⟩,
  ⟨0x0890, ["ARABIC (POUND MARK ABOVE,PIASTRE MARK ABOVE)"]⟩,
  ⟨0x0898, ["ARABIC (SMALL (HIGH WORD AL-JUZ,LOW WORD (ISHMAAM,IMAALA,TASHEEL)),MADDA WAAJIB,",
    "SUPERSCRIPT ALEF MOKHASSAS,DOUBLED MADDA,HALF MADDA OVER MADDA,LETTER (BEH WITH (",
    "SMALL V BELOW,HAMZA ABOVE),JEEM WITH TWO DOTS ABOVE,TAH WITH TWO DOTS ABOVE,",
    "FEH WITH DOT BELOW AND THREE DOTS ABOVE,QAF WITH DOT BELOW,LAM WITH DOUBLE BAR,",
    "MEEM WITH THREE DOTS ABOVE,YEH WITH TWO DOTS BELOW AND (HAMZA ABOVE,DOT ABOVE),REH WITH LOOP,",
    "WAW WITH DOT WITHIN,ROHINGYA YEH,LOW ALEF,DAL WITH THREE DOTS BELOW,",
    "SAD WITH THREE DOTS BELOW,GAF WITH INVERTED STROKE,STRAIGHT WAW,ZAIN WITH INVERTED V ABOVE,",
    "AIN WITH THREE DOTS BELOW,KAF WITH DOT BELOW,QAF WITH DOT BELOW AND NO DOTS ABOVE,",
    "BEH WITH SMALL MEEM ABOVE,PEH WITH SMALL MEEM ABOVE,TEH WITH SMALL TEH ABOVE,",
    "REH WITH SMALL NOON ABOVE,YEH WITH TWO DOTS BELOW AND SMALL NOON ABOVE,AFRICAN (FEH,QAF,",
    "NOON),PEH WITH SMALL V,TEH WITH SMALL V,TTEH WITH SMALL V,TCHEH WITH SMALL V,",
    "KEHEH WITH SMALL V,GHAIN WITH THREE DOTS ABOVE,AFRICAN QAF WITH THREE DOTS ABOVE,",
    "JEEM WITH THREE DOTS (ABOVE,BELOW),LAM WITH SMALL ARABIC LETTER TAH ABOVE,GRAF),SMALL (",
    "FARSI YEH,HIGH (FARSI YEH,YEH BARREE WITH TWO DOTS BELOW,WORD SAH,ZAH)),LARGE ROUND DOT (",
    "ABOVE,BELOW),SUKUN BELOW,LARGE (CIRCLE BELOW,ROUND DOT INSIDE CIRCLE BELOW),SMALL (LOW WAW,",
    "HIGH (WORD AR-RUB,SAD,AIN,QAF,NOON WITH KASRA),LOW NOON WITH KASRA,HIGH (WORD (ATH-THALATHA,",
    "AS-SAJDA,AN-NISF,SAKTA,QIF,WAQFA),FOOTNOTE MARKER,SIGN SAFHA)),DISPUTED END OF AYAH,",
    "TURNED DAMMA BELOW,CURLY (FATHA,DAMMA,KASRA,FATHATAN,DAMMATAN,KASRATAN),TONE (ONE DOT ABOVE,",
    "TWO DOTS ABOVE,LOOP ABOVE,ONE DOT BELOW,TWO DOTS BELOW,LOOP BELOW),OPEN (FATHATAN,DAMMATAN,",
    "KASRATAN),SMALL HIGH WAW,FATHA WITH (RING,DOT ABOVE),KASRA WITH DOT BELOW,",
    "LEFT ARROWHEAD ABOVE,RIGHT ARROWHEAD ABOVE,LEFT ARROWHEAD BELOW,RIGHT ARROWHEAD BELOW,",
    "DOUBLE RIGHT ARROWHEAD ABOVE(, WITH DOT),RIGHT ARROWHEAD ABOVE WITH DOT,DAMMA WITH DOT,",
    "MARK SIDEWAYS NOON GHUNNA),DEVANAGARI (SIGN (INVERTED CANDRABINDU,CANDRABINDU,ANUSVARA,",
    "VISARGA),LETTER (SHORT A,A,AA,I,II,U,UU,VOCALIC (R,L),CANDRA E,SHORT E,E,AI,CANDRA O,SHORT O,",
    "O,AU,KA,KHA,GA,GHA,NGA,CA,CHA,JA,JHA,NYA,TTA,TTHA,DDA,DDHA,NNA,TA,THA,DA,DHA,NA,NNNA,PA,PHA,",
    "BA,BHA,MA,YA,RA,RRA,LA,LLA,LLLA,VA,SHA,SSA,SA,HA),VOWEL SIGN (OE,OOE),SIGN (NUKTA,AVAGRAHA),",
    "VOWEL SIGN (AA,I,II,U,UU,VOCALIC (R,RR),CANDRA E,SHORT E,E,AI,CANDRA O,SHORT O,O,AU),",
    "SIGN VIRAMA,VOWEL SIGN (PRISHTHAMATRA E,AW),OM,STRESS SIGN (UDATTA,ANUDATTA),GRAVE ACCENT,",
    "ACUTE ACCENT,VOWEL SIGN (CANDRA LONG E,UE,UUE),LETTER (QA,KHHA,GHHA,ZA,DDDHA,RHA,FA,YYA,",
    "VOCALIC (RR,LL)),VOWEL SIGN VOCALIC (L,LL),DANDA,DOUBLE DANDA,DIGIT (ZERO,ONE,TWO,THREE,FOUR,",
    "FIVE,SIX,SEVEN,EIGHT,NINE),ABBREVIATION SIGN,SIGN HIGH SPACING DOT,LETTER (CANDRA A,OE,OOE,",
    "AW,UE,UUE,MARWARI DDA,ZHA,HEAVY YA,GGA,JJA,GLOTTAL STOP,DDDA,BBA)),BENGALI (ANJI,SIGN (",
    "CANDRABINDU,ANUSVARA,VISARGA))"]⟩,
  ⟨0x0985, ["BENGALI LETTER (A,AA,I,II,U,UU,VOCALIC (R,L))"]⟩,
  ⟨0x098F, ["BENGALI LETTER (E,AI)"]⟩,
  ⟨0x0993, ["BENGALI LETTER (O,AU,KA,KHA,GA,GHA,NGA,CA,CHA,JA,JHA,NYA,TTA,TTHA,DDA,DDHA,NNA,TA,",
    "THA,DA,DHA,NA)"]⟩,
  ⟨0x09AA, ["BENGALI LETTER (PA,PHA,BA,BHA,MA,YA,RA)"]⟩,
  ⟨0x09B2, ["BENGALI LETTER LA"]⟩,
  ⟨0x09B6, ["BENGALI LETTER (SHA,SSA,SA,HA)"]⟩,
  ⟨0x09BC, ["BENGALI (SIGN (NUKTA,AVAGRAHA),VOWEL SIGN (AA,I,II,U,UU,VOCALIC (R,RR)))"]⟩,
  ⟨0x09C7, ["BENGALI VOWEL SIGN (E,AI)"]⟩,
  ⟨0x09CB, ["BENGALI (VOWEL SIGN (O,AU),SIGN VIRAMA,LETTER KHANDA TA)"]⟩,
  ⟨0x09D7, ["BENGALI AU LENGTH MARK"]⟩,
  ⟨0x09DC, ["BENGALI LETTER (RRA,RHA)"]⟩,
  ⟨0x09DF, ["BENGALI (LETTER (YYA,VOCALIC (RR,LL)),VOWEL SIGN VOCALIC (L,LL))"]⟩,
  ⟨0x09E6, ["BENGALI (DIGIT (ZERO,ONE,TWO,THREE,FOUR,FIVE,SIX,SEVEN,EIGHT,NINE),LETTER RA WITH (",
    "MIDDLE DIAGONAL,LOWER DIAGONAL),RUPEE (MARK,SIGN),CURRENCY (NUMERATOR (ONE,TWO,THREE,FOUR,",
    "ONE LESS THAN THE DENOMINATOR),DENOMINATOR SIXTEEN),ISSHAR,GANDA MARK,LETTER VEDIC ANUSVARA,",
    "ABBREVIATION SIGN,SANDHI MARK)"]⟩,
  ⟨0x0A01, ["GURMUKHI SIGN (ADAK BINDI,BINDI,VISARGA)"]⟩,
  ⟨0x0A05, ["GURMUKHI LETTER (A,AA,I,II,U,UU)"]⟩,
  ⟨0x0A0F, ["GURMUKHI LETTER (EE,AI)"]⟩,
  ⟨0x0A13, ["GURMUKHI LETTER (OO,AU,KA,KHA,GA,GHA,NGA,CA,CHA,JA,JHA,NYA,TTA,TTHA,DDA,DDHA,NNA,TA,",
    "THA,DA,DHA,NA)"]⟩,
  ⟨0x0A2A, ["GURMUKHI LETTER (PA,PHA,BA,BHA,MA,YA,RA)"]⟩,
  ⟨0x0A32, ["GURMUKHI LETTER (LA,LLA)"]⟩,
  ⟨0x0A35, ["GURMUKHI LETTER (VA,SHA)"]⟩,
  ⟨0x0A38, ["GURMUKHI LETTER (SA,HA)"]⟩,
  ⟨0x0A3C, ["GURMUKHI SIGN NUKTA"]⟩,
  ⟨0x0A3E, ["GURMUKHI VOWEL SIGN (AA,I,II,U,UU)"]⟩,
  ⟨0x0A47, ["GURMUKHI VOWEL SIGN (EE,AI)"]⟩,
  ⟨0x0A4B, ["GURMUKHI (VOWEL SIGN (OO,AU),SIGN VIRAMA)"]⟩,
  ⟨0x0A51, ["GURMUKHI SIGN UDAAT"]⟩,
  ⟨0x0A59, ["GURMUKHI LETTER (KHHA,GHHA,ZA,RRA)"]⟩,
  ⟨0x0A5E, ["GURMUKHI LETTER FA"]⟩,
  ⟨0x0A66, ["GURMUKHI (DIGIT (ZERO,ONE,TWO,THREE,FOUR,FIVE,SIX,SEVEN,EIGHT,NINE),TIPPI,ADDAK,IRI,",
    "URA,EK ONKAR,SIGN YAKASH,ABBREVIATION SIGN)"]⟩,
  ⟨0x0A81, ["GUJARATI SIGN (CANDRABINDU,ANUSVARA,VISARGA)"]⟩,
  ⟨0x0A85, ["GUJARATI (LETTER (A,AA,I,II,U,UU,VOCALIC (R,L)),VOWEL CANDRA E)"]⟩,
  ⟨0x0A8F, ["GUJARATI (LETTER (E,AI),VOWEL CANDRA O)"]⟩,
  ⟨0x0A93, ["GUJARATI LETTER (O,AU,KA,KHA,GA,GHA,NGA,CA,CHA,JA,JHA,NYA,TTA,TTHA,DDA,DDHA,NNA,TA,",
    "THA,DA,DHA,NA)"]⟩,
  ⟨0x0AAA, ["GUJARATI LETTER (PA,PHA,BA,BHA,MA,YA,RA)"]⟩,
  ⟨0x0AB2, ["GUJARATI LETTER (LA,LLA)"]⟩,
  ⟨0x0AB5, ["GUJARATI LETTER (VA,SHA,SSA,SA,HA)"]⟩,
  ⟨0x0ABC, ["GUJARATI (SIGN (NUKTA,AVAGRAHA),VOWEL SIGN (AA,I,II,U,UU,VOCALIC (R,RR),CANDRA E))"]⟩,
  ⟨0x0AC7, ["GUJARATI VOWEL SIGN (E,AI,CANDRA O)"]⟩,
  ⟨0x0ACB, ["GUJARATI (VOWEL SIGN (O,AU),SIGN VIRAMA)"]⟩,
  ⟨0x0AD0, ["GUJARATI OM"]⟩,
  ⟨0x0AE0, ["GUJARATI (LETTER VOCALIC (RR,LL),VOWEL SIGN VOCALIC (L,LL))"]⟩,
  ⟨0x0AE6, ["GUJARATI (DIGIT (ZERO,ONE,TWO,THREE,FOUR,FIVE,SIX,SEVEN,EIGHT,NINE),",
    "ABBREVIATION SIGN,RUPEE SIGN)"]⟩,
  ⟨0x0AF9, ["GUJARATI (LETTER ZHA,SIGN (SUKUN,SHADDA,MADDAH,THREE-DOT NUKTA ABOVE,",
    "CIRCLE NUKTA ABOVE,TWO-CIRCLE NUKTA ABOVE))"]⟩,
  ⟨0x0B01, ["ORIYA SIGN (CANDRABINDU,ANUSVARA,VISARGA)"]⟩,
  ⟨0x0B05, ["ORIYA LETTER (A,AA,I,II,U,UU,VOCALIC (R,L))"]⟩,
  ⟨0x0B0F, ["ORIYA LETTER (E,AI)"]⟩,
  ⟨0x0B13, ["ORIYA LETTER (O,AU,KA,KHA,GA,GHA,NGA,CA,CHA,JA,JHA,NYA,TTA,TTHA,DDA,DDHA,NNA,TA,THA,",
    "DA,DHA,NA)"]⟩,
  ⟨0x0B2A, ["ORIYA LETTER (PA,PHA,BA,BHA,MA,YA,RA)"]⟩,
  ⟨0x0B32, ["ORIYA LETTER (LA,LLA)"]⟩,
  ⟨0x0B35, ["ORIYA LETTER (VA,SHA,SSA,SA,HA)"]⟩,
  ⟨0x0B3C, ["ORIYA (SIGN (NUKTA,AVAGRAHA),VOWEL SIGN (AA,I,II,U,UU,VOCALIC (R,RR)))"]⟩,
  ⟨0x0B47, ["ORIYA VOWEL SIGN (E,AI)"]⟩,
  ⟨0x0B4B, ["ORIYA (VOWEL SIGN (O,AU),SIGN VIRAMA)"]⟩,
  ⟨0x0B55, ["ORIYA (SIGN OVERLINE,AI LENGTH MARK,AU LENGTH MARK)"]⟩,
  ⟨0x0B5C, ["ORIYA LETTER (RRA,RHA)"]⟩,
  ⟨0x0B5F, ["ORIYA (LETTER (YYA,VOCALIC (RR,LL)),VOWEL SIGN VOCALIC (L,LL))"]⟩,
  ⟨0x0B66, ["ORIYA (DIGIT (ZERO,ONE,TWO,THREE,FOUR,FIVE,SIX,SEVEN,EIGHT,NINE),ISSHAR,LETTER WA,",
    "FRACTION (ONE (QUARTER,HALF),THREE QUARTERS,ONE (SIXTEENTH,EIGHTH),THREE SIXTEENTHS))"]⟩,
  ⟨0x0B82, ["TAMIL SIGN (ANUSVARA,VISARGA)"]⟩,
  ⟨0x0B85, ["TAMIL LETTER (A,AA,I,II,U,UU)"]⟩,
  ⟨0x0B8E, ["TAMIL LETTER (E,EE,AI)"]⟩,
  ⟨0x0B92, ["TAMIL LETTER (O,OO,AU,KA)"]⟩,
  ⟨0x0B99, ["TAMIL LETTER (NGA,CA)"]⟩,
  ⟨0x0B9C, ["TAMIL LETTER JA"]⟩,
  ⟨0x0B9E, ["TAMIL LETTER (NYA,TTA)"]⟩,
  ⟨0x0BA3, ["TAMIL LETTER (NNA,TA)"]⟩,
  ⟨0x0BA8, ["TAMIL LETTER (NA,NNNA,PA)"]⟩,
  ⟨0x0BAE, ["TAMIL LETTER (MA,YA,RA,RRA,LA,LLA,LLLA,VA,SHA,SSA,SA,HA)"]⟩,
  ⟨0x0BBE, ["TAMIL VOWEL SIGN (AA,I,II,U,UU)"]⟩,
  ⟨0x0BC6, ["TAMIL VOWEL SIGN (E,EE,AI)"]⟩,
  ⟨0x0BCA, ["TAMIL (VOWEL SIGN (O,OO,AU),SIGN VIRAMA)"]⟩,
  ⟨0x0BD0, ["TAMIL OM"]⟩,
  ⟨0x0BD7, ["TAMIL AU LENGTH MARK"]⟩,
  ⟨0x0BE6, ["TAMIL (DIGIT (ZERO,ONE,TWO,THREE,FOUR,FIVE,SIX,SEVEN,EIGHT,NINE),NUMBER (TEN,ONE (",
    "HUNDRED,THOUSAND)),DAY SIGN,MONTH SIGN,YEAR SIGN,DEBIT SIGN,CREDIT SIGN,AS ABOVE SIGN,",
    "RUPEE SIGN,NUMBER SIGN)"]⟩,
  ⟨0x0C00, ["TELUGU (SIGN (COMBINING CANDRABINDU ABOVE,CANDRABINDU,ANUSVARA,VISARGA,",
    "COMBINING ANUSVARA ABOVE),LETTER (A,AA,I,II,U,UU,VOCALIC (R,L)))"]⟩,
  ⟨0x0C0E, ["TELUGU LETTER (E,EE,AI)"]⟩,
  ⟨0x0C12, ["TELUGU LETTER (O,OO,AU,KA,KHA,GA,GHA,NGA,CA,CHA,JA,JHA,NYA,TTA,TTHA,DDA,DDHA,NNA,TA,",
    "THA,DA,DHA,NA)"]⟩,
  ⟨0x0C2A, ["TELUGU LETTER (PA,PHA,BA,BHA,MA,YA,RA,RRA,LA,LLA,LLLA,VA,SHA,SSA,SA,HA)"]⟩,
  ⟨0x0C3C, ["TELUGU (SIGN (NUKTA,AVAGRAHA),VOWEL SIGN (AA,I,II,U,UU,VOCALIC (R,RR)))"]⟩,
  ⟨0x0C46, ["TELUGU VOWEL SIGN (E,EE,AI)"]⟩,
  ⟨0x0C4A, ["TELUGU (VOWEL SIGN (O,OO,AU),SIGN VIRAMA)"]⟩,
  ⟨0x0C55, ["TELUGU (LENGTH MARK,AI LENGTH MARK)"]⟩,
  ⟨0x0C58, ["TELUGU LETTER (TSA,DZA,RRRA)"]⟩,
  ⟨0x0C5D, ["TELUGU LETTER NAKAARA POLLU"]⟩,
  ⟨0x0C60, ["TELUGU (LETTER VOCALIC (RR,LL),VOWEL SIGN VOCALIC (L,LL))"]⟩,
  ⟨0x0C66, ["TELUGU DIGIT (ZERO,ONE,TWO,THREE,FOUR,FIVE,SIX,SEVEN,EIGHT,NINE)"]⟩,
  ⟨0x0C77, ["TELUGU (SIGN SIDDHAM,FRACTION DIGIT (ZERO FOR ODD POWERS OF FOUR,",
    "ONE FOR ODD POWERS OF FOUR,TWO FOR ODD POWERS OF FOUR,THREE FOR ODD POWERS OF FOUR,",
    "ONE FOR EVEN POWERS OF FOUR,TWO FOR EVEN POWERS OF FOUR,THREE FOR EVEN POWERS OF FOUR),",
    "SIGN TUUMU),KANNADA (SIGN (SPACING CANDRABINDU,CANDRABINDU,ANUSVARA,VISARGA,SIDDHAM),LETTER (",
    "A,AA,I,II,U,UU,VOCALIC (R,L)))"]⟩,
  ⟨0x0C8E, ["KANNADA LETTER (E,EE,AI)"]⟩,
  ⟨0x0C92, ["KANNADA LETTER (O,OO,AU,KA,KHA,GA,GHA,NGA,CA,CHA,JA,JHA,NYA,TTA,TTHA,DDA,DDHA,NNA,TA,",
    "THA,DA,DHA,NA)"]⟩,
  ⟨0x0CAA, ["KANNADA LETTER (PA,PHA,BA,BHA,MA,YA,RA,RRA,LA,LLA)"]⟩,
  ⟨0x0CB5, ["KANNADA LETTER (VA,SHA,SSA,SA,HA)"]⟩,
  ⟨0x0CBC, ["KANNADA (SIGN (NUKTA,AVAGRAHA),VOWEL SIGN (AA,I,II,U,UU,VOCALIC (R,RR)))"]⟩,
  ⟨0x0CC6, ["KANNADA VOWEL SIGN (E,EE,AI)"]⟩,
  ⟨0x0CCA, ["KANNADA (VOWEL SIGN (O,OO,AU),SIGN VIRAMA)"]⟩,
  ⟨0x0CD5, ["KANNADA (LENGTH MARK,AI LENGTH MARK)"]⟩,
  ⟨0x0CDD, ["KANNADA LETTER (NAKAARA POLLU,FA)"]⟩,
  ⟨0x0CE0, ["KANNADA (LETTER VOCALIC (RR,LL),VOWEL SIGN VOCALIC (L,LL))"]⟩,
  ⟨0x0CE6, ["KANNADA DIGIT (ZERO,ONE,TWO,THREE,FOUR,FIVE,SIX,SEVEN,EIGHT,NINE)"]⟩,
  ⟨0x0CF1, ["KANNADA SIGN (JIHVAMULIYA,UPADHMANIYA)"]⟩,
  ⟨0x0D00, ["MALAYALAM (SIGN (COMBINING ANUSVARA ABOVE,CANDRABINDU,ANUSVARA,VISARGA),LETTER (",
    "VEDIC ANUSVARA,A,AA,I,II,U,UU,VOCALIC (R,L)))"]⟩,
  ⟨0x0D0E, ["MALAYALAM LETTER (E,EE,AI)"]⟩,
  ⟨0x0D12, ["MALAYALAM (LETTER (O,OO,AU,KA,KHA,GA,GHA,NGA,CA,CHA,JA,JHA,NYA,TTA,TTHA,DDA,DDHA,NNA,",
    "TA,THA,DA,DHA,NA,NNNA,PA,PHA,BA,BHA,MA,YA,RA,RRA,LA,LLA,LLLA,VA,SHA,SSA,SA,HA,TTTA),SIGN (",
    "VERTICAL BAR VIRAMA,CIRCULAR VIRAMA,AVAGRAHA),VOWEL SIGN (AA,I,II,U,UU,VOCALIC (R,RR)))"]⟩,
  ⟨0x0D46, ["MALAYALAM VOWEL SIGN (E,EE,AI)"]⟩,
  ⟨0x0D4A, ["MALAYALAM (VOWEL SIGN (O,OO,AU),SIGN VIRAMA,LETTER DOT REPH,SIGN PARA)"]⟩,
  ⟨0x0D54, ["MALAYALAM (LETTER CHILLU (M,Y,LLL),AU LENGTH MARK,FRACTION (ONE (",
    "ONE-HUNDRED-AND-SIXTIETH,FORTIETH),THREE EIGHTIETHS,ONE (TWENTIETH,TENTH),THREE TWENTIETHS,",
    "ONE FIFTH),LETTER (ARCHAIC II,VOCALIC (RR,LL)),VOWEL SIGN VOCALIC (L,LL))"]⟩,
  ⟨0x0D66, ["MALAYALAM (DIGIT (ZERO,ONE,TWO,THREE,FOUR,FIVE,SIX,SEVEN,EIGHT,NINE),NUMBER (TEN,",
    "ONE (HUNDRED,THOUSAND)),FRACTION (ONE (QUARTER,HALF),THREE QUARTERS,ONE (SIXTEENTH,EIGHTH),",
    "THREE SIXTEENTHS),DATE MARK,LETTER CHILLU (NN,N,RR,L,LL,K))"]⟩,
  ⟨0x0D81, ["SINHALA SIGN (CANDRABINDU,ANUSVARAYA,VISARGAYA)"]⟩,
  ⟨0x0D85, ["SINHALA LETTER (AYANNA,AAYANNA,AEYANNA,AEEYANNA,IYANNA,IIYANNA,UYANNA,UUYANNA,",
    "IRUYANNA,IRUUYANNA,ILUYANNA,ILUUYANNA,EYANNA,EEYANNA,AIYANNA,OYANNA,OOYANNA,AUYANNA)"]⟩,
  ⟨0x0D9A, ["SINHALA LETTER (ALPAPRAANA KAYANNA,MAHAAPRAANA KAYANNA,ALPAPRAANA GAYANNA,",
    "MAHAAPRAANA GAYANNA,KANTAJA NAASIKYAYA,SANYAKA GAYANNA,ALPAPRAANA CAYANNA,",
    "MAHAAPRAANA CAYANNA,ALPAPRAANA JAYANNA,MAHAAPRAANA JAYANNA,TAALUJA (NAASIKYAYA,",
    "SANYOOGA NAAKSIKYAYA),SANYAKA JAYANNA,ALPAPRAANA TTAYANNA,MAHAAPRAANA TTAYANNA,",
    "ALPAPRAANA DDAYANNA,MAHAAPRAANA DDAYANNA,MUURDHAJA NAYANNA,SANYAKA DDAYANNA,",
    "ALPAPRAANA TAYANNA,MAHAAPRAANA TAYANNA,ALPAPRAANA DAYANNA,MAHAAPRAANA DAYANNA,",
    "DANTAJA NAYANNA)"]⟩,
  ⟨0x0DB3, ["SINHALA LETTER (SANYAKA DAYANNA,ALPAPRAANA PAYANNA,MAHAAPRAANA PAYANNA,",
    "ALPAPRAANA BAYANNA,MAHAAPRAANA BAYANNA,MAYANNA,AMBA BAYANNA,YAYANNA,RAYANNA)"]⟩,
  ⟨0x0DBD, ["SINHALA LETTER DANTAJA LAYANNA"]⟩,
  ⟨0x0DC0, ["SINHALA LETTER (VAYANNA,TAALUJA SAYANNA,MUURDHAJA SAYANNA,DANTAJA SAYANNA,HAYANNA,",
    "MUURDHAJA LAYANNA,FAYANNA)"]⟩,
  ⟨0x0DCA, ["SINHALA SIGN AL-LAKUNA"]⟩,
  ⟨0x0DCF, ["SINHALA VOWEL SIGN (AELA-PILLA,KETTI AEDA-PILLA,DIGA AEDA-PILLA,KETTI IS-PILLA,",
    "DIGA IS-PILLA,KETTI PAA-PILLA)"]⟩,
  ⟨0x0DD6, ["SINHALA VOWEL SIGN DIGA PAA-PILLA"]⟩,
  ⟨0x0DD8, ["SINHALA VOWEL SIGN (GAETTA-PILLA,KOMBUVA,DIGA KOMBUVA,KOMBU DEKA,KOMBUVA HAA (",
    "AELA-PILLA,DIGA AELA-PILLA,GAYANUKITTA),GAYANUKITTA)"]⟩,
  ⟨0x0DE6, ["SINHALA LITH DIGIT (ZERO,ONE,TWO,THREE,FOUR,FIVE,SIX,SEVEN,EIGHT,NINE)"]⟩,
  ⟨0x0DF2, ["SINHALA (VOWEL SIGN DIGA (GAETTA-PILLA,GAYANUKITTA),PUNCTUATION KUNDDALIYA)"]⟩,
  ⟨0x0E01, ["THAI CHARACTER (KO KAI,KHO (KHAI,KHUAT,KHWAI,KHON,RAKHANG),NGO NGU,CHO (CHAN,CHING,",
    "CHANG),SO SO,CHO CHOE,YO YING,DO CHADA,TO PATAK,THO (THAN,NANGMONTHO,PHUTHAO),NO NEN,DO DEK,",
    "TO TAO,THO (THUNG,THAHAN,THONG),NO NU,BO BAIMAI,PO PLA,PHO PHUNG,FO FA,PHO PHAN,FO FAN,",
    "PHO SAMPHAO,MO MA,YO YAK,RO RUA,RU,LO LING,LU,WO WAEN,SO (SALA,RUSI,SUA),HO HIP,LO CHULA,",
    "O ANG,HO NOKHUK,PAIYANNOI,SARA A,MAI HAN-AKAT,SARA (AA,AM,I,II,UE,UEE,U,UU),PHINTHU)"]⟩,
  ⟨0x0E3F, ["THAI (CURRENCY SYMBOL BAHT,CHARACTER (SARA (E,AE,O,AI (MAIMUAN,MAIMALAI)),",
    "LAKKHANGYAO,MAIYAMOK,MAITAIKHU,MAI (EK,THO,TRI,CHATTAWA),THANTHAKHAT,NIKHAHIT,YAMAKKAN,",
    "FONGMAN),DIGIT (ZERO,ONE,TWO,THREE,FOUR,FIVE,SIX,SEVEN,EIGHT,NINE),CHARACTER (ANGKHANKHU,",
    "KHOMUT))"]⟩,
  ⟨0x0E81, ["LAO LETTER (KO,KHO SUNG)"]⟩,
  ⟨0x0E84, ["LAO LETTER KHO TAM"]⟩,
  ⟨0x0E86, ["LAO LETTER (PALI GHA,NGO,CO,PALI CHA,SO TAM)"]⟩,
  ⟨0x0E8C, ["LAO LETTER (PALI JHA,NYO,PALI (NYA,TTA,TTHA,DDA,DDHA,NNA),DO,TO,THO (SUNG,TAM),",
    "PALI DHA,NO,BO,PO,PHO SUNG,FO TAM,PHO TAM,FO SUNG,PALI BHA,MO,YO,LO LING)"]⟩,
  ⟨0x0EA5, ["LAO LETTER LO LOOT"]⟩,
  ⟨0x0EA7, ["LAO (LETTER (WO,SANSKRIT (SHA,SSA),SO SUNG,HO SUNG,PALI LLA,O,HO TAM),ELLIPSIS,",
    "VOWEL SIGN (A,MAI KAN,AA,AM,I,II,Y,YY,U,UU),SIGN PALI VIRAMA,VOWEL SIGN MAI KON,",
    "SEMIVOWEL SIGN (LO,NYO))"]⟩,
  ⟨0x0EC0, ["LAO VOWEL SIGN (E,EI,O,AY,AI)"]⟩,
  ⟨0x0EC6, ["LAO KO LA"]⟩,
  ⟨0x0EC8, ["LAO (TONE MAI (EK,THO,TI,CATAWA),CANCELLATION MARK,NIGGAHITA)"]⟩,
  ⟨0x0ED0, ["LAO DIGIT (ZERO,ONE,TWO,THREE,FOUR,FIVE,SIX,SEVEN,EIGHT,NINE)"]⟩,
  ⟨0x0EDC, ["LAO (HO (NO,MO),LETTER KHMU (GO,NYO))"]⟩,
  ⟨0x0F00, ["TIBETAN (SYLLABLE OM,MARK (GTER YIG MGO (TRUNCATED A,-UM (RNAM BCAD MA,",
    "GTER TSHEG MA)),INITIAL YIG MGO MDUN MA,CLOSING YIG MGO SGAB MA,CARET YIG MGO PHUR SHAD MA,",
    "YIG MGO TSHEG SHAD MA,SBRUL SHAD,BSKUR YIG MGO,BKA- SHOG YIG MGO,INTERSYLLABIC TSHEG,",
    "DELIMITER TSHEG BSTAR,SHAD,NYIS SHAD,TSHEG SHAD,NYIS TSHEG SHAD,RIN CHEN SPUNGS SHAD,",
    "RGYA GRAM SHAD,CARET -DZUD RTAGS ME LONG CAN,GTER TSHEG),LOGOTYPE SIGN (CHAD RTAGS,",
    "LHAG RTAGS),ASTROLOGICAL SIGN (SGRA GCAN -CHAR RTAGS,-KHYUD PA,SDONG TSHUGS),SIGN RDEL (",
    "DKAR (GCIG,GNYIS,GSUM),NAG (GCIG,GNYIS),DKAR RDEL NAG),DIGIT (ZERO,ONE,TWO,THREE,FOUR,FIVE,",
    "SIX,SEVEN,EIGHT,NINE,HALF (ONE,TWO,THREE,FOUR,FIVE,SIX,SEVEN,EIGHT,NINE,ZERO)),MARK (",
    "BSDUS RTAGS,NGAS BZUNG NYI ZLA,CARET -DZUD RTAGS BZHI MIG CAN,NGAS BZUNG SGOR RTAGS,CHE MGO,",
    "TSA -PHRU,GUG RTAGS (GYON,GYAS),ANG KHANG (GYON,GYAS)),SIGN (YAR TSHES,MAR TSHES),LETTER (KA,",
    "KHA,GA,GHA,NGA,CA,CHA,JA))"]⟩,
  ⟨0x0F49, ["TIBETAN LETTER (NYA,TTA,TTHA,DDA,DDHA,NNA,TA,THA,DA,DHA,NA,PA,PHA,BA,BHA,MA,TSA,TSHA,",
    "DZA,DZHA,WA,ZHA,ZA,-A,YA,RA,LA,SHA,SSA,SA,HA,A,KSSA,FIXED-FORM RA,KKA,RRA)"]⟩,
  ⟨0x0F71, ["TIBETAN (VOWEL SIGN (AA,I,II,U,UU,VOCALIC (R,RR,L,LL),E,EE,O,OO),SIGN (",
    "RJES SU NGA RO,RNAM BCAD),VOWEL SIGN REVERSED (I,II),SIGN (NYI ZLA NAA DA,SNA LDAN),MARK (",
    "HALANTA,PALUTA),SIGN (LCI RTAGS,YANG RTAGS,LCE TSA CAN,MCHU CAN,GRU (CAN RGYINGS,",
    "MED RGYINGS),INVERTED MCHU CAN),SUBJOINED (SIGN (LCE TSA CAN,MCHU CAN,INVERTED MCHU CAN),",
    "LETTER (KA,KHA,GA,GHA,NGA,CA,CHA,JA)))"]⟩,
  ⟨0x0F99, ["TIBETAN SUBJOINED LETTER (NYA,TTA,TTHA,DDA,DDHA,NNA,TA,THA,DA,DHA,NA,PA,PHA,BA,BHA,",
    "MA,TSA,TSHA,DZA,DZHA,WA,ZHA,ZA,-A,YA,RA,LA,SHA,SSA,SA,HA,A,KSSA,FIXED-FORM (WA,YA,RA))"]⟩,
  ⟨0x0FBE, ["TIBETAN (KU RU KHA(, BZHI MIG CAN),CANTILLATION SIGN (HEAVY BEAT,LIGHT BEAT,",
    "CANG TE-U,SBUB -CHAL),SYMBOL (DRIL BU,RDO RJE,PADMA GDAN,RDO RJE RGYA GRAM,PHUR PA,NOR BU(,",
    " NYIS -KHYIL, GSUM -KHYIL, BZHI -KHYIL)))"]⟩,
  ⟨0x0FCE, ["TIBETAN (SIGN RDEL NAG (RDEL DKAR,GSUM),MARK (BSKA- SHOG GI MGO RGYAN,",
    "MNYAM YIG GI MGO RGYAN,NYIS TSHEG,INITIAL BRDA RNYING YIG MGO MDUN MA,",
    "CLOSING BRDA RNYING YIG MGO SGAB MA)),RIGHT-FACING SVASTI SIGN,LEFT-FACING SVASTI SIGN,",
    "RIGHT-FACING SVASTI SIGN WITH DOTS,LEFT-FACING SVASTI SIGN WITH DOTS,TIBETAN MARK (",
    "LEADING MCHAN RTAGS,TRAILING MCHAN RTAGS)"]⟩,
  ⟨0x1000, ["MYANMAR (LETTER (KA,KHA,GA,GHA,NGA,CA,CHA,JA,JHA,NYA,NNYA,TTA,TTHA,DDA,DDHA,NNA,TA,",
    "THA,DA,DHA,NA,PA,PHA,BA,BHA,MA,YA,RA,LA,WA,SA,HA,LLA,A,SHAN A,I,II,U,UU,E,MON E,O,AU),",
    "VOWEL SIGN (TALL AA,AA,I,II,U,UU,E,AI,MON (II,O),E ABOVE),SIGN (ANUSVARA,DOT BELOW,VISARGA,",
    "VIRAMA,ASAT),CONSONANT SIGN MEDIAL (YA,RA,WA,HA),LETTER GREAT SA,DIGIT (ZERO,ONE,TWO,THREE,",
    "FOUR,FIVE,SIX,SEVEN,EIGHT,NINE),SIGN (LITTLE SECTION,SECTION),SYMBOL (LOCATIVE,COMPLETED,",
    "AFOREMENTIONED,GENITIVE),LETTER (SHA,SSA,VOCALIC (R,RR,L,LL)),VOWEL SIGN VOCALIC (R,RR,L,LL),",
    "LETTER MON (NGA,JHA,BBA,BBE),CONSONANT SIGN MON MEDIAL (NA,MA,LA),LETTER SGAW KAREN SHA,",
    "VOWEL SIGN SGAW KAREN EU,TONE MARK SGAW KAREN (HATHI,KE PHO),LETTER WESTERN PWO KAREN (THA,",
    "PWA),VOWEL SIGN WESTERN PWO KAREN (EU,UE),SIGN WESTERN PWO KAREN TONE-(1,2,3,4,5),",
    "LETTER EASTERN PWO KAREN (NNA,YWA,GHWA),VOWEL SIGN (GEBA KAREN I,KAYAH (OE,U,EE)),",
    "LETTER SHAN (KA,KHA,GA,CA,ZA,NYA,DA,NA,PHA,FA,BA,THA,HA),CONSONANT SIGN SHAN MEDIAL WA,",
    "VOWEL SIGN SHAN (AA,E,E ABOVE,FINAL Y),SIGN SHAN (TONE-(2,3,5,6),COUNCIL (TONE-(2,3),",
    "EMPHATIC TONE)),LETTER RUMAI PALAUNG FA,SIGN RUMAI PALAUNG TONE-5,SHAN DIGIT (ZERO,ONE,TWO,",
    "THREE,FOUR,FIVE,SIX,SEVEN,EIGHT,NINE),SIGN KHAMTI TONE-(1,3),VOWEL SIGN AITON (A,AI),",
    "SYMBOL SHAN (ONE,EXCLAMATION)),GEORGIAN CAPITAL LETTER (AN,BAN,GAN,DON,EN,VIN,ZEN,TAN,IN,KAN,",
    "LAS,MAN,NAR,ON,PAR,ZHAR,RAE,SAN,TAR,UN,PHAR,KHAR,GHAN,QAR,SHIN,CHIN,CAN,JIL,CIL,CHAR,XAN,",
    "JHAN,HAE,HE,HIE,WE,HAR,HOE)"]⟩,
  ⟨0x10C7, ["GEORGIAN CAPITAL LETTER YN"]⟩,
  ⟨0x10CD, ["GEORGIAN CAPITAL LETTER AEN"]⟩,
  ⟨0x10D0, ["GEORGIAN (LETTER (AN,BAN,GAN,DON,EN,VIN,ZEN,TAN,IN,KAN,LAS,MAN,NAR,ON,PAR,ZHAR,RAE,",
    "SAN,TAR,UN,PHAR,KHAR,GHAN,QAR,SHIN,CHIN,CAN,JIL,CIL,CHAR,XAN,JHAN,HAE,HE,HIE,WE,HAR,HOE,FI,",
    "YN,ELIFI,TURNED GAN,AIN),PARAGRAPH SEPARATOR),MODIFIER LETTER GEORGIAN NAR,GEORGIAN LETTER (",
    "AEN,HARD SIGN,LABIAL SIGN),HANGUL (CHOSEONG (KIYEOK,SSANGKIYEOK,NIEUN,TIKEUT,SSANGTIKEUT,",
    "RIEUL,MIEUM,PIEUP,SSANGPIEUP,SIOS,SSANGSIOS,IEUNG,CIEUC,SSANGCIEUC,CHIEUCH,KHIEUKH,THIEUTH,",
    "PHIEUPH,HIEUH,NIEUN-KIYEOK,SSANGNIEUN,NIEUN-(TIKEUT,PIEUP),TIKEUT-KIYEOK,RIEUL-NIEUN,",
    "SSANGRIEUL,RIEUL-HIEUH,KAPYEOUNRIEUL,MIEUM-PIEUP,KAPYEOUNMIEUM,PIEUP-(KIYEOK,NIEUN,TIKEUT,",
    "SIOS(,-KIYEOK,-TIKEUT,-PIEUP),SSANGSIOS,SIOS-CIEUC,CIEUC,CHIEUCH,THIEUTH,PHIEUPH),",
    "KAPYEOUNPIEUP,KAPYEOUNSSANGPIEUP,SIOS-(KIYEOK,NIEUN,TIKEUT,RIEUL,MIEUM,PIEUP(,-KIYEOK),",
    "SSANGSIOS,IEUNG,CIEUC,CHIEUCH,KHIEUKH,THIEUTH,PHIEUPH,HIEUH),CHITUEUMSIOS,CHITUEUMSSANGSIOS,",
    "CEONGCHIEUMSIOS,CEONGCHIEUMSSANGSIOS,PANSIOS,IEUNG-(KIYEOK,TIKEUT,MIEUM,PIEUP,SIOS,PANSIOS),",
    "SSANGIEUNG,IEUNG-(CIEUC,CHIEUCH,THIEUTH,PHIEUPH),YESIEUNG,CIEUC-IEUNG,CHITUEUMCIEUC,",
    "CHITUEUMSSANGCIEUC,CEONGCHIEUMCIEUC,CEONGCHIEUMSSANGCIEUC,CHIEUCH-(KHIEUKH,HIEUH),",
    "CHITUEUMCHIEUCH,CEONGCHIEUMCHIEUCH,PHIEUPH-PIEUP,KAPYEOUNPHIEUPH,SSANGHIEUH,YEORINHIEUH,",
    "KIYEOK-TIKEUT,NIEUN-(SIOS,CIEUC,HIEUH),TIKEUT-RIEUL,FILLER),JUNGSEONG (FILLER,A,AE,YA,YAE,EO,",
    "E,YEO,YE,O,WA,WAE,OE,YO,U,WEO,WE,WI,YU,EU,YI,I,A-O,A-U,YA-(O,YO),EO-(O,U,EU),YEO-(O,U),O-(EO,",
    "E,YE,O,U),YO-(YA,YAE,YEO,O,I),U-(A,AE,EO-EU,YE,U),YU-(A,EO,E,YEO,YE,U,I),EU-(U,EU),YI-U,I-(A,",
    "YA,O,U,EU,ARAEA),ARAEA(,-EO,-U,-I),SSANGARAEA,A-EU,YA-U,YEO-YA,O-YA,O-YAE),JONGSEONG (KIYEOK,",
    "SSANGKIYEOK,KIYEOK-SIOS,NIEUN(,-CIEUC,-HIEUH),TIKEUT,RIEUL(,-(KIYEOK,MIEUM,PIEUP,SIOS,",
    "THIEUTH,PHIEUPH,HIEUH)),MIEUM,PIEUP(,-SIOS),SIOS,SSANGSIOS,IEUNG,CIEUC,CHIEUCH,KHIEUKH,",
    "THIEUTH,PHIEUPH,HIEUH,KIYEOK-(RIEUL,SIOS-KIYEOK),NIEUN-(KIYEOK,TIKEUT,SIOS,PANSIOS,THIEUTH),",
    "TIKEUT-(KIYEOK,RIEUL),RIEUL-(KIYEOK-SIOS,NIEUN,TIKEUT(,-HIEUH)),SSANGRIEUL,RIEUL-(MIEUM-(",
    "KIYEOK,SIOS),PIEUP-(SIOS,HIEUH),KAPYEOUNPIEUP,SSANGSIOS,PANSIOS,KHIEUKH,YEORINHIEUH),MIEUM-(",
    "KIYEOK,RIEUL,PIEUP,SIOS,SSANGSIOS,PANSIOS,CHIEUCH,HIEUH),KAPYEOUNMIEUM,PIEUP-(RIEUL,PHIEUPH,",
    "HIEUH),KAPYEOUNPIEUP,SIOS-(KIYEOK,TIKEUT,RIEUL,PIEUP),PANSIOS,IEUNG-(KIYEOK,SSANGKIYEOK),",
    "SSANGIEUNG,IEUNG-KHIEUKH,YESIEUNG(,-SIOS,-PANSIOS),PHIEUPH-PIEUP,KAPYEOUNPHIEUPH,HIEUH-(",
    "NIEUN,RIEUL,MIEUM,PIEUP),YEORINHIEUH,KIYEOK-(NIEUN,PIEUP,CHIEUCH,KHIEUKH,HIEUH),SSANGNIEUN)),",
    "ETHIOPIC SYLLABLE (HA,HU,HI,HAA,HEE,HE,HO,HOA,LA,LU,LI,LAA,LEE,LE,LO,LWA,HHA,HHU,HHI,HHAA,",
    "HHEE,HHE,HHO,HHWA,MA,MU,MI,MAA,MEE,ME,MO,MWA,SZA,SZU,SZI,SZAA,SZEE,SZE,SZO,SZWA,RA,RU,RI,RAA,",
    "REE,RE,RO,RWA,SA,SU,SI,SAA,SEE,SE,SO,SWA,SHA,SHU,SHI,SHAA,SHEE,SHE,SHO,SHWA,QA,QU,QI,QAA,QEE,",
    "QE,QO,QOA,QWA)"]⟩,
  ⟨0x124A, ["ETHIOPIC SYLLABLE (QWI,QWAA,QWEE,QWE)"]⟩,
  ⟨0x1250, ["ETHIOPIC SYLLABLE (QHA,QHU,QHI,QHAA,QHEE,QHE,QHO)"]⟩,
  ⟨0x1258, ["ETHIOPIC SYLLABLE QHWA"]⟩,
  ⟨0x125A, ["ETHIOPIC SYLLABLE (QHWI,QHWAA,QHWEE,QHWE)"]⟩,
  ⟨0x1260, ["ETHIOPIC SYLLABLE (BA,BU,BI,BAA,BEE,BE,BO,BWA,VA,VU,VI,VAA,VEE,VE,VO,VWA,TA,TU,TI,",
    "TAA,TEE,TE,TO,TWA,CA,CU,CI,CAA,CEE,CE,CO,CWA,XA,XU,XI,XAA,XEE,XE,XO,XOA,XWA)"]⟩,
  ⟨0x128A, ["ETHIOPIC SYLLABLE (XWI,XWAA,XWEE,XWE)"]⟩,
  ⟨0x1290, ["ETHIOPIC SYLLABLE (NA,NU,NI,NAA,NEE,NE,NO,NWA,NYA,NYU,NYI,NYAA,NYEE,NYE,NYO,NYWA,",
    "GLOTTAL (A,U,I,AA,EE,E,O,WA),KA,KU,KI,KAA,KEE,KE,KO,KOA,KWA)"]⟩,
  ⟨0x12B2, ["ETHIOPIC SYLLABLE (KWI,KWAA,KWEE,KWE)"]⟩,
  ⟨0x12B8, ["ETHIOPIC SYLLABLE (KXA,KXU,KXI,KXAA,KXEE,KXE,KXO)"]⟩,
  ⟨0x12C0, ["ETHIOPIC SYLLABLE KXWA"]⟩,
  ⟨0x12C2, ["ETHIOPIC SYLLABLE (KXWI,KXWAA,KXWEE,KXWE)"]⟩,
  ⟨0x12C8, ["ETHIOPIC SYLLABLE (WA,WU,WI,WAA,WEE,WE,WO,WOA,PHARYNGEAL (A,U,I,AA,EE,E,O))"]⟩,
  ⟨0x12D8, ["ETHIOPIC SYLLABLE (ZA,ZU,ZI,ZAA,ZEE,ZE,ZO,ZWA,ZHA,ZHU,ZHI,ZHAA,ZHEE,ZHE,ZHO,ZHWA,YA,",
    "YU,YI,YAA,YEE,YE,YO,YOA,DA,DU,DI,DAA,DEE,DE,DO,DWA,DDA,DDU,DDI,DDAA,DDEE,DDE,DDO,DDWA,JA,JU,",
    "JI,JAA,JEE,JE,JO,JWA,GA,GU,GI,GAA,GEE,GE,GO,GOA,GWA)"]⟩,
  ⟨0x1312, ["ETHIOPIC SYLLABLE (GWI,GWAA,GWEE,GWE)"]⟩,
  ⟨0x1318, ["ETHIOPIC SYLLABLE (GGA,GGU,GGI,GGAA,GGEE,GGE,GGO,GGWAA,THA,THU,THI,THAA,THEE,THE,THO,",
    "THWA,CHA,CHU,CHI,CHAA,CHEE,CHE,CHO,CHWA,PHA,PHU,PHI,PHAA,PHEE,PHE,PHO,PHWA,TSA,TSU,TSI,TSAA,",
    "TSEE,TSE,TSO,TSWA,TZA,TZU,TZI,TZAA,TZEE,TZE,TZO,TZOA,FA,FU,FI,FAA,FEE,FE,FO,FWA,PA,PU,PI,PAA,",
    "PEE,PE,PO,PWA,RYA,MYA,FYA)"]⟩,
  ⟨0x135D, ["ETHIOPIC (COMBINING (GEMINATION AND VOWEL LENGTH MARK,VOWEL LENGTH MARK,",
    "GEMINATION MARK),SECTION MARK,WORDSPACE,FULL STOP,COMMA,SEMICOLON,COLON,PREFACE COLON,",
    "QUESTION MARK,PARAGRAPH SEPARATOR,DIGIT (ONE,TWO,THREE,FOUR,FIVE,SIX,SEVEN,EIGHT,NINE),",
    "NUMBER (TEN,TWENTY,THIRTY,FORTY,FIFTY,SIXTY,SEVENTY,EIGHTY,NINETY,HUNDRED,TEN THOUSAND))"]⟩,
  ⟨0x1380, ["ETHIOPIC (SYLLABLE (SEBATBEIT MWA,MWI,MWEE,MWE,SEBATBEIT BWA,BWI,BWEE,BWE,",
    "SEBATBEIT FWA,FWI,FWEE,FWE,SEBATBEIT PWA,PWI,PWEE,PWE),TONAL MARK (YIZET,DERET,RIKRIK,",
    "SHORT RIKRIK,DIFAT,KENAT,CHIRET,HIDET,DERET-HIDET,KURT))"]⟩,
  ⟨0x13A0, ["CHEROKEE LETTER (A,E,I,O,U,V,GA,KA,GE,GI,GO,GU,GV,HA,HE,HI,HO,HU,HV,LA,LE,LI,LO,LU,",
    "LV,MA,ME,MI,MO,MU,NA,HNA,NAH,NE,NI,NO,NU,NV,QUA,QUE,QUI,QUO,QUU,QUV,SA,S,SE,SI,SO,SU,SV,DA,",
    "TA,DE,TE,DI,TI,DO,DU,DV,DLA,TLA,TLE,TLI,TLO,TLU,TLV,TSA,TSE,TSI,TSO,TSU,TSV,WA,WE,WI,WO,WU,",
    "WV,YA,YE,YI,YO,YU,YV,MV)"]⟩,
  ⟨0x13F8, ["CHEROKEE SMALL LETTER (YE,YI,YO,YU,YV,MV)"]⟩,
  ⟨0x1400, ["CANADIAN SYLLABICS (HYPHEN,E,AAI,I,II,O,OO,Y-CREE OO,CARRIER (EE,I),A,AA,WE,",
    "WEST-CREE WE,WI,WEST-CREE WI,WII,WEST-CREE WII,WO,WEST-CREE WO,WOO,WEST-CREE WOO,NASKAPI WOO,",
    "WA,WEST-CREE WA,WAA,WEST-CREE WAA,NASKAPI WAA,AI,Y-CREE W,GLOTTAL STOP,FINAL (ACUTE,GRAVE,",
    "BOTTOM HALF RING,TOP HALF RING,RIGHT HALF RING,RING,DOUBLE (ACUTE,SHORT VERTICAL STROKES),",
    "MIDDLE DOT,SHORT HORIZONTAL STROKE,PLUS,DOWN TACK),EN,IN,ON,AN,PE,PAAI,PI,PII,PO,POO,",
    "Y-CREE POO,CARRIER (HEE,HI),PA,PAA,PWE,WEST-CREE PWE,PWI,WEST-CREE PWI,PWII,WEST-CREE PWII,",
    "PWO,WEST-CREE PWO,PWOO,WEST-CREE PWOO,PWA,WEST-CREE PWA,PWAA,WEST-CREE PWAA,Y-CREE PWAA,P,",
    "WEST-CREE P,CARRIER H,TE,TAAI,TI,TII,TO,TOO,Y-CREE TOO,CARRIER (DEE,DI),TA,TAA,TWE,",
    "WEST-CREE TWE,TWI,WEST-CREE TWI,TWII,WEST-CREE TWII,TWO,WEST-CREE TWO,TWOO,WEST-CREE TWOO,",
    "TWA,WEST-CREE TWA,TWAA,WEST-CREE TWAA,NASKAPI TWAA,T,TTE,TTI,TTO,TTA,KE,KAAI,KI,KII,KO,KOO,",
    "Y-CREE KOO,KA,KAA,KWE,WEST-CREE KWE,KWI,WEST-CREE KWI,KWII,WEST-CREE KWII,KWO,WEST-CREE KWO,",
    "KWOO,WEST-CREE KWOO,KWA,WEST-CREE KWA,KWAA,WEST-CREE KWAA,NASKAPI KWAA,K,KW,SOUTH-SLAVEY (",
    "KEH,KIH,KOH,KAH),CE,CAAI,CI,CII,CO,COO,Y-CREE COO,CA,CAA,CWE,WEST-CREE CWE,CWI,WEST-CREE CWI,",
    "CWII,WEST-CREE CWII,CWO,WEST-CREE CWO,CWOO,WEST-CREE CWOO,CWA,WEST-CREE CWA,CWAA,",
    "WEST-CREE CWAA,NASKAPI CWAA,C,SAYISI TH,ME,MAAI,MI,MII,MO,MOO,Y-CREE MOO,MA,MAA,MWE,",
    "WEST-CREE MWE,MWI,WEST-CREE MWI,MWII,WEST-CREE MWII,MWO,WEST-CREE MWO,MWOO,WEST-CREE MWOO,",
    "MWA,WEST-CREE MWA,MWAA,WEST-CREE MWAA,NASKAPI MWAA,M,WEST-CREE M,MH,ATHAPASCAN M,SAYISI M,NE,",
    "NAAI,NI,NII,NO,NOO,Y-CREE NOO,NA,NAA,NWE,WEST-CREE NWE,NWA,WEST-CREE NWA,NWAA,WEST-CREE NWAA,",
    "NASKAPI NWAA,N,CARRIER NG,NH,LE,LAAI,LI,LII,LO,LOO,Y-CREE LOO,LA,LAA,LWE,WEST-CREE LWE,LWI,",
    "WEST-CREE LWI,LWII,WEST-CREE LWII,LWO,WEST-CREE LWO,LWOO,WEST-CREE LWOO,LWA,WEST-CREE LWA,",
    "LWAA,WEST-CREE LWAA,L,WEST-CREE L,MEDIAL L,SE,SAAI,SI,SII,SO,SOO,Y-CREE SOO,SA,SAA,SWE,",
    "WEST-CREE SWE,SWI,WEST-CREE SWI,SWII,WEST-CREE SWII,SWO,WEST-CREE SWO,SWOO,WEST-CREE SWOO,",
    "SWA,WEST-CREE SWA,SWAA,WEST-CREE SWAA,NASKAPI SWAA,S,ATHAPASCAN S,SW,BLACKFOOT S,",
    "MOOSE-CREE SK,NASKAPI (SKW,S-W,SPWA,STWA,SKWA,SCWA),SHE,SHI,SHII,SHO,SHOO,SHA,SHAA,SHWE,",
    "WEST-CREE SHWE,SHWI,WEST-CREE SHWI,SHWII,WEST-CREE SHWII,SHWO,WEST-CREE SHWO,SHWOO,",
    "WEST-CREE SHWOO,SHWA,WEST-CREE SHWA,SHWAA,WEST-CREE SHWAA,SH,YE,YAAI,YI,YII,YO,YOO,",
    "Y-CREE YOO,YA,YAA,YWE,WEST-CREE YWE,YWI,WEST-CREE YWI,YWII,WEST-CREE YWII,YWO,WEST-CREE YWO,",
    "YWOO,WEST-CREE YWOO,YWA,WEST-CREE YWA,YWAA,WEST-CREE YWAA,NASKAPI YWAA,Y,BIBLE-CREE Y,",
    "WEST-CREE Y,SAYISI YI,RE,R-CREE RE,WEST-CREE LE,RAAI,RI,RII,RO,ROO,WEST-CREE LO,RA,RAA,",
    "WEST-CREE LA,RWAA,WEST-CREE RWAA,R,WEST-CREE R,MEDIAL R,FE,FAAI,FI,FII,FO,FOO,FA,FAA,FWAA,",
    "WEST-CREE FWAA,F,THE,N-CREE THE,THI,N-CREE THI,THII,N-CREE THII,THO,THOO,THA,THAA,THWAA,",
    "WEST-CREE THWAA,TH,TTHE,TTHI,TTHO,TTHA,TTH,TYE,TYI,TYO,TYA,NUNAVIK (HE,HI,HII,HO,HOO,HA,HAA,",
    "H),NUNAVUT H,HK,QAAI,QI,QII,QO,QOO,QA,QAA,Q,TLHE,TLHI,TLHO,TLHA,WEST-CREE (RE,RI,RO,RA),",
    "NGAAI,NGI,NGII,NGO,NGOO,NGA,NGAA,NG,NNG,SAYISI (SHE,SHI,SHO,SHA),WOODS-CREE (THE,THI,THO,THA,",
    "TH),LHI,LHII,LHO,LHOO,LHA,LHAA,LH,TH-CREE (THE,THI,THII,THO,THOO,THA,THAA,TH),AIVILIK B,",
    "BLACKFOOT (E,I,O,A,WE,WI,WO,WA,NE,NI,NO,NA,KE,KI,KO,KA),SAYISI (HE,HI,HO,HA),CARRIER (GHU,",
    "GHO,GHE,GHEE,GHI,GHA,RU,RO,RE,REE,RI,RA,WU,WO,WE,WEE,WI,WA,HWU,HWO,HWE,HWEE,HWI,HWA,THU,THO,",
    "THE,THEE,THI,THA,TTU,TTO,TTE,TTEE,TTI,TTA,PU,PO,PE,PEE,PI,PA,P,GU,GO,GE,GEE,GI,GA,KHU,KHO,",
    "KHE,KHEE,KHI,KHA,KKU,KKO,KKE,KKEE,KKI,KKA,KK,NU,NO,NE,NEE,NI,NA,MU,MO,ME,MEE,MI,MA,YU,YO,YE,",
    "YEE,YI,YA,JU),SAYISI JU,CARRIER (JO,JE,JEE,JI),SAYISI JI,CARRIER (JA,JJU,JJO,JJE,JJEE,JJI,",
    "JJA,LU,LO,LE,LEE,LI,LA,DLU,DLO,DLE,DLEE,DLI,DLA,LHU,LHO,LHE,LHEE,LHI,LHA,TLHU,TLHO,TLHE,",
    "TLHEE,TLHI,TLHA,TLU,TLO,TLE,TLEE,TLI,TLA,ZU,ZO,ZE,ZEE,ZI,ZA,Z,INITIAL Z,DZU,DZO,DZE,DZEE,DZI,",
    "DZA,SU,SO,SE,SEE,SI,SA,SHU,SHO,SHE,SHEE,SHI,SHA,SH,TSU,TSO,TSE,TSEE,TSI,TSA,CHU,CHO,CHE,CHEE,",
    "CHI,CHA,TTSU,TTSO,TTSE,TTSEE,TTSI,TTSA),CHI SIGN,FULL STOP,QAI,NGAI,NNGI,NNGII,NNGO,NNGOO,",
    "NNGA,NNGAA,WOODS-CREE (THWEE,THWI,THWII,THWO,THWOO,THWA,THWAA,FINAL TH),BLACKFOOT W),OGHAM (",
    "SPACE MARK,LETTER (BEITH,LUIS,FEARN,SAIL,NION,UATH,DAIR,TINNE,COLL,CEIRT,MUIN,GORT,NGEADAL,",
    "STRAIF,RUIS,AILM,ONN,UR,EADHADH,IODHADH,EABHADH,OR,UILLEANN,IFIN,EAMHANCHOLL,PEITH),",
    "FEATHER MARK,REVERSED FEATHER MARK)"]⟩,
  ⟨0x16A0, ["RUNIC (LETTER (FEHU FEOH FE F,V,URUZ UR U,YR,Y,W,THURISAZ THURS THORN,ETH,ANSUZ A,",
    "OS O,AC A,AESC,LONG-BRANCH-OSS O,SHORT-TWIG-OSS O,O,OE,ON,RAIDO RAD REID R,KAUNA,CEN,KAUN K,",
    "G,ENG,GEBO GYFU G,GAR,WUNJO WYNN W,HAGLAZ H,HAEGL H,LONG-BRANCH-HAGALL H,SHORT-TWIG-HAGALL H,",
    "NAUDIZ NYD NAUD N,SHORT-TWIG-NAUD N,DOTTED-N,ISAZ IS ISS I,E,JERAN J,GER,LONG-BRANCH-AR AE,",
    "SHORT-TWIG-AR A,IWAZ EOH,PERTHO PEORTH P,ALGIZ EOLHX,SOWILO S,SIGEL LONG-BRANCH-SOL S,",
    "SHORT-TWIG-SOL S,C,Z,TIWAZ TIR TYR T,SHORT-TWIG-TYR T,D,BERKANAN BEORC BJARKAN B,",
    "SHORT-TWIG-BJARKAN B,DOTTED-P,OPEN-P,EHWAZ EH E,MANNAZ MAN M,LONG-BRANCH-MADR M,",
    "SHORT-TWIG-MADR M,LAUKAZ LAGU LOGR L,DOTTED-L,INGWAZ,ING,DAGAZ DAEG D,OTHALAN ETHEL O,EAR,",
    "IOR,CWEORTH,CALC,CEALC,STAN,LONG-BRANCH-YR,SHORT-TWIG-YR,ICELANDIC-YR,Q,X),",
    "SINGLE PUNCTUATION,MULTIPLE PUNCTUATION,CROSS PUNCTUATION,ARLAUG SYMBOL,TVIMADUR SYMBOL,",
    "BELGTHOR SYMBOL,LETTER (K,SH,OO,FRANKS CASKET (OS,IS,EH,AC,AESC)))"]⟩,
  ⟨0x1700, ["TAGALOG (LETTER (A,I,U,KA,GA,NGA,TA,DA,NA,PA,BA,MA,YA,RA,LA,WA,SA,HA),VOWEL SIGN (I,",
    "U),SIGN (VIRAMA,PAMUDPOD))"]⟩,
  ⟨0x171F, ["TAGALOG LETTER ARCHAIC RA,HANUNOO (LETTER (A,I,U,KA,GA,NGA,TA,DA,NA,PA,BA,MA,YA,RA,",
    "LA,WA,SA,HA),VOWEL SIGN (I,U),SIGN PAMUDPOD),PHILIPPINE (SINGLE PUNCTUATION,",
    "DOUBLE PUNCTUATION)"]⟩,
  ⟨0x1740, ["BUHID (LETTER (A,I,U,KA,GA,NGA,TA,DA,NA,PA,BA,MA,YA,RA,LA,WA,SA,HA),VOWEL SIGN (I,",
    "U))"]⟩,
  ⟨0x1760, ["TAGBANWA LETTER (A,I,U,KA,GA,NGA,TA,DA,NA,PA,BA,MA,YA)"]⟩,
  ⟨0x176E, ["TAGBANWA LETTER (LA,WA,SA)"]⟩,
  ⟨0x1772, ["TAGBANWA VOWEL SIGN (I,U)"]⟩]

end CharacterName
end Text
end Reckoner
