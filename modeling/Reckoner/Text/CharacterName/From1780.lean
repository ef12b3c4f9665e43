import Reckoner.Text.CharacterName.Outline

/-!
# Names from U+1780 on

The names of the characters from U+1780 to U+20C0, as outlines.
-/

namespace Reckoner
namespace Text
namespace CharacterName

/-- Names of the characters from U+1780 to U+20C0. -/
def from1780 : List Outline := [
  ⟨0x1780, ["KHMER (LETTER (KA,KHA,KO,KHO,NGO,CA,CHA,CO,CHO,NYO,DA,TTHA,DO,TTHO,NNO,TA,THA,TO,THO,",
    "NO,BA,PHA,PO,PHO,MO,YO,RO,LO,VO,SHA,SSO,SA,HA,LA,QA),INDEPENDENT VOWEL (QAQ,QAA,QI,QII,QU,",
    "QUK,QUU,QUUV,RY,RYY,LY,LYY,QE,QAI,QOO TYPE (ONE,TWO),QAU),VOWEL (INHERENT (AQ,AA),SIGN (AA,I,",
    "II,Y,YY,U,UU,UA,OE,YA,IE,E,AE,AI,OO,AU)),SIGN (NIKAHIT,REAHMUK,YUUKALEAPINTU,MUUSIKATOAN,",
    "TRIISAP,BANTOC,ROBAT,TOANDAKHIAT,KAKABAT,AHSDA,SAMYOK SANNYA,VIRIAM,COENG,BATHAMASAT,KHAN,",
    "BARIYOOSAN,CAMNUC PII KUUH,LEK TOO,BEYYAL,PHNAEK MUAN,KOOMUUT),CURRENCY SYMBOL RIEL,SIGN (",
    "AVAKRAHASANYA,ATTHACAN))"]⟩,
  ⟨0x17E0, ["KHMER DIGIT (ZERO,ONE,TWO,THREE,FOUR,FIVE,SIX,SEVEN,EIGHT,NINE)"]⟩,
  ⟨0x17F0, ["KHMER SYMBOL LEK ATTAK (SON,MUOY,PII,BEI,BUON,PRAM(,-(MUOY,PII,BEI,BUON)))"]⟩,
  ⟨0x1800, ["MONGOLIAN (BIRGA,ELLIPSIS,COMMA,FULL STOP,COLON,FOUR DOTS,TODO SOFT HYPHEN,",
    "SIBE SYLLABLE BOUNDARY MARKER,MANCHU (COMMA,FULL STOP),NIRUGU,FREE VARIATION SELECTOR (ONE,",
    "TWO,THREE),VOWEL SEPARATOR,FREE VARIATION SELECTOR FOUR,DIGIT (ZERO,ONE,TWO,THREE,FOUR,FIVE,",
    "SIX,SEVEN,EIGHT,NINE))"]⟩,
  ⟨0x1820, ["MONGOLIAN LETTER (A,E,I,O,U,OE,UE,EE,NA,ANG,BA,PA,QA,GA,MA,LA,SA,SHA,TA,DA,CHA,JA,YA,",
    "RA,WA,FA,KA,KHA,TSA,ZA,HAA,ZRA,LHA,ZHI,CHI,TODO (LONG VOWEL SIGN,E,I,O,U,OE,UE,ANG,BA,PA,QA,",
    "GA,MA,TA,DA,CHA,JA,TSA,YA,WA,KA,GAA,HAA,JIA,NIA,DZA),SIBE (E,I,IY,UE,U,ANG,KA,GA,HA,PA,SHA,",
    "TA,DA,JA,FA,GAA,HAA,TSA,ZA,RAA,CHA,ZHA),MANCHU (I,KA,RA,FA,ZHA),CHA WITH TWO DOTS)"]⟩,
  ⟨0x1880, ["MONGOLIAN LETTER (ALI GALI (ANUSVARA ONE,VISARGA ONE,DAMARU,UBADAMA,INVERTED UBADAMA,",
    "BALUDA,THREE BALUDA,A,I,KA,NGA,CA,TTA,TTHA,DDA,NNA,TA,DA,PA,PHA,SSA,ZHA,ZA,AH),",
    "TODO ALI GALI (TA,ZHA),MANCHU ALI GALI (GHA,NGA,CA,JHA,TTA,DDHA,TA,DHA,SSA,CYA,ZHA,ZA),",
    "ALI GALI HALF (U,YA),MANCHU ALI GALI BHA,ALI GALI DAGALGA,MANCHU ALI GALI LHA)"]⟩,
  ⟨0x18B0, ["CANADIAN SYLLABICS (OY,AY,AAY,WAY,POY,PAY,PWOY,TAY,KAY,KWAY,MAY,NOY,NAY,LAY,SOY,SAY,",
    "SHOY,SHAY,SHWOY,YOY,YAY,RAY,NWI,OJIBWAY NWI,NWII,OJIBWAY NWII,NWO,OJIBWAY NWO,NWOO,",
    "OJIBWAY NWOO,RWEE,RWI,RWII,RWO,RWOO,RWA,OJIBWAY (P,T,K,C,M,N,S,SH),EASTERN W,WESTERN W,",
    "FINAL (SMALL RING,RAISED DOT),R-CREE RWE,WEST-CREE (LOO,LAA),THWE,THWA,TTHWE,TTHOO,TTHAA,",
    "TLHWE,TLHOO,SAYISI (SHWE,SHOO,HOO),CARRIER (GWU,DENE GEE,GAA,GWA),SAYISI JUU,CARRIER JWA,",
    "BEAVER DENE (L,R),CARRIER DENTAL S)"]⟩,
  ⟨0x1900, ["LIMBU (VOWEL-CARRIER LETTER,LETTER (KA,KHA,GA,GHA,NGA,CA,CHA,JA,JHA,YAN,TA,THA,DA,",
    "DHA,NA,PA,PHA,BA,BHA,MA,YA,RA,LA,WA,SHA,SSA,SA,HA,GYAN,TRA))"]⟩,
  ⟨0x1920, ["LIMBU (VOWEL SIGN (A,I,U,EE,AI,OO,AU,E,O),SUBJOINED LETTER (YA,RA,WA))"]⟩,
  ⟨0x1930, ["LIMBU (SMALL LETTER (KA,NGA,ANUSVARA,TA,NA,PA,MA,RA,LA),SIGN (MUKPHRENG,KEMPHRENG,",
    "SA-I))"]⟩,
  ⟨0x1940, ["LIMBU SIGN LOO"]⟩,
  ⟨0x1944, ["LIMBU (EXCLAMATION MARK,QUESTION MARK,DIGIT (ZERO,ONE,TWO,THREE,FOUR,FIVE,SIX,SEVEN,",
    "EIGHT,NINE)),TAI LE LETTER (KA,XA,NGA,TSA,SA,YA,TA,THA,LA,PA,PHA,MA,FA,VA,HA,QA,KHA,TSHA,NA,",
    "A,I,EE,EH,U,OO,O,UE,E,AUE,AI)"]⟩,
  ⟨0x1970, ["TAI LE LETTER TONE-(2,3,4,5,6)"]⟩,
  ⟨0x1980, ["NEW TAI LUE LETTER (HIGH QA,LOW QA,HIGH (KA,XA,NGA),LOW (KA,XA,NGA),HIGH (TSA,SA,YA),",
    "LOW (TSA,SA,YA),HIGH (TA,THA,NA),LOW (TA,THA,NA),HIGH (PA,PHA,MA),LOW (PA,PHA,MA),HIGH (FA,",
    "VA,LA),LOW (FA,VA,LA),HIGH (HA,DA,BA),LOW (HA,DA,BA),HIGH (KVA,XVA),LOW (KVA,XVA),HIGH SUA,",
    "LOW SUA)"]⟩,
  ⟨0x19B0, ["NEW TAI LUE (VOWEL SIGN (VOWEL SHORTENER,AA,II,U,UU,E,AE,O,OA,UE,AY,AAY,UY,OY,OAY,",
    "UEY,IY),LETTER FINAL (V,NG,N,M,K,D,B),TONE MARK-(1,2))"]⟩,
  ⟨0x19D0, ["NEW TAI LUE (DIGIT (ZERO,ONE,TWO,THREE,FOUR,FIVE,SIX,SEVEN,EIGHT,NINE),",
    "THAM DIGIT ONE)"]⟩,
  ⟨0x19DE, ["NEW TAI LUE SIGN (LAE,LAEV),KHMER SYMBOL (PATHAMASAT,MUOY KOET,PII KOET,BEI KOET,",
    "BUON KOET,PRAM( KOET,-(MUOY KOET,PII KOET,BEI KOET,BUON KOET)),DAP( KOET,-(MUOY KOET,",
    "PII KOET,BEI KOET,BUON KOET,PRAM KOET)),TUTEYASAT,MUOY ROC,PII ROC,BEI ROC,BUON ROC,PRAM(",
    " ROC,-(MUOY ROC,PII ROC,BEI ROC,BUON ROC)),DAP( ROC,-(MUOY ROC,PII ROC,BEI ROC,BUON ROC,",
    "PRAM ROC))),BUGINESE (LETTER (KA,GA,NGA,NGKA,PA,BA,MA,MPA,TA,DA,NA,NRA,CA,JA,NYA,NYCA,YA,RA,",
    "LA,VA,SA,A,HA),VOWEL SIGN (I,U,E,O,AE))"]⟩,
  ⟨0x1A1E, ["BUGINESE (PALLAWA,END OF SECTION),TAI THAM (LETTER (HIGH (KA,KHA,KXA),LOW (KA,KXA,",
    "KHA),NGA,HIGH (CA,CHA),LOW (CA,SA,CHA),NYA,RATA,HIGH RATHA,DA,LOW RATHA,RANA,HIGH (TA,THA),",
    "LOW (TA,THA),NA,BA,HIGH (PA,PHA,FA),LOW (PA,FA,PHA),MA,LOW YA,HIGH YA,RA,RUE,LA,LUE,WA,HIGH (",
    "SHA,SSA,SA,HA),LLA,A,LOW HA,I,II,U,UU,EE,OO,LAE,GREAT SA),CONSONANT SIGN (MEDIAL (RA,LA),",
    "LA TANG LAI),SIGN MAI KANG LAI,CONSONANT SIGN (FINAL NGA,LOW PA,HIGH RATHA OR LOW PA,MA,BA,",
    "SA))"]⟩,
  ⟨0x1A60, ["TAI THAM (SIGN SAKOT,VOWEL SIGN (A,MAI SAT,AA,TALL AA,I,II,UE,UUE,U,UU,O,OA BELOW,OY,",
    "E,AE,OO,AI,THAM AI,OA ABOVE),SIGN (MAI KANG,TONE-(1,2),KHUEN TONE-(3,4,5),RA HAAM,MAI SAM,",
    "KHUEN-LUE KARAN))"]⟩,
  ⟨0x1A7F, ["TAI THAM (COMBINING CRYPTOGRAMMIC DOT,HORA DIGIT (ZERO,ONE,TWO,THREE,FOUR,FIVE,SIX,",
    "SEVEN,EIGHT,NINE))"]⟩,
  ⟨0x1A90, ["TAI THAM THAM DIGIT (ZERO,ONE,TWO,THREE,FOUR,FIVE,SIX,SEVEN,EIGHT,NINE)"]⟩,
  ⟨0x1AA0, ["TAI THAM SIGN (WIANG,WIANGWAAK,SAWAN,KEOW,HOY,DOKMAI,REVERSED ROTATED RANA,MAI YAMOK,",
    "KAAN,KAANKUU,SATKAAN,SATKAANKUU,HANG,CAANG)"]⟩,
  ⟨0x1AB0, ["COMBINING (DOUBLED CIRCUMFLEX ACCENT,DIAERESIS-RING,INFINITY,DOWNWARDS ARROW,",
    "TRIPLE DOT,X-X BELOW,WIGGLY LINE BELOW,OPEN MARK BELOW,DOUBLE OPEN MARK BELOW,",
    "LIGHT CENTRALIZATION STROKE BELOW,STRONG CENTRALIZATION STROKE BELOW,PARENTHESES ABOVE,",
    "DOUBLE PARENTHESES ABOVE,PARENTHESES (BELOW,OVERLAY),LATIN SMALL LETTER (W BELOW,",
    "TURNED W BELOW),LEFT PARENTHESIS ABOVE LEFT,RIGHT PARENTHESIS ABOVE RIGHT,",
    "LEFT PARENTHESIS BELOW LEFT,RIGHT PARENTHESIS BELOW RIGHT,SQUARE BRACKETS ABOVE,",
    "NUMBER SIGN ABOVE,INVERTED DOUBLE ARCH ABOVE,PLUS SIGN ABOVE,DOUBLE PLUS SIGN (ABOVE,BELOW),",
    "TRIPLE ACUTE ACCENT,LATIN SMALL LETTER INSULAR (G,R,T))"]⟩,
  ⟨0x1B00, ["BALINESE (SIGN (ULU (RICEM,CANDRA),CECEK,SURANG,BISAH),LETTER (AKARA(, TEDUNG),IKARA(",
    ", TEDUNG),UKARA(, TEDUNG),RA REPA(, TEDUNG),LA LENGA(, TEDUNG),EKARA,AIKARA,OKARA(, TEDUNG),",
    "KA,KA MAHAPRANA,GA,GA GORA,NGA,CA,CA LACA,JA,JA JERA,NYA,TA (LATIK,MURDA MAHAPRANA),",
    "DA MURDA (ALPAPRANA,MAHAPRANA),NA RAMBAT,TA,TA TAWA,DA,DA MADU,NA,PA,PA KAPAL,BA,BA KEMBANG,",
    "MA,YA,RA,LA,WA,SA( SAGA, SAPA,),HA),SIGN REREKAN,VOWEL SIGN (TEDUNG,ULU(, SARI),SUKU(, ILUT),",
    "RA REPA(, TEDUNG),LA LENGA(, TEDUNG),TALING(, REPA, TEDUNG, REPA TEDUNG),PEPET(, TEDUNG)),",
    "ADEG ADEG,LETTER (KAF SASAK,KHOT SASAK,TZIR SASAK,EF SASAK,VE SASAK,ZAL SASAK,ASYURA SASAK,",
    "ARCHAIC JNYA))"]⟩,
  ⟨0x1B50, ["BALINESE (DIGIT (ZERO,ONE,TWO,THREE,FOUR,FIVE,SIX,SEVEN,EIGHT,NINE),PANTI,PAMADA,",
    "WINDU,CARIK (PAMUNGKAH,SIKI,PAREREN),PAMENENG,MUSICAL SYMBOL (DONG,DENG,DUNG,DANG(, SURANG),",
    "DING,DAENG,DEUNG,DAING,DANG GEDE,COMBINING (TEGEH,ENDEP,KEMPUL,KEMPLI,JEGOGAN,",
    "KEMPUL WITH JEGOGAN,KEMPLI WITH JEGOGAN,BENDE,GONG),RIGHT-HAND (OPEN (DUG,DAG),CLOSED (TUK,",
    "TAK)),LEFT-HAND (OPEN (PANG,PUNG),CLOSED (PLAK,PLUK),OPEN PING)),PANTI LANTANG,",
    "PAMADA LANTANG)"]⟩,
  ⟨0x1B80, ["SUNDANESE (SIGN (PANYECEK,PANGLAYAR,PANGWISAD),LETTER (A,I,U,AE,O,E,EU,KA,QA,GA,NGA,",
    "CA,JA,ZA,NYA,TA,DA,NA,PA,FA,VA,BA,MA,YA,RA,LA,WA,SA,XA,HA),CONSONANT SIGN (PAMINGKAL,",
    "PANYAKRA,PANYIKU),VOWEL SIGN (PANGHULU,PANYUKU,PANAELAENG,PANOLONG,PAMEPET,PANEULEUNG),SIGN (",
    "PAMAAEH,VIRAMA),CONSONANT SIGN PASANGAN (MA,WA),LETTER (KHA,SYA),DIGIT (ZERO,ONE,TWO,THREE,",
    "FOUR,FIVE,SIX,SEVEN,EIGHT,NINE),AVAGRAHA,LETTER (REU,LEU,BHA,FINAL (K,M))),BATAK (LETTER (A,",
    "SIMALUNGUN A,HA,SIMALUNGUN HA,MANDAILING HA,BA,KARO BA,PA,SIMALUNGUN PA,NA,MANDAILING NA,WA,",
    "SIMALUNGUN WA,PAKPAK WA,GA,SIMALUNGUN GA,JA,DA,RA,SIMALUNGUN RA,MA,SIMALUNGUN MA,SOUTHERN TA,",
    "NORTHERN TA,SA,SIMALUNGUN SA,MANDAILING SA,YA,SIMALUNGUN YA,NGA,LA,SIMALUNGUN LA,NYA,CA,NDA,",
    "MBA,I,U),SIGN TOMPI,VOWEL SIGN (E,PAKPAK E,EE,I,KARO I,O,KARO O,U,U FOR SIMALUNGUN SA),",
    "CONSONANT SIGN (NG,H),PANGOLAT,PANONGONAN)"]⟩,
  ⟨0x1BFC, ["BATAK SYMBOL BINDU (NA METEK,PINARBORAS,JUDUL,PANGOLAT),LEPCHA (LETTER (KA,KLA,KHA,",
    "GA,GLA,NGA,CA,CHA,JA,NYA,TA,THA,DA,NA,PA,PLA,PHA,FA,FLA,BA,BLA,MA,MLA,TSA,TSHA,DZA,YA,RA,LA,",
    "HA,HLA,VA,SA,SHA,WA,A),SUBJOINED LETTER (YA,RA),VOWEL SIGN (AA,I,O,OO,U,UU,E),",
    "CONSONANT SIGN (K,M,L,N,P,R,T,NYIN-DO,KANG),SIGN (RAN,NUKTA))"]⟩,
  ⟨0x1C3B, ["LEPCHA (PUNCTUATION (TA-ROL,NYET THYOOM TA-ROL,CER-WA,TSHOOK( CER-WA,)),DIGIT (ZERO,",
    "ONE,TWO,THREE,FOUR,FIVE,SIX,SEVEN,EIGHT,NINE))"]⟩,
  ⟨0x1C4D, ["LEPCHA LETTER (TTA,TTHA,DDA),OL CHIKI (DIGIT (ZERO,ONE,TWO,THREE,FOUR,FIVE,SIX,SEVEN,",
    "EIGHT,NINE),LETTER (LA,AT,AG,ANG,AL,LAA,AAK,AAJ,AAM,AAW,LI,IS,IH,INY,IR,LU,UC,UD,UNN,UY,LE,",
    "EP,EDD,EN,ERR,LO,OTT,OB,OV,OH),MU TTUDDAG,GAAHLAA TTUDDAAG,MU-GAAHLAA TTUDDAAG,RELAA,",
    "PHAARKAA,AHAD,PUNCTUATION (MUCAAD,DOUBLE MUCAAD)),CYRILLIC SMALL LETTER (ROUNDED VE,",
    "LONG-LEGGED DE,NARROW O,WIDE ES,TALL TE,THREE-LEGGED TE,TALL (HARD SIGN,YAT),UNBLENDED UK)"]⟩,
  ⟨0x1C90, ["GEORGIAN MTAVRULI CAPITAL LETTER (AN,BAN,GAN,DON,EN,VIN,ZEN,TAN,IN,KAN,LAS,MAN,NAR,",
    "ON,PAR,ZHAR,RAE,SAN,TAR,UN,PHAR,KHAR,GHAN,QAR,SHIN,CHIN,CAN,JIL,CIL,CHAR,XAN,JHAN,HAE,HE,HIE,",
    "WE,HAR,HOE,FI,YN,ELIFI,TURNED GAN,AIN)"]⟩,
  ⟨0x1CBD, ["GEORGIAN MTAVRULI CAPITAL LETTER (AEN,HARD SIGN,LABIAL SIGN),",
    "SUNDANESE PUNCTUATION BINDU (SURYA,PANGLONG,PURNAMA,CAKRA,LEU SATANGA,KA SATANGA,DA SATANGA,",
    "BA SATANGA)"]⟩,
  ⟨0x1CD0, ["VEDIC (TONE (KARSHANA,SHARA,PRENKHA),SIGN (NIHSHVASA,YAJURVEDIC MIDLINE SVARITA),",
    "TONE (YAJURVEDIC (AGGRAVATED INDEPENDENT SVARITA,INDEPENDENT SVARITA,",
    "KATHAKA INDEPENDENT SVARITA),CANDRA BELOW,YAJURVEDIC KATHAKA INDEPENDENT SVARITA SCHROEDER,",
    "DOUBLE SVARITA,TRIPLE SVARITA,KATHAKA ANUDATTA,DOT BELOW,TWO DOTS BELOW,THREE DOTS BELOW,",
    "RIGVEDIC KASHMIRI INDEPENDENT SVARITA,ATHARVAVEDIC INDEPENDENT SVARITA),SIGN (VISARGA (",
    "SVARITA,UDATTA),REVERSED VISARGA UDATTA,VISARGA ANUDATTA,REVERSED VISARGA ANUDATTA,VISARGA (",
    "UDATTA WITH TAIL,ANUDATTA WITH TAIL),ANUSVARA (ANTARGOMUKHA,BAHIRGOMUKHA,VAMAGOMUKHA(,",
    " WITH TAIL)),TIRYAK,HEXIFORM LONG ANUSVARA,LONG ANUSVARA,RTHANG LONG ANUSVARA,",
    "ANUSVARA UBHAYATO MUKHA,ARDHAVISARGA,ROTATED ARDHAVISARGA),TONE CANDRA ABOVE,SIGN (",
    "JIHVAMULIYA,UPADHMANIYA,ATIKRAMA),TONE (RING ABOVE,DOUBLE RING ABOVE),",
    "SIGN DOUBLE ANUSVARA ANTARGOMUKHA)"]⟩,
  ⟨0x1D00, ["LATIN (LETTER SMALL CAPITAL (A,AE),SMALL LETTER TURNED AE,LETTER SMALL CAPITAL (",
    "BARRED B,C,D,ETH,E),SMALL LETTER TURNED (OPEN E,I),LETTER SMALL CAPITAL (J,K,L WITH STROKE,M,",
    "REVERSED N,O,OPEN O),SMALL LETTER (SIDEWAYS (O,OPEN O,O WITH STROKE),TURNED OE),",
    "LETTER SMALL CAPITAL OU,SMALL LETTER (TOP HALF O,BOTTOM HALF O),LETTER SMALL CAPITAL (P,",
    "REVERSED R,TURNED R,T,U),SMALL LETTER SIDEWAYS (U,DIAERESIZED U,TURNED M),LETTER (",
    "SMALL CAPITAL (V,W,Z,EZH),VOICED LARYNGEAL SPIRANT,AIN)),GREEK LETTER SMALL CAPITAL (GAMMA,",
    "LAMDA,PI,RHO,PSI),CYRILLIC LETTER SMALL CAPITAL EL,MODIFIER LETTER (CAPITAL (A,AE,B,BARRED B,",
    "D,E,REVERSED E,G,H,I,J,K,L,M,N,REVERSED N,O,OU,P,R,T,U,W),SMALL (A,TURNED A,ALPHA,TURNED AE,",
    "B,D,E,SCHWA,OPEN E,TURNED OPEN E,G,TURNED I,K,M,ENG,O,OPEN O,TOP HALF O,BOTTOM HALF O,P,T,U,",
    "SIDEWAYS U,TURNED M,V,AIN,BETA,GREEK GAMMA,DELTA,GREEK PHI,CHI)),",
    "LATIN SUBSCRIPT SMALL LETTER (I,R,U,V),GREEK SUBSCRIPT SMALL LETTER (BETA,GAMMA,RHO,PHI,CHI),",
    "LATIN SMALL LETTER (UE,B WITH MIDDLE TILDE,D WITH MIDDLE TILDE,F WITH MIDDLE TILDE,",
    "M WITH MIDDLE TILDE,N WITH MIDDLE TILDE,P WITH MIDDLE TILDE,R WITH (MIDDLE TILDE,",
    "FISHHOOK AND MIDDLE TILDE),S WITH MIDDLE TILDE,T WITH MIDDLE TILDE,Z WITH MIDDLE TILDE,",
    "TURNED G),MODIFIER LETTER CYRILLIC EN,LATIN SMALL (LETTER (INSULAR G,TH WITH STRIKETHROUGH),",
    "CAPITAL LETTER I WITH STROKE,LETTER (IOTA WITH STROKE,P WITH STROKE),",
    "CAPITAL LETTER U WITH STROKE,LETTER (UPSILON WITH STROKE,B WITH PALATAL HOOK,",
    "D WITH PALATAL HOOK,F WITH PALATAL HOOK,G WITH PALATAL HOOK,K WITH PALATAL HOOK,",
    "L WITH PALATAL HOOK,M WITH PALATAL HOOK,N WITH PALATAL HOOK,P WITH PALATAL HOOK,",
    "R WITH PALATAL HOOK,S WITH PALATAL HOOK,ESH WITH PALATAL HOOK,V WITH PALATAL HOOK,",
    "X WITH PALATAL HOOK,Z WITH PALATAL HOOK,A WITH RETROFLEX HOOK,ALPHA WITH RETROFLEX HOOK,",
    "D WITH HOOK AND TAIL,E WITH RETROFLEX HOOK,OPEN E WITH RETROFLEX HOOK,",
    "REVERSED OPEN E WITH RETROFLEX HOOK,SCHWA WITH RETROFLEX HOOK,I WITH RETROFLEX HOOK,",
    "OPEN O WITH RETROFLEX HOOK,ESH WITH RETROFLEX HOOK,U WITH RETROFLEX HOOK,",
    "EZH WITH RETROFLEX HOOK)),MODIFIER LETTER SMALL (TURNED ALPHA,C,C WITH CURL,ETH,",
    "REVERSED OPEN E,F,DOTLESS J WITH STROKE,SCRIPT G,TURNED H,I WITH STROKE,IOTA,CAPITAL I(,",
    " WITH STROKE),J WITH CROSSED-TAIL,L WITH (RETROFLEX HOOK,PALATAL HOOK),CAPITAL L,M WITH HOOK,",
    "TURNED M WITH LONG LEG,N WITH (LEFT HOOK,RETROFLEX HOOK),CAPITAL N,BARRED O,PHI,S WITH HOOK,",
    "ESH,T WITH PALATAL HOOK,U BAR,UPSILON,CAPITAL U,V WITH HOOK,TURNED V,Z,Z WITH (",
    "RETROFLEX HOOK,CURL),EZH,THETA),COMBINING (DOTTED (GRAVE ACCENT,ACUTE ACCENT),SNAKE BELOW,",
    "SUSPENSION MARK,MACRON-ACUTE,GRAVE-MACRON,MACRON-GRAVE,ACUTE-MACRON,GRAVE-ACUTE-GRAVE,",
    "ACUTE-GRAVE-ACUTE,LATIN SMALL LETTER R BELOW,BREVE-MACRON,MACRON-BREVE,",
    "DOUBLE CIRCUMFLEX ABOVE,OGONEK ABOVE,ZIGZAG BELOW,IS BELOW,UR ABOVE,US ABOVE,LATIN (",
    "SMALL LETTER (FLATTENED OPEN A ABOVE,AE,AO,AV,C CEDILLA,INSULAR D,ETH,G),",
    "LETTER SMALL CAPITAL G,SMALL LETTER (K,L),LETTER SMALL CAPITAL (L,M),SMALL LETTER N,",
    "LETTER SMALL CAPITAL (N,R),SMALL LETTER (R ROTUNDA,S,LONG S,Z,ALPHA,B,BETA,SCHWA,F,",
    "L WITH DOUBLE MIDDLE TILDE,O WITH LIGHT CENTRALIZATION STROKE,P,ESH,",
    "U WITH LIGHT CENTRALIZATION STROKE,W,A WITH DIAERESIS,O WITH DIAERESIS,U WITH DIAERESIS)),",
    "UP TACK ABOVE,KAVYKA ABOVE (RIGHT,LEFT),DOT ABOVE LEFT,WIDE INVERTED BRIDGE BELOW,",
    "DOT BELOW LEFT,DELETION MARK,DOUBLE INVERTED BREVE BELOW,ALMOST EQUAL TO BELOW,",
    "LEFT ARROWHEAD ABOVE,RIGHT ARROWHEAD AND DOWN ARROWHEAD BELOW),LATIN (",
    "CAPITAL LETTER A WITH RING BELOW,SMALL LETTER A WITH RING BELOW,",
    "CAPITAL LETTER B WITH DOT ABOVE,SMALL LETTER B WITH DOT ABOVE,",
    "CAPITAL LETTER B WITH DOT BELOW,SMALL LETTER B WITH DOT BELOW,",
    "CAPITAL LETTER B WITH LINE BELOW,SMALL LETTER B WITH LINE BELOW,",
    "CAPITAL LETTER C WITH CEDILLA AND ACUTE,SMALL LETTER C WITH CEDILLA AND ACUTE,",
    "CAPITAL LETTER D WITH DOT ABOVE,SMALL LETTER D WITH DOT ABOVE,",
    "CAPITAL LETTER D WITH DOT BELOW,SMALL LETTER D WITH DOT BELOW,",
    "CAPITAL LETTER D WITH LINE BELOW,SMALL LETTER D WITH LINE BELOW,",
    "CAPITAL LETTER D WITH CEDILLA,SMALL LETTER D WITH CEDILLA,",
    "CAPITAL LETTER D WITH CIRCUMFLEX BELOW,SMALL LETTER D WITH CIRCUMFLEX BELOW,",
    "CAPITAL LETTER E WITH MACRON AND GRAVE,SMALL LETTER E WITH MACRON AND GRAVE,",
    "CAPITAL LETTER E WITH MACRON AND ACUTE,SMALL LETTER E WITH MACRON AND ACUTE,",
    "CAPITAL LETTER E WITH CIRCUMFLEX BELOW,SMALL LETTER E WITH CIRCUMFLEX BELOW,",
    "CAPITAL LETTER E WITH TILDE BELOW,SMALL LETTER E WITH TILDE BELOW,",
    "CAPITAL LETTER E WITH CEDILLA AND BREVE,SMALL LETTER E WITH CEDILLA AND BREVE,",
    "CAPITAL LETTER F WITH DOT ABOVE,SMALL LETTER F WITH DOT ABOVE,CAPITAL LETTER G WITH MACRON,",
    "SMALL LETTER G WITH MACRON,CAPITAL LETTER H WITH DOT ABOVE,SMALL LETTER H WITH DOT ABOVE,",
    "CAPITAL LETTER H WITH DOT BELOW,SMALL LETTER H WITH DOT BELOW,",
    "CAPITAL LETTER H WITH DIAERESIS,SMALL LETTER H WITH DIAERESIS,CAPITAL LETTER H WITH CEDILLA,",
    "SMALL LETTER H WITH CEDILLA,CAPITAL LETTER H WITH BREVE BELOW,",
    "SMALL LETTER H WITH BREVE BELOW,CAPITAL LETTER I WITH TILDE BELOW,",
    "SMALL LETTER I WITH TILDE BELOW,CAPITAL LETTER I WITH DIAERESIS AND ACUTE,",
    "SMALL LETTER I WITH DIAERESIS AND ACUTE,CAPITAL LETTER K WITH ACUTE,",
    "SMALL LETTER K WITH ACUTE,CAPITAL LETTER K WITH DOT BELOW,SMALL LETTER K WITH DOT BELOW,",
    "CAPITAL LETTER K WITH LINE BELOW,SMALL LETTER K WITH LINE BELOW,",
    "CAPITAL LETTER L WITH DOT BELOW,SMALL LETTER L WITH DOT BELOW,",
    "CAPITAL LETTER L WITH DOT BELOW AND MACRON,SMALL LETTER L WITH DOT BELOW AND MACRON,",
    "CAPITAL LETTER L WITH LINE BELOW,SMALL LETTER L WITH LINE BELOW,",
    "CAPITAL LETTER L WITH CIRCUMFLEX BELOW,SMALL LETTER L WITH CIRCUMFLEX BELOW,",
    "CAPITAL LETTER M WITH ACUTE,SMALL LETTER M WITH ACUTE,CAPITAL LETTER M WITH DOT ABOVE,",
    "SMALL LETTER M WITH DOT ABOVE,CAPITAL LETTER M WITH DOT BELOW,SMALL LETTER M WITH DOT BELOW,",
    "CAPITAL LETTER N WITH DOT ABOVE,SMALL LETTER N WITH DOT ABOVE,",
    "CAPITAL LETTER N WITH DOT BELOW,SMALL LETTER N WITH DOT BELOW,",
    "CAPITAL LETTER N WITH LINE BELOW,SMALL LETTER N WITH LINE BELOW,",
    "CAPITAL LETTER N WITH CIRCUMFLEX BELOW,SMALL LETTER N WITH CIRCUMFLEX BELOW,",
    "CAPITAL LETTER O WITH TILDE AND ACUTE,SMALL LETTER O WITH TILDE AND ACUTE,",
    "CAPITAL LETTER O WITH TILDE AND DIAERESIS,SMALL LETTER O WITH TILDE AND DIAERESIS,",
    "CAPITAL LETTER O WITH MACRON AND GRAVE,SMALL LETTER O WITH MACRON AND GRAVE,",
    "CAPITAL LETTER O WITH MACRON AND ACUTE,SMALL LETTER O WITH MACRON AND ACUTE,",
    "CAPITAL LETTER P WITH ACUTE,SMALL LETTER P WITH ACUTE,CAPITAL LETTER P WITH DOT ABOVE,",
    "SMALL LETTER P WITH DOT ABOVE,CAPITAL LETTER R WITH DOT ABOVE,SMALL LETTER R WITH DOT ABOVE,",
    "CAPITAL LETTER R WITH DOT BELOW,SMALL LETTER R WITH DOT BELOW,",
    "CAPITAL LETTER R WITH DOT BELOW AND MACRON,SMALL LETTER R WITH DOT BELOW AND MACRON,",
    "CAPITAL LETTER R WITH LINE BELOW,SMALL LETTER R WITH LINE BELOW,",
    "CAPITAL LETTER S WITH DOT ABOVE,SMALL LETTER S WITH DOT ABOVE,",
    "CAPITAL LETTER S WITH DOT BELOW,SMALL LETTER S WITH DOT BELOW,",
    "CAPITAL LETTER S WITH ACUTE AND DOT ABOVE,SMALL LETTER S WITH ACUTE AND DOT ABOVE,",
    "CAPITAL LETTER S WITH CARON AND DOT ABOVE,SMALL LETTER S WITH CARON AND DOT ABOVE,",
    "CAPITAL LETTER S WITH DOT BELOW AND DOT ABOVE,SMALL LETTER S WITH DOT BELOW AND DOT ABOVE,",
    "CAPITAL LETTER T WITH DOT ABOVE,SMALL LETTER T WITH DOT ABOVE,",
    "CAPITAL LETTER T WITH DOT BELOW,SMALL LETTER T WITH DOT BELOW,",
    "CAPITAL LETTER T WITH LINE BELOW,SMALL LETTER T WITH LINE BELOW,",
    "CAPITAL LETTER T WITH CIRCUMFLEX BELOW,SMALL LETTER T WITH CIRCUMFLEX BELOW,",
    "CAPITAL LETTER U WITH DIAERESIS BELOW,SMALL LETTER U WITH DIAERESIS BELOW,",
    "CAPITAL LETTER U WITH TILDE BELOW,SMALL LETTER U WITH TILDE BELOW,",
    "CAPITAL LETTER U WITH CIRCUMFLEX BELOW,SMALL LETTER U WITH CIRCUMFLEX BELOW,",
    "CAPITAL LETTER U WITH TILDE AND ACUTE,SMALL LETTER U WITH TILDE AND ACUTE,",
    "CAPITAL LETTER U WITH MACRON AND DIAERESIS,SMALL LETTER U WITH MACRON AND DIAERESIS,",
    "CAPITAL LETTER V WITH TILDE,SMALL LETTER V WITH TILDE,CAPITAL LETTER V WITH DOT BELOW,",
    "SMALL LETTER V WITH DOT BELOW,CAPITAL LETTER W WITH GRAVE,SMALL LETTER W WITH GRAVE,",
    "CAPITAL LETTER W WITH ACUTE,SMALL LETTER W WITH ACUTE,CAPITAL LETTER W WITH DIAERESIS,",
    "SMALL LETTER W WITH DIAERESIS,CAPITAL LETTER W WITH DOT ABOVE,SMALL LETTER W WITH DOT ABOVE,",
    "CAPITAL LETTER W WITH DOT BELOW,SMALL LETTER W WITH DOT BELOW,",
    "CAPITAL LETTER X WITH DOT ABOVE,SMALL LETTER X WITH DOT ABOVE,",
    "CAPITAL LETTER X WITH DIAERESIS,SMALL LETTER X WITH DIAERESIS,",
    "CAPITAL LETTER Y WITH DOT ABOVE,SMALL LETTER Y WITH DOT ABOVE,",
    "CAPITAL LETTER Z WITH CIRCUMFLEX,SMALL LETTER Z WITH CIRCUMFLEX,",
    "CAPITAL LETTER Z WITH DOT BELOW,SMALL LETTER Z WITH DOT BELOW,",
    "CAPITAL LETTER Z WITH LINE BELOW,SMALL LETTER (Z WITH LINE BELOW,H WITH LINE BELOW,",
    "T WITH DIAERESIS,W WITH RING ABOVE,Y WITH RING ABOVE,A WITH RIGHT HALF RING,LONG S WITH (",
    "DOT ABOVE,DIAGONAL STROKE,HIGH STROKE)),CAPITAL LETTER SHARP S,SMALL LETTER DELTA,",
    "CAPITAL LETTER A WITH DOT BELOW,SMALL LETTER A WITH DOT BELOW,",
    "CAPITAL LETTER A WITH HOOK ABOVE,SMALL LETTER A WITH HOOK ABOVE,",
    "CAPITAL LETTER A WITH CIRCUMFLEX AND ACUTE,SMALL LETTER A WITH CIRCUMFLEX AND ACUTE,",
    "CAPITAL LETTER A WITH CIRCUMFLEX AND GRAVE,SMALL LETTER A WITH CIRCUMFLEX AND GRAVE,",
    "CAPITAL LETTER A WITH CIRCUMFLEX AND HOOK ABOVE,",
    "SMALL LETTER A WITH CIRCUMFLEX AND HOOK ABOVE,CAPITAL LETTER A WITH CIRCUMFLEX AND TILDE,",
    "SMALL LETTER A WITH CIRCUMFLEX AND TILDE,CAPITAL LETTER A WITH CIRCUMFLEX AND DOT BELOW,",
    "SMALL LETTER A WITH CIRCUMFLEX AND DOT BELOW,CAPITAL LETTER A WITH BREVE AND ACUTE,",
    "SMALL LETTER A WITH BREVE AND ACUTE,CAPITAL LETTER A WITH BREVE AND GRAVE,",
    "SMALL LETTER A WITH BREVE AND GRAVE,CAPITAL LETTER A WITH BREVE AND HOOK ABOVE,",
    "SMALL LETTER A WITH BREVE AND HOOK ABOVE,CAPITAL LETTER A WITH BREVE AND TILDE,",
    "SMALL LETTER A WITH BREVE AND TILDE,CAPITAL LETTER A WITH BREVE AND DOT BELOW,",
    "SMALL LETTER A WITH BREVE AND DOT BELOW,CAPITAL LETTER E WITH DOT BELOW,",
    "SMALL LETTER E WITH DOT BELOW,CAPITAL LETTER E WITH HOOK ABOVE,",
    "SMALL LETTER E WITH HOOK ABOVE,CAPITAL LETTER E WITH TILDE,SMALL LETTER E WITH TILDE,",
    "CAPITAL LETTER E WITH CIRCUMFLEX AND ACUTE,SMALL LETTER E WITH CIRCUMFLEX AND ACUTE,",
    "CAPITAL LETTER E WITH CIRCUMFLEX AND GRAVE,SMALL LETTER E WITH CIRCUMFLEX AND GRAVE,",
    "CAPITAL LETTER E WITH CIRCUMFLEX AND HOOK ABOVE,",
    "SMALL LETTER E WITH CIRCUMFLEX AND HOOK ABOVE,CAPITAL LETTER E WITH CIRCUMFLEX AND TILDE,",
    "SMALL LETTER E WITH CIRCUMFLEX AND TILDE,CAPITAL LETTER E WITH CIRCUMFLEX AND DOT BELOW,",
    "SMALL LETTER E WITH CIRCUMFLEX AND DOT BELOW,CAPITAL LETTER I WITH HOOK ABOVE,",
    "SMALL LETTER I WITH HOOK ABOVE,CAPITAL LETTER I WITH DOT BELOW,SMALL LETTER I WITH DOT BELOW,",
    "CAPITAL LETTER O WITH DOT BELOW,SMALL LETTER O WITH DOT BELOW,",
    "CAPITAL LETTER O WITH HOOK ABOVE,SMALL LETTER O WITH HOOK ABOVE,",
    "CAPITAL LETTER O WITH CIRCUMFLEX AND ACUTE,SMALL LETTER O WITH CIRCUMFLEX AND ACUTE,",
    "CAPITAL LETTER O WITH CIRCUMFLEX AND GRAVE,SMALL LETTER O WITH CIRCUMFLEX AND GRAVE,",
    "CAPITAL LETTER O WITH CIRCUMFLEX AND HOOK ABOVE,",
    "SMALL LETTER O WITH CIRCUMFLEX AND HOOK ABOVE,CAPITAL LETTER O WITH CIRCUMFLEX AND TILDE,",
    "SMALL LETTER O WITH CIRCUMFLEX AND TILDE,CAPITAL LETTER O WITH CIRCUMFLEX AND DOT BELOW,",
    "SMALL LETTER O WITH CIRCUMFLEX AND DOT BELOW,CAPITAL LETTER O WITH HORN AND ACUTE,",
    "SMALL LETTER O WITH HORN AND ACUTE,CAPITAL LETTER O WITH HORN AND GRAVE,",
    "SMALL LETTER O WITH HORN AND GRAVE,CAPITAL LETTER O WITH HORN AND HOOK ABOVE,",
    "SMALL LETTER O WITH HORN AND HOOK ABOVE,CAPITAL LETTER O WITH HORN AND TILDE,",
    "SMALL LETTER O WITH HORN AND TILDE,CAPITAL LETTER O WITH HORN AND DOT BELOW,",
    "SMALL LETTER O WITH HORN AND DOT BELOW,CAPITAL LETTER U WITH DOT BELOW,",
    "SMALL LETTER U WITH DOT BELOW,CAPITAL LETTER U WITH HOOK ABOVE,",
    "SMALL LETTER U WITH HOOK ABOVE,CAPITAL LETTER U WITH HORN AND ACUTE,",
    "SMALL LETTER U WITH HORN AND ACUTE,CAPITAL LETTER U WITH HORN AND GRAVE,",
    "SMALL LETTER U WITH HORN AND GRAVE,CAPITAL LETTER U WITH HORN AND HOOK ABOVE,",
    "SMALL LETTER U WITH HORN AND HOOK ABOVE,CAPITAL LETTER U WITH HORN AND TILDE,",
    "SMALL LETTER U WITH HORN AND TILDE,CAPITAL LETTER U WITH HORN AND DOT BELOW,",
    "SMALL LETTER U WITH HORN AND DOT BELOW,CAPITAL LETTER Y WITH GRAVE,SMALL LETTER Y WITH GRAVE,",
    "CAPITAL LETTER Y WITH DOT BELOW,SMALL LETTER Y WITH DOT BELOW,",
    "CAPITAL LETTER Y WITH HOOK ABOVE,SMALL LETTER Y WITH HOOK ABOVE,CAPITAL LETTER Y WITH TILDE,",
    "SMALL LETTER Y WITH TILDE,CAPITAL LETTER MIDDLE-WELSH LL,SMALL LETTER MIDDLE-WELSH LL,",
    "CAPITAL LETTER MIDDLE-WELSH V,SMALL LETTER MIDDLE-WELSH V,CAPITAL LETTER Y WITH LOOP,",
    "SMALL LETTER Y WITH LOOP),GREEK (SMALL LETTER ALPHA WITH (PSILI,DASIA,PSILI AND VARIA,",
    "DASIA AND VARIA,PSILI AND OXIA,DASIA AND OXIA,PSILI AND PERISPOMENI,DASIA AND PERISPOMENI),",
    "CAPITAL LETTER ALPHA WITH (PSILI,DASIA,PSILI AND VARIA,DASIA AND VARIA,PSILI AND OXIA,",
    "DASIA AND OXIA,PSILI AND PERISPOMENI,DASIA AND PERISPOMENI),SMALL LETTER EPSILON WITH (PSILI,",
    "DASIA,PSILI AND VARIA,DASIA AND VARIA,PSILI AND OXIA,DASIA AND OXIA))"]⟩,
  ⟨0x1F18, ["GREEK CAPITAL LETTER EPSILON WITH (PSILI,DASIA,PSILI AND VARIA,DASIA AND VARIA,",
    "PSILI AND OXIA,DASIA AND OXIA)"]⟩,
  ⟨0x1F20, ["GREEK (SMALL LETTER ETA WITH (PSILI,DASIA,PSILI AND VARIA,DASIA AND VARIA,",
    "PSILI AND OXIA,DASIA AND OXIA,PSILI AND PERISPOMENI,DASIA AND PERISPOMENI),",
    "CAPITAL LETTER ETA WITH (PSILI,DASIA,PSILI AND VARIA,DASIA AND VARIA,PSILI AND OXIA,",
    "DASIA AND OXIA,PSILI AND PERISPOMENI,DASIA AND PERISPOMENI),SMALL LETTER IOTA WITH (PSILI,",
    "DASIA,PSILI AND VARIA,DASIA AND VARIA,PSILI AND OXIA,DASIA AND OXIA,PSILI AND PERISPOMENI,",
    "DASIA AND PERISPOMENI),CAPITAL LETTER IOTA WITH (PSILI,DASIA,PSILI AND VARIA,DASIA AND VARIA,",
    "PSILI AND OXIA,DASIA AND OXIA,PSILI AND PERISPOMENI,DASIA AND PERISPOMENI),",
    "SMALL LETTER OMICRON WITH (PSILI,DASIA,PSILI AND VARIA,DASIA AND VARIA,PSILI AND OXIA,",
    "DASIA AND OXIA))"]⟩,
  ⟨0x1F48, ["GREEK CAPITAL LETTER OMICRON WITH (PSILI,DASIA,PSILI AND VARIA,DASIA AND VARIA,",
    "PSILI AND OXIA,DASIA AND OXIA)"]⟩,
  ⟨0x1F50, ["GREEK SMALL LETTER UPSILON WITH (PSILI,DASIA,PSILI AND VARIA,DASIA AND VARIA,",
    "PSILI AND OXIA,DASIA AND OXIA,PSILI AND PERISPOMENI,DASIA AND PERISPOMENI)"]⟩,
  ⟨0x1F59, ["GREEK CAPITAL LETTER UPSILON WITH DASIA"]⟩,
  ⟨0x1F5B, ["GREEK CAPITAL LETTER UPSILON WITH DASIA AND VARIA"]⟩,
  ⟨0x1F5D, ["GREEK CAPITAL LETTER UPSILON WITH DASIA AND OXIA"]⟩,
  ⟨0x1F5F, ["GREEK (CAPITAL LETTER UPSILON WITH DASIA AND PERISPOMENI,SMALL LETTER OMEGA WITH (",
    "PSILI,DASIA,PSILI AND VARIA,DASIA AND VARIA,PSILI AND OXIA,DASIA AND OXIA,",
    "PSILI AND PERISPOMENI,DASIA AND PERISPOMENI),CAPITAL LETTER OMEGA WITH (PSILI,DASIA,",
    "PSILI AND VARIA,DASIA AND VARIA,PSILI AND OXIA,DASIA AND OXIA,PSILI AND PERISPOMENI,",
    "DASIA AND PERISPOMENI),SMALL LETTER (ALPHA WITH (VARIA,OXIA),EPSILON WITH (VARIA,OXIA),",
    "ETA WITH (VARIA,OXIA),IOTA WITH (VARIA,OXIA),OMICRON WITH (VARIA,OXIA),UPSILON WITH (VARIA,",
    "OXIA),OMEGA WITH (VARIA,OXIA)))"]⟩,
  ⟨0x1F80, ["GREEK (SMALL LETTER ALPHA WITH (PSILI AND YPOGEGRAMMENI,DASIA AND YPOGEGRAMMENI,",
    "PSILI AND VARIA AND YPOGEGRAMMENI,DASIA AND VARIA AND YPOGEGRAMMENI,",
    "PSILI AND OXIA AND YPOGEGRAMMENI,DASIA AND OXIA AND YPOGEGRAMMENI,",
    "PSILI AND PERISPOMENI AND YPOGEGRAMMENI,DASIA AND PERISPOMENI AND YPOGEGRAMMENI),",
    "CAPITAL LETTER ALPHA WITH (PSILI AND PROSGEGRAMMENI,DASIA AND PROSGEGRAMMENI,",
    "PSILI AND VARIA AND PROSGEGRAMMENI,DASIA AND VARIA AND PROSGEGRAMMENI,",
    "PSILI AND OXIA AND PROSGEGRAMMENI,DASIA AND OXIA AND PROSGEGRAMMENI,",
    "PSILI AND PERISPOMENI AND PROSGEGRAMMENI,DASIA AND PERISPOMENI AND PROSGEGRAMMENI),",
    "SMALL LETTER ETA WITH (PSILI AND YPOGEGRAMMENI,DASIA AND YPOGEGRAMMENI,",
    "PSILI AND VARIA AND YPOGEGRAMMENI,DASIA AND VARIA AND YPOGEGRAMMENI,",
    "PSILI AND OXIA AND YPOGEGRAMMENI,DASIA AND OXIA AND YPOGEGRAMMENI,",
    "PSILI AND PERISPOMENI AND YPOGEGRAMMENI,DASIA AND PERISPOMENI AND YPOGEGRAMMENI),",
    "CAPITAL LETTER ETA WITH (PSILI AND PROSGEGRAMMENI,DASIA AND PROSGEGRAMMENI,",
    "PSILI AND VARIA AND PROSGEGRAMMENI,DASIA AND VARIA AND PROSGEGRAMMENI,",
    "PSILI AND OXIA AND PROSGEGRAMMENI,DASIA AND OXIA AND PROSGEGRAMMENI,",
    "PSILI AND PERISPOMENI AND PROSGEGRAMMENI,DASIA AND PERISPOMENI AND PROSGEGRAMMENI),",
    "SMALL LETTER OMEGA WITH (PSILI AND YPOGEGRAMMENI,DASIA AND YPOGEGRAMMENI,",
    "PSILI AND VARIA AND YPOGEGRAMMENI,DASIA AND VARIA AND YPOGEGRAMMENI,",
    "PSILI AND OXIA AND YPOGEGRAMMENI,DASIA AND OXIA AND YPOGEGRAMMENI,",
    "PSILI AND PERISPOMENI AND YPOGEGRAMMENI,DASIA AND PERISPOMENI AND YPOGEGRAMMENI),",
    "CAPITAL LETTER OMEGA WITH (PSILI AND PROSGEGRAMMENI,DASIA AND PROSGEGRAMMENI,",
    "PSILI AND VARIA AND PROSGEGRAMMENI,DASIA AND VARIA AND PROSGEGRAMMENI,",
    "PSILI AND OXIA AND PROSGEGRAMMENI,DASIA AND OXIA AND PROSGEGRAMMENI,",
    "PSILI AND PERISPOMENI AND PROSGEGRAMMENI,DASIA AND PERISPOMENI AND PROSGEGRAMMENI),",
    "SMALL LETTER ALPHA WITH (VRACHY,MACRON,VARIA AND YPOGEGRAMMENI,YPOGEGRAMMENI,",
    "OXIA AND YPOGEGRAMMENI))"]⟩,
  ⟨0x1FB6, ["GREEK (SMALL LETTER ALPHA WITH PERISPOMENI(, AND YPOGEGRAMMENI),",
    "CAPITAL LETTER ALPHA WITH (VRACHY,MACRON,VARIA,OXIA,PROSGEGRAMMENI),KORONIS,PROSGEGRAMMENI,",
    "PSILI,PERISPOMENI,DIALYTIKA AND PERISPOMENI,SMALL LETTER ETA WITH (VARIA AND YPOGEGRAMMENI,",
    "YPOGEGRAMMENI,OXIA AND YPOGEGRAMMENI))"]⟩,
  ⟨0x1FC6, ["GREEK (SMALL LETTER ETA WITH PERISPOMENI(, AND YPOGEGRAMMENI),CAPITAL LETTER (",
    "EPSILON WITH (VARIA,OXIA),ETA WITH (VARIA,OXIA,PROSGEGRAMMENI)),PSILI AND (VARIA,OXIA,",
    "PERISPOMENI),SMALL LETTER IOTA WITH (VRACHY,MACRON,DIALYTIKA AND (VARIA,OXIA)))"]⟩,
  ⟨0x1FD6, ["GREEK (SMALL LETTER IOTA WITH (PERISPOMENI,DIALYTIKA AND PERISPOMENI),",
    "CAPITAL LETTER IOTA WITH (VRACHY,MACRON,VARIA,OXIA))"]⟩,
  ⟨0x1FDD, ["GREEK (DASIA AND (VARIA,OXIA,PERISPOMENI),SMALL LETTER (UPSILON WITH (VRACHY,MACRON,",
    "DIALYTIKA AND (VARIA,OXIA)),RHO WITH (PSILI,DASIA),UPSILON WITH (PERISPOMENI,",
    "DIALYTIKA AND PERISPOMENI)),CAPITAL LETTER (UPSILON WITH (VRACHY,MACRON,VARIA,OXIA),",
    "RHO WITH DASIA),DIALYTIKA AND (VARIA,OXIA),VARIA)"]⟩,
  ⟨0x1FF2, ["GREEK SMALL LETTER OMEGA WITH (VARIA AND YPOGEGRAMMENI,YPOGEGRAMMENI,",
    "OXIA AND YPOGEGRAMMENI)"]⟩,
  ⟨0x1FF6, ["GREEK (SMALL LETTER OMEGA WITH PERISPOMENI(, AND YPOGEGRAMMENI),CAPITAL LETTER (",
    "OMICRON WITH (VARIA,OXIA),OMEGA WITH (VARIA,OXIA,PROSGEGRAMMENI)),OXIA,DASIA)"]⟩,
  ⟨0x2000, ["EN QUAD,EM QUAD,EN SPACE,EM SPACE,THREE-PER-EM SPACE,FOUR-PER-EM SPACE,",
    "SIX-PER-EM SPACE,FIGURE SPACE,PUNCTUATION SPACE,THIN SPACE,HAIR SPACE,ZERO WIDTH (SPACE,",
    "NON-JOINER,JOINER),LEFT-TO-RIGHT MARK,RIGHT-TO-LEFT MARK,HYPHEN,NON-BREAKING HYPHEN,",
    "FIGURE DASH,EN DASH,EM DASH,HORIZONTAL BAR,DOUBLE (VERTICAL LINE,LOW LINE),",
    "LEFT SINGLE QUOTATION MARK,RIGHT SINGLE QUOTATION MARK,SINGLE (LOW-9 QUOTATION MARK,",
    "HIGH-REVERSED-9 QUOTATION MARK),LEFT DOUBLE QUOTATION MARK,RIGHT DOUBLE QUOTATION MARK,",
    "DOUBLE (LOW-9 QUOTATION MARK,HIGH-REVERSED-9 QUOTATION MARK),DAGGER,DOUBLE DAGGER,BULLET,",
    "TRIANGULAR BULLET,ONE DOT LEADER,TWO DOT LEADER,HORIZONTAL ELLIPSIS,HYPHENATION POINT,",
    "LINE SEPARATOR,PARAGRAPH SEPARATOR,LEFT-TO-RIGHT EMBEDDING,RIGHT-TO-LEFT EMBEDDING,",
    "POP DIRECTIONAL FORMATTING,LEFT-TO-RIGHT OVERRIDE,RIGHT-TO-LEFT OVERRIDE,",
    "NARROW NO-BREAK SPACE,PER (MILLE SIGN,TEN THOUSAND SIGN),PRIME,DOUBLE PRIME,TRIPLE PRIME,",
    "REVERSED (PRIME,DOUBLE PRIME,TRIPLE PRIME),CARET,SINGLE (LEFT-POINTING ANGLE QUOTATION MARK,",
    "RIGHT-POINTING ANGLE QUOTATION MARK),REFERENCE MARK,DOUBLE EXCLAMATION MARK,INTERROBANG,",
    "OVERLINE,UNDERTIE,CHARACTER TIE,CARET INSERTION POINT,ASTERISM,HYPHEN BULLET,FRACTION SLASH,",
    "LEFT SQUARE BRACKET WITH QUILL,RIGHT SQUARE BRACKET WITH QUILL,DOUBLE QUESTION MARK,",
    "QUESTION EXCLAMATION MARK,EXCLAMATION QUESTION MARK,TIRONIAN SIGN ET,REVERSED PILCROW SIGN,",
    "BLACK (LEFTWARDS BULLET,RIGHTWARDS BULLET),LOW ASTERISK,REVERSED SEMICOLON,CLOSE UP,",
    "TWO ASTERISKS ALIGNED VERTICALLY,COMMERCIAL MINUS SIGN,SWUNG DASH,INVERTED UNDERTIE,",
    "FLOWER PUNCTUATION MARK,THREE DOT PUNCTUATION,QUADRUPLE PRIME,FOUR DOT PUNCTUATION,",
    "FIVE DOT PUNCTUATION,TWO DOT PUNCTUATION,FOUR DOT MARK,DOTTED CROSS,TRICOLON,",
    "VERTICAL FOUR DOTS,MEDIUM MATHEMATICAL SPACE,WORD JOINER,FUNCTION APPLICATION,INVISIBLE (",
    "TIMES,SEPARATOR,PLUS)"]⟩,
  ⟨0x2066, ["LEFT-TO-RIGHT ISOLATE,RIGHT-TO-LEFT ISOLATE,FIRST STRONG ISOLATE,",
    "POP DIRECTIONAL ISOLATE,INHIBIT SYMMETRIC SWAPPING,ACTIVATE SYMMETRIC SWAPPING,",
    "INHIBIT ARABIC FORM SHAPING,ACTIVATE ARABIC FORM SHAPING,NATIONAL DIGIT SHAPES,",
    "NOMINAL DIGIT SHAPES,SUPERSCRIPT (ZERO,LATIN SMALL LETTER I)"]⟩,
  ⟨0x2074, ["SUPERSCRIPT (FOUR,FIVE,SIX,SEVEN,EIGHT,NINE,PLUS SIGN,MINUS,EQUALS SIGN,",
    "LEFT PARENTHESIS,RIGHT PARENTHESIS,LATIN SMALL LETTER N),SUBSCRIPT (ZERO,ONE,TWO,THREE,FOUR,",
    "FIVE,SIX,SEVEN,EIGHT,NINE,PLUS SIGN,MINUS,EQUALS SIGN,LEFT PARENTHESIS,RIGHT PARENTHESIS)"]⟩,
  ⟨0x2090, ["LATIN SUBSCRIPT SMALL LETTER (A,E,O,X,SCHWA,H,K,L,M,N,P,S,T)"]⟩,
  ⟨0x20A0, ["EURO-CURRENCY SIGN,COLON SIGN,CRUZEIRO SIGN,FRENCH FRANC SIGN,LIRA SIGN,MILL SIGN,",
    "NAIRA SIGN,PESETA SIGN,RUPEE SIGN,WON SIGN,NEW SHEQEL SIGN,DONG SIGN,EURO SIGN,KIP SIGN,",
    "TUGRIK SIGN,DRACHMA SIGN,GERMAN PENNY SIGN,PESO SIGN,GUARANI SIGN,AUSTRAL SIGN,HRYVNIA SIGN,",
    "CEDI SIGN,LIVRE TOURNOIS SIGN,SPESMILO SIGN,TENGE SIGN,INDIAN RUPEE SIGN,TURKISH LIRA SIGN,",
    "NORDIC MARK SIGN,MANAT SIGN,RUBLE SIGN,LARI SIGN,BITCOIN SIGN,SOM SIGN"]⟩]

end CharacterName
end Text
end Reckoner
