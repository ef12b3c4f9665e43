import Reckoner.Text.CharacterName.Outline

/-!
# Names from U+11280 on

The names of the characters from U+11280 to U+14646, as outlines.
-/

namespace Reckoner
namespace Text
namespace CharacterName

/-- Names of the characters from U+11280 to U+14646. -/
def from11280 : List Outline := [
  ⟨0x11280, ["MULTANI LETTER (A,I,U,E,KA,KHA,GA)"]⟩,
  ⟨0x11288, ["MULTANI LETTER GHA"]⟩,
  ⟨0x1128A, ["MULTANI LETTER (CA,CHA,JA,JJA)"]⟩,
  ⟨0x1128F, ["MULTANI LETTER (NYA,TTA,TTHA,DDA,DDDA,DDHA,NNA,TA,THA,DA,DHA,NA,PA,PHA,BA)"]⟩,
  ⟨0x1129F, ["MULTANI (LETTER (BHA,MA,YA,RA,LA,VA,SA,HA,RRA,RHA),SECTION MARK)"]⟩,
  ⟨0x112B0, ["KHUDAWADI (LETTER (A,AA,I,II,U,UU,E,AI,O,AU,KA,KHA,GA,GGA,GHA,NGA,CA,CHA,JA,JJA,JHA,",
    "NYA,TTA,TTHA,DDA,DDDA,RRA,DDHA,NNA,TA,THA,DA,DHA,NA,PA,PHA,BA,BBA,BHA,MA,YA,RA,LA,VA,SHA,SA,",
    "HA),SIGN ANUSVARA,VOWEL SIGN (AA,I,II,U,UU,E,AI,O,AU),SIGN (NUKTA,VIRAMA))"]⟩,
  ⟨0x112F0, ["KHUDAWADI DIGIT (ZERO,ONE,TWO,THREE,FOUR,FIVE,SIX,SEVEN,EIGHT,NINE)"]⟩,
  ⟨0x11300, ["GRANTHA SIGN (COMBINING ANUSVARA ABOVE,CANDRABINDU,ANUSVARA,VISARGA)"]⟩,
  ⟨0x11305, ["GRANTHA LETTER (A,AA,I,II,U,UU,VOCALIC (R,L))"]⟩,
  ⟨0x1130F, ["GRANTHA LETTER (EE,AI)"]⟩,
  ⟨0x11313, ["GRANTHA LETTER (OO,AU,KA,KHA,GA,GHA,NGA,CA,CHA,JA,JHA,NYA,TTA,TTHA,DDA,DDHA,NNA,TA,",
    "THA,DA,DHA,NA)"]⟩,
  ⟨0x1132A, ["GRANTHA LETTER (PA,PHA,BA,BHA,MA,YA,RA)"]⟩,
  ⟨0x11332, ["GRANTHA LETTER (LA,LLA)"]⟩,
  ⟨0x11335, ["GRANTHA LETTER (VA,SHA,SSA,SA,HA)"]⟩,
  ⟨0x1133B, ["COMBINING BINDU BELOW,GRANTHA (SIGN (NUKTA,AVAGRAHA),VOWEL SIGN (AA,I,II,U,UU,",
    "VOCALIC (R,RR)))"]⟩,
  ⟨0x11347, ["GRANTHA VOWEL SIGN (EE,AI)"]⟩,
  ⟨0x1134B, ["GRANTHA (VOWEL SIGN (OO,AU),SIGN VIRAMA)"]⟩,
  ⟨0x11350, ["GRANTHA OM"]⟩,
  ⟨0x11357, ["GRANTHA AU LENGTH MARK"]⟩,
  ⟨0x1135D, ["GRANTHA (SIGN PLUTA,LETTER (VEDIC (ANUSVARA,DOUBLE ANUSVARA),VOCALIC (RR,LL)),",
    "VOWEL SIGN VOCALIC (L,LL))"]⟩,
  ⟨0x11366, ["COMBINING GRANTHA DIGIT (ZERO,ONE,TWO,THREE,FOUR,FIVE,SIX)"]⟩,
  ⟨0x11370, ["COMBINING GRANTHA LETTER (A,KA,NA,VI,PA)"]⟩,
  ⟨0x11400, ["NEWA (LETTER (A,AA,I,II,U,UU,VOCALIC (R,RR,L,LL),E,AI,O,AU,KA,KHA,GA,GHA,NGA,NGHA,",
    "CA,CHA,JA,JHA,NYA,NYHA,TTA,TTHA,DDA,DDHA,NNA,TA,THA,DA,DHA,NA,NHA,PA,PHA,BA,BHA,MA,MHA,YA,RA,",
    "RHA,LA,LHA,WA,SHA,SSA,SA,HA),VOWEL SIGN (AA,I,II,U,UU,VOCALIC (R,RR,L,LL),E,AI,O,AU),SIGN (",
    "VIRAMA,CANDRABINDU,ANUSVARA,VISARGA,NUKTA,AVAGRAHA,FINAL ANUSVARA),OM,SIDDHI,DANDA,",
    "DOUBLE DANDA,COMMA,GAP FILLER,ABBREVIATION SIGN,DIGIT (ZERO,ONE,TWO,THREE,FOUR,FIVE,SIX,",
    "SEVEN,EIGHT,NINE),DOUBLE COMMA,PLACEHOLDER MARK)"]⟩,
  ⟨0x1145D, ["NEWA (INSERTION SIGN,SANDHI MARK,LETTER VEDIC ANUSVARA,SIGN (JIHVAMULIYA,",
    "UPADHMANIYA))"]⟩,
  ⟨0x11480, ["TIRHUTA (ANJI,LETTER (A,AA,I,II,U,UU,VOCALIC (R,RR,L,LL),E,AI,O,AU,KA,KHA,GA,GHA,",
    "NGA,CA,CHA,JA,JHA,NYA,TTA,TTHA,DDA,DDHA,NNA,TA,THA,DA,DHA,NA,PA,PHA,BA,BHA,MA,YA,RA,LA,VA,",
    "SHA,SSA,SA,HA),VOWEL SIGN (AA,I,II,U,UU,VOCALIC (R,RR,L,LL),E,SHORT E,AI,O,SHORT O,AU),SIGN (",
    "CANDRABINDU,ANUSVARA,VISARGA,VIRAMA,NUKTA,AVAGRAHA),GVANG,ABBREVIATION SIGN,OM)"]⟩,
  ⟨0x114D0, ["TIRHUTA DIGIT (ZERO,ONE,TWO,THREE,FOUR,FIVE,SIX,SEVEN,EIGHT,NINE)"]⟩,
  ⟨0x11580, ["SIDDHAM (LETTER (A,AA,I,II,U,UU,VOCALIC (R,RR,L,LL),E,AI,O,AU,KA,KHA,GA,GHA,NGA,CA,",
    "CHA,JA,JHA,NYA,TTA,TTHA,DDA,DDHA,NNA,TA,THA,DA,DHA,NA,PA,PHA,BA,BHA,MA,YA,RA,LA,VA,SHA,SSA,",
    "SA,HA),VOWEL SIGN (AA,I,II,U,UU,VOCALIC (R,RR)))"]⟩,
  ⟨0x115B8, ["SIDDHAM (VOWEL SIGN (E,AI,O,AU),SIGN (CANDRABINDU,ANUSVARA,VISARGA,VIRAMA,NUKTA,",
    "SIDDHAM),DANDA,DOUBLE DANDA,SEPARATOR (DOT,BAR),REPETITION MARK-(1,2,3),END OF TEXT MARK,",
    "SECTION MARK (WITH (TRIDENT AND (U-SHAPED ORNAMENTS,DOTTED CRESCENTS),RAYS AND DOTTED (",
    "CRESCENTS,DOUBLE CRESCENTS,TRIPLE CRESCENTS)),DOUBLE RING(, WITH RAYS),WITH (",
    "DOUBLE CRESCENTS,TRIPLE CRESCENTS,QUADRUPLE CRESCENTS,SEPTUPLE CRESCENTS,CIRCLES AND (RAYS,",
    "TWO ENCLOSURES,FOUR ENCLOSURES))),LETTER (THREE-CIRCLE ALTERNATE I,TWO-CIRCLE ALTERNATE (I,",
    "II),ALTERNATE U),VOWEL SIGN ALTERNATE (U,UU))"]⟩,
  ⟨0x11600, ["MODI (LETTER (A,AA,I,II,U,UU,VOCALIC (R,RR,L,LL),E,AI,O,AU,KA,KHA,GA,GHA,NGA,CA,CHA,",
    "JA,JHA,NYA,TTA,TTHA,DDA,DDHA,NNA,TA,THA,DA,DHA,NA,PA,PHA,BA,BHA,MA,YA,RA,LA,VA,SHA,SSA,SA,HA,",
    "LLA),VOWEL SIGN (AA,I,II,U,UU,VOCALIC (R,RR,L,LL),E,AI,O,AU),SIGN (ANUSVARA,VISARGA,VIRAMA,",
    "ARDHACANDRA),DANDA,DOUBLE DANDA,ABBREVIATION SIGN,SIGN HUVA)"]⟩,
  ⟨0x11650, ["MODI DIGIT (ZERO,ONE,TWO,THREE,FOUR,FIVE,SIX,SEVEN,EIGHT,NINE)"]⟩,
  ⟨0x11660, ["MONGOLIAN (BIRGA WITH ORNAMENT,ROTATED BIRGA,DOUBLE BIRGA WITH ORNAMENT,",
    "TRIPLE BIRGA WITH ORNAMENT,BIRGA WITH DOUBLE ORNAMENT,ROTATED BIRGA WITH (ORNAMENT,",
    "DOUBLE ORNAMENT),INVERTED BIRGA(, WITH DOUBLE ORNAMENT),SWIRL BIRGA(, WITH (ORNAMENT,",
    "DOUBLE ORNAMENT)),TURNED SWIRL BIRGA WITH DOUBLE ORNAMENT)"]⟩,
  ⟨0x11680, ["TAKRI (LETTER (A,AA,I,II,U,UU,E,AI,O,AU,KA,KHA,GA,GHA,NGA,CA,CHA,JA,JHA,NYA,TTA,",
    "TTHA,DDA,DDHA,NNA,TA,THA,DA,DHA,NA,PA,PHA,BA,BHA,MA,YA,RA,LA,VA,SHA,SA,HA,RRA),SIGN (",
    "ANUSVARA,VISARGA),VOWEL SIGN (AA,I,II,U,UU,E,AI,O,AU),SIGN (VIRAMA,NUKTA),LETTER ARCHAIC KHA,",
    "ABBREVIATION SIGN)"]⟩,
  ⟨0x116C0, ["TAKRI DIGIT (ZERO,ONE,TWO,THREE,FOUR,FIVE,SIX,SEVEN,EIGHT,NINE)"]⟩,
  ⟨0x11700, ["AHOM LETTER (KA,KHA,NGA,NA,TA,ALTERNATE TA,PA,PHA,BA,MA,JA,CHA,THA,RA,LA,SA,NYA,HA,",
    "A,DA,DHA,GA,ALTERNATE GA,GHA,BHA,JHA,ALTERNATE BA)"]⟩,
  ⟨0x1171D, ["AHOM (CONSONANT SIGN MEDIAL (LA,RA,LIGATING RA),VOWEL SIGN (A,AA,I,II,U,UU,E,AW,O,",
    "AI,AM),SIGN KILLER)"]⟩,
  ⟨0x11730, ["AHOM (DIGIT (ZERO,ONE,TWO,THREE,FOUR,FIVE,SIX,SEVEN,EIGHT,NINE),NUMBER (TEN,TWENTY),",
    "SIGN (SMALL SECTION,SECTION,RULAI),SYMBOL VI,LETTER (CA,TTA,TTHA,DDA,DDHA,NNA,LLA))"]⟩,
  ⟨0x11800, ["DOGRA (LETTER (A,AA,I,II,U,UU,E,AI,O,AU,KA,KHA,GA,GHA,NGA,CA,CHA,JA,JHA,NYA,TTA,",
    "TTHA,DDA,DDHA,NNA,TA,THA,DA,DHA,NA,PA,PHA,BA,BHA,MA,YA,RA,LA,VA,SHA,SSA,SA,HA,RRA),",
    "VOWEL SIGN (AA,I,II,U,UU,VOCALIC (R,RR),E,AI,O,AU),SIGN (ANUSVARA,VISARGA,VIRAMA,NUKTA),",
    "ABBREVIATION SIGN)"]⟩,
  ⟨0x118A0, ["WARANG CITI (CAPITAL LETTER (NGAA,A,WI,YU,YA,YO,II,UU,E,O,ANG,GA,KO,ENY,YUJ,UC,ENN,",
    "ODD,TTE,NUNG,DA,AT,AM,BU,PU,HIYO,HOLO,HORR,HAR,SSUU,SII,VIYO),SMALL LETTER (NGAA,A,WI,YU,YA,",
    "YO,II,UU,E,O,ANG,GA,KO,ENY,YUJ,UC,ENN,ODD,TTE,NUNG,DA,AT,AM,BU,PU,HIYO,HOLO,HORR,HAR,SSUU,",
    "SII,VIYO),DIGIT (ZERO,ONE,TWO,THREE,FOUR,FIVE,SIX,SEVEN,EIGHT,NINE),NUMBER (TEN,TWENTY,",
    "THIRTY,FORTY,FIFTY,SIXTY,SEVENTY,EIGHTY,NINETY))"]⟩,
  ⟨0x118FF, ["WARANG CITI OM,DIVES AKURU LETTER (A,AA,I,II,U,UU,E)"]⟩,
  ⟨0x11909, ["DIVES AKURU LETTER O"]⟩,
  ⟨0x1190C, ["DIVES AKURU LETTER (KA,KHA,GA,GHA,NGA,CA,CHA,JA)"]⟩,
  ⟨0x11915, ["DIVES AKURU LETTER (NYA,TTA)"]⟩,
  ⟨0x11918, ["DIVES AKURU (LETTER (DDA,DDHA,NNA,TA,THA,DA,DHA,NA,PA,PHA,BA,BHA,MA,YA,YYA,RA,LA,VA,",
    "SHA,SSA,SA,HA,LLA,ZA),VOWEL SIGN (AA,I,II,U,UU,E))"]⟩,
  ⟨0x11937, ["DIVES AKURU VOWEL SIGN (AI,O)"]⟩,
  ⟨0x1193B, ["DIVES AKURU (SIGN (ANUSVARA,CANDRABINDU,HALANTA),VIRAMA,PREFIXED NASAL SIGN,",
    "MEDIAL YA,INITIAL RA,MEDIAL RA,SIGN NUKTA,DOUBLE DANDA,GAP FILLER,END OF TEXT MARK)"]⟩,
  ⟨0x11950, ["DIVES AKURU DIGIT (ZERO,ONE,TWO,THREE,FOUR,FIVE,SIX,SEVEN,EIGHT,NINE)"]⟩,
  ⟨0x119A0, ["NANDINAGARI LETTER (A,AA,I,II,U,UU,VOCALIC (R,RR))"]⟩,
  ⟨0x119AA, ["NANDINAGARI (LETTER (E,AI,O,AU,KA,KHA,GA,GHA,NGA,CA,CHA,JA,JHA,NYA,TTA,TTHA,DDA,",
    "DDHA,NNA,TA,THA,DA,DHA,NA,PA,PHA,BA,BHA,MA,YA,RA,LA,VA,SHA,SSA,SA,HA,LLA,RRA),VOWEL SIGN (AA,",
    "I,II,U,UU,VOCALIC (R,RR)))"]⟩,
  ⟨0x119DA, ["NANDINAGARI (VOWEL SIGN (E,AI,O,AU),SIGN (ANUSVARA,VISARGA,VIRAMA,AVAGRAHA,SIDDHAM),",
    "HEADSTROKE,VOWEL SIGN PRISHTHAMATRA E)"]⟩,
  ⟨0x11A00, ["ZANABAZAR SQUARE (LETTER A,VOWEL (SIGN (I,UE,U,E,OE,O,AI,AU,REVERSED I),",
    "LENGTH MARK),LETTER (KA,KHA,GA,GHA,NGA,CA,CHA,JA,NYA,TTA,TTHA,DDA,DDHA,NNA,TA,THA,DA,DHA,NA,",
    "PA,PHA,BA,BHA,MA,TSA,TSHA,DZA,DZHA,ZHA,ZA,-A,YA,RA,LA,VA,SHA,SSA,SA,HA,KSSA),",
    "FINAL CONSONANT MARK,SIGN (VIRAMA,CANDRABINDU(, WITH ORNAMENT),CANDRA WITH ORNAMENT,ANUSVARA,",
    "VISARGA),CLUSTER-(INITIAL LETTER RA,FINAL LETTER (YA,RA,LA,VA)),INITIAL HEAD MARK,",
    "CLOSING HEAD MARK,MARK (TSHEG,SHAD,DOUBLE SHAD,LONG TSHEG),INITIAL DOUBLE-LINED HEAD MARK,",
    "CLOSING DOUBLE-LINED HEAD MARK,SUBJOINER)"]⟩,
  ⟨0x11A50, ["SOYOMBO (LETTER A,VOWEL (SIGN (I,UE,U,E,O,OE,AI,AU,VOCALIC (R,L)),LENGTH MARK),",
    "LETTER (KA,KHA,GA,GHA,NGA,CA,CHA,JA,JHA,NYA,TTA,TTHA,DDA,DDHA,NNA,TA,THA,DA,DHA,NA,PA,PHA,BA,",
    "BHA,MA,TSA,TSHA,DZA,ZHA,ZA,-A,YA,RA,LA,VA,SHA,SSA,SA,HA,KSSA),SIGN (JIHVAMULIYA,UPADHMANIYA),",
    "CLUSTER-INITIAL LETTER (RA,LA,SHA,SA),FINAL CONSONANT SIGN (G,K,NG,D,N,B,M,R,L,SH,S,-A),",
    "SIGN (ANUSVARA,VISARGA),GEMINATION MARK,SUBJOINER,MARK (TSHEG,SHAD,DOUBLE SHAD,PLUTA),",
    "HEAD MARK WITH MOON AND SUN( AND (TRIPLE FLAME,FLAME),),TERMINAL MARK-(1,2))"]⟩,
  ⟨0x11AB0, ["CANADIAN SYLLABICS (NATTILIK (HI,HII,HO,HOO,HA,HAA,SHRI,SHRII,SHRO,SHROO,SHRA,",
    "SHRAA),SPE,SPI,SPO,SPA),PAU CIN HAU (LETTER (PA,KA,LA,MA,DA,ZA,VA,NGA,HA,GA,KHA,SA,BA,CA,TA,",
    "THA,NA,PHA,RA,FA,CHA,A,E,I,O,U,UA,IA,FINAL (P,K,T,M,N,L,W,NG,Y)),RISING TONE( LONG,),",
    "SANDHI GLOTTAL STOP,RISING TONE (LONG FINAL,FINAL),SANDHI (GLOTTAL STOP FINAL,TONE( LONG,,",
    " LONG FINAL, FINAL)),MID-LEVEL TONE,GLOTTAL STOP VARIANT,MID-LEVEL TONE (LONG FINAL,FINAL),",
    "LOW-FALLING TONE( LONG,),GLOTTAL STOP,LOW-FALLING TONE (LONG FINAL,FINAL),",
    "GLOTTAL STOP FINAL)"]⟩,
  ⟨0x11C00, ["BHAIKSUKI LETTER (A,AA,I,II,U,UU,VOCALIC (R,RR,L))"]⟩,
  ⟨0x11C0A, ["BHAIKSUKI (LETTER (E,AI,O,AU,KA,KHA,GA,GHA,NGA,CA,CHA,JA,JHA,NYA,TTA,TTHA,DDA,DDHA,",
    "NNA,TA,THA,DA,DHA,NA,PA,PHA,BA,BHA,MA,YA,RA,LA,VA,SHA,SSA,SA,HA),VOWEL SIGN (AA,I,II,U,UU,",
    "VOCALIC (R,RR,L)))"]⟩,
  ⟨0x11C38, ["BHAIKSUKI (VOWEL SIGN (E,AI,O,AU),SIGN (CANDRABINDU,ANUSVARA,VISARGA,VIRAMA,",
    "AVAGRAHA),DANDA,DOUBLE DANDA,WORD SEPARATOR,GAP FILLER-(1,2))"]⟩,
  ⟨0x11C50, ["BHAIKSUKI (DIGIT (ZERO,ONE,TWO,THREE,FOUR,FIVE,SIX,SEVEN,EIGHT,NINE),NUMBER (ONE,",
    "TWO,THREE,FOUR,FIVE,SIX,SEVEN,EIGHT,NINE,TEN,TWENTY,THIRTY,FORTY,FIFTY,SIXTY,SEVENTY,EIGHTY,",
    "NINETY),HUNDREDS UNIT MARK)"]⟩,
  ⟨0x11C70, ["MARCHEN (HEAD MARK,MARK SHAD,LETTER (KA,KHA,GA,NGA,CA,CHA,JA,NYA,TA,THA,DA,NA,PA,",
    "PHA,BA,MA,TSA,TSHA,DZA,WA,ZHA,ZA,-A,YA,RA,LA,SHA,SA,HA,A))"]⟩,
  ⟨0x11C92, ["MARCHEN SUBJOINED LETTER (KA,KHA,GA,NGA,CA,CHA,JA,NYA,TA,THA,DA,NA,PA,PHA,BA,MA,TSA,",
    "TSHA,DZA,WA,ZHA,ZA)"]⟩,
  ⟨0x11CA9, ["MARCHEN (SUBJOINED LETTER (YA,RA,LA,SHA,SA,HA,A),VOWEL SIGN (AA,I,U,E,O),SIGN (",
    "ANUSVARA,CANDRABINDU))"]⟩,
  ⟨0x11D00, ["MASARAM GONDI LETTER (A,AA,I,II,U,UU,E)"]⟩,
  ⟨0x11D08, ["MASARAM GONDI LETTER (AI,O)"]⟩,
  ⟨0x11D0B, ["MASARAM GONDI (LETTER (AU,KA,KHA,GA,GHA,NGA,CA,CHA,JA,JHA,NYA,TTA,TTHA,DDA,DDHA,NNA,",
    "TA,THA,DA,DHA,NA,PA,PHA,BA,BHA,MA,YA,RA,LA,VA,SHA,SSA,SA,HA,LLA,KSSA,JNYA,TRA),VOWEL SIGN (",
    "AA,I,II,U,UU,VOCALIC R))"]⟩,
  ⟨0x11D3A, ["MASARAM GONDI VOWEL SIGN E"]⟩,
  ⟨0x11D3C, ["MASARAM GONDI VOWEL SIGN (AI,O)"]⟩,
  ⟨0x11D3F, ["MASARAM GONDI (VOWEL SIGN AU,SIGN (ANUSVARA,VISARGA,NUKTA,CANDRA,HALANTA),VIRAMA,",
    "REPHA,RA-KARA)"]⟩,
  ⟨0x11D50, ["MASARAM GONDI DIGIT (ZERO,ONE,TWO,THREE,FOUR,FIVE,SIX,SEVEN,EIGHT,NINE)"]⟩,
  ⟨0x11D60, ["GUNJALA GONDI LETTER (A,AA,I,II,U,UU)"]⟩,
  ⟨0x11D67, ["GUNJALA GONDI LETTER (EE,AI)"]⟩,
  ⟨0x11D6A, ["GUNJALA GONDI (LETTER (OO,AU,YA,VA,BA,BHA,MA,KA,KHA,TA,THA,LA,GA,GHA,DA,DHA,NA,CA,",
    "CHA,TTA,TTHA,LLA,JA,JHA,DDA,DDHA,NGA,PA,PHA,HA,RA,SA),VOWEL SIGN (AA,I,II,U,UU))"]⟩,
  ⟨0x11D90, ["GUNJALA GONDI VOWEL SIGN (EE,AI)"]⟩,
  ⟨0x11D93, ["GUNJALA GONDI (VOWEL SIGN (OO,AU),SIGN (ANUSVARA,VISARGA),VIRAMA,OM)"]⟩,
  ⟨0x11DA0, ["GUNJALA GONDI DIGIT (ZERO,ONE,TWO,THREE,FOUR,FIVE,SIX,SEVEN,EIGHT,NINE)"]⟩,
  ⟨0x11EE0, ["MAKASAR (LETTER (KA,GA,NGA,PA,BA,MA,TA,DA,NA,CA,JA,NYA,YA,RA,LA,VA,SA,A),ANGKA,",
    "VOWEL SIGN (I,U,E,O),PASSIMBANG,END OF SECTION)"]⟩,
  ⟨0x11FB0, ["LISU LETTER YHA"]⟩,
  ⟨0x11FC0, ["TAMIL (FRACTION (ONE (THREE-HUNDRED-AND-TWENTIETH,ONE-HUNDRED-AND-SIXTIETH,",
    "EIGHTIETH,SIXTY-FOURTH,FORTIETH,THIRTY-SECOND),THREE (EIGHTIETHS,SIXTY-FOURTHS),ONE (",
    "TWENTIETH,SIXTEENTH-(1,2),TENTH,EIGHTH),THREE (TWENTIETHS,SIXTEENTHS),ONE (FIFTH,QUARTER,",
    "HALF-(1,2)),THREE QUARTERS,DOWNSCALING FACTOR KIIZH),SIGN (NEL,CEVITU,AAZHAAKKU,UZHAKKU,",
    "MUUVUZHAKKU,KURUNI,PATHAKKU,MUKKURUNI,KAACU,PANAM,PON,VARAAKAN,PAARAM,KUZHI,VELI),",
    "WET CULTIVATION SIGN,DRY CULTIVATION SIGN,LAND SIGN,SALT PAN SIGN,TRADITIONAL (CREDIT SIGN,",
    "NUMBER SIGN),CURRENT SIGN,AND ODD SIGN,SPENT SIGN,TOTAL SIGN,IN POSSESSION SIGN,",
    "STARTING FROM SIGN,SIGN (MUTHALIYA,VAKAIYARAA))"]⟩,
  ⟨0x11FFF, ["TAMIL PUNCTUATION END OF TEXT,CUNEIFORM SIGN (A(, TIMES (A,BAD,GAN2 TENU,HA,IGI,",
    "LAGAR GUNU,MUSH,SAG),2),AB(, (TIMES (ASH2,DUN3 GUNU,GAL,GAN2 TENU,HA,IGI GUNU,IMIN,LAGAB,",
    "SHESH,U PLUS U PLUS U),GUNU),2(, TIMES (BALAG,GAN2 TENU,ME PLUS EN,SHA3,TAK4))),AD,AK(,",
    " TIMES (ERIN2,SHITA PLUS GISH)),AL(, TIMES (AL,DIM2,GISH,HA,KAD3,KI,SHE,USH)),ALAN,ALEPH,",
    "AMAR(, TIMES SHE),AN(, (OVER AN,THREE TIMES,PLUS NAGA (OPPOSING AN PLUS NAGA,SQUARED))),",
    "ANSHE,APIN,ARAD(, TIMES KUR),ARKAB,ASAL2,ASH(, (ZIDA TENU,KABA TENU,OVER ASH (",
    "TUG2 OVER TUG2 TUG2 OVER TUG2 PAP,OVER ASH(, CROSSING ASH OVER ASH OVER ASH))),2),ASHGAB,BA,",
    "BAD,BAG3,BAHAR2,BAL(, OVER BAL),BALAG,BAR,BARA2,BI(, TIMES (A,GAR,IGI GUNU)),BU(, OVER BU AB,",
    " OVER BU UN, CROSSING BU),BULUG(, OVER BULUG),BUR(,2),DA,DAG(, KISIM5 TIMES (A PLUS MASH,",
    "AMAR,BALAG,BI,GA,GA PLUS MASH,GI,GIR2,GUD,HA,IR,IR PLUS LU,KAK,LA,LU,LU PLUS MASH2,LUM,NE,",
    "PAP PLUS PAP,SI,TAK4,U2 PLUS GIR2,USH)),DAM,DAR,DARA(3,4),DI,DIB,DIM(, TIMES SHE,2),DIN(,",
    " KASKAL U GUNU DISH),DISH,DU(, OVER DU, GUNU, SHESHIG),DUB(, TIMES ESH2,2),DUG,DUGUD,DUH,DUN(",
    ",3,3 GUNU(, GUNU),4),DUR2,E(, TIMES PAP, OVER E NUN OVER NUN,2(, TIMES (A PLUS HA PLUS DA,",
    "GAR,MI,SAL,SHE,U))),EDIN,EGIR,EL,EN(, (TIMES (GAN2(, TENU),ME),CROSSING EN,OPPOSING EN,",
    "SQUARED)),EREN,ERIN2,ESH2,EZEN(, TIMES (A,A PLUS LAL(, TIMES LAL),AN,BAD,DUN3 GUNU(, GUNU),",
    "HA,HA GUNU,IGI GUNU,KASKAL(, SQUARED),KU3,LA,LAL TIMES LAL,LI,LU,U2,UD)),GA(, GUNU,2(, (",
    "TIMES (A PLUS (DA PLUS HA,HA,IGI),AB2 TENU PLUS TAB,AN,ASH(,2 PLUS GAL),BAD,BAR PLUS RA,BUR(,",
    " PLUS RA),DA,DI,DIM TIMES SHE,DUB,EL,EL PLUS LA,EN,EN TIMES GAN2 TENU,GAN2 TENU,GAR,GI(,4,",
    "4 PLUS A),GIR2 PLUS SU,HA PLUS LU PLUS ESH2,HAL(, PLUS LA),HI PLUS LI,HUB2,IGI GUNU,",
    "ISH PLUS HU PLUS ASH,KAK,KASKAL,KID(, PLUS LAL),KU3 PLUS AN,LA,ME PLUS EN,MI,NUN(, OVER NUN),",
    "PA,SAL,SAR,SHE(, PLUS TUR),SHID,SUM,TAK4,U,UD,UD PLUS DU),OVER GA2))),GABA(, CROSSING GABA),",
    "GAD(, OVER GAD GAR OVER GAR),GAL(, GAD OVER GAD GAR OVER GAR),GALAM,GAM,GAN(,2(, TENU,",
    " OVER GAN2, CROSSING GAN2)),GAR(,3),GASHAN,GESHTIN(, TIMES KUR),GI(, TIMES E, TIMES U,",
    " CROSSING GI,4,4 OVER GI4,4 CROSSING GI4),GIDIM,GIR(2,2 GUNU,3(, TIMES (A PLUS IGI,GAN2 TENU,",
    "IGI,LU PLUS IGI,PA))),GISAL,GISH(, (CROSSING GISH,TIMES (BAD,TAK4),TENU)),GU(, CROSSING GU,2(",
    ", (TIMES (KAK(, TIMES IGI GUNU),NUN,SAL PLUS TUG2),GUNU))),GUD(, TIMES A PLUS KUR, TIMES KUR,",
    " OVER GUD LUGAL),GUL,GUM(, TIMES SHE),GUR(,7),GURUN,GURUSH,HA(, TENU, GUNU),HAL,HI(, TIMES (",
    "ASH(,2),BAD,DISH,GAD,KIN,NUN,SHE,U)),HU,HUB2(, TIMES (AN,HAL,KASKAL,LISH,UD)),HUL2,I,I A,IB,",
    "IDIM(, OVER IDIM (BUR,SQUARED)),IG,IGI(, (DIB,RI,OVER IGI SHIR OVER SHIR UD OVER UD,GUNU)),",
    "IL(, TIMES GAN2 TENU,2),IM(, (TIMES TAK4,CROSSING IM,OPPOSING IM,SQUARED)),IMIN,IN,IR,ISH,KA(",
    ", TIMES (A,AD,AD PLUS KU3,ASH2,BAD,BALAG,BAR,BI,ERIN2,ESH2,GA,GAL,GAN2 TENU,GAR(,",
    " PLUS SHA3 PLUS A),GI,GIR2,GISH (PLUS SAR,CROSSING GISH),GU,GUR7,IGI,IM,KAK,KI,KID,LI,LU,ME(,",
    " PLUS (DU,GI,TE)),MI,MI PLUS NUNUZ,NE,NUN,PI,RU,SA,SAR,SHA,SHE,SHID,SHU,SIG,SUHUR,TAR,U,U2,",
    "UD,UMUM TIMES PA,USH,ZI),2,2 CROSSING KA2),KAB,KAD(2,3,4,5,5 OVER KAD5),KAK(,",
    " TIMES IGI GUNU),KAL(, TIMES BAD, CROSSING KAL),KAM(2,4),KASKAL(,",
    " LAGAB TIMES U OVER LAGAB TIMES U, OVER KASKAL LAGAB TIMES U OVER LAGAB TIMES U),KESH2,KI(,",
    " TIMES (BAD,U,UD)),KID,KIN,KISAL,KISH,KISIM5(, OVER KISIM5),KU(,",
    " OVER HI TIMES ASH2 KU OVER HI TIMES ASH2,3,4,4 VARIANT FORM,7),KUL(, GUNU),KUN,KUR(,",
    " OPPOSING KUR),KUSHU2,KWU318,LA,LAGAB(, (TIMES (A(, PLUS (DA PLUS HA,GAR,LAL)),AL,AN,",
    "ASH ZIDA TENU,BAD,BI,DAR,EN,GA,GAR,GUD(, PLUS GUD),HA,HAL,HI TIMES NUN,IGI GUNU,IM(, PLUS (",
    "HA,LU)),KI,KIN,KU3,KUL(, PLUS HI PLUS A),LAGAB,LISH,LU,LUL,ME,ME PLUS EN,MUSH,NE,",
    "SHE PLUS SUM,SHITA PLUS GISH (PLUS ERIN2,TENU),SHU2(, PLUS SHU2),SUM,TAG,TAK4,",
    "TE PLUS A PLUS SU PLUS NA,U(, PLUS (A,U PLUS U),2 PLUS ASH),UD,USH),SQUARED)),LAGAR(, (",
    "TIMES SHE(, PLUS SUM),GUNU(, OVER LAGAR GUNU SHE))),LAHSHU,LAL(, TIMES LAL),LAM(, TIMES KUR(,",
    " PLUS RU)),LI,LIL,LIMMU2,LISH,LU(, TIMES BAD,2(, (TIMES (AL,BAD,ESH2(, TENU),GAN2 TENU,",
    "HI TIMES BAD,IM,KAD(2,3,3 PLUS ASH),KI,LA PLUS ASH,LAGAB,ME PLUS EN,NE,NU,SI PLUS ASH,",
    "SIK2 PLUS BU,TUG2),TENU,CROSSING LU2,OPPOSING LU2,SQUARED,SHESHIG)),3),LUGAL(, OVER LUGAL,",
    " OPPOSING LUGAL, SHESHIG),LUH,LUL,LUM(, OVER LUM(, GAR OVER GAR)),MA(, TIMES TAK4, GUNU,2),",
    "MAH,MAR,MASH(,2),ME,MES,MI,MIN,MU,MU OVER MU,MUG(, GUNU),MUNSUB,MURGU2,MUSH(, (TIMES (A,KUR,",
    "ZA),OVER MUSH(, TIMES A PLUS NA),CROSSING MUSH),3(, (TIMES (A,A PLUS DI,DI),GUNU))),NA,NA2,",
    "NAGA(, INVERTED, TIMES SHU TENU, OPPOSING NAGA),NAGAR,NAM( NUTILLU,,2),NE(, TIMES A,",
    " TIMES UD, SHESHIG),NI(, TIMES E,2),NIM(, TIMES (GAN2 TENU,GAR PLUS GAN2 TENU)),NINDA2(,",
    " TIMES (AN,ASH(, PLUS ASH),GUD,ME PLUS GAN2 TENU,NE,NUN,SHE(, PLUS (A AN,ASH(, PLUS ASH))),",
    "U2 PLUS ASH,USH)),NISAG,NU,NU11,NUN(, (LAGAR TIMES (GAR,MASH,SAL(, OVER NUN LAGAR TIMES SAL),",
    "USH),TENU,OVER NUN,CROSSING NUN(, LAGAR OVER LAGAR))),NUNUZ(, (AB2 TIMES (ASHGAB,BI,DUG,GUD,",
    "IGI GUNU,KAD3,LA,NE,SILA3,U2),KISIM5 TIMES BI(, U))),PA,PAD,PAN,PAP,PESH2,PI(, (TIMES (A,AB,",
    "BI,BU,E,I,IB,U,U2),CROSSING PI)),PIRIG(, (TIMES (KAL,UD,ZA),OPPOSING PIRIG)),RA,RAB,RI,RU,SA,",
    "SAG( NUTILLU,, (TIMES (A,DU,DUB,HA,KAK,KUR,LUM,MI,NUN,SAL,SHID,TAB,U2,UB,UM,UR,USH),OVER SAG,",
    "GUNU)),SAL(, LAGAB TIMES ASH2),SANGA2,SAR,SHA(,3(, TIMES (A,BAD,GISH,NE,SHU2,TUR,U,",
    "U PLUS A)),6),SHAB6,SHAR2,SHE(, HU, OVER SHE (GAD OVER GAD GAR OVER GAR,",
    "TAB OVER TAB GAR OVER GAR)),SHEG9,SHEN,SHESH(,2),SHESHLAM,SHID(, TIMES (A,IM)),SHIM(, TIMES (",
    "A,BAL,BULUG,DIN,GAR,IGI(, GUNU),KUSHU2,LUL,MUG,SAL)),SHINIG,SHIR(, TENU,",
    " OVER SHIR BUR OVER BUR),SHITA,SHU(, OVER INVERTED SHU,2),SHUBUR,SI,SI GUNU,SIG(,4,",
    "4 OVER SIG4 SHU2),SIK2,SILA3,SU,SU OVER SU,SUD(,2),SUHUR,SUM,SUMASH,SUR(,9),TA(, (ASTERISK,",
    "TIMES (HI,MI),GUNU)),TAB(, OVER TAB NI OVER NI DISH OVER DISH, SQUARED),TAG(, TIMES (BI,GUD,",
    "SHE,SHU,TUG2,UD)),TAK4,TAR,TE,TE GUNU,TI,TI TENU,TIL,TIR(, TIMES TAK4, OVER TIR(,",
    " GAD OVER GAD GAR OVER GAR)),TU,TUG2,TUK,TUM,TUR(, OVER TUR ZA OVER ZA),U(, (GUD,U U,OVER U (",
    "PA OVER PA GAR OVER GAR,SUR OVER SUR,U REVERSED OVER U REVERSED)),2),UB,UD(, (KUSHU2,TIMES (",
    "BAD,MI,U PLUS U PLUS U(, GUNU)),GUNU,SHESHIG(, TIMES BAD))),UDUG,UM(, TIMES (LAGAB,",
    "ME PLUS DA,SHA3,U)),UMBIN,UMUM(, TIMES (KASKAL,PA)),UN,UN GUNU,UR(, CROSSING UR, SHESHIG,2(,",
    " TIMES (A PLUS (HA,NA),AL,HA,NUN,U2(, PLUS (ASH,BI)))),4),URI(,3),URU(, TIMES (A,ASHGAB,BAR,",
    "DUN,GA,GAL,GAN2 TENU,GAR,GU,HA,IGI,IM,ISH,KI,LUM,MIN,PA,SHE,SIG4,TU,U PLUS GUD,UD,URUDA)),",
    "URUDA(, TIMES U),USH(, TIMES (A,KU,KUR,TAK4)),USHX,USH2,USHUMX,UTUKI,UZ3(, TIMES KASKAL),UZU,",
    "ZA(, TENU, SQUARED TIMES KUR),ZAG,ZAMX,ZE2,ZI(, OVER ZI,3),ZIB(, KABA TENU),ZIG,ZIZ2,ZU(,5,",
    "5 TIMES A),ZUBUR,ZUM,KAP ELAMITE,AB TIMES NUN,AB2 TIMES A,AMAR TIMES KUG,DAG(",
    " KISIM5 TIMES U2 PLUS MASH,3),DISH PLUS SHU,DUB TIMES SHE,EZEN TIMES (GUD,SHE),GA2 TIMES (",
    "AN PLUS KAK PLUS A,ASH2),GE22,GIG,HUSH,KA TIMES (ANSHE,ASH3,GISH,GUD,HI TIMES ASH2,LUM,PA,",
    "SHUL,TU,UR2),LAGAB TIMES GI,LU2 (SHESHIG TIMES BAD,TIMES (ESH2 PLUS LAL,SHU)),MESH,",
    "MUSH3 TIMES ZA,NA4,NIN(,9),NINDA2 TIMES (BAL,GI),NU11 ROTATED NINETY DEGREES,PESH2 ASTERISK,",
    "PIR2,SAG TIMES IGI GUNU,TI2,UM TIMES ME,U U)"]⟩,
  ⟨0x12400, ["CUNEIFORM NUMERIC SIGN (TWO ASH,THREE ASH,FOUR ASH,FIVE ASH,SIX ASH,SEVEN ASH,",
    "EIGHT ASH,NINE ASH,THREE DISH,FOUR DISH,FIVE DISH,SIX DISH,SEVEN DISH,EIGHT DISH,NINE DISH,",
    "FOUR U,FIVE U,SIX U,SEVEN U,EIGHT U,NINE U,ONE GESH2,TWO GESH2,THREE GESH2,FOUR GESH2,",
    "FIVE GESH2,SIX GESH2,SEVEN GESH2,EIGHT GESH2,NINE GESH2,ONE GESHU,TWO GESHU,THREE GESHU,",
    "FOUR GESHU,FIVE GESHU,TWO SHAR2,THREE SHAR2(, VARIANT FORM),FOUR SHAR2,FIVE SHAR2,SIX SHAR2,",
    "SEVEN SHAR2,EIGHT SHAR2,NINE SHAR2,ONE SHARU,TWO SHARU,THREE SHARU(, VARIANT FORM),",
    "FOUR SHARU,FIVE SHARU,SHAR2 TIMES GAL PLUS (DISH,MIN),ONE BURU,TWO BURU,THREE BURU(,",
    " VARIANT FORM),FOUR BURU,FIVE BURU,THREE VARIANT FORM ESH(16,21),FOUR VARIANT FORM LIMMU(,4,",
    " A, B),SIX VARIANT FORM ASH9,SEVEN VARIANT FORM IMIN(3, A, B),EIGHT VARIANT FORM USSU(,3),",
    "NINE VARIANT FORM ILIMMU(,3,4, A),TWO ASH TENU,THREE ASH TENU,FOUR ASH TENU,FIVE ASH TENU,",
    "SIX ASH TENU,ONE BAN2,TWO BAN2,THREE BAN2,FOUR BAN2(, VARIANT FORM),FIVE BAN2(,",
    " VARIANT FORM),NIGIDAMIN,NIGIDAESH,ONE ESHE3,TWO ESHE3,ONE THIRD DISH,TWO THIRDS DISH,",
    "FIVE SIXTHS DISH,ONE THIRD VARIANT FORM A,TWO THIRDS VARIANT FORM A,ONE (EIGHTH ASH,",
    "QUARTER ASH),OLD ASSYRIAN ONE (SIXTH,QUARTER),ONE (QUARTER GUR,HALF GUR),ELAMITE (ONE THIRD,",
    "TWO THIRDS,FORTY,FIFTY),FOUR U VARIANT FORM,FIVE U VARIANT FORM,SIX U VARIANT FORM,",
    "SEVEN U VARIANT FORM,EIGHT U VARIANT FORM,NINE U VARIANT FORM)"]⟩,
  ⟨0x12470, ["CUNEIFORM PUNCTUATION SIGN (OLD ASSYRIAN WORD DIVIDER,VERTICAL COLON,DIAGONAL (",
    "COLON,TRICOLON,QUADCOLON))"]⟩,
  ⟨0x12480, ["CUNEIFORM SIGN (AB TIMES (NUN TENU,SHU2),AD TIMES ESH2,BAD TIMES DISH TENU,",
    "BAHAR2 TIMES (AB2,NI,ZA),BU OVER BU TIMES NA2,DA TIMES TAK4,DAG TIMES KUR,DIM( TIMES (IGI,",
    "U U U),2 TIMES UD),DUG TIMES (ANSHE,ASH(, AT LEFT),DIN,DUN,ERIN2,GA,GI,GIR2 GUNU,GISH,HA,HI,",
    "IGI GUNU,KASKAL,KUR,KUSHU2(, PLUS KASKAL),LAK-020,LAM(, TIMES KUR),LUH PLUS GISH,MASH,MES,MI,",
    "NI,PI,SHE,SI GUNU),E2 TIMES (KUR,PAP),ERIN2 X,ESH2 CROSSING ESH2,EZEN (SHESHIG TIMES (ASH,HI,",
    "IGI GUNU,LA,LAL,ME,MES,SU),TIMES SU),GA2 TIMES (BAHAR2,DIM GUNU,DUG TIMES (IGI GUNU,KASKAL),",
    "EREN,GA,GAR PLUS (DI,NE),HA PLUS A,KUSHU2 PLUS KASKAL,LAM(, TIMES KUR),LUH,MUSH,NE(, PLUS (",
    "E2,GI)),SHIM,ZIZ2),GABA ROTATED NINETY DEGREES,GESHTIN TIMES U,GISH TIMES GISH CROSSING GISH,",
    "GU2 TIMES IGI GUNU,GUD PLUS GISH TIMES TAK4,HA TENU GUNU,HI TIMES ASH OVER HI TIMES ASH,",
    "KA TIMES (BU,KA,U U U,UR),LAGAB TIMES ZU OVER ZU,LAK-(003,021,025,030,050,051,062,",
    "079 OVER LAK-079 GUNU,080,081 OVER LAK-081,092,130,142,210,219,220,225,228,238,265,266,343,",
    "347,348,383,384,390,441,449(, TIMES (GU,IGI,PAP PLUS (LU3,PAP PLUS LU3),U2 PLUS BA)),450,457,",
    "470,483,490,492,493,495,550,608,617(, TIMES (ASH,BAD,DUN3 GUNU GUNU,KU3,LA,TAR,TE,U2,UD,",
    "URUDA)),636,648(, TIMES (DUB,GA,IGI(, GUNU),NI,PAP PLUS PAP PLUS LU3,SHESH PLUS KI,UD,",
    "URUDA)),724,749),LU2 (GUNU TIMES ASH,TIMES (DISH,HAL,PAP(, PLUS PAP PLUS LU3),TAK4)),",
    "MI PLUS ZA7,MUSH OVER MUSH TIMES (GA,KAK),NINDA2 TIMES (DIM GUNU,GISH,GUL,HI,KESH2,LAK-050,",
    "MASH,PAP PLUS PAP,U,U PLUS U,URUDA),SAG (GUNU TIMES HA,TIMES (EN,SHE AT LEFT,TAK4)),",
    "SHA6 TENU,SHE (OVER SHE,PLUS (HUB2,NAM2,SAR)),SHU2 PLUS (DUG TIMES NI,E2 TIMES AN),",
    "SI TIMES TAK4,TAK4 PLUS SAG,TUM TIMES (GAN2 TENU,THREE DISH),UR2 (INVERTED,TIMES UD),",
    "URU TIMES (DARA3,LAK-668,LU3),ZA7,ZU OVER ZU PLUS SAR,ZU5 TIMES THREE DISH TENU)"]⟩,
  ⟨0x12F90, ["CYPRO-MINOAN SIGN CM(001,002,004,005,006,007,008,009,010,011,012(,B),013,015,017,",
    "019,021,023,024,025,026,027,028,029,030,033,034,035,036,037,038,039,040,041,044,046,047,049,",
    "050,051,052,053,054,055,056,058,059,060,061,062,063,064,066,067,068,069,070,071,072,073,074,",
    "075(,B),076,078,079,080,081,082,083,084,085,086,087,088,089,090,091,092,094,095,096,097,098,",
    "099,100,101,102,103,104,105,107,108,109,110,112,114,301,302)"]⟩,
  ⟨0x13000, ["EGYPTIAN HIEROGLYPH (A(001,002,003,004,005(,A),006(,A,B),007,008,009,010,011,012,",
    "013,014(,A),015,016,017(,A),018,019,020,021,022,023,024,025,026,027,028,029,030,031,032(,A),",
    "033,034,035,036,037,038,039,040(,A),041,042(,A),043(,A),044,045(,A),046,047,048,049,050,051,",
    "052,053,054,055,056,057,058,059,060,061,062,063,064,065,066,067,068,069,070),B(001,002,003,",
    "004,005(,A),006,007,008,009),C(001,002(,A,B,C),003,004,005,006,007,008,009,010(,A),011,012,",
    "013,014,015,016,017,018,019,020,021,022,023,024),D(001,002,003,004,005,006,007,008(,A),009,",
    "010,011,012,013,014,015,016,017,018,019,020,021,022,023,024,025,026,027(,A),028,029,030,031(,",
    "A),032,033,034(,A),035,036,037,038,039,040,041,042,043,044,045,046(,A),047,048(,A),049,050(,",
    "A,B,C,D,E,F,G,H,I),051,052(,A),053,054(,A),055,056,057,058,059,060,061,062,063,064,065,066,",
    "067(,A,B,C,D,E,F,G,H)),E(001,002,003,004,005,006,007,008(,A),009(,A),010,011,012,013,014,015,",
    "016(,A),017(,A),018,019,020(,A),021,022,023,024,025,026,027,028(,A),029,030,031,032,033,034(,",
    "A),036,037,038),F(001(,A),002,003,004,005,006,007,008,009,010,011,012,013(,A),014,015,016,",
    "017,018,019,020,021(,A),022,023,024,025,026,027,028,029,030,031(,A),032,033,034,035,036,037(,",
    "A),038(,A),039,040,041,042,043,044,045(,A),046(,A),047(,A),048,049,050,051(,A,B,C),052,053),",
    "G(001,002,003,004,005,006(,A),007(,A,B),008,009,010,011(,A),012,013,014,015,016,017,018,019,",
    "020(,A),021,022,023,024,025,026(,A),027,028,029,030,031,032,033,034,035,036(,A),037(,A),038,",
    "039,040,041,042,043(,A),044,045(,A),046,047,048,049,050,051,052,053,054),H(001,002,003,004,",
    "005,006(,A),007,008),I(001,002,003,004,005(,A),006,007,008,009(,A),010(,A),011(,A),012,013,",
    "014,015),K(001,002,003,004,005,006,007,008),L(001,002(,A),003,004,005,006(,A),007,008),M(001(",
    ",A,B),002,003(,A),004,005,006,007,008,009,010(,A),011,012(,A,B,C,D,E,F,G,H),013,014,015(,A),",
    "016(,A),017(,A),018,019,020,021,022(,A),023,024(,A),025,026,027,028(,A),029,030,031(,A),032,",
    "033(,A,B),034,035,036,037,038,039,040(,A),041,042,043,044),N(001,002,003,004,005,006,007,008,",
    "009,010,011,012,013,014,015,016,017,018(,A,B),019,020,021,022,023,024,025(,A),026,027,028,",
    "029,030,031,032,033(,A),034(,A),035(,A),036,037(,A),038,039,040,041,042),NL(001,002,003,004,",
    "005(,A),006,007,008,009,010,011,012,013,014,015,016,017(,A),018,019,020),NU(001,002,003,004,",
    "005,006,007,008,009,010(,A),011(,A),012,013,014,015,016,017,018(,A),019,020,021,022(,A)),O(",
    "001(,A),002,003,004,005(,A),006(,A,B,C,D,E,F),007,008,009,010(,A,B,C),011,012,013,014,015,",
    "016,017,018,019(,A),020(,A),021,022,023,024(,A),025(,A),026,027,028,029(,A),030(,A),031,032,",
    "033(,A),034,035,036(,A,B,C,D),037,038,039,040,041,042,043,044,045,046,047,048,049,050(,A,B),",
    "051),P(001(,A),002,003(,A),004,005,006,007,008,009,010,011),Q(001,002,003,004,005,006,007),R(",
    "001,002(,A),003(,A,B),004,005,006,007,008,009,010(,A),011,012,013,014,015,016(,A),017,018,",
    "019,020,021,022,023,024,025,026,027,028,029),S(001,002(,A),003,004,005,006(,A),007,008,009,",
    "010,011,012,013,014(,A,B),015,016,017(,A),018,019,020,021,022,023,024,025,026(,A,B),027,028,",
    "029,030,031,032,033,034,035(,A),036,037,038,039,040,041,042,043,044,045,046),T(001,002,003(,",
    "A),004,005,006,007(,A),008(,A),009(,A),010,011(,A),012,013,014,015,016(,A),017,018,019,020,",
    "021,022,023,024,025,026,027,028,029,030,031,032(,A),033(,A),034,035,036),U(001,002,003,004,",
    "005,006(,A,B),007,008,009,010,011,012,013,014,015,016,017,018,019,020,021,022,023(,A),024,",
    "025,026,027,028,029(,A),030,031,032(,A),033,034,035,036,037,038,039,040,041,042),V(001(,A,B,",
    "C,D,E,F,G,H,I),002(,A),003,004,005,006,007(,A,B),008,009,010,011(,A,B,C),012(,A,B),013,014,",
    "015,016,017,018,019,020(,A,B,C,D,E,F,G,H,I,J,K,L),021,022,023(,A),024,025,026,027,028(,A),",
    "029(,A),030(,A),031(,A),032,033(,A),034,035,036,037(,A),038,039,040(,A)),W(001,002,003(,A),",
    "004,005,006,007,008,009(,A),010(,A),011,012,013,014(,A),015,016,017(,A),018(,A),019,020,021,",
    "022,023,024(,A),025),X(001,002,003,004(,A,B),005,006(,A),007,008(,A)),Y(001(,A),002,003,004,",
    "005,006,007,008),Z(001,002(,A,B,C,D),003(,A,B),004(,A),005(,A),006,007,008,009,010,011,012,",
    "013,014,015(,A,B,C,D,E,F,G,H,I),016(,A,B,C,D,E,F,G,H)),AA(001,002,003,004,005,006,007(,A,B),",
    "008,009,010,011,012,013,014,015,016,017,018,019,020,021,022,023,024,025,026,027,028,029,030,",
    "031,032))"]⟩,
  ⟨0x13430, ["EGYPTIAN HIEROGLYPH (VERTICAL JOINER,HORIZONTAL JOINER,INSERT AT (TOP START,",
    "BOTTOM START,TOP END,BOTTOM END),OVERLAY MIDDLE,BEGIN SEGMENT,END SEGMENT)"]⟩,
  ⟨0x14400, ["ANATOLIAN HIEROGLYPH A(001,002,003,004,005,006,007,008,009,010(,A),011,012,013,014,",
    "015,016,017,018,019,020,021,022,023,024,025,026(,A),027,028,029,030,031,032,033,034,035,036,",
    "037,038,039(,A),040,041(,A),042,043,044,045(,A),046(,A,B),047,048,049,050,051,052,053,054,",
    "055,056,057,058,059,060,061,062,063,064,065,066(,A,B,C),067,068,069,070,071,072,073,074,075,",
    "076,077,078,079,080,081,082,083,084,085,086,087,088,089,090,091,092,093,094,095,096,097(,A),",
    "098(,A),099,100(,A),101(,A),102(,A),103,104(,A,B,C),105(,A,B),106,107(,A,B,C),108,109,110(,A,",
    "B),111,112,113,114,115(,A),116,117,118,119,120,121,122,123,124,125(,A),126,127,128,129,130,",
    "131,132,133,134,135(,A),136,137,138,139,140,141,142,143,144,145,146,147,148,149,150,151,152,",
    "153,154,155,156,157,158,159,160,161,162,163,164,165,166,167,168,169,170,171,172,173,174,175,",
    "176,177,178,179,180,181,182,183,184,185,186,187,188,189,190,191,192,193,194,195,196,197,198,",
    "199,200,201,202(,A,B),203,204,205,206,207(,A),208,209(,A),210,211,212,213,214,215(,A),216(,",
    "A),217,218,219,220,221,222,223,224,225,226,227(,A),228,229,230,231,232,233,234,235,236,237,",
    "238,239,240,241,242,243,244,245,246,247,248,249,250,251,252,253,254,255,256,257,258,259,260,",
    "261,262,263,264,265,266,267(,A),268,269,270,271,272,273,274,275,276,277,278,279,280,281,282,",
    "283,284,285,286,287,288,289(,A),290,291,292,293,294(,A),295,296,297,298,299(,A),300,301,302,",
    "303,304,305,306,307,308,309(,A),310,311,312,313,314,315,316,317,318,319,320,321,322,323,324,",
    "325,326,327,328,329(,A),330,331,332(A,B,C),333,334,335,336(,A,B,C),337,338,339,340,341,342,",
    "343,344,345,346,347,348,349,350,351,352,353,354,355,356,357,358,359(,A),360,361,362,363,364(,",
    "A),365,366,367,368(,A),369,370,371(,A),372,373,374,375,376,377,378,379,380,381(,A),382,383(",
    " RA OR RI,A),384,385,386(,A),387,388,389,390,391,392,393 EIGHT,394,395,396,397,398,399,400,",
    "401,402,403,404,405,406,407,408,409,410( BEGIN LOGOGRAM MARK,A END LOGOGRAM MARK),411,412,",
    "413,414,415,416,417,418,419,420,421,422,423,424,425,426,427,428,429,430,431,432,433,434,435,",
    "436,437,438,439,440,441,442,443,444,445,446,447,448,449,450(,A),451,452,453,454,455,456,457(,",
    "A),458,459,460,461,462,463,464,465,466,467,468,469,470,471,472,473,474,475,476,477,478,479,",
    "480,481,482,483,484,485,486,487,488,489,490,491,492,493,494,495,496,497,501,502,503,504,505,",
    "506,507,508,509,510,511,512,513,514,515,516,517,518,519,520,521,522,523,524,525,526,527,528,",
    "529,530)"]⟩]

end CharacterName
end Text
end Reckoner
