import Reckoner.Text.CharacterName.Outline

/-!
# Names from U+1D000 on

The names of the characters from U+1D000 to U+1EEF1, as outlines.
-/

namespace Reckoner
namespace Text
namespace CharacterName

/-- Names of the characters from U+1D000 to U+1EEF1. -/
def from1D000 : List Outline := [
  ⟨0x1D000, ["BYZANTINE MUSICAL SYMBOL (PSILI,DASEIA,PERISPOMENI,OXEIA (EKFONITIKON,DIPLI),",
    "VAREIA (EKFONITIKON,DIPLI),KATHISTI,SYRMATIKI,PARAKLITIKI,YPOKRISIS(, DIPLI),KREMASTI,",
    "APESO EKFONITIKON,EXO EKFONITIKON,TELEIA,KENTIMATA,APOSTROFOS(, DIPLI),SYNEVMA,THITA,",
    "OLIGON ARCHAION,GORGON ARCHAION,PSILON,CHAMILON,VATHY,ISON ARCHAION,KENTIMA ARCHAION,",
    "KENTIMATA ARCHAION,SAXIMATA,PARICHON,STAVROS APODEXIA,OXEIAI ARCHAION,VAREIAI ARCHAION,",
    "APODERMA ARCHAION,APOTHEMA,KLASMA,REVMA,PIASMA ARCHAION,TINAGMA,ANATRICHISMA,SEISMA,SYNAGMA (",
    "ARCHAION,META STAVROU),OYRANISMA ARCHAION,THEMA,LEMOI,DYO,TRIA,TESSERA,KRATIMATA,",
    "APESO EXO NEO,FTHORA ARCHAION,IMIFTHORA,TROMIKON ARCHAION,KATAVA TROMIKON,PELASTON,PSIFISTON,",
    "KONTEVMA,CHOREVMA ARCHAION,RAPISMA,PARAKALESMA ARCHAION,PARAKLITIKI ARCHAION,ICHADIN,NANA,",
    "PETASMA,KONTEVMA ALLO,TROMIKON ALLO,STRAGGISMATA,GRONTHISMATA,ISON NEO,OLIGON NEO,OXEIA NEO,",
    "PETASTI,KOUFISMA,PETASTOKOUFISMA,KRATIMOKOUFISMA,PELASTON NEO,KENTIMATA NEO ANO,",
    "KENTIMA NEO ANO,YPSILI,APOSTROFOS NEO,APOSTROFOI SYNDESMOS NEO,YPORROI,KRATIMOYPORROON,",
    "ELAFRON,CHAMILI,MIKRON ISON,VAREIA NEO,PIASMA NEO,PSIFISTON NEO,OMALON,ANTIKENOMA,LYGISMA,",
    "PARAKLITIKI NEO,PARAKALESMA NEO,ETERON PARAKALESMA,KYLISMA,ANTIKENOKYLISMA,TROMIKON NEO,",
    "EKSTREPTON,SYNAGMA NEO,SYRMA,CHOREVMA NEO,EPEGERMA,SEISMA NEO,XIRON KLASMA,TROMIKOPSIFISTON,",
    "PSIFISTOLYGISMA,TROMIKOLYGISMA,TROMIKOPARAKALESMA,PSIFISTOPARAKALESMA,TROMIKOSYNAGMA,",
    "PSIFISTOSYNAGMA,GORGOSYNTHETON,ARGOSYNTHETON,ETERON ARGOSYNTHETON,OYRANISMA NEO,THEMATISMOS (",
    "ESO,EXO),THEMA APLOUN,THES KAI APOTHES,KATAVASMA,ENDOFONON,YFEN (KATO,ANO),STAVROS,",
    "KLASMA ANO,DIPLI ARCHAION,KRATIMA (ARCHAION,ALLO,NEO),APODERMA NEO,APLI,DIPLI,TRIPLI,",
    "TETRAPLI,KORONIS,LEIMMA (ENOS CHRONOU,DYO CHRONON,TRION CHRONON,TESSARON CHRONON,",
    "IMISEOS CHRONOU),GORGON (NEO ANO,PARESTIGMENON (ARISTERA,DEXIA)),DIGORGON(, PARESTIGMENON (",
    "ARISTERA (KATO,ANO),DEXIA)),TRIGORGON,ARGON,IMIDIARGON,DIARGON,AGOGI (POLI ARGI,ARGOTERI,",
    "ARGI,METRIA,MESI,GORGI,GORGOTERI,POLI GORGI),MARTYRIA (PROTOS ICHOS,ALLI PROTOS ICHOS,",
    "DEYTEROS ICHOS,ALLI DEYTEROS ICHOS,TRITOS ICHOS,TRIFONIAS,TETARTOS (ICHOS,LEGETOS ICHOS),",
    "LEGETOS ICHOS,PLAGIOS ICHOS),ISAKIA TELOUS ICHIMATOS,APOSTROFOI TELOUS ICHIMATOS,FANEROSIS (",
    "TETRAFONIAS,MONOFONIAS,DIFONIAS),MARTYRIA (VARYS ICHOS,PROTOVARYS ICHOS,",
    "PLAGIOS TETARTOS ICHOS),GORTHMIKON N (APLOUN,DIPLOUN),ENARXIS KAI FTHORA VOU,IMIFONON,",
    "IMIFTHORON,FTHORA (ARCHAION DEYTEROU ICHOU,DIATONIKI (PA,NANA),NAOS ICHOS,DIATONIKI DI,",
    "SKLIRON DIATONON DI,DIATONIKI (KE,ZO,NI (KATO,ANO)),MALAKON CHROMA (DIFONIAS,MONOFONIAS)),",
    "FHTORA SKLIRON CHROMA VASIS,FTHORA (SKLIRON CHROMA SYNAFI,NENANO),CHROA (ZYGOS,KLITON,",
    "SPATHI),FTHORA (I YFESIS TETARTIMORION,ENARMONIOS ANTIFONIA),YFESIS TRITIMORION,DIESIS (",
    "TRITIMORION,TETARTIMORION,APLI DYO DODEKATA,MONOGRAMMOS TESSERA DODEKATA,",
    "DIGRAMMOS EX DODEKATA,TRIGRAMMOS OKTO DODEKATA),YFESIS (APLI DYO DODEKATA,",
    "MONOGRAMMOS TESSERA DODEKATA,DIGRAMMOS EX DODEKATA,TRIGRAMMOS OKTO DODEKATA),GENIKI (DIESIS,",
    "YFESIS),DIASTOLI (APLI (MIKRI,MEGALI),DIPLI,THESEOS),SIMANSIS (THESEOS(, DISIMOU, TRISIMOU,",
    " TETRASIMOU),ARSEOS(, DISIMOU, TRISIMOU, TETRASIMOU)),DIGRAMMA GG,DIFTOGGOS OU,STIGMA,",
    "ARKTIKO (PA,VOU,GA,DI,KE,ZO,NI),KENTIMATA NEO MESO,KENTIMA NEO MESO,KENTIMATA NEO KATO,",
    "KENTIMA NEO KATO,KLASMA KATO,GORGON NEO KATO)"]⟩,
  ⟨0x1D100, ["MUSICAL SYMBOL (SINGLE BARLINE,DOUBLE BARLINE,FINAL BARLINE,REVERSE FINAL BARLINE,",
    "DASHED BARLINE,SHORT BARLINE,LEFT REPEAT SIGN,RIGHT REPEAT SIGN,REPEAT DOTS,DAL SEGNO,",
    "DA CAPO,SEGNO,CODA,REPEATED FIGURE-(1,2,3),FERMATA(, BELOW),BREATH MARK,CAESURA,BRACE,",
    "BRACKET,ONE-LINE STAFF,TWO-LINE STAFF,THREE-LINE STAFF,FOUR-LINE STAFF,FIVE-LINE STAFF,SIX-(",
    "LINE STAFF,STRING FRETBOARD),FOUR-STRING FRETBOARD,G CLEF(, OTTAVA (ALTA,BASSA)),C CLEF,",
    "F CLEF(, OTTAVA (ALTA,BASSA)),DRUM CLEF-(1,2))"]⟩,
  ⟨0x1D129, ["MUSICAL SYMBOL (MULTIPLE MEASURE REST,DOUBLE (SHARP,FLAT),FLAT (UP,DOWN),NATURAL (",
    "UP,DOWN),SHARP (UP,DOWN),QUARTER TONE (SHARP,FLAT),COMMON TIME,CUT TIME,OTTAVA (ALTA,BASSA),",
    "QUINDICESIMA (ALTA,BASSA),MULTI REST,WHOLE REST,HALF REST,QUARTER REST,EIGHTH REST,",
    "SIXTEENTH REST,THIRTY-SECOND REST,SIXTY-FOURTH REST,ONE HUNDRED TWENTY-EIGHTH REST,",
    "X NOTEHEAD,PLUS NOTEHEAD,CIRCLE X NOTEHEAD,SQUARE NOTEHEAD (WHITE,BLACK),TRIANGLE NOTEHEAD (",
    "UP (WHITE,BLACK),LEFT (WHITE,BLACK),RIGHT (WHITE,BLACK),DOWN (WHITE,BLACK),UP RIGHT (WHITE,",
    "BLACK)),MOON NOTEHEAD (WHITE,BLACK),TRIANGLE-ROUND NOTEHEAD DOWN (WHITE,BLACK),",
    "PARENTHESIS NOTEHEAD,VOID NOTEHEAD,NOTEHEAD BLACK,NULL NOTEHEAD,CLUSTER NOTEHEAD (WHITE,",
    "BLACK),BREVE,WHOLE NOTE,HALF NOTE,QUARTER NOTE,EIGHTH NOTE,SIXTEENTH NOTE,THIRTY-SECOND NOTE,",
    "SIXTY-FOURTH NOTE,ONE HUNDRED TWENTY-EIGHTH NOTE,COMBINING (STEM,SPRECHGESANG STEM,TREMOLO-(",
    "1,2,3)),FINGERED TREMOLO-(1,2,3),COMBINING (AUGMENTATION DOT,FLAG-(1,2,3,4,5)),BEGIN BEAM,",
    "END BEAM,BEGIN TIE,END TIE,BEGIN SLUR,END SLUR,BEGIN PHRASE,END PHRASE,COMBINING (ACCENT,",
    "STACCATO,TENUTO,STACCATISSIMO,MARCATO(,-STACCATO),ACCENT-STACCATO,LOURE),ARPEGGIATO (UP,",
    "DOWN),COMBINING (DOIT,RIP,FLIP,SMEAR,BEND,DOUBLE TONGUE,TRIPLE TONGUE),RINFORZANDO,SUBITO,Z,",
    "PIANO,MEZZO,FORTE,CRESCENDO,DECRESCENDO,GRACE NOTE (SLASH,NO SLASH),TR,TURN,INVERTED TURN,",
    "TURN (SLASH,UP),ORNAMENT STROKE-(1,2,3,4,5,6,7,8,9,10,11),HAUPTSTIMME,NEBENSTIMME,",
    "END OF STIMME,DEGREE SLASH,COMBINING (DOWN BOW,UP BOW,HARMONIC,SNAP PIZZICATO),PEDAL (MARK,",
    "UP MARK),HALF PEDAL MARK,GLISSANDO (UP,DOWN),WITH FINGERNAILS,DAMP(, ALL),MAXIMA,LONGA,",
    "BREVIS,SEMIBREVIS (WHITE,BLACK),MINIMA(, BLACK),SEMIMINIMA (WHITE,BLACK),FUSA (WHITE,BLACK),",
    "LONGA (PERFECTA REST,IMPERFECTA REST),BREVIS REST,SEMIBREVIS REST,MINIMA REST,",
    "SEMIMINIMA REST,TEMPUS (PERFECTUM CUM PROLATIONE (PERFECTA,IMPERFECTA,PERFECTA DIMINUTION-1),",
    "IMPERFECTUM CUM PROLATIONE (PERFECTA,IMPERFECTA(, DIMINUTION-(1,2,3)))),CROIX,GREGORIAN (",
    "C CLEF,F CLEF),SQUARE B,VIRGA,PODATUS,CLIVIS,SCANDICUS,CLIMACUS,TORCULUS,PORRECTUS(, FLEXUS),",
    "SCANDICUS FLEXUS,TORCULUS RESUPINUS,PES SUBPUNCTIS,KIEVAN (C CLEF,END OF PIECE,FINAL NOTE,",
    "RECITATIVE MARK,WHOLE NOTE,HALF NOTE,QUARTER NOTE STEM (DOWN,UP),EIGHTH NOTE STEM (DOWN,UP),",
    "FLAT SIGN),SORI,KORON)"]⟩,
  ⟨0x1D200, ["GREEK (VOCAL NOTATION SYMBOL-(1,2,3,4,5,6,7,8,9,10,11,12,13,14,15,16,17,18,19,20,21,",
    "22,23,24,50,51,52,53,54),INSTRUMENTAL NOTATION SYMBOL-(1,2,4,5,7,8,11,12,13,14,17,18,19,23,",
    "24,25,26,27,29,30,32,36,37,38,39,40,42,43,45,47,48,49,50,51,52,53,54)),",
    "COMBINING GREEK MUSICAL (TRISEME,TETRASEME,PENTASEME),GREEK MUSICAL LEIMMA"]⟩,
  ⟨0x1D2E0, ["MAYAN NUMERAL (ZERO,ONE,TWO,THREE,FOUR,FIVE,SIX,SEVEN,EIGHT,NINE,TEN,ELEVEN,TWELVE,",
    "THIRTEEN,FOURTEEN,FIFTEEN,SIXTEEN,SEVENTEEN,EIGHTEEN,NINETEEN)"]⟩,
  ⟨0x1D300, ["MONOGRAM FOR EARTH,DIGRAM FOR (HEAVENLY EARTH,HUMAN EARTH,EARTHLY (HEAVEN,HUMAN),",
    "EARTH),TETRAGRAM FOR (CENTRE,FULL CIRCLE,MIRED,BARRIER,KEEPING SMALL,CONTRARIETY,ASCENT,",
    "OPPOSITION,BRANCHING OUT,DEFECTIVENESS OR DISTORTION,DIVERGENCE,YOUTHFULNESS,INCREASE,",
    "PENETRATION,REACH,CONTACT,HOLDING BACK,WAITING,FOLLOWING,ADVANCE,RELEASE,RESISTANCE,EASE,JOY,",
    "CONTENTION,ENDEAVOUR,DUTIES,CHANGE,DECISIVENESS,BOLD RESOLUTION,PACKING,LEGION,CLOSENESS,",
    "KINSHIP,GATHERING,STRENGTH,PURITY,FULLNESS,RESIDENCE,LAW OR MODEL,RESPONSE,GOING TO MEET,",
    "ENCOUNTERS,STOVE,GREATNESS,ENLARGEMENT,PATTERN,RITUAL,FLIGHT,VASTNESS OR WASTING,CONSTANCY,",
    "MEASURE,ETERNITY,UNITY,DIMINISHMENT,CLOSED MOUTH,GUARDEDNESS,GATHERING IN,MASSING,",
    "ACCUMULATION,EMBELLISHMENT,DOUBT,WATCH,SINKING,INNER,DEPARTURE,DARKENING,DIMMING,EXHAUSTION,",
    "SEVERANCE,STOPPAGE,HARDNESS,COMPLETION,CLOSURE,FAILURE,AGGRAVATION,COMPLIANCE,ON THE VERGE,",
    "DIFFICULTIES,LABOURING,FOSTERING)"]⟩,
  ⟨0x1D360, ["COUNTING ROD (UNIT DIGIT (ONE,TWO,THREE,FOUR,FIVE,SIX,SEVEN,EIGHT,NINE),TENS DIGIT (",
    "ONE,TWO,THREE,FOUR,FIVE,SIX,SEVEN,EIGHT,NINE)),IDEOGRAPHIC TALLY MARK (ONE,TWO,THREE,FOUR,",
    "FIVE),TALLY MARK (ONE,FIVE)"]⟩,
  ⟨0x1D400, ["MATHEMATICAL (BOLD (CAPITAL (A,B,C,D,E,F,G,H,I,J,K,L,M,N,O,P,Q,R,S,T,U,V,W,X,Y,Z),",
    "SMALL (A,B,C,D,E,F,G,H,I,J,K,L,M,N,O,P,Q,R,S,T,U,V,W,X,Y,Z)),ITALIC (CAPITAL (A,B,C,D,E,F,G,",
    "H,I,J,K,L,M,N,O,P,Q,R,S,T,U,V,W,X,Y,Z),SMALL (A,B,C,D,E,F,G)))"]⟩,
  ⟨0x1D456, ["MATHEMATICAL (ITALIC SMALL (I,J,K,L,M,N,O,P,Q,R,S,T,U,V,W,X,Y,Z),BOLD ITALIC (",
    "CAPITAL (A,B,C,D,E,F,G,H,I,J,K,L,M,N,O,P,Q,R,S,T,U,V,W,X,Y,Z),SMALL (A,B,C,D,E,F,G,H,I,J,K,L,",
    "M,N,O,P,Q,R,S,T,U,V,W,X,Y,Z)),SCRIPT CAPITAL A)"]⟩,
  ⟨0x1D49E, ["MATHEMATICAL SCRIPT CAPITAL (C,D)"]⟩,
  ⟨0x1D4A2, ["MATHEMATICAL SCRIPT CAPITAL G"]⟩,
  ⟨0x1D4A5, ["MATHEMATICAL SCRIPT CAPITAL (J,K)"]⟩,
  ⟨0x1D4A9, ["MATHEMATICAL SCRIPT CAPITAL (N,O,P,Q)"]⟩,
  ⟨0x1D4AE, ["MATHEMATICAL SCRIPT (CAPITAL (S,T,U,V,W,X,Y,Z),SMALL (A,B,C,D))"]⟩,
  ⟨0x1D4BB, ["MATHEMATICAL SCRIPT SMALL F"]⟩,
  ⟨0x1D4BD, ["MATHEMATICAL SCRIPT SMALL (H,I,J,K,L,M,N)"]⟩,
  ⟨0x1D4C5, ["MATHEMATICAL (SCRIPT SMALL (P,Q,R,S,T,U,V,W,X,Y,Z),BOLD SCRIPT (CAPITAL (A,B,C,D,E,",
    "F,G,H,I,J,K,L,M,N,O,P,Q,R,S,T,U,V,W,X,Y,Z),SMALL (A,B,C,D,E,F,G,H,I,J,K,L,M,N,O,P,Q,R,S,T,U,",
    "V,W,X,Y,Z)),FRAKTUR CAPITAL (A,B))"]⟩,
  ⟨0x1D507, ["MATHEMATICAL FRAKTUR CAPITAL (D,E,F,G)"]⟩,
  ⟨0x1D50D, ["MATHEMATICAL FRAKTUR CAPITAL (J,K,L,M,N,O,P,Q)"]⟩,
  ⟨0x1D516, ["MATHEMATICAL FRAKTUR CAPITAL (S,T,U,V,W,X,Y)"]⟩,
  ⟨0x1D51E, ["MATHEMATICAL (FRAKTUR SMALL (A,B,C,D,E,F,G,H,I,J,K,L,M,N,O,P,Q,R,S,T,U,V,W,X,Y,Z),",
    "DOUBLE-STRUCK CAPITAL (A,B))"]⟩,
  ⟨0x1D53B, ["MATHEMATICAL DOUBLE-STRUCK CAPITAL (D,E,F,G)"]⟩,
  ⟨0x1D540, ["MATHEMATICAL DOUBLE-STRUCK CAPITAL (I,J,K,L,M)"]⟩,
  ⟨0x1D546, ["MATHEMATICAL DOUBLE-STRUCK CAPITAL O"]⟩,
  ⟨0x1D54A, ["MATHEMATICAL DOUBLE-STRUCK CAPITAL (S,T,U,V,W,X,Y)"]⟩,
  ⟨0x1D552, ["MATHEMATICAL (DOUBLE-STRUCK SMALL (A,B,C,D,E,F,G,H,I,J,K,L,M,N,O,P,Q,R,S,T,U,V,W,X,",
    "Y,Z),BOLD FRAKTUR (CAPITAL (A,B,C,D,E,F,G,H,I,J,K,L,M,N,O,P,Q,R,S,T,U,V,W,X,Y,Z),SMALL (A,B,",
    "C,D,E,F,G,H,I,J,K,L,M,N,O,P,Q,R,S,T,U,V,W,X,Y,Z)),SANS-SERIF (CAPITAL (A,B,C,D,E,F,G,H,I,J,K,",
    "L,M,N,O,P,Q,R,S,T,U,V,W,X,Y,Z),SMALL (A,B,C,D,E,F,G,H,I,J,K,L,M,N,O,P,Q,R,S,T,U,V,W,X,Y,Z),",
    "BOLD (CAPITAL (A,B,C,D,E,F,G,H,I,J,K,L,M,N,O,P,Q,R,S,T,U,V,W,X,Y,Z),SMALL (A,B,C,D,E,F,G,H,I,",
    "J,K,L,M,N,O,P,Q,R,S,T,U,V,W,X,Y,Z)),ITALIC (CAPITAL (A,B,C,D,E,F,G,H,I,J,K,L,M,N,O,P,Q,R,S,T,",
    "U,V,W,X,Y,Z),SMALL (A,B,C,D,E,F,G,H,I,J,K,L,M,N,O,P,Q,R,S,T,U,V,W,X,Y,Z)),BOLD ITALIC (",
    "CAPITAL (A,B,C,D,E,F,G,H,I,J,K,L,M,N,O,P,Q,R,S,T,U,V,W,X,Y,Z),SMALL (A,B,C,D,E,F,G,H,I,J,K,L,",
    "M,N,O,P,Q,R,S,T,U,V,W,X,Y,Z))),MONOSPACE (CAPITAL (A,B,C,D,E,F,G,H,I,J,K,L,M,N,O,P,Q,R,S,T,U,",
    "V,W,X,Y,Z),SMALL (A,B,C,D,E,F,G,H,I,J,K,L,M,N,O,P,Q,R,S,T,U,V,W,X,Y,Z)),",
    "ITALIC SMALL DOTLESS (I,J))"]⟩,
  ⟨0x1D6A8, ["MATHEMATICAL (BOLD (CAPITAL (ALPHA,BETA,GAMMA,DELTA,EPSILON,ZETA,ETA,THETA,IOTA,",
    "KAPPA,LAMDA,MU,NU,XI,OMICRON,PI,RHO,THETA SYMBOL,SIGMA,TAU,UPSILON,PHI,CHI,PSI,OMEGA),NABLA,",
    "SMALL (ALPHA,BETA,GAMMA,DELTA,EPSILON,ZETA,ETA,THETA,IOTA,KAPPA,LAMDA,MU,NU,XI,OMICRON,PI,",
    "RHO,FINAL SIGMA,SIGMA,TAU,UPSILON,PHI,CHI,PSI,OMEGA),PARTIAL DIFFERENTIAL,EPSILON SYMBOL,",
    "THETA SYMBOL,KAPPA SYMBOL,PHI SYMBOL,RHO SYMBOL,PI SYMBOL),ITALIC (CAPITAL (ALPHA,BETA,GAMMA,",
    "DELTA,EPSILON,ZETA,ETA,THETA,IOTA,KAPPA,LAMDA,MU,NU,XI,OMICRON,PI,RHO,THETA SYMBOL,SIGMA,TAU,",
    "UPSILON,PHI,CHI,PSI,OMEGA),NABLA,SMALL (ALPHA,BETA,GAMMA,DELTA,EPSILON,ZETA,ETA,THETA,IOTA,",
    "KAPPA,LAMDA,MU,NU,XI,OMICRON,PI,RHO,FINAL SIGMA,SIGMA,TAU,UPSILON,PHI,CHI,PSI,OMEGA),",
    "PARTIAL DIFFERENTIAL,EPSILON SYMBOL,THETA SYMBOL,KAPPA SYMBOL,PHI SYMBOL,RHO SYMBOL,",
    "PI SYMBOL),BOLD ITALIC (CAPITAL (ALPHA,BETA,GAMMA,DELTA,EPSILON,ZETA,ETA,THETA,IOTA,KAPPA,",
    "LAMDA,MU,NU,XI,OMICRON,PI,RHO,THETA SYMBOL,SIGMA,TAU,UPSILON,PHI,CHI,PSI,OMEGA),NABLA,SMALL (",
    "ALPHA,BETA,GAMMA,DELTA,EPSILON,ZETA,ETA,THETA,IOTA,KAPPA,LAMDA,MU,NU,XI,OMICRON,PI,RHO,",
    "FINAL SIGMA,SIGMA,TAU,UPSILON,PHI,CHI,PSI,OMEGA),PARTIAL DIFFERENTIAL,EPSILON SYMBOL,",
    "THETA SYMBOL,KAPPA SYMBOL,PHI SYMBOL,RHO SYMBOL,PI SYMBOL),SANS-SERIF BOLD (CAPITAL (ALPHA,",
    "BETA,GAMMA,DELTA,EPSILON,ZETA,ETA,THETA,IOTA,KAPPA,LAMDA,MU,NU,XI,OMICRON,PI,RHO,",
    "THETA SYMBOL,SIGMA,TAU,UPSILON,PHI,CHI,PSI,OMEGA),NABLA,SMALL (ALPHA,BETA,GAMMA,DELTA,",
    "EPSILON,ZETA,ETA,THETA,IOTA,KAPPA,LAMDA,MU,NU,XI,OMICRON,PI,RHO,FINAL SIGMA,SIGMA,TAU,",
    "UPSILON,PHI,CHI,PSI,OMEGA),PARTIAL DIFFERENTIAL,EPSILON SYMBOL,THETA SYMBOL,KAPPA SYMBOL,",
    "PHI SYMBOL,RHO SYMBOL,PI SYMBOL,ITALIC (CAPITAL (ALPHA,BETA,GAMMA,DELTA,EPSILON,ZETA,ETA,",
    "THETA,IOTA,KAPPA,LAMDA,MU,NU,XI,OMICRON,PI,RHO,THETA SYMBOL,SIGMA,TAU,UPSILON,PHI,CHI,PSI,",
    "OMEGA),NABLA,SMALL (ALPHA,BETA,GAMMA,DELTA,EPSILON,ZETA,ETA,THETA,IOTA,KAPPA,LAMDA,MU,NU,XI,",
    "OMICRON,PI,RHO,FINAL SIGMA,SIGMA,TAU,UPSILON,PHI,CHI,PSI,OMEGA),PARTIAL DIFFERENTIAL,",
    "EPSILON SYMBOL,THETA SYMBOL,KAPPA SYMBOL,PHI SYMBOL,RHO SYMBOL,PI SYMBOL)),BOLD (",
    "CAPITAL DIGAMMA,SMALL DIGAMMA))"]⟩,
  ⟨0x1D7CE, ["MATHEMATICAL (BOLD DIGIT (ZERO,ONE,TWO,THREE,FOUR,FIVE,SIX,SEVEN,EIGHT,NINE),",
    "DOUBLE-STRUCK DIGIT (ZERO,ONE,TWO,THREE,FOUR,FIVE,SIX,SEVEN,EIGHT,NINE),SANS-SERIF (DIGIT (",
    "ZERO,ONE,TWO,THREE,FOUR,FIVE,SIX,SEVEN,EIGHT,NINE),BOLD DIGIT (ZERO,ONE,TWO,THREE,FOUR,FIVE,",
    "SIX,SEVEN,EIGHT,NINE)),MONOSPACE DIGIT (ZERO,ONE,TWO,THREE,FOUR,FIVE,SIX,SEVEN,EIGHT,NINE)),",
    "SIGNWRITING (HAND-(FIST INDEX,CIRCLE INDEX,CUP INDEX,OVAL INDEX,HINGE INDEX,ANGLE INDEX,",
    "FIST INDEX BENT,CIRCLE INDEX BENT,FIST (THUMB UNDER INDEX BENT,INDEX (RAISED KNUCKLE,CUPPED,",
    "HINGED(, LOW))),CIRCLE INDEX HINGE,FIST INDEX MIDDLE,CIRCLE INDEX MIDDLE,FIST INDEX (MIDDLE (",
    "BENT,RAISED KNUCKLES,HINGED),UP MIDDLE HINGED,HINGED MIDDLE UP,MIDDLE (CONJOINED(, (",
    "INDEX BENT,MIDDLE BENT,CUPPED,HINGED)),CROSSED)),CIRCLE INDEX MIDDLE CROSSED,FIST (",
    "MIDDLE BENT OVER INDEX,INDEX (BENT OVER MIDDLE,MIDDLE THUMB)),CIRCLE INDEX MIDDLE THUMB,",
    "FIST (INDEX (MIDDLE (STRAIGHT THUMB BENT,BENT THUMB STRAIGHT,THUMB BENT,",
    "HINGED SPREAD THUMB SIDE),UP MIDDLE HINGED THUMB (SIDE,CONJOINED),",
    "HINGED MIDDLE UP THUMB SIDE,MIDDLE (UP SPREAD THUMB FORWARD,THUMB (CUPPED,CIRCLED,HOOKED,",
    "HINGED))),THUMB BETWEEN INDEX MIDDLE STRAIGHT,INDEX MIDDLE CONJOINED THUMB SIDE(, CONJOINED,",
    " BENT),MIDDLE THUMB HOOKED INDEX UP,INDEX (THUMB HOOKED MIDDLE UP,MIDDLE (",
    "CONJOINED HINGED THUMB SIDE,CROSSED THUMB SIDE,CONJOINED (THUMB FORWARD,",
    "CUPPED THUMB FORWARD))),MIDDLE THUMB CUPPED INDEX UP,INDEX THUMB CUPPED MIDDLE UP,",
    "MIDDLE THUMB CIRCLED INDEX (UP,HINGED),INDEX (THUMB (ANGLED (OUT MIDDLE UP,IN MIDDLE UP),",
    "CIRCLED MIDDLE UP),MIDDLE THUMB (CONJOINED HINGED,ANGLED( OUT,))),MIDDLE THUMB ANGLED (",
    "OUT INDEX (UP,CROSSED),INDEX UP),INDEX THUMB HOOKED MIDDLE HINGED),FLAT FOUR FINGERS(, (BENT,",
    "HINGED,CONJOINED(, SPLIT))),CLAW FOUR FINGERS CONJOINED,FIST FOUR FINGERS CONJOINED BENT,",
    "HINGE FOUR FINGERS CONJOINED,FLAT (FIVE FINGERS SPREAD,HEEL FIVE FINGERS SPREAD,",
    "FIVE FINGERS SPREAD FOUR BENT,HEEL FIVE FINGERS SPREAD FOUR BENT,FIVE FINGERS SPREAD BENT,",
    "HEEL FIVE FINGERS SPREAD BENT,FIVE FINGERS SPREAD THUMB FORWARD),CUP FIVE FINGERS SPREAD(,",
    " OPEN),HINGE FIVE FINGERS SPREAD OPEN,OVAL FIVE FINGERS SPREAD,FLAT(",
    " FIVE FINGERS SPREAD HINGED(, THUMB SIDE, NO THUMB),, (BETWEEN PALM FACINGS,HEEL,THUMB SIDE,",
    "HEEL THUMB SIDE,THUMB (BENT,FORWARD),SPLIT (INDEX THUMB SIDE,CENTRE(, THUMB SIDE(, BENT)),",
    "LITTLE))),CLAW(, THUMB SIDE, NO THUMB, THUMB FORWARD),HOOK( CURLICUE,),CUP( OPEN,, (",
    "OPEN THUMB SIDE,THUMB SIDE,OPEN NO THUMB,NO THUMB,OPEN THUMB FORWARD,THUMB FORWARD)),",
    "CURLICUE( OPEN,),CIRCLE,OVAL(, THUMB SIDE, NO THUMB, THUMB FORWARD),HINGE( OPEN(,",
    " THUMB FORWARD),, (SMALL,OPEN THUMB SIDE,THUMB SIDE,OPEN NO THUMB,NO THUMB,THUMB (",
    "SIDE TOUCHING INDEX,BETWEEN MIDDLE RING))),ANGLE,FIST INDEX MIDDLE RING,",
    "CIRCLE INDEX MIDDLE RING,HINGE INDEX MIDDLE RING,ANGLE INDEX MIDDLE RING,HINGE LITTLE,",
    "FIST INDEX MIDDLE RING (BENT,CONJOINED),HINGE INDEX MIDDLE RING CONJOINED,FIST (LITTLE (DOWN(",
    ", RIPPLE STRAIGHT, RIPPLE CURVED, OTHERS CIRCLED),UP),THUMB UNDER LITTLE UP),",
    "CIRCLE LITTLE UP,OVAL LITTLE UP,ANGLE LITTLE UP,FIST LITTLE (RAISED KNUCKLE,BENT,",
    "TOUCHES THUMB,THUMB),HINGE LITTLE THUMB,FIST LITTLE INDEX THUMB,HINGE LITTLE INDEX THUMB,",
    "ANGLE LITTLE INDEX THUMB INDEX THUMB( OUT,),FIST LITTLE INDEX,CIRCLE LITTLE INDEX,",
    "HINGE LITTLE INDEX,ANGLE LITTLE INDEX,FIST INDEX MIDDLE LITTLE,CIRCLE INDEX MIDDLE LITTLE,",
    "HINGE (INDEX MIDDLE LITTLE,RING),ANGLE INDEX MIDDLE LITTLE,FIST INDEX MIDDLE CROSS LITTLE,",
    "CIRCLE INDEX MIDDLE CROSS LITTLE,FIST RING DOWN,HINGE RING DOWN INDEX THUMB HOOK MIDDLE,",
    "ANGLE RING DOWN MIDDLE THUMB INDEX CROSS,FIST RING (UP,RAISED KNUCKLE,LITTLE),",
    "CIRCLE RING LITTLE,OVAL RING LITTLE,ANGLE RING LITTLE,FIST RING (MIDDLE(, CONJOINED,",
    " RAISED KNUCKLES),INDEX,THUMB),HOOK RING THUMB,FIST INDEX RING LITTLE,",
    "CIRCLE INDEX RING LITTLE,CURLICUE INDEX RING LITTLE ON,HOOK INDEX RING LITTLE (OUT,IN,UNDER),",
    "CUP INDEX RING LITTLE,HINGE INDEX RING LITTLE,ANGLE INDEX RING LITTLE( OUT,),",
    "FIST MIDDLE DOWN,HINGE MIDDLE,FIST MIDDLE UP,CIRCLE MIDDLE UP,FIST MIDDLE (RAISED KNUCKLE,",
    "UP THUMB SIDE),HOOK MIDDLE THUMB,FIST MIDDLE (THUMB LITTLE,LITTLE,RING LITTLE),",
    "CIRCLE MIDDLE RING LITTLE,CURLICUE MIDDLE RING LITTLE ON,CUP MIDDLE RING LITTLE,",
    "HINGE MIDDLE RING LITTLE,ANGLE MIDDLE RING LITTLE( OUT, IN,),CIRCLE MIDDLE RING LITTLE BENT,",
    "CLAW MIDDLE RING LITTLE CONJOINED(, SIDE),HOOK MIDDLE RING LITTLE CONJOINED( OUT, IN,),",
    "HINGE INDEX HINGED,FIST INDEX THUMB SIDE,HINGE INDEX THUMB SIDE,FIST INDEX THUMB (SIDE (",
    "THUMB (DIAGONAL,CONJOINED,BENT),INDEX BENT,BOTH BENT,INDEX HINGE),FORWARD INDEX (STRAIGHT,",
    "BENT),HOOK,CURLICUE,CURVE THUMB INSIDE),CLAW INDEX THUMB CURVE THUMB INSIDE,",
    "FIST INDEX THUMB (CURVE THUMB UNDER,CIRCLE),CUP INDEX THUMB(, OPEN),HINGE INDEX THUMB( OPEN,",
    " LARGE,, SMALL),ANGLE INDEX THUMB( OUT, IN,),FIST( THUMB(, (HEEL,SIDE (DIAGONAL,CONJOINED,",
    "BENT),FORWARD,BETWEEN (INDEX MIDDLE,MIDDLE RING,RING LITTLE),UNDER TWO FINGERS,",
    "OVER TWO FINGERS,UNDER (THREE FINGERS,FOUR FINGERS),OVER FOUR RAISED KNUCKLES)),, HEEL)),",
    "TOUCH (SINGLE,MULTIPLE,BETWEEN),GRASP (SINGLE,MULTIPLE,BETWEEN),STRIKE (SINGLE,MULTIPLE,",
    "BETWEEN),BRUSH (SINGLE,MULTIPLE,BETWEEN),RUB (SINGLE,MULTIPLE,BETWEEN),SURFACE (SYMBOLS,",
    "BETWEEN),SQUEEZE (LARGE SINGLE,SMALL SINGLE,LARGE MULTIPLE,SMALL MULTIPLE,SEQUENTIAL),FLICK (",
    "LARGE SINGLE,SMALL SINGLE,LARGE MULTIPLE,SMALL MULTIPLE,SEQUENTIAL),",
    "SQUEEZE FLICK ALTERNATING,MOVEMENT-(HINGE (UP (DOWN (LARGE,SMALL),SEQUENTIAL),",
    "DOWN SEQUENTIAL,UP DOWN ALTERNATING (LARGE,SMALL),SIDE TO SIDE SCISSORS),",
    "WALLPLANE FINGER CONTACT,FLOORPLANE FINGER CONTACT,WALLPLANE (SINGLE (STRAIGHT (SMALL,MEDIUM,",
    "LARGE,LARGEST),WRIST FLEX),DOUBLE (STRAIGHT,WRIST FLEX,ALTERNATING(, WRIST FLEX)),CROSS,",
    "TRIPLE (STRAIGHT MOVEMENT,WRIST FLEX,ALTERNATING(, WRIST FLEX)),BEND (SMALL,MEDIUM,LARGE),",
    "CORNER (SMALL,MEDIUM,LARGE,ROTATION),CHECK (SMALL,MEDIUM,LARGE),BOX (SMALL,MEDIUM,LARGE),",
    "ZIGZAG (SMALL,MEDIUM,LARGE),PEAKS (SMALL,MEDIUM,LARGE))),TRAVEL-WALLPLANE (ROTATION-(",
    "WALLPLANE (SINGLE,DOUBLE,ALTERNATING),FLOORPLANE (SINGLE,DOUBLE,ALTERNATING)),SHAKING,",
    "ARM SPIRAL (SINGLE,DOUBLE,TRIPLE)),MOVEMENT-(DIAGONAL (AWAY (SMALL,MEDIUM,LARGE,LARGEST),",
    "TOWARDS (SMALL,MEDIUM,LARGE,LARGEST),BETWEEN (AWAY (SMALL,MEDIUM,LARGE,LARGEST),TOWARDS (",
    "SMALL,MEDIUM,LARGE,LARGEST))),FLOORPLANE (SINGLE (STRAIGHT (SMALL,MEDIUM,LARGE,LARGEST),",
    "WRIST FLEX),DOUBLE (STRAIGHT,WRIST FLEX,ALTERNATING(, WRIST FLEX)),CROSS,TRIPLE (",
    "STRAIGHT MOVEMENT,WRIST FLEX,ALTERNATING (MOVEMENT,WRIST FLEX)),BEND,CORNER (SMALL,MEDIUM,",
    "LARGE),CHECK,BOX (SMALL,MEDIUM,LARGE),ZIGZAG (SMALL,MEDIUM,LARGE),PEAKS (SMALL,MEDIUM,",
    "LARGE))),TRAVEL-FLOORPLANE (ROTATION-(FLOORPLANE (SINGLE,DOUBLE,ALTERNATING),WALLPLANE (",
    "SINGLE,DOUBLE,ALTERNATING)),SHAKING),MOVEMENT-WALLPLANE (CURVE (QUARTER (SMALL,MEDIUM,LARGE,",
    "LARGEST),HALF-CIRCLE (SMALL,MEDIUM,LARGE,LARGEST),THREE-QUARTER CIRCLE (SMALL,MEDIUM)),HUMP (",
    "SMALL,MEDIUM,LARGE),LOOP (SMALL,MEDIUM,LARGE,SMALL DOUBLE),WAVE CURVE (DOUBLE (SMALL,MEDIUM,",
    "LARGE),TRIPLE (SMALL,MEDIUM,LARGE)),CURVE THEN STRAIGHT,CURVED CROSS (SMALL,MEDIUM)),",
    "ROTATION-WALLPLANE (SINGLE,DOUBLE,ALTERNATE),MOVEMENT-WALLPLANE (SHAKING,",
    "CURVE HITTING FRONT WALL,HUMP HITTING FRONT WALL,LOOP HITTING FRONT WALL,",
    "WAVE HITTING FRONT WALL),ROTATION-WALLPLANE (SINGLE HITTING FRONT WALL,",
    "DOUBLE HITTING FRONT WALL,ALTERNATING HITTING FRONT WALL),MOVEMENT-WALLPLANE (",
    "CURVE HITTING CHEST,HUMP HITTING CHEST,LOOP HITTING CHEST,WAVE HITTING CHEST),",
    "ROTATION-WALLPLANE (SINGLE HITTING CHEST,DOUBLE HITTING CHEST,ALTERNATING HITTING CHEST),",
    "MOVEMENT-(WALLPLANE WAVE DIAGONAL PATH (SMALL,MEDIUM,LARGE),FLOORPLANE (",
    "CURVE HITTING CEILING (SMALL,LARGE),HUMP HITTING CEILING (SMALL DOUBLE,LARGE DOUBLE,",
    "SMALL TRIPLE,LARGE TRIPLE),LOOP HITTING CEILING (SMALL SINGLE,LARGE SINGLE,SMALL DOUBLE,",
    "LARGE DOUBLE),WAVE HITTING CEILING (SMALL,LARGE))),ROTATION-FLOORPLANE (",
    "SINGLE HITTING CEILING,DOUBLE HITTING CEILING,ALTERNATING HITTING CEILING),",
    "MOVEMENT-FLOORPLANE (CURVE HITTING FLOOR (SMALL,LARGE),HUMP HITTING FLOOR (SMALL DOUBLE,",
    "LARGE DOUBLE,TRIPLE (SMALL TRIPLE,LARGE TRIPLE)),LOOP HITTING FLOOR (SMALL SINGLE,",
    "LARGE SINGLE,SMALL DOUBLE,LARGE DOUBLE),WAVE HITTING FLOOR (SMALL,LARGE)),",
    "ROTATION-FLOORPLANE (SINGLE HITTING FLOOR,DOUBLE HITTING FLOOR,ALTERNATING HITTING FLOOR),",
    "MOVEMENT-FLOORPLANE (CURVE (SMALL,MEDIUM,LARGE,LARGEST,COMBINED),HUMP SMALL,LOOP SMALL,WAVE (",
    "SNAKE,SMALL,LARGE)),ROTATION-FLOORPLANE (SINGLE,DOUBLE,ALTERNATING),MOVEMENT-(",
    "FLOORPLANE SHAKING PARALLEL,WALLPLANE ARM CIRCLE (SMALL SINGLE,MEDIUM SINGLE,SMALL DOUBLE,",
    "MEDIUM DOUBLE),FLOORPLANE ARM CIRCLE HITTING WALL (SMALL SINGLE,MEDIUM SINGLE,LARGE SINGLE,",
    "SMALL DOUBLE,MEDIUM DOUBLE,LARGE DOUBLE),WALLPLANE WRIST CIRCLE FRONT (SINGLE,DOUBLE),",
    "FLOORPLANE WRIST CIRCLE HITTING WALL (SINGLE,DOUBLE),WALLPLANE FINGER CIRCLES (SINGLE,",
    "DOUBLE),FLOORPLANE FINGER CIRCLES HITTING WALL (SINGLE,DOUBLE)),DYNAMIC (ARROWHEAD (SMALL,",
    "LARGE),FAST,SLOW,TENSE,RELAXED,SIMULTANEOUS(, ALTERNATING),EVERY OTHER TIME,GRADUAL),HEAD(, (",
    "RIM,MOVEMENT(-(WALLPLANE (STRAIGHT,TILT),FLOORPLANE STRAIGHT,WALLPLANE CURVE,",
    "FLOORPLANE CURVE), CIRCLE))),FACE DIRECTION POSITION NOSE (FORWARD TILTING,UP OR DOWN(,",
    " TILTING)),EYEBROWS STRAIGHT (UP,NEUTRAL,DOWN),DREAMY EYEBROWS (NEUTRAL DOWN,DOWN NEUTRAL,",
    "UP NEUTRAL,NEUTRAL UP),FOREHEAD (NEUTRAL,CONTACT,WRINKLED),EYES (OPEN,SQUEEZED,CLOSED),",
    "EYE BLINK (SINGLE,MULTIPLE),EYES (HALF OPEN,WIDE OPEN,HALF CLOSED,WIDENING MOVEMENT),",
    "EYE WINK,EYELASHES (UP,DOWN,FLUTTERING),EYEGAZE-(WALLPLANE STRAIGHT(, DOUBLE, ALTERNATING),",
    "FLOORPLANE STRAIGHT(, DOUBLE, ALTERNATING),WALLPLANE CURVED,FLOORPLANE CURVED,",
    "WALLPLANE CIRCLING),CHEEKS (PUFFED,NEUTRAL,SUCKED),TENSE CHEEKS (HIGH,MIDDLE,LOW),EARS,NOSE (",
    "NEUTRAL,CONTACT,WRINKLES,WIGGLES),AIR (BLOWING OUT,SUCKING IN,BLOW SMALL ROTATIONS,",
    "SUCK SMALL ROTATIONS),BREATH (INHALE,EXHALE),MOUTH (CLOSED (NEUTRAL,FORWARD,CONTACT),SMILE(,",
    " WRINKLED, OPEN),FROWN(, WRINKLED, OPEN),OPEN (CIRCLE,FORWARD,WRINKLED,OVAL(, WRINKLED,",
    " YAWN),RECTANGLE(, WRINKLED, YAWN)),KISS(, FORWARD, WRINKLED),TENSE(, FORWARD, SUCKED)),",
    "LIPS PRESSED TOGETHER,LIP (LOWER OVER UPPER,UPPER OVER LOWER),MOUTH (CORNERS,WRINKLES (",
    "SINGLE,DOUBLE)),TONGUE (STICKING OUT FAR,LICKING LIPS,TIP (BETWEEN LIPS,",
    "TOUCHING INSIDE MOUTH),INSIDE MOUTH RELAXED,MOVES AGAINST CHEEK,CENTRE (STICKING OUT,",
    "INSIDE MOUTH)),TEETH(, (MOVEMENT,ON (TONGUE(, MOVEMENT),LIPS(, MOVEMENT)),BITE LIPS)),",
    "MOVEMENT-(WALLPLANE JAW,FLOORPLANE JAW),NECK,HAIR,EXCITEMENT,SHOULDER HIP (SPINE,POSITIONS),",
    "WALLPLANE SHOULDER HIP MOVE,FLOORPLANE SHOULDER HIP MOVE,SHOULDER TILTING FROM WAIST,TORSO-(",
    "WALLPLANE (STRAIGHT STRETCH,CURVED BEND),FLOORPLANE TWISTING),",
    "UPPER BODY TILTING FROM HIP JOINTS,LIMB (COMBINATION,LENGTH-(1,2,3,4,5,6,7)),FINGER,LOCATION(",
    "-WALLPLANE SPACE,-FLOORPLANE SPACE, (HEIGHT,WIDTH,DEPTH,HEAD NECK,TORSO,LIMBS DIGITS)),COMMA,",
    "FULL STOP,SEMICOLON,COLON,PARENTHESIS)"]⟩,
  ⟨0x1DA9B, ["SIGNWRITING FILL MODIFIER-(2,3,4,5,6)"]⟩,
  ⟨0x1DAA1, ["SIGNWRITING ROTATION MODIFIER-(2,3,4,5,6,7,8,9,10,11,12,13,14,15,16)"]⟩,
  ⟨0x1DF00, ["LATIN (SMALL LETTER (FENG DIGRAPH WITH TRILL,REVERSED SCRIPT G),",
    "LETTER SMALL CAPITAL TURNED G,SMALL LETTER REVERSED K,LETTER SMALL CAPITAL L WITH BELT,",
    "SMALL LETTER (LEZH WITH RETROFLEX HOOK,TURNED Y WITH BELT,REVERSED ENG,",
    "TURNED R WITH LONG LEG AND RETROFLEX HOOK,T WITH HOOK AND RETROFLEX HOOK),",
    "LETTER RETROFLEX CLICK WITH RETROFLEX HOOK,SMALL LETTER (ESH WITH DOUBLE BAR(, AND CURL),",
    "TURNED T WITH CURL),LETTER (INVERTED GLOTTAL STOP WITH CURL,STRETCHED C WITH CURL,",
    "SMALL CAPITAL TURNED K),SMALL LETTER (L WITH FISHHOOK,DEZH DIGRAPH WITH PALATAL HOOK,",
    "L WITH BELT AND PALATAL HOOK,ENG WITH PALATAL HOOK,TURNED R WITH PALATAL HOOK,",
    "R WITH FISHHOOK AND PALATAL HOOK,TESH DIGRAPH WITH PALATAL HOOK,EZH WITH PALATAL HOOK,",
    "DEZH DIGRAPH WITH RETROFLEX HOOK,I WITH STROKE AND RETROFLEX HOOK,O WITH RETROFLEX HOOK,",
    "TESH DIGRAPH WITH RETROFLEX HOOK,C WITH RETROFLEX HOOK,S WITH CURL))"]⟩,
  ⟨0x1E000, ["COMBINING GLAGOLITIC LETTER (AZU,BUKY,VEDE,GLAGOLI,DOBRO,YESTU,ZHIVETE)"]⟩,
  ⟨0x1E008, ["COMBINING GLAGOLITIC LETTER (ZEMLJA,IZHE,INITIAL IZHE,I,DJERVI,KAKO,LJUDIJE,MYSLITE,",
    "NASHI,ONU,POKOJI,RITSI,SLOVO,TVRIDO,UKU,FRITU,HERU)"]⟩,
  ⟨0x1E01B, ["COMBINING GLAGOLITIC LETTER (SHTA,TSI,CHRIVI,SHA,YERU,YERI,YATI)"]⟩,
  ⟨0x1E023, ["COMBINING GLAGOLITIC LETTER (YU,SMALL YUS)"]⟩,
  ⟨0x1E026, ["COMBINING GLAGOLITIC LETTER (YO,IOTATED SMALL YUS,BIG YUS,IOTATED BIG YUS,FITA)"]⟩,
  ⟨0x1E100, ["NYIAKENG PUACHUE HMONG LETTER (MA,TSA,NTA,TA,HA,NA,XA,NKA,CA,LA,SA,ZA,NCA,NTSA,KA,",
    "DA,NYA,NRA,VA,NTXA,TXA,FA,RA,QA,YA,NQA,PA,XYA,NPA,DLA,NPLA,HAH,MLA,PLA,GA,RRA,A,AA,I,U,O,OO,",
    "E,EE,W)"]⟩,
  ⟨0x1E130, ["NYIAKENG PUACHUE HMONG (TONE-(B,M,J,V,S,G,D),SIGN (FOR (PERSON,THING,LOCATION,",
    "ANIMAL,INVERTEBRATE),XW XW),SYLLABLE LENGTHENER)"]⟩,
  ⟨0x1E140, ["NYIAKENG PUACHUE HMONG DIGIT (ZERO,ONE,TWO,THREE,FOUR,FIVE,SIX,SEVEN,EIGHT,NINE)"]⟩,
  ⟨0x1E14E, ["NYIAKENG PUACHUE HMONG (LOGOGRAM NYAJ,CIRCLED CA)"]⟩,
  ⟨0x1E290, ["TOTO (LETTER (PA,BA,TA,DA,KA,GA,MA,NA,NGA,SA,CHA,YA,WA,JA,HA,RA,LA,I,BREATHY I,IU,",
    "BREATHY IU,U,E,BREATHY E,EO,BREATHY EO,O,AE,BREATHY AE,A),SIGN RISING TONE)"]⟩,
  ⟨0x1E2C0, ["WANCHO (LETTER (AA,A,BA,CA,DA,GA,YA,PHA,LA,NA,PA,TA,THA,FA,SA,SHA,JA,ZA,WA,VA,KA,O,",
    "AU,RA,MA,KHA,HA,E,I,NGA,U,LLHA,TSA,TRA,ONG,AANG,ANG,ING,ON,EN,AAN,NYA,UEN,YIH),TONE (TUP,",
    "TUPNI,KOI,KOINI),DIGIT (ZERO,ONE,TWO,THREE,FOUR,FIVE,SIX,SEVEN,EIGHT,NINE))"]⟩,
  ⟨0x1E2FF, ["WANCHO NGUN SIGN"]⟩,
  ⟨0x1E7E0, ["ETHIOPIC SYLLABLE (HHYA,HHYU,HHYI,HHYAA,HHYEE,HHYE,HHYO)"]⟩,
  ⟨0x1E7E8, ["ETHIOPIC SYLLABLE (GURAGE HHWA,HHWI,HHWEE,HHWE)"]⟩,
  ⟨0x1E7ED, ["ETHIOPIC SYLLABLE GURAGE (MWI,MWEE)"]⟩,
  ⟨0x1E7F0, ["ETHIOPIC SYLLABLE GURAGE (QWI,QWEE,QWE,BWI,BWEE,KWI,KWEE,KWE,GWI,GWEE,GWE,FWI,FWEE,",
    "PWI,PWEE)"]⟩,
  ⟨0x1E800, ["MENDE KIKAKUI SYLLABLE M(001 KI,002 KA,003 KU,065 KEE,095 KE,076 KOO,048 KO,179 KUA,",
    "004 WI,005 WA,006 WU,126 WEE,118 WE,114 WOO,045 WO,194 WUI,143 WEI,061 WVI,049 WVA,139 WVE,",
    "007 MIN,008 MAN,009 MUN,059 MEN,094 MON,154 MUAN,189 MUEN,010 BI,011 BA,012 BU,150 BEE,",
    "097 BE,103 BOO,138 BO,013 I,014 A,015 U,163 EE,100 E,165 OO,147 O,137 EI,131 IN,135 IN,",
    "195 AN,178 EN,019 SI,020 SA,021 SU,162 SEE,116 SE,136 SOO,079 SO,196 SIA,025 LI,026 LA,",
    "027 LU,084 LEE,073 LE,054 LOO,153 LO,110 LONG LE,016 DI,017 DA,018 DU,089 DEE,180 DOO,181 DO,",
    "022 TI,023 TA,024 TU,091 TEE,055 TE,104 TOO,069 TO,028 JI,029 JA,030 JU,157 JEE,113 JE,",
    "160 JOO,063 JO,175 LONG JO,031 YI,032 YA,033 YU,109 YEE,080 YE,141 YOO,121 YO,034 FI,035 FA,",
    "036 FU,078 FEE,075 FE,133 FOO,088 FO,197 FUA,101 FAN,037 NIN,038 NAN,039 NUN,117 NEN,169 NON,",
    "176 HI,041 HA,186 HU,040 HEE,096 HE,042 HOO,140 HO,083 HEEI,128 HOOU,053 HIN,130 HAN,087 HUN,",
    "052 HEN,193 HON,046 HUAN,090 NGGI,043 NGGA,082 NGGU,115 NGGEE,146 NGGE,156 NGGOO,120 NGGO,",
    "159 NGGAA,127 NGGUA,086 LONG NGGE,106 LONG NGGOO,183 LONG NGGO,155 GI,111 GA,168 GU,190 GEE,",
    "166 GUEI,167 GUAN,184 NGEN,057 NGON,177 NGUAN,068 PI,099 PA,050 PU,081 PEE,051 PE,102 POO,",
    "066 PO,145 MBI,062 MBA,122 MBU,047 MBEE,188 MBEE,072 MBE,172 MBOO,174 MBO,187 MBUU,",
    "161 LONG MBE,105 LONG MBOO,142 LONG MBO,132 KPI,092 KPA,074 KPU,044 KPEE,108 KPE,112 KPOO,",
    "158 KPO,124 GBI,056 GBA,148 GBU,093 GBEE,107 GBE,071 GBOO,070 GBO,171 RA,123 NDI,129 NDA,",
    "125 NDU,191 NDEE,119 NDE,067 NDOO,064 NDO,152 NJA,192 NJU,149 NJEE,134 NJOO,182 VI,185 VA,",
    "151 VU,173 VEE,085 VE,144 VOO,077 VO,164 NYIN,058 NYAN,170 NYUN,098 NYEN,060 NYON)"]⟩,
  ⟨0x1E8C7, ["MENDE KIKAKUI (DIGIT (ONE,TWO,THREE,FOUR,FIVE,SIX,SEVEN,EIGHT,NINE),",
    "COMBINING NUMBER (TEENS,TENS,HUNDREDS,THOUSANDS,TEN THOUSANDS,HUNDRED THOUSANDS,MILLIONS))"]⟩,
  ⟨0x1E900, ["ADLAM (CAPITAL LETTER (ALIF,DAALI,LAAM,MIIM,BA,SINNYIIYHE,PE,BHE,RA,E,FA,I,O,DHA,",
    "YHE,WAW,NUN,KAF,YA,U,JIIM,CHI,HA,QAAF,GA,NYA,TU,NHA,VA,KHA,GBE,ZAL,KPO,SHA),SMALL LETTER (",
    "ALIF,DAALI,LAAM,MIIM,BA,SINNYIIYHE,PE,BHE,RA,E,FA,I,O,DHA,YHE,WAW,NUN,KAF,YA,U,JIIM,CHI,HA,",
    "QAAF,GA,NYA,TU,NHA,VA,KHA,GBE,ZAL,KPO,SHA),ALIF LENGTHENER,VOWEL LENGTHENER,GEMINATION MARK,",
    "HAMZA,CONSONANT MODIFIER,GEMINATE CONSONANT MODIFIER,NUKTA,NASALIZATION MARK)"]⟩,
  ⟨0x1E950, ["ADLAM DIGIT (ZERO,ONE,TWO,THREE,FOUR,FIVE,SIX,SEVEN,EIGHT,NINE)"]⟩,
  ⟨0x1E95E, ["ADLAM INITIAL (EXCLAMATION MARK,QUESTION MARK)"]⟩,
  ⟨0x1EC71, ["INDIC SIYAQ (NUMBER (ONE,TWO,THREE,FOUR,FIVE,SIX,SEVEN,EIGHT,NINE,TEN,TWENTY,THIRTY,",
    "FORTY,FIFTY,SIXTY,SEVENTY,EIGHTY,NINETY,ONE HUNDRED,TWO HUNDRED,THREE HUNDRED,FOUR HUNDRED,",
    "FIVE HUNDRED,SIX HUNDRED,SEVEN HUNDRED,EIGHT HUNDRED,NINE HUNDRED,ONE THOUSAND,TWO THOUSAND,",
    "THREE THOUSAND,FOUR THOUSAND,FIVE THOUSAND,SIX THOUSAND,SEVEN THOUSAND,EIGHT THOUSAND,",
    "NINE THOUSAND,TEN THOUSAND,TWENTY THOUSAND,THIRTY THOUSAND,FORTY THOUSAND,FIFTY THOUSAND,",
    "SIXTY THOUSAND,SEVENTY THOUSAND,EIGHTY THOUSAND,NINETY THOUSAND,LAKH,LAKHAN),LAKH MARK,",
    "NUMBER (KAROR,KARORAN,PREFIXED (ONE,TWO,THREE,FOUR,FIVE,SIX,SEVEN,EIGHT,NINE)),PLACEHOLDER,",
    "FRACTION (ONE (QUARTER,HALF),THREE QUARTERS),RUPEE MARK,NUMBER ALTERNATE (ONE,TWO,",
    "TEN THOUSAND),ALTERNATE LAKH MARK)"]⟩,
  ⟨0x1ED01, ["OTTOMAN SIYAQ (NUMBER (ONE,TWO,THREE,FOUR,FIVE,SIX,SEVEN,EIGHT,NINE,TEN,TWENTY,",
    "THIRTY,FORTY,FIFTY,SIXTY,SEVENTY,EIGHTY,NINETY,ONE HUNDRED,TWO HUNDRED,THREE HUNDRED,",
    "FOUR HUNDRED,FIVE HUNDRED,SIX HUNDRED,SEVEN HUNDRED,EIGHT HUNDRED,NINE HUNDRED,ONE THOUSAND,",
    "TWO THOUSAND,THREE THOUSAND,FOUR THOUSAND,FIVE THOUSAND,SIX THOUSAND,SEVEN THOUSAND,",
    "EIGHT THOUSAND,NINE THOUSAND,TEN THOUSAND,TWENTY THOUSAND,THIRTY THOUSAND,FORTY THOUSAND,",
    "FIFTY THOUSAND,SIXTY THOUSAND,SEVENTY THOUSAND,EIGHTY THOUSAND,NINETY THOUSAND),MARRATAN,",
    "ALTERNATE NUMBER (TWO,THREE,FOUR,FIVE,SIX,SEVEN,EIGHT,NINE,TEN,FOUR HUNDRED,SIX HUNDRED,",
    "TWO THOUSAND,TEN THOUSAND),FRACTION ONE (HALF,SIXTH))"]⟩,
  ⟨0x1EE00, ["ARABIC MATHEMATICAL (ALEF,BEH,JEEM,DAL)"]⟩,
  ⟨0x1EE05, ["ARABIC MATHEMATICAL (WAW,ZAIN,HAH,TAH,YEH,KAF,LAM,MEEM,NOON,SEEN,AIN,FEH,SAD,QAF,",
    "REH,SHEEN,TEH,THEH,KHAH,THAL,DAD,ZAH,GHAIN,DOTLESS (BEH,NOON,FEH,QAF))"]⟩,
  ⟨0x1EE21, ["ARABIC MATHEMATICAL INITIAL (BEH,JEEM)"]⟩,
  ⟨0x1EE24, ["ARABIC MATHEMATICAL INITIAL HEH"]⟩,
  ⟨0x1EE27, ["ARABIC MATHEMATICAL INITIAL HAH"]⟩,
  ⟨0x1EE29, ["ARABIC MATHEMATICAL INITIAL (YEH,KAF,LAM,MEEM,NOON,SEEN,AIN,FEH,SAD,QAF)"]⟩,
  ⟨0x1EE34, ["ARABIC MATHEMATICAL INITIAL (SHEEN,TEH,THEH,KHAH)"]⟩,
  ⟨0x1EE39, ["ARABIC MATHEMATICAL INITIAL DAD"]⟩,
  ⟨0x1EE3B, ["ARABIC MATHEMATICAL INITIAL GHAIN"]⟩,
  ⟨0x1EE42, ["ARABIC MATHEMATICAL TAILED JEEM"]⟩,
  ⟨0x1EE47, ["ARABIC MATHEMATICAL TAILED HAH"]⟩,
  ⟨0x1EE49, ["ARABIC MATHEMATICAL TAILED YEH"]⟩,
  ⟨0x1EE4B, ["ARABIC MATHEMATICAL TAILED LAM"]⟩,
  ⟨0x1EE4D, ["ARABIC MATHEMATICAL TAILED (NOON,SEEN,AIN)"]⟩,
  ⟨0x1EE51, ["ARABIC MATHEMATICAL TAILED (SAD,QAF)"]⟩,
  ⟨0x1EE54, ["ARABIC MATHEMATICAL TAILED SHEEN"]⟩,
  ⟨0x1EE57, ["ARABIC MATHEMATICAL TAILED KHAH"]⟩,
  ⟨0x1EE59, ["ARABIC MATHEMATICAL TAILED DAD"]⟩,
  ⟨0x1EE5B, ["ARABIC MATHEMATICAL TAILED GHAIN"]⟩,
  ⟨0x1EE5D, ["ARABIC MATHEMATICAL TAILED DOTLESS NOON"]⟩,
  ⟨0x1EE5F, ["ARABIC MATHEMATICAL TAILED DOTLESS QAF"]⟩,
  ⟨0x1EE61, ["ARABIC MATHEMATICAL STRETCHED (BEH,JEEM)"]⟩,
  ⟨0x1EE64, ["ARABIC MATHEMATICAL STRETCHED HEH"]⟩,
  ⟨0x1EE67, ["ARABIC MATHEMATICAL STRETCHED (HAH,TAH,YEH,KAF)"]⟩,
  ⟨0x1EE6C, ["ARABIC MATHEMATICAL STRETCHED (MEEM,NOON,SEEN,AIN,FEH,SAD,QAF)"]⟩,
  ⟨0x1EE74, ["ARABIC MATHEMATICAL STRETCHED (SHEEN,TEH,THEH,KHAH)"]⟩,
  ⟨0x1EE79, ["ARABIC MATHEMATICAL STRETCHED (DAD,ZAH,GHAIN,DOTLESS BEH)"]⟩,
  ⟨0x1EE7E, ["ARABIC MATHEMATICAL STRETCHED DOTLESS FEH"]⟩,
  ⟨0x1EE80, ["ARABIC MATHEMATICAL LOOPED (ALEF,BEH,JEEM,DAL,HEH,WAW,ZAIN,HAH,TAH,YEH)"]⟩,
  ⟨0x1EE8B, ["ARABIC MATHEMATICAL LOOPED (LAM,MEEM,NOON,SEEN,AIN,FEH,SAD,QAF,REH,SHEEN,TEH,THEH,",
    "KHAH,THAL,DAD,ZAH,GHAIN)"]⟩,
  ⟨0x1EEA1, ["ARABIC MATHEMATICAL DOUBLE-STRUCK (BEH,JEEM,DAL)"]⟩,
  ⟨0x1EEA5, ["ARABIC MATHEMATICAL DOUBLE-STRUCK (WAW,ZAIN,HAH,TAH,YEH)"]⟩,
  ⟨0x1EEAB, ["ARABIC MATHEMATICAL DOUBLE-STRUCK (LAM,MEEM,NOON,SEEN,AIN,FEH,SAD,QAF,REH,SHEEN,TEH,",
    "THEH,KHAH,THAL,DAD,ZAH,GHAIN)"]⟩,
  ⟨0x1EEF0, ["ARABIC MATHEMATICAL OPERATOR (MEEM WITH HAH WITH TATWEEL,HAH WITH DAL)"]⟩]

end CharacterName
end Text
end Reckoner
