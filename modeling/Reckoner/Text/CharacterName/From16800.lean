import Reckoner.Text.CharacterName.Outline

/-!
# Names from U+16800 on

The names of the characters from U+16800 to U+1CFC3, as outlines.
-/

namespace Reckoner
namespace Text
namespace CharacterName

/-- Names of the characters from U+16800 to U+1CFC3. -/
def from16800 : List Outline := [
  ⟨0x16800, ["BAMUM LETTER PHASE-(A (NGKUE MFON,GBIEE FON,PON MFON (PIPAEMGBIEE,PIPAEMBA),",
    "NAA MFON,SHUENSHUET,TITA MFON,NZA MFON,SHINDA PA NJI,PON PA NJI (PIPAEMGBIEE,PIPAEMBA),",
    "MAEMBGBIEE,TU MAEMBA,NGANGU,MAEMVEUX,MANSUAE,MVEUAENGAM,SEUNYAM,NTOQPEN,KEUKEUTNDA,NKINDI,",
    "SUU,NGKUENZEUM,LAPAQ,LET KUT,NTAP MFAA,MAEKEUP,PASHAE,GHEUAERAE,PAMSHAE,MON NGGEUAET,",
    "NZUN MEUT,U YUQ NAE,GHEUAEGHEUAE,NTAP NTAA,SISA,MGBASA,MEUNJOMNDEUQ,MOOMPUQ,KAFA,PA LEERAEWA,",
    "NDA LEERAEWA,PET,MAEMKPEN,NIKA,PUP,TUAEP,LUAEP,SONJAM,TEUTEUWEN,MAENYI,KET,NDAANGGEUAET,KUOQ,",
    "MOOMEUT,SHUM,LOMMAE,FIRI,ROM,KPOQ,SOQ,MAP PIEET,SHIRAE,NTAP,SHOQ NSHUT YUM,NYIT MONGKEUAEQ,",
    "PAARAE,NKAARAE,UNKNOWN,NGGEN,MAESI,NJAM,MBANYI,NYET,TEUAEN,SOT,PAAM,NSHIEE,MAEM,NYI,KAQ,NSHA,",
    "VEE,LU,NEN,NAQ,MBAQ),B (NSHUET,TU MAEMGBIEE,SIEE,SET TU,LOM NTEUM,MBA MAELEE,KIEEM,YEURAE,",
    "MBAARAE,KAM,PEESHI,YAFU LEERAEWA,LAM NSHUT NYAM,NTIEE SHEUOQ,NDU NJAA,GHEUGHEUAEM,PIT,",
    "TU NSIEE,SHET NJAQ,SHEUAEQTU,MFON TEUAEQ,MBIT MBAAKET,NYI NTEUM,KEUPUQ,GHEUGHEN,KEUYEUX,",
    "LAANAE,PARUM,VEUM,NGKINDI MVOP,NGGEU MBU,WUAET,SAKEUAE,TAAM,MEUQ,NGGUOQ(, LARGE),MFIYAQ,SUE,",
    "MBEURI,MONTIEEN,NYAEMAE,PUNGAAM,MEUT NGGEET,FEUX,MBUOQ,FEE,KEUAEM,MA (NJEUAENA,NJUQA),LET,",
    "NGGAAM,NSEN,MA,KIQ,NGOM),C (NGKUE MAEMBA,NZA,YUM,WANGKUOQ,NGGEN,NDEUAEREE,NGKAQ,GHARAE,",
    "MBEEKEET,GBAYI,NYIR MKPARAQ MEUN,NTU MBIT,MBEUM,PIRIEEN,NDOMBU,MBAA CABBAGE-TREE,KEUSHEUAEP,",
    "GHAP,KEUKAQ,YU MUOMAE,NZEUM,MBUE,NSEUAEN,MBIT,YEUQ,KPARAQ,KAA,SEUX,NDIDA,TAASHAE,NJUEQ,",
    "TITA YUE,SUAET,NGGUAEN NYAM,VEUX,NANSANAQ,MA KEUAERI,NTAA,NGGUON,LAP,MBIRIEEN,MGBASAQ,",
    "NTEUNGBA,TEUTEUX,NGGUM,FUE,NDEUT,NSA,NSHAQ,BUNG,VEUAEPEN,MBERAE,RU,NJAEM,LAM,TITUAEP,",
    "NSUOT NGOM,NJEEEE,KET,NGGU,MAESI,MBUAEM,LU,KUT,NJAM,NGOM,WUP,NGGUEET,NSOM,NTEN,KUOP NKAARAE,",
    "NSUN,NDAM,MA NSIEE,YAA,NDAP,SHUEQ,SETFON,MBI,MAEMBA,MBANYI,KEUSEUX,MBEUX,KEUM,MBAA PICKET,",
    "YUWOQ,NJEUX,MIEE,MUAE,SHIQ,KEN (LAW,FATIGUE),NGAQ,NAQ,LIQ,PIN,PEN,TET),D (MBUO,WAP,NJI,MFON,",
    "NJIEE,LIEE,NJEUT,NSHEE,NGGAAMAE,NYAM,WUAEN,NGKUN,SHEE,NGKAP,KEUAETMEUN,TEUT,SHEUAE,NJAP,SUE,",
    "KET,YAEMMAE,KUOM,SAP,MFEUT,NDEUX,MALEERI,MEUT,SEUAEQ,YEN,NJEUAEM,KEUOT MBUAE,NGKEURI,TU,GHAA,",
    "NGKYEE,FEUFEUAET,NDEE,MGBOFUM,LEUAEP,NDON,MONI,MGBEUN,PUUT,MGBIEE,MFO,LUM,NSIEEP,MBAA,KWAET,",
    "NYET,TEUAEN,SOT,YUWOQ,KEUM,RAEM,TEEEE,NGKEUAEQ,MFEUAE,NSIEET,KEUP,PIP,PEUTAE,NYUE,LET,NGGAAM,",
    "MFIEE,NGGWAEN,YUOM,PAP,YUOP,NDAM,NTEUM,SUAE,KUN,NGGEUX,NGKIEE,TUOT,MEUN,KUQ,NSUM,TEUN,",
    "MAENJET,NGGAP,LEUM,NGGUOM,NSHUT,NJUEQ,GHEUAE,KU,REN OLD,TAE,TOQ,NYI,RII,LEEEE,MEEEE,M,SUU,MU,",
    "SHII,SHEUX,KYEE,NU,SHU,NTEE,PEE,NI,SHOQ,PUQ,MVOP,LOQ,REN MUCH,TI,NTUU,MBAA SEVEN,SAQ,FAA),E (",
    "NDAP,TOON,MBEUM,LAP,VOM,LOON,PAA,SOM,RAQ,NSHUOP,NDUN,PUAE,TAM,NGKA,KPEUX,WUO,SEE,NGGEUAET,",
    "PAAM,TOO,KUOP,LOM,NSHIEE,NGOP,MAEM,NGKEUX,NGOQ,NSHUE,RIMGBA,NJEUX,PEEM,SAA,NGGURAE,MGBA,",
    "GHEUX,NGKEUAEM,NJAEMLI,MAP,LOOT,NGGEEEE,NDIQ,TAEN NTEUM,SET,PUM,NDAA SOFTNESS,",
    "NGGUAESHAE NYAM,YIEE,GHEUN,TUAE,YEUAE,PO,TUMAE,KEUAE,SUAEN,TEUAEQ,VEUAE,WEUX,LAAM,PU,TAAQ,",
    "GHAAMAE,NGEUREUT,SHEUAEQ,MGBEN,MBEE,NZAQ,NKOM,GBET,TUM,KUET,YAP,NYI CLEAVER,YIT,MFEUQ,NDIAQ,",
    "PIEEQ,YUEQ,LEUAEM,FUE,GBEUX,NGKUP,KET,MAE,NGKAAMI,GHET,FA,NTUM,PEUT,YEUM,NGGEUAE,NYI BETWEEN,",
    "NZUQ,POON,MIEE,FUET,NAE,MUAE,GHEUAE,FU I,MVI,PUAQ,NGKUM,KUT,PIET,NTAP,YEUAET,NGGUP,PA PEOPLE,",
    "FU CALL,FOM,NJEE,A,TOQ,O,I,LAQ,PA PLURAL,TAA,TAQ,NDAA MY HOUSE,SHIQ,YEUX,NGUAE,YUAEN,YOQ (",
    "SWIMMING,COVER),YUQ,YUN,KEUX,PEUX,NJEE EPOCH,PUE,WUE,FEE,VEE,LU,MI,REUX,RAE,NGUAET,NGA,SHO,",
    "SHOQ,FU REMEDY,NA,PI,LOQ,KO,MEN,MA,MAQ,TEU,KI,MON,TEN,FAQ,GHOM),F (KA,U,KU,EE,REE,TAE,NYI,LA,",
    "RII,RIEE,MEEEE,TAA,NDAA,NJAEM,M,SUU,SHII,SI,SEUX,KYEE,KET,NUAE,NU,NJUAE,YOQ,SHU,YA,NSHA,PEUX,",
    "NTEE,WUE,PEE,RU,NI,REUX,KEN,NGKWAEN,NGGA,SHO,PUAE,FOM,WA,LI,LOQ,KO,MBEN,REN,MA,MO,MBAA,TET,",
    "KPA,SAMBA,VUEQ))"]⟩,
  ⟨0x16A40, ["MRO LETTER (TA,NGI,YO,MIM,BA,DA,A,PHI,KHAI,HAO,DAI,CHU,KEAAE,OL,MAEM,NIN,PA,OO,O,RO,",
    "SHI,THEA,EA,WA,E,KO,LAN,LA,HAI,RI,TEK)"]⟩,
  ⟨0x16A60, ["MRO DIGIT (ZERO,ONE,TWO,THREE,FOUR,FIVE,SIX,SEVEN,EIGHT,NINE)"]⟩,
  ⟨0x16A6E, ["MRO (DANDA,DOUBLE DANDA),TANGSA LETTER (OZ,OC,OQ,OX,AZ,AC,AQ,AX,VZ,VC,VQ,VX,EZ,EC,",
    "EQ,EX,IZ,IC,IQ,IX,UZ,UC,UQ,UX,AWZ,AWC,AWQ,AWX,UIZ,UIC,UIQ,UIX,FINAL NG,LONG UEX,SHORT (UEZ,",
    "AWX),UEC,UEZ,UEQ,UEX,UIUZ,UIUC,UIUQ,UIUX,MZ,MC,MQ,MX,KA,KHA,GA,NGA,SA,YA,WA,PA,NYA,PHA,BA,MA,",
    "NA,HA,LA,HTA,TA,DA,RA,NHA,SHA,CA,TSA,GHA,HTTA,THA,XA,FA,DHA,CHA,ZA)"]⟩,
  ⟨0x16AC0, ["TANGSA DIGIT (ZERO,ONE,TWO,THREE,FOUR,FIVE,SIX,SEVEN,EIGHT,NINE)"]⟩,
  ⟨0x16AD0, ["BASSA VAH LETTER (ENNI,KA,SE,FA,MBE,YIE,GAH,DHII,KPAH,JO,HWAH,WA,ZO,GBU,DO,CE,UWU,",
    "TO,BA,VU,YEIN,PA,WADDA,A,O,OO,U,EE,E,I)"]⟩,
  ⟨0x16AF0, ["BASSA VAH (COMBINING (HIGH TONE,LOW TONE,MID TONE,LOW-MID TONE,HIGH-LOW TONE),",
    "FULL STOP)"]⟩,
  ⟨0x16B00, ["PAHAWH HMONG (VOWEL (KEEB,KEEV,KIB,KIV,KAUB,KAUV,KUB,KUV,KEB,KEV,KAIB,KAIV,KOOB,",
    "KOOV,KAWB,KAWV,KUAB,KUAV,KOB,KOV,KIAB,KIAV,KAB,KAV,KWB,KWV,KAAB,KAAV),CONSONANT (VAU,NTSAU,",
    "LAU,HAU,NLAU,RAU,NKAU,QHAU,YAU,HLAU,MAU,CHAU,NCHAU,HNAU,PLHAU,NTHAU,NAU,AU,XAU,CAU),",
    "MARK CIM (TUB,SO,KES,KHAV,SUAM,HOM,TAUM),SIGN (VOS (THOM,TSHAB CEEB),CIM CHEEM,VOS (THIAB,",
    "FEEM),XYEEM (NTXIV,RHO,TOV,FAIB),VOS SEEV,MEEJ SUAB,VOS NRUA,IB YAM,XAUS,CIM TSOV ROG))"]⟩,
  ⟨0x16B50, ["PAHAWH HMONG DIGIT (ZERO,ONE,TWO,THREE,FOUR,FIVE,SIX,SEVEN,EIGHT,NINE)"]⟩,
  ⟨0x16B5B, ["PAHAWH HMONG NUMBER (TENS,HUNDREDS,TEN THOUSANDS,MILLIONS,HUNDRED MILLIONS,",
    "TEN BILLIONS,TRILLIONS)"]⟩,
  ⟨0x16B63, ["PAHAWH HMONG SIGN (VOS LUB,XYOO,HLI,THIRD-STAGE HLI,ZWJ THAJ,HNUB,NQIG,XIAB,NTUJ,AV,",
    "TXHEEJ CEEV,MEEJ TSEEB,TAU,LOS,MUS,CIM (HAIS LUS NTOG NTOG,CUAM TSHOOJ,TXWV(, CHWV),PUB DAWB,",
    "NRES TOS))"]⟩,
  ⟨0x16B7D, ["PAHAWH HMONG CLAN SIGN (TSHEEJ,YEEG,LIS,LAUJ,XYOOJ,KOO,HAWJ,MUAS,THOJ,TSAB,PHAB,",
    "KHAB,HAM,VAJ,FAJ,YAJ,TSWB,KWM,VWJ)"]⟩,
  ⟨0x16E40, ["MEDEFAIDRIN (CAPITAL LETTER (M,S,V,W,ATIU,Z,KP,P,T,G,F,I,K,A,J,E,B,C,U,YU,L,Q,HP,NY,",
    "X,D,OE,N,R,O,AI,Y),SMALL LETTER (M,S,V,W,ATIU,Z,KP,P,T,G,F,I,K,A,J,E,B,C,U,YU,L,Q,HP,NY,X,D,",
    "OE,N,R,O,AI,Y),DIGIT (ZERO,ONE,TWO,THREE,FOUR,FIVE,SIX,SEVEN,EIGHT,NINE),NUMBER (TEN,ELEVEN,",
    "TWELVE,THIRTEEN,FOURTEEN,FIFTEEN,SIXTEEN,SEVENTEEN,EIGHTEEN,NINETEEN),DIGIT (",
    "ONE ALTERNATE FORM,TWO ALTERNATE FORM,THREE ALTERNATE FORM),COMMA,FULL STOP,SYMBOL AIVA,",
    "EXCLAMATION OH)"]⟩,
  ⟨0x16F00, ["MIAO LETTER (PA,BA,YI PA,PLA,MA,MHA,ARCHAIC MA,FA,VA,VFA,TA,DA,YI (TTA,TA),TTA,DDA,",
    "NA,NHA,YI NNA,ARCHAIC NA,NNA,NNHA,LA,LYA,LHA,LHYA,TLHA,DLHA,TLHYA,DLHYA,KA,GA,YI KA,QA,QGA,",
    "NGA,NGHA,ARCHAIC NGA,HA,XA,GHA,GHHA,TSSA,DZZA,NYA,NYHA,TSHA,DZHA,YI (TSHA,DZHA),",
    "REFORMED TSHA,SHA,SSA,ZHA,ZSHA,TSA,DZA,YI TSA,SA,ZA,ZSA,ZZA,ZZSA,ARCHAIC ZZA,ZZYA,ZZSYA,WA,",
    "AH,HHA,BRI,SYI,DZYI,TE,TSE,RTE)"]⟩,
  ⟨0x16F4F, ["MIAO (SIGN CONSONANT MODIFIER BAR,LETTER NASALIZATION,SIGN (ASPIRATION,REFORMED (",
    "VOICING,ASPIRATION)),VOWEL SIGN (A,AA,AHH,AN,ANG,O,OO,WO,W,E,EN,ENG,OEY,I,IA,IAN,IANG,IO,IE,",
    "II,IU,ING,U,UA,UAN,UANG,UU,UEI,UNG,Y,YI,AE,AEE,ERR,ROUNDED ERR,ER,ROUNDED ER,AI,EI,AU,OU,N,",
    "NG,UOG,YUI,OG,OER,VW,IG,EA,IONG,UI))"]⟩,
  ⟨0x16F8F, ["MIAO (TONE (RIGHT,TOP RIGHT,ABOVE,BELOW),LETTER (TONE-(2,3,4,5,6,7,8),",
    "REFORMED TONE-(1,2,4,5,6,8)))"]⟩,
  ⟨0x16FE0, ["TANGUT ITERATION MARK,NUSHU ITERATION MARK,OLD CHINESE (HOOK MARK,ITERATION MARK),",
    "KHITAN SMALL SCRIPT FILLER"]⟩,
  ⟨0x16FF0, ["VIETNAMESE ALTERNATE READING MARK (CA,NHAY)"]⟩,
  ⟨0x18800, ["TANGUT COMPONENT-(001,002,003,004,005,006,007,008,009,010,011,012,013,014,015,016,",
    "017,018,019,020,021,022,023,024,025,026,027,028,029,030,031,032,033,034,035,036,037,038,039,",
    "040,041,042,043,044,045,046,047,048,049,050,051,052,053,054,055,056,057,058,059,060,061,062,",
    "063,064,065,066,067,068,069,070,071,072,073,074,075,076,077,078,079,080,081,082,083,084,085,",
    "086,087,088,089,090,091,092,093,094,095,096,097,098,099,100,101,102,103,104,105,106,107,108,",
    "109,110,111,112,113,114,115,116,117,118,119,120,121,122,123,124,125,126,127,128,129,130,131,",
    "132,133,134,135,136,137,138,139,140,141,142,143,144,145,146,147,148,149,150,151,152,153,154,",
    "155,156,157,158,159,160,161,162,163,164,165,166,167,168,169,170,171,172,173,174,175,176,177,",
    "178,179,180,181,182,183,184,185,186,187,188,189,190,191,192,193,194,195,196,197,198,199,200,",
    "201,202,203,204,205,206,207,208,209,210,211,212,213,214,215,216,217,218,219,220,221,222,223,",
    "224,225,226,227,228,229,230,231,232,233,234,235,236,237,238,239,240,241,242,243,244,245,246,",
    "247,248,249,250,251,252,253,254,255,256,257,258,259,260,261,262,263,264,265,266,267,268,269,",
    "270,271,272,273,274,275,276,277,278,279,280,281,282,283,284,285,286,287,288,289,290,291,292,",
    "293,294,295,296,297,298,299,300,301,302,303,304,305,306,307,308,309,310,311,312,313,314,315,",
    "316,317,318,319,320,321,322,323,324,325,326,327,328,329,330,331,332,333,334,335,336,337,338,",
    "339,340,341,342,343,344,345,346,347,348,349,350,351,352,353,354,355,356,357,358,359,360,361,",
    "362,363,364,365,366,367,368,369,370,371,372,373,374,375,376,377,378,379,380,381,382,383,384,",
    "385,386,387,388,389,390,391,392,393,394,395,396,397,398,399,400,401,402,403,404,405,406,407,",
    "408,409,410,411,412,413,414,415,416,417,418,419,420,421,422,423,424,425,426,427,428,429,430,",
    "431,432,433,434,435,436,437,438,439,440,441,442,443,444,445,446,447,448,449,450,451,452,453,",
    "454,455,456,457,458,459,460,461,462,463,464,465,466,467,468,469,470,471,472,473,474,475,476,",
    "477,478,479,480,481,482,483,484,485,486,487,488,489,490,491,492,493,494,495,496,497,498,499,",
    "500,501,502,503,504,505,506,507,508,509,510,511,512,513,514,515,516,517,518,519,520,521,522,",
    "523,524,525,526,527,528,529,530,531,532,533,534,535,536,537,538,539,540,541,542,543,544,545,",
    "546,547,548,549,550,551,552,553,554,555,556,557,558,559,560,561,562,563,564,565,566,567,568,",
    "569,570,571,572,573,574,575,576,577,578,579,580,581,582,583,584,585,586,587,588,589,590,591,",
    "592,593,594,595,596,597,598,599,600,601,602,603,604,605,606,607,608,609,610,611,612,613,614,",
    "615,616,617,618,619,620,621,622,623,624,625,626,627,628,629,630,631,632,633,634,635,636,637,",
    "638,639,640,641,642,643,644,645,646,647,648,649,650,651,652,653,654,655,656,657,658,659,660,",
    "661,662,663,664,665,666,667,668,669,670,671,672,673,674,675,676,677,678,679,680,681,682,683,",
    "684,685,686,687,688,689,690,691,692,693,694,695,696,697,698,699,700,701,702,703,704,705,706,",
    "707,708,709,710,711,712,713,714,715,716,717,718,719,720,721,722,723,724,725,726,727,728,729,",
    "730,731,732,733,734,735,736,737,738,739,740,741,742,743,744,745,746,747,748,749,750,751,752,",
    "753,754,755,756,757,758,759,760,761,762,763,764,765,766,767,768)"]⟩,
  ⟨0x1AFF0, ["KATAKANA LETTER MINNAN TONE-(2,3,4,5)"]⟩,
  ⟨0x1AFF5, ["KATAKANA LETTER MINNAN (TONE-(7,8),NASALIZED TONE-(1,2,3,4,5))"]⟩,
  ⟨0x1AFFD, ["KATAKANA LETTER MINNAN NASALIZED TONE-(7,8)"]⟩,
  ⟨0x1B000, ["KATAKANA LETTER ARCHAIC E,HIRAGANA LETTER ARCHAIC YE,HENTAIGANA LETTER (A-(1,2,3,",
    "WO),I-(1,2,3,4),U-(1,2,3,4,5),E-(2,3,4,5,6),O-(1,2,3),KA-(1,2,3,4,5,6,7,8,9,10,11,KE),KI-(1,",
    "2,3,4,5,6,7,8),KU-(1,2,3,4,5,6,7),KE-(1,2,3,4,5,6),KO-(1,2,3,KI),SA-(1,2,3,4,5,6,7,8),SI-(1,",
    "2,3,4,5,6),SU-(1,2,3,4,5,6,7,8),SE-(1,2,3,4,5),SO-(1,2,3,4,5,6,7),TA-(1,2,3,4),TI-(1,2,3,4,5,",
    "6,7),TU-(1,2,3,4,TO),TE-(1,2,3,4,5,6,7,8,9),TO-(1,2,3,4,5,6,RA),NA-(1,2,3,4,5,6,7,8,9),NI-(1,",
    "2,3,4,5,6,7,TE),NU-(1,2,3),NE-(1,2,3,4,5,6,KO),NO-(1,2,3,4,5),HA-(1,2,3,4,5,6,7,8,9,10,11),",
    "HI-(1,2,3,4,5,6,7),HU-(1,2,3),HE-(1,2,3,4,5,6,7),HO-(1,2,3,4,5,6,7,8),MA-(1,2,3,4,5,6,7),MI-(",
    "1,2,3,4,5,6,7),MU-(1,2,3,4),ME-(1,2,MA),MO-(1,2,3,4,5,6),YA-(1,2,3,4,5,YO),YU-(1,2,3,4),YO-(",
    "1,2,3,4,5,6),RA-(1,2,3,4),RI-(1,2,3,4,5,6,7),RU-(1,2,3,4,5,6),RE-(1,2,3,4),RO-(1,2,3,4,5,6),",
    "WA-(1,2,3,4,5),WI-(1,2,3,4,5),WE-(1,2,3,4),WO-(1,2,3,4,5,6,7),N-MU-MO-(1,2)),",
    "HIRAGANA LETTER ARCHAIC WU,KATAKANA LETTER ARCHAIC (YI,YE,WU)"]⟩,
  ⟨0x1B150, ["HIRAGANA LETTER SMALL (WI,WE,WO)"]⟩,
  ⟨0x1B164, ["KATAKANA LETTER SMALL (WI,WE,WO,N)"]⟩,
  ⟨0x1BC00, ["DUPLOYAN LETTER (H,X,P,T,F,K,L,B,D,V,G,R,P N,D S,F N,K M,R S,TH,SLOAN DH,DH,KK,",
    "SLOAN J,HL,LH,RH,M,N,J,S,M N,N M,J M,S J,M WITH DOT,N WITH DOT,J WITH (DOT,",
    "DOTS INSIDE AND ABOVE),S WITH DOT(, BELOW),M S,N S,J S,S S,M N S,N M S,J M S,S J S,J (",
    "S WITH DOT,N,N S),S (T,T R,P,P R),T S,T R S,W,WH,W R,S N,S M,K R S,G R S,S K(, R),A,SLOAN OW,",
    "OA,O,AOU,I,E,IE,SHORT I,UI,EE,SLOAN EH,ROMANIAN I,SLOAN EE,LONG I,YE,U,EU,XW,U N,LONG U,",
    "ROMANIAN U,UH,SLOAN U,OOH,OW,OU,WA,WO,WI,WEI,WOW,NASAL (U,O,I,A),PERNIN (AN,AM),SLOAN (EN,AN,",
    "ON),VOCALIC M)"]⟩,
  ⟨0x1BC70, ["DUPLOYAN AFFIX (LEFT HORIZONTAL SECANT,MID HORIZONTAL SECANT,",
    "RIGHT HORIZONTAL SECANT,LOW VERTICAL SECANT,MID VERTICAL SECANT,HIGH VERTICAL SECANT,",
    "ATTACHED (SECANT,LEFT-TO-RIGHT SECANT,TANGENT,TAIL,E HOOK,I HOOK,TANGENT HOOK))"]⟩,
  ⟨0x1BC80, ["DUPLOYAN AFFIX HIGH (ACUTE,TIGHT ACUTE,GRAVE,LONG GRAVE,DOT,CIRCLE,LINE,WAVE,",
    "VERTICAL)"]⟩,
  ⟨0x1BC90, ["DUPLOYAN AFFIX LOW (ACUTE,TIGHT ACUTE,GRAVE,LONG GRAVE,DOT,CIRCLE,LINE,WAVE,",
    "VERTICAL,ARROW)"]⟩,
  ⟨0x1BC9C, ["DUPLOYAN (SIGN O WITH CROSS,THICK LETTER SELECTOR,DOUBLE MARK,",
    "PUNCTUATION CHINOOK FULL STOP),SHORTHAND FORMAT (LETTER OVERLAP,CONTINUING OVERLAP,DOWN STEP,",
    "UP STEP)"]⟩,
  ⟨0x1CF00, ["ZNAMENNY COMBINING MARK (GORAZDO NIZKO S KRYZHEM ON LEFT,NIZKO S KRYZHEM ON LEFT,",
    "TSATA ON LEFT,GORAZDO NIZKO ON LEFT,NIZKO ON LEFT,SREDNE ON LEFT,MALO POVYSHE ON LEFT,",
    "POVYSHE ON LEFT,VYSOKO ON LEFT,MALO POVYSHE S KHOKHLOM ON LEFT,POVYSHE S KHOKHLOM ON LEFT,",
    "VYSOKO S KHOKHLOM ON LEFT,GORAZDO NIZKO S KRYZHEM ON RIGHT,NIZKO S KRYZHEM ON RIGHT,",
    "TSATA ON RIGHT,GORAZDO NIZKO ON RIGHT,NIZKO ON RIGHT,SREDNE ON RIGHT,MALO POVYSHE ON RIGHT,",
    "POVYSHE ON RIGHT,VYSOKO ON RIGHT,MALO POVYSHE S KHOKHLOM ON RIGHT,",
    "POVYSHE S KHOKHLOM ON RIGHT,VYSOKO S KHOKHLOM ON RIGHT,TSATA S KRYZHEM,",
    "MALO POVYSHE S KRYZHEM,STRANNO MALO POVYSHE,POVYSHE (S KRYZHEM,STRANNO),VYSOKO S KRYZHEM,",
    "MALO POVYSHE STRANNO,GORAZDO VYSOKO,ZELO,ON,RAVNO,TIKHAYA,BORZAYA,UDARKA,PODVERTKA,LOMKA,",
    "KUPNAYA,KACHKA,ZEVOK,SKOBA,RAZSEKA,KRYZH ON LEFT)"]⟩,
  ⟨0x1CF30, ["ZNAMENNY (COMBINING (TONAL RANGE MARK (MRACHNO,SVETLO,TRESVETLO),MARK (ZADERZHKA,",
    "DEMESTVENNY ZADERZHKA,OTSECHKA,PODCHASHIE(, WITH VERTICAL STROKE),CHASHKA(, POLNAYA),",
    "OBLACHKO,SOROCHYA NOZHKA,TOCHKA,DVOETOCHIE),ATTACHING VERTICAL OMET,MARK (CURVED OMET,KRYZH),",
    "LOWER TONAL RANGE INDICATOR),PRIZNAK MODIFIER (LEVEL-(2,3),DIRECTION FLIP,KRYZH,ROG))"]⟩,
  ⟨0x1CF50, ["ZNAMENNY NEUME (KRYUK(, TIKHY),PARAKLIT,DVA V CHELNU,KLYUCH,ZANOZHEK,STOPITSA(,",
    " S OCHKOM),PEREVODKA(, NEPOSTOYANNAYA),STOPITSA WITH SOROCHYA NOZHKA,CHELYUSTKA,PALKA,",
    "ZAPYATAYA,GOLUBCHIK (BORZY,TIKHY,MRACHNY,SVETLY,TRESVETLY),VRAKHIYA (PROSTAYA,MRACHNAYA,",
    "SVETLAYA,TRESVETLAYA,KLYUCHEVAYA (PROSTAYA,MRACHNAYA,SVETLAYA,TRESVETLAYA)),DOUBLE ZAPYATAYA,",
    "REVERSED CHELYUSTKA,DERBITSA,KHAMILO,CHASHKA,PODCHASHIE,SKAMEYTSA (MRACHNAYA,SVETLAYA,",
    "TRESVETLAYA,TIKHAYA),DEMESTVENNY KLYUCH,SKAMEYTSA (KLYUCHEVAYA SVETLAYA,",
    "KLYUCHENEPOSTOYANNAYA,KLYUCHEVAYA TIKHAYA,DVOECHELNAYA (PROSTAYA,SVETLAYA,NEPOSTOYANNAYA,",
    "KLYUCHEVAYA)),SLOZHITIE(, S ZAPYATOY, ZAKRYTOE, S KRYZHEM),KRYZH,ROG,FITA,KOBYLA,ZMEYTSA,",
    "STATYA(, (S (ZAPYATOY,KRYZHEM,ZAPYATOY I KRYZHEM,KRYZHEM I ZAPYATOY),ZAKRYTAYA(, S ZAPYATOY),",
    "S (ROGOM,DVUMYA ZAPYATYMI,ZAPYATOY I PODCHASHIEM))),POLKULIZMY,STATYA NEPOSTOYANNAYA,STRELA (",
    "PROSTAYA,MRACHNOTIKHAYA,KRYZHEVAYA,POLUPOVODNAYA,POVODNAYA,NEPOSTOYANNAYA,KLYUCHEPOVODNAYA,",
    "KLYUCHENEPOSTOYANNAYA,TIKHAYA PUTNAYA,DVOECHELNAYA,DVOECHELNOKRYZHEVAYA,DVOECHELNOPOVODNAYA,",
    "DVOECHELNAYA KLYUCHEVAYA,DVOECHELNOPOVODNAYA KLYUCHEVAYA,GROMNAYA WITH SINGLE ZAPYATAYA,",
    "GROMOPOVODNAYA WITH SINGLE ZAPYATAYA,GROMNAYA,GROMOPOVODNAYA(, WITH DOUBLE ZAPYATAYA),",
    "GROMOKRYZHEVAYA(, POVODNAYA)),MECHIK(, (POVODNY,KLYUCHEVOY,KLYUCHEPOVODNY,",
    "KLYUCHENEPOSTOYANNY)),STRELA (TRYASOGLASNAYA,TRYASOPOVODNAYA,TRYASOSTRELNAYA),OSOKA(, (",
    "SVETLAYA,TRESVETLAYA,KRYUKOVAYA SVETLAYA,KLYUCHEVAYA (SVETLAYA,NEPOSTOYANNAYA))),",
    "STRELA KRYUKOVAYA(, (POVODNAYA,GROMNAYA WITH SINGLE ZAPYATAYA,",
    "GROMOPOVODNAYA WITH SINGLE ZAPYATAYA,GROMNAYA,GROMOPOVODNAYA(, WITH DOUBLE ZAPYATAYA),",
    "GROMOKRYZHEVAYA(, POVODNAYA),TRYASKA)),KUFISMA,OBLAKO,DUDA,NEMKA,PAUK)"]⟩]

end CharacterName
end Text
end Reckoner
