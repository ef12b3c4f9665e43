import Reckoner.Text.CharacterName.Outline

/-!
# Names from U+1F680 on

The names of the characters from U+1F680 to U+E01EF, as outlines.
-/

namespace Reckoner
namespace Text
namespace CharacterName

/-- Names of the characters from U+1F680 to U+E01EF. -/
def from1F680 : List Outline := [
  ⟨0x1F680, ["ROCKET,HELICOPTER,STEAM LOCOMOTIVE,RAILWAY CAR,HIGH-SPEED TRAIN(, WITH BULLET NOSE),",
    "TRAIN,METRO,LIGHT RAIL,STATION,TRAM(, CAR),BUS,ONCOMING BUS,TROLLEYBUS,BUS STOP,MINIBUS,",
    "AMBULANCE,FIRE ENGINE,POLICE CAR,ONCOMING POLICE CAR,TAXI,ONCOMING TAXI,AUTOMOBILE,",
    "ONCOMING AUTOMOBILE,RECREATIONAL VEHICLE,DELIVERY TRUCK,ARTICULATED LORRY,TRACTOR,MONORAIL,",
    "MOUNTAIN RAILWAY,SUSPENSION RAILWAY,MOUNTAIN CABLEWAY,AERIAL TRAMWAY,SHIP,ROWBOAT,SPEEDBOAT,",
    "HORIZONTAL TRAFFIC LIGHT,VERTICAL TRAFFIC LIGHT,CONSTRUCTION SIGN,",
    "POLICE CARS REVOLVING LIGHT,TRIANGULAR FLAG ON POST,DOOR,NO ENTRY SIGN,SMOKING SYMBOL,",
    "NO SMOKING SYMBOL,PUT LITTER IN ITS PLACE SYMBOL,DO NOT LITTER SYMBOL,POTABLE WATER SYMBOL,",
    "NON-POTABLE WATER SYMBOL,BICYCLE,NO BICYCLES,BICYCLIST,MOUNTAIN BICYCLIST,PEDESTRIAN,",
    "NO PEDESTRIANS,CHILDREN CROSSING,MENS SYMBOL,WOMENS SYMBOL,RESTROOM,BABY SYMBOL,TOILET,",
    "WATER CLOSET,SHOWER,BATH,BATHTUB,PASSPORT CONTROL,CUSTOMS,BAGGAGE CLAIM,LEFT LUGGAGE,",
    "TRIANGLE WITH ROUNDED CORNERS,PROHIBITED SIGN,CIRCLED INFORMATION SOURCE,BOYS SYMBOL,",
    "GIRLS SYMBOL,COUCH AND LAMP,SLEEPING ACCOMMODATION,SHOPPING BAGS,BELLHOP BELL,BED,",
    "PLACE OF WORSHIP,OCTAGONAL SIGN,SHOPPING TROLLEY,STUPA,PAGODA,HINDU TEMPLE,HUT,ELEVATOR"]⟩,
  ⟨0x1F6DD, ["PLAYGROUND SLIDE,WHEEL,RING BUOY,HAMMER AND WRENCH,SHIELD,OIL DRUM,MOTORWAY,",
    "RAILWAY TRACK,MOTOR BOAT,UP-POINTING (MILITARY AIRPLANE,AIRPLANE,SMALL AIRPLANE),",
    "SMALL AIRPLANE,NORTHEAST-POINTING AIRPLANE,AIRPLANE (DEPARTURE,ARRIVING)"]⟩,
  ⟨0x1F6F0, ["SATELLITE,ONCOMING FIRE ENGINE,DIESEL LOCOMOTIVE,PASSENGER SHIP,SCOOTER,",
    "MOTOR SCOOTER,CANOE,SLED,FLYING SAUCER,SKATEBOARD,AUTO RICKSHAW,PICKUP TRUCK,ROLLER SKATE"]⟩,
  ⟨0x1F700, ["ALCHEMICAL SYMBOL FOR (QUINTESSENCE,AIR,FIRE,EARTH,WATER,AQUAFORTIS,AQUA (REGIA(,",
    "-2),VITAE(,-2)),VINEGAR(,-2,-3),SULFUR,PHILOSOPHERS SULFUR,BLACK SULFUR,MERCURY SUBLIMATE(,",
    "-2,-3),CINNABAR,SALT,NITRE,VITRIOL(,-2),ROCK SALT(,-2),GOLD,SILVER,IRON ORE(,-2),",
    "CROCUS OF IRON,REGULUS OF IRON,COPPER ORE,IRON-COPPER ORE,SUBLIMATE OF COPPER,",
    "CROCUS OF COPPER(,-2),COPPER ANTIMONIATE,SALT OF COPPER ANTIMONIATE,",
    "SUBLIMATE OF SALT OF COPPER,VERDIGRIS,TIN ORE,LEAD ORE,ANTIMONY ORE,SUBLIMATE OF ANTIMONY,",
    "SALT OF ANTIMONY,SUBLIMATE OF SALT OF ANTIMONY,VINEGAR OF ANTIMONY,REGULUS( OF ANTIMONY(,-2),",
    ",-2,-3,-4),ALKALI(,-2),MARCASITE,SAL-AMMONIAC,ARSENIC,REALGAR(,-2),AURIPIGMENT,BISMUTH ORE,",
    "TARTAR(,-2),QUICK LIME,BORAX(,-2,-3),ALUM,OIL,SPIRIT,TINCTURE,GUM,WAX,POWDER,CALX,TUTTY,",
    "CAPUT MORTUUM,SCEPTER OF JOVE,CADUCEUS,TRIDENT,STARRED TRIDENT,LODESTONE,SOAP,URINE,",
    "HORSE DUNG,ASHES,POT ASHES,BRICK,POWDERED BRICK,AMALGAM,STRATUM SUPER STRATUM(,-2),",
    "SUBLIMATION,PRECIPITATE,DISTILL,DISSOLVE(,-2),PURIFY,PUTREFACTION,CRUCIBLE(,-(2,3,4,5)),",
    "ALEMBIC,BATH OF (MARY,VAPOURS),RETORT,HOUR,NIGHT,DAY-NIGHT,MONTH,HALF (DRAM,OUNCE))"]⟩,
  ⟨0x1F780, ["BLACK (LEFT-POINTING ISOSCELES RIGHT TRIANGLE,UP-POINTING ISOSCELES RIGHT TRIANGLE,",
    "RIGHT-POINTING ISOSCELES RIGHT TRIANGLE,DOWN-POINTING ISOSCELES RIGHT TRIANGLE,",
    "SLIGHTLY SMALL CIRCLE),MEDIUM BOLD WHITE CIRCLE,BOLD WHITE CIRCLE,HEAVY WHITE CIRCLE,",
    "VERY HEAVY WHITE CIRCLE,EXTREMELY HEAVY WHITE CIRCLE,",
    "WHITE CIRCLE CONTAINING BLACK SMALL CIRCLE,ROUND TARGET,BLACK (TINY SQUARE,",
    "SLIGHTLY SMALL SQUARE),LIGHT WHITE SQUARE,MEDIUM WHITE SQUARE,BOLD WHITE SQUARE,",
    "HEAVY WHITE SQUARE,VERY HEAVY WHITE SQUARE,EXTREMELY HEAVY WHITE SQUARE,",
    "WHITE SQUARE CONTAINING BLACK (VERY SMALL SQUARE,MEDIUM SQUARE),SQUARE TARGET,BLACK (",
    "TINY DIAMOND,VERY SMALL DIAMOND,MEDIUM SMALL DIAMOND),WHITE DIAMOND CONTAINING BLACK (",
    "VERY SMALL DIAMOND,MEDIUM DIAMOND),DIAMOND TARGET,BLACK (TINY LOZENGE,VERY SMALL LOZENGE,",
    "MEDIUM SMALL LOZENGE),WHITE LOZENGE CONTAINING BLACK SMALL LOZENGE,THIN GREEK CROSS,",
    "LIGHT GREEK CROSS,MEDIUM GREEK CROSS,BOLD GREEK CROSS,VERY (BOLD GREEK CROSS,",
    "HEAVY GREEK CROSS),EXTREMELY HEAVY GREEK CROSS,THIN SALTIRE,LIGHT SALTIRE,MEDIUM SALTIRE,",
    "BOLD SALTIRE,HEAVY SALTIRE,VERY HEAVY SALTIRE,EXTREMELY HEAVY SALTIRE,",
    "LIGHT FIVE SPOKED ASTERISK,MEDIUM FIVE SPOKED ASTERISK,BOLD FIVE SPOKED ASTERISK,",
    "HEAVY FIVE SPOKED ASTERISK,VERY HEAVY FIVE SPOKED ASTERISK,",
    "EXTREMELY HEAVY FIVE SPOKED ASTERISK,LIGHT SIX SPOKED ASTERISK,MEDIUM SIX SPOKED ASTERISK,",
    "BOLD SIX SPOKED ASTERISK,HEAVY SIX SPOKED ASTERISK,VERY HEAVY SIX SPOKED ASTERISK,",
    "EXTREMELY HEAVY SIX SPOKED ASTERISK,LIGHT EIGHT SPOKED ASTERISK,MEDIUM EIGHT SPOKED ASTERISK,",
    "BOLD EIGHT SPOKED ASTERISK,HEAVY EIGHT SPOKED ASTERISK,VERY HEAVY EIGHT SPOKED ASTERISK,",
    "LIGHT THREE POINTED BLACK STAR,MEDIUM THREE POINTED BLACK STAR,THREE POINTED BLACK STAR,",
    "MEDIUM THREE POINTED PINWHEEL STAR,LIGHT FOUR POINTED BLACK STAR,",
    "MEDIUM FOUR POINTED BLACK STAR,FOUR POINTED BLACK STAR,MEDIUM FOUR POINTED PINWHEEL STAR,",
    "REVERSE LIGHT FOUR POINTED PINWHEEL STAR,LIGHT FIVE POINTED BLACK STAR,",
    "HEAVY FIVE POINTED BLACK STAR,MEDIUM SIX POINTED BLACK STAR,HEAVY SIX POINTED BLACK STAR,",
    "SIX POINTED PINWHEEL STAR,MEDIUM EIGHT POINTED BLACK STAR,HEAVY EIGHT POINTED BLACK STAR,",
    "VERY HEAVY EIGHT POINTED BLACK STAR,HEAVY EIGHT POINTED PINWHEEL STAR,",
    "LIGHT TWELVE POINTED BLACK STAR,HEAVY TWELVE POINTED (BLACK STAR,PINWHEEL STAR),",
    "CIRCLED TRIANGLE,NEGATIVE CIRCLED TRIANGLE,CIRCLED SQUARE,NEGATIVE CIRCLED SQUARE"]⟩,
  ⟨0x1F7E0, ["LARGE (ORANGE CIRCLE,YELLOW CIRCLE,GREEN CIRCLE,PURPLE CIRCLE,BROWN CIRCLE,",
    "RED SQUARE,BLUE SQUARE,ORANGE SQUARE,YELLOW SQUARE,GREEN SQUARE,PURPLE SQUARE,BROWN SQUARE)"]⟩,
  ⟨0x1F7F0, ["HEAVY EQUALS SIGN"]⟩,
  ⟨0x1F800, ["LEFTWARDS ARROW WITH SMALL TRIANGLE ARROWHEAD,",
    "UPWARDS ARROW WITH SMALL TRIANGLE ARROWHEAD,RIGHTWARDS ARROW WITH SMALL TRIANGLE ARROWHEAD,",
    "DOWNWARDS ARROW WITH SMALL TRIANGLE ARROWHEAD,LEFTWARDS ARROW WITH MEDIUM TRIANGLE ARROWHEAD,",
    "UPWARDS ARROW WITH MEDIUM TRIANGLE ARROWHEAD,RIGHTWARDS ARROW WITH MEDIUM TRIANGLE ARROWHEAD,",
    "DOWNWARDS ARROW WITH MEDIUM TRIANGLE ARROWHEAD,LEFTWARDS ARROW WITH LARGE TRIANGLE ARROWHEAD,",
    "UPWARDS ARROW WITH LARGE TRIANGLE ARROWHEAD,RIGHTWARDS ARROW WITH LARGE TRIANGLE ARROWHEAD,",
    "DOWNWARDS ARROW WITH LARGE TRIANGLE ARROWHEAD"]⟩,
  ⟨0x1F810, ["LEFTWARDS ARROW WITH SMALL EQUILATERAL ARROWHEAD,",
    "UPWARDS ARROW WITH SMALL EQUILATERAL ARROWHEAD,",
    "RIGHTWARDS ARROW WITH SMALL EQUILATERAL ARROWHEAD,",
    "DOWNWARDS ARROW WITH SMALL EQUILATERAL ARROWHEAD,LEFTWARDS ARROW WITH EQUILATERAL ARROWHEAD,",
    "UPWARDS ARROW WITH EQUILATERAL ARROWHEAD,RIGHTWARDS ARROW WITH EQUILATERAL ARROWHEAD,",
    "DOWNWARDS ARROW WITH EQUILATERAL ARROWHEAD,HEAVY (LEFTWARDS ARROW WITH EQUILATERAL ARROWHEAD,",
    "UPWARDS ARROW WITH EQUILATERAL ARROWHEAD,RIGHTWARDS ARROW WITH EQUILATERAL ARROWHEAD,",
    "DOWNWARDS ARROW WITH EQUILATERAL ARROWHEAD,LEFTWARDS ARROW WITH LARGE EQUILATERAL ARROWHEAD,",
    "UPWARDS ARROW WITH LARGE EQUILATERAL ARROWHEAD,",
    "RIGHTWARDS ARROW WITH LARGE EQUILATERAL ARROWHEAD,",
    "DOWNWARDS ARROW WITH LARGE EQUILATERAL ARROWHEAD),",
    "LEFTWARDS TRIANGLE-HEADED ARROW WITH NARROW SHAFT,",
    "UPWARDS TRIANGLE-HEADED ARROW WITH NARROW SHAFT,",
    "RIGHTWARDS TRIANGLE-HEADED ARROW WITH NARROW SHAFT,",
    "DOWNWARDS TRIANGLE-HEADED ARROW WITH NARROW SHAFT,",
    "LEFTWARDS TRIANGLE-HEADED ARROW WITH MEDIUM SHAFT,",
    "UPWARDS TRIANGLE-HEADED ARROW WITH MEDIUM SHAFT,",
    "RIGHTWARDS TRIANGLE-HEADED ARROW WITH MEDIUM SHAFT,",
    "DOWNWARDS TRIANGLE-HEADED ARROW WITH MEDIUM SHAFT,",
    "LEFTWARDS TRIANGLE-HEADED ARROW WITH BOLD SHAFT,",
    "UPWARDS TRIANGLE-HEADED ARROW WITH BOLD SHAFT,",
    "RIGHTWARDS TRIANGLE-HEADED ARROW WITH BOLD SHAFT,",
    "DOWNWARDS TRIANGLE-HEADED ARROW WITH BOLD SHAFT,",
    "LEFTWARDS TRIANGLE-HEADED ARROW WITH HEAVY SHAFT,",
    "UPWARDS TRIANGLE-HEADED ARROW WITH HEAVY SHAFT,",
    "RIGHTWARDS TRIANGLE-HEADED ARROW WITH HEAVY SHAFT,",
    "DOWNWARDS TRIANGLE-HEADED ARROW WITH HEAVY SHAFT,",
    "LEFTWARDS TRIANGLE-HEADED ARROW WITH VERY HEAVY SHAFT,",
    "UPWARDS TRIANGLE-HEADED ARROW WITH VERY HEAVY SHAFT,",
    "RIGHTWARDS TRIANGLE-HEADED ARROW WITH VERY HEAVY SHAFT,",
    "DOWNWARDS TRIANGLE-HEADED ARROW WITH VERY HEAVY SHAFT,LEFTWARDS FINGER-POST ARROW,",
    "UPWARDS FINGER-POST ARROW,RIGHTWARDS FINGER-POST ARROW,DOWNWARDS FINGER-POST ARROW,",
    "LEFTWARDS SQUARED ARROW,UPWARDS SQUARED ARROW,RIGHTWARDS SQUARED ARROW,",
    "DOWNWARDS SQUARED ARROW,LEFTWARDS COMPRESSED ARROW,UPWARDS COMPRESSED ARROW,",
    "RIGHTWARDS COMPRESSED ARROW,DOWNWARDS COMPRESSED ARROW,LEFTWARDS HEAVY COMPRESSED ARROW,",
    "UPWARDS HEAVY COMPRESSED ARROW,RIGHTWARDS HEAVY COMPRESSED ARROW,",
    "DOWNWARDS HEAVY COMPRESSED ARROW,LEFTWARDS HEAVY ARROW,UPWARDS HEAVY ARROW,",
    "RIGHTWARDS HEAVY ARROW,DOWNWARDS HEAVY ARROW"]⟩,
  ⟨0x1F850, ["LEFTWARDS SANS-SERIF ARROW,UPWARDS SANS-SERIF ARROW,RIGHTWARDS SANS-SERIF ARROW,",
    "DOWNWARDS SANS-SERIF ARROW,NORTH (WEST SANS-SERIF ARROW,EAST SANS-SERIF ARROW),SOUTH (",
    "EAST SANS-SERIF ARROW,WEST SANS-SERIF ARROW),LEFT RIGHT SANS-SERIF ARROW,",
    "UP DOWN SANS-SERIF ARROW"]⟩,
  ⟨0x1F860, ["WIDE-HEADED (LEFTWARDS LIGHT BARB ARROW,UPWARDS LIGHT BARB ARROW,",
    "RIGHTWARDS LIGHT BARB ARROW,DOWNWARDS LIGHT BARB ARROW,NORTH (WEST LIGHT BARB ARROW,",
    "EAST LIGHT BARB ARROW),SOUTH (EAST LIGHT BARB ARROW,WEST LIGHT BARB ARROW),",
    "LEFTWARDS BARB ARROW,UPWARDS BARB ARROW,RIGHTWARDS BARB ARROW,DOWNWARDS BARB ARROW,NORTH (",
    "WEST BARB ARROW,EAST BARB ARROW),SOUTH (EAST BARB ARROW,WEST BARB ARROW),",
    "LEFTWARDS MEDIUM BARB ARROW,UPWARDS MEDIUM BARB ARROW,RIGHTWARDS MEDIUM BARB ARROW,",
    "DOWNWARDS MEDIUM BARB ARROW,NORTH (WEST MEDIUM BARB ARROW,EAST MEDIUM BARB ARROW),SOUTH (",
    "EAST MEDIUM BARB ARROW,WEST MEDIUM BARB ARROW),LEFTWARDS HEAVY BARB ARROW,",
    "UPWARDS HEAVY BARB ARROW,RIGHTWARDS HEAVY BARB ARROW,DOWNWARDS HEAVY BARB ARROW,NORTH (",
    "WEST HEAVY BARB ARROW,EAST HEAVY BARB ARROW),SOUTH (EAST HEAVY BARB ARROW,",
    "WEST HEAVY BARB ARROW),LEFTWARDS VERY HEAVY BARB ARROW,UPWARDS VERY HEAVY BARB ARROW,",
    "RIGHTWARDS VERY HEAVY BARB ARROW,DOWNWARDS VERY HEAVY BARB ARROW,NORTH (",
    "WEST VERY HEAVY BARB ARROW,EAST VERY HEAVY BARB ARROW),SOUTH (EAST VERY HEAVY BARB ARROW,",
    "WEST VERY HEAVY BARB ARROW))"]⟩,
  ⟨0x1F890, ["LEFTWARDS TRIANGLE ARROWHEAD,UPWARDS TRIANGLE ARROWHEAD,",
    "RIGHTWARDS TRIANGLE ARROWHEAD,DOWNWARDS TRIANGLE ARROWHEAD,",
    "LEFTWARDS WHITE ARROW WITHIN TRIANGLE ARROWHEAD,",
    "UPWARDS WHITE ARROW WITHIN TRIANGLE ARROWHEAD,",
    "RIGHTWARDS WHITE ARROW WITHIN TRIANGLE ARROWHEAD,",
    "DOWNWARDS WHITE ARROW WITHIN TRIANGLE ARROWHEAD,LEFTWARDS ARROW WITH NOTCHED TAIL,",
    "UPWARDS ARROW WITH NOTCHED TAIL,RIGHTWARDS ARROW WITH NOTCHED TAIL,",
    "DOWNWARDS ARROW WITH NOTCHED TAIL,HEAVY ARROW SHAFT WIDTH (ONE,TWO THIRDS,ONE (HALF,THIRD)),",
    "LEFTWARDS BOTTOM-SHADED WHITE ARROW,RIGHTWARDS BOTTOM SHADED WHITE ARROW,",
    "LEFTWARDS TOP SHADED WHITE ARROW,RIGHTWARDS TOP SHADED WHITE ARROW,",
    "LEFTWARDS LEFT-SHADED WHITE ARROW,RIGHTWARDS RIGHT-SHADED WHITE ARROW,",
    "LEFTWARDS RIGHT-SHADED WHITE ARROW,RIGHTWARDS LEFT-SHADED WHITE ARROW,",
    "LEFTWARDS BACK-TILTED SHADOWED WHITE ARROW,RIGHTWARDS BACK-TILTED SHADOWED WHITE ARROW,",
    "LEFTWARDS FRONT-TILTED SHADOWED WHITE ARROW,RIGHTWARDS FRONT-TILTED SHADOWED WHITE ARROW,",
    "WHITE ARROW SHAFT WIDTH (ONE,TWO THIRDS)"]⟩,
  ⟨0x1F8B0, ["ARROW POINTING (UPWARDS THEN NORTH WEST,RIGHTWARDS THEN CURVING SOUTH WEST)"]⟩,
  ⟨0x1F900, ["CIRCLED CROSS FORMEE( WITH (FOUR DOTS,TWO DOTS),),LEFT HALF CIRCLE( WITH (FOUR DOTS,",
    "THREE DOTS,TWO DOTS,DOT),),DOWNWARD FACING (HOOK,NOTCHED HOOK,HOOK WITH DOT,",
    "NOTCHED HOOK WITH DOT),PINCHED FINGERS,WHITE HEART,BROWN HEART,PINCHING HAND,",
    "ZIPPER-MOUTH FACE,MONEY-MOUTH FACE,FACE WITH THERMOMETER,NERD FACE,THINKING FACE,",
    "FACE WITH HEAD-BANDAGE,ROBOT FACE,HUGGING FACE,SIGN OF THE HORNS,CALL ME HAND,",
    "RAISED BACK OF HAND,LEFT-FACING FIST,RIGHT-FACING FIST,HANDSHAKE,",
    "HAND WITH INDEX AND MIDDLE FINGERS CROSSED,I LOVE YOU HAND SIGN,FACE WITH COWBOY HAT,",
    "CLOWN FACE,NAUSEATED FACE,ROLLING ON THE FLOOR LAUGHING,DROOLING FACE,LYING FACE,FACE PALM,",
    "SNEEZING FACE,FACE WITH ONE EYEBROW RAISED,GRINNING FACE WITH (STAR EYES,",
    "ONE LARGE AND ONE SMALL EYE),FACE WITH FINGER COVERING CLOSED LIPS,",
    "SERIOUS FACE WITH SYMBOLS COVERING MOUTH,",
    "SMILING FACE WITH SMILING EYES AND HAND COVERING MOUTH,FACE WITH OPEN MOUTH VOMITING,",
    "SHOCKED FACE WITH EXPLODING HEAD,PREGNANT WOMAN,BREAST-FEEDING,PALMS UP TOGETHER,SELFIE,",
    "PRINCE,MAN IN TUXEDO,MOTHER CHRISTMAS,SHRUG,PERSON DOING CARTWHEEL,JUGGLING,FENCER,",
    "MODERN PENTATHLON,WRESTLERS,WATER POLO,HANDBALL,DIVING MASK,WILTED FLOWER,",
    "DRUM WITH DRUMSTICKS,CLINKING GLASSES,TUMBLER GLASS,SPOON,GOAL NET,RIFLE,FIRST PLACE MEDAL,",
    "SECOND PLACE MEDAL,THIRD PLACE MEDAL,BOXING GLOVE,MARTIAL ARTS UNIFORM,CURLING STONE,",
    "LACROSSE STICK AND BALL,SOFTBALL,FLYING DISC,CROISSANT,AVOCADO,CUCUMBER,BACON,POTATO,CARROT,",
    "BAGUETTE BREAD,GREEN SALAD,SHALLOW PAN OF FOOD,STUFFED FLATBREAD,EGG,GLASS OF MILK,PEANUTS,",
    "KIWIFRUIT,PANCAKES,DUMPLING,FORTUNE COOKIE,TAKEOUT BOX,CHOPSTICKS,BOWL WITH SPOON,",
    "CUP WITH STRAW,COCONUT,BROCCOLI,PIE,PRETZEL,CUT OF MEAT,SANDWICH,CANNED FOOD,LEAFY GREEN,",
    "MANGO,MOON CAKE,BAGEL,SMILING FACE WITH SMILING EYES AND THREE HEARTS,YAWNING FACE,",
    "SMILING FACE WITH TEAR,FACE WITH (PARTY HORN AND PARTY HAT,UNEVEN EYES AND WAVY MOUTH),",
    "OVERHEATED FACE,FREEZING FACE,NINJA,DISGUISED FACE,FACE (HOLDING BACK TEARS,",
    "WITH PLEADING EYES),SARI,LAB COAT,GOGGLES,HIKING BOOT,FLAT SHOE,CRAB,LION FACE,SCORPION,",
    "TURKEY,UNICORN FACE,EAGLE,DUCK,BAT,SHARK,OWL,FOX FACE,BUTTERFLY,DEER,GORILLA,LIZARD,",
    "RHINOCEROS,SHRIMP,SQUID,GIRAFFE FACE,ZEBRA FACE,HEDGEHOG,SAUROPOD,T-REX,CRICKET,KANGAROO,",
    "LLAMA,PEACOCK,HIPPOPOTAMUS,PARROT,RACCOON,LOBSTER,MOSQUITO,MICROBE,BADGER,SWAN,MAMMOTH,DODO,",
    "SLOTH,OTTER,ORANGUTAN,SKUNK,FLAMINGO,OYSTER,BEAVER,BISON,SEAL,GUIDE DOG,PROBING CANE,",
    "EMOJI COMPONENT (RED HAIR,CURLY HAIR,BALD,WHITE HAIR),BONE,LEG,FOOT,TOOTH,SUPERHERO,",
    "SUPERVILLAIN,SAFETY VEST,EAR WITH HEARING AID,MOTORIZED WHEELCHAIR,MANUAL WHEELCHAIR,",
    "MECHANICAL (ARM,LEG),CHEESE WEDGE,CUPCAKE,SALT SHAKER,BEVERAGE BOX,GARLIC,ONION,FALAFEL,",
    "WAFFLE,BUTTER,MATE DRINK,ICE CUBE,BUBBLE TEA,TROLL,STANDING PERSON,KNEELING PERSON,",
    "DEAF PERSON,FACE WITH MONOCLE,ADULT,CHILD,OLDER ADULT,BEARDED PERSON,PERSON (WITH HEADSCARF,",
    "IN STEAMY ROOM,CLIMBING,IN LOTUS POSITION),MAGE,FAIRY,VAMPIRE,MERPERSON,ELF,GENIE,ZOMBIE,",
    "BRAIN,ORANGE HEART,BILLED CAP,SCARF,GLOVES,COAT,SOCKS,RED GIFT ENVELOPE,FIRECRACKER,",
    "JIGSAW PUZZLE PIECE,TEST TUBE,PETRI DISH,DNA DOUBLE HELIX,COMPASS,ABACUS,FIRE EXTINGUISHER,",
    "TOOLBOX,BRICK,MAGNET,LUGGAGE,LOTION BOTTLE,SPOOL OF THREAD,BALL OF YARN,SAFETY PIN,",
    "TEDDY BEAR,BROOM,BASKET,ROLL OF PAPER,BAR OF SOAP,SPONGE,RECEIPT,NAZAR AMULET,NEUTRAL CHESS (",
    "KING,QUEEN,ROOK,BISHOP,KNIGHT,PAWN),WHITE CHESS KNIGHT ROTATED FORTY-FIVE DEGREES,",
    "BLACK CHESS KNIGHT ROTATED FORTY-FIVE DEGREES,",
    "NEUTRAL CHESS KNIGHT ROTATED FORTY-FIVE DEGREES,WHITE CHESS (KING ROTATED NINETY DEGREES,",
    "QUEEN ROTATED NINETY DEGREES,ROOK ROTATED NINETY DEGREES,BISHOP ROTATED NINETY DEGREES,",
    "KNIGHT ROTATED NINETY DEGREES,PAWN ROTATED NINETY DEGREES),BLACK CHESS (",
    "KING ROTATED NINETY DEGREES,QUEEN ROTATED NINETY DEGREES,ROOK ROTATED NINETY DEGREES,",
    "BISHOP ROTATED NINETY DEGREES,KNIGHT ROTATED NINETY DEGREES,PAWN ROTATED NINETY DEGREES),",
    "NEUTRAL CHESS (KING ROTATED NINETY DEGREES,QUEEN ROTATED NINETY DEGREES,",
    "ROOK ROTATED NINETY DEGREES,BISHOP ROTATED NINETY DEGREES,KNIGHT ROTATED NINETY DEGREES,",
    "PAWN ROTATED NINETY DEGREES),WHITE CHESS KNIGHT ROTATED ONE HUNDRED THIRTY-FIVE DEGREES,",
    "BLACK CHESS KNIGHT ROTATED ONE HUNDRED THIRTY-FIVE DEGREES,",
    "NEUTRAL CHESS KNIGHT ROTATED ONE HUNDRED THIRTY-FIVE DEGREES,WHITE CHESS TURNED (KING,QUEEN,",
    "ROOK,BISHOP,KNIGHT,PAWN),BLACK CHESS TURNED (KING,QUEEN,ROOK,BISHOP,KNIGHT,PAWN),",
    "NEUTRAL CHESS TURNED (KING,QUEEN,ROOK,BISHOP,KNIGHT,PAWN),",
    "WHITE CHESS KNIGHT ROTATED TWO HUNDRED TWENTY-FIVE DEGREES,",
    "BLACK CHESS KNIGHT ROTATED TWO HUNDRED TWENTY-FIVE DEGREES,",
    "NEUTRAL CHESS KNIGHT ROTATED TWO HUNDRED TWENTY-FIVE DEGREES,WHITE CHESS (",
    "KING ROTATED TWO HUNDRED SEVENTY DEGREES,QUEEN ROTATED TWO HUNDRED SEVENTY DEGREES,",
    "ROOK ROTATED TWO HUNDRED SEVENTY DEGREES,BISHOP ROTATED TWO HUNDRED SEVENTY DEGREES,",
    "KNIGHT ROTATED TWO HUNDRED SEVENTY DEGREES,PAWN ROTATED TWO HUNDRED SEVENTY DEGREES),",
    "BLACK CHESS (KING ROTATED TWO HUNDRED SEVENTY DEGREES,",
    "QUEEN ROTATED TWO HUNDRED SEVENTY DEGREES,ROOK ROTATED TWO HUNDRED SEVENTY DEGREES,",
    "BISHOP ROTATED TWO HUNDRED SEVENTY DEGREES,KNIGHT ROTATED TWO HUNDRED SEVENTY DEGREES,",
    "PAWN ROTATED TWO HUNDRED SEVENTY DEGREES),NEUTRAL CHESS (",
    "KING ROTATED TWO HUNDRED SEVENTY DEGREES,QUEEN ROTATED TWO HUNDRED SEVENTY DEGREES,",
    "ROOK ROTATED TWO HUNDRED SEVENTY DEGREES,BISHOP ROTATED TWO HUNDRED SEVENTY DEGREES,",
    "KNIGHT ROTATED TWO HUNDRED SEVENTY DEGREES,PAWN ROTATED TWO HUNDRED SEVENTY DEGREES),",
    "WHITE CHESS KNIGHT ROTATED THREE HUNDRED FIFTEEN DEGREES,",
    "BLACK CHESS KNIGHT ROTATED THREE HUNDRED FIFTEEN DEGREES,",
    "NEUTRAL CHESS KNIGHT ROTATED THREE HUNDRED FIFTEEN DEGREES,WHITE CHESS EQUIHOPPER,",
    "BLACK CHESS EQUIHOPPER,NEUTRAL CHESS EQUIHOPPER,",
    "WHITE CHESS EQUIHOPPER ROTATED NINETY DEGREES,BLACK CHESS EQUIHOPPER ROTATED NINETY DEGREES,",
    "NEUTRAL CHESS EQUIHOPPER ROTATED NINETY DEGREES,WHITE CHESS KNIGHT-(QUEEN,ROOK,BISHOP),",
    "BLACK CHESS KNIGHT-(QUEEN,ROOK,BISHOP)"]⟩,
  ⟨0x1FA60, ["XIANGQI (RED (GENERAL,MANDARIN,ELEPHANT,HORSE,CHARIOT,CANNON,SOLDIER),BLACK (",
    "GENERAL,MANDARIN,ELEPHANT,HORSE,CHARIOT,CANNON,SOLDIER))"]⟩,
  ⟨0x1FA70, ["BALLET SHOES,ONE-PIECE SWIMSUIT,BRIEFS,SHORTS,THONG SANDAL"]⟩,
  ⟨0x1FA78, ["DROP OF BLOOD,ADHESIVE BANDAGE,STETHOSCOPE,X-RAY,CRUTCH"]⟩,
  ⟨0x1FA80, ["YO-YO,KITE,PARACHUTE,BOOMERANG,MAGIC WAND,PINATA,NESTING DOLLS"]⟩,
  ⟨0x1FA90, ["RINGED PLANET,CHAIR,RAZOR,AXE,DIYA LAMP,BANJO,MILITARY HELMET,ACCORDION,LONG DRUM,",
    "COIN,CARPENTRY SAW,SCREWDRIVER,LADDER,HOOK,MIRROR,WINDOW,PLUNGER,SEWING NEEDLE,KNOT,BUCKET,",
    "MOUSE TRAP,TOOTHBRUSH,HEADSTONE,PLACARD,ROCK,MIRROR BALL,IDENTIFICATION CARD,LOW BATTERY,",
    "HAMSA"]⟩,
  ⟨0x1FAB0, ["FLY,WORM,BEETLE,COCKROACH,POTTED PLANT,WOOD,FEATHER,LOTUS,CORAL,EMPTY NEST,",
    "NEST WITH EGGS"]⟩,
  ⟨0x1FAC0, ["ANATOMICAL HEART,LUNGS,PEOPLE HUGGING,PREGNANT (MAN,PERSON),PERSON WITH CROWN"]⟩,
  ⟨0x1FAD0, ["BLUEBERRIES,BELL PEPPER,OLIVE,FLATBREAD,TAMALE,FONDUE,TEAPOT,POURING LIQUID,BEANS,",
    "JAR"]⟩,
  ⟨0x1FAE0, ["MELTING FACE,SALUTING FACE,FACE WITH (OPEN EYES AND HAND OVER MOUTH,PEEKING EYE,",
    "DIAGONAL MOUTH),DOTTED LINE FACE,BITING LIP,BUBBLES"]⟩,
  ⟨0x1FAF0, ["HAND WITH INDEX FINGER AND THUMB CROSSED,RIGHTWARDS HAND,LEFTWARDS HAND,PALM (",
    "DOWN HAND,UP HAND),INDEX POINTING AT THE VIEWER,HEART HANDS"]⟩,
  ⟨0x1FB00, ["BLOCK SEXTANT-(1,2,12,3,13,23,123,4,14,24,124,34,134,234,1234,5,15,25,125,35,235,",
    "1235,45,145,245,1245,345,1345,2345,12345,6,16,26,126,36,136,236,1236,46,146,1246,346,1346,",
    "2346,12346,56,156,256,1256,356,1356,2356,12356,456,1456,2456,12456,3456,13456,23456),LOWER (",
    "LEFT BLOCK DIAGONAL (LOWER MIDDLE LEFT TO LOWER (CENTRE,RIGHT),UPPER (MIDDLE LEFT TO LOWER (",
    "CENTRE,RIGHT),LEFT TO LOWER CENTRE)),RIGHT BLOCK DIAGONAL (UPPER MIDDLE LEFT TO UPPER (",
    "CENTRE,RIGHT),LOWER (MIDDLE LEFT TO UPPER (CENTRE,RIGHT),LEFT TO UPPER CENTRE,",
    "MIDDLE LEFT TO UPPER MIDDLE RIGHT,CENTRE TO LOWER MIDDLE RIGHT,LEFT TO LOWER MIDDLE RIGHT,",
    "CENTRE TO UPPER MIDDLE RIGHT,LEFT TO UPPER MIDDLE RIGHT,CENTRE TO UPPER RIGHT)),",
    "LEFT BLOCK DIAGONAL UPPER (CENTRE TO UPPER MIDDLE RIGHT,LEFT TO UPPER MIDDLE RIGHT,",
    "CENTRE TO LOWER MIDDLE RIGHT,LEFT TO LOWER MIDDLE RIGHT,CENTRE TO LOWER RIGHT,",
    "MIDDLE LEFT TO LOWER MIDDLE RIGHT)),UPPER (RIGHT BLOCK DIAGONAL (LOWER MIDDLE LEFT TO LOWER (",
    "CENTRE,RIGHT),UPPER (MIDDLE LEFT TO LOWER (CENTRE,RIGHT),LEFT TO LOWER CENTRE)),",
    "LEFT BLOCK DIAGONAL (UPPER MIDDLE LEFT TO UPPER (CENTRE,RIGHT),LOWER (MIDDLE LEFT TO UPPER (",
    "CENTRE,RIGHT),LEFT TO UPPER CENTRE,MIDDLE LEFT TO UPPER MIDDLE RIGHT,",
    "CENTRE TO LOWER MIDDLE RIGHT,LEFT TO LOWER MIDDLE RIGHT,CENTRE TO UPPER MIDDLE RIGHT,",
    "LEFT TO UPPER MIDDLE RIGHT,CENTRE TO UPPER RIGHT)),RIGHT BLOCK DIAGONAL UPPER (",
    "CENTRE TO UPPER MIDDLE RIGHT,LEFT TO UPPER MIDDLE RIGHT,CENTRE TO LOWER MIDDLE RIGHT,",
    "LEFT TO LOWER MIDDLE RIGHT,CENTRE TO LOWER RIGHT,MIDDLE LEFT TO LOWER MIDDLE RIGHT),",
    "AND RIGHT AND LOWER TRIANGULAR THREE QUARTERS BLOCK),",
    "LEFT AND LOWER AND RIGHT TRIANGULAR THREE QUARTERS BLOCK,",
    "UPPER AND LEFT AND LOWER TRIANGULAR THREE QUARTERS BLOCK,LEFT (",
    "AND UPPER AND RIGHT TRIANGULAR THREE QUARTERS BLOCK,TRIANGULAR ONE QUARTER BLOCK),",
    "UPPER TRIANGULAR ONE QUARTER BLOCK,RIGHT TRIANGULAR ONE QUARTER BLOCK,",
    "LOWER TRIANGULAR ONE QUARTER BLOCK,VERTICAL ONE EIGHTH BLOCK-(2,3,4,5,6,7),",
    "HORIZONTAL ONE EIGHTH BLOCK-(2,3,4,5,6,7),LEFT AND (LOWER ONE EIGHTH BLOCK,",
    "UPPER ONE EIGHTH BLOCK),RIGHT AND (UPPER ONE EIGHTH BLOCK,LOWER ONE EIGHTH BLOCK),",
    "UPPER AND LOWER ONE EIGHTH BLOCK,HORIZONTAL ONE EIGHTH BLOCK-1358,UPPER (ONE QUARTER BLOCK,",
    "THREE EIGHTHS BLOCK,FIVE EIGHTHS BLOCK,THREE QUARTERS BLOCK,SEVEN EIGHTHS BLOCK),RIGHT (",
    "ONE QUARTER BLOCK,THREE EIGHTHS BLOCK,FIVE EIGHTHS BLOCK,THREE QUARTERS BLOCK,",
    "SEVEN EIGHTHS BLOCK),LEFT HALF MEDIUM SHADE,RIGHT HALF MEDIUM SHADE,UPPER HALF MEDIUM SHADE,",
    "LOWER HALF MEDIUM SHADE,INVERSE MEDIUM SHADE,UPPER HALF (",
    "BLOCK AND LOWER HALF INVERSE MEDIUM SHADE,INVERSE MEDIUM SHADE AND LOWER HALF BLOCK)"]⟩,
  ⟨0x1FB94, ["LEFT HALF INVERSE MEDIUM SHADE AND RIGHT HALF BLOCK,CHECKER BOARD FILL,",
    "INVERSE CHECKER BOARD FILL,HEAVY HORIZONTAL FILL,UPPER (LEFT TO LOWER RIGHT FILL,",
    "RIGHT TO LOWER LEFT FILL,AND LOWER TRIANGULAR HALF BLOCK),",
    "LEFT AND RIGHT TRIANGULAR HALF BLOCK,UPPER (LEFT TRIANGULAR MEDIUM SHADE,",
    "RIGHT TRIANGULAR MEDIUM SHADE),LOWER (RIGHT TRIANGULAR MEDIUM SHADE,",
    "LEFT TRIANGULAR MEDIUM SHADE),BOX DRAWINGS LIGHT (DIAGONAL (UPPER CENTRE TO MIDDLE (LEFT,",
    "RIGHT),MIDDLE (LEFT TO LOWER CENTRE,RIGHT TO LOWER CENTRE),UPPER CENTRE TO MIDDLE (",
    "LEFT TO LOWER CENTRE,RIGHT TO LOWER CENTRE),MIDDLE LEFT TO (LOWER CENTRE TO MIDDLE RIGHT,",
    "UPPER CENTRE TO MIDDLE RIGHT),UPPER CENTRE TO MIDDLE (LEFT AND MIDDLE RIGHT TO LOWER CENTRE,",
    "RIGHT (AND MIDDLE LEFT TO LOWER CENTRE,TO LOWER CENTRE TO MIDDLE LEFT),",
    "LEFT TO LOWER CENTRE TO MIDDLE RIGHT),MIDDLE (",
    "LEFT TO UPPER CENTRE TO MIDDLE RIGHT TO LOWER CENTRE,",
    "RIGHT TO UPPER CENTRE TO MIDDLE LEFT TO LOWER CENTRE),DIAMOND),",
    "HORIZONTAL WITH VERTICAL STROKE),ARROWHEAD-SHAPED POINTER,INVERSE CHECK MARK,",
    "LEFT HALF RUNNING MAN,RIGHT HALF RUNNING MAN,INVERSE DOWNWARDS ARROW WITH TIP LEFTWARDS,",
    "LEFTWARDS ARROW AND UPPER AND LOWER ONE EIGHTH BLOCK,",
    "RIGHTWARDS ARROW AND UPPER AND LOWER ONE EIGHTH BLOCK,",
    "DOWNWARDS ARROW AND RIGHT ONE EIGHTH BLOCK,UPWARDS ARROW AND RIGHT ONE EIGHTH BLOCK,",
    "LEFT HALF FOLDER,RIGHT HALF FOLDER,VOIDED GREEK CROSS,RIGHT OPEN SQUARED DOT,",
    "NEGATIVE DIAGONAL (CROSS,MIDDLE RIGHT TO LOWER CENTRE,DIAMOND),",
    "WHITE HEAVY SALTIRE WITH ROUNDED CORNERS,LEFT THIRD WHITE RIGHT POINTING INDEX,",
    "MIDDLE THIRD WHITE RIGHT POINTING INDEX,RIGHT THIRD WHITE RIGHT POINTING INDEX,",
    "NEGATIVE SQUARED QUESTION MARK,STICK FIGURE(, (WITH ARMS RAISED,LEANING (LEFT,RIGHT),",
    "WITH DRESS)),WHITE UP-POINTING CHEVRON"]⟩,
  ⟨0x1FBF0, ["SEGMENTED DIGIT (ZERO,ONE,TWO,THREE,FOUR,FIVE,SIX,SEVEN,EIGHT,NINE)"]⟩,
  ⟨0xE0001, ["LANGUAGE TAG"]⟩,
  ⟨0xE0020, ["TAG (SPACE,EXCLAMATION MARK,QUOTATION MARK,NUMBER SIGN,DOLLAR SIGN,PERCENT SIGN,",
    "AMPERSAND,APOSTROPHE,LEFT PARENTHESIS,RIGHT PARENTHESIS,ASTERISK,PLUS SIGN,COMMA,",
    "HYPHEN-MINUS,FULL STOP,SOLIDUS,DIGIT (ZERO,ONE,TWO,THREE,FOUR,FIVE,SIX,SEVEN,EIGHT,NINE),",
    "COLON,SEMICOLON,LESS-THAN SIGN,EQUALS SIGN,GREATER-THAN SIGN,QUESTION MARK,COMMERCIAL AT,",
    "LATIN CAPITAL LETTER (A,B,C,D,E,F,G,H,I,J,K,L,M,N,O,P,Q,R,S,T,U,V,W,X,Y,Z),",
    "LEFT SQUARE BRACKET,REVERSE SOLIDUS,RIGHT SQUARE BRACKET,CIRCUMFLEX ACCENT,LOW LINE,",
    "GRAVE ACCENT,LATIN SMALL LETTER (A,B,C,D,E,F,G,H,I,J,K,L,M,N,O,P,Q,R,S,T,U,V,W,X,Y,Z),",
    "LEFT CURLY BRACKET,VERTICAL LINE,RIGHT CURLY BRACKET,TILDE),CANCEL TAG"]⟩,
  ⟨0xE0100, ["VARIATION SELECTOR-(17,18,19,20,21,22,23,24,25,26,27,28,29,30,31,32,33,34,35,36,37,",
    "38,39,40,41,42,43,44,45,46,47,48,49,50,51,52,53,54,55,56,57,58,59,60,61,62,63,64,65,66,67,68,",
    "69,70,71,72,73,74,75,76,77,78,79,80,81,82,83,84,85,86,87,88,89,90,91,92,93,94,95,96,97,98,99,",
    "100,101,102,103,104,105,106,107,108,109,110,111,112,113,114,115,116,117,118,119,120,121,122,",
    "123,124,125,126,127,128,129,130,131,132,133,134,135,136,137,138,139,140,141,142,143,144,145,",
    "146,147,148,149,150,151,152,153,154,155,156,157,158,159,160,161,162,163,164,165,166,167,168,",
    "169,170,171,172,173,174,175,176,177,178,179,180,181,182,183,184,185,186,187,188,189,190,191,",
    "192,193,194,195,196,197,198,199,200,201,202,203,204,205,206,207,208,209,210,211,212,213,214,",
    "215,216,217,218,219,220,221,222,223,224,225,226,227,228,229,230,231,232,233,234,235,236,237,",
    "238,239,240,241,242,243,244,245,246,247,248,249,250,251,252,253,254,255,256)"]⟩]

end CharacterName
end Text
end Reckoner
