import Reckoner.Text.CharacterName.Outline

/-!
# Names from U+1F000 on

The names of the characters from U+1F000 to U+1F67F, as outlines.
-/

namespace Reckoner
namespace Text
namespace CharacterName

/-- Names of the characters from U+1F000 to U+1F67F. -/
def from1F000 : List Outline := [
  ⟨0x1F000, ["MAHJONG TILE (EAST WIND,SOUTH WIND,WEST WIND,NORTH WIND,RED DRAGON,GREEN DRAGON,",
    "WHITE DRAGON,ONE OF CHARACTERS,TWO OF CHARACTERS,THREE OF CHARACTERS,FOUR OF CHARACTERS,",
    "FIVE OF CHARACTERS,SIX OF CHARACTERS,SEVEN OF CHARACTERS,EIGHT OF CHARACTERS,",
    "NINE OF CHARACTERS,ONE OF BAMBOOS,TWO OF BAMBOOS,THREE OF BAMBOOS,FOUR OF BAMBOOS,",
    "FIVE OF BAMBOOS,SIX OF BAMBOOS,SEVEN OF BAMBOOS,EIGHT OF BAMBOOS,NINE OF BAMBOOS,",
    "ONE OF CIRCLES,TWO OF CIRCLES,THREE OF CIRCLES,FOUR OF CIRCLES,FIVE OF CIRCLES,",
    "SIX OF CIRCLES,SEVEN OF CIRCLES,EIGHT OF CIRCLES,NINE OF CIRCLES,PLUM,ORCHID,BAMBOO,",
    "CHRYSANTHEMUM,SPRING,SUMMER,AUTUMN,WINTER,JOKER,BACK)"]⟩,
  ⟨0x1F030, ["DOMINO TILE (HORIZONTAL( BACK,-(00-(00,01,02,03,04,05,06),01-(00,01,02,03,04,05,06),",
    "02-(00,01,02,03,04,05,06),03-(00,01,02,03,04,05,06),04-(00,01,02,03,04,05,06),05-(00,01,02,",
    "03,04,05,06),06-(00,01,02,03,04,05,06))),VERTICAL( BACK,-(00-(00,01,02,03,04,05,06),01-(00,",
    "01,02,03,04,05,06),02-(00,01,02,03,04,05,06),03-(00,01,02,03,04,05,06),04-(00,01,02,03,04,05,",
    "06),05-(00,01,02,03,04,05,06),06-(00,01,02,03,04,05,06))))"]⟩,
  ⟨0x1F0A0, ["PLAYING CARD (BACK,ACE OF SPADES,TWO OF SPADES,THREE OF SPADES,FOUR OF SPADES,",
    "FIVE OF SPADES,SIX OF SPADES,SEVEN OF SPADES,EIGHT OF SPADES,NINE OF SPADES,TEN OF SPADES,",
    "JACK OF SPADES,KNIGHT OF SPADES,QUEEN OF SPADES,KING OF SPADES)"]⟩,
  ⟨0x1F0B1, ["PLAYING CARD (ACE OF HEARTS,TWO OF HEARTS,THREE OF HEARTS,FOUR OF HEARTS,",
    "FIVE OF HEARTS,SIX OF HEARTS,SEVEN OF HEARTS,EIGHT OF HEARTS,NINE OF HEARTS,TEN OF HEARTS,",
    "JACK OF HEARTS,KNIGHT OF HEARTS,QUEEN OF HEARTS,KING OF HEARTS,RED JOKER)"]⟩,
  ⟨0x1F0C1, ["PLAYING CARD (ACE OF DIAMONDS,TWO OF DIAMONDS,THREE OF DIAMONDS,FOUR OF DIAMONDS,",
    "FIVE OF DIAMONDS,SIX OF DIAMONDS,SEVEN OF DIAMONDS,EIGHT OF DIAMONDS,NINE OF DIAMONDS,",
    "TEN OF DIAMONDS,JACK OF DIAMONDS,KNIGHT OF DIAMONDS,QUEEN OF DIAMONDS,KING OF DIAMONDS,",
    "BLACK JOKER)"]⟩,
  ⟨0x1F0D1, ["PLAYING CARD (ACE OF CLUBS,TWO OF CLUBS,THREE OF CLUBS,FOUR OF CLUBS,FIVE OF CLUBS,",
    "SIX OF CLUBS,SEVEN OF CLUBS,EIGHT OF CLUBS,NINE OF CLUBS,TEN OF CLUBS,JACK OF CLUBS,",
    "KNIGHT OF CLUBS,QUEEN OF CLUBS,KING OF CLUBS,WHITE JOKER,FOOL,TRUMP-(1,2,3,4,5,6,7,8,9,10,11,",
    "12,13,14,15,16,17,18,19,20,21))"]⟩,
  ⟨0x1F100, ["DIGIT (ZERO (FULL STOP,COMMA),ONE COMMA,TWO COMMA,THREE COMMA,FOUR COMMA,FIVE COMMA,",
    "SIX COMMA,SEVEN COMMA,EIGHT COMMA,NINE COMMA),DINGBAT (CIRCLED SANS-SERIF DIGIT ZERO,",
    "NEGATIVE CIRCLED SANS-SERIF DIGIT ZERO),CIRCLED (ZERO WITH SLASH,ANTICLOCKWISE ARROW,",
    "DOLLAR SIGN WITH OVERLAID BACKSLASH),PARENTHESIZED LATIN CAPITAL LETTER (A,B,C,D,E,F,G,H,I,J,",
    "K,L,M,N,O,P,Q,R,S,T,U,V,W,X,Y,Z),TORTOISE SHELL BRACKETED LATIN CAPITAL LETTER S,CIRCLED (",
    "ITALIC LATIN CAPITAL LETTER (C,R),CD,WZ),COPYLEFT SYMBOL,SQUARED (LATIN CAPITAL LETTER (A,B,",
    "C,D,E,F,G,H,I,J,K,L,M,N,O,P,Q,R,S,T,U,V,W,X,Y,Z),HV,MV,SD,SS,PPV,WC),",
    "NEGATIVE CIRCLED LATIN CAPITAL LETTER (A,B,C,D,E,F,G,H,I,J,K,L,M,N,O,P,Q,R,S,T,U,V,W,X,Y,Z),",
    "RAISED (MC SIGN,MD SIGN,MR SIGN),CIRCLED (CC,C WITH OVERLAID BACKSLASH,HUMAN FIGURE),",
    "NEGATIVE SQUARED LATIN CAPITAL LETTER (A,B,C,D,E,F,G,H,I,J,K,L,M,N,O,P,Q,R,S,T,U,V,W,X,Y,Z),",
    "CROSSED NEGATIVE SQUARED LATIN CAPITAL LETTER P,NEGATIVE SQUARED (IC,PA,SA,AB,WC),SQUARE DJ,",
    "SQUARED (CL,COOL,FREE,ID,NEW,NG,OK,SOS,UP WITH EXCLAMATION MARK,VS,THREE D,SECOND SCREEN,",
    "TWO K,FOUR K,EIGHT K,FIVE POINT ONE,SEVEN POINT ONE,TWENTY-TWO POINT TWO,SIXTY P,",
    "ONE HUNDRED TWENTY P,LATIN SMALL LETTER D,HC,HDR,HI-RES,LOSSLESS,SHV,UHD,VOD),",
    "MASK WORK SYMBOL"]⟩,
  ⟨0x1F1E6, ["REGIONAL INDICATOR SYMBOL LETTER (A,B,C,D,E,F,G,H,I,J,K,L,M,N,O,P,Q,R,S,T,U,V,W,X,Y,",
    "Z),SQUARE HIRAGANA HOKA,SQUARED KATAKANA (KOKO,SA)"]⟩,
  ⟨0x1F210, ["SQUARED (CJK UNIFIED IDEOGRAPH-(624B,5B57,53CC),KATAKANA DE,CJK UNIFIED IDEOGRAPH-(",
    "4E8C,591A,89E3,5929,4EA4,6620,7121,6599,524D,5F8C,518D,65B0,521D,7D42,751F,8CA9,58F0,5439,",
    "6F14,6295,6355,4E00,4E09,904A,5DE6,4E2D,53F3,6307,8D70,6253,7981,7A7A,5408,6E80,6709,6708,",
    "7533,5272,55B6,914D))"]⟩,
  ⟨0x1F240, ["TORTOISE SHELL BRACKETED CJK UNIFIED IDEOGRAPH-(672C,4E09,4E8C,5B89,70B9,6253,76D7,",
    "52DD,6557)"]⟩,
  ⟨0x1F250, ["CIRCLED IDEOGRAPH (ADVANTAGE,ACCEPT)"]⟩,
  ⟨0x1F260, ["ROUNDED SYMBOL FOR (FU,LU,SHOU,XI,SHUANGXI,CAI)"]⟩,
  ⟨0x1F300, ["CYCLONE,FOGGY,CLOSED UMBRELLA,NIGHT WITH STARS,SUNRISE( OVER MOUNTAINS,),",
    "CITYSCAPE AT DUSK,SUNSET OVER BUILDINGS,RAINBOW,BRIDGE AT NIGHT,WATER WAVE,VOLCANO,MILKY WAY,",
    "EARTH GLOBE (EUROPE-AFRICA,AMERICAS,ASIA-AUSTRALIA),GLOBE WITH MERIDIANS,NEW MOON SYMBOL,",
    "WAXING CRESCENT MOON SYMBOL,FIRST QUARTER MOON SYMBOL,WAXING GIBBOUS MOON SYMBOL,",
    "FULL MOON SYMBOL,WANING GIBBOUS MOON SYMBOL,LAST QUARTER MOON SYMBOL,",
    "WANING CRESCENT MOON SYMBOL,CRESCENT MOON,NEW MOON WITH FACE,FIRST QUARTER MOON WITH FACE,",
    "LAST QUARTER MOON WITH FACE,FULL MOON WITH FACE,SUN WITH FACE,GLOWING STAR,SHOOTING STAR,",
    "THERMOMETER,BLACK DROPLET,WHITE SUN(, WITH SMALL CLOUD, BEHIND CLOUD(, WITH RAIN)),",
    "CLOUD WITH (RAIN,SNOW,LIGHTNING,TORNADO),FOG,WIND BLOWING FACE,HOT DOG,TACO,BURRITO,CHESTNUT,",
    "SEEDLING,EVERGREEN TREE,DECIDUOUS TREE,PALM TREE,CACTUS,HOT PEPPER,TULIP,CHERRY BLOSSOM,ROSE,",
    "HIBISCUS,SUNFLOWER,BLOSSOM,EAR OF (MAIZE,RICE),HERB,FOUR LEAF CLOVER,MAPLE LEAF,FALLEN LEAF,",
    "LEAF FLUTTERING IN WIND,MUSHROOM,TOMATO,AUBERGINE,GRAPES,MELON,WATERMELON,TANGERINE,LEMON,",
    "BANANA,PINEAPPLE,RED APPLE,GREEN APPLE,PEAR,PEACH,CHERRIES,STRAWBERRY,HAMBURGER,",
    "SLICE OF PIZZA,MEAT ON BONE,POULTRY LEG,RICE (CRACKER,BALL),COOKED RICE,CURRY AND RICE,",
    "STEAMING BOWL,SPAGHETTI,BREAD,FRENCH FRIES,ROASTED SWEET POTATO,DANGO,ODEN,SUSHI,",
    "FRIED SHRIMP,FISH CAKE WITH SWIRL DESIGN,SOFT ICE CREAM,SHAVED ICE,ICE CREAM,DOUGHNUT,COOKIE,",
    "CHOCOLATE BAR,CANDY,LOLLIPOP,CUSTARD,HONEY POT,SHORTCAKE,BENTO BOX,POT OF FOOD,COOKING,",
    "FORK AND KNIFE,TEACUP WITHOUT HANDLE,SAKE BOTTLE AND CUP,WINE GLASS,COCKTAIL GLASS,",
    "TROPICAL DRINK,BEER MUG,CLINKING BEER MUGS,BABY BOTTLE,FORK AND KNIFE WITH PLATE,",
    "BOTTLE WITH POPPING CORK,POPCORN,RIBBON,WRAPPED PRESENT,BIRTHDAY CAKE,JACK-O-LANTERN,",
    "CHRISTMAS TREE,FATHER CHRISTMAS,FIREWORKS,FIREWORK SPARKLER,BALLOON,PARTY POPPER,",
    "CONFETTI BALL,TANABATA TREE,CROSSED FLAGS,PINE DECORATION,JAPANESE DOLLS,CARP STREAMER,",
    "WIND CHIME,MOON VIEWING CEREMONY,SCHOOL SATCHEL,GRADUATION CAP,HEART WITH TIP ON THE LEFT,",
    "BOUQUET OF FLOWERS,MILITARY MEDAL,REMINDER RIBBON,MUSICAL KEYBOARD WITH JACKS,",
    "STUDIO MICROPHONE,LEVEL SLIDER,CONTROL KNOBS,BEAMED (ASCENDING MUSICAL NOTES,",
    "DESCENDING MUSICAL NOTES),FILM FRAMES,ADMISSION TICKETS,CAROUSEL HORSE,FERRIS WHEEL,",
    "ROLLER COASTER,FISHING POLE AND FISH,MICROPHONE,MOVIE CAMERA,CINEMA,HEADPHONE,ARTIST PALETTE,",
    "TOP HAT,CIRCUS TENT,TICKET,CLAPPER BOARD,PERFORMING ARTS,VIDEO GAME,DIRECT HIT,SLOT MACHINE,",
    "BILLIARDS,GAME DIE,BOWLING,FLOWER PLAYING CARDS,MUSICAL NOTE,MULTIPLE MUSICAL NOTES,",
    "SAXOPHONE,GUITAR,MUSICAL KEYBOARD,TRUMPET,VIOLIN,MUSICAL SCORE,RUNNING SHIRT WITH SASH,",
    "TENNIS RACQUET AND BALL,SKI AND SKI BOOT,BASKETBALL AND HOOP,CHEQUERED FLAG,SNOWBOARDER,",
    "RUNNER,SURFER,SPORTS MEDAL,TROPHY,HORSE RACING,AMERICAN FOOTBALL,RUGBY FOOTBALL,SWIMMER,",
    "WEIGHT LIFTER,GOLFER,RACING (MOTORCYCLE,CAR),CRICKET BAT AND BALL,VOLLEYBALL,",
    "FIELD HOCKEY STICK AND BALL,ICE HOCKEY STICK AND PUCK,TABLE TENNIS PADDLE AND BALL,",
    "SNOW CAPPED MOUNTAIN,CAMPING,BEACH WITH UMBRELLA,BUILDING CONSTRUCTION,HOUSE BUILDINGS,",
    "CITYSCAPE,DERELICT HOUSE BUILDING,CLASSICAL BUILDING,DESERT(, ISLAND),NATIONAL PARK,STADIUM,",
    "HOUSE (BUILDING,WITH GARDEN),OFFICE BUILDING,JAPANESE POST OFFICE,EUROPEAN POST OFFICE,",
    "HOSPITAL,BANK,AUTOMATED TELLER MACHINE,HOTEL,LOVE HOTEL,CONVENIENCE STORE,SCHOOL,",
    "DEPARTMENT STORE,FACTORY,IZAKAYA LANTERN,JAPANESE CASTLE,EUROPEAN CASTLE,WHITE PENNANT,",
    "BLACK PENNANT,WAVING (WHITE FLAG,BLACK FLAG),ROSETTE,BLACK ROSETTE,LABEL,",
    "BADMINTON RACQUET AND SHUTTLECOCK,BOW AND ARROW,AMPHORA,EMOJI MODIFIER FITZPATRICK TYPE-(1-2,",
    "3,4,5,6),RAT,MOUSE,OX,WATER BUFFALO,COW,TIGER,LEOPARD,RABBIT,CAT,DRAGON,CROCODILE,WHALE,",
    "SNAIL,SNAKE,HORSE,RAM,GOAT,SHEEP,MONKEY,ROOSTER,CHICKEN,DOG,PIG,BOAR,ELEPHANT,OCTOPUS,",
    "SPIRAL SHELL,BUG,ANT,HONEYBEE,LADY BEETLE,FISH,TROPICAL FISH,BLOWFISH,TURTLE,HATCHING CHICK,",
    "BABY CHICK,FRONT-FACING BABY CHICK,BIRD,PENGUIN,KOALA,POODLE,DROMEDARY CAMEL,BACTRIAN CAMEL,",
    "DOLPHIN,MOUSE FACE,COW FACE,TIGER FACE,RABBIT FACE,CAT FACE,DRAGON FACE,SPOUTING WHALE,",
    "HORSE FACE,MONKEY FACE,DOG FACE,PIG FACE,FROG FACE,HAMSTER FACE,WOLF FACE,BEAR FACE,",
    "PANDA FACE,PIG NOSE,PAW PRINTS,CHIPMUNK,EYES,EYE,EAR,NOSE,MOUTH,TONGUE,WHITE (",
    "UP POINTING BACKHAND INDEX,DOWN POINTING BACKHAND INDEX,LEFT POINTING BACKHAND INDEX,",
    "RIGHT POINTING BACKHAND INDEX),FISTED HAND SIGN,WAVING HAND SIGN,OK HAND SIGN,THUMBS (",
    "UP SIGN,DOWN SIGN),CLAPPING HANDS SIGN,OPEN HANDS SIGN,CROWN,WOMANS HAT,EYEGLASSES,NECKTIE,",
    "T-SHIRT,JEANS,DRESS,KIMONO,BIKINI,WOMANS CLOTHES,PURSE,HANDBAG,POUCH,MANS SHOE,ATHLETIC SHOE,",
    "HIGH-HEELED SHOE,WOMANS (SANDAL,BOOTS),FOOTPRINTS,BUST IN SILHOUETTE,BUSTS IN SILHOUETTE,BOY,",
    "GIRL,MAN,WOMAN,FAMILY,MAN AND WOMAN HOLDING HANDS,TWO (MEN HOLDING HANDS,",
    "WOMEN HOLDING HANDS),POLICE OFFICER,WOMAN WITH BUNNY EARS,BRIDE WITH VEIL,",
    "PERSON WITH BLOND HAIR,MAN WITH (GUA PI MAO,TURBAN),OLDER (MAN,WOMAN),BABY,",
    "CONSTRUCTION WORKER,PRINCESS,JAPANESE (OGRE,GOBLIN),GHOST,BABY ANGEL,EXTRATERRESTRIAL ALIEN,",
    "ALIEN MONSTER,IMP,SKULL,INFORMATION DESK PERSON,GUARDSMAN,DANCER,LIPSTICK,NAIL POLISH,",
    "FACE MASSAGE,HAIRCUT,BARBER POLE,SYRINGE,PILL,KISS MARK,LOVE LETTER,RING,GEM STONE,KISS,",
    "BOUQUET,COUPLE WITH HEART,WEDDING,BEATING HEART,BROKEN HEART,TWO HEARTS,SPARKLING HEART,",
    "GROWING HEART,HEART WITH ARROW,BLUE HEART,GREEN HEART,YELLOW HEART,PURPLE HEART,",
    "HEART WITH RIBBON,REVOLVING HEARTS,HEART DECORATION,DIAMOND SHAPE WITH A DOT INSIDE,",
    "ELECTRIC LIGHT BULB,ANGER SYMBOL,BOMB,SLEEPING SYMBOL,COLLISION SYMBOL,",
    "SPLASHING SWEAT SYMBOL,DROPLET,DASH SYMBOL,PILE OF POO,FLEXED BICEPS,DIZZY SYMBOL,",
    "SPEECH BALLOON,THOUGHT BALLOON,WHITE FLOWER,HUNDRED POINTS SYMBOL,MONEY BAG,",
    "CURRENCY EXCHANGE,HEAVY DOLLAR SIGN,CREDIT CARD,BANKNOTE WITH (YEN SIGN,DOLLAR SIGN,",
    "EURO SIGN,POUND SIGN),MONEY WITH WINGS,CHART WITH UPWARDS TREND AND YEN SIGN,SEAT,",
    "PERSONAL COMPUTER,BRIEFCASE,MINIDISC,FLOPPY DISK,OPTICAL DISC,DVD,FILE FOLDER,",
    "OPEN FILE FOLDER,PAGE (WITH CURL,FACING UP),CALENDAR,TEAR-OFF CALENDAR,CARD INDEX,",
    "CHART WITH (UPWARDS TREND,DOWNWARDS TREND),BAR CHART,CLIPBOARD,PUSHPIN,ROUND PUSHPIN,",
    "PAPERCLIP,STRAIGHT RULER,TRIANGULAR RULER,BOOKMARK TABS,LEDGER,NOTEBOOK(,",
    " WITH DECORATIVE COVER),CLOSED BOOK,OPEN BOOK,GREEN BOOK,BLUE BOOK,ORANGE BOOK,BOOKS,",
    "NAME BADGE,SCROLL,MEMO,TELEPHONE RECEIVER,PAGER,FAX MACHINE,SATELLITE ANTENNA,",
    "PUBLIC ADDRESS LOUDSPEAKER,CHEERING MEGAPHONE,OUTBOX TRAY,INBOX TRAY,PACKAGE,E-MAIL SYMBOL,",
    "INCOMING ENVELOPE,ENVELOPE WITH DOWNWARDS ARROW ABOVE,CLOSED MAILBOX WITH (LOWERED FLAG,",
    "RAISED FLAG),OPEN MAILBOX WITH (RAISED FLAG,LOWERED FLAG),POSTBOX,POSTAL HORN,NEWSPAPER,",
    "MOBILE PHONE(, WITH RIGHTWARDS ARROW AT LEFT),VIBRATION MODE,MOBILE PHONE OFF,",
    "NO MOBILE PHONES,ANTENNA WITH BARS,CAMERA(, WITH FLASH),VIDEO CAMERA,TELEVISION,RADIO,",
    "VIDEOCASSETTE,FILM PROJECTOR,PORTABLE STEREO,PRAYER BEADS,TWISTED RIGHTWARDS ARROWS,",
    "CLOCKWISE (RIGHTWARDS AND LEFTWARDS OPEN CIRCLE ARROWS(, WITH CIRCLED ONE OVERLAY),",
    "DOWNWARDS AND UPWARDS OPEN CIRCLE ARROWS),",
    "ANTICLOCKWISE DOWNWARDS AND UPWARDS OPEN CIRCLE ARROWS,LOW BRIGHTNESS SYMBOL,",
    "HIGH BRIGHTNESS SYMBOL,SPEAKER( WITH CANCELLATION STROKE,, WITH (ONE SOUND WAVE,",
    "THREE SOUND WAVES)),BATTERY,ELECTRIC PLUG,LEFT-POINTING MAGNIFYING GLASS,",
    "RIGHT-POINTING MAGNIFYING GLASS,LOCK WITH INK PEN,CLOSED LOCK WITH KEY,KEY,LOCK,OPEN LOCK,",
    "BELL(, WITH CANCELLATION STROKE),BOOKMARK,LINK SYMBOL,RADIO BUTTON,",
    "BACK WITH LEFTWARDS ARROW ABOVE,END WITH LEFTWARDS ARROW ABOVE,",
    "ON WITH EXCLAMATION MARK WITH LEFT RIGHT ARROW ABOVE,SOON WITH RIGHTWARDS ARROW ABOVE,",
    "TOP WITH UPWARDS ARROW ABOVE,NO ONE UNDER EIGHTEEN SYMBOL,KEYCAP TEN,INPUT SYMBOL FOR (",
    "LATIN (CAPITAL LETTERS,SMALL LETTERS),NUMBERS,SYMBOLS,LATIN LETTERS),FIRE,ELECTRIC TORCH,",
    "WRENCH,HAMMER,NUT AND BOLT,HOCHO,PISTOL,MICROSCOPE,TELESCOPE,CRYSTAL BALL,",
    "SIX POINTED STAR WITH MIDDLE DOT,JAPANESE SYMBOL FOR BEGINNER,TRIDENT EMBLEM,",
    "BLACK SQUARE BUTTON,WHITE SQUARE BUTTON,LARGE (RED CIRCLE,BLUE CIRCLE,ORANGE DIAMOND,",
    "BLUE DIAMOND),SMALL (ORANGE DIAMOND,BLUE DIAMOND),UP-POINTING RED TRIANGLE,",
    "DOWN-POINTING RED TRIANGLE,UP-POINTING SMALL RED TRIANGLE,DOWN-POINTING SMALL RED TRIANGLE,",
    "LOWER RIGHT SHADOWED WHITE CIRCLE,UPPER RIGHT SHADOWED WHITE CIRCLE,CIRCLED CROSS POMMEE,",
    "CROSS POMMEE( WITH HALF-CIRCLE BELOW,),NOTCHED (LEFT SEMICIRCLE WITH THREE DOTS,",
    "RIGHT SEMICIRCLE WITH THREE DOTS),SYMBOL FOR MARKS CHAPTER,WHITE LATIN CROSS,",
    "HEAVY LATIN CROSS,CELTIC CROSS,OM SYMBOL,DOVE OF PEACE,KAABA,MOSQUE,SYNAGOGUE,",
    "MENORAH WITH NINE BRANCHES,BOWL OF HYGIEIA,CLOCK FACE (ONE OCLOCK,TWO OCLOCK,THREE OCLOCK,",
    "FOUR OCLOCK,FIVE OCLOCK,SIX OCLOCK,SEVEN OCLOCK,EIGHT OCLOCK,NINE OCLOCK,TEN OCLOCK,",
    "ELEVEN OCLOCK,TWELVE OCLOCK,ONE-THIRTY,TWO-THIRTY,THREE-THIRTY,FOUR-THIRTY,FIVE-THIRTY,",
    "SIX-THIRTY,SEVEN-THIRTY,EIGHT-THIRTY,NINE-THIRTY,TEN-THIRTY,ELEVEN-THIRTY,TWELVE-THIRTY),",
    "RIGHT SPEAKER(, WITH (ONE SOUND WAVE,THREE SOUND WAVES)),BULLHORN(, WITH SOUND WAVES),",
    "RINGING BELL,BOOK,CANDLE,MANTELPIECE CLOCK,BLACK SKULL AND CROSSBONES,NO PIRACY,HOLE,",
    "MAN IN BUSINESS SUIT LEVITATING,SLEUTH OR SPY,DARK SUNGLASSES,SPIDER(, WEB),JOYSTICK,",
    "MAN DANCING,LEFT HAND TELEPHONE RECEIVER,TELEPHONE RECEIVER WITH PAGE,",
    "RIGHT HAND TELEPHONE RECEIVER,WHITE TOUCHTONE TELEPHONE,BLACK TOUCHTONE TELEPHONE,",
    "TELEPHONE ON TOP OF MODEM,CLAMSHELL MOBILE PHONE,BACK OF ENVELOPE,STAMPED ENVELOPE,",
    "ENVELOPE WITH LIGHTNING,FLYING ENVELOPE,PEN OVER STAMPED ENVELOPE,LINKED PAPERCLIPS,",
    "BLACK PUSHPIN,LOWER LEFT (PENCIL,BALLPOINT PEN,FOUNTAIN PEN,PAINTBRUSH,CRAYON),",
    "LEFT WRITING HAND,TURNED OK HAND SIGN,RAISED HAND WITH FINGERS SPLAYED,REVERSED (",
    "RAISED HAND WITH FINGERS SPLAYED,THUMBS (UP SIGN,DOWN SIGN),VICTORY HAND,",
    "HAND WITH MIDDLE FINGER EXTENDED),RAISED HAND WITH PART BETWEEN MIDDLE AND RING FINGERS,",
    "WHITE DOWN POINTING LEFT HAND INDEX,SIDEWAYS (WHITE (LEFT POINTING INDEX,",
    "RIGHT POINTING INDEX),BLACK (LEFT POINTING INDEX,RIGHT POINTING INDEX)),BLACK (",
    "LEFT POINTING BACKHAND INDEX,RIGHT POINTING BACKHAND INDEX),SIDEWAYS (WHITE (",
    "UP POINTING INDEX,DOWN POINTING INDEX),BLACK (UP POINTING INDEX,DOWN POINTING INDEX)),BLACK (",
    "UP POINTING BACKHAND INDEX,DOWN POINTING BACKHAND INDEX,HEART),DESKTOP COMPUTER,",
    "KEYBOARD AND MOUSE,THREE NETWORKED COMPUTERS,PRINTER,POCKET CALCULATOR,",
    "BLACK HARD SHELL FLOPPY DISK,WHITE HARD SHELL FLOPPY DISK,SOFT SHELL FLOPPY DISK,",
    "TAPE CARTRIDGE,WIRED KEYBOARD,ONE BUTTON MOUSE,TWO BUTTON MOUSE,THREE BUTTON MOUSE,TRACKBALL,",
    "OLD PERSONAL COMPUTER,HARD DISK,SCREEN,PRINTER ICON,FAX ICON,OPTICAL DISC ICON,",
    "DOCUMENT WITH (TEXT(, AND PICTURE),PICTURE),FRAME WITH (PICTURE,TILES,AN X),BLACK FOLDER,",
    "FOLDER,OPEN FOLDER,CARD (INDEX DIVIDERS,FILE BOX),FILE CABINET,EMPTY NOTE(, PAGE, PAD),NOTE(,",
    " PAGE, PAD),EMPTY (DOCUMENT,PAGE,PAGES),DOCUMENT,PAGE,PAGES,WASTEBASKET,SPIRAL (NOTE PAD,",
    "CALENDAR PAD),DESKTOP WINDOW,MINIMIZE,MAXIMIZE,OVERLAP,",
    "CLOCKWISE RIGHT AND LEFT SEMICIRCLE ARROWS,CANCELLATION X,INCREASE FONT SIZE SYMBOL,",
    "DECREASE FONT SIZE SYMBOL,COMPRESSION,OLD KEY,ROLLED-UP NEWSPAPER,PAGE WITH CIRCLED TEXT,",
    "STOCK CHART,DAGGER KNIFE,LIPS,SPEAKING HEAD IN SILHOUETTE,THREE RAYS (ABOVE,BELOW,LEFT,",
    "RIGHT),LEFT SPEECH BUBBLE,RIGHT SPEECH BUBBLE,TWO SPEECH BUBBLES,THREE SPEECH BUBBLES,",
    "LEFT THOUGHT BUBBLE,RIGHT THOUGHT BUBBLE,LEFT ANGER BUBBLE,RIGHT ANGER BUBBLE,MOOD BUBBLE,",
    "LIGHTNING MOOD( BUBBLE,),BALLOT (BOX WITH BALLOT,SCRIPT X,BOX WITH SCRIPT X,BOLD SCRIPT X,",
    "BOX WITH BOLD SCRIPT X),LIGHT CHECK MARK,BALLOT BOX WITH BOLD CHECK,WORLD MAP,MOUNT FUJI,",
    "TOKYO TOWER,STATUE OF LIBERTY,SILHOUETTE OF JAPAN,MOYAI,GRINNING FACE(, WITH SMILING EYES),",
    "FACE WITH TEARS OF JOY,SMILING FACE WITH (OPEN MOUTH(, AND (SMILING EYES,COLD SWEAT,",
    "TIGHTLY-CLOSED EYES)),HALO,HORNS),WINKING FACE,SMILING FACE WITH SMILING EYES,",
    "FACE SAVOURING DELICIOUS FOOD,RELIEVED FACE,SMILING FACE WITH (HEART-SHAPED EYES,SUNGLASSES),",
    "SMIRKING FACE,NEUTRAL FACE,EXPRESSIONLESS FACE,UNAMUSED FACE,FACE WITH COLD SWEAT,",
    "PENSIVE FACE,CONFUSED FACE,CONFOUNDED FACE,KISSING FACE,FACE THROWING A KISS,",
    "KISSING FACE WITH (SMILING EYES,CLOSED EYES),FACE WITH STUCK-OUT TONGUE(, AND (WINKING EYE,",
    "TIGHTLY-CLOSED EYES)),DISAPPOINTED FACE,WORRIED FACE,ANGRY FACE,POUTING FACE,CRYING FACE,",
    "PERSEVERING FACE,FACE WITH LOOK OF TRIUMPH,DISAPPOINTED BUT RELIEVED FACE,",
    "FROWNING FACE WITH OPEN MOUTH,ANGUISHED FACE,FEARFUL FACE,WEARY FACE,SLEEPY FACE,TIRED FACE,",
    "GRIMACING FACE,LOUDLY CRYING FACE,FACE WITH OPEN MOUTH,HUSHED FACE,FACE (",
    "WITH OPEN MOUTH AND COLD SWEAT,SCREAMING IN FEAR),ASTONISHED FACE,FLUSHED FACE,SLEEPING FACE,",
    "DIZZY FACE,FACE (WITHOUT MOUTH,WITH MEDICAL MASK),GRINNING CAT FACE WITH SMILING EYES,",
    "CAT FACE WITH TEARS OF JOY,SMILING CAT FACE WITH (OPEN MOUTH,HEART-SHAPED EYES),",
    "CAT FACE WITH WRY SMILE,KISSING CAT FACE WITH CLOSED EYES,POUTING CAT FACE,CRYING CAT FACE,",
    "WEARY CAT FACE,SLIGHTLY (FROWNING FACE,SMILING FACE),UPSIDE-DOWN FACE,FACE WITH (",
    "ROLLING EYES,NO GOOD GESTURE,OK GESTURE),PERSON BOWING DEEPLY,SEE-NO-EVIL MONKEY,",
    "HEAR-NO-EVIL MONKEY,SPEAK-NO-EVIL MONKEY,HAPPY PERSON RAISING ONE HAND,PERSON (",
    "RAISING BOTH HANDS IN CELEBRATION,FROWNING,WITH (POUTING FACE,FOLDED HANDS)),",
    "NORTH WEST POINTING LEAF,SOUTH WEST POINTING LEAF,NORTH EAST POINTING LEAF,",
    "SOUTH EAST POINTING LEAF,TURNED (NORTH WEST POINTING LEAF,SOUTH WEST POINTING LEAF,",
    "NORTH EAST POINTING LEAF,SOUTH EAST POINTING LEAF),NORTH WEST POINTING VINE LEAF,",
    "SOUTH WEST POINTING VINE LEAF,NORTH EAST POINTING VINE LEAF,SOUTH EAST POINTING VINE LEAF,",
    "HEAVY (NORTH WEST POINTING VINE LEAF,SOUTH WEST POINTING VINE LEAF,",
    "NORTH EAST POINTING VINE LEAF,SOUTH EAST POINTING VINE LEAF),NORTH WEST POINTING BUD,",
    "SOUTH WEST POINTING BUD,NORTH EAST POINTING BUD,SOUTH EAST POINTING BUD,HEAVY (",
    "NORTH WEST POINTING BUD,SOUTH WEST POINTING BUD,NORTH EAST POINTING BUD,",
    "SOUTH EAST POINTING BUD),HOLLOW QUILT SQUARE ORNAMENT(, IN BLACK SQUARE),",
    "SOLID QUILT SQUARE ORNAMENT(, IN BLACK SQUARE),LEFTWARDS ROCKET,UPWARDS ROCKET,",
    "RIGHTWARDS ROCKET,DOWNWARDS ROCKET,SCRIPT LIGATURE ET ORNAMENT,",
    "HEAVY SCRIPT LIGATURE ET ORNAMENT,LIGATURE OPEN ET ORNAMENT,HEAVY (LIGATURE OPEN ET ORNAMENT,",
    "AMPERSAND ORNAMENT),SWASH AMPERSAND ORNAMENT,SANS-SERIF HEAVY (DOUBLE (",
    "TURNED COMMA QUOTATION MARK ORNAMENT,COMMA QUOTATION MARK ORNAMENT),",
    "LOW DOUBLE COMMA QUOTATION MARK ORNAMENT),HEAVY INTERROBANG ORNAMENT,",
    "SANS-SERIF INTERROBANG ORNAMENT,HEAVY SANS-SERIF INTERROBANG ORNAMENT,VERY HEAVY (SOLIDUS,",
    "REVERSE SOLIDUS),CHECKER BOARD,REVERSE CHECKER BOARD"]⟩]

end CharacterName
end Text
end Reckoner
