import Reckoner.Text.CharacterName.Outline

/-!
# Names from U+FB50 on

The names of the characters from U+FB50 to U+104FB, as outlines.
-/

namespace Reckoner
namespace Text
namespace CharacterName

/-- Names of the characters from U+FB50 to U+104FB. -/
def fromFB50 : List Outline := [
  ⟨0xFB50, ["ARABIC (LETTER (ALEF WASLA (ISOLATED FORM,FINAL FORM),BEEH (ISOLATED FORM,FINAL FORM,",
    "INITIAL FORM,MEDIAL FORM),PEH (ISOLATED FORM,FINAL FORM,INITIAL FORM,MEDIAL FORM),BEHEH (",
    "ISOLATED FORM,FINAL FORM,INITIAL FORM,MEDIAL FORM),TTEHEH (ISOLATED FORM,FINAL FORM,",
    "INITIAL FORM,MEDIAL FORM),TEHEH (ISOLATED FORM,FINAL FORM,INITIAL FORM,MEDIAL FORM),TTEH (",
    "ISOLATED FORM,FINAL FORM,INITIAL FORM,MEDIAL FORM),VEH (ISOLATED FORM,FINAL FORM,",
    "INITIAL FORM,MEDIAL FORM),PEHEH (ISOLATED FORM,FINAL FORM,INITIAL FORM,MEDIAL FORM),DYEH (",
    "ISOLATED FORM,FINAL FORM,INITIAL FORM,MEDIAL FORM),NYEH (ISOLATED FORM,FINAL FORM,",
    "INITIAL FORM,MEDIAL FORM),TCHEH (ISOLATED FORM,FINAL FORM,INITIAL FORM,MEDIAL FORM),TCHEHEH (",
    "ISOLATED FORM,FINAL FORM,INITIAL FORM,MEDIAL FORM),DDAHAL (ISOLATED FORM,FINAL FORM),DAHAL (",
    "ISOLATED FORM,FINAL FORM),DUL (ISOLATED FORM,FINAL FORM),DDAL (ISOLATED FORM,FINAL FORM),",
    "JEH (ISOLATED FORM,FINAL FORM),RREH (ISOLATED FORM,FINAL FORM),KEHEH (ISOLATED FORM,",
    "FINAL FORM,INITIAL FORM,MEDIAL FORM),GAF (ISOLATED FORM,FINAL FORM,INITIAL FORM,MEDIAL FORM),",
    "GUEH (ISOLATED FORM,FINAL FORM,INITIAL FORM,MEDIAL FORM),NGOEH (ISOLATED FORM,FINAL FORM,",
    "INITIAL FORM,MEDIAL FORM),NOON GHUNNA (ISOLATED FORM,FINAL FORM),RNOON (ISOLATED FORM,",
    "FINAL FORM,INITIAL FORM,MEDIAL FORM),HEH (WITH YEH ABOVE (ISOLATED FORM,FINAL FORM),GOAL (",
    "ISOLATED FORM,FINAL FORM,INITIAL FORM,MEDIAL FORM),DOACHASHMEE (ISOLATED FORM,FINAL FORM,",
    "INITIAL FORM,MEDIAL FORM)),YEH BARREE (ISOLATED FORM,FINAL FORM,WITH HAMZA ABOVE (",
    "ISOLATED FORM,FINAL FORM))),SYMBOL (DOT (ABOVE,BELOW),TWO DOTS (ABOVE,BELOW),THREE DOTS (",
    "ABOVE,BELOW,POINTING DOWNWARDS (ABOVE,BELOW)),FOUR DOTS (ABOVE,BELOW),",
    "DOUBLE VERTICAL BAR BELOW,TWO DOTS VERTICALLY (ABOVE,BELOW),RING,SMALL TAH (ABOVE,BELOW),",
    "WASLA ABOVE))"]⟩,
  ⟨0xFBD3, ["ARABIC (LETTER (NG (ISOLATED FORM,FINAL FORM,INITIAL FORM,MEDIAL FORM),",
    "U ISOLATED FORM,U FINAL FORM,OE (ISOLATED FORM,FINAL FORM),YU (ISOLATED FORM,FINAL FORM),",
    "U WITH HAMZA ABOVE ISOLATED FORM,VE (ISOLATED FORM,FINAL FORM),KIRGHIZ (OE (ISOLATED FORM,",
    "FINAL FORM),YU (ISOLATED FORM,FINAL FORM)),E (ISOLATED FORM,FINAL FORM,INITIAL FORM,",
    "MEDIAL FORM),UIGHUR KAZAKH KIRGHIZ ALEF MAKSURA (INITIAL FORM,MEDIAL FORM)),LIGATURE (",
    "YEH WITH HAMZA ABOVE WITH (ALEF (ISOLATED FORM,FINAL FORM),AE (ISOLATED FORM,FINAL FORM),",
    "WAW (ISOLATED FORM,FINAL FORM),U ISOLATED FORM,U FINAL FORM,OE (ISOLATED FORM,FINAL FORM),",
    "YU (ISOLATED FORM,FINAL FORM),E (ISOLATED FORM,FINAL FORM,INITIAL FORM)),",
    "UIGHUR KIRGHIZ YEH WITH HAMZA ABOVE WITH ALEF MAKSURA (ISOLATED FORM,FINAL FORM,",
    "INITIAL FORM)),LETTER FARSI YEH (ISOLATED FORM,FINAL FORM,INITIAL FORM,MEDIAL FORM),",
    "LIGATURE (YEH WITH HAMZA ABOVE WITH (JEEM ISOLATED FORM,HAH ISOLATED FORM,MEEM ISOLATED FORM,",
    "ALEF MAKSURA ISOLATED FORM,YEH ISOLATED FORM),BEH WITH (JEEM ISOLATED FORM,HAH ISOLATED FORM,",
    "KHAH ISOLATED FORM,MEEM ISOLATED FORM,ALEF MAKSURA ISOLATED FORM,YEH ISOLATED FORM),",
    "TEH WITH (JEEM ISOLATED FORM,HAH ISOLATED FORM,KHAH ISOLATED FORM,MEEM ISOLATED FORM,",
    "ALEF MAKSURA ISOLATED FORM,YEH ISOLATED FORM),THEH WITH (JEEM ISOLATED FORM,",
    "MEEM ISOLATED FORM,ALEF MAKSURA ISOLATED FORM,YEH ISOLATED FORM),JEEM WITH (",
    "HAH ISOLATED FORM,MEEM ISOLATED FORM),HAH WITH (JEEM ISOLATED FORM,MEEM ISOLATED FORM),",
    "KHAH WITH (JEEM ISOLATED FORM,HAH ISOLATED FORM,MEEM ISOLATED FORM),SEEN WITH (",
    "JEEM ISOLATED FORM,HAH ISOLATED FORM,KHAH ISOLATED FORM,MEEM ISOLATED FORM),SAD WITH (",
    "HAH ISOLATED FORM,MEEM ISOLATED FORM),DAD WITH (JEEM ISOLATED FORM,HAH ISOLATED FORM,",
    "KHAH ISOLATED FORM,MEEM ISOLATED FORM),TAH WITH (HAH ISOLATED FORM,MEEM ISOLATED FORM),",
    "ZAH WITH MEEM ISOLATED FORM,AIN WITH (JEEM ISOLATED FORM,MEEM ISOLATED FORM),GHAIN WITH (",
    "JEEM ISOLATED FORM,MEEM ISOLATED FORM),FEH WITH (JEEM ISOLATED FORM,HAH ISOLATED FORM,",
    "KHAH ISOLATED FORM,MEEM ISOLATED FORM,ALEF MAKSURA ISOLATED FORM,YEH ISOLATED FORM),",
    "QAF WITH (HAH ISOLATED FORM,MEEM ISOLATED FORM,ALEF MAKSURA ISOLATED FORM,YEH ISOLATED FORM),",
    "KAF WITH (ALEF ISOLATED FORM,JEEM ISOLATED FORM,HAH ISOLATED FORM,KHAH ISOLATED FORM,",
    "LAM ISOLATED FORM,MEEM ISOLATED FORM,ALEF MAKSURA ISOLATED FORM,YEH ISOLATED FORM),LAM WITH (",
    "JEEM ISOLATED FORM,HAH ISOLATED FORM,KHAH ISOLATED FORM,MEEM ISOLATED FORM,",
    "ALEF MAKSURA ISOLATED FORM,YEH ISOLATED FORM),MEEM WITH (JEEM ISOLATED FORM,",
    "HAH ISOLATED FORM,KHAH ISOLATED FORM,MEEM ISOLATED FORM,ALEF MAKSURA ISOLATED FORM,",
    "YEH ISOLATED FORM),NOON WITH (JEEM ISOLATED FORM,HAH ISOLATED FORM,KHAH ISOLATED FORM,",
    "MEEM ISOLATED FORM,ALEF MAKSURA ISOLATED FORM,YEH ISOLATED FORM),HEH WITH (",
    "JEEM ISOLATED FORM,MEEM ISOLATED FORM,ALEF MAKSURA ISOLATED FORM,YEH ISOLATED FORM),",
    "YEH WITH (JEEM ISOLATED FORM,HAH ISOLATED FORM,KHAH ISOLATED FORM,MEEM ISOLATED FORM,",
    "ALEF MAKSURA ISOLATED FORM,YEH ISOLATED FORM),THAL WITH SUPERSCRIPT ALEF ISOLATED FORM,",
    "REH WITH SUPERSCRIPT ALEF ISOLATED FORM,ALEF MAKSURA WITH SUPERSCRIPT ALEF ISOLATED FORM,",
    "SHADDA WITH (DAMMATAN ISOLATED FORM,KASRATAN ISOLATED FORM,FATHA ISOLATED FORM,",
    "DAMMA ISOLATED FORM,KASRA ISOLATED FORM,SUPERSCRIPT ALEF ISOLATED FORM),",
    "YEH WITH HAMZA ABOVE WITH (REH FINAL FORM,ZAIN FINAL FORM,MEEM FINAL FORM,NOON FINAL FORM,",
    "ALEF MAKSURA FINAL FORM,YEH FINAL FORM),BEH WITH (REH FINAL FORM,ZAIN FINAL FORM,",
    "MEEM FINAL FORM,NOON FINAL FORM,ALEF MAKSURA FINAL FORM,YEH FINAL FORM),TEH WITH (",
    "REH FINAL FORM,ZAIN FINAL FORM,MEEM FINAL FORM,NOON FINAL FORM,ALEF MAKSURA FINAL FORM,",
    "YEH FINAL FORM),THEH WITH (REH FINAL FORM,ZAIN FINAL FORM,MEEM FINAL FORM,NOON FINAL FORM,",
    "ALEF MAKSURA FINAL FORM,YEH FINAL FORM),FEH WITH (ALEF MAKSURA FINAL FORM,YEH FINAL FORM),",
    "QAF WITH (ALEF MAKSURA FINAL FORM,YEH FINAL FORM),KAF WITH (ALEF FINAL FORM,LAM FINAL FORM,",
    "MEEM FINAL FORM,ALEF MAKSURA FINAL FORM,YEH FINAL FORM),LAM WITH (MEEM FINAL FORM,",
    "ALEF MAKSURA FINAL FORM,YEH FINAL FORM),MEEM WITH (ALEF FINAL FORM,MEEM FINAL FORM),",
    "NOON WITH (REH FINAL FORM,ZAIN FINAL FORM,MEEM FINAL FORM,NOON FINAL FORM,",
    "ALEF MAKSURA FINAL FORM,YEH FINAL FORM),ALEF MAKSURA WITH SUPERSCRIPT ALEF FINAL FORM,",
    "YEH WITH (REH FINAL FORM,ZAIN FINAL FORM,MEEM FINAL FORM,NOON FINAL FORM,",
    "ALEF MAKSURA FINAL FORM,YEH FINAL FORM,HAMZA ABOVE WITH (JEEM INITIAL FORM,HAH INITIAL FORM,",
    "KHAH INITIAL FORM,MEEM INITIAL FORM,HEH INITIAL FORM)),BEH WITH (JEEM INITIAL FORM,",
    "HAH INITIAL FORM,KHAH INITIAL FORM,MEEM INITIAL FORM,HEH INITIAL FORM),TEH WITH (",
    "JEEM INITIAL FORM,HAH INITIAL FORM,KHAH INITIAL FORM,MEEM INITIAL FORM,HEH INITIAL FORM),",
    "THEH WITH MEEM INITIAL FORM,JEEM WITH (HAH INITIAL FORM,MEEM INITIAL FORM),HAH WITH (",
    "JEEM INITIAL FORM,MEEM INITIAL FORM),KHAH WITH (JEEM INITIAL FORM,MEEM INITIAL FORM),",
    "SEEN WITH (JEEM INITIAL FORM,HAH INITIAL FORM,KHAH INITIAL FORM,MEEM INITIAL FORM),SAD WITH (",
    "HAH INITIAL FORM,KHAH INITIAL FORM,MEEM INITIAL FORM),DAD WITH (JEEM INITIAL FORM,",
    "HAH INITIAL FORM,KHAH INITIAL FORM,MEEM INITIAL FORM),TAH WITH HAH INITIAL FORM,",
    "ZAH WITH MEEM INITIAL FORM,AIN WITH (JEEM INITIAL FORM,MEEM INITIAL FORM),GHAIN WITH (",
    "JEEM INITIAL FORM,MEEM INITIAL FORM),FEH WITH (JEEM INITIAL FORM,HAH INITIAL FORM,",
    "KHAH INITIAL FORM,MEEM INITIAL FORM),QAF WITH (HAH INITIAL FORM,MEEM INITIAL FORM),KAF WITH (",
    "JEEM INITIAL FORM,HAH INITIAL FORM,KHAH INITIAL FORM,LAM INITIAL FORM,MEEM INITIAL FORM),",
    "LAM WITH (JEEM INITIAL FORM,HAH INITIAL FORM,KHAH INITIAL FORM,MEEM INITIAL FORM,",
    "HEH INITIAL FORM),MEEM WITH (JEEM INITIAL FORM,HAH INITIAL FORM,KHAH INITIAL FORM,",
    "MEEM INITIAL FORM),NOON WITH (JEEM INITIAL FORM,HAH INITIAL FORM,KHAH INITIAL FORM,",
    "MEEM INITIAL FORM,HEH INITIAL FORM),HEH WITH (JEEM INITIAL FORM,MEEM INITIAL FORM,",
    "SUPERSCRIPT ALEF INITIAL FORM),YEH WITH (JEEM INITIAL FORM,HAH INITIAL FORM,",
    "KHAH INITIAL FORM,MEEM INITIAL FORM,HEH INITIAL FORM,HAMZA ABOVE WITH (MEEM MEDIAL FORM,",
    "HEH MEDIAL FORM)),BEH WITH (MEEM MEDIAL FORM,HEH MEDIAL FORM),TEH WITH (MEEM MEDIAL FORM,",
    "HEH MEDIAL FORM),THEH WITH (MEEM MEDIAL FORM,HEH MEDIAL FORM),SEEN WITH (MEEM MEDIAL FORM,",
    "HEH MEDIAL FORM),SHEEN WITH (MEEM MEDIAL FORM,HEH MEDIAL FORM),KAF WITH (LAM MEDIAL FORM,",
    "MEEM MEDIAL FORM),LAM WITH MEEM MEDIAL FORM,NOON WITH (MEEM MEDIAL FORM,HEH MEDIAL FORM),",
    "YEH WITH (MEEM MEDIAL FORM,HEH MEDIAL FORM),SHADDA WITH (FATHA MEDIAL FORM,DAMMA MEDIAL FORM,",
    "KASRA MEDIAL FORM),TAH WITH (ALEF MAKSURA ISOLATED FORM,YEH ISOLATED FORM),AIN WITH (",
    "ALEF MAKSURA ISOLATED FORM,YEH ISOLATED FORM),GHAIN WITH (ALEF MAKSURA ISOLATED FORM,",
    "YEH ISOLATED FORM),SEEN WITH (ALEF MAKSURA ISOLATED FORM,YEH ISOLATED FORM),SHEEN WITH (",
    "ALEF MAKSURA ISOLATED FORM,YEH ISOLATED FORM),HAH WITH (ALEF MAKSURA ISOLATED FORM,",
    "YEH ISOLATED FORM),JEEM WITH (ALEF MAKSURA ISOLATED FORM,YEH ISOLATED FORM),KHAH WITH (",
    "ALEF MAKSURA ISOLATED FORM,YEH ISOLATED FORM),SAD WITH (ALEF MAKSURA ISOLATED FORM,",
    "YEH ISOLATED FORM),DAD WITH (ALEF MAKSURA ISOLATED FORM,YEH ISOLATED FORM),SHEEN WITH (",
    "JEEM ISOLATED FORM,HAH ISOLATED FORM,KHAH ISOLATED FORM,MEEM ISOLATED FORM,",
    "REH ISOLATED FORM),SEEN WITH REH ISOLATED FORM,SAD WITH REH ISOLATED FORM,",
    "DAD WITH REH ISOLATED FORM,TAH WITH (ALEF MAKSURA FINAL FORM,YEH FINAL FORM),AIN WITH (",
    "ALEF MAKSURA FINAL FORM,YEH FINAL FORM),GHAIN WITH (ALEF MAKSURA FINAL FORM,YEH FINAL FORM),",
    "SEEN WITH (ALEF MAKSURA FINAL FORM,YEH FINAL FORM),SHEEN WITH (ALEF MAKSURA FINAL FORM,",
    "YEH FINAL FORM),HAH WITH (ALEF MAKSURA FINAL FORM,YEH FINAL FORM),JEEM WITH (",
    "ALEF MAKSURA FINAL FORM,YEH FINAL FORM),KHAH WITH (ALEF MAKSURA FINAL FORM,YEH FINAL FORM),",
    "SAD WITH (ALEF MAKSURA FINAL FORM,YEH FINAL FORM),DAD WITH (ALEF MAKSURA FINAL FORM,",
    "YEH FINAL FORM),SHEEN WITH (JEEM FINAL FORM,HAH FINAL FORM,KHAH FINAL FORM,MEEM FINAL FORM,",
    "REH FINAL FORM),SEEN WITH REH FINAL FORM,SAD WITH REH FINAL FORM,DAD WITH REH FINAL FORM,",
    "SHEEN WITH (JEEM INITIAL FORM,HAH INITIAL FORM,KHAH INITIAL FORM,MEEM INITIAL FORM),",
    "SEEN WITH HEH INITIAL FORM,SHEEN WITH HEH INITIAL FORM,TAH WITH MEEM INITIAL FORM,SEEN WITH (",
    "JEEM MEDIAL FORM,HAH MEDIAL FORM,KHAH MEDIAL FORM),SHEEN WITH (JEEM MEDIAL FORM,",
    "HAH MEDIAL FORM,KHAH MEDIAL FORM),TAH WITH MEEM MEDIAL FORM,ZAH WITH MEEM MEDIAL FORM,",
    "ALEF WITH FATHATAN (FINAL FORM,ISOLATED FORM))),ORNATE (LEFT PARENTHESIS,RIGHT PARENTHESIS),",
    "ARABIC LIGATURE (RAHIMAHU ALLAAH,RADI ALLAAHU (ANH,ANHAA,ANHUM,ANHUMAA,ANHUNNA),",
    "SALLALLAAHU ALAYHI WA-AALIH,ALAYHI AS-SALAAM,ALAYHIM AS-SALAAM,ALAYHIMAA AS-SALAAM,",
    "ALAYHI AS-SALAATU WAS-SALAAM,QUDDISA SIRRAH,SALLALLAHU ALAYHI WAAALIHEE WA-SALLAM,",
    "ALAYHAA AS-SALAAM,TABAARAKA WA-TAAALAA,RAHIMAHUM ALLAAH,TEH WITH (",
    "JEEM WITH MEEM INITIAL FORM,HAH WITH (JEEM (FINAL FORM,INITIAL FORM),MEEM INITIAL FORM),",
    "KHAH WITH MEEM INITIAL FORM,MEEM WITH (JEEM INITIAL FORM,HAH INITIAL FORM,",
    "KHAH INITIAL FORM)),JEEM WITH MEEM WITH HAH (FINAL FORM,INITIAL FORM),HAH WITH MEEM WITH (",
    "YEH FINAL FORM,ALEF MAKSURA FINAL FORM),SEEN WITH (HAH WITH JEEM INITIAL FORM,JEEM WITH (",
    "HAH INITIAL FORM,ALEF MAKSURA FINAL FORM),MEEM WITH (HAH (FINAL FORM,INITIAL FORM),",
    "JEEM INITIAL FORM,MEEM (FINAL FORM,INITIAL FORM))),SAD WITH (HAH WITH HAH (FINAL FORM,",
    "INITIAL FORM),MEEM WITH MEEM FINAL FORM),SHEEN WITH (HAH WITH MEEM (FINAL FORM,INITIAL FORM),",
    "JEEM WITH YEH FINAL FORM,MEEM WITH (KHAH (FINAL FORM,INITIAL FORM),MEEM (FINAL FORM,",
    "INITIAL FORM))),DAD WITH (HAH WITH ALEF MAKSURA FINAL FORM,KHAH WITH MEEM (FINAL FORM,",
    "INITIAL FORM)),TAH WITH MEEM WITH (HAH (FINAL FORM,INITIAL FORM),MEEM INITIAL FORM,",
    "YEH FINAL FORM),AIN WITH (JEEM WITH MEEM FINAL FORM,MEEM WITH (MEEM (FINAL FORM,",
    "INITIAL FORM),ALEF MAKSURA FINAL FORM)),GHAIN WITH MEEM WITH (MEEM FINAL FORM,YEH FINAL FORM,",
    "ALEF MAKSURA FINAL FORM),FEH WITH KHAH WITH MEEM (FINAL FORM,INITIAL FORM),",
    "QAF WITH MEEM WITH (HAH FINAL FORM,MEEM FINAL FORM),LAM WITH (HAH WITH (MEEM FINAL FORM,",
    "YEH FINAL FORM,ALEF MAKSURA FINAL FORM),JEEM WITH JEEM (INITIAL FORM,FINAL FORM),",
    "KHAH WITH MEEM (FINAL FORM,INITIAL FORM),MEEM WITH HAH (FINAL FORM,INITIAL FORM)),MEEM WITH (",
    "HAH WITH (JEEM INITIAL FORM,MEEM INITIAL FORM,YEH FINAL FORM),JEEM WITH (HAH INITIAL FORM,",
    "MEEM INITIAL FORM),KHAH WITH (JEEM INITIAL FORM,MEEM INITIAL FORM)))"]⟩,
  ⟨0xFD92, ["ARABIC LIGATURE (MEEM WITH JEEM WITH KHAH INITIAL FORM,HEH WITH MEEM WITH (",
    "JEEM INITIAL FORM,MEEM INITIAL FORM),NOON WITH (HAH WITH (MEEM INITIAL FORM,",
    "ALEF MAKSURA FINAL FORM),JEEM WITH (MEEM (FINAL FORM,INITIAL FORM),ALEF MAKSURA FINAL FORM),",
    "MEEM WITH (YEH FINAL FORM,ALEF MAKSURA FINAL FORM)),YEH WITH MEEM WITH MEEM (FINAL FORM,",
    "INITIAL FORM),BEH WITH KHAH WITH YEH FINAL FORM,TEH WITH (JEEM WITH (YEH FINAL FORM,",
    "ALEF MAKSURA FINAL FORM),KHAH WITH (YEH FINAL FORM,ALEF MAKSURA FINAL FORM),MEEM WITH (",
    "YEH FINAL FORM,ALEF MAKSURA FINAL FORM)),JEEM WITH (MEEM WITH YEH FINAL FORM,",
    "HAH WITH ALEF MAKSURA FINAL FORM,MEEM WITH ALEF MAKSURA FINAL FORM),",
    "SEEN WITH KHAH WITH ALEF MAKSURA FINAL FORM,SAD WITH HAH WITH YEH FINAL FORM,",
    "SHEEN WITH HAH WITH YEH FINAL FORM,DAD WITH HAH WITH YEH FINAL FORM,LAM WITH (",
    "JEEM WITH YEH FINAL FORM,MEEM WITH YEH FINAL FORM),YEH WITH (HAH WITH YEH FINAL FORM,",
    "JEEM WITH YEH FINAL FORM,MEEM WITH YEH FINAL FORM),MEEM WITH MEEM WITH YEH FINAL FORM,",
    "QAF WITH MEEM WITH YEH FINAL FORM,NOON WITH HAH WITH YEH FINAL FORM,",
    "QAF WITH MEEM WITH HAH INITIAL FORM,LAM WITH HAH WITH MEEM INITIAL FORM,",
    "AIN WITH MEEM WITH YEH FINAL FORM,KAF WITH MEEM WITH YEH FINAL FORM,",
    "NOON WITH JEEM WITH HAH INITIAL FORM,MEEM WITH KHAH WITH YEH FINAL FORM,",
    "LAM WITH JEEM WITH MEEM INITIAL FORM,KAF WITH MEEM WITH MEEM FINAL FORM,",
    "LAM WITH JEEM WITH MEEM FINAL FORM,NOON WITH JEEM WITH HAH FINAL FORM,",
    "JEEM WITH HAH WITH YEH FINAL FORM,HAH WITH JEEM WITH YEH FINAL FORM,",
    "MEEM WITH JEEM WITH YEH FINAL FORM,FEH WITH MEEM WITH YEH FINAL FORM,",
    "BEH WITH HAH WITH YEH FINAL FORM,KAF WITH MEEM WITH MEEM INITIAL FORM,",
    "AIN WITH JEEM WITH MEEM INITIAL FORM,SAD WITH MEEM WITH MEEM INITIAL FORM,",
    "SEEN WITH KHAH WITH YEH FINAL FORM,NOON WITH JEEM WITH YEH FINAL FORM)"]⟩,
  ⟨0xFDCF, ["ARABIC LIGATURE SALAAMUHU ALAYNAA"]⟩,
  ⟨0xFDF0, ["ARABIC LIGATURE (SALLA USED AS KORANIC STOP SIGN ISOLATED FORM,",
    "QALA USED AS KORANIC STOP SIGN ISOLATED FORM,ALLAH ISOLATED FORM,AKBAR ISOLATED FORM,",
    "MOHAMMAD ISOLATED FORM,SALAM ISOLATED FORM,RASOUL ISOLATED FORM,ALAYHE ISOLATED FORM,",
    "WASALLAM ISOLATED FORM,SALLA ISOLATED FORM,SALLALLAHOU ALAYHE WASALLAM,JALLAJALALOUHOU),",
    "RIAL SIGN,ARABIC LIGATURE (BISMILLAH AR-RAHMAN AR-RAHEEM,SUBHAANAHU WA TAAALAA,AZZA WA JALL),",
    "VARIATION SELECTOR-(1,2,3,4,5,6,7,8,9,10,11,12,13,14,15,16),PRESENTATION FORM FOR VERTICAL (",
    "COMMA,IDEOGRAPHIC (COMMA,FULL STOP),COLON,SEMICOLON,EXCLAMATION MARK,QUESTION MARK,",
    "LEFT WHITE LENTICULAR BRACKET,RIGHT WHITE LENTICULAR BRAKCET,HORIZONTAL ELLIPSIS)"]⟩,
  ⟨0xFE20, ["COMBINING (LIGATURE (LEFT HALF,RIGHT HALF),DOUBLE TILDE (LEFT HALF,RIGHT HALF),",
    "MACRON (LEFT HALF,RIGHT HALF),CONJOINING MACRON,LIGATURE (LEFT HALF BELOW,RIGHT HALF BELOW),",
    "TILDE (LEFT HALF BELOW,RIGHT HALF BELOW),MACRON (LEFT HALF BELOW,RIGHT HALF BELOW),",
    "CONJOINING MACRON BELOW,CYRILLIC TITLO (LEFT HALF,RIGHT HALF)),",
    "PRESENTATION FORM FOR VERTICAL (TWO DOT LEADER,EM DASH,EN DASH,LOW LINE,WAVY LOW LINE,",
    "LEFT PARENTHESIS,RIGHT PARENTHESIS,LEFT CURLY BRACKET,RIGHT CURLY BRACKET,",
    "LEFT TORTOISE SHELL BRACKET,RIGHT TORTOISE SHELL BRACKET,LEFT BLACK LENTICULAR BRACKET,",
    "RIGHT BLACK LENTICULAR BRACKET,LEFT DOUBLE ANGLE BRACKET,RIGHT DOUBLE ANGLE BRACKET,",
    "LEFT ANGLE BRACKET,RIGHT ANGLE BRACKET,LEFT CORNER BRACKET,RIGHT CORNER BRACKET,",
    "LEFT WHITE CORNER BRACKET,RIGHT WHITE CORNER BRACKET),SESAME DOT,WHITE SESAME DOT,",
    "PRESENTATION FORM FOR VERTICAL (LEFT SQUARE BRACKET,RIGHT SQUARE BRACKET),DASHED OVERLINE,",
    "CENTRELINE OVERLINE,WAVY OVERLINE,DOUBLE WAVY OVERLINE,DASHED LOW LINE,CENTRELINE LOW LINE,",
    "WAVY LOW LINE,SMALL (COMMA,IDEOGRAPHIC COMMA,FULL STOP)"]⟩,
  ⟨0xFE54, ["SMALL (SEMICOLON,COLON,QUESTION MARK,EXCLAMATION MARK,EM DASH,LEFT PARENTHESIS,",
    "RIGHT PARENTHESIS,LEFT CURLY BRACKET,RIGHT CURLY BRACKET,LEFT TORTOISE SHELL BRACKET,",
    "RIGHT TORTOISE SHELL BRACKET,NUMBER SIGN,AMPERSAND,ASTERISK,PLUS SIGN,HYPHEN-MINUS,",
    "LESS-THAN SIGN,GREATER-THAN SIGN,EQUALS SIGN)"]⟩,
  ⟨0xFE68, ["SMALL (REVERSE SOLIDUS,DOLLAR SIGN,PERCENT SIGN,COMMERCIAL AT)"]⟩,
  ⟨0xFE70, ["ARABIC (FATHATAN ISOLATED FORM,TATWEEL WITH FATHATAN ABOVE,DAMMATAN ISOLATED FORM,",
    "TAIL FRAGMENT,KASRATAN ISOLATED FORM)"]⟩,
  ⟨0xFE76, ["ARABIC (FATHA (ISOLATED FORM,MEDIAL FORM),DAMMA (ISOLATED FORM,MEDIAL FORM),KASRA (",
    "ISOLATED FORM,MEDIAL FORM),SHADDA (ISOLATED FORM,MEDIAL FORM),SUKUN (ISOLATED FORM,",
    "MEDIAL FORM),LETTER (HAMZA ISOLATED FORM,ALEF WITH (MADDA ABOVE (ISOLATED FORM,FINAL FORM),",
    "HAMZA ABOVE (ISOLATED FORM,FINAL FORM)),WAW WITH HAMZA ABOVE (ISOLATED FORM,FINAL FORM),",
    "ALEF WITH HAMZA BELOW (ISOLATED FORM,FINAL FORM),YEH WITH HAMZA ABOVE (ISOLATED FORM,",
    "FINAL FORM,INITIAL FORM,MEDIAL FORM),ALEF (ISOLATED FORM,FINAL FORM),BEH (ISOLATED FORM,",
    "FINAL FORM,INITIAL FORM,MEDIAL FORM),TEH (MARBUTA (ISOLATED FORM,FINAL FORM),ISOLATED FORM,",
    "FINAL FORM,INITIAL FORM,MEDIAL FORM),THEH (ISOLATED FORM,FINAL FORM,INITIAL FORM,",
    "MEDIAL FORM),JEEM (ISOLATED FORM,FINAL FORM,INITIAL FORM,MEDIAL FORM),HAH (ISOLATED FORM,",
    "FINAL FORM,INITIAL FORM,MEDIAL FORM),KHAH (ISOLATED FORM,FINAL FORM,INITIAL FORM,",
    "MEDIAL FORM),DAL (ISOLATED FORM,FINAL FORM),THAL (ISOLATED FORM,FINAL FORM),REH (",
    "ISOLATED FORM,FINAL FORM),ZAIN (ISOLATED FORM,FINAL FORM),SEEN (ISOLATED FORM,FINAL FORM,",
    "INITIAL FORM,MEDIAL FORM),SHEEN (ISOLATED FORM,FINAL FORM,INITIAL FORM,MEDIAL FORM),SAD (",
    "ISOLATED FORM,FINAL FORM,INITIAL FORM,MEDIAL FORM),DAD (ISOLATED FORM,FINAL FORM,",
    "INITIAL FORM,MEDIAL FORM),TAH (ISOLATED FORM,FINAL FORM,INITIAL FORM,MEDIAL FORM),ZAH (",
    "ISOLATED FORM,FINAL FORM,INITIAL FORM,MEDIAL FORM),AIN (ISOLATED FORM,FINAL FORM,",
    "INITIAL FORM,MEDIAL FORM),GHAIN (ISOLATED FORM,FINAL FORM,INITIAL FORM,MEDIAL FORM),FEH (",
    "ISOLATED FORM,FINAL FORM,INITIAL FORM,MEDIAL FORM),QAF (ISOLATED FORM,FINAL FORM,",
    "INITIAL FORM,MEDIAL FORM),KAF (ISOLATED FORM,FINAL FORM,INITIAL FORM,MEDIAL FORM),LAM (",
    "ISOLATED FORM,FINAL FORM,INITIAL FORM,MEDIAL FORM),MEEM (ISOLATED FORM,FINAL FORM,",
    "INITIAL FORM,MEDIAL FORM),NOON (ISOLATED FORM,FINAL FORM,INITIAL FORM,MEDIAL FORM),HEH (",
    "ISOLATED FORM,FINAL FORM,INITIAL FORM,MEDIAL FORM),WAW (ISOLATED FORM,FINAL FORM),",
    "ALEF MAKSURA (ISOLATED FORM,FINAL FORM),YEH (ISOLATED FORM,FINAL FORM,INITIAL FORM,",
    "MEDIAL FORM)),LIGATURE LAM WITH ALEF (WITH (MADDA ABOVE (ISOLATED FORM,FINAL FORM),HAMZA (",
    "ABOVE (ISOLATED FORM,FINAL FORM),BELOW (ISOLATED FORM,FINAL FORM))),ISOLATED FORM,",
    "FINAL FORM))"]⟩,
  ⟨0xFEFF, ["ZERO WIDTH NO-BREAK SPACE"]⟩,
  ⟨0xFF01, ["FULLWIDTH (EXCLAMATION MARK,QUOTATION MARK,NUMBER SIGN,DOLLAR SIGN,PERCENT SIGN,",
    "AMPERSAND,APOSTROPHE,LEFT PARENTHESIS,RIGHT PARENTHESIS,ASTERISK,PLUS SIGN,COMMA,",
    "HYPHEN-MINUS,FULL STOP,SOLIDUS,DIGIT (ZERO,ONE,TWO,THREE,FOUR,FIVE,SIX,SEVEN,EIGHT,NINE),",
    "COLON,SEMICOLON,LESS-THAN SIGN,EQUALS SIGN,GREATER-THAN SIGN,QUESTION MARK,COMMERCIAL AT,",
    "LATIN CAPITAL LETTER (A,B,C,D,E,F,G,H,I,J,K,L,M,N,O,P,Q,R,S,T,U,V,W,X,Y,Z),",
    "LEFT SQUARE BRACKET,REVERSE SOLIDUS,RIGHT SQUARE BRACKET,CIRCUMFLEX ACCENT,LOW LINE,",
    "GRAVE ACCENT,LATIN SMALL LETTER (A,B,C,D,E,F,G,H,I,J,K,L,M,N,O,P,Q,R,S,T,U,V,W,X,Y,Z),",
    "LEFT CURLY BRACKET,VERTICAL LINE,RIGHT CURLY BRACKET,TILDE,LEFT WHITE PARENTHESIS,",
    "RIGHT WHITE PARENTHESIS),HALFWIDTH (IDEOGRAPHIC FULL STOP,LEFT CORNER BRACKET,",
    "RIGHT CORNER BRACKET,IDEOGRAPHIC COMMA,KATAKANA( (MIDDLE DOT,LETTER (WO,SMALL (A,I,U,E,O,YA,",
    "YU,YO,TU))),-HIRAGANA PROLONGED SOUND MARK, (LETTER (A,I,U,E,O,KA,KI,KU,KE,KO,SA,SI,SU,SE,SO,",
    "TA,TI,TU,TE,TO,NA,NI,NU,NE,NO,HA,HI,HU,HE,HO,MA,MI,MU,ME,MO,YA,YU,YO,RA,RI,RU,RE,RO,WA,N),",
    "VOICED SOUND MARK,SEMI-VOICED SOUND MARK)),HANGUL (FILLER,LETTER (KIYEOK,SSANGKIYEOK,",
    "KIYEOK-SIOS,NIEUN(,-CIEUC,-HIEUH),TIKEUT,SSANGTIKEUT,RIEUL(,-(KIYEOK,MIEUM,PIEUP,SIOS,",
    "THIEUTH,PHIEUPH,HIEUH)),MIEUM,PIEUP,SSANGPIEUP,PIEUP-SIOS,SIOS,SSANGSIOS,IEUNG,CIEUC,",
    "SSANGCIEUC,CHIEUCH,KHIEUKH,THIEUTH,PHIEUPH,HIEUH)))"]⟩,
  ⟨0xFFC2, ["HALFWIDTH HANGUL LETTER (A,AE,YA,YAE,EO,E)"]⟩,
  ⟨0xFFCA, ["HALFWIDTH HANGUL LETTER (YEO,YE,O,WA,WAE,OE)"]⟩,
  ⟨0xFFD2, ["HALFWIDTH HANGUL LETTER (YO,U,WEO,WE,WI,YU)"]⟩,
  ⟨0xFFDA, ["HALFWIDTH HANGUL LETTER (EU,YI,I)"]⟩,
  ⟨0xFFE0, ["FULLWIDTH (CENT SIGN,POUND SIGN,NOT SIGN,MACRON,BROKEN BAR,YEN SIGN,WON SIGN)"]⟩,
  ⟨0xFFE8, ["HALFWIDTH (FORMS LIGHT VERTICAL,LEFTWARDS ARROW,UPWARDS ARROW,RIGHTWARDS ARROW,",
    "DOWNWARDS ARROW,BLACK SQUARE,WHITE CIRCLE)"]⟩,
  ⟨0xFFF9, ["INTERLINEAR ANNOTATION (ANCHOR,SEPARATOR,TERMINATOR),OBJECT REPLACEMENT CHARACTER,",
    "REPLACEMENT CHARACTER"]⟩,
  ⟨0x10000, ["LINEAR B SYLLABLE B(008 A,038 E,028 I,061 O,010 U,001 DA,045 DE,007 DI,014 DO,",
    "051 DU,057 JA,046 JE)"]⟩,
  ⟨0x1000D, ["LINEAR B SYLLABLE B(036 JO,065 JU,077 KA,044 KE,067 KI,070 KO,081 KU,080 MA,013 ME,",
    "073 MI,015 MO,023 MU,006 NA,024 NE,030 NI,052 NO,055 NU,003 PA,072 PE,039 PI,011 PO,050 PU,",
    "016 QA,078 QE,021 QI,032 QO)"]⟩,
  ⟨0x10028, ["LINEAR B SYLLABLE B(060 RA,027 RE,053 RI,002 RO,026 RU,031 SA,009 SE,041 SI,012 SO,",
    "058 SU,059 TA,004 TE,037 TI,005 TO,069 TU,054 WA,075 WE,040 WI,042 WO)"]⟩,
  ⟨0x1003C, ["LINEAR B SYLLABLE B(017 ZA,074 ZE)"]⟩,
  ⟨0x1003F, ["LINEAR B SYLLABLE B(020 ZO,025 A2,043 A3,085 AU,071 DWE,090 DWO,048 NWA,029 PU2,",
    "062 PTE,076 RA2,033 RA3,068 RO2,066 TA2,087 TWE,091 TWO)"]⟩,
  ⟨0x10050, ["LINEAR B SYMBOL B(018,019,022,034,047,049,056,063,064,079,082,083,086,089)"]⟩,
  ⟨0x10080, ["LINEAR B (IDEOGRAM B(100 MAN,102 WOMAN,104 DEER,105( EQUID,F MARE,M STALLION),106(",
    "F EWE,M RAM),107(F SHE-GOAT,M HE-GOAT),108(F SOW,M BOAR),109(F COW,M BULL),120 WHEAT,",
    "121 BARLEY,122 OLIVE,123 SPICE,125 CYPERUS),MONOGRAM B(127 KAPO,128 KANAKO),IDEOGRAM B(",
    "130 OIL,131 WINE,132),MONOGRAM B(133 AREPA,135 MERI),IDEOGRAM B(140 BRONZE,141 GOLD,142,",
    "145 WOOL,146,150,151 HORN,152,153,154),MONOGRAM B156 TURO2,IDEOGRAM B(157,158,159 CLOTH,160,",
    "161,162 GARMENT,163 ARMOUR,164,165,166,167,168,169,170,171,172,173 MONTH,174,176 TREE,177,",
    "178,179,180,181,182,183,184,185,189,190,191 HELMET,220 FOOTSTOOL,225 BATHTUB,230 SPEAR,",
    "231 ARROW,232,233 SWORD,234,236,240 WHEELED CHARIOT,241 CHARIOT,242 CHARIOT FRAME,243 WHEEL,",
    "245,246),MONOGRAM B247 DIPTE,IDEOGRAM (B(248,249,251,252,253,254 DART,255,256,257,258,259),",
    "VESSEL B(155,200,201,202,203,204,205,206,207,208,209,210,211,212,213,214,215,216,217,218,219,",
    "221,222,226,227,228,229,250,305)))"]⟩,
  ⟨0x10100, ["AEGEAN (WORD SEPARATOR (LINE,DOT),CHECK MARK)"]⟩,
  ⟨0x10107, ["AEGEAN NUMBER (ONE,TWO,THREE,FOUR,FIVE,SIX,SEVEN,EIGHT,NINE,TEN,TWENTY,THIRTY,FORTY,",
    "FIFTY,SIXTY,SEVENTY,EIGHTY,NINETY,ONE HUNDRED,TWO HUNDRED,THREE HUNDRED,FOUR HUNDRED,",
    "FIVE HUNDRED,SIX HUNDRED,SEVEN HUNDRED,EIGHT HUNDRED,NINE HUNDRED,ONE THOUSAND,TWO THOUSAND,",
    "THREE THOUSAND,FOUR THOUSAND,FIVE THOUSAND,SIX THOUSAND,SEVEN THOUSAND,EIGHT THOUSAND,",
    "NINE THOUSAND,TEN THOUSAND,TWENTY THOUSAND,THIRTY THOUSAND,FORTY THOUSAND,FIFTY THOUSAND,",
    "SIXTY THOUSAND,SEVENTY THOUSAND,EIGHTY THOUSAND,NINETY THOUSAND)"]⟩,
  ⟨0x10137, ["AEGEAN (WEIGHT (BASE UNIT,FIRST SUBUNIT,SECOND SUBUNIT,THIRD SUBUNIT,",
    "FOURTH SUBUNIT),DRY MEASURE FIRST SUBUNIT,LIQUID MEASURE FIRST SUBUNIT,MEASURE (",
    "SECOND SUBUNIT,THIRD SUBUNIT)),GREEK (ACROPHONIC (ATTIC (ONE (QUARTER,HALF,DRACHMA),FIVE,",
    "FIFTY,FIVE (HUNDRED,THOUSAND),FIFTY THOUSAND,FIVE TALENTS,TEN TALENTS,FIFTY TALENTS,",
    "ONE HUNDRED TALENTS,FIVE HUNDRED TALENTS,ONE THOUSAND TALENTS,FIVE (THOUSAND TALENTS,",
    "STATERS),TEN STATERS,FIFTY STATERS,ONE HUNDRED STATERS,FIVE HUNDRED STATERS,",
    "ONE THOUSAND STATERS,TEN THOUSAND STATERS,FIFTY THOUSAND STATERS,TEN MNAS),",
    "HERAEUM ONE PLETHRON,THESPIAN ONE,HERMIONIAN ONE,EPIDAUREAN TWO,THESPIAN TWO,",
    "CYRENAIC TWO DRACHMAS,EPIDAUREAN TWO DRACHMAS,TROEZENIAN (FIVE,TEN(, ALTERNATE FORM)),",
    "HERMIONIAN TEN,MESSENIAN TEN,THESPIAN (TEN,THIRTY),TROEZENIAN FIFTY(, ALTERNATE FORM),",
    "HERMIONIAN FIFTY,THESPIAN (FIFTY,ONE HUNDRED,THREE HUNDRED),EPIDAUREAN FIVE HUNDRED,",
    "TROEZENIAN FIVE HUNDRED,THESPIAN FIVE HUNDRED,CARYSTIAN FIVE HUNDRED,NAXIAN FIVE HUNDRED,",
    "THESPIAN (ONE THOUSAND,FIVE THOUSAND),DELPHIC FIVE MNAS,STRATIAN FIFTY MNAS),ONE HALF SIGN(,",
    " ALTERNATE FORM),TWO THIRDS SIGN,THREE QUARTERS SIGN,YEAR SIGN,TALENT SIGN,DRACHMA SIGN,",
    "OBOL SIGN,TWO OBOLS SIGN,THREE OBOLS SIGN,FOUR OBOLS SIGN,FIVE OBOLS SIGN,METRETES SIGN,",
    "KYATHOS BASE SIGN,LITRA SIGN,OUNKIA SIGN,XESTES SIGN,ARTABE SIGN,AROURA SIGN,GRAMMA SIGN,",
    "TRYBLION BASE SIGN,ZERO SIGN,ONE QUARTER SIGN,SINUSOID SIGN,INDICTION SIGN),NOMISMA SIGN"]⟩,
  ⟨0x10190, ["ROMAN (SEXTANS SIGN,UNCIA SIGN,SEMUNCIA SIGN,SEXTULA SIGN,DIMIDIA SEXTULA SIGN,",
    "SILIQUA SIGN,DENARIUS SIGN,QUINARIUS SIGN,SESTERTIUS SIGN,DUPONDIUS SIGN,AS SIGN,",
    "CENTURIAL SIGN),ASCIA SYMBOL"]⟩,
  ⟨0x101A0, ["GREEK SYMBOL TAU RHO"]⟩,
  ⟨0x101D0, ["PHAISTOS DISC SIGN (PEDESTRIAN,PLUMED HEAD,TATTOOED HEAD,CAPTIVE,CHILD,WOMAN,HELMET,",
    "GAUNTLET,TIARA,ARROW,BOW,SHIELD,CLUB,MANACLES,MATTOCK,SAW,LID,BOOMERANG,CARPENTRY PLANE,",
    "DOLIUM,COMB,SLING,COLUMN,BEEHIVE,SHIP,HORN,HIDE,BULLS LEG,CAT,RAM,EAGLE,DOVE,TUNNY,BEE,",
    "PLANE TREE,VINE,PAPYRUS,ROSETTE,LILY,OX BACK,FLUTE,GRATER,STRAINER,SMALL AXE,WAVY BAND,",
    "COMBINING OBLIQUE STROKE)"]⟩,
  ⟨0x10280, ["LYCIAN LETTER (A,E,B,BH,G,D,I,W,Z,TH,J,K,Q,L,M,N,MM,NN,U,P,KK,R,S,T,TT,AN,EN,H,X)"]⟩,
  ⟨0x102A0, ["CARIAN LETTER (A,P2,D,L,UUU,R,LD,A2,Q,B,M,O,D2,T,SH,SH2,S,C-18,U,NN,X,N,TT2,P,SS,I,",
    "E,UUUU,K,K2,ND,UU,G,G2,ST,ST2,NG,II,C-39,TT,UUU2,RR,MB(,2,3,4),LD2,E2,UUU3)"]⟩,
  ⟨0x102E0, ["COPTIC EPACT (THOUSANDS MARK,DIGIT (ONE,TWO,THREE,FOUR,FIVE,SIX,SEVEN,EIGHT,NINE),",
    "NUMBER (TEN,TWENTY,THIRTY,FORTY,FIFTY,SIXTY,SEVENTY,EIGHTY,NINETY,ONE HUNDRED,TWO HUNDRED,",
    "THREE HUNDRED,FOUR HUNDRED,FIVE HUNDRED,SIX HUNDRED,SEVEN HUNDRED,EIGHT HUNDRED,",
    "NINE HUNDRED))"]⟩,
  ⟨0x10300, ["OLD ITALIC (LETTER (A,BE,KE,DE,E,VE,ZE,HE,THE,I,KA,EL,EM,EN,ESH,O,PE,SHE,KU,ER,ES,",
    "TE,U,EKS,PHE,KHE,EF,ERS,CHE,II,UU,ESS),NUMERAL (ONE,FIVE,TEN,FIFTY))"]⟩,
  ⟨0x1032D, ["OLD ITALIC LETTER (YE,NORTHERN TSE,SOUTHERN TSE),GOTHIC LETTER (AHSA,BAIRKAN,GIBA,",
    "DAGS,AIHVUS,QAIRTHRA,IUJA,HAGL,THIUTH,EIS,KUSMA,LAGUS,MANNA,NAUTHS,JER,URUS,PAIRTHRA,NINETY,",
    "RAIDA,SAUIL,TEIWS,WINJA,FAIHU,IGGWS,HWAIR,OTHAL,NINE HUNDRED)"]⟩,
  ⟨0x10350, ["OLD PERMIC LETTER (AN,BUR,GAI,DOI,E,ZHOI,DZHOI,ZATA,DZITA,I,KOKE,LEI,MENOE,NENOE,",
    "VOOI,PEEI,REI,SII,TAI,U,CHERY,SHOOI,SHCHOOI,YRY,YERU,O,OO,EF,HA,TSIU,VER,YER,YERI,YAT,IE,YU,",
    "YA,IA),COMBINING OLD PERMIC LETTER (AN,DOI,ZATA,NENOE,SII)"]⟩,
  ⟨0x10380, ["UGARITIC LETTER (ALPA,BETA,GAMLA,KHA,DELTA,HO,WO,ZETA,HOTA,TET,YOD,KAF,SHIN,LAMDA,",
    "MEM,DHAL,NUN,ZU,SAMKA,AIN,PU,SADE,QOPA,RASHA,THANNA,GHAIN,TO,I,U,SSU)"]⟩,
  ⟨0x1039F, ["UGARITIC WORD DIVIDER,OLD PERSIAN SIGN (A,I,U,KA,KU,GA,GU,XA,CA,JA,JI,TA,TU,DA,DI,",
    "DU,THA,PA,BA,FA,NA,NU,MA,MI,MU,YA,VA,VI,RA,RU,LA,SA,ZA,SHA,SSA,HA)"]⟩,
  ⟨0x103C8, ["OLD PERSIAN (SIGN (AURAMAZDAA(,-2),AURAMAZDAAHA,XSHAAYATHIYA,DAHYAAUSH(,-2),BAGA,",
    "BUUMISH),WORD DIVIDER,NUMBER (ONE,TWO,TEN,TWENTY,HUNDRED))"]⟩,
  ⟨0x10400, ["DESERET (CAPITAL LETTER (LONG (I,E,A,AH,O,OO),SHORT (I,E,A,AH,O,OO),AY,OW,WU,YEE,H,",
    "PEE,BEE,TEE,DEE,CHEE,JEE,KAY,GAY,EF,VEE,ETH,THEE,ES,ZEE,ESH,ZHEE,ER,EL,EM,EN,ENG,OI,EW),",
    "SMALL LETTER (LONG (I,E,A,AH,O,OO),SHORT (I,E,A,AH,O,OO),AY,OW,WU,YEE,H,PEE,BEE,TEE,DEE,CHEE,",
    "JEE,KAY,GAY,EF,VEE,ETH,THEE,ES,ZEE,ESH,ZHEE,ER,EL,EM,EN,ENG,OI,EW)),SHAVIAN LETTER (PEEP,TOT,",
    "KICK,FEE,THIGH,SO,SURE,CHURCH,YEA,HUNG,BIB,DEAD,GAG,VOW,THEY,ZOO,MEASURE,JUDGE,WOE,HA-HA,",
    "LOLL,MIME,IF,EGG,ASH,ADO,ON,WOOL,OUT,AH,ROAR,NUN,EAT,AGE,ICE,UP,OAK,OOZE,OIL,AWE,ARE,OR,AIR,",
    "ERR,ARRAY,EAR,IAN,YEW),OSMANYA LETTER (ALEF,BA,TA,JA,XA,KHA,DEEL,RA,SA,SHIIN,DHA,CAYN,GA,FA,",
    "QAAF,KAAF,LAAN,MIIN,NUUN,WAW,HA,YA,A,E,I,O,U,AA,EE,OO)"]⟩,
  ⟨0x104A0, ["OSMANYA DIGIT (ZERO,ONE,TWO,THREE,FOUR,FIVE,SIX,SEVEN,EIGHT,NINE)"]⟩,
  ⟨0x104B0, ["OSAGE CAPITAL LETTER (A,AI,AIN,AH,BRA,CHA,EHCHA,E,EIN,HA,HYA,I,KA,EHKA,KYA,LA,MA,NA,",
    "O,OIN,PA,EHPA,SA,SHA,TA,EHTA,TSA,EHTSA,TSHA,DHA,U,WA,KHA,GHA,ZA,ZHA)"]⟩,
  ⟨0x104D8, ["OSAGE SMALL LETTER (A,AI,AIN,AH,BRA,CHA,EHCHA,E,EIN,HA,HYA,I,KA,EHKA,KYA,LA,MA,NA,O,",
    "OIN,PA,EHPA,SA,SHA,TA,EHTA,TSA,EHTSA,TSHA,DHA,U,WA,KHA,GHA,ZA,ZHA)"]⟩]

end CharacterName
end Text
end Reckoner
