/-!
# Implied products

A product may be left unwritten before an opening parenthesis that follows a digit or a closing
parenthesis, and before a digit that follows a closing parenthesis. `insertProducts` writes it.
-/

namespace Reckoner
namespace Expression

/-- Whether a product is implied between two neighbouring characters. -/
def impliesProduct (left right : Char) : Bool :=
  (left.isDigit && right == '(') || (left == ')' && (right.isDigit || right == '('))

/-- The text after the character `left`, every implied product written. -/
def insertProductsAfter (left : Char) : List Char → List Char
  | [] => []
  | c :: rest =>
      if impliesProduct left c then '*' :: c :: insertProductsAfter c rest
      else c :: insertProductsAfter c rest

/-- The text with every implied product written. -/
def insertProducts (cs : List Char) : List Char := insertProductsAfter ' ' cs

end Expression
end Reckoner
