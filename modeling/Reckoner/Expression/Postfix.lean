import Reckoner.Expression.Operator
import Reckoner.Text.Pieces

/-!
# Postfix form

An expression in postfix form is a list of tokens. `Conversion` reads an infix expression one
character at a time: tokens that are already written, the operand that is being read, and a stack
of open parentheses and waiting operators. Characters that mean nothing are passed over and do not
end an operand.
-/

namespace Reckoner
namespace Expression

/-- A token of the postfix form. The text of an operand need not be a numeral. -/
inductive Token where
  | operand (text : List Char)
  | operator (op : Operator)
  deriving DecidableEq, Repr

namespace Token

/-- The text of a token. -/
def text : Token → List Char
  | operand cs => cs
  | operator op => [op.symbol]

/-- The token that a word writes. -/
def ofWord (word : List Char) : Token :=
  match Operator.ofText? word with
  | some op => operator op
  | none => operand word

end Token

/-- What waits on the stack of a conversion. -/
inductive Waiting where
  | opening
  | operator (op : Operator)
  deriving DecidableEq, Repr

namespace Waiting

/-- How tightly a waiting symbol binds; a parenthesis binds nothing. -/
def rank : Waiting → Nat
  | opening => 0
  | operator op => op.rank

end Waiting

/-- A conversion part of the way through its text. -/
structure Conversion where
  /-- Tokens written, the latest first. -/
  output : List Token := []
  /-- Characters of the operand being read, the latest first. -/
  operand : List Char := []
  /-- Open parentheses and waiting operators, the latest first. -/
  stack : List Waiting := []
  deriving DecidableEq, Repr

namespace Conversion

/-- Characters of an operand. -/
def isOperandChar (c : Char) : Bool := c.isDigit || c == '.'

/-- The operand being read is written, if it has any character. -/
def flush (s : Conversion) : Conversion :=
  match s.operand with
  | [] => s
  | cs => { s with output := .operand cs.reverse :: s.output, operand := [] }

/-- Waiting operators that bind at least as tightly as `rank` are written, down to the first that
does not. -/
def release (rank : Nat) : List Token → List Waiting → List Token × List Waiting
  | output, .operator op :: stack =>
      if rank ≤ op.rank then release rank (.operator op :: output) stack
      else (output, .operator op :: stack)
  | output, stack => (output, stack)

/-- An opening parenthesis. -/
def openGroup (s : Conversion) : Conversion :=
  let s := s.flush
  { s with stack := .opening :: s.stack }

/-- A closing parenthesis: everything that waits since the last opening one is written. -/
def closeGroup (s : Conversion) : Except Failure Conversion :=
  let s := s.flush
  match release 0 s.output s.stack with
  | (output, .opening :: stack) => .ok { s with output := output, stack := stack }
  | _ => .error .unexpectedClosing

/-- An operator: those before it that bind at least as tightly are written first. -/
def putOperator (op : Operator) (s : Conversion) : Conversion :=
  let s := s.flush
  let (output, stack) := release op.rank s.output s.stack
  { s with output := output, stack := .operator op :: stack }

/-- One character. -/
def step (s : Conversion) (c : Char) : Except Failure Conversion :=
  if isOperandChar c then .ok { s with operand := c :: s.operand }
  else if c = '(' then .ok s.openGroup
  else if c = ')' then s.closeGroup
  else
    match Operator.ofChar? c with
    | some op => .ok (s.putOperator op)
    | none => .ok s

/-- The characters of a text, in order. -/
def run (s : Conversion) : List Char → Except Failure Conversion
  | [] => .ok s
  | c :: rest =>
      match s.step c with
      | .error f => .error f
      | .ok s => run s rest

/-- The end of the text: everything that still waits is written. -/
def finish (s : Conversion) : Except Failure (List Token) :=
  let s := s.flush
  match release 0 s.output s.stack with
  | (output, []) => .ok output.reverse
  | _ => .error .unclosedOpening

end Conversion

/-- The postfix form of an infix expression without implied products. -/
def toPostfix (cs : List Char) : Except Failure (List Token) :=
  match Conversion.run {} cs with
  | .error f => .error f
  | .ok s => s.finish

/-- Tokens as they are written, one space between two. -/
def showPostfix (tokens : List Token) : List Char :=
  [' '].intercalate (tokens.map Token.text)

/-- The tokens of a text in postfix form. -/
def readPostfix (cs : List Char) : List Token :=
  (Text.fullPieces ' ' cs).map Token.ofWord

end Expression
end Reckoner
