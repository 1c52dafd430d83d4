/-!
Operators and punctuation.

Every operator of three characters starts with one of two characters
(`exists_double_of_triple`), so two characters decide whether a third one is
worth reading.  The code of an operator is its place among the operators of its
width, counted from a base that depends on the width; `ofCode?` inverts it.
-/

namespace LexicalFrontEnd

inductive Operator
  | plus | minus | star | slash | percent | assign | less | greater | bang | ampersand
  | bar | caret | tilde | question | colon | semicolon | comma | dot | openParen | closeParen
  | openBracket | closeBracket | openBrace | closeBrace | atSign
  | equal | notEqual | lessEqual | greaterEqual | logicalAnd | logicalOr | shiftLeft | shiftRight
  | plusAssign | minusAssign | timesAssign | divideAssign | remainderAssign | andAssign
  | orAssign | xorAssign | arrow | scope | increment | decrement | power
  | shiftLeftAssign | shiftRightAssign | powerAssign
  deriving DecidableEq, Repr

namespace Operator

/-- The operators of one character, in the order of their codes. -/
def singles : List Operator :=
  [plus, minus, star, slash, percent, assign, less, greater, bang, ampersand, bar, caret, tilde,
   question, colon, semicolon, comma, dot, openParen, closeParen, openBracket, closeBracket,
   openBrace, closeBrace, atSign]

def doubles : List Operator :=
  [equal, notEqual, lessEqual, greaterEqual, logicalAnd, logicalOr, shiftLeft, shiftRight,
   plusAssign, minusAssign, timesAssign, divideAssign, remainderAssign, andAssign, orAssign,
   xorAssign, arrow, scope, increment, decrement, power]

def triples : List Operator := [shiftLeftAssign, shiftRightAssign, powerAssign]

def all : List Operator := singles ++ doubles ++ triples

def spelling : Operator → List Char
  | plus => ['+']
  | minus => ['-']
  | star => ['*']
  | slash => ['/']
  | percent => ['%']
  | assign => ['=']
  | less => ['<']
  | greater => ['>']
  | bang => ['!']
  | ampersand => ['&']
  | bar => ['|']
  | caret => ['^']
  | tilde => ['~']
  | question => ['?']
  | colon => [':']
  | semicolon => [';']
  | comma => [',']
  | dot => ['.']
  | openParen => ['(']
  | closeParen => [')']
  | openBracket => ['[']
  | closeBracket => [']']
  | openBrace => ['\x7b']
  | closeBrace => ['\x7d']
  | atSign => ['@']
  | equal => ['=', '=']
  | notEqual => ['!', '=']
  | lessEqual => ['<', '=']
  | greaterEqual => ['>', '=']
  | logicalAnd => ['&', '&']
  | logicalOr => ['|', '|']
  | shiftLeft => ['<', '<']
  | shiftRight => ['>', '>']
  | plusAssign => ['+', '=']
  | minusAssign => ['-', '=']
  | timesAssign => ['*', '=']
  | divideAssign => ['/', '=']
  | remainderAssign => ['%', '=']
  | andAssign => ['&', '=']
  | orAssign => ['|', '=']
  | xorAssign => ['^', '=']
  | arrow => ['-', '>']
  | scope => [':', ':']
  | increment => ['+', '+']
  | decrement => ['-', '-']
  | power => ['*', '*']
  | shiftLeftAssign => ['<', '<', '=']
  | shiftRightAssign => ['>', '>', '=']
  | powerAssign => ['*', '*', '=']

def width (o : Operator) : Nat := o.spelling.length

def render (o : Operator) : String := String.ofList o.spelling

/-- The number of an operator, unique among all operators and words. -/
def code (o : Operator) : Nat :=
  if o ∈ triples then 4000 + triples.idxOf o
  else if o ∈ doubles then 3000 + doubles.idxOf o
  else 2000 + singles.idxOf o

def ofCode? (code : Nat) : Option Operator :=
  if 4000 ≤ code then triples[code - 4000]?
  else if 3000 ≤ code then doubles[code - 3000]?
  else if 2000 ≤ code then singles[code - 2000]?
  else none

def ofSpelling? (text : List Char) : Option Operator := all.find? (·.spelling == text)

def longestAt? (text : List Char) : Option Operator :=
  ofSpelling? (text.take 3) <|> ofSpelling? (text.take 2) <|> ofSpelling? (text.take 1)

theorem mem_all (o : Operator) : o ∈ all := by
  cases o <;> decide

/-- Two characters of a longer operator are an operator themselves. -/
theorem exists_double_of_triple {o : Operator} (h : o ∈ triples) :
    ∃ p ∈ doubles, p.spelling = o.spelling.take 2 := by
  revert o
  decide

theorem spelling_ne_nil (o : Operator) : o.spelling ≠ [] := by
  cases o <;> decide

/-- An operator found by its characters has those characters. -/
theorem spelling_of_ofSpelling? {text : List Char} {o : Operator}
    (h : ofSpelling? text = some o) : o.spelling = text := by
  have := List.find?_some h
  simpa using this

end Operator
end LexicalFrontEnd
