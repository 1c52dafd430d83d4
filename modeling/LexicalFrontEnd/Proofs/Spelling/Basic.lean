import LexicalFrontEnd.Escape
import LexicalFrontEnd.Operator
import LexicalFrontEnd.Token
import LexicalFrontEnd.Unicode.Numeric
import LexicalFrontEnd.Vocabulary

/-!
How tokens are written.

A `Spelling` is a token as its author thinks of it: a word, the digits of a
number, the items of a literal, an operator.  It has a text, which is what is
written, and a token, which is what should be read.  Nothing here mentions how
lexemes are found.
-/

namespace LexicalFrontEnd

inductive Radix
  | binary | octal | decimal | hexadecimal
  deriving DecidableEq, Repr

namespace Radix

def base : Radix → Nat
  | binary => 2
  | octal => 8
  | decimal => 10
  | hexadecimal => 16

def mark : Radix → List Char
  | binary => ['0', 'b']
  | octal => ['0', 'o']
  | decimal => []
  | hexadecimal => ['0', 'x']

def digits : Radix → List Char
  | binary => ['0', '1']
  | octal => ['0', '1', '2', '3', '4', '5', '6', '7']
  | decimal => ['0', '1', '2', '3', '4', '5', '6', '7', '8', '9']
  | hexadecimal =>
    ['0', '1', '2', '3', '4', '5', '6', '7', '8', '9', 'a', 'b', 'c', 'd', 'e', 'f',
     'A', 'B', 'C', 'D', 'E', 'F']

def Numeral (radix : Radix) (text : List Char) : Prop := text ≠ [] ∧ ∀ c ∈ text, c ∈ radix.digits

instance (radix : Radix) (text : List Char) : Decidable (radix.Numeral text) :=
  inferInstanceAs (Decidable (_ ∧ _))

end Radix

def minus : Bool → List Char
  | true => ['-']
  | false => []

structure Exponent where
  letter : Char
  negative : Bool
  digits : List Char
  deriving DecidableEq, Repr

namespace Exponent

def text (e : Exponent) : List Char := e.letter :: minus e.negative ++ e.digits

def WellFormed (e : Exponent) : Prop := e.letter ∈ ['e', 'E'] ∧ Radix.decimal.Numeral e.digits

instance (e : Exponent) : Decidable e.WellFormed := inferInstanceAs (Decidable (_ ∧ _))

/-- The exponent may lack its digits. -/
def Begun (e : Exponent) : Prop := e.letter ∈ ['e', 'E'] ∧ ∀ c ∈ e.digits, c ∈ Radix.decimal.digits

theorem WellFormed.begun {e : Exponent} (h : e.WellFormed) : e.Begun := ⟨h.1, h.2.2⟩

end Exponent

/-- One character of a literal: as it is, or as an escape sequence. -/
inductive Item
  | raw (c : Char)
  | escape (e : Escape)

namespace Item

def text : Item → List Char
  | raw c => [c]
  | escape e => ['\\', e.letter]

def meaning : Item → Char
  | raw c => c
  | escape e => e.meaning

def WellFormed (quote : Char) : Item → Prop
  | raw c => c ≠ quote ∧ c ≠ '\\' ∧ c ≠ '\n'
  | escape e => e ∈ Escape.table

end Item

inductive Spelling
  | keyword (k : Keyword)
  | primitiveType (t : PrimitiveType)
  | identifier (first : Char) (more : List Char)
  | integer (negative : Bool) (radix : Radix) (digits : List Char)
  | real (negative : Bool) (whole : List Char) (fraction? : Option (List Char))
    (exponent? : Option Exponent)
  | string (items : List Item)
  | character (item : Item)
  | operator (o : Operator)

namespace Spelling

def fractionText : Option (List Char) → List Char
  | some digits => '.' :: digits
  | none => []

def exponentText : Option Exponent → List Char
  | some e => e.text
  | none => []

def text : Spelling → List Char
  | keyword k => k.spelling.toList
  | primitiveType t => t.spelling.toList
  | identifier first more => first :: more
  | integer negative radix digits => minus negative ++ radix.mark ++ digits
  | real negative whole fraction? exponent? =>
    minus negative ++ whole ++ fractionText fraction? ++ exponentText exponent?
  | string items => '"' :: items.flatMap Item.text ++ ['"']
  | character item => '\'' :: item.text ++ ['\'']
  | operator o => o.spelling

def kind : Spelling → TokenKind
  | keyword _ => .keyword
  | primitiveType _ => .primitiveType
  | identifier _ _ => .identifier
  | integer _ _ _ => .integer
  | real _ _ _ _ => .real
  | string _ => .string
  | character _ => .character
  | operator _ => .operator

def code? : Spelling → Option Nat
  | keyword k => some k.code
  | primitiveType t => some t.code
  | operator o => some o.code
  | _ => none

/-- The text of the token: what a literal denotes, else what is written. -/
def denoted : Spelling → List Char
  | string items => items.map Item.meaning
  | character item => [item.meaning]
  | s => s.text

def token (s : Spelling) (p : Position) : Token := ⟨String.ofList s.denoted, s.kind, s.code?, p⟩

def Unreserved (word : List Char) : Prop :=
  (∀ k ∈ Keyword.all, k.spelling.toList ≠ word) ∧ ∀ t ∈ PrimitiveType.all, t.spelling.toList ≠ word

def WellFormed : Spelling → Prop
  | keyword _ | primitiveType _ | operator _ => True
  | identifier first more =>
    (Unicode.isAlphabetic first = true ∨ first = '_') ∧
      (∀ c ∈ more, Unicode.isAlphanumeric c = true ∨ c = '_') ∧ Unreserved (first :: more)
  | integer _ radix digits => radix.Numeral digits
  | real _ whole fraction? exponent? =>
    Radix.decimal.Numeral whole ∧ (∀ digits ∈ fraction?, Radix.decimal.Numeral digits) ∧
      (∀ e ∈ exponent?, e.WellFormed) ∧ ¬(fraction? = none ∧ exponent? = none)
  | string items => ∀ item ∈ items, item.WellFormed '"'
  | character item => item.WellFormed '\''

end Spelling
end LexicalFrontEnd
