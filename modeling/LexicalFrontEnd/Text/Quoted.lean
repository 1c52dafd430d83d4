import LexicalFrontEnd.Unicode.Extender
import LexicalFrontEnd.Unicode.Unprintable

/-!
Quoted text: a text between double quotes in which every character is either
itself or an escape.

NUL, tab, carriage return, newline, the double quote and the backslash have a
short escape.  A character that would not show by itself, because it has no
visible form or joins the one before it, is written by its number.
-/

namespace LexicalFrontEnd
namespace Text
namespace Quoted

def shortEscape? : Char → Option Char
  | '\x00' => some '0'
  | '\t' => some 't'
  | '\r' => some 'r'
  | '\n' => some 'n'
  | '"' => some '"'
  | '\\' => some '\\'
  | _ => none

/-- The escape of a character by its number, in as few lower-case hexadecimal
digits as it needs. -/
def numericEscape (c : Char) : List Char :=
  ['\\', 'u', '\x7b'] ++ Nat.toDigits 16 c.toNat ++ ['\x7d']

def encodeChar (c : Char) : List Char :=
  match shortEscape? c with
  | some letter => ['\\', letter]
  | none => if Unicode.isExtender c || Unicode.isUnprintable c then numericEscape c else [c]

def encode (text : List Char) : List Char := '"' :: (text.flatMap encodeChar ++ ['"'])

end Quoted

def quote (text : String) : String := String.ofList (Quoted.encode text.toList)

end Text
end LexicalFrontEnd
