import LexicalFrontEnd.Listing

/-!
The line of a token, character by character: its place, its kind, its code if it
has one, and its lexeme in quotes.
-/

namespace LexicalFrontEnd
namespace Token

def codeText : Option Nat → List Char
  | none => []
  | some code => Nat.toDigits 10 code ++ [' ']

def heading (t : Token) : List Char :=
  ' ' :: ' ' :: (Nat.toDigits 10 t.position.line ++ ':' :: (Nat.toDigits 10 t.position.column ++
    ' ' :: (t.kind.label.toList ++ ' ' :: codeText t.code?)))

theorem toList_line (t : Token) :
    (Listing.line t).toList = t.heading ++ Text.Quoted.encode t.lexeme.toList ++ ['\n'] := by
  obtain ⟨lexeme, kind, code?, position⟩ := t
  rw [Listing.line, render, Position.render]
  cases code? <;> simp [heading, codeText, Text.quote, toString]

end Token
end LexicalFrontEnd
