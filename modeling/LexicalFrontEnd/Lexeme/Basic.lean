import LexicalFrontEnd.Diagnostic.Problem
import LexicalFrontEnd.Token

/-!
Lexemes: what stands at one place of a text.

Reading a lexeme is a function of the text from that place on.  It says how many
characters belong to the lexeme, what they denote, and what they are: a token,
or an attempt at one that has a problem.  Where a lexeme starts in the source is
not part of it.
-/

namespace LexicalFrontEnd

/-- What a lexeme is: a token of some kind, with its code if it has one, or
malformed. -/
inductive Verdict
  | token (kind : TokenKind) (code? : Option Nat)
  | malformed (problem : Problem)
  deriving DecidableEq, Repr

/-- The lexeme at the front of a text: the number of its characters, and the text
that stands for it in a token. -/
structure Lexeme where
  verdict : Verdict
  text : List Char
  width : Nat
  deriving DecidableEq, Repr

namespace Lexeme

def verbatim (verdict : Verdict) (text : List Char) : Lexeme := ⟨verdict, text, text.length⟩

end Lexeme
end LexicalFrontEnd
