import LexicalFrontEnd.Unicode.Blank

/-!
What stands between lexemes: white space and comments.  A comment starts with
two slashes and runs up to the end of its line.
-/

namespace LexicalFrontEnd
namespace Lexeme

inductive Trivia
  | blank | comment
  deriving DecidableEq, Repr

namespace Trivia

/-- The width of the gap at the front of a text, `n` more than what is left of
it, where the text goes on with the given kind of trivia.  The newline after a
comment is white space. -/
def widthFrom : Trivia → Nat → List Char → Nat
  | _, n, [] => n
  | .comment, n, c :: rest => widthFrom (if c = '\n' then .blank else .comment) (n + 1) rest
  | .blank, n, c :: rest =>
    if Unicode.isBlank c then widthFrom .blank (n + 1) rest
    else if c = '/' ∧ rest.head? = some '/' then widthFrom .comment (n + 1) rest
    else n

/-- The number of characters before the first lexeme of a text. -/
def width (text : List Char) : Nat := widthFrom .blank 0 text

end Trivia
end Lexeme
end LexicalFrontEnd
