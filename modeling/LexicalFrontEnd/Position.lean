/-!
Places in a text.

Lines count from 1 and columns count characters: the first character of a line
has column 1, and a newline ends its line as column 0 of the next one.  Neither has
a bound here.  Counters of 32 bits come to the same places in any text that has fewer
than 2 ^ 32 lines and fewer than 2 ^ 32 characters in each of them.
-/

namespace LexicalFrontEnd

structure Position where
  line : Nat
  column : Nat
  deriving DecidableEq, Ord, Repr

namespace Position

/-- The place before the first character. -/
def start : Position := ⟨1, 0⟩

/-- The place of the character `c` that follows a character at `p`. -/
def after (p : Position) (c : Char) : Position :=
  if c = '\n' then ⟨p.line + 1, 0⟩ else ⟨p.line, p.column + 1⟩

/-- The place of the last character of a text that follows a character at
`p`. -/
def afterText (p : Position) (text : List Char) : Position := text.foldl after p

def render (p : Position) : String := s!"{p.line}:{p.column}"

theorem afterText_append (p : Position) (s t : List Char) :
    p.afterText (s ++ t) = (p.afterText s).afterText t := by
  simp [afterText]

end Position
end LexicalFrontEnd
