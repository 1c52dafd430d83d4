import LexicalFrontEnd.Escape
import LexicalFrontEnd.Lexeme.Basic

/-!
String and character literals.

A literal stays on one line.  After a mistake the rest of it is passed over up
to its closing quote, or to the end of the line if there is none.
-/

namespace LexicalFrontEnd
namespace Lexeme
namespace Literal

/-- How the rest of a mistaken literal ends: with its closing quote, before a
newline, or at the end of the text. -/
inductive Ending
  | quote | line | text
  deriving DecidableEq, Repr

/-- The rest of a mistaken literal, behind the characters of it that were passed
over already, the last one first.  A backslash takes the character after it
along, so a quote behind a backslash does not close the literal. -/
def passOver (quote : Char) (passed : List Char) : List Char → List Char × Ending
  | [] => (passed.reverse, .text)
  | '\\' :: c :: rest =>
    if c = '\n' then (('\\' :: passed).reverse, .line)
    else passOver quote (c :: '\\' :: passed) rest
  | c :: rest =>
    if c = '\n' then (passed.reverse, .line)
    else if c = quote then ((c :: passed).reverse, .quote)
    else passOver quote (c :: passed) rest

/-- What follows the opening quote of a string: the characters it denotes as far
as it is well-formed, the number of characters taken, and the problem that ends
it, if one does. -/
structure Body where
  text : List Char
  width : Nat
  problem? : Option Problem
  deriving DecidableEq, Repr

/-- The body of a string, behind `width` characters of it that denote `text`, the
last one first. -/
def body (text : List Char) (width : Nat) : List Char → Body
  | [] => ⟨text.reverse, width, some .unclosedString⟩
  | '"' :: _ => ⟨text.reverse, width + 1, none⟩
  | '\n' :: _ => ⟨text.reverse, width, some .unclosedString⟩
  | ['\\'] => ⟨('\\' :: text).reverse, width + 1, some .unclosedString⟩
  | '\\' :: letter :: rest =>
    match Escape.decode? letter with
    | some c => body (c :: text) (width + 2) rest
    | none =>
      let (passed, _) := passOver '"' [] (letter :: rest)
      ⟨text.reverse ++ '\\' :: passed, width + 1 + passed.length, some .unknownEscape⟩
  | c :: rest => body (c :: text) (width + 1) rest

/-- The string literal whose opening quote stands before the text.  A malformed
one keeps its opening quote. -/
def readString (text : List Char) : Lexeme :=
  let b := body [] 0 text
  match b.problem? with
  | none => ⟨.token .string none, b.text, b.width + 1⟩
  | some problem => ⟨.malformed problem, '"' :: b.text, b.width + 1⟩

def Ending.problem : Ending → Problem
  | quote => .overfullCharacter
  | line => .characterCutByLine
  | text => .characterCutByEnd

/-- A character literal of which `front` is read, denoting `c`; it is complete if
the text goes on with its closing quote. -/
def close (front : List Char) (c : Char) (text : List Char) : Lexeme :=
  match text with
  | '\'' :: _ => ⟨.token .character none, [c], front.length + 1⟩
  | _ =>
    let (passed, ending) := passOver '\'' [] text
    verbatim (.malformed ending.problem) (front ++ passed)

def readCharacter (text : List Char) : Lexeme :=
  match text with
  | [] => verbatim (.malformed .characterCutByEnd) ['\'']
  | '\n' :: _ => verbatim (.malformed .characterCutByLine) ['\'']
  | '\'' :: _ => verbatim (.malformed .emptyCharacter) ['\'', '\'']
  | ['\\'] => verbatim (.malformed .characterCutByEnd) ['\'', '\\']
  | '\\' :: letter :: rest =>
    match Escape.decode? letter with
    | some c => close ['\'', '\\', letter] c rest
    | none =>
      let (passed, _) := passOver '\'' [] (letter :: rest)
      verbatim (.malformed .unknownEscape) (['\'', '\\'] ++ passed)
  | c :: rest => close ['\'', c] c rest

/-- A character literal has at least its opening quote. -/
theorem width_readCharacter_pos (text : List Char) : 0 < (readCharacter text).width := by
  have hclose (front : List Char) (c : Char) (rest : List Char) (h : front ≠ []) :
      0 < (close front c rest).width := by
    have := List.length_pos_iff.mpr h
    unfold close
    split
    · exact Nat.succ_pos _
    · simp only [verbatim, List.length_append]
      omega
  unfold readCharacter
  split
  · decide
  · decide
  · decide
  · decide
  · split
    · exact hclose _ _ _ (by simp)
    · simp [verbatim]
  · exact hclose _ _ _ (by simp)

/-- A string literal has at least its opening quote. -/
theorem width_readString_pos (text : List Char) : 0 < (readString text).width := by
  simp only [readString]
  split <;> exact Nat.succ_pos _

end Literal
end Lexeme
end LexicalFrontEnd
