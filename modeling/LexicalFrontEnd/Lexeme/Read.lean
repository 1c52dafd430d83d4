import LexicalFrontEnd.Lexeme.Literal
import LexicalFrontEnd.Lexeme.Number
import LexicalFrontEnd.Operator
import LexicalFrontEnd.Unicode.Numeric
import LexicalFrontEnd.Vocabulary

/-!
The lexeme at the front of a text.

Its first character, or its first two, tell what it is: a word, a number, a
literal, or else an operator.  Whatever the text is, something is read and at
least one character belongs to it (`width_read_pos`).
-/

namespace LexicalFrontEnd
namespace Lexeme

def startsWord (c : Char) : Bool := Unicode.isAlphabetic c || c == '_'

def continuesWord (c : Char) : Bool := Unicode.isAlphanumeric c || c == '_'

def classify (lexicon : Lexicon) (word : List Char) : Verdict :=
  let word := String.ofList word
  match lexicon.keyword? word with
  | some code => .token .keyword (some code)
  | none =>
    match lexicon.primitiveType? word with
    | some code => .token .primitiveType (some code)
    | none => .token .identifier none

def readWord (lexicon : Lexicon) (c : Char) (rest : List Char) : Lexeme :=
  let word := c :: rest.takeWhile continuesWord
  verbatim (classify lexicon word) word

/-- The longest operator that starts with `c`, or `c` as a character that belongs
nowhere. -/
def readOperator (c : Char) (rest : List Char) : Lexeme :=
  match Operator.longestAt? (c :: rest) with
  | some o => verbatim (.token .operator (some o.code)) o.spelling
  | none => verbatim (.malformed .strayCharacter) [c]

/-- The lexeme that starts with `c`, which is no white space and starts no
comment. -/
def read (lexicon : Lexicon) (c : Char) (rest : List Char) : Lexeme :=
  let digitFollows := rest.head?.any Number.isDecimal
  if startsWord c then readWord lexicon c rest
  else if Number.isDecimal c || (c == '-' && digitFollows) then Number.read (c :: rest)
  else if c == '.' && digitFollows then Number.readPoint (c :: rest)
  else if c == '"' then Literal.readString rest
  else if c == '\'' then Literal.readCharacter rest
  else readOperator c rest

theorem width_readOperator_pos (c : Char) (rest : List Char) : 0 < (readOperator c rest).width := by
  unfold readOperator
  split
  · exact List.length_pos_iff.mpr (Operator.spelling_ne_nil _)
  · exact Nat.one_pos

/-- At least one character belongs to a lexeme. -/
theorem width_read_pos (lexicon : Lexicon) (c : Char) (rest : List Char) :
    0 < (read lexicon c rest).width := by
  simp only [read]
  split
  · exact Nat.succ_pos _
  · split
    · rename_i h
      refine Number.width_read_pos ?_ rest
      simp only [Bool.or_eq_true, Bool.and_eq_true, beq_iff_eq] at h
      exact h.imp_right And.left
    · split
      · exact Number.width_withExponent_pos (by simp) _
      · split
        · exact Literal.width_readString_pos rest
        · split
          · exact Literal.width_readCharacter_pos rest
          · exact width_readOperator_pos c rest

end Lexeme
end LexicalFrontEnd
