/-!
The escape sequences of string and character literals: a backslash and one more
character stand for another character.
-/

namespace LexicalFrontEnd

/-- An escape sequence: the character after the backslash, the character that
both stand for, and its name. -/
structure Escape where
  letter : Char
  meaning : Char
  description : String

namespace Escape

def table : List Escape :=
  [⟨'\'', '\'', "Single quote"⟩,
   ⟨'"', '"', "Double quote"⟩,
   ⟨'\\', '\\', "Backslash"⟩,
   ⟨'n', '\n', "New line"⟩,
   ⟨'r', '\r', "Carriage return"⟩,
   ⟨'t', '\t', "Horizontal tab"⟩,
   ⟨'b', '\x08', "Backspace"⟩,
   ⟨'f', '\x0c', "Form feed"⟩,
   ⟨'a', '\x07', "Alert (bell)"⟩,
   ⟨'v', '\x0b', "Vertical tab"⟩,
   ⟨'0', '\x00', "Null character"⟩]

def decode? (letter : Char) : Option Char :=
  (table.find? (·.letter == letter)).map Escape.meaning

end Escape
end LexicalFrontEnd
