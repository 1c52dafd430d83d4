import LexicalFrontEnd.Unicode.CodePoints

/-!
White space: the characters that may stand between two tokens and that are
trimmed from both ends of an error code.
-/

namespace LexicalFrontEnd
namespace Unicode

/-- The characters with the property `White_Space`. -/
def blanks : CodePoints :=
  [(0x0009, 0x000D), (0x0020, 0x0020), (0x0085, 0x0085), (0x00A0, 0x00A0),
   (0x1680, 0x1680), (0x2000, 0x200A), (0x2028, 0x2029), (0x202F, 0x202F),
   (0x205F, 0x205F), (0x3000, 0x3000)]

def isBlank (c : Char) : Bool := blanks.contains c

end Unicode
end LexicalFrontEnd
