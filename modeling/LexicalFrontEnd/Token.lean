import LexicalFrontEnd.Position
import LexicalFrontEnd.Text.Quoted

/-!
Tokens as the program hands them out: what was read, which kind of thing it is,
and where it starts.
-/

namespace LexicalFrontEnd

inductive TokenKind
  | invalid | identifier | keyword | primitiveType | integer | real | string | character | operator
  deriving DecidableEq, Repr

namespace TokenKind

def all : List TokenKind :=
  [invalid, identifier, keyword, primitiveType, integer, real, string, character, operator]

def hasCode : TokenKind → Bool
  | keyword | primitiveType | operator => true
  | _ => false

def label : TokenKind → String
  | invalid => "Invalid"
  | identifier => "Identifier"
  | keyword => "ReserveWord"
  | primitiveType => "Type"
  | integer => "Integer"
  | real => "FloatingPoint"
  | string => "String"
  | character => "Char"
  | operator => "SyntaxToken"

end TokenKind

/-- A token.  The lexeme of a string or a character is what it denotes; that of
an invalid token is what was read. -/
structure Token where
  lexeme : String
  kind : TokenKind
  code? : Option Nat
  position : Position
  deriving DecidableEq, Repr

namespace Token

def blank : Token := ⟨"", .invalid, none, ⟨0, 0⟩⟩

def startingAt (p : Position) : Token := ⟨"", .invalid, none, p⟩

/-- The token with another reading and no code; it stays where it is. -/
def set (t : Token) (lexeme : String) (kind : TokenKind) : Token :=
  { t with lexeme, kind, code? := none }

def setCoded (t : Token) (lexeme : String) (kind : TokenKind) (code : Nat) : Token :=
  { t with lexeme, kind, code? := some code }

def isInvalid (t : Token) : Bool := t.kind == .invalid

def render (t : Token) : String :=
  let code := match t.code? with
    | some code => s!" {code}"
    | none => ""
  s!"{t.position.render} {t.kind.label}{code} " ++ Text.quote t.lexeme

end Token
end LexicalFrontEnd
