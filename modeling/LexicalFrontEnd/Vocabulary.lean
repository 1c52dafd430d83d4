/-!
Words with a meaning of their own.

The language has two vocabularies, keywords and primitive types, and no word is
in both.  A `Lexicon` answers for each of them which code a word has; it may
also be made from lists of words, as a dialect of the language needs.
-/

namespace LexicalFrontEnd

inductive Keyword
  | module | import | entryPoint | function | const | let | mut | pub | if | else | while | for
  | return | break | continue | true | false
  deriving DecidableEq, Repr

namespace Keyword

def all : List Keyword :=
  [.module, .import, .entryPoint, .function, .const, .let, .mut, .pub, .if, .else, .while, .for,
   .return, .break, .continue, .true, .false]

def spelling : Keyword → String
  | .module => "mod"
  | .import => "import"
  | .entryPoint => "entrypt"
  | .function => "fn"
  | .const => "const"
  | .let => "let"
  | .mut => "mut"
  | .pub => "pub"
  | .if => "if"
  | .else => "else"
  | .while => "while"
  | .for => "for"
  | .return => "return"
  | .break => "break"
  | .continue => "continue"
  | .true => "true"
  | .false => "false"

def code (k : Keyword) : Nat := 1000 + all.idxOf k

def ofSpelling? : String → Option Keyword
  | "mod" => some .module
  | "import" => some .import
  | "entrypt" => some .entryPoint
  | "fn" => some .function
  | "const" => some .const
  | "let" => some .let
  | "mut" => some .mut
  | "pub" => some .pub
  | "if" => some .if
  | "else" => some .else
  | "while" => some .while
  | "for" => some .for
  | "return" => some .return
  | "break" => some .break
  | "continue" => some .continue
  | "true" => some .true
  | "false" => some .false
  | _ => none

end Keyword

inductive PrimitiveType
  | i8 | i16 | i32 | i64 | u8 | u16 | u32 | u64 | f32 | f64 | bool | char | string | void
  deriving DecidableEq, Repr

namespace PrimitiveType

def all : List PrimitiveType :=
  [i8, i16, i32, i64, u8, u16, u32, u64, f32, f64, bool, char, string, void]

def spelling : PrimitiveType → String
  | i8 => "i8"
  | i16 => "i16"
  | i32 => "i32"
  | i64 => "i64"
  | u8 => "u8"
  | u16 => "u16"
  | u32 => "u32"
  | u64 => "u64"
  | f32 => "f32"
  | f64 => "f64"
  | bool => "bool"
  | char => "char"
  | string => "string"
  | void => "void"

def code (t : PrimitiveType) : Nat := 1500 + all.idxOf t

def ofSpelling? (text : String) : Option PrimitiveType := all.find? (·.spelling == text)

end PrimitiveType

/-- The two vocabularies that words are looked up in: the code of each word that
they know. -/
structure Lexicon where
  keyword? : String → Option Nat
  primitiveType? : String → Option Nat

namespace Lexicon

def standard : Lexicon where
  keyword? word := (Keyword.ofSpelling? word).map Keyword.code
  primitiveType? word := (PrimitiveType.ofSpelling? word).map PrimitiveType.code

/-- The code of a word in a list of entries, of which a later one replaces an
earlier one for the same word. -/
def lookup (entries : List (String × Nat)) (word : String) : Option Nat :=
  entries.reverse.lookup word

def ofEntries (keywords primitiveTypes : List (String × Nat)) : Lexicon where
  keyword? := lookup keywords
  primitiveType? := lookup primitiveTypes

end Lexicon
end LexicalFrontEnd
