import LexicalFrontEnd.Unicode.Blank
import LexicalFrontEnd.Unicode.Uppercase

/-!
The catalogue of everything that can be wrong with a text.

A problem belongs to a series, and its public code is the prefix of the series
with a number of four digits.  Users may write a code in any case and with white
space around it (`Problem.ofCode?`).
-/

namespace LexicalFrontEnd

/-- How much a diagnostic weighs, in increasing order.  Nothing can be read after
a critical one. -/
inductive Severity
  | warning | error | critical
  deriving DecidableEq, Ord, Repr

namespace Severity

def isError : Severity → Bool
  | warning => false
  | error | critical => true

def render : Severity → String
  | warning => "warning"
  | error => "error"
  | critical => "critical error"

end Severity

/-- The stage that notices a problem: while tokens are formed, or while they are
put together. -/
inductive Series
  | lexical | grammatical
  deriving DecidableEq, Repr

namespace Series

def all : List Series := [lexical, grammatical]

def codePrefix : Series → String
  | lexical => "TK"
  | grammatical => "SN"

def name : Series → String
  | lexical => "Tokenization"
  | grammatical => "Syntax"

def description : Series → String
  | lexical =>
    "Errors that can occur when transforming the code to tokens. " ++
    "This includes errors caused by incorrectly formatted numbers or strings."
  | grammatical =>
    "Errors that can be found in the first pass of the parser. " ++
    "Includes things like missing tokens or syntax that does not make sense " ++
    "in the context it's given."

end Series

inductive Problem
  | strayCharacter | malformedReal | overfullCharacter | emptyCharacter | malformedInteger
  | unknownEscape | unclosedString | characterCutByLine | characterCutByEnd | unreadableSource
  | misplacedToken | unexpectedToken | missingIdentifier | missingType | missingInitializer
  | missingSemicolon | missingOperator | missingExpression | missingBody | malformedLoop
  | missingElse
  deriving DecidableEq, Repr

namespace Problem

def all : List Problem :=
  [strayCharacter, malformedReal, overfullCharacter, emptyCharacter, malformedInteger,
   unknownEscape, unclosedString, characterCutByLine, characterCutByEnd, unreadableSource,
   misplacedToken, unexpectedToken, missingIdentifier, missingType, missingInitializer,
   missingSemicolon, missingOperator, missingExpression, missingBody, malformedLoop, missingElse]

def series : Problem → Series
  | strayCharacter | malformedReal | overfullCharacter | emptyCharacter | malformedInteger
  | unknownEscape | unclosedString | characterCutByLine | characterCutByEnd
  | unreadableSource => .lexical
  | _ => .grammatical

def code : Problem → String
  | strayCharacter => "TK0001"
  | malformedReal => "TK0002"
  | overfullCharacter => "TK0003"
  | emptyCharacter => "TK0004"
  | malformedInteger => "TK0005"
  | unknownEscape => "TK0006"
  | unclosedString => "TK0007"
  | characterCutByLine => "TK0008"
  | characterCutByEnd => "TK0009"
  | unreadableSource => "TK0010"
  | misplacedToken => "SN0001"
  | unexpectedToken => "SN0002"
  | missingIdentifier => "SN0003"
  | missingType => "SN0004"
  | missingInitializer => "SN0005"
  | missingSemicolon => "SN0006"
  | missingOperator => "SN0007"
  | missingExpression => "SN0008"
  | missingBody => "SN0009"
  | malformedLoop => "SN0010"
  | missingElse => "SN0011"

def title : Problem → String
  | strayCharacter => "Unexpected character"
  | malformedReal => "Invalid real literal"
  | overfullCharacter => "Too many characters in char literal"
  | emptyCharacter => "Empty character literal"
  | malformedInteger => "Invalid number literal"
  | unknownEscape => "Unrecognized escape sequence"
  | unclosedString => "New line in string literal"
  | characterCutByLine => "New line in char literal"
  | characterCutByEnd => "Invalid character literal"
  | unreadableSource => "Could not read source"
  | misplacedToken => "Unexpected token in file"
  | unexpectedToken => "Unexpected token"
  | missingIdentifier => "Identifier expected"
  | missingType => "Type expected"
  | missingInitializer => "Missing initializer"
  | missingSemicolon => "Missing semicolon"
  | missingOperator => "Missing syntax token"
  | missingExpression => "Missing expression"
  | missingBody => "Expected function body"
  | malformedLoop => "Invalid for loop statement"
  | missingElse => "No else on if expression"

def explanation : Problem → List String
  | strayCharacter =>
    ["A character found in the code could not be matched to a valid token."]
  | malformedReal =>
    ["Incorrectly formatted floating point number.",
     "A floating point number must include a digit before the decimal place,",
     "and at least one digit after the decimal place. If an exponent is used, it",
     "can be negative but the exponent must be an integer and cannot include a",
     "decimal point.",
     "",
     "Correct examples:",
     "10.0, 0.1, 10e2, 0.1e2",
     "",
     "Incorrect examples:",
     ".1, 2., 0.e1, 0.1e.12"]
  | overfullCharacter =>
    ["A character literal is formatted incorrectly.",
     "A character literal must start with a single quote and include only one",
     "character. It must be terminated with a closing single quote."]
  | emptyCharacter =>
    ["A character literal is formatted incorrectly. It must have exactly one",
     "character within the single quotes."]
  | malformedInteger =>
    ["An integer number is not formatted correctly.",
     "As a raw number it should be written verbatim without commas or underscores.",
     "",
     "Numbers of different bases can be specified using the C format.",
     "Binary:      0b[0-1]+",
     "Octal:       0o[0-7]+",
     "Base 10:     [0-9]+",
     "Hexadecimal: 0x[0-9A-Fa-f]+"]
  | unknownEscape =>
    ["An invalid escape sequence was found. See the escape sequence documentation."]
  | unclosedString =>
    ["A string ended the line without closing the quote.",
     "Strings start with a double quote, include all the text along with escape",
     "sequences, and end with a closing quote. It should all be on one line."]
  | characterCutByLine =>
    ["A char ended the line without closing the quote.",
     "Chars start with a single quote and include a single character followed by",
     "a closing quote before the line ends."]
  | characterCutByEnd =>
    ["A character literal reached the end of the file without a closing single quote."]
  | unreadableSource =>
    ["The source could not be read. Either the underlying stream reported an error",
     "or the text is not valid UTF-8. Tokenization cannot continue."]
  | misplacedToken =>
    ["Invalid token found at file level. A file must include import statements at",
     "the top followed by a module block."]
  | unexpectedToken => ["An invalid token was found in the current context."]
  | missingIdentifier =>
    ["You did not give an identifier. An identifier is the name of a variable or",
     "function."]
  | missingType =>
    ["You did not give a type for the variable definition. A colon was added",
     "indicating the variable has a type, but no valid type was specified."]
  | missingInitializer =>
    ["A variable was declared without an explicit type and must be initialized."]
  | missingSemicolon =>
    ["The compiler found a missing semicolon delimiting the end of a statement.",
     "A statement may consume more than one line but must end with a semicolon."]
  | missingOperator =>
    ["The compiler found a missing syntax token. Examples include closing array",
     "indices or missing commas in argument lists."]
  | missingExpression => ["The compiler did not find an expression when it was required."]
  | missingBody => ["A function was declared without specifying a body definition."]
  | malformedLoop =>
    ["An invalid statement was found. A for loop must start with a variable",
     "creation or a valid expression. A semicolon is also valid if nothing should",
     "happen at the start."]
  | missingElse =>
    ["An if expression must end with an else clause to ensure all possible cases",
     "are handled."]

/-- The severity that a problem has unless a report says otherwise. -/
def severity : Problem → Severity
  | unreadableSource => .critical
  | _ => .error

def trim (text : List Char) : List Char :=
  ((text.dropWhile Unicode.isBlank).reverse.dropWhile Unicode.isBlank).reverse

/-- The problem that a text names by its code, in any case and with white space
around it. -/
def ofCode? (text : String) : Option Problem :=
  let canonical := Unicode.upcase (trim text.toList)
  all.find? (·.code.toList == canonical)

structure UnknownCode where
  text : String
  deriving DecidableEq, Repr

/-- The problem that a text names, or the text as it was given if it names none. -/
def parse (text : String) : Except UnknownCode Problem :=
  match ofCode? text with
  | some p => .ok p
  | none => .error ⟨text⟩

def unknownCode (text : String) : String := s!"unknown error code `{text}`"

end Problem

def Series.problems (s : Series) : List Problem := Problem.all.filter (·.series == s)

end LexicalFrontEnd
