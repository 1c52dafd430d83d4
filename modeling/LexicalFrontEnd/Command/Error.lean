import LexicalFrontEnd.Diagnostic.Problem
import LexicalFrontEnd.Output.Terminal

/-!
What a command can fail with.  Problems of the text that a command reads are no
failures of the command; they are reported as diagnostics.
-/

namespace LexicalFrontEnd
namespace Command

inductive FileError
  | notFound
  | permissionDenied
  | notDirectory
  | isDirectory
  | nameTooLong
  | other (message : String)
  deriving DecidableEq, Repr

def FileError.message : FileError → String
  | notFound => "No such file or directory (os error 2)"
  | permissionDenied => "Permission denied (os error 13)"
  | notDirectory => "Not a directory (os error 20)"
  | isDirectory => "Is a directory (os error 21)"
  | nameTooLong => "File name too long (os error 36)"
  | other message => message

inductive Error
  | unreadable (path : String) (cause : FileError)
  | unwritable (path : String) (cause : FileError)
  | outputFailed (cause : String)
  | unknownCode (text : String)
  | badCapacity (text : String)
  | unknownColor (name : String)
  | unknownOption (argument : String)
  | missingArgument (what : String)
  deriving DecidableEq, Repr

namespace Error

def message : Error → String
  | unreadable path cause => s!"cannot read '{path}': {cause.message}"
  | unwritable path cause => s!"cannot write '{path}': {cause.message}"
  | outputFailed cause => s!"failed to write output: {cause}"
  | unknownCode text => Problem.unknownCode text
  | badCapacity text => s!"invalid buffer size `{text}` (expected a positive integer)"
  | unknownColor name => Output.ColorMode.unknownName name
  | unknownOption argument => s!"unknown option `{argument}`"
  | missingArgument what => s!"missing {what}"

/-- Whether the command was called in a way that it does not know, so that its
usage helps. -/
def isMisuse : Error → Bool
  | unknownOption _ | missingArgument _ => true
  | _ => false

end Error
end Command
end LexicalFrontEnd
