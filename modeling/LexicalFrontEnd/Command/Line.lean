import LexicalFrontEnd.Command.Options
import LexicalFrontEnd.Listing
import LexicalFrontEnd.Reference

/-!
The command line.

What a command does is a value (`Action`): it ends with what it prints, or it asks
for a file to be read or written and goes on with the answer.  Whoever carries an
action out decides where the files are.
-/

namespace LexicalFrontEnd
namespace Command

/-- What a command leaves behind besides files. -/
structure Result where
  exitCode : Nat
  stdout : String
  stderr : String
  deriving DecidableEq, Repr

inductive Action
  | finish (result : Result)
  | readFile (path : String) (next : Except FileError Source.Reader → Action)
  | writeFile (path : String) (text : String) (next : Except FileError Unit → Action)

def version : String := "0.1.0"

def usage : String := String.join
  ["BLang compiler\n",
   "\n",
   "Usage: blang <command> [options]\n",
   "\n",
   "Commands:\n",
   "  lex <file>           Tokenize a file and display tokens\n",
   "  explain <code>       Explain an error code (e.g., TK0006)\n",
   "  docs [out-file]      Write the error and escape reference\n",
   "                       (default: documentation.txt)\n",
   "  help                 Show this help message\n",
   "  version              Show version information\n",
   "\n",
   "Lex options:\n",
   "  --buffer-size=<n>    Source read buffer size in bytes (default: 1024)\n",
   "  --color=<mode>       Diagnostic colors: auto, always, never\n",
   "\n",
   "Environment:\n",
   "  RUST_LOG             Enable logging, e.g. RUST_LOG=blang_lexer=trace\n",
   "  BLANG_LOG_TREE       Render log output as an indented tree\n"]

/-- The file that the reference goes to unless another is named. -/
def referencePath : String := "documentation.txt"

def explain (code : String) : Except Error String :=
  match Problem.parse code with
  | .ok problem => .ok (Reference.explain problem)
  | .error unknown => .error (.unknownCode unknown.text)

/-- Write the explanation to a sink, of which `fullCause` is said when it runs
full. -/
def explainTo (out : Output.Sink) (fullCause : String) (code : String) :
    Except Error Unit × Output.Sink :=
  match explain code with
  | .error e => (.error e, out)
  | .ok text =>
    match out.write text with
    | (true, out) => (.ok (), out)
    | (false, out) => (.error (.outputFailed fullCause), out)

namespace Action

def succeed (text : String) : Action := .finish ⟨0, text, ""⟩

def fail (e : Error) : Action :=
  let complaint := s!"error: {e.message}\n"
  if e.isMisuse then .finish ⟨1, usage, complaint ++ "\n"⟩ else .finish ⟨1, "", complaint⟩

def list (isTerminal : Bool) (arguments : List String) : Action :=
  match Options.parse arguments with
  | .error e => fail e
  | .ok options =>
    .readFile options.path fun
      | .error cause => fail (.unreadable options.path cause)
      | .ok reader =>
        let listing := Listing.ofReader reader options.capacity
        let count := listing.tokens.length
        let stdout := String.join
          (s!"Tokens for '{options.path}':\n" :: listing.lines
            ++ [s!"{count} token{Output.plural count}\n"])
        let stderr := String.join (listing.remarks (options.color.useColors isTerminal))
        .finish ⟨if listing.report.isClean then 0 else 1, stdout, stderr⟩

def document (path : String) : Action :=
  .writeFile path Reference.document fun
    | .error cause => fail (.unwritable path cause)
    | .ok () => succeed s!"Wrote documentation to {path}\n"

/-- What the command line asks for.  `isTerminal` tells whether diagnostics go to a
terminal. -/
def ofArguments (isTerminal : Bool) : List String → Action
  | [] => .finish ⟨1, usage, ""⟩
  | "lex" :: rest => list isTerminal rest
  | "explain" :: rest | "--explain" :: rest =>
    match rest with
    | [] => fail (.missingArgument "error code")
    | code :: _ =>
      match explain code with
      | .error e => fail e
      | .ok text => succeed text
  | "docs" :: rest => document (rest.headD referencePath)
  | "help" :: _ | "--help" :: _ | "-h" :: _ => succeed usage
  | "version" :: _ | "--version" :: _ | "-V" :: _ => succeed s!"blang {version}\n"
  | command :: _ => .finish ⟨1, usage, s!"Unknown command: {command}\n\n"⟩

end Action
end Command
end LexicalFrontEnd
