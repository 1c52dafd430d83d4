import LexicalFrontEnd.Diagnostic.Problem
import LexicalFrontEnd.Operator
import LexicalFrontEnd.Token

/-!
Diagnostics, and the log that collects them.
-/

namespace LexicalFrontEnd

structure Diagnostic where
  problem : Problem
  severity : Severity
  message : String
  position : Position
  expected? : Option Operator
  notes : List String
  deriving DecidableEq, Repr

namespace Diagnostic

def quotesLexeme : Problem → Bool
  | .strayCharacter | .malformedReal | .malformedInteger | .unexpectedToken
  | .misplacedToken => true
  | _ => false

/-- The message for a problem with a token, where `expected?` is the operator
that should have stood there. -/
def messageFor (problem : Problem) (lexeme : String) (expected? : Option Operator) : String :=
  if quotesLexeme problem then s!"{problem.title} `{lexeme}`"
  else
    match problem, expected? with
    | .missingOperator, some o => s!"{problem.title}: expected `{o.render}`"
    | _, _ => problem.title

/-- The report of a problem with a token.  An expected operator is kept only
where one is missing. -/
def create (problem : Problem) (token : Token) (expected? : Option Operator) : Diagnostic where
  problem
  severity := problem.severity
  message := messageFor problem token.lexeme expected?
  position := token.position
  expected? := if problem = .missingOperator then expected? else none
  notes := []

def withNote (d : Diagnostic) (note : String) : Diagnostic := { d with notes := d.notes ++ [note] }

def withSeverity (d : Diagnostic) (severity : Severity) : Diagnostic := { d with severity }

def code (d : Diagnostic) : String := d.problem.code

def isError (d : Diagnostic) : Bool := d.severity.isError

def isWarning (d : Diagnostic) : Bool := d.severity == .warning

def isCritical (d : Diagnostic) : Bool := d.severity == .critical

/-- The report in plain text: one line, and one more for each note. -/
def render (d : Diagnostic) : String :=
  let headline := s!"{d.code} [{d.position.render}] {d.severity.render}: {d.message}"
  d.notes.foldl (fun text note => text ++ "\n  = note: " ++ note) headline

end Diagnostic

/-- The diagnostics of one run in the order in which they were reported.  The log
only grows. -/
structure Log where
  entries : Array Diagnostic
  deriving DecidableEq, Repr

namespace Log

def empty : Log := ⟨#[]⟩

def push (log : Log) (d : Diagnostic) : Log := ⟨log.entries.push d⟩

def toList (log : Log) : List Diagnostic := log.entries.toList

def size (log : Log) : Nat := log.entries.size

def isEmpty (log : Log) : Bool := log.entries.isEmpty

def last? (log : Log) : Option Diagnostic := log.entries.back?

def errorCount (log : Log) : Nat := log.toList.countP Diagnostic.isError

def warningCount (log : Log) : Nat := log.toList.countP Diagnostic.isWarning

def hasCritical (log : Log) : Bool := log.toList.any Diagnostic.isCritical

theorem toList_empty : empty.toList = [] := rfl

theorem toList_push (log : Log) (d : Diagnostic) : (log.push d).toList = log.toList ++ [d] := by
  simp [toList, push]

theorem size_eq_length_toList (log : Log) : log.size = log.toList.length := by
  simp [size, toList]

end Log
end LexicalFrontEnd
