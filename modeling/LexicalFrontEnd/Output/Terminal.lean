import LexicalFrontEnd.Diagnostic.Basic
import LexicalFrontEnd.Output.Sink

/-!
Diagnostics as a person reads them on a terminal, in colour or without.

A report is a list of pieces, and colour changes pieces only by putting a style
before and a reset after some of them.  A terminal takes every piece that fits
and does not complain about the others: there is nowhere to complain to.
-/

namespace LexicalFrontEnd
namespace Output

inductive ColorMode
  | auto | always | never
  deriving DecidableEq, Repr

namespace ColorMode

def useColors (mode : ColorMode) (isTerminal : Bool) : Bool :=
  match mode with
  | auto => isTerminal
  | always => true
  | never => false

def ofName? (name : String) : Option ColorMode :=
  if name = "auto" then some auto
  else if name = "always" then some always
  else if name = "never" then some never
  else none

def unknownName (name : String) : String :=
  s!"invalid color mode `{name}` (expected auto, always or never)"

end ColorMode

inductive Style
  | warning | error | critical | strong | place
  deriving DecidableEq, Repr

namespace Style

def start : Style → String
  | warning => "\x1b[1;33m"
  | error => "\x1b[1;31m"
  | critical => "\x1b[1;35m"
  | strong => "\x1b[1m"
  | place => "\x1b[1;34m"

def reset : String := "\x1b[0m"

def ofSeverity : Severity → Style
  | .warning => warning
  | .error => error
  | .critical => critical

def paint (style : Style) (colors : Bool) (text : String) : String :=
  if colors then style.start ++ text ++ reset else text

end Style

def plural (n : Nat) : String := if n = 1 then "" else "s"

/-- The report of a diagnostic: a headline, the place, the expected operator and
the notes, and an empty line. -/
def report (colors : Bool) (d : Diagnostic) : List String :=
  let expected := match d.expected? with
    | some o => [s!"  = expected: `{o.render}`\n"]
    | none => []
  let notes := d.notes.flatMap fun note =>
    ["  = ", Style.strong.paint colors "note", s!": {note}\n"]
  [(Style.ofSeverity d.severity).paint colors d.severity.render,
   Style.strong.paint colors s!"[{d.code}]",
   s!": {d.message}\n",
   "  --> ", Style.place.paint colors d.position.render, "\n"]
    ++ expected ++ notes ++ ["\n"]

/-- The closing line of a run with so many errors and warnings; nothing is said
about a run without any. -/
def summary (colors : Bool) (errors warnings : Nat) : List String :=
  let emitted := s!"{warnings} warning{plural warnings} emitted"
  if 0 < errors then
    let causes := if errors = 1 then "previous error" else s!"{errors} previous errors"
    let also := if 0 < warnings then "; " ++ emitted else ""
    [Style.error.paint colors "error", s!": aborting due to {causes}{also}\n"]
  else if 0 < warnings then
    [Style.warning.paint colors "warning", s!": {emitted}\n"]
  else []

structure Terminal where
  colors : Bool
  sink : Sink
  deriving DecidableEq, Repr

namespace Terminal

def emit (t : Terminal) (d : Diagnostic) : Terminal :=
  { t with sink := t.sink.offerAll (report t.colors d) }

def emitAll (t : Terminal) (ds : List Diagnostic) : Terminal := ds.foldl emit t

def emitSummary (t : Terminal) (errors warnings : Nat) : Terminal :=
  { t with sink := t.sink.offerAll (summary t.colors errors warnings) }

end Terminal
end Output
end LexicalFrontEnd
