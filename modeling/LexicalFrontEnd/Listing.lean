import LexicalFrontEnd.Output.Terminal
import LexicalFrontEnd.Session

/-!
The listing of a source: a line for every token, then the diagnostics.

The lines go to one output and the diagnostics to a terminal.  If the output
takes not all of the lines, the terminal is told nothing.
-/

namespace LexicalFrontEnd

/-- Everything that was read from one source.  It is aborted if the source failed
before its end. -/
structure Listing where
  tokens : List Token
  log : Log
  aborted : Bool

namespace Listing

structure Report where
  tokens : Nat
  errors : Nat
  warnings : Nat
  aborted : Bool
  deriving DecidableEq, Repr

def Report.isClean (r : Report) : Bool := r.errors == 0 && r.warnings == 0 && !r.aborted

def ofReader (reader : Source.Reader) (capacity : Nat) : Listing :=
  let run := (Session.standard capacity).read reader
  ⟨run.scans.map Prod.snd, run.session.log, run.last.isFatal⟩

def report (l : Listing) : Report :=
  ⟨l.tokens.length, l.log.errorCount, l.log.warningCount, l.aborted⟩

def line (t : Token) : String := "  " ++ t.render ++ "\n"

def lines (l : Listing) : List String := l.tokens.map line

def remarks (l : Listing) (colors : Bool) : List String :=
  l.log.toList.flatMap (Output.report colors)
    ++ Output.summary colors l.report.errors l.report.warnings

/-- Write the lines to `out` and then the diagnostics to the terminal.  There is no
report if the lines do not fit. -/
def print (l : Listing) (out : Output.Sink) (terminal : Output.Terminal) :
    Option Report × Output.Sink × Output.Terminal :=
  match out.writeAll l.lines with
  | (false, out) => (none, out, terminal)
  | (true, out) =>
    let r := l.report
    (some r, out, (terminal.emitAll l.log.toList).emitSummary r.errors r.warnings)

end Listing
end LexicalFrontEnd
