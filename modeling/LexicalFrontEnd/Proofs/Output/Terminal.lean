import LexicalFrontEnd.Output.Terminal
import LexicalFrontEnd.Proofs.Output.Sink

/-!
What becomes of a terminal that is told one thing after another.

It does not matter that the pieces are written one by one, nor which of them did
not fit: the sink is offered the text of all calls and keeps what fits
(`performAll_eq`).
-/

namespace LexicalFrontEnd
namespace Output
namespace Terminal

inductive Call
  | emit (d : Diagnostic)
  | emitAll (ds : List Diagnostic)
  | emitSummary (errors warnings : Nat)
  | flush
  deriving DecidableEq, Repr

namespace Call

def diagnostics : Call → List Diagnostic
  | emit d => [d]
  | emitAll ds => ds
  | emitSummary _ _ | flush => []

def pieces (colors : Bool) : Call → List String
  | emit d => report colors d
  | emitAll ds => ds.flatMap (report colors)
  | emitSummary errors warnings => summary colors errors warnings
  | flush => []

end Call

/-- Do what one is told.  A terminal keeps nothing back, so there is nothing to flush. -/
def perform (t : Terminal) : Call → Terminal
  | .emit d => t.emit d
  | .emitAll ds => t.emitAll ds
  | .emitSummary errors warnings => t.emitSummary errors warnings
  | .flush => t

def performAll (t : Terminal) (calls : List Call) : Terminal := calls.foldl perform t

theorem emitAll_eq (t : Terminal) (ds : List Diagnostic) :
    t.emitAll ds = { t with sink := t.sink.keep (bytesOf (ds.flatMap (report t.colors))) } := by
  rw [emitAll]
  induction ds generalizing t with
  | nil => exact (congrArg (Terminal.mk t.colors) t.sink.keep_nil).symm
  | cons d ds ih =>
    rw [List.foldl_cons, ih, List.flatMap_cons, bytesOf_append, Sink.keep_append, emit,
      Sink.offerAll_eq]

theorem perform_eq (t : Terminal) (call : Call) :
    t.perform call = { t with sink := t.sink.keep (bytesOf (call.pieces t.colors)) } := by
  cases call with
  | emit d => exact congrArg (Terminal.mk t.colors) (t.sink.offerAll_eq _)
  | emitAll ds => exact t.emitAll_eq ds
  | emitSummary errors warnings => exact congrArg (Terminal.mk t.colors) (t.sink.offerAll_eq _)
  | flush => exact (congrArg (Terminal.mk t.colors) t.sink.keep_nil).symm

/-- The calls come to offering the text of all of them at once. -/
theorem performAll_eq (t : Terminal) (calls : List Call) :
    t.performAll calls =
      { t with sink := t.sink.keep (bytesOf (calls.flatMap (Call.pieces t.colors))) } := by
  rw [performAll]
  induction calls generalizing t with
  | nil => exact (congrArg (Terminal.mk t.colors) t.sink.keep_nil).symm
  | cons call calls ih =>
    rw [List.foldl_cons, ih, perform_eq, List.flatMap_cons, bytesOf_append, Sink.keep_append]

end Terminal
end Output
end LexicalFrontEnd
