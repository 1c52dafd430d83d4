import LexicalFrontEnd.Proofs.Output.Terminal

/-!
A terminal whose sink runs full.

Each piece of a report is written in fragments, and the writing of a piece stops at the
first fragment that does not fit.  The terminal does not notice and goes on with the next
piece.  No gap comes of it: a sink that a fragment did not fit has no room left for
anything behind, so after every call it holds as much of what all calls said as it has
room for (`performAll_limited`).
-/

namespace LexicalFrontEnd
namespace Output
namespace Terminal

/-- A way to write what calls say: every piece in fragments. -/
structure Fragments (colors : Bool) where
  fragments : Call → List (List String)
  map_fragments : ∀ call,
    (fragments call).map (·.flatMap String.toList) = (call.pieces colors).map String.toList

namespace Fragments

variable {colors : Bool}

/-- What a style puts around texts is written apart from them. -/
def painted (style : Style) (colors : Bool) (texts : List String) : List String :=
  if colors then style.start :: texts ++ [Style.reset] else texts

def ofReport (colors : Bool) (d : Diagnostic) : List (List String) :=
  let expected := match d.expected? with
    | some o => [["  = expected: `", o.render, "`\n"]]
    | none => []
  let notes := d.notes.flatMap fun note =>
    [["  = "], painted .strong colors ["note"], [": ", note, "\n"]]
  [painted (Style.ofSeverity d.severity) colors [d.severity.render],
   painted .strong colors ["[", d.code, "]"],
   [": ", d.message, "\n"],
   ["  --> "], painted .place colors [d.position.render], ["\n"]]
    ++ expected ++ notes ++ [["\n"]]

def ofSummary (colors : Bool) (errors warnings : Nat) : List (List String) :=
  let emitted := [toString warnings, " warning", plural warnings, " emitted"]
  if 0 < errors then
    let causes := if errors = 1 then "previous error" else s!"{errors} previous errors"
    let also := if 0 < warnings then "; " :: emitted else []
    [painted .error colors ["error"], [": aborting due to ", causes] ++ also ++ ["\n"]]
  else if 0 < warnings then
    [painted .warning colors ["warning"], [": "] ++ emitted ++ ["\n"]]
  else []

theorem flatMap_painted (style : Style) (colors : Bool) {texts : List String} {text : String}
    (h : texts.flatMap String.toList = text.toList) :
    (painted style colors texts).flatMap String.toList = (style.paint colors text).toList := by
  cases colors with
  | false => exact h
  | true =>
    show (style.start :: texts ++ [Style.reset]).flatMap String.toList = _
    rw [List.flatMap_append, List.flatMap_cons, h, List.flatMap_singleton, Style.paint, if_pos rfl,
      String.toList_append, String.toList_append]

theorem flatMap_painted_singleton (style : Style) (colors : Bool) (text : String) :
    (painted style colors [text]).flatMap String.toList = (style.paint colors text).toList :=
  flatMap_painted style colors (List.flatMap_singleton ..)

theorem map_ofReport (colors : Bool) (d : Diagnostic) :
    (ofReport colors d).map (·.flatMap String.toList) = (report colors d).map String.toList := by
  have hcode : ["[", d.code, "]"].flatMap String.toList = s!"[{d.code}]".toList := by
    simp [toString]
  rw [ofReport, report]
  simp only [List.map_append, List.map_cons, List.map_nil, flatMap_painted _ colors hcode,
    flatMap_painted_singleton]
  cases d.expected? <;> simp [toString, List.map_flatMap, flatMap_painted_singleton]

theorem map_ofSummary (colors : Bool) (errors warnings : Nat) :
    (ofSummary colors errors warnings).map (·.flatMap String.toList) =
      (summary colors errors warnings).map String.toList := by
  rw [ofSummary, summary]
  by_cases herrors : 0 < errors <;> by_cases hwarnings : 0 < warnings <;>
    simp [herrors, hwarnings, toString, flatMap_painted_singleton]

def byField (colors : Bool) : Fragments colors where
  fragments
    | .emit d => ofReport colors d
    | .emitAll ds => ds.flatMap (ofReport colors)
    | .emitSummary errors warnings => ofSummary colors errors warnings
    | .flush => []
  map_fragments call := by
    cases call with
    | emit d => exact map_ofReport colors d
    | emitAll ds => simp only [List.map_flatMap, map_ofReport, Call.pieces]
    | emitSummary errors warnings => exact map_ofSummary colors errors warnings
    | flush => rfl

/-- Write the fragments of every piece up to the first that does not fit, whether the
pieces before it fitted or not. -/
def perform (f : Fragments colors) (s : Sink) (call : Call) : Sink :=
  (f.fragments call).foldl (fun s fragments => (s.writeAll fragments).2) s

def performAll (f : Fragments colors) (s : Sink) (calls : List Call) : Sink :=
  calls.foldl f.perform s

theorem bytesOf_fragments (f : Fragments colors) (call : Call) :
    (f.fragments call).flatMap bytesOf = bytesOf (call.pieces colors) := by
  calc (f.fragments call).flatMap bytesOf
      = ((f.fragments call).map (·.flatMap String.toList)).flatMap Text.Utf8.encode := by
        rw [List.flatMap_map, funext bytesOf_eq_encode]
    _ = ((call.pieces colors).map String.toList).flatMap Text.Utf8.encode := by
        rw [f.map_fragments]
    _ = bytesOf (call.pieces colors) := by
        rw [List.flatMap_map, bytesOf]

theorem perform_eq (f : Fragments colors) (s : Sink) (call : Call) :
    f.perform s call = s.keep (bytesOf (call.pieces colors)) := by
  rw [perform, ← f.bytesOf_fragments]
  induction f.fragments call generalizing s with
  | nil => exact s.keep_nil.symm
  | cons fragments rest ih =>
    rw [List.foldl_cons, ih, Sink.writeAll_eq, List.flatMap_cons, Sink.keep_append]

/-- Fragments come to the same as whole pieces. -/
theorem performAll_eq (f : Fragments colors) (s : Sink) (calls : List Call) :
    f.performAll s calls = ((Terminal.mk colors s).performAll calls).sink := by
  rw [performAll, Terminal.performAll]
  induction calls generalizing s with
  | nil => rfl
  | cons call calls ih =>
    rw [List.foldl_cons, List.foldl_cons, ih, perform_eq, Terminal.perform_eq]

end Fragments

/-- A sink that takes the first bytes only has, after every call, just these bytes of what
the same calls write without a limit, in whatever fragments the terminal writes; and
that is everything that the calls say. -/
theorem performAll_limited (mode : ColorMode) (isTerminal : Bool)
    (f : Fragments (mode.useColors isTerminal)) (limit : Nat) (calls : List Call) (k : Nat) :
    let colors := mode.useColors isTerminal
    let done := calls.take k
    let full := (Terminal.mk colors (.ofLimit none)).performAll done
    let cut := (Terminal.mk colors (.ofLimit (some limit))).performAll done
    cut.sink.written.toList = full.sink.written.toList.take limit ∧
    full.sink.written.toList = bytesOf (done.flatMap (Call.pieces colors)) ∧
    f.performAll (.ofLimit (some limit)) done = cut.sink ∧
    f.performAll (.ofLimit none) done = full.sink := by
  intro colors done full cut
  have hfull : full.sink.written.toList = bytesOf (done.flatMap (Call.pieces colors)) := by
    show (Terminal.performAll _ _).sink.written.toList = _
    rw [performAll_eq]
    exact Sink.toList_written_keep rfl _
  refine ⟨?_, hfull, f.performAll_eq _ done, f.performAll_eq _ done⟩
  show (Terminal.performAll _ _).sink.written.toList = _
  rw [hfull, performAll_eq, Sink.keep_ofLimit]

/-- The message is cut in the middle of its second letter, and what is behind it is lost. -/
example :
    let d : Diagnostic := ⟨.emptyCharacter, .error, "né", ⟨1, 2⟩, none, ["gone"]⟩
    let sink := Sink.ofLimit (some 17)
    let calls : List Call := [.emit d, .emitSummary 1 0, .flush]
    ((Fragments.byField false).performAll sink calls).written.toList =
      Text.Utf8.encode "error[TK0004]: n".toList ++ [0xC3] := by
  decide +kernel

end Terminal
end Output
end LexicalFrontEnd
