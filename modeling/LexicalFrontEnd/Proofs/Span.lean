import LexicalFrontEnd.Proofs.Reading

/-!
Where lexemes end.

`spans` lists the lexemes of a text with the number of characters up to the end
of each.  They are the lexemes of its reading (`Reading.map_spans`), so a whole
text is tokenized into them, and what a scan can know before it has seen all of
the text is said by comparing an end with a length.
-/

namespace LexicalFrontEnd

open Lexeme

/-- A lexeme in a text; `stop` characters of the text lead to its end. -/
structure Span extends Placed where
  stop : Nat
  deriving DecidableEq, Repr

theorem length_behind_lt {text rest : List Char} {c : Char} {gap : Nat}
    (h : text.drop gap = c :: rest) (lexicon : Lexicon) :
    (text.drop (gap + (read lexicon c rest).width)).length < text.length := by
  have hpos := width_read_pos lexicon c rest
  have hlength := congrArg List.length h
  rw [List.length_drop, List.length_cons] at hlength
  rw [List.length_drop]
  omega

/-- The lexemes of a text that stands at the place `p` behind `before`
characters. -/
def spansBehind (lexicon : Lexicon) (p : Position) (before : Nat) (text : List Char) : List Span :=
  let gap := Trivia.width text
  match h : text.drop gap with
  | [] => []
  | c :: rest =>
    let lexeme := read lexicon c rest
    let taken := gap + lexeme.width
    have := length_behind_lt h lexicon
    ⟨⟨lexeme, (p.afterText (text.take gap)).after c⟩, before + taken⟩ ::
      spansBehind lexicon (p.afterText (text.take taken)) (before + taken) (text.drop taken)
termination_by text.length
decreasing_by assumption

def spans (lexicon : Lexicon) (text : List Char) : List Span := spansBehind lexicon .start 0 text

section

variable {lexicon : Lexicon} {gap rest : List Char} {c : Char}

theorem spansBehind_gap (h : Gap true gap) (p : Position) (before : Nat) :
    spansBehind lexicon p before gap = [] := by
  rw [spansBehind]
  split
  · rfl
  · rename_i hdrop
    rw [width_gap h, List.drop_length] at hdrop
    cases hdrop

theorem spansBehind_lexeme (hgap : Gap false gap) (hstart : Starts c rest) (p : Position)
    (before : Nat) :
    spansBehind lexicon p before (gap ++ c :: rest) =
      ⟨⟨read lexicon c rest, (p.afterText gap).after c⟩,
          before + (gap.length + (read lexicon c rest).width)⟩ ::
        spansBehind lexicon
          (p.afterText (gap ++ (c :: rest).take (read lexicon c rest).width))
          (before + (gap.length + (read lexicon c rest).width))
          ((c :: rest).drop (read lexicon c rest).width) := by
  rw [spansBehind]
  split
  · rename_i hdrop
    rw [width_gap_append hgap hstart, List.drop_left] at hdrop
    cases hdrop
  · rename_i hdrop
    rw [width_gap_append hgap hstart, List.drop_left] at hdrop
    cases hdrop
    simp only [width_gap_append hgap hstart, List.take_left, List.take_length_add_append,
      List.drop_length_add_append]

def innerBehind (lexicon : Lexicon) (p : Position) (before : Nat) (text : List Char) : List Span :=
  (spansBehind lexicon p before text).filter (·.stop < before + text.length)

theorem innerBehind_gap (h : Gap true gap) (p : Position) (before : Nat) :
    innerBehind lexicon p before gap = [] := by
  rw [innerBehind, spansBehind_gap h, List.filter_nil]

theorem innerBehind_lexeme (hgap : Gap false gap) (hstart : Starts c rest)
    (hlt : (read lexicon c rest).width < (c :: rest).length) (p : Position) (before : Nat) :
    innerBehind lexicon p before (gap ++ c :: rest) =
      ⟨⟨read lexicon c rest, (p.afterText gap).after c⟩,
          before + (gap.length + (read lexicon c rest).width)⟩ ::
        innerBehind lexicon
          (p.afterText (gap ++ (c :: rest).take (read lexicon c rest).width))
          (before + (gap.length + (read lexicon c rest).width))
          ((c :: rest).drop (read lexicon c rest).width) := by
  have hlimit : before + (gap ++ c :: rest).length =
      before + (gap.length + (read lexicon c rest).width) +
        ((c :: rest).drop (read lexicon c rest).width).length := by
    rw [List.length_append, List.length_drop]
    omega
  rw [innerBehind, spansBehind_lexeme hgap hstart, List.filter_cons_of_pos, hlimit]
  · rfl
  · rw [decide_eq_true_eq, List.length_append]
    show before + (gap.length + _) < before + (gap.length + _)
    omega

theorem innerBehind_last (hgap : Gap false gap) (hstart : Starts c rest)
    (hle : (c :: rest).length ≤ (read lexicon c rest).width) (p : Position) (before : Nat) :
    innerBehind lexicon p before (gap ++ c :: rest) = [] := by
  rw [innerBehind, spansBehind_lexeme hgap hstart, List.drop_of_length_le hle,
    spansBehind_gap .nil, List.filter_cons_of_neg, List.filter_nil]
  rw [decide_eq_true_eq, List.length_append]
  show ¬before + (gap.length + _) < before + (gap.length + _)
  omega

end

/-- The spans of a text are those of its reading. -/
theorem Reading.map_spans {lexicon : Lexicon} {p : Position} {text : List Char}
    {found : List Placed} (h : Reading lexicon p text found) (before : Nat) :
    (spansBehind lexicon p before text).map Span.toPlaced = found := by
  induction h generalizing before with
  | gap hgap => rw [spansBehind_gap hgap, List.map_nil]
  | lexeme hgap hstart hlater ih => rw [spansBehind_lexeme hgap hstart, List.map_cons, ih]

/-- A session reads a text to its end, into the lexemes of the text. -/
theorem Session.read_eq_spans (s : Session) (text : List Char) :
    let run := s.read (.ofBytes (Text.Utf8.encode text))
    let lexemes := spans s.lexicon text
    run.scans = lexemes.map (fun x => (x.outcome, x.token)) ∧ run.last = .exhausted ∧
      run.session.log.toList = s.log.toList ++ lexemes.filterMap (·.complaint?) := by
  intro run lexemes
  obtain ⟨found, hfound⟩ := exists_reading s.lexicon .start text
  have hspans : lexemes.map Span.toPlaced = found := hfound.map_spans 0
  have hrun : run = scanAll { s with state := .ready ⟨.start, text, none⟩ } := by
    show s.read _ = _
    rw [read, attach_ofBytes_encode]
  obtain ⟨hscans, hlast, hlog⟩ := scanOnto_of_reading hfound []
    (s := { s with state := .ready ⟨.start, text, none⟩ }) rfl rfl
  rw [hrun]
  refine ⟨?_, hlast, ?_⟩
  · rw [List.reverse_nil, List.nil_append, ← hspans, List.map_map] at hscans
    exact hscans
  · rw [← hspans, List.filterMap_map] at hlog
    exact hlog

theorem Session.scans_eq_spans (s : Session) (text : List Char) :
    (s.read (.ofBytes (Text.Utf8.encode text))).scans =
      (spans s.lexicon text).map (fun x => (x.outcome, x.token)) :=
  (s.read_eq_spans text).1

/-- The tokens and the log of a text are those of its lexemes. -/
theorem tokenize_eq_spans (text : String) (capacity : Nat) :
    (tokenize text capacity).1 = (spans .standard text.toList).map (·.token) ∧
      (tokenize text capacity).2.toList =
        (spans .standard text.toList).filterMap (·.complaint?) := by
  obtain ⟨hscans, -, hlog⟩ := (Session.standard capacity).read_eq_spans text.toList
  constructor
  · rw [tokenize, hscans, List.map_map]
    rfl
  · exact hlog

theorem tokens_eq_spans (text : String) (capacity : Nat) :
    (tokenize text capacity).1 = (spans .standard text.toList).map (·.token) :=
  (tokenize_eq_spans text capacity).1

end LexicalFrontEnd
