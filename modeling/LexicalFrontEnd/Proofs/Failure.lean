import LexicalFrontEnd.Proofs.Scan
import LexicalFrontEnd.Proofs.Source.Fault
import LexicalFrontEnd.Proofs.Span

/-!
Sources that fail.

A source that fails behind a text costs the lexeme at the end of the text, and
nothing else: every lexeme that ends before has one character behind it, which
is all that reading it looks at.  Such a source is scanned into the lexemes of
the text that end before the text does, and then into one report
(`read_of_unreadable`).
-/

namespace LexicalFrontEnd

open Lexeme

namespace Session

variable {s : Session} {cursor : Cursor}

/-- A scan that meets the failure is the last one. -/
theorem scanOnto_of_failed (done : List (Outcome × Token)) {failure : ReadFailure}
    {start? : Option Position} (hstate : s.state = .ready cursor)
    (h : cursor.scan s.lexicon = .failed failure start?) :
    (s.scanOnto done).scans = done.reverse ∧
      (s.scanOnto done).last = .fatal failure.report ∧
      (s.scanOnto done).session.log.toList = s.log.toList ++ [failure.report] ∧
      (s.scanOnto done).session.state = .failed := by
  rw [scanOnto_of_last done (scan_of_failed hstate h) Bool.false_ne_true]
  exact ⟨rfl, rfl, Log.toList_push _ _, rfl⟩

/-- A session before a text that a failure cuts goes through the lexemes that end
before the cut. -/
theorem scanOnto_of_cut {lexicon : Lexicon} {p : Position} {text : List Char}
    {found : List Placed} (h : Reading lexicon p text found) (before : Nat)
    (e : Source.SourceError) (done : List (Outcome × Token)) {s : Session}
    (hlexicon : s.lexicon = lexicon) (hstate : s.state = .ready ⟨p, text, some e⟩) :
    let inner := innerBehind lexicon p before text
    let failure : ReadFailure := ⟨e, p.afterText text⟩
    (s.scanOnto done).scans = done.reverse ++ inner.map (fun x => (x.outcome, x.token)) ∧
      (s.scanOnto done).last = .fatal failure.report ∧
      (s.scanOnto done).session.log.toList =
        s.log.toList ++ inner.filterMap (·.complaint?) ++ [failure.report] ∧
      (s.scanOnto done).session.state = .failed := by
  induction h generalizing s done before with
  | @gap p gap hgap =>
    rw [innerBehind_gap hgap]
    simpa using scanOnto_of_failed done hstate (Cursor.scan_gap_cut hgap s.lexicon)
  | @lexeme p gap c rest later hgap hstart hlater ih =>
    by_cases hlt : (Lexeme.read lexicon c rest).width < (c :: rest).length
    · rw [innerBehind_lexeme hgap hstart hlt]
      generalize hx : Placed.mk (Lexeme.read lexicon c rest) ((p.afterText gap).after c) = x
      have hrun := scanOnto_of_found (x := x) done hstate (by
        rw [hlexicon, ← hx]
        exact Cursor.scan_lexeme_kept hgap hstart hlt (some e))
      obtain ⟨hscans, hlast, hlog, hfailed⟩ :=
        ih (before + (gap.length + (Lexeme.read lexicon c rest).width))
          ((x.outcome, x.token) :: done) (s := s.afterPlaced x _) hlexicon rfl
      rw [← Position.afterText_append, List.append_assoc gap, List.take_append_drop] at hlast hlog
      rw [hrun]
      refine ⟨?_, hlast, ?_, hfailed⟩
      · rw [hscans, List.reverse_cons, List.append_assoc]
        rfl
      · rw [hlog, toList_log_afterPlaced, List.append_assoc s.log.toList, List.filterMap_cons]
        cases x.complaint? <;> rfl
    · rw [Nat.not_lt] at hlt
      obtain ⟨start?, hscan⟩ := Cursor.scan_cut (p := p) (e := e) hgap hstart hlt
      rw [innerBehind_last hgap hstart hlt]
      rw [← hlexicon] at hscan
      simpa using scanOnto_of_failed done hstate hscan

theorem attach_of_unreadable (s : Session) {r : Source.Reader} {text : List Char}
    {rest : List Source.Signal} {e : Source.SourceError}
    (hsignals : r.signals = (Text.Utf8.encode text).map .byte ++ rest)
    (hrest : Source.Unreadable rest)
    (he : Source.Stream.fault ⟨rest, (Text.Utf8.encode text).length⟩ = e) :
    s.attach r =
      if text = [] then (.error (s.fail e .start).1, (s.fail e .start).2)
      else (.ok (), { s with state := .ready ⟨.start, text, some e⟩ }) := by
  have hdeliver := Source.Stream.deliver_of_unreadable text hrest 0
  rw [← hsignals, Nat.zero_add, he] at hdeliver
  rw [attach_eq, Source.Reader.stream, hdeliver]
  cases text <;> rfl

/-- Behind a text nothing can be read any more.  Without a text the source cannot
be opened.  With one, scanning it brings what scanning the text alone brings of
the lexemes that end before the text, and then one report: it stands at the last
character of the text and says why there is no more. -/
theorem read_of_unreadable (s : Session) (r : Source.Reader) (text : List Char)
    (rest : List Source.Signal)
    (hsignals : r.signals = (Text.Utf8.encode text).map .byte ++ rest)
    (hrest : Source.Unreadable rest) :
    ∃ d : Diagnostic,
      d.problem = .unreadableSource ∧ d.severity = .critical ∧
      d.position = Position.start.afterText text ∧
      d.notes = [(Source.Stream.fault ⟨rest, (Text.Utf8.encode text).length⟩).message] ∧
      if text = [] then
        (s.attach r).1 = .error d ∧ (s.attach r).2.log.toList = s.log.toList ++ [d]
      else
        let whole := s.read (.ofBytes (Text.Utf8.encode text))
        let run := s.read r
        let lexemes := spans s.lexicon text
        let inner := lexemes.filter (·.stop < text.length)
        (s.attach r).1 = .ok () ∧
        whole.scans = lexemes.map (fun x => (x.outcome, x.token)) ∧
        (s.lexicon = .standard →
          ∀ capacity, (tokenize (String.ofList text) capacity).1 = lexemes.map (·.token)) ∧
        run.scans = inner.map (fun x => (x.outcome, x.token)) ∧
        run.last = .fatal d ∧
        run.session.log.toList = s.log.toList ++ inner.filterMap (·.complaint?) ++ [d] ∧
        run.session.scan = (.exhausted, run.session) := by
  generalize he : Source.Stream.fault ⟨rest, (Text.Utf8.encode text).length⟩ = e
  have hattach := s.attach_of_unreadable hsignals hrest he
  refine ⟨ReadFailure.report ⟨e, Position.start.afterText text⟩, rfl, rfl, rfl, rfl, ?_⟩
  by_cases htext : text = []
  · rw [if_pos htext] at hattach ⊢
    rw [hattach, htext]
    exact ⟨rfl, Log.toList_push _ _⟩
  · rw [if_neg htext] at hattach ⊢
    obtain ⟨found, hfound⟩ := exists_reading s.lexicon .start text
    obtain ⟨hscans, hlast, hlog, hfailed⟩ :=
      scanOnto_of_cut hfound 0 e [] (s := { s with state := .ready ⟨.start, text, some e⟩ }) rfl rfl
    have hinner : innerBehind s.lexicon .start 0 text =
        (spans s.lexicon text).filter (·.stop < text.length) := by
      rw [innerBehind, Nat.zero_add]
      rfl
    rw [hinner] at hscans hlog
    have hrun : s.read r = scanAll { s with state := .ready ⟨.start, text, some e⟩ } := by
      rw [read, hattach]
    rw [hrun, hattach]
    refine ⟨rfl, s.scans_eq_spans text, ?_, hscans, hlast, hlog, ?_⟩
    · intro hlexicon capacity
      rw [tokens_eq_spans, String.toList_ofList, hlexicon]
    · rw [scan, scanAll, hfailed]

/-- The failure strikes behind an opening quote; the closing one stands behind
it. -/
theorem read_of_unreadable_open_quote :
    let r : Source.Reader :=
      ⟨[.data [0x61, 0x20], .interrupt, .data [0x27, 0x78], .failure "gone", .data [0x27]], some 1⟩
    let text : List Char := ['a', ' ', '\'', 'x']
    let rest : List Source.Signal := [.failure "gone", .byte 0x27]
    r.signals = (Text.Utf8.encode text).map .byte ++ rest ∧ Source.Unreadable rest ∧
      ((standard 0).read r).scans = [(.token, ⟨"a", .identifier, none, ⟨1, 1⟩⟩)] ∧
      ∃ d, ((standard 0).read r).last = .fatal d ∧ d.position = ⟨1, 4⟩ ∧
        d.notes = ["failed to read source: gone"] := by
  intro r text rest
  have hsignals : r.signals = (Text.Utf8.encode text).map .byte ++ rest := by decide
  have hrest : Source.Unreadable rest := Source.unreadable_failure "gone" _
  obtain ⟨d, -, -, hposition, hnotes, h⟩ :=
    read_of_unreadable (standard 0) r text rest hsignals hrest
  rw [if_neg (List.cons_ne_nil _ _)] at h
  obtain ⟨-, -, -, hscans, hlast, -⟩ := h
  refine ⟨hsignals, hrest, ?_, d, hlast, hposition, hnotes⟩
  rw [hscans]
  decide +kernel

/-! ## The token behind a failure -/

/-- A scan that meets the failure of its source leaves the token as it was if no
lexeme has started.  Inside a lexeme it has put an empty token where the lexeme
starts. -/
theorem token_of_fatal {s t : Session} {d : Diagnostic} (h : s.scan = (.fatal d, t)) :
    ∃ cursor, s.state = .ready cursor ∧
      ((Cursor.BetweenLexemes cursor.rest ∧ t.token = s.token) ∨
        (¬Cursor.BetweenLexemes cursor.rest ∧
          ∃ gap c rest, cursor.rest = gap ++ c :: rest ∧ Gap false gap ∧ Starts c rest ∧
            t.token = .startingAt ((cursor.before.afterText gap).after c))) := by
  rcases s.scan_cases with ⟨_, x, behind, -, -, hs⟩ |
    ⟨cursor, failure, start?, hstate, hscan, hs⟩ | ⟨_, -, -, hs⟩ | ⟨-, hs⟩
  · have hfatal : x.outcome = .fatal d := (Prod.mk.inj (hs.symm.trans h)).1
    have htoken := x.hasToken_outcome
    rw [hfatal] at htoken
    exact absurd htoken Bool.false_ne_true
  · have ht : s.afterFailure failure start? = t := (Prod.mk.inj (hs.symm.trans h)).2
    refine ⟨cursor, hstate, ?_⟩
    rw [← ht]
    have hscanned := Cursor.scanned s.lexicon cursor
    rw [hscan] at hscanned
    cases hscanned with
    | between hbetween => exact Or.inl ⟨hbetween, rfl⟩
    | inside hgap hstart hslash =>
      exact Or.inr ⟨Cursor.not_betweenLexemes hgap hstart hslash,
        _, _, _, rfl, hgap, hstart, rfl⟩
  · rw [hs] at h
    cases h
  · rw [hs] at h
    cases h

/-- The failure strikes inside the second word. -/
theorem token_of_fatal_word :
    let s := ((standard 0).attach (.ofBytes [0x61, 0x20, 0x62, 0xFF])).2.scan.2
    ∃ d, s.scan = (.fatal d, s.scan.2) ∧ ∃ cursor, s.state = .ready cursor ∧
      ¬Cursor.BetweenLexemes cursor.rest ∧ ∃ start, s.scan.2.token = .startingAt start := by
  intro s
  have hfatal : s.scan.1 =
      .fatal (ReadFailure.report ⟨.invalidUtf8 3, ⟨1, 3⟩⟩) := by decide +kernel
  have hkept : s.scan.2.token ≠ s.token := by decide +kernel
  have hscan := Prod.ext (y := (_, s.scan.2)) hfatal rfl
  obtain ⟨cursor, hready, ⟨-, hsame⟩ | ⟨hinside, _, _, _, -, -, -, htoken⟩⟩ :=
    token_of_fatal hscan
  · exact absurd hsame hkept
  · exact ⟨_, hscan, cursor, hready, hinside, _, htoken⟩

/-- There the token of the first word is lost. -/
theorem token_ne_of_fatal :
    let s := ((standard 0).attach (.ofBytes [0x61, 0x20, 0x62, 0xFF])).2.scan.2
    s.scan.1.isFatal = true ∧ s.token = ⟨"a", .identifier, none, ⟨1, 1⟩⟩ ∧
      s.scan.2.token = ⟨"", .invalid, none, ⟨1, 3⟩⟩ := by
  decide +kernel

end Session

end LexicalFrontEnd
