import LexicalFrontEnd.Proofs.Lexeme.Gap
import LexicalFrontEnd.Proofs.Run
import LexicalFrontEnd.Proofs.Text.Utf8

/-!
What is read out of a text.

A source that does not fail is a text, and a text splits into gaps and lexemes.
`Reading` says which lexemes these are and where they start, without a session
and its states.  Every text has a reading (`exists_reading`), and tokenizing a
text brings the tokens of its reading and logs its complaints
(`tokens_of_reading`, `log_of_reading`).  A property of all tokens of a text
is therefore proved by induction on a reading.
-/

namespace LexicalFrontEnd

open Lexeme

/-- The lexemes of a text behind the place `p`. -/
inductive Reading (lexicon : Lexicon) : Position → List Char → List Placed → Prop
  | gap {p : Position} {gap : List Char} : Gap true gap → Reading lexicon p gap []
  | lexeme {p : Position} {gap : List Char} {c : Char} {rest : List Char} {later : List Placed} :
    Gap false gap → Starts c rest →
    Reading lexicon (p.afterText (gap ++ (c :: rest).take (read lexicon c rest).width))
      ((c :: rest).drop (read lexicon c rest).width) later →
    Reading lexicon p (gap ++ c :: rest)
      (⟨read lexicon c rest, (p.afterText gap).after c⟩ :: later)

theorem exists_reading (lexicon : Lexicon) (p : Position) (text : List Char) :
    ∃ found, Reading lexicon p text found := by
  -- On the length: a lexeme takes at least one character away.
  induction hn : text.length using Nat.strongRecOn generalizing p text with
  | ind n ih =>
    rcases gap_or_start text with hgap | ⟨gap, c, rest, rfl, hgap, hstart⟩
    · exact ⟨[], .gap hgap⟩
    · have hlt : ((c :: rest).drop (read lexicon c rest).width).length < n := by
        have hpos := width_read_pos lexicon c rest
        rw [List.length_append, List.length_cons] at hn
        rw [List.length_drop, List.length_cons]
        omega
      obtain ⟨later, hlater⟩ := ih _ hlt
        (p.afterText (gap ++ (c :: rest).take (read lexicon c rest).width)) _ rfl
      exact ⟨_, .lexeme hgap hstart hlater⟩

namespace Cursor

theorem advanceBy_text (p : Position) (text : List Char) (n : Nat) :
    advanceBy ⟨p, text, none⟩ n = .ok ⟨p.afterText (text.take n), text.drop n, none⟩ := by
  rw [advanceBy, walk_eq]
  show moveTo _ _ (text.drop n) = _
  cases text.drop n <;> rfl

theorem skipTrivia_text (p : Position) (text : List Char) :
    skipTrivia ⟨p, text, none⟩ =
      .ok ⟨p.afterText (text.take (Trivia.width text)), text.drop (Trivia.width text), none⟩ := by
  rw [skipTrivia, advanceBy_text]
  show (if _ then _ else _) = _
  split
  · rw [lookAhead, advanceBy_text]
    rfl
  · rfl

theorem scan_gap {gap : List Char} (h : Gap true gap) (lexicon : Lexicon) (p : Position) :
    scan lexicon ⟨p, gap, none⟩ = .exhausted := by
  rw [scan, skipTrivia_text, width_gap h, List.drop_length]

theorem scan_lexeme {gap : List Char} {c : Char} {rest : List Char} (hgap : Gap false gap)
    (hstart : Starts c rest) (lexicon : Lexicon) (p : Position) :
    scan lexicon ⟨p, gap ++ c :: rest, none⟩ =
      .found (read lexicon c rest) ((p.afterText gap).after c)
        ⟨p.afterText (gap ++ (c :: rest).take (read lexicon c rest).width),
          (c :: rest).drop (read lexicon c rest).width, none⟩ := by
  rw [scan, skipTrivia_text, width_gap_append hgap hstart, List.take_left, List.drop_left]
  simp only
  rw [advanceBy_text, Position.afterText_append]

end Cursor

namespace Session

/-- A session before a text goes through the lexemes of the text. -/
theorem scanOnto_of_reading {lexicon : Lexicon} {p : Position} {text : List Char}
    {found : List Placed} (h : Reading lexicon p text found) (done : List (Outcome × Token))
    {s : Session} (hlexicon : s.lexicon = lexicon) (hstate : s.state = .ready ⟨p, text, none⟩) :
    (s.scanOnto done).scans = done.reverse ++ found.map (fun x => (x.outcome, x.token)) ∧
      (s.scanOnto done).last = .exhausted ∧
      (s.scanOnto done).session.log.toList =
        s.log.toList ++ found.filterMap Placed.complaint? := by
  induction h generalizing s done with
  | @gap p gap hgap =>
    have hscan := scan_of_exhausted hstate (Cursor.scan_gap hgap s.lexicon p)
    rw [scanOnto_of_last done hscan Bool.false_ne_true]
    exact ⟨(List.append_nil _).symm, rfl, (List.append_nil _).symm⟩
  | @lexeme p gap c rest later hgap hstart hlater ih =>
    generalize hx : Placed.mk (Lexeme.read lexicon c rest) ((p.afterText gap).after c) = x
    have hrun := scanOnto_of_found (x := x) done hstate (by
      rw [hlexicon, ← hx]
      exact Cursor.scan_lexeme hgap hstart lexicon p)
    obtain ⟨hscans, hlast, hlog⟩ :=
      ih ((x.outcome, x.token) :: done) (s := s.afterPlaced x _) hlexicon rfl
    rw [hrun]
    refine ⟨?_, hlast, ?_⟩
    · rw [hscans, List.reverse_cons, List.append_assoc]
      rfl
    · rw [hlog, toList_log_afterPlaced, List.append_assoc, List.filterMap_cons]
      cases x.complaint? <;> rfl

end Session

section Tokenize

variable {text : String} {found : List Placed}

theorem tokenize_eq (text : String) (capacity : Nat) :
    tokenize text capacity =
      let run := Session.scanAll
        { Session.standard capacity with state := .ready ⟨.start, text.toList, none⟩ }
      (run.scans.map Prod.snd, run.session.log) := by
  rw [tokenize, Session.read, Session.attach_ofBytes_encode]

theorem tokens_of_reading (h : Reading .standard .start text.toList found) (capacity : Nat) :
    (tokenize text capacity).1 = found.map Placed.token := by
  rw [tokenize_eq]
  simp only [Session.scanAll]
  rw [(Session.scanOnto_of_reading h [] rfl rfl).1, List.reverse_nil, List.nil_append,
    List.map_map]
  rfl

theorem log_of_reading (h : Reading .standard .start text.toList found) (capacity : Nat) :
    (tokenize text capacity).2.toList = found.filterMap Placed.complaint? := by
  rw [tokenize_eq]
  exact (Session.scanOnto_of_reading h [] rfl rfl).2.2

end Tokenize
end LexicalFrontEnd
