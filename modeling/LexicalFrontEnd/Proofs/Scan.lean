import LexicalFrontEnd.Proofs.Reading

/-!
Scanning in a source that may fail.

A failure behind a text cuts the lexeme at the end of the text: one that needs
all of the text is not found, because its reader asks for one character more.
Every other lexeme is found as if nothing failed.  `scanned` lists all that
scanning can come to.
-/

namespace LexicalFrontEnd

open Lexeme

namespace Cursor

variable {p : Position} {text gap rest : List Char} {c : Char} {e : Source.SourceError} {n : Nat}

theorem advanceBy_of_lt (h : n < text.length) (failure? : Option Source.SourceError) :
    advanceBy ⟨p, text, failure?⟩ n =
      .ok ⟨p.afterText (text.take n), text.drop n, failure?⟩ := by
  rw [advanceBy, walk_eq, List.drop_eq_getElem_cons h]
  rfl

theorem advanceBy_of_le (h : text.length ≤ n) :
    advanceBy ⟨p, text, some e⟩ n = .error ⟨e, p.afterText text⟩ := by
  rw [advanceBy, walk_eq, List.drop_of_length_le h, List.take_of_length_le h]
  rfl

theorem scan_gap_cut (h : Gap true gap) (lexicon : Lexicon) :
    scan lexicon ⟨p, gap, some e⟩ = .failed ⟨e, p.afterText gap⟩ none := by
  rw [scan, skipTrivia, width_gap h, advanceBy_of_le (Nat.le_refl _)]
  rfl

theorem advanceBy_gap (hgap : Gap false gap) (hstart : Starts c rest)
    (failure? : Option Source.SourceError) :
    advanceBy ⟨p, gap ++ c :: rest, failure?⟩ (Trivia.width (gap ++ c :: rest)) =
      .ok ⟨p.afterText gap, c :: rest, failure?⟩ := by
  have hlt : gap.length < (gap ++ c :: rest).length := by
    rw [List.length_append, List.length_cons]
    omega
  rw [width_gap_append hgap hstart, advanceBy_of_lt hlt, List.take_left, List.drop_left]

/-- A slash at the end of the text may start a comment. -/
theorem scan_slash_cut (hgap : Gap false gap) (lexicon : Lexicon) :
    scan lexicon ⟨p, gap ++ ['/'], some e⟩ = .failed ⟨e, p.afterText (gap ++ ['/'])⟩ none := by
  have hstart : Starts '/' [] := ⟨by decide, fun h => by cases h.2⟩
  rw [scan, skipTrivia, advanceBy_gap hgap hstart, Position.afterText_append]
  rfl

theorem skipTrivia_of_start (hgap : Gap false gap) (hstart : Starts c rest)
    (hslash : c :: rest ≠ ['/']) (failure? : Option Source.SourceError) :
    skipTrivia ⟨p, gap ++ c :: rest, failure?⟩ = .ok ⟨p.afterText gap, c :: rest, failure?⟩ := by
  rw [skipTrivia, advanceBy_gap hgap hstart]
  show (if (c :: rest).head? = some '/' then _ else _) = _
  split
  · rename_i hc
    have hrest : 0 < rest.length := by
      rw [List.length_pos_iff]
      rintro rfl
      rw [List.head?_cons, Option.some.injEq] at hc
      exact hslash (by rw [hc])
    rw [lookAhead, advanceBy_of_lt (by rw [List.length_cons]; omega)]
    rfl
  · rfl

theorem scan_lexeme_cut (hgap : Gap false gap) (hstart : Starts c rest)
    (hslash : c :: rest ≠ ['/']) {lexicon : Lexicon}
    (hle : (c :: rest).length ≤ (read lexicon c rest).width) :
    scan lexicon ⟨p, gap ++ c :: rest, some e⟩ =
      .failed ⟨e, p.afterText (gap ++ c :: rest)⟩ (some ((p.afterText gap).after c)) := by
  rw [scan, skipTrivia_of_start hgap hstart hslash]
  simp only
  rw [advanceBy_of_le hle, Position.afterText_append]

/-- A lexeme that the failure cuts is not found. -/
theorem scan_cut (hgap : Gap false gap) (hstart : Starts c rest) {lexicon : Lexicon}
    (hle : (c :: rest).length ≤ (read lexicon c rest).width) :
    ∃ start?, scan lexicon ⟨p, gap ++ c :: rest, some e⟩ =
      .failed ⟨e, p.afterText (gap ++ c :: rest)⟩ start? := by
  by_cases hslash : c :: rest = ['/']
  · rw [hslash]
    exact ⟨_, scan_slash_cut hgap lexicon⟩
  · exact ⟨_, scan_lexeme_cut hgap hstart hslash hle⟩

theorem scan_lexeme_kept (hgap : Gap false gap) (hstart : Starts c rest) {lexicon : Lexicon}
    (hlt : (read lexicon c rest).width < (c :: rest).length)
    (failure? : Option Source.SourceError) :
    scan lexicon ⟨p, gap ++ c :: rest, failure?⟩ =
      .found (read lexicon c rest) ((p.afterText gap).after c)
        ⟨p.afterText (gap ++ (c :: rest).take (read lexicon c rest).width),
          (c :: rest).drop (read lexicon c rest).width, failure?⟩ := by
  have hslash : c :: rest ≠ ['/'] := by
    intro h
    have hpos := width_read_pos lexicon c rest
    rw [h, List.length_singleton] at hlt
    omega
  rw [scan, skipTrivia_of_start hgap hstart hslash]
  simp only
  rw [advanceBy_of_lt hlt, Position.afterText_append]

/-- Nothing of a lexeme stands at the end of the text.  A slash alone is not read
as a lexeme, because it may start a comment. -/
def BetweenLexemes (text : List Char) : Prop :=
  Gap true text ∨ ∃ gap, Gap false gap ∧ text = gap ++ ['/']

theorem not_betweenLexemes (hgap : Gap false gap)
    (hstart : Starts c rest) (hslash : c :: rest ≠ ['/']) :
    ¬BetweenLexemes (gap ++ c :: rest) := by
  have hwidth := width_gap_append hgap hstart
  rintro (h | ⟨other, hother, htext⟩)
  · rw [width_gap h, List.length_append, List.length_cons] at hwidth
    omega
  · have hslash' : Starts '/' [] := ⟨by decide, fun h => by cases h.2⟩
    rw [htext, width_gap_append hother hslash'] at hwidth
    exact hslash (List.append_inj htext hwidth.symm).2

inductive Scanned (lexicon : Lexicon) : Cursor → Scan → Prop
  | ended {p : Position} {gap : List Char} :
    Gap true gap → Scanned lexicon ⟨p, gap, none⟩ .exhausted
  | between {p : Position} {text : List Char} {e : Source.SourceError} :
    BetweenLexemes text →
      Scanned lexicon ⟨p, text, some e⟩ (.failed ⟨e, p.afterText text⟩ none)
  | inside {p : Position} {gap rest : List Char} {c : Char} {e : Source.SourceError} :
    Gap false gap → Starts c rest → c :: rest ≠ ['/'] →
      Scanned lexicon ⟨p, gap ++ c :: rest, some e⟩
        (.failed ⟨e, p.afterText (gap ++ c :: rest)⟩ (some ((p.afterText gap).after c)))
  | lexeme {p : Position} {gap rest : List Char} {c : Char}
      {failure? : Option Source.SourceError} :
    Gap false gap → Starts c rest →
      Scanned lexicon ⟨p, gap ++ c :: rest, failure?⟩
        (.found (read lexicon c rest) ((p.afterText gap).after c)
          ⟨p.afterText (gap ++ (c :: rest).take (read lexicon c rest).width),
            (c :: rest).drop (read lexicon c rest).width, failure?⟩)

theorem scanned (lexicon : Lexicon) (cursor : Cursor) :
    Scanned lexicon cursor (cursor.scan lexicon) := by
  obtain ⟨p, text, failure?⟩ := cursor
  rcases gap_or_start text with hgap | ⟨gap, c, rest, rfl, hgap, hstart⟩
  · cases failure? with
    | none =>
      rw [scan_gap hgap]
      exact .ended hgap
    | some e =>
      rw [scan_gap_cut hgap]
      exact .between (Or.inl hgap)
  · cases failure? with
    | none =>
      rw [scan_lexeme hgap hstart]
      exact .lexeme hgap hstart
    | some e =>
      by_cases hslash : c :: rest = ['/']
      · rw [hslash, scan_slash_cut hgap]
        exact .between (Or.inr ⟨gap, hgap, rfl⟩)
      · rcases Nat.lt_or_ge (read lexicon c rest).width (c :: rest).length with hlt | hle
        · rw [scan_lexeme_kept hgap hstart hlt]
          exact .lexeme hgap hstart
        · rw [scan_lexeme_cut hgap hstart hslash hle]
          exact .inside hgap hstart hslash

end Cursor
end LexicalFrontEnd
