import LexicalFrontEnd.Proofs.Position
import LexicalFrontEnd.Proofs.Reading
import LexicalFrontEnd.Proofs.Spelling.Read

/-!
What is printed is read back.

A printout is a list of spellings with gaps between them.  If every gap between
two spellings starts with white space, each lexeme ends where its spelling does,
whatever is written next, so tokenizing the printout brings exactly the tokens
that were meant, and nothing is logged (`tokenize_printout`).
-/

namespace LexicalFrontEnd

open Lexeme

/-- Spellings in order, each with the gap that is written before it, and what is
written behind the last one. -/
structure Printout where
  pieces : List (List Char × Spelling)
  trailing : List Char

namespace Printout

def pieceText (x : List Char × Spelling) : List Char := x.1 ++ x.2.text

def text (d : Printout) : List Char := d.pieces.flatMap pieceText ++ d.trailing

def tokensBehind : List Char → List (List Char × Spelling) → List Token
  | _, [] => []
  | before, (gap, s) :: more =>
    s.token (.following (before ++ gap)) :: tokensBehind (before ++ gap ++ s.text) more

def tokens (d : Printout) : List Token := tokensBehind [] d.pieces

/-- The gaps are white space and comments.  Every one but the first starts with
white space, and so does the text behind the last spelling, if there is any. -/
structure WellFormed (d : Printout) : Prop where
  spelling : ∀ x ∈ d.pieces, x.2.WellFormed
  gap : ∀ x ∈ d.pieces, Gap false x.1
  separator : ∀ x ∈ d.pieces.tail, x.1 ≠ [] ∧ Delimits x.1
  trailing : Gap true d.trailing
  behind : d.pieces = [] ∨ Delimits d.trailing

theorem WellFormed.delimits {x : List Char × Spelling} {more : List (List Char × Spelling)}
    {trailing : List Char} (h : WellFormed ⟨x :: more, trailing⟩) :
    Delimits (more.flatMap pieceText ++ trailing) := by
  cases more with
  | nil =>
    rcases h.behind with hnil | htrailing
    · cases hnil
    · exact htrailing
  | cons y more =>
    obtain ⟨hne, hdelimits⟩ := h.separator y List.mem_cons_self
    intro c hc
    refine hdelimits c ?_
    cases hgap : y.1 with
    | nil => exact absurd hgap hne
    | cons d gap =>
      rw [List.flatMap_cons, pieceText, hgap] at hc
      exact hc

theorem WellFormed.tail {x : List Char × Spelling} {more : List (List Char × Spelling)}
    {trailing : List Char} (h : WellFormed ⟨x :: more, trailing⟩) :
    WellFormed ⟨more, trailing⟩ := by
  refine ⟨?_, ?_, ?_, h.trailing, ?_⟩
  · exact fun y hy => h.spelling y (List.mem_cons_of_mem x hy)
  · exact fun y hy => h.gap y (List.mem_cons_of_mem x hy)
  · exact fun y hy => h.separator y (List.mem_of_mem_tail hy)
  · rcases h.behind with hnil | htrailing
    · cases hnil
    · exact Or.inr htrailing

end Printout

theorem Reading.of_reads {before gap text rest : List Char} {lexeme : Lexeme}
    {later : List Placed} (hgap : Gap false gap) (h : Reads text rest lexeme)
    (hwidth : lexeme.width = text.length)
    (hlater : Reading .standard (Position.start.afterText (before ++ gap ++ text)) rest later) :
    Reading .standard (Position.start.afterText before) (gap ++ text ++ rest)
      (⟨lexeme, .following (before ++ gap)⟩ :: later) := by
  obtain ⟨c, front, rfl, hstarts, rfl⟩ := h
  have htake : (c :: (front ++ rest)).take (read .standard c (front ++ rest)).width =
      c :: front := by
    rw [hwidth, ← List.cons_append, List.take_left]
  have hdrop : (c :: (front ++ rest)).drop (read .standard c (front ++ rest)).width = rest := by
    rw [hwidth, ← List.cons_append, List.drop_left]
  rw [List.append_assoc before, Position.afterText_append _ before] at hlater
  rw [List.append_assoc, List.cons_append, ← Position.start_afterText_after hstarts.ne_newline,
    Position.afterText_append]
  refine .lexeme hgap hstarts ?_
  rwa [htake, hdrop]

namespace Placed

theorem token_ofSpelling (s : Spelling) (p : Position) :
    (Placed.mk (ofSpelling s) p).token = s.token p := rfl

theorem complaint?_ofSpelling (s : Spelling) (p : Position) :
    (Placed.mk (ofSpelling s) p).complaint? = none := rfl

end Placed

theorem exists_reading_of_pieces {pieces : List (List Char × Spelling)} {trailing : List Char}
    (h : Printout.WellFormed ⟨pieces, trailing⟩) (before : List Char) :
    ∃ found, Reading .standard (Position.start.afterText before)
        (pieces.flatMap Printout.pieceText ++ trailing) found ∧
      found.map Placed.token = Printout.tokensBehind before pieces ∧
      found.filterMap Placed.complaint? = [] := by
  induction pieces generalizing before with
  | nil => exact ⟨[], .gap h.trailing, rfl, rfl⟩
  | cons x more ih =>
    obtain ⟨gap, s⟩ := x
    have hreads := reads_spelling (h.spelling (gap, s) List.mem_cons_self) h.delimits
    have hgap := h.gap (gap, s) List.mem_cons_self
    obtain ⟨later, hlater, htokens, hcomplaints⟩ := ih h.tail (before ++ gap ++ s.text)
    refine ⟨⟨ofSpelling s, .following (before ++ gap)⟩ :: later, ?_, ?_, ?_⟩
    · rw [List.flatMap_cons, List.append_assoc]
      exact Reading.of_reads hgap hreads rfl hlater
    · rw [List.map_cons, htokens, Placed.token_ofSpelling]
      rfl
    · rw [List.filterMap_cons, Placed.complaint?_ofSpelling]
      exact hcomplaints

/-- Tokenizing a printout brings one token for each of its spellings, as it was
meant and where it was written, and logs nothing. -/
theorem tokenize_printout {d : Printout} (h : d.WellFormed) (capacity : Nat) :
    (tokenize (String.ofList d.text) capacity).1 = d.tokens ∧
      (tokenize (String.ofList d.text) capacity).2.toList = [] := by
  obtain ⟨found, hreading, htokens, hcomplaints⟩ := exists_reading_of_pieces h []
  have hread : Reading .standard .start (String.ofList d.text).toList found := by
    rw [String.toList_ofList]
    exact hreading
  rw [tokens_of_reading hread, log_of_reading hread, hcomplaints]
  exact ⟨htokens, rfl⟩

/-- A word behind a comment, and a letter before a comment that ends the text. -/
theorem tokenize_printout_letter :
    let d : Printout :=
      ⟨[(['/', '/', 'a', '\n'], .keyword .let),
        ([' '], .character (.escape ⟨'n', '\n', "New line"⟩))], [' ', '/', '/']⟩
    d.WellFormed ∧ (tokenize (String.ofList d.text) 0).1 =
      [⟨"let", .keyword, some 1005, ⟨2, 1⟩⟩, ⟨"\n", .character, none, ⟨2, 5⟩⟩] := by
  intro d
  have hcomment : Gap false ('/' :: '/' :: ['a'] ++ ['\n']) :=
    .comment (by decide) (Or.inl rfl) (.blank (by decide) .nil)
  have hblank : Gap false [' '] := .blank (by decide) .nil
  have htrailing : Gap true (' ' :: ('/' :: '/' :: [] ++ [])) :=
    .blank (by decide) (.comment (by decide) (Or.inr ⟨rfl, rfl⟩) .nil)
  have hdelimits (text : List Char) : Delimits (' ' :: text) := by
    intro c hc
    exact Option.some.inj hc ▸ (by decide : Unicode.isBlank ' ' = true)
  have h : d.WellFormed := by
    refine ⟨?_, ?_, ?_, htrailing, Or.inr (hdelimits _)⟩
    · intro x hx
      rcases List.mem_cons.mp hx with rfl | hx
      · trivial
      · rw [List.mem_singleton.mp hx]
        exact .tail _ (.tail _ (.tail _ (.head _)))
    · intro x hx
      rcases List.mem_cons.mp hx with rfl | hx
      · exact hcomment
      · rw [List.mem_singleton.mp hx]
        exact hblank
    · intro x hx
      rw [List.mem_singleton.mp hx]
      exact ⟨List.cons_ne_nil _ _, hdelimits []⟩
  refine ⟨h, ?_⟩
  rw [(tokenize_printout h 0).1]
  rfl

end LexicalFrontEnd
