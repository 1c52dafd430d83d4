import LexicalFrontEnd.Proofs.Lookahead

/-!
What a lexeme takes of its text, and what it leaves in the token and in the log.

Every lexeme is read at a place of the text and takes the characters from there
up to where it ends (`exists_takes`).  A reader is said to be right by what it
takes and what comes of it, a token of some kind or a fault.
-/

namespace LexicalFrontEnd

open Lexeme

namespace Span

/-- The lexeme starts behind `before` and takes `span` of the text, and `behind` is
left. -/
structure Takes (x : Span) (text before span behind : List Char) : Prop where
  text : text = before ++ (span ++ behind)
  start : x.start = .following before
  stop : x.stop = before.length + span.length

/-- The lexeme is a token of a kind without codes, and nothing is logged. -/
def Denotes (x : Span) (kind : TokenKind) (lexeme : List Char) : Prop :=
  x.token = ⟨String.ofList lexeme, kind, none, x.start⟩ ∧ x.complaint? = none

/-- The token is invalid, and its problem is all that is logged. -/
def Faulty (x : Span) (problem : Problem) : Prop :=
  x.token.kind = .invalid ∧ x.complaint? = some (.create problem x.token none)

section

variable {x : Span} {kind : TokenKind} {problem : Problem}

theorem denotes_iff {lexeme : List Char} :
    x.Denotes kind lexeme ↔ x.lexeme.verdict = .token kind none ∧ x.lexeme.text = lexeme := by
  rw [Denotes, Placed.complaint?, Placed.token]
  cases x.lexeme.verdict with
  | token kind' code? => simp [String.ofList_inj, and_comm]
  | malformed problem' => simp

theorem faulty_iff : x.Faulty problem ↔ x.lexeme.verdict = .malformed problem := by
  rw [Faulty, Placed.complaint?, Placed.token]
  cases x.lexeme.verdict with
  | token kind' code? => simp
  | malformed problem' =>
    simp only [true_and, Option.some.injEq, Verdict.malformed.injEq]
    exact ⟨congrArg Diagnostic.problem, fun h => by rw [h]⟩

end

end Span

variable {lexicon : Lexicon} {text : List Char} {x : Span}

theorem exists_takes (h : x ∈ spans lexicon text) :
    ∃ before c rest, Starts c rest ∧ x.lexeme = read lexicon c rest ∧
      x.Takes text before ((c :: rest).take (read lexicon c rest).width)
        ((c :: rest).drop (read lexicon c rest).width) := by
  have hpast : x ∈ spansPast lexicon [] text := h
  obtain ⟨before, c, rest, htext, -, hstart, rfl⟩ := exists_start_of_mem_spansPast hpast
  refine ⟨before, c, rest, hstart, rfl, ?_, rfl, ?_⟩
  · rwa [List.take_append_drop]
  · rw [length_take_read]

end LexicalFrontEnd
