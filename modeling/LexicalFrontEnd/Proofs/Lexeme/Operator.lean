import LexicalFrontEnd.Lexeme.Read
import LexicalFrontEnd.Proofs.Lexeme.OneAhead

/-!
Operators look one character ahead.

The longest operator at the front of a text is looked for with three characters
at once, but a third one is worth having only behind an operator of two
characters (`longestAt?_cons_cons`), and a second one is always looked at.
-/

namespace LexicalFrontEnd
namespace Operator

theorem ofSpelling?_spelling (o : Operator) : ofSpelling? o.spelling = some o := by
  cases o <;> rfl

theorem mem_triples_of_length {o : Operator} (h : o.spelling.length = 3) : o ∈ triples := by
  revert h
  cases o <;> decide

theorem newline_notMem_spelling (o : Operator) : '\n' ∉ o.spelling := by
  cases o <;> decide

/-- Three characters are no operator unless the first two are one. -/
theorem ofSpelling?_triple_eq_none {c d e : Char} (h : ofSpelling? [c, d] = none) :
    ofSpelling? [c, d, e] = none := by
  cases ho : ofSpelling? [c, d, e] with
  | none => rfl
  | some o =>
    have hspelling := spelling_of_ofSpelling? ho
    have hlength : o.spelling.length = 3 := by rw [hspelling]; rfl
    obtain ⟨p, -, hp⟩ := exists_double_of_triple (mem_triples_of_length hlength)
    have hp : p.spelling = [c, d] := by rw [hp, hspelling]; rfl
    rw [← hp, ofSpelling?_spelling] at h
    cases h

theorem longestAt?_singleton (c : Char) : longestAt? [c] = ofSpelling? [c] := by
  show (ofSpelling? [c] <|> ofSpelling? [c] <|> ofSpelling? [c]) = _
  cases ofSpelling? [c] <;> rfl

/-- Behind one character the second one decides, and behind two the third. -/
theorem longestAt?_cons_cons (c d : Char) (rest : List Char) :
    longestAt? (c :: d :: rest) =
      match ofSpelling? [c, d] with
      | none => ofSpelling? [c]
      | some two => (rest.head?.bind fun e => ofSpelling? [c, d, e]).or (some two) := by
  cases rest with
  | nil =>
    show (ofSpelling? [c, d] <|> ofSpelling? [c, d] <|> ofSpelling? [c]) = _
    cases ofSpelling? [c, d] <;> rfl
  | cons e rest =>
    show (ofSpelling? [c, d, e] <|> ofSpelling? [c, d] <|> ofSpelling? [c]) = _
    cases h : ofSpelling? [c, d] with
    | none => rw [ofSpelling?_triple_eq_none h]; rfl
    | some two =>
      show _ = (ofSpelling? [c, d, e]).or (some two)
      cases ofSpelling? [c, d, e] <;> rfl

theorem spelling_prefix_of_longestAt? {text : List Char} {o : Operator}
    (h : longestAt? text = some o) : o.spelling <+: text := by
  have htake (n : Nat) (hn : ofSpelling? (text.take n) = some o) : o.spelling <+: text := by
    rw [spelling_of_ofSpelling? hn]
    exact List.take_prefix n text
  simp only [longestAt?, Option.orElse_eq_orElse, Option.orElse_eq_or, Option.or_eq_some_iff] at h
  rcases h with h | ⟨-, h | ⟨-, h⟩⟩
  · exact htake 3 h
  · exact htake 2 h
  · exact htake 1 h

end Operator

namespace Lexeme

open Operator

def ofOperator? (c : Char) : Option Operator → Lexeme
  | some o => verbatim (.token .operator (some o.code)) o.spelling
  | none => verbatim (.malformed .strayCharacter) [c]

theorem readOperator_eq (c : Char) (rest : List Char) :
    readOperator c rest = ofOperator? c (longestAt? (c :: rest)) := by
  rw [readOperator]
  cases longestAt? (c :: rest) <;> rfl

theorem width_ofOperator? {c : Char} {text : List Char} {o : Operator}
    (h : ofSpelling? text = some o) : (ofOperator? c (some o)).width = text.length := by
  show o.spelling.length = _
  rw [spelling_of_ofSpelling? h]

theorem width_ofOperator?_single (c : Char) : (ofOperator? c (ofSpelling? [c])).width = 1 := by
  cases h : ofSpelling? [c] with
  | none => rfl
  | some o => exact width_ofOperator? h

theorem ne_newline_of_ofSpelling? {text : List Char} {o : Operator} (h : ofSpelling? text = some o)
    {c : Char} (hc : c ∈ text) : c ≠ '\n' := by
  rintro rfl
  rw [← spelling_of_ofSpelling? h] at hc
  exact newline_notMem_spelling o hc

theorem oneAhead_readOperator (c : Char) (text : List Char) :
    OneAhead Lexeme.width 1 (readOperator c) text := by
  cases text with
  | nil =>
    apply OneAhead.stop_nil
    rw [readOperator_eq, longestAt?_singleton]
    exact width_ofOperator?_single c
  | cons d text =>
    cases hdouble : ofSpelling? [c, d] with
    | none =>
      have hread (t : List Char) : readOperator c (d :: t) = ofOperator? c (ofSpelling? [c]) := by
        rw [readOperator_eq, longestAt?_cons_cons, hdouble]
      apply OneAhead.stop_cons
      · rw [hread]
        exact width_ofOperator?_single c
      · intro other
        rw [hread, hread]
    | some two =>
      have hread (t : List Char) : readOperator c (d :: t) =
          ofOperator? c ((t.head?.bind fun e => ofSpelling? [c, d, e]).or (some two)) := by
        rw [readOperator_eq, longestAt?_cons_cons, hdouble]
      refine OneAhead.cons (ne_newline_of_ofSpelling? hdouble (by simp)) ?_
      simp only [hread]
      cases text with
      | nil =>
        apply OneAhead.stop (width_ofOperator? hdouble)
        intro other hother
        rw [hother]
      | cons e text =>
        cases htriple : ofSpelling? [c, d, e] with
        | none =>
          apply OneAhead.stop
          · rw [List.head?_cons, Option.bind_some, htriple]
            exact width_ofOperator? hdouble
          · intro other hother
            rw [hother]
        | some three =>
          refine OneAhead.cons (ne_newline_of_ofSpelling? htriple (by simp)) ?_
          refine OneAhead.stop ?_ fun _ _ => rfl
          rw [List.head?_cons, Option.bind_some, htriple]
          exact width_ofOperator? htriple

end Lexeme
end LexicalFrontEnd
