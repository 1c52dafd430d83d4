import LexicalFrontEnd.Proofs.Placement
import LexicalFrontEnd.Proofs.Scanner.Tokens
import LexicalFrontEnd.Proofs.Spelling.Viable

/-!
Operators are matched longest first.

Three characters at the front of a text are tried, then two, then one.  The first
of them that are an operator are the longest operator there
(`longest_of_longestAt?`), because an operator is found by as many characters as it
has and has three at most.  Where none is an operator, no operator starts there
(`longestAt?_eq_none_iff`), and the first character is a mistake on its own.

The reader sees the whole text.  A scanner sees one character behind the current
one, tries two characters first, and finds the same operators.
-/

namespace LexicalFrontEnd

open Lexeme

/-! ## The longest operator -/

namespace Operator

def IsSpelling (text : List Char) : Prop := ∃ o : Operator, o.spelling = text

variable {o p : Operator} {text : List Char} {n : Nat}

theorem width_pos (o : Operator) : 0 < o.width := List.length_pos_iff.mpr o.spelling_ne_nil

theorem width_le_three (o : Operator) : o.width ≤ 3 := by
  cases o <;> decide

/-- An operator is found by as many characters as it has. -/
theorem ofSpelling?_take_width (h : o.spelling <+: text) :
    ofSpelling? (text.take o.width) = some o := by
  rw [width, ← List.prefix_iff_eq_take.mp h, ofSpelling?_spelling]

theorem width_lt_of_take (hnone : ofSpelling? (text.take n) = none) (h : o.spelling <+: text)
    (hle : o.width ≤ n) : o.width < n := by
  apply Nat.lt_of_le_of_ne hle
  rintro rfl
  rw [ofSpelling?_take_width h] at hnone
  cases hnone

theorem width_le_of_take (hsome : ofSpelling? (text.take n) = some p) (h : o.spelling <+: text)
    (hle : o.width ≤ n) : o.width ≤ p.width := by
  have htext : o.width ≤ text.length := h.length_le
  have hwidth : p.width = min n text.length := by
    rw [width, spelling_of_ofSpelling? hsome, List.length_take]
  omega

theorem longest_of_longestAt? (h : longestAt? text = some o) :
    LongestFront IsSpelling text o.spelling := by
  refine ⟨spelling_prefix_of_longestAt? h, ⟨o, rfl⟩, ?_⟩
  rintro _ hstarts ⟨p, rfl⟩
  show p.width ≤ o.width
  have hthree := width_le_three p
  simp only [longestAt?, Option.orElse_eq_orElse, Option.orElse_eq_or, Option.or_eq_some_iff] at h
  rcases h with h | ⟨hnone, h⟩
  · exact width_le_of_take h hstarts hthree
  · have htwo := Nat.le_of_lt_succ (width_lt_of_take hnone hstarts hthree)
    rcases h with h | ⟨hnone, h⟩
    · exact width_le_of_take h hstarts htwo
    · exact width_le_of_take h hstarts (Nat.le_of_lt_succ (width_lt_of_take hnone hstarts htwo))

theorem longestAt?_eq_none_iff : longestAt? text = none ↔ ∀ o : Operator, ¬o.spelling <+: text := by
  constructor
  · intro h o hstarts
    simp only [longestAt?, Option.orElse_eq_orElse, Option.orElse_eq_or, Option.or_eq_none_iff] at h
    have hthree := width_lt_of_take h.1 hstarts (width_le_three o)
    have htwo := width_lt_of_take h.2.1 hstarts (by omega)
    have hone := width_lt_of_take h.2.2 hstarts (by omega)
    have hpos := width_pos o
    omega
  · intro h
    cases ho : longestAt? text with
    | none => rfl
    | some o => exact absurd (spelling_prefix_of_longestAt? ho) (h o)

example : longestAt? ['<', '<', '=', '='] = some shiftLeftAssign := rfl

end Operator

/-! ## Where an operator is read -/

/-- No word, no number and no literal starts with `c` where `rest` follows. -/
structure StartsOperator (c : Char) (rest : List Char) : Prop where
  letter : Unicode.isAlphabetic c = false
  underscore : c ≠ '_'
  digit : c ∉ Radix.decimal.digits
  string : c ≠ '"'
  character : c ≠ '\''
  number : c = '-' ∨ c = '.' → ∀ d ∈ rest.head?, d ∉ Radix.decimal.digits

namespace StartsOperator

variable {c : Char} {rest : List Char}

theorem startsWord_eq_false (h : StartsOperator c rest) : Lexeme.startsWord c = false := by
  rw [Lexeme.startsWord, h.letter, beq_false_of_ne h.underscore]
  rfl

theorem read_eq (h : StartsOperator c rest) (lexicon : Lexicon) :
    read lexicon c rest = readOperator c rest := by
  have hdecimal := Number.isDecimal_of_notMem h.digit
  by_cases hsign : c = '-' ∨ c = '.'
  · have hnext : rest.head?.any Number.isDecimal = false := by
      rw [Option.any_eq_false]
      intro d hd
      exact Number.isDecimal_of_notMem (h.number hsign d hd)
    exact read_operator h.startsWord_eq_false hdecimal hnext h.string h.character lexicon
  · obtain ⟨hminus, hpoint⟩ := not_or.mp hsign
    exact read_operator_of_ne h.startsWord_eq_false hdecimal hminus hpoint h.string h.character
      lexicon rest

end StartsOperator

structure Span.IsOperator (x : Span) (span behind : List Char) : Prop where
  matched : (∃ o : Operator, o.spelling <+: span ++ behind) → ∃ o : Operator,
    span = o.spelling ∧ LongestFront Operator.IsSpelling (span ++ behind) span ∧
    x.token = ⟨String.ofList span, .operator, some o.code, x.start⟩ ∧ x.complaint? = none
  stray : (∀ o : Operator, ¬o.spelling <+: span ++ behind) → span.length = 1 ∧
    x.token.lexeme = String.ofList span ∧ x.Faulty .strayCharacter

theorem Span.isOperator_of_read {x : Span} {c : Char} {rest : List Char}
    (h : x.lexeme = readOperator c rest) :
    x.IsOperator ((c :: rest).take x.lexeme.width) ((c :: rest).drop x.lexeme.width) := by
  rw [readOperator_eq] at h
  constructor <;> rw [List.take_append_drop]
  · rintro ⟨p, hp⟩
    cases ho : Operator.longestAt? (c :: rest) with
    | none => exact absurd hp (Operator.longestAt?_eq_none_iff.mp ho p)
    | some o =>
      rw [ho] at h
      have hlongest := Operator.longest_of_longestAt? ho
      have hspan : (c :: rest).take x.lexeme.width = o.spelling := by
        rw [h]
        exact (List.prefix_iff_eq_take.mp hlongest.starts).symm
      rw [hspan]
      refine ⟨o, rfl, hlongest, ?_, ?_⟩
      · rw [Placed.token, h]
        rfl
      · rw [Placed.complaint?, h]
        rfl
  · intro hnone
    rw [Operator.longestAt?_eq_none_iff.mpr hnone] at h
    refine ⟨?_, ?_, ?_⟩
    · rw [h]
      rfl
    · rw [x.lexeme_eq_ofList, h]
      rfl
    · rw [faulty_iff, h]
      rfl

/-- Where a token is no word, no number and no literal, it is the longest operator
there, or one character that starts none. -/
theorem tokenize_operators (text : String) (capacity : Nat) :
    let lexemes := spans .standard text.toList
    (tokenize text capacity).1 = lexemes.map (·.token) ∧
    (tokenize text capacity).2.toList = lexemes.filterMap (·.complaint?) ∧
    Scanner.Finds .standard text.toList capacity (lexemes.map (·.token)) ∧
    ∀ x ∈ lexemes, ∃ before span behind, x.Takes text.toList before span behind ∧
      ∀ c rest, span ++ behind = c :: rest → StartsOperator c rest → x.IsOperator span behind := by
  intro lexemes
  obtain ⟨htokens, hlog⟩ := tokenize_eq_spans text capacity
  refine ⟨htokens, hlog, Scanner.finds_spans .standard text.toList capacity, fun x hx => ?_⟩
  obtain ⟨before, c, rest, -, hlexeme, htakes⟩ := exists_takes hx
  refine ⟨before, _, _, htakes, fun c' rest' htext hstart => ?_⟩
  rw [List.take_append_drop] at htext
  obtain ⟨rfl, rfl⟩ := List.cons.inj htext
  rw [← hlexeme]
  rw [hstart.read_eq] at hlexeme
  exact Span.isOperator_of_read hlexeme

end LexicalFrontEnd
