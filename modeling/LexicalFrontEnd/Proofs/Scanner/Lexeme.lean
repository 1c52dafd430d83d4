import LexicalFrontEnd.Proofs.Lexeme.Read
import LexicalFrontEnd.Proofs.Scanner.Reads

/-!
The lexemes that a scanner takes.

Each reader of the scanner takes the lexeme that the reader of the same name
gives of all characters at once, if its loops are given more rounds than there are
characters.  No test of the scanner takes the sentinel for a character of the
text where that matters: it is no letter, no digit and no operator, and the loops
that go on at any character ask for the end.
-/

namespace LexicalFrontEnd
namespace Scanner

open Lexeme

/-- The action takes the lexeme on, behind `taken` characters of it. -/
abbrev Takes (m : Action Verdict) (taken : Nat) (text rest : List Char) (lexeme : Lexeme) : Prop :=
  Reads m taken text rest lexeme.width lexeme.verdict lexeme.text

variable {rounds : Nat} {rest : List Char}

/-! ## Words -/

theorem continuesWord_sentinel : continuesWord sentinel = false := by decide +kernel

theorem continuesWord_of_startsWord {c : Char} (h : startsWord c = true) :
    continuesWord c = true := by
  rw [startsWord, Bool.or_eq_true] at h
  rw [continuesWord, Unicode.isAlphanumeric, Bool.or_eq_true, Bool.or_eq_true]
  exact h.imp_left Or.inl

theorem takes_word (lexicon : Lexicon) {c : Char} (hc : startsWord c = true)
    (hrounds : (c :: rest).length < rounds) :
    Takes (word lexicon rounds) 0 [] (c :: rest) (readWord lexicon c rest) := by
  have hrun : (c :: rest).takeWhile continuesWord = c :: rest.takeWhile continuesWord :=
    List.takeWhile_cons_of_pos (continuesWord_of_startsWord hc)
  rw [word]
  refine Reads.bumpWhile_bind continuesWord_sentinel hrounds ?_
  rw [hrun, Nat.zero_add]
  exact Reads.textSoFar_bind (Reads.pure _ _ _ _)

/-! ## Numbers -/

section Number

variable {taken : List Char}

/-- Numbers stand for themselves, so the characters taken are the text so far. -/
abbrev TakesNumber (m : Action Verdict) (taken rest : List Char) (lexeme : Lexeme) : Prop :=
  Takes m taken.length taken rest lexeme

theorem TakesNumber.bump {m : Action Verdict} {c : Char} {lexeme : Lexeme}
    (h : TakesNumber m (taken ++ [c]) rest lexeme) :
    TakesNumber (do bump; m) taken (c :: rest) lexeme := by
  refine Reads.bump_bind ?_
  rwa [TakesNumber, Takes, List.length_append] at h

theorem TakesNumber.bumpWhile {p : Char → Bool} {k : Nat → Action Verdict} {lexeme : Lexeme}
    (hp : p sentinel = false) (hrounds : rest.length < rounds)
    (h : TakesNumber (k (rest.takeWhile p).length) (taken ++ rest.takeWhile p)
      (rest.drop (rest.takeWhile p).length) lexeme) :
    TakesNumber (do k (← bumpWhile p rounds)) taken rest lexeme := by
  refine Reads.bumpWhile_bind hp hrounds ?_
  rwa [TakesNumber, Takes, List.length_append] at h

theorem TakesNumber.verbatim (verdict : Verdict) (taken rest : List Char) :
    TakesNumber (pure verdict) taken rest (Lexeme.verbatim verdict taken) :=
  Reads.pure verdict taken.length taken rest

theorem isDigit_sentinel (base : Nat) : Number.isDigit base sentinel = false := by
  show (if Number.isDecimal sentinel then _ else _) = false
  rw [if_neg (by decide)]
  exact Bool.and_eq_false_imp.mpr fun _ => by decide

theorem takes_digits (kind : TokenKind) (problem : Problem) (base : Nat) (taken : List Char)
    (hrounds : rest.length < rounds) :
    TakesNumber (digits kind problem base rounds) taken rest
      (Number.complete kind problem taken (Number.digits base rest)) := by
  rw [digits]
  refine TakesNumber.bumpWhile (isDigit_sentinel base) hrounds ?_
  show TakesNumber _ (taken ++ Number.digits base rest) _ _
  rw [Number.complete]
  cases hrun : Number.digits base rest with
  | nil =>
    rw [show rest.takeWhile _ = [] from hrun]
    exact TakesNumber.verbatim _ _ _
  | cons d run =>
    rw [show rest.takeWhile _ = d :: run from hrun]
    exact TakesNumber.verbatim _ _ _

/-- The exponent behind its letter. -/
theorem takes_exponent (kind : TokenKind) {mantissa : List Char} {c : Char}
    (hc : c = 'e' ∨ c = 'E') (hrounds : (c :: rest).length < rounds) :
    TakesNumber (exponent rounds) mantissa (c :: rest)
      (Number.withExponent kind mantissa (c :: rest)) := by
  have hrounds : rest.length < rounds := Nat.lt_of_succ_lt hrounds
  rw [exponent, Number.withExponent, if_pos hc]
  refine TakesNumber.bump (Reads.current_bind ?_)
  cases rest with
  | nil =>
    exact takes_digits .real .malformedReal 10 (mantissa ++ [c]) hrounds
  | cons d rest =>
    by_cases hd : d = '-'
    · subst hd
      show TakesNumber _ _ _ (Number.complete _ _ (mantissa ++ [c, '-']) (Number.digits 10 rest))
      rw [List.append_cons mantissa c ['-']]
      exact TakesNumber.bump
        (takes_digits .real .malformedReal 10 _ (Nat.lt_of_succ_lt hrounds))
    · have hsign : Number.sign (d :: rest) = ([], d :: rest) := by
        unfold Number.sign
        split
        · rename_i heq
          exact absurd (List.cons.inj heq).1 hd
        · rfl
      rw [hsign]
      show TakesNumber (if (d == '-') = true then _ else _) _ _ _
      rw [if_neg (mt beq_iff_eq.mp hd)]
      exact takes_digits .real .malformedReal 10 (mantissa ++ [c]) hrounds

theorem takes_withExponent (kind : TokenKind) (mantissa : List Char)
    (hrounds : rest.length < rounds) :
    TakesNumber (withExponent kind rounds) mantissa rest
      (Number.withExponent kind mantissa rest) := by
  rw [withExponent]
  refine Reads.current_bind ?_
  cases rest with
  | nil => exact TakesNumber.verbatim _ _ _
  | cons c rest =>
    have hletter : (c == 'e' || c == 'E') = true ↔ c = 'e' ∨ c = 'E' := by
      rw [Bool.or_eq_true, beq_iff_eq, beq_iff_eq]
    show TakesNumber (if (c == 'e' || c == 'E') = true then _ else _) _ _ _
    by_cases hc : c = 'e' ∨ c = 'E'
    · rw [if_pos (hletter.mpr hc)]
      exact takes_exponent kind hc hrounds
    · rw [if_neg (mt hletter.mp hc), Number.withExponent, if_neg hc]
      exact TakesNumber.verbatim _ _ _

theorem length_drop_lt {n : Nat} (hrounds : rest.length < rounds) :
    (rest.drop n).length < rounds :=
  Nat.lt_of_le_of_lt (by rw [List.length_drop]; exact Nat.sub_le _ _) hrounds

theorem takes_afterWhole (minus whole : List Char) (hrounds : rest.length < rounds) :
    TakesNumber (afterWhole rounds) (minus ++ whole) rest
      (Number.afterWhole minus whole rest) := by
  rw [afterWhole]
  refine Reads.current_bind ?_
  by_cases hpoint : rest.head? = some '.'
  · obtain ⟨rest, rfl⟩ := List.head?_eq_some_iff.mp hpoint
    have hrounds : rest.length < rounds := Nat.lt_of_succ_lt hrounds
    refine TakesNumber.bump (TakesNumber.bumpWhile (isDigit_sentinel 10) hrounds ?_)
    rw [Number.afterWhole]
    show TakesNumber _ (_ ++ Number.digits 10 rest) (rest.drop (Number.digits 10 rest).length) _
    cases hrun : Number.digits 10 rest with
    | nil =>
      rw [show rest.takeWhile _ = [] from hrun, List.append_nil]
      exact TakesNumber.verbatim _ _ _
    | cons d run =>
      have hmantissa : minus ++ whole ++ '.' :: d :: run = minus ++ whole ++ ['.'] ++ (d :: run) :=
        List.append_cons _ _ _
      rw [show rest.takeWhile _ = d :: run from hrun, hmantissa]
      exact takes_withExponent .real _ (length_drop_lt hrounds)
  · rw [Number.afterWhole_of_ne hpoint]
    rw [front_beq (by decide) hpoint]
    exact takes_withExponent .integer _ hrounds

/-- The complaint of a decimal number without a digit is never made: it is read
only where a digit stands. -/
theorem takes_decimal {c : Char} (hc : Number.isDecimal c = true) (minus : List Char)
    (hrounds : (c :: rest).length < rounds) :
    TakesNumber (decimal rounds) minus (c :: rest) (Number.decimal minus (c :: rest)) := by
  have hrun : (c :: rest).takeWhile (Number.isDigit 10) =
      c :: rest.takeWhile (Number.isDigit 10) :=
    List.takeWhile_cons_of_pos (Number.isDigit_ten hc)
  rw [decimal, Number.decimal_eq, show Number.digits 10 (c :: rest) = _ from hrun]
  refine TakesNumber.bumpWhile (isDigit_sentinel 10) hrounds ?_
  rw [hrun]
  exact takes_afterWhole minus _ (length_drop_lt hrounds)

theorem takes_unsigned {c : Char} (hc : Number.isDecimal c = true) (minus : List Char)
    (hrounds : (c :: rest).length < rounds) :
    TakesNumber (unsigned rounds) minus (c :: rest) (Number.unsigned minus (c :: rest)) := by
  rw [unsigned]
  refine Reads.current_bind ?_
  by_cases hzero : c = '0'
  · subst hzero
    have hlt := (Number.oneAhead_unsigned_cons hc minus rest).taken_le
    refine Reads.peek_bind hlt ?_
    cases rest with
    | nil => exact takes_decimal hc minus hrounds
    | cons letter rest =>
      have hfront : front (letter :: rest) = letter := rfl
      rw [Number.unsigned, List.tail_cons, hfront]
      cases Number.base? letter with
      | none => exact takes_decimal hc minus hrounds
      | some base =>
        have hfront : minus ++ ['0', letter] = minus ++ ['0'] ++ [letter] :=
          List.append_cons _ _ _
        rw [hfront]
        refine TakesNumber.bump (TakesNumber.bump ?_)
        exact takes_digits .integer .malformedInteger base _
          (Nat.lt_of_succ_lt (Nat.lt_of_succ_lt hrounds))
  · rw [Number.unsigned_eq_decimal (Or.inl hzero)]
    show TakesNumber (if (c == '0') = true then _ else _) _ _ _
    rw [if_neg (mt beq_iff_eq.mp hzero)]
    exact takes_decimal hc minus hrounds

theorem takes_number {c : Char}
    (h : Number.isDecimal c = true ∨ c = '-' ∧ rest.head?.any Number.isDecimal = true)
    (hrounds : (c :: rest).length < rounds) :
    TakesNumber (number rounds) [] (c :: rest) (Number.read (c :: rest)) := by
  rw [number]
  refine Reads.current_bind ?_
  rcases h with hc | ⟨rfl, hrest⟩
  · have hne : c ≠ '-' := by
      rintro rfl
      exact absurd hc (by decide)
    have hsign : Number.sign (c :: rest) = ([], c :: rest) := by
      unfold Number.sign
      split
      · rename_i heq
        exact absurd (List.cons.inj heq).1 hne
      · rfl
    show TakesNumber (if (c == '-') = true then _ else _) _ _ _
    rw [if_neg (mt beq_iff_eq.mp hne), Number.read_eq, hsign]
    exact takes_unsigned hc [] hrounds
  · obtain ⟨d, hhead, hd⟩ := (Option.any_eq_true _ _).mp hrest
    obtain ⟨rest, rfl⟩ := List.head?_eq_some_iff.mp hhead
    exact TakesNumber.bump (takes_unsigned hd ['-'] (Nat.lt_of_succ_lt hrounds))

/-- A real without a digit before its point is malformed wherever it ends. -/
theorem takes_pointed (hrounds : ('.' :: rest).length < rounds) :
    TakesNumber (pointed rounds) [] ('.' :: rest) (Number.readPoint ('.' :: rest)) := by
  have hrounds : rest.length < rounds := Nat.lt_of_succ_lt hrounds
  have h := takes_withExponent .real ('.' :: Number.digits 10 rest)
    (length_drop_lt (n := (Number.digits 10 rest).length) hrounds)
  rw [pointed]
  refine TakesNumber.bump (TakesNumber.bumpWhile (isDigit_sentinel 10) hrounds ?_)
  exact Reads.bind h (Reads.pure _ _ _ _)

end Number

/-! ## Operators -/

theorem sentinel_notMem_spelling (o : Operator) : sentinel ∉ o.spelling := by
  cases o <;> decide

theorem ofSpelling?_eq_none {text : List Char} (h : sentinel ∈ text) :
    Operator.ofSpelling? text = none := by
  cases ho : Operator.ofSpelling? text with
  | none => rfl
  | some o =>
    rw [← Operator.spelling_of_ofSpelling? ho] at h
    exact absurd h (sentinel_notMem_spelling o)

/-- An operator stands for itself. -/
theorem reads_operator {o : Operator} {text : List Char}
    (h : Operator.ofSpelling? text = some o) (c : Char) (rest : List Char) :
    Takes (pure (.token .operator (some o.code))) text.length text rest
      (ofOperator? c (some o)) := by
  show Reads _ _ _ _ o.spelling.length _ o.spelling
  rw [Operator.spelling_of_ofSpelling? h]
  exact Reads.pure _ _ _ _

theorem takes_single (c : Char) (rest : List Char) :
    Takes (do
        bump
        match Operator.ofSpelling? [c] with
        | some one => return .token .operator (some one.code)
        | none => return .malformed .strayCharacter)
      0 [] (c :: rest) (ofOperator? c (Operator.ofSpelling? [c])) := by
  refine Reads.bump_bind ?_
  cases h : Operator.ofSpelling? [c] with
  | none => exact Reads.pure _ _ _ _
  | some one => exact reads_operator h c rest

theorem takes_operator (c : Char) (rest : List Char) :
    Takes operator 0 [] (c :: rest) (readOperator c rest) := by
  rw [operator]
  refine Reads.current_bind (Reads.peek_bind (width_readOperator_pos c rest) ?_)
  rw [readOperator_eq]
  cases rest with
  | nil =>
    show Takes (match Operator.ofSpelling? [c, sentinel] with | some _ => _ | none => _) _ _ _ _
    rw [ofSpelling?_eq_none (by simp), Operator.longestAt?_singleton]
    exact takes_single c []
  | cons d rest =>
    show Takes (match Operator.ofSpelling? [c, d] with | some _ => _ | none => _) _ _ _ _
    rw [Operator.longestAt?_cons_cons]
    cases hdouble : Operator.ofSpelling? [c, d] with
    | none => exact takes_single c (d :: rest)
    | some two =>
      refine Reads.bump_bind (Reads.bump_bind (Reads.current_bind ?_))
      cases rest with
      | nil =>
        show Takes (match Operator.ofSpelling? [c, d, sentinel] with
          | some _ => _
          | none => _) _ _ _ _
        rw [ofSpelling?_eq_none (by simp)]
        exact reads_operator hdouble c []
      | cons e rest =>
        show Takes (match Operator.ofSpelling? [c, d, e] with | some _ => _ | none => _) _ _ _
          (ofOperator? c ((Operator.ofSpelling? [c, d, e]).or (some two)))
        cases htriple : Operator.ofSpelling? [c, d, e] with
        | none => exact reads_operator hdouble c (e :: rest)
        | some three => exact Reads.bump_bind (reads_operator htriple c rest)

end Scanner
end LexicalFrontEnd
