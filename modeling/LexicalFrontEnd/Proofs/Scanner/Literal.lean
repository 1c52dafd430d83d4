import LexicalFrontEnd.Proofs.Scanner.Lexeme

/-!
The literals that a scanner takes.

The loops over a literal go on at any character, so they ask for the end of the
source before they look at the current character: a NUL in a literal is a
character like any other.
-/

namespace LexicalFrontEnd
namespace Scanner

open Lexeme

variable {rounds : Nat} {rest : List Char}

/-! ## The rest of a mistaken literal -/

section PassOver

variable {β : Type} {k : Unit → Action β} {b : β} {taken total : Nat}
  {text text' passed : List Char} {c : Char}

theorem bump_passed
    (h : Reads (k ()) (taken + (c :: passed).length) (text ++ (c :: passed).reverse) rest total b
      text') :
    Reads (bump >>= k) (taken + passed.length) (text ++ passed.reverse) (c :: rest) total b
      text' := by
  rw [List.reverse_cons, ← List.append_assoc] at h
  exact Reads.bump_bind h

theorem reads_passed (ending : Literal.Ending) (taken : Nat) (text passed rest : List Char) :
    Reads (pure ending) (taken + passed.length) (text ++ passed.reverse) rest
      (taken + passed.reverse.length) ending (text ++ passed.reverse) := by
  rw [List.length_reverse]
  exact Reads.pure _ _ _ _

theorem takes_passOver {quote : Char} (hn : quote ≠ '\n') (hb : quote ≠ '\\') (taken : Nat)
    (text passed : List Char) (hrounds : rest.length < rounds) :
    let result := Literal.passOver quote passed rest
    Reads (passOver quote rounds) (taken + passed.length) (text ++ passed.reverse) rest
      (taken + result.1.length) result.2 (text ++ result.1) := by
  induction rounds generalizing passed rest with
  | zero => exact absurd hrounds (Nat.not_lt_zero _)
  | succ rounds ih =>
    intro result
    rw [passOver]
    refine Reads.isAtEnd_bind ?_
    cases rest with
    | nil => exact reads_passed .text taken text passed []
    | cons c rest =>
      have hlt : rest.length < rounds := Nat.lt_of_succ_lt_succ hrounds
      refine Reads.current_cons ?_
      by_cases hc : c = '\n'
      · subst hc
        rw [if_pos (beq_self_eq_true _), show result = _ from Literal.passOver_newline]
        exact reads_passed .line taken text passed _
      rw [if_neg (mt beq_iff_eq.mp hc)]
      refine bump_passed ?_
      by_cases hq : c = quote
      · subst hq
        rw [if_pos (beq_self_eq_true _), show result = _ from Literal.passOver_quote hn hb]
        exact reads_passed .quote taken text (c :: passed) rest
      rw [if_neg (mt beq_iff_eq.mp hq)]
      refine Reads.isAtEnd_bind (Reads.current_bind ?_)
      by_cases hslash : c = '\\'
      · subst hslash
        cases rest with
        | nil =>
          rw [show result = _ from Literal.passOver_backslash_nil hb]
          exact ih ('\\' :: passed) hlt
        | cons d rest =>
          show Reads (if (d != '\n') = true then _ else _) _ _ _ _ _ _
          by_cases hd : d = '\n'
          · subst hd
            have h := ih ('\\' :: passed) hlt
            rw [Literal.passOver_newline] at h
            rw [show result = _ from Literal.passOver_backslash_newline]
            exact h
          · rw [if_pos (bne_iff_ne.mpr hd), show result = _ from Literal.passOver_backslash hd]
            exact bump_passed (ih (d :: '\\' :: passed) (Nat.lt_of_succ_lt hlt))
      · rw [beq_false_of_ne hslash, show result = _ from Literal.passOver_cons hc hq hslash]
        exact ih (c :: passed) hlt

/-- Nothing of the rest is passed over before. -/
theorem passOver_bind {quote : Char} (hn : quote ≠ '\n') (hb : quote ≠ '\\')
    {k : Literal.Ending → Action β} (hrounds : rest.length < rounds)
    (h : Reads (k (Literal.passOver quote [] rest).2)
      (taken + (Literal.passOver quote [] rest).1.length)
      (text ++ (Literal.passOver quote [] rest).1)
      (rest.drop (Literal.passOver quote [] rest).1.length) total b text') :
    Reads (passOver quote rounds >>= k) taken text rest total b text' := by
  have hpassed := takes_passOver hn hb taken text [] hrounds
  rw [List.reverse_nil, List.append_nil] at hpassed
  refine Reads.bind hpassed ?_
  rwa [Nat.add_sub_cancel_left]

end PassOver

/-! ## Strings -/

/-- The lexeme of a string whose body is `b`; its text so far starts with its
opening quote. -/
theorem takes_body (text : List Char) (width : Nat) (hrounds : rest.length < rounds) :
    Takes (body rounds) (width + 1) ('"' :: text.reverse) rest
      (Literal.ofBody (Literal.body text width rest)) := by
  induction rounds generalizing text width rest with
  | zero => exact absurd hrounds (Nat.not_lt_zero _)
  | succ rounds ih =>
    rw [body]
    refine Reads.isAtEnd_bind (Reads.current_bind ?_)
    cases rest with
    | nil => exact Reads.pure _ _ _ _
    | cons c rest =>
      have hlt : rest.length < rounds := Nat.lt_of_succ_lt_succ hrounds
      show Reads (if (c == '\n') = true then _ else _) _ _ _ _ _ _
      by_cases hn : c = '\n'
      · subst hn
        exact Reads.pure _ _ _ _
      rw [if_neg (mt beq_iff_eq.mp hn)]
      refine Reads.current_cons ?_
      by_cases hq : c = '"'
      · subst hq
        exact Reads.advance_bind (Reads.textSoFar_bind (Reads.setText_bind (Reads.pure _ _ _ _)))
      rw [if_neg (mt beq_iff_eq.mp hq)]
      by_cases hb : c = '\\'
      · subst hb
        refine Reads.advance_bind (Reads.isAtEnd_bind ?_)
        cases rest with
        | nil =>
          show Takes (do push '\\'; return .malformed .unclosedString) _ _ _
            ⟨_, '"' :: ('\\' :: text).reverse, _⟩
          rw [List.reverse_cons]
          exact Reads.push_bind (Reads.pure _ _ _ _)
        | cons letter rest =>
          refine Reads.current_cons ?_
          cases hletter : Escape.decode? letter with
          | some d =>
            rw [Literal.body_escape hletter]
            refine Reads.push_bind (Reads.advance_bind ?_)
            have h := ih (d :: text) (width + 2) (Nat.lt_of_succ_lt hlt)
            rwa [List.reverse_cons] at h
          | none =>
            rw [Literal.body_unknown hletter]
            refine Reads.push_bind (passOver_bind (by decide) (by decide) hlt ?_)
            show Takes _ _ _ _
              ⟨_, '"' :: (text.reverse ++ '\\' :: (Literal.passOver '"' [] (letter :: rest)).1), _⟩
            rw [List.append_cons text.reverse]
            rw [Nat.add_right_comm (width + 1)]
            exact Reads.pure _ _ _ _
      · rw [if_neg (mt beq_iff_eq.mp hb), Literal.body_cons hq hn hb]
        refine Reads.push_bind (Reads.advance_bind ?_)
        have h := ih (c :: text) (width + 1) hlt
        rwa [List.reverse_cons] at h

theorem takes_string (hrounds : rest.length < rounds) :
    Takes (string rounds) 0 [] ('"' :: rest) (Literal.readString rest) := by
  have hread : Literal.readString rest = Literal.ofBody (Literal.body [] 0 rest) := by
    rw [Literal.readString, Literal.ofBody]
    cases (Literal.body [] 0 rest).problem? <;> rfl
  rw [string, hread]
  exact Reads.bump_bind (takes_body [] 0 hrounds)

/-! ## Characters -/

/-- A mistaken literal stands for itself. -/
theorem passOver_verbatim (verdict : Literal.Ending → Verdict) (taken : List Char)
    (hrounds : rest.length < rounds) :
    Takes (do return verdict (← passOver '\'' rounds)) taken.length taken rest
      (verbatim (verdict (Literal.passOver '\'' [] rest).2)
        (taken ++ (Literal.passOver '\'' [] rest).1)) := by
  refine passOver_bind (by decide) (by decide) hrounds ?_
  show Reads _ _ _ _ (taken ++ _).length _ _
  rw [List.length_append]
  exact Reads.pure _ _ _ _

theorem takes_close (taken : List Char) (c : Char) (hrounds : rest.length < rounds) :
    Takes (close c rounds) taken.length taken rest (Literal.close taken c rest) := by
  rw [close]
  refine Reads.current_bind ?_
  by_cases hclose : rest.head? = some '\''
  · obtain ⟨rest, rfl⟩ := List.head?_eq_some_iff.mp hclose
    exact Reads.advance_bind (Reads.setText_bind (Reads.pure _ _ _ _))
  · rw [front_beq (by decide) hclose, Literal.close_of_ne hclose]
    exact passOver_verbatim (fun ending => .malformed ending.problem) taken hrounds

theorem takes_character (hrounds : rest.length < rounds) :
    Takes (character rounds) 0 [] ('\'' :: rest) (Literal.readCharacter rest) := by
  rw [character]
  refine Reads.bump_bind (Reads.isAtEnd_bind ?_)
  cases rest with
  | nil => exact Reads.pure _ _ _ _
  | cons c rest =>
    have hlt : rest.length < rounds := Nat.lt_of_succ_lt hrounds
    refine Reads.current_cons ?_
    by_cases hn : c = '\n'
    · subst hn
      exact Reads.pure _ _ _ _
    rw [if_neg (mt beq_iff_eq.mp hn)]
    by_cases hq : c = '\''
    · subst hq
      exact Reads.bump_bind (Reads.pure _ _ _ _)
    rw [if_neg (mt beq_iff_eq.mp hq)]
    by_cases hb : c = '\\'
    · subst hb
      refine Reads.bump_bind (Reads.isAtEnd_bind ?_)
      cases rest with
      | nil => exact Reads.pure _ _ _ _
      | cons letter rest =>
        refine Reads.current_cons ?_
        cases hletter : Escape.decode? letter with
        | some d =>
          rw [Literal.readCharacter_escape hletter]
          exact Reads.bump_bind (takes_close ['\'', '\\', letter] d (Nat.lt_of_succ_lt hlt))
        | none =>
          rw [Literal.readCharacter_unknown hletter]
          exact passOver_verbatim (fun _ => .malformed .unknownEscape) ['\'', '\\'] hlt
    · rw [if_neg (mt beq_iff_eq.mp hb), Literal.readCharacter_cons hn hq hb]
      exact Reads.bump_bind (takes_close ['\'', c] c hlt)

/-! ## Every lexeme -/

/-- A scanner takes the lexeme that is read of all characters at once. -/
theorem takes_lexeme (lexicon : Lexicon) (c : Char) (hrounds : (c :: rest).length < rounds) :
    Takes (lexeme lexicon rounds) 0 [] (c :: rest) (Lexeme.read lexicon c rest) := by
  have hlt : rest.length < rounds := Nat.lt_of_succ_lt hrounds
  have hpos := width_read_pos lexicon c rest
  rw [lexeme]
  refine Reads.current_cons ?_
  by_cases hword : startsWord c = true
  · rw [if_pos hword, Lexeme.read, if_pos hword]
    exact takes_word lexicon hword hrounds
  rw [if_neg hword]
  by_cases hdecimal : Number.isDecimal c = true
  · rw [if_pos hdecimal, read_number (Or.inl hdecimal)]
    exact takes_number (Or.inl hdecimal) hrounds
  rw [if_neg hdecimal]
  have hnext : Number.isDecimal (front rest) = rest.head?.any Number.isDecimal := by
    cases rest with
    | nil => decide
    | cons d rest => rfl
  rw [Bool.not_eq_true] at hword hdecimal
  by_cases hminus : c = '-'
  · subst hminus
    rw [if_pos (beq_self_eq_true _)]
    refine Reads.peek_bind hpos ?_
    show Takes (if Number.isDecimal (front rest) = true then _ else _) _ _ _ _
    rw [hnext]
    cases hdigit : rest.head?.any Number.isDecimal with
    | true =>
      rw [if_pos rfl, read_number (Or.inr ⟨rfl, hdigit⟩)]
      exact takes_number (Or.inr ⟨rfl, hdigit⟩) hrounds
    | false =>
      rw [if_neg Bool.false_ne_true, read_operator hword hdecimal hdigit (by decide) (by decide)]
      exact takes_operator '-' rest
  rw [if_neg (mt beq_iff_eq.mp hminus)]
  by_cases hpoint : c = '.'
  · subst hpoint
    rw [if_pos (beq_self_eq_true _)]
    refine Reads.peek_bind hpos ?_
    show Takes (if Number.isDecimal (front rest) = true then _ else _) _ _ _ _
    rw [hnext]
    cases hdigit : rest.head?.any Number.isDecimal with
    | true =>
      rw [if_pos rfl, read_point hdigit]
      exact takes_pointed hrounds
    | false =>
      rw [if_neg Bool.false_ne_true, read_operator hword hdecimal hdigit (by decide) (by decide)]
      exact takes_operator '.' rest
  rw [if_neg (mt beq_iff_eq.mp hpoint)]
  by_cases hstring : c = '"'
  · subst hstring
    rw [if_pos (beq_self_eq_true _), read_string]
    exact takes_string hlt
  rw [if_neg (mt beq_iff_eq.mp hstring)]
  by_cases hcharacter : c = '\''
  · subst hcharacter
    rw [if_pos (beq_self_eq_true _), read_character]
    exact takes_character hlt
  rw [if_neg (mt beq_iff_eq.mp hcharacter),
    read_operator_of_ne hword hdecimal hminus hpoint hstring hcharacter]
  exact takes_operator c rest

end Scanner
end LexicalFrontEnd
