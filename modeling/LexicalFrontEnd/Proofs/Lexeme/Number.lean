import LexicalFrontEnd.Lexeme.Number
import LexicalFrontEnd.Proofs.Lexeme.OneAhead

/-!
Numbers look one character ahead, and stand for themselves.
-/

namespace LexicalFrontEnd
namespace Lexeme
namespace Number

theorem isDecimal_ne_newline {c : Char} (h : isDecimal c = true) : c ≠ '\n' := by
  rintro rfl
  exact absurd h (by decide)

theorem isDigit_newline (base : Nat) : isDigit base '\n' = false := by
  show (if isDecimal '\n' then _ else _) = false
  rw [if_neg (by decide)]
  exact Bool.and_eq_false_imp.mpr fun _ => by decide

theorem isDigit_ten {c : Char} (h : isDecimal c = true) : isDigit 10 c = true := by
  rw [isDigit, if_pos h, decide_eq_true_eq]
  simp only [isDecimal, Bool.and_eq_true, decide_eq_true_eq] at h
  have hle : c.toNat ≤ 57 := h.2
  have hzero : '0'.toNat = 48 := rfl
  omega

theorem digits_append_drop (base : Nat) (text : List Char) :
    digits base text ++ text.drop (digits base text).length = text := by
  have htake : digits base text = text.take (digits base text).length :=
    List.prefix_iff_eq_take.mp (List.takeWhile_prefix _)
  have h := List.take_append_drop (digits base text).length text
  rwa [← htake] at h

/-! ## Looking ahead -/

theorem oneAhead_complete (kind : TokenKind) (problem : Problem) (base : Nat)
    (front text : List Char) :
    OneAhead Lexeme.width front.length
      (fun t => complete kind problem front (digits base t)) text := by
  refine OneAhead.takeWhile (isDigit_newline base)
    (fun run _ => complete kind problem front run) ?_
  exact OneAhead.stop (List.length_append) fun _ _ => rfl

theorem oneAhead_withExponent (kind : TokenKind) (mantissa text : List Char) :
    OneAhead Lexeme.width mantissa.length (withExponent kind mantissa) text := by
  cases text with
  | nil => exact OneAhead.stop_nil rfl
  | cons c text =>
    by_cases hc : c = 'e' ∨ c = 'E'
    · have hne : c ≠ '\n' := by
        rintro rfl
        exact absurd hc (by decide)
      have hread (t : List Char) : withExponent kind mantissa (c :: t) =
          complete .real .malformedReal (mantissa ++ c :: (sign t).1) (digits 10 (sign t).2) :=
        if_pos hc
      refine OneAhead.cons hne ?_
      simp only [hread]
      -- The sign of the exponent is taken where there is one.
      by_cases hsign : text.head? = some '-'
      · obtain ⟨text, rfl⟩ := List.head?_eq_some_iff.mp hsign
        refine OneAhead.cons (by decide) ?_
        have h := oneAhead_complete .real .malformedReal 10 (mantissa ++ [c, '-']) text
        rwa [List.length_append] at h
      · have hnosign (t : List Char) (ht : t.head? = text.head?) : sign t = ([], t) := by
          unfold sign
          split
          · exact absurd ht.symm hsign
          · rfl
        have h := oneAhead_complete .real .malformedReal 10 (mantissa ++ [c]) text
        rw [List.length_append] at h
        apply OneAhead.of_head h
        intro other hother
        rw [hnosign other hother]
    · apply OneAhead.stop_cons
      · rw [withExponent, if_neg hc]
        rfl
      · intro other
        rw [withExponent, withExponent, if_neg hc, if_neg hc]

def afterWhole (minus whole : List Char) : List Char → Lexeme
  | '.' :: rest =>
    if (digits 10 rest).isEmpty then verbatim (.malformed .malformedReal) (minus ++ whole ++ ['.'])
    else
      withExponent .real (minus ++ whole ++ '.' :: digits 10 rest)
        (rest.drop (digits 10 rest).length)
  | rest => withExponent .integer (minus ++ whole) rest

theorem decimal_eq (minus text : List Char) :
    decimal minus text =
      afterWhole minus (digits 10 text) (text.drop (digits 10 text).length) := rfl

theorem afterWhole_of_ne {text : List Char} (h : text.head? ≠ some '.') (minus whole : List Char) :
    afterWhole minus whole text = withExponent .integer (minus ++ whole) text := by
  unfold afterWhole
  split
  · exact absurd rfl h
  · rfl

theorem oneAhead_afterWhole (minus whole text : List Char) :
    OneAhead Lexeme.width (minus.length + whole.length) (afterWhole minus whole) text := by
  by_cases hpoint : text.head? = some '.'
  · obtain ⟨text, rfl⟩ := List.head?_eq_some_iff.mp hpoint
    refine OneAhead.cons (by decide) ?_
    refine OneAhead.takeWhile (isDigit_newline 10)
      (fun run rest =>
        if run.isEmpty then verbatim (.malformed .malformedReal) (minus ++ whole ++ ['.'])
        else withExponent .real (minus ++ whole ++ '.' :: run) rest) ?_
    cases hrun : text.takeWhile (isDigit 10) with
    | nil =>
      refine OneAhead.stop ?_ fun _ _ => rfl
      show (minus ++ whole ++ ['.']).length = _
      rw [List.length_append, List.length_append]
      rfl
    | cons d run =>
      have h := oneAhead_withExponent .real (minus ++ whole ++ '.' :: d :: run)
        (text.drop (d :: run).length)
      rwa [List.length_append, List.length_append, List.length_cons, Nat.add_comm _ 1,
        ← Nat.add_assoc] at h
  · have h := oneAhead_withExponent .integer (minus ++ whole) text
    rw [List.length_append] at h
    apply OneAhead.of_head h
    intro other hother
    exact afterWhole_of_ne (by rwa [hother]) minus whole

def unsigned (minus text : List Char) : Lexeme :=
  match text with
  | '0' :: letter :: rest =>
    match base? letter with
    | some base =>
      complete .integer .malformedInteger (minus ++ ['0', letter]) (digits base rest)
    | none => decimal minus text
  | _ => decimal minus text

theorem read_eq (text : List Char) : read text = unsigned (sign text).1 (sign text).2 := rfl

theorem oneAhead_decimal_cons {c : Char} (hc : isDecimal c = true) (minus text : List Char) :
    OneAhead Lexeme.width (minus.length + 1) (fun t => decimal minus (c :: t)) text := by
  have hdigits (t : List Char) : digits 10 (c :: t) = c :: t.takeWhile (isDigit 10) :=
    List.takeWhile_cons_of_pos (isDigit_ten hc)
  simp only [decimal_eq, hdigits, List.length_cons, List.drop_succ_cons]
  refine OneAhead.takeWhile (isDigit_newline 10)
    (fun run => afterWhole minus (c :: run)) ?_
  rw [Nat.add_assoc, Nat.add_comm 1]
  exact oneAhead_afterWhole minus (c :: text.takeWhile (isDigit 10)) _

/-- Only a zero and the letter of a base announce another base. -/
theorem unsigned_eq_decimal {c : Char} {rest : List Char}
    (h : c ≠ '0' ∨ rest.head?.bind base? = none) (minus : List Char) :
    unsigned minus (c :: rest) = decimal minus (c :: rest) := by
  unfold unsigned
  split
  · rename_i letter rest heq
    obtain ⟨rfl, rfl⟩ := List.cons.inj heq
    rcases h with h | h
    · exact absurd rfl h
    · have hbase : base? letter = none := h
      rw [hbase]
  · rfl

/-- The letter of a base is taken, and every other one leaves a decimal
number. -/
theorem oneAhead_unsigned_cons {c : Char} (hc : isDecimal c = true) (minus text : List Char) :
    OneAhead Lexeme.width (minus.length + 1) (fun t => unsigned minus (c :: t)) text := by
  by_cases hzero : c = '0'
  · subst hzero
    cases text with
    | nil =>
      apply OneAhead.of_head (oneAhead_decimal_cons hc minus [])
      intro other hother
      exact unsigned_eq_decimal (Or.inr (by rw [hother]; rfl)) minus
    | cons letter text =>
      cases hbase : base? letter with
      | none =>
        apply OneAhead.of_head (oneAhead_decimal_cons hc minus (letter :: text))
        intro other hother
        exact unsigned_eq_decimal (Or.inr (by rw [hother]; exact hbase)) minus
      | some base =>
        have hne : letter ≠ '\n' := by
          rintro rfl
          cases hbase
        have hread (t : List Char) : unsigned minus ('0' :: letter :: t) =
            complete .integer .malformedInteger (minus ++ ['0', letter]) (digits base t) := by
          rw [unsigned, hbase]
        refine OneAhead.cons hne ?_
        simp only [hread]
        have h := oneAhead_complete .integer .malformedInteger base (minus ++ ['0', letter]) text
        rwa [List.length_append] at h
  · apply OneAhead.of_head (oneAhead_decimal_cons hc minus text)
    intro other _
    exact unsigned_eq_decimal (Or.inl hzero) minus

theorem oneAhead_read {c : Char} {text : List Char}
    (h : isDecimal c = true ∨ c = '-' ∧ text.head?.any isDecimal = true) :
    OneAhead Lexeme.width 1 (fun t => read (c :: t)) text := by
  rcases h with hc | ⟨rfl, htext⟩
  · have hread (t : List Char) : read (c :: t) = unsigned [] (c :: t) := by
      have hsign : sign (c :: t) = ([], c :: t) := by
        unfold sign
        split
        · rename_i heq
          obtain ⟨rfl, -⟩ := List.cons.inj heq
          exact absurd hc (by decide)
        · rfl
      rw [read_eq, hsign]
    simp only [hread]
    exact oneAhead_unsigned_cons hc [] text
  · obtain ⟨d, hhead, hd⟩ := (Option.any_eq_true _ _).mp htext
    obtain ⟨text, rfl⟩ := List.head?_eq_some_iff.mp hhead
    exact OneAhead.cons (isDecimal_ne_newline hd) (oneAhead_unsigned_cons hd ['-'] text)

/-- A real without a digit before its point ends where the real would. -/
theorem oneAhead_readPoint (text : List Char) :
    OneAhead Lexeme.width 1 (fun t => readPoint ('.' :: t)) text := by
  refine OneAhead.takeWhile (isDigit_newline 10)
    (fun run rest =>
      { withExponent .real ('.' :: run) rest with verdict := .malformed .malformedReal }) ?_
  have h := OneAhead.map Lexeme.width
    (fun lexeme => { lexeme with verdict := .malformed .malformedReal }) 0
    (fun lexeme => (Nat.zero_add lexeme.width).symm)
    (oneAhead_withExponent .real ('.' :: text.takeWhile (isDigit 10))
      (text.drop (text.takeWhile (isDigit 10)).length))
  rwa [List.length_cons, Nat.zero_add, Nat.add_comm] at h

end Number
end Lexeme
end LexicalFrontEnd
