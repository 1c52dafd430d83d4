import LexicalFrontEnd.Proofs.Lexeme.Delimited
import LexicalFrontEnd.Proofs.Spelling.Basic

/-!
Numbers are read as they are written.

A number that is written in full ends where its last digits end, as long as
what follows is no digit; behind digits without a base, no point or exponent may
follow either.  White space is none of these.
-/

namespace LexicalFrontEnd

open Lexeme

namespace Radix

theorem isDigit_of_mem {radix : Radix} {c : Char} (h : c ∈ radix.digits) :
    Number.isDigit radix.base c = true := by
  have hall : radix.digits.all (Number.isDigit radix.base) = true := by cases radix <;> decide
  exact List.all_eq_true.mp hall c h

theorem isDecimal_of_mem {c : Char} (h : c ∈ decimal.digits) : Number.isDecimal c = true := by
  have hall : decimal.digits.all Number.isDecimal = true := by decide
  exact List.all_eq_true.mp hall c h

namespace Numeral

variable {radix : Radix} {digits rest : List Char}

theorem isDigit (h : radix.Numeral digits) :
    ∀ c ∈ digits, Number.isDigit radix.base c = true :=
  fun c hc => isDigit_of_mem (h.2 c hc)

theorem exists_cons (h : decimal.Numeral digits) :
    ∃ d more, digits = d :: more ∧ Number.isDecimal d = true := by
  cases digits with
  | nil => exact absurd rfl h.1
  | cons d more => exact ⟨d, more, rfl, isDecimal_of_mem (h.2 d List.mem_cons_self)⟩

theorem digits_append (h : radix.Numeral digits)
    (hstop : ∀ c, rest.head? = some c → Number.isDigit radix.base c = false) :
    Number.digits radix.base (digits ++ rest) = digits :=
  takeWhile_append h.isDigit hstop

end Numeral
end Radix

namespace Lexeme
namespace Number

variable {negative : Bool} {ds rest : List Char}

theorem complete_of_ne_nil (kind : TokenKind) (problem : Problem) (front : List Char)
    (h : ds ≠ []) : complete kind problem front ds = verbatim (.token kind none) (front ++ ds) := by
  cases ds with
  | nil => exact absurd rfl h
  | cons d ds => rfl

theorem sign_minus (negative : Bool) {text : List Char} (h : text.head? ≠ some '-') :
    sign (minus negative ++ text) = (minus negative, text) := by
  cases negative with
  | true => rfl
  | false =>
    show sign text = ([], text)
    unfold sign
    split
    · exact absurd rfl h
    · rfl

theorem head?_append_ne_minus (h : Radix.decimal.Numeral ds) (rest : List Char) :
    (ds ++ rest).head? ≠ some '-' := by
  obtain ⟨d, more, rfl, hd⟩ := h.exists_cons
  intro hhead
  rw [Option.some.inj hhead] at hd
  exact absurd hd (by decide)

/-! ## Exponents and fractions -/

theorem withExponent_begun (kind : TokenKind) (mantissa : List Char) {e : Exponent} (h : e.Begun)
    (hrest : Delimits rest) :
    withExponent kind mantissa (e.text ++ rest) =
      complete .real .malformedReal (mantissa ++ e.letter :: minus e.negative) e.digits := by
  have hletter : e.letter = 'e' ∨ e.letter = 'E' := by
    have := h.1
    rwa [List.mem_cons, List.mem_singleton] at this
  have htext : e.text ++ rest = e.letter :: (minus e.negative ++ (e.digits ++ rest)) := by
    rw [Exponent.text, List.append_assoc]
    rfl
  have hminus : (e.digits ++ rest).head? ≠ some '-' := by
    rw [List.head?_append]
    cases hdigits : e.digits with
    | nil => exact hrest.ne (by decide)
    | cons d more =>
      have hd := h.2 d (hdigits ▸ List.mem_cons_self)
      intro hhead
      rw [Option.some.inj hhead] at hd
      exact absurd hd (by decide)
  have hdigits : digits 10 (e.digits ++ rest) = e.digits :=
    takeWhile_append (fun c hc => Radix.isDigit_of_mem (h.2 c hc)) (hrest.isDigit 10)
  rw [htext, withExponent, if_pos hletter, sign_minus e.negative hminus]
  simp only
  rw [hdigits]

theorem withExponent_exponent (kind : TokenKind) (mantissa : List Char) {e : Exponent}
    (h : e.WellFormed) (hrest : Delimits rest) :
    withExponent kind mantissa (e.text ++ rest) =
      verbatim (.token .real none) (mantissa ++ e.text) := by
  rw [withExponent_begun kind mantissa h.begun hrest, complete_of_ne_nil _ _ _ h.2.1,
    List.append_assoc]
  rfl

theorem withExponent_delimited (kind : TokenKind) (mantissa : List Char) (hrest : Delimits rest) :
    withExponent kind mantissa rest = verbatim (.token kind none) mantissa := by
  cases rest with
  | nil => rfl
  | cons c rest =>
    have hblank := hrest c rfl
    rw [withExponent, if_neg]
    rintro (hc | hc)
    · exact Unicode.ne_of_isBlank hblank (by decide) hc
    · exact Unicode.ne_of_isBlank hblank (by decide) hc

theorem withExponent_text (kind : TokenKind) (mantissa : List Char) {exponent? : Option Exponent}
    (h : ∀ e ∈ exponent?, e.WellFormed) (hrest : Delimits rest) :
    withExponent kind mantissa (Spelling.exponentText exponent? ++ rest) =
      verbatim (.token (if exponent? = none then kind else .real) none)
        (mantissa ++ Spelling.exponentText exponent?) := by
  cases exponent? with
  | none =>
    rw [if_pos rfl]
    show withExponent kind mantissa rest = verbatim _ (mantissa ++ [])
    rw [List.append_nil]
    exact withExponent_delimited kind mantissa hrest
  | some e =>
    rw [if_neg (Option.some_ne_none e)]
    exact withExponent_exponent kind mantissa (h e rfl) hrest

/-! ## Whole numbers -/

theorem base?_of_ne {c : Char} (hb : c ≠ 'b') (ho : c ≠ 'o') (hx : c ≠ 'x') : base? c = none := by
  unfold base?
  split
  · exact absurd rfl hb
  · exact absurd rfl ho
  · exact absurd rfl hx
  · rfl

/-- The text goes on with no digit and with no letter of a base. -/
def EndsWhole (text : List Char) : Prop :=
  ∀ c, text.head? = some c → isDigit 10 c = false ∧ base? c = none

theorem endsWhole_of_delimits (h : Delimits rest) : EndsWhole rest := by
  intro c hc
  have hblank := h c hc
  refine ⟨isDigit_of_isBlank hblank 10, base?_of_ne ?_ ?_ ?_⟩
  · exact Unicode.ne_of_isBlank hblank (by decide)
  · exact Unicode.ne_of_isBlank hblank (by decide)
  · exact Unicode.ne_of_isBlank hblank (by decide)

theorem unsigned_whole (front : List Char) (h : Radix.decimal.Numeral ds)
    (hrest : EndsWhole rest) :
    unsigned front (ds ++ rest) = afterWhole front ds rest := by
  have hdigits : digits 10 (ds ++ rest) = ds := h.digits_append fun c hc => (hrest c hc).1
  have hdecimal : decimal front (ds ++ rest) = afterWhole front ds rest := by
    rw [decimal_eq, hdigits, List.drop_left]
  rw [← hdecimal]
  have hbase : Radix.decimal.digits.all (base? · == none) = true := by decide
  obtain ⟨d, more, rfl, -⟩ := h.exists_cons
  refine unsigned_eq_decimal (Or.inr ?_) front
  cases more with
  | nil =>
    show rest.head?.bind base? = none
    cases hhead : rest.head? with
    | none => rfl
    | some c => exact (hrest c hhead).2
  | cons c more =>
    have hc := h.2 c (List.mem_cons_of_mem _ List.mem_cons_self)
    exact eq_of_beq (List.all_eq_true.mp hbase c hc)

theorem read_marked {radix : Radix} {letter : Char} (hletter : base? letter = some radix.base)
    (h : radix.Numeral ds) (hrest : Delimits rest) :
    read (minus negative ++ '0' :: letter :: (ds ++ rest)) =
      verbatim (.token .integer none) (minus negative ++ ['0', letter] ++ ds) := by
  have hzero : ('0' :: letter :: (ds ++ rest)).head? ≠ some '-' := by
    show some '0' ≠ some '-'
    decide
  rw [read_eq, sign_minus negative hzero]
  simp only
  rw [unsigned, hletter]
  show complete _ _ _ (digits radix.base (ds ++ rest)) = _
  rw [h.digits_append (hrest.isDigit radix.base), complete_of_ne_nil _ _ _ h.1]

/-! ## Integers and reals -/

theorem read_integer {radix : Radix} (h : radix.Numeral ds) (hrest : Delimits rest) :
    read ((Spelling.integer negative radix ds).text ++ rest) =
      verbatim (.token .integer none) (Spelling.integer negative radix ds).text := by
  rw [Spelling.text, List.append_assoc, List.append_assoc]
  cases radix with
  | binary => exact read_marked rfl h hrest
  | octal => exact read_marked rfl h hrest
  | hexadecimal => exact read_marked rfl h hrest
  | decimal =>
    rw [Radix.mark, List.nil_append, read_eq, sign_minus negative (head?_append_ne_minus h rest)]
    simp only
    rw [unsigned_whole _ h (endsWhole_of_delimits hrest), afterWhole_of_ne (hrest.ne (by decide)),
      withExponent_delimited _ _ hrest, List.append_nil]

theorem endsWhole_exponentText {exponent? : Option Exponent}
    (h : ∀ e ∈ exponent?, e.letter ∈ ['e', 'E']) (hrest : Delimits rest) :
    EndsWhole (Spelling.exponentText exponent? ++ rest) := by
  cases exponent? with
  | none => exact endsWhole_of_delimits hrest
  | some e =>
    intro c hc
    have hletter := h e rfl
    rw [Option.some.inj hc, List.mem_cons, List.mem_singleton] at hletter
    rcases hletter with rfl | rfl
    · decide
    · decide

theorem endsWhole_fractionText (fraction? : Option (List Char)) (h : EndsWhole rest) :
    EndsWhole (Spelling.fractionText fraction? ++ rest) := by
  cases fraction? with
  | none => exact h
  | some digits =>
    intro c hc
    exact Option.some.inj hc ▸ (by decide : isDigit 10 '.' = false ∧ base? '.' = none)

theorem head?_exponentText_ne_point {exponent? : Option Exponent}
    (h : ∀ e ∈ exponent?, e.letter ∈ ['e', 'E']) (hrest : Delimits rest) :
    (Spelling.exponentText exponent? ++ rest).head? ≠ some '.' := by
  cases exponent? with
  | none => exact hrest.ne (by decide)
  | some e =>
    intro hhead
    have hletter := h e rfl
    rw [Option.some.inj hhead] at hletter
    exact absurd hletter (by decide)

/-- A fraction makes a number real. -/
theorem afterWhole_fractionText (front whole : List Char) {fraction? : Option (List Char)}
    (hfraction : ∀ f ∈ fraction?, Radix.decimal.Numeral f) (hrest : EndsWhole rest)
    (hpoint : rest.head? ≠ some '.') :
    afterWhole front whole (Spelling.fractionText fraction? ++ rest) =
      withExponent (if fraction? = none then .integer else .real)
        (front ++ whole ++ Spelling.fractionText fraction?) rest := by
  cases fraction? with
  | none =>
    rw [if_pos rfl, Spelling.fractionText, List.append_nil]
    exact afterWhole_of_ne hpoint front whole
  | some f =>
    have hdigits : digits 10 (f ++ rest) = f :=
      (hfraction f rfl).digits_append fun c hc => (hrest c hc).1
    have hne : ¬f.isEmpty = true := by
      rw [List.isEmpty_iff]
      exact (hfraction f rfl).1
    show afterWhole front whole ('.' :: (f ++ rest)) = _
    rw [afterWhole, hdigits, if_neg hne, List.drop_left, if_neg (Option.some_ne_none f)]
    rfl

/-- A fraction, an exponent or both make a number real. -/
theorem afterWhole_text (front whole : List Char) {fraction? : Option (List Char)}
    {exponent? : Option Exponent} (hfraction : ∀ f ∈ fraction?, Radix.decimal.Numeral f)
    (hexponent : ∀ e ∈ exponent?, e.WellFormed) (hreal : ¬(fraction? = none ∧ exponent? = none))
    (hrest : Delimits rest) :
    afterWhole front whole
        (Spelling.fractionText fraction? ++ (Spelling.exponentText exponent? ++ rest)) =
      verbatim (.token .real none)
        (front ++ whole ++ Spelling.fractionText fraction? ++ Spelling.exponentText exponent?) := by
  have hkind : (if exponent? = none then (if fraction? = none then .integer else .real) else .real :
      TokenKind) = .real := by
    split
    · rename_i hexponent
      rw [if_neg fun hfraction => hreal ⟨hfraction, hexponent⟩]
    · rfl
  have hletter (e : Exponent) (he : e ∈ exponent?) := (hexponent e he).1
  rw [afterWhole_fractionText front whole hfraction (endsWhole_exponentText hletter hrest)
      (head?_exponentText_ne_point hletter hrest),
    withExponent_text _ _ hexponent hrest, hkind]

theorem read_real {whole : List Char} {fraction? : Option (List Char)}
    {exponent? : Option Exponent}
    (h : (Spelling.real negative whole fraction? exponent?).WellFormed) (hrest : Delimits rest) :
    read ((Spelling.real negative whole fraction? exponent?).text ++ rest) =
      verbatim (.token .real none) (Spelling.real negative whole fraction? exponent?).text := by
  obtain ⟨hwhole, hfraction, hexponent, hreal⟩ := h
  have hends := endsWhole_fractionText fraction?
    (endsWhole_exponentText (fun e he => (hexponent e he).1) hrest)
  have htext : (Spelling.real negative whole fraction? exponent?).text ++ rest =
      minus negative ++ (whole ++
        (Spelling.fractionText fraction? ++ (Spelling.exponentText exponent? ++ rest))) := by
    rw [Spelling.text, List.append_assoc, List.append_assoc, List.append_assoc]
  rw [htext, read_eq, sign_minus negative (head?_append_ne_minus hwhole _)]
  simp only
  rw [unsigned_whole _ hwhole hends, afterWhole_text _ _ hfraction hexponent hreal hrest]
  rfl

end Number
end Lexeme
end LexicalFrontEnd
