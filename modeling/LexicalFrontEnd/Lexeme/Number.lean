import LexicalFrontEnd.Lexeme.Basic

/-!
Numbers.

An integer is a run of decimal digits, or `0b`, `0o` or `0x` and a run of digits
of that base.  A real is a run of decimal digits with a fraction, an exponent or
both; a fraction and an exponent need digits of their own.  Both may have a minus
sign.  A number ends at the first character that cannot go on with it, whether
it is complete by then or not.
-/

namespace LexicalFrontEnd
namespace Lexeme
namespace Number

def isDecimal (c : Char) : Bool := '0' ≤ c && c ≤ '9'

/-- Whether the character is a digit to the base 2, 8, 10 or 16.  Only the ASCII
digits and letters are digits. -/
def isDigit (base : Nat) (c : Char) : Bool :=
  if isDecimal c then c.toNat - '0'.toNat < base
  else base = 16 && (('a' ≤ c && c ≤ 'f') || ('A' ≤ c && c ≤ 'F'))

/-- The base that a letter after a leading zero announces. -/
def base? : Char → Option Nat
  | 'b' => some 2
  | 'o' => some 8
  | 'x' => some 16
  | _ => none

def sign : List Char → List Char × List Char
  | '-' :: rest => (['-'], rest)
  | text => ([], text)

def digits (base : Nat) (text : List Char) : List Char := text.takeWhile (isDigit base)

/-- The number `front` with digits that it needs: malformed without any. -/
def complete (kind : TokenKind) (problem : Problem) (front digits : List Char) : Lexeme :=
  verbatim (if digits.isEmpty then .malformed problem else .token kind none) (front ++ digits)

def withExponent (kind : TokenKind) (mantissa : List Char) : List Char → Lexeme
  | [] => verbatim (.token kind none) mantissa
  | c :: rest =>
    if c = 'e' ∨ c = 'E' then
      let (minus, rest) := sign rest
      complete .real .malformedReal (mantissa ++ c :: minus) (digits 10 rest)
    else verbatim (.token kind none) mantissa

def decimal (minus text : List Char) : Lexeme :=
  let whole := digits 10 text
  match text.drop whole.length with
  | '.' :: rest =>
    let fraction := digits 10 rest
    if fraction.isEmpty then verbatim (.malformed .malformedReal) (minus ++ whole ++ ['.'])
    else
      withExponent .real (minus ++ whole ++ '.' :: fraction) (rest.drop fraction.length)
  | rest => withExponent .integer (minus ++ whole) rest

/-- The number at the front of a text that starts with a digit, or with a minus
sign and a digit. -/
def read (text : List Char) : Lexeme :=
  let (minus, text) := sign text
  match text with
  | '0' :: letter :: rest =>
    match base? letter with
    | some base =>
      complete .integer .malformedInteger (minus ++ ['0', letter]) (digits base rest)
    | none => decimal minus text
  | _ => decimal minus text

/-- The attempt at a real without a digit before its point, at the front of a
text that starts with the point.  It ends where the real would. -/
def readPoint (text : List Char) : Lexeme :=
  let fraction := digits 10 text.tail
  { withExponent .real ('.' :: fraction) (text.drop (fraction.length + 1)) with
    verdict := .malformed .malformedReal }

theorem width_complete_pos {kind : TokenKind} {problem : Problem} {front digits : List Char}
    (h : front ≠ []) : 0 < (complete kind problem front digits).width := by
  have := List.length_pos_iff.mpr h
  simp only [complete, verbatim, List.length_append]
  omega

theorem width_withExponent_pos {kind : TokenKind} {mantissa : List Char} (h : mantissa ≠ [])
    (text : List Char) : 0 < (withExponent kind mantissa text).width := by
  cases text with
  | nil => exact List.length_pos_iff.mpr h
  | cons c rest =>
    simp only [withExponent]
    split
    · exact width_complete_pos (by simp)
    · exact List.length_pos_iff.mpr h

theorem width_decimal_pos {minus text : List Char} (h : minus ++ digits 10 text ≠ []) :
    0 < (decimal minus text).width := by
  simp only [decimal]
  split
  · split
    · exact List.length_pos_iff.mpr (by simp)
    · exact width_withExponent_pos (by simp) _
  · exact width_withExponent_pos h _

theorem digits_ten_ne_nil {c : Char} (h : isDecimal c = true) (rest : List Char) :
    digits 10 (c :: rest) ≠ [] := by
  have : isDigit 10 c = true := by
    simp only [isDecimal, Bool.and_eq_true, decide_eq_true_eq] at h
    have : c.toNat ≤ '9'.toNat := h.2
    simp only [isDigit, isDecimal, h.1, h.2, decide_true, Bool.and_self, if_true, decide_eq_true_eq]
    have : '9'.toNat = 57 := rfl
    have : '0'.toNat = 48 := rfl
    omega
  simp [digits, this]

/-- A number has at least one character. -/
theorem width_read_pos {c : Char} (h : isDecimal c = true ∨ c = '-') (rest : List Char) :
    0 < (read (c :: rest)).width := by
  have hne : (sign (c :: rest)).1 ++ digits 10 (sign (c :: rest)).2 ≠ [] := by
    by_cases hc : c = '-'
    · subst hc
      simp [sign]
    · have hs : sign (c :: rest) = ([], c :: rest) := by
        unfold sign
        split
        · simp_all
        · rfl
      rw [hs]
      exact digits_ten_ne_nil (h.resolve_right hc) rest
  simp only [read]
  split
  · split
    · exact width_complete_pos (by simp)
    · exact width_decimal_pos hne
  · exact width_decimal_pos hne

end Number
end Lexeme
end LexicalFrontEnd
