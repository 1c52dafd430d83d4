import LexicalFrontEnd.Proofs.Lexeme.Number
import LexicalFrontEnd.Proofs.Unicode.Classes

/-!
Where white space or the end of the text stands behind a lexeme.
-/

namespace LexicalFrontEnd
namespace Lexeme

open Unicode

def Delimits (rest : List Char) : Prop := ∀ c, rest.head? = some c → isBlank c = true

theorem takeWhile_append {p : Char → Bool} {front rest : List Char} (hfront : ∀ c ∈ front, p c = true)
    (hstop : ∀ c, rest.head? = some c → p c = false) : (front ++ rest).takeWhile p = front := by
  rw [List.takeWhile_append_of_pos hfront]
  cases rest with
  | nil => exact List.append_nil front
  | cons c rest =>
    rw [List.takeWhile_cons_of_neg (by rw [hstop c rfl]; exact Bool.false_ne_true),
      List.append_nil]

theorem Delimits.nil : Delimits [] := by
  intro c hc
  cases hc

theorem Delimits.cons {c : Char} (hc : isBlank c = true) (rest : List Char) :
    Delimits (c :: rest) := by
  intro d hd
  rwa [← Option.some.inj hd]

theorem Delimits.ne {rest : List Char} (h : Delimits rest) {d : Char} (hd : isBlank d = false) :
    rest.head? ≠ some d := by
  intro hhead
  exact ne_of_isBlank (h d hhead) hd rfl

theorem Delimits.isDigit {rest : List Char} (h : Delimits rest) (base : Nat) (c : Char)
    (hc : rest.head? = some c) : Number.isDigit base c = false :=
  Number.isDigit_of_isBlank (h c hc) base

theorem Delimits.any_isDecimal {rest : List Char} (h : Delimits rest) :
    rest.head?.any Number.isDecimal = false := by
  cases hhead : rest.head? with
  | none => rfl
  | some c =>
    show Number.isDecimal c = false
    rw [← Bool.not_eq_true]
    intro hc
    have hdigit := h.isDigit 10 c hhead
    rw [Number.isDigit_ten hc] at hdigit
    exact absurd hdigit.symm Bool.false_ne_true

end Lexeme
end LexicalFrontEnd
