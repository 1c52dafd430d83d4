import LexicalFrontEnd.Proofs.Lexeme.Literal
import LexicalFrontEnd.Proofs.Lexeme.Number
import LexicalFrontEnd.Proofs.Lexeme.Operator
import LexicalFrontEnd.Proofs.Unicode.Classes

/-!
Every lexeme looks one character ahead, and stands for itself unless it is a
literal.

Two characters tell which reader a lexeme goes to (`read_cases`), so what holds
of every reader holds of `Lexeme.read`.
-/

namespace LexicalFrontEnd
namespace Lexeme

theorem continuesWord_newline : continuesWord '\n' = false := by decide +kernel

theorem read_number {c : Char} {text : List Char}
    (h : Number.isDecimal c = true ∨ c = '-' ∧ text.head?.any Number.isDecimal = true)
    (lexicon : Lexicon) : read lexicon c text = Number.read (c :: text) := by
  have hword : startsWord c = false := by
    rcases h with hc | ⟨rfl, -⟩
    · exact Number.startsWord_of_isDecimal hc
    · decide +kernel
  rw [read, hword, if_neg Bool.false_ne_true, if_pos]
  rwa [Bool.or_eq_true, Bool.and_eq_true, beq_iff_eq]

theorem read_point {text : List Char} (h : text.head?.any Number.isDecimal = true)
    (lexicon : Lexicon) : read lexicon '.' text = Number.readPoint ('.' :: text) := by
  have hword : startsWord '.' = false := by decide +kernel
  rw [read, hword, h]
  rfl

theorem read_operator {c : Char} {text : List Char} (hword : startsWord c = false)
    (hdecimal : Number.isDecimal c = false) (hnext : text.head?.any Number.isDecimal = false)
    (hstring : c ≠ '"') (hcharacter : c ≠ '\'') (lexicon : Lexicon) :
    read lexicon c text = readOperator c text := by
  rw [read, hword, hdecimal, hnext, Bool.and_false, Bool.and_false, beq_false_of_ne hstring,
    beq_false_of_ne hcharacter]
  rfl

/-- Only a minus sign and a point need the next character to be told from the start
of a number. -/
theorem read_operator_of_ne {c : Char} (hword : startsWord c = false)
    (hdecimal : Number.isDecimal c = false) (hminus : c ≠ '-') (hpoint : c ≠ '.')
    (hstring : c ≠ '"') (hcharacter : c ≠ '\'') (lexicon : Lexicon) (text : List Char) :
    read lexicon c text = readOperator c text := by
  rw [read, hword, hdecimal, beq_false_of_ne hminus, beq_false_of_ne hpoint,
    beq_false_of_ne hstring, beq_false_of_ne hcharacter]
  rfl

theorem read_string (lexicon : Lexicon) (text : List Char) :
    read lexicon '"' text = Literal.readString text := by
  have hword : startsWord '"' = false := by decide +kernel
  rw [read, hword]
  rfl

theorem read_character (lexicon : Lexicon) (text : List Char) :
    read lexicon '\'' text = Literal.readCharacter text := by
  have hword : startsWord '\'' = false := by decide +kernel
  rw [read, hword]
  rfl

/-- The reader that a lexeme goes to is the same for every text that starts with
the same character behind `c`. -/
theorem read_cases (lexicon : Lexicon) (c : Char) (text : List Char) :
    (∀ other, other.head? = text.head? → read lexicon c other = readWord lexicon c other) ∨
    ((Number.isDecimal c = true ∨ c = '-' ∧ text.head?.any Number.isDecimal = true) ∧
      ∀ other, other.head? = text.head? → read lexicon c other = Number.read (c :: other)) ∨
    (c = '.' ∧
      ∀ other, other.head? = text.head? → read lexicon c other = Number.readPoint (c :: other)) ∨
    (∀ other, other.head? = text.head? → read lexicon c other = Literal.readString other) ∨
    (∀ other, other.head? = text.head? → read lexicon c other = Literal.readCharacter other) ∨
    (∀ other, other.head? = text.head? → read lexicon c other = readOperator c other) := by
  by_cases hword : startsWord c = true
  · left
    intro other _
    rw [read, if_pos hword]
  right
  by_cases hnumber : (Number.isDecimal c || (c == '-' && text.head?.any Number.isDecimal)) = true
  · left
    constructor
    · rwa [Bool.or_eq_true, Bool.and_eq_true, beq_iff_eq] at hnumber
    · intro other hother
      rw [read, if_neg hword, hother, if_pos hnumber]
  right
  by_cases hpoint : (c == '.' && text.head?.any Number.isDecimal) = true
  · left
    constructor
    · rw [Bool.and_eq_true, beq_iff_eq] at hpoint
      exact hpoint.1
    · intro other hother
      rw [read, if_neg hword, hother, if_neg hnumber, if_pos hpoint]
  right
  by_cases hstring : (c == '"') = true
  · left
    intro other hother
    rw [read, if_neg hword, hother, if_neg hnumber, if_neg hpoint, if_pos hstring]
  right
  by_cases hcharacter : (c == '\'') = true
  · left
    intro other hother
    rw [read, if_neg hword, hother, if_neg hnumber, if_neg hpoint, if_neg hstring,
      if_pos hcharacter]
  · right
    intro other hother
    rw [read, if_neg hword, hother, if_neg hnumber, if_neg hpoint, if_neg hstring,
      if_neg hcharacter]

/-! ## Looking ahead -/

theorem oneAhead_readWord (lexicon : Lexicon) (c : Char) (text : List Char) :
    OneAhead Lexeme.width 1 (readWord lexicon c) text := by
  refine OneAhead.takeWhile continuesWord_newline
    (fun run _ => verbatim (classify lexicon (c :: run)) (c :: run)) ?_
  refine OneAhead.stop ?_ fun _ _ => rfl
  exact Nat.add_comm _ 1

/-- Whatever starts with `c` ends within the text and on its line, and only one
character behind it is looked at. -/
theorem oneAhead_read (lexicon : Lexicon) (c : Char) (text : List Char) :
    OneAhead Lexeme.width 1 (read lexicon c) text := by
  rcases read_cases lexicon c text with h | ⟨hc, h⟩ | ⟨rfl, h⟩ | h | h | h
  · exact OneAhead.of_head (oneAhead_readWord lexicon c text) h
  · exact OneAhead.of_head (Number.oneAhead_read hc) h
  · exact OneAhead.of_head (Number.oneAhead_readPoint text) h
  · exact OneAhead.of_head (Literal.oneAhead_readString text) h
  · exact OneAhead.of_head (Literal.oneAhead_readCharacter text) h
  · exact OneAhead.of_head (oneAhead_readOperator c text) h

theorem length_take_read (lexicon : Lexicon) (c : Char) (rest : List Char) :
    ((c :: rest).take (read lexicon c rest).width).length = (read lexicon c rest).width := by
  have hle := (oneAhead_read lexicon c rest).le_length
  rw [List.length_take, List.length_cons]
  omega

theorem newline_notMem_take {c : Char} (hc : c ≠ '\n') (lexicon : Lexicon) (rest : List Char) :
    '\n' ∉ (c :: rest).take (read lexicon c rest).width := by
  obtain ⟨n, hn⟩ := Nat.exists_eq_succ_of_ne_zero (Nat.ne_of_gt (width_read_pos lexicon c rest))
  have hnewline := (oneAhead_read lexicon c rest).newline
  rw [hn] at hnewline ⊢
  rw [List.take_succ_cons, List.mem_cons, not_or]
  exact ⟨Ne.symm hc, hnewline⟩

/-! ## Standing for itself -/

def StandsForItself (lexeme : Lexeme) (text : List Char) : Prop :=
  lexeme.text = text.take lexeme.width

theorem standsForItself_verbatim {front text : List Char} (verdict : Verdict)
    (h : front <+: text) : StandsForItself (verbatim verdict front) text :=
  List.prefix_iff_eq_take.mp h

namespace Number

theorem sign_append (text : List Char) : (sign text).1 ++ (sign text).2 = text := by
  unfold sign
  split <;> rfl

theorem standsForItself_complete (kind : TokenKind) (problem : Problem) (base : Nat)
    (front text : List Char) :
    StandsForItself (complete kind problem front (digits base text)) (front ++ text) := by
  refine standsForItself_verbatim _ ?_
  rw [List.prefix_append_right_inj]
  exact List.takeWhile_prefix _

theorem standsForItself_withExponent (kind : TokenKind) (mantissa text : List Char) :
    StandsForItself (withExponent kind mantissa text) (mantissa ++ text) := by
  cases text with
  | nil => exact standsForItself_verbatim _ (List.prefix_append mantissa [])
  | cons c text =>
    rw [withExponent]
    by_cases hc : c = 'e' ∨ c = 'E'
    · rw [if_pos hc]
      have h := standsForItself_complete .real .malformedReal 10 (mantissa ++ c :: (sign text).1)
        (sign text).2
      rwa [List.append_assoc, List.cons_append, sign_append] at h
    · rw [if_neg hc]
      exact standsForItself_verbatim _ (List.prefix_append mantissa (c :: text))

theorem standsForItself_afterWhole (minus whole text : List Char) :
    StandsForItself (afterWhole minus whole text) (minus ++ whole ++ text) := by
  by_cases hpoint : text.head? = some '.'
  · obtain ⟨text, rfl⟩ := List.head?_eq_some_iff.mp hpoint
    rw [afterWhole]
    split
    · refine standsForItself_verbatim _ ?_
      rw [List.prefix_append_right_inj]
      exact List.prefix_append ['.'] text
    · have h := standsForItself_withExponent .real (minus ++ whole ++ '.' :: digits 10 text)
        (text.drop (digits 10 text).length)
      rwa [List.append_assoc _ (_ :: _), List.cons_append, digits_append_drop] at h
  · rw [afterWhole_of_ne hpoint]
    exact standsForItself_withExponent .integer (minus ++ whole) text

theorem standsForItself_decimal (minus text : List Char) :
    StandsForItself (decimal minus text) (minus ++ text) := by
  have h := standsForItself_afterWhole minus (digits 10 text) (text.drop (digits 10 text).length)
  rwa [List.append_assoc, digits_append_drop] at h

theorem standsForItself_read (text : List Char) : StandsForItself (read text) text := by
  have hunsigned (minus text : List Char) :
      StandsForItself (unsigned minus text) (minus ++ text) := by
    unfold unsigned
    split
    · rename_i letter rest
      split
      · rename_i base hbase
        have h := standsForItself_complete .integer .malformedInteger base (minus ++ ['0', letter])
          rest
        rwa [List.append_assoc] at h
      · exact standsForItself_decimal minus _
    · exact standsForItself_decimal minus _
  have h := hunsigned (sign text).1 (sign text).2
  rwa [sign_append] at h

end Number

theorem standsForItself_readOperator (c : Char) (text : List Char) :
    StandsForItself (readOperator c text) (c :: text) := by
  rw [readOperator]
  split
  · rename_i o ho
    exact standsForItself_verbatim _ (Operator.spelling_prefix_of_longestAt? ho)
  · exact standsForItself_verbatim _ (List.prefix_append [c] text)

namespace Literal

variable {kind : TokenKind} {code? : Option Nat}

theorem kind_of_readString {text : List Char}
    (h : (readString text).verdict = .token kind code?) : kind = .string := by
  simp only [readString] at h
  split at h
  · exact (Verdict.token.inj h).1.symm
  · cases h

theorem kind_of_close {front text : List Char} {c : Char}
    (h : (close front c text).verdict = .token kind code?) : kind = .character := by
  unfold close at h
  split at h
  · exact (Verdict.token.inj h).1.symm
  · cases h

theorem kind_of_readCharacter {text : List Char}
    (h : (readCharacter text).verdict = .token kind code?) : kind = .character := by
  unfold readCharacter at h
  split at h
  · cases h
  · cases h
  · cases h
  · cases h
  · split at h
    · exact kind_of_close h
    · cases h
  · exact kind_of_close h

end Literal

/-- Every token but a string and a character stands for itself. -/
theorem standsForItself_read {lexicon : Lexicon} {c : Char} {text : List Char} {kind : TokenKind}
    {code? : Option Nat} (h : (read lexicon c text).verdict = .token kind code?)
    (hstring : kind ≠ .string) (hcharacter : kind ≠ .character) :
    StandsForItself (read lexicon c text) (c :: text) := by
  rcases read_cases lexicon c text with hr | ⟨-, hr⟩ | ⟨-, hr⟩ | hr | hr | hr
  all_goals rw [hr text rfl] at h ⊢
  · refine standsForItself_verbatim _ ?_
    rw [List.prefix_cons_inj]
    exact List.takeWhile_prefix _
  · exact Number.standsForItself_read (c :: text)
  · cases h
  · exact absurd (Literal.kind_of_readString h) hstring
  · exact absurd (Literal.kind_of_readCharacter h) hcharacter
  · exact standsForItself_readOperator c text

end Lexeme
end LexicalFrontEnd
