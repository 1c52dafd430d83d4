import LexicalFrontEnd.Proofs.Lexeme.Read

/-!
What a lexeme can be.

A lexeme that is not malformed is a token of a kind of its own, never an invalid
one, and it has a code if its kind is known by codes.  What is wrong with a
malformed one is never that the source could not be read (`regular_read`).
-/

namespace LexicalFrontEnd

/-- Malformed, though readable, or a token that is not invalid and has a code just
where its kind has one. -/
def Verdict.Regular : Verdict → Prop
  | .token kind code? => kind ≠ .invalid ∧ code?.isSome = kind.hasCode
  | .malformed problem => problem ≠ .unreadableSource

namespace Lexeme

theorem regular_classify (lexicon : Lexicon) (word : List Char) :
    (classify lexicon word).Regular := by
  simp only [classify]
  split
  · exact ⟨by decide, rfl⟩
  · split
    · exact ⟨by decide, rfl⟩
    · exact ⟨by decide, rfl⟩

theorem regular_readOperator (c : Char) (text : List Char) :
    (readOperator c text).verdict.Regular := by
  rw [readOperator]
  split
  · exact ⟨by decide, rfl⟩
  · exact Problem.noConfusion

namespace Number

theorem regular_complete {kind : TokenKind} {problem : Problem}
    (h : (Verdict.token kind none).Regular) (hproblem : problem ≠ .unreadableSource)
    (front digits : List Char) : (complete kind problem front digits).verdict.Regular := by
  show (if digits.isEmpty then _ else _ : Verdict).Regular
  split
  · exact hproblem
  · exact h

theorem regular_withExponent {kind : TokenKind} (h : (Verdict.token kind none).Regular)
    (mantissa text : List Char) : (withExponent kind mantissa text).verdict.Regular := by
  cases text with
  | nil => exact h
  | cons c text =>
    rw [withExponent]
    split
    · exact regular_complete ⟨by decide, rfl⟩ (by decide) _ _
    · exact h

theorem regular_decimal (minus text : List Char) : (decimal minus text).verdict.Regular := by
  rw [decimal_eq]
  unfold afterWhole
  split
  · split
    · exact Problem.noConfusion
    · exact regular_withExponent ⟨by decide, rfl⟩ _ _
  · exact regular_withExponent ⟨by decide, rfl⟩ _ _

theorem regular_read (text : List Char) : (read text).verdict.Regular := by
  rw [read_eq]
  unfold unsigned
  split
  · split
    · exact regular_complete ⟨by decide, rfl⟩ (by decide) _ _
    · exact regular_decimal _ _
  · exact regular_decimal _ _

end Number

namespace Literal

theorem ne_unreadable_of_body {taken text : List Char} {width : Nat} {problem : Problem}
    (h : (body taken width text).problem? = some problem) : problem ≠ .unreadableSource := by
  fun_induction body taken width text with
  | case1 => cases h; decide
  | case2 => cases h
  | case3 => cases h; decide
  | case4 => cases h; decide
  | case5 _ _ _ _ _ _ ih => exact ih h
  | case6 => cases h; decide
  | case7 _ _ _ _ _ _ _ _ ih => exact ih h

theorem regular_readString (text : List Char) : (readString text).verdict.Regular := by
  simp only [readString]
  split
  · exact ⟨by decide, rfl⟩
  · rename_i hproblem
    exact ne_unreadable_of_body hproblem

theorem Ending.problem_ne_unreadable (ending : Ending) : ending.problem ≠ .unreadableSource := by
  cases ending <;> decide

theorem regular_close (front : List Char) (c : Char) (text : List Char) :
    (close front c text).verdict.Regular := by
  unfold close
  split
  · exact ⟨by decide, rfl⟩
  · exact (passOver '\'' [] text).2.problem_ne_unreadable

theorem regular_readCharacter (text : List Char) : (readCharacter text).verdict.Regular := by
  unfold readCharacter
  split
  · exact Problem.noConfusion
  · exact Problem.noConfusion
  · exact Problem.noConfusion
  · exact Problem.noConfusion
  · split
    · exact regular_close _ _ _
    · exact Problem.noConfusion
  · exact regular_close _ _ _

end Literal

theorem regular_read (lexicon : Lexicon) (c : Char) (text : List Char) :
    (read lexicon c text).verdict.Regular := by
  rcases read_cases lexicon c text with h | ⟨-, h⟩ | ⟨-, h⟩ | h | h | h
  all_goals rw [h text rfl]
  · exact regular_classify lexicon _
  · exact Number.regular_read _
  · exact Problem.noConfusion
  · exact Literal.regular_readString _
  · exact Literal.regular_readCharacter _
  · exact regular_readOperator c text

end Lexeme
end LexicalFrontEnd
