import LexicalFrontEnd.Lexeme.Read
import LexicalFrontEnd.Unicode.Blank

/-!
Classes of characters that have nothing in common.

White space ends words and numbers, because no character of a word or a number
is white space (`isAlphanumeric_of_isBlank`), and a digit starts no word.
-/

namespace LexicalFrontEnd
namespace Unicode
namespace CodePoints

theorem exists_range {table : CodePoints} {n : Nat} (h : table.containsCode n = true) :
    ∃ r ∈ table, r.1 ≤ n ∧ n ≤ r.2 := by
  induction table with
  | nil => exact absurd h Bool.false_ne_true
  | cons r rest ih =>
    obtain ⟨first, last⟩ := r
    rw [containsCode] at h
    by_cases hfirst : n < first
    · rw [if_pos hfirst] at h
      exact absurd h Bool.false_ne_true
    · by_cases hlast : n ≤ last
      · exact ⟨(first, last), List.mem_cons_self, Nat.le_of_not_lt hfirst, hlast⟩
      · rw [if_neg hfirst, if_neg hlast] at h
        obtain ⟨r, hr, hn⟩ := ih h
        exact ⟨r, List.mem_cons_of_mem _ hr, hn⟩

/-- Tables are disjoint if nothing in the ranges of one is in the other. -/
theorem contains_eq_false {table other : CodePoints}
    (hdisjoint : ∀ r ∈ table, ∀ k < r.2 + 1 - r.1, other.containsCode (r.1 + k) = false)
    {c : Char} (h : table.contains c = true) : other.contains c = false := by
  obtain ⟨r, hr, hfirst, hlast⟩ := exists_range h
  have h := hdisjoint r hr (c.toNat - r.1) (by omega)
  rwa [Nat.add_sub_cancel' hfirst] at h

end CodePoints

/-- White space is neither a letter nor a numeral. -/
theorem isAlphanumeric_of_isBlank {c : Char} (h : isBlank c = true) : isAlphanumeric c = false := by
  have halphabetic : isAlphabetic c = false :=
    CodePoints.contains_eq_false (by decide +kernel) h
  have hnumeric : isNumeric c = false := CodePoints.contains_eq_false (by decide +kernel) h
  rw [isAlphanumeric, halphabetic, hnumeric]
  rfl

theorem isBlank_of_isAlphanumeric {c : Char} (h : isAlphanumeric c = true) : isBlank c = false := by
  rw [← Bool.not_eq_true]
  intro hblank
  rw [isAlphanumeric_of_isBlank hblank] at h
  exact absurd h Bool.false_ne_true

theorem ne_of_isBlank {c d : Char} (h : isBlank c = true) (hd : isBlank d = false) : c ≠ d := by
  rintro rfl
  rw [h] at hd
  exact absurd hd.symm Bool.false_ne_true

end Unicode

namespace Lexeme

open Unicode

namespace Number

theorem isDecimal_iff {c : Char} : isDecimal c = true ↔ 48 ≤ c.toNat ∧ c.toNat ≤ 57 := by
  rw [isDecimal, Bool.and_eq_true, decide_eq_true_eq, decide_eq_true_eq]
  exact Iff.rfl

theorem isNumeric_of_isDecimal {c : Char} (h : isDecimal c = true) : isNumeric c = true := by
  rw [isDecimal_iff] at h
  show CodePoints.containsCode ((0x0030, 0x0039) :: _) c.toNat = true
  rw [CodePoints.containsCode, if_neg (by omega), if_pos h.2]

theorem isAlphabetic_of_isDecimal {c : Char} (h : isDecimal c = true) : isAlphabetic c = false := by
  rw [isDecimal_iff] at h
  show CodePoints.containsCode ((0x0041, 0x005A) :: _) c.toNat = false
  rw [CodePoints.containsCode, if_pos (by omega)]

theorem isAlphanumeric_of_isDigit {base : Nat} {c : Char} (h : isDigit base c = true) :
    isAlphanumeric c = true := by
  rw [isAlphanumeric, Bool.or_eq_true]
  by_cases hdecimal : isDecimal c = true
  · exact Or.inr (isNumeric_of_isDecimal hdecimal)
  · rw [isDigit, if_neg hdecimal] at h
    simp only [Bool.and_eq_true, Bool.or_eq_true, decide_eq_true_eq] at h
    refine Or.inl ?_
    show CodePoints.containsCode ((0x0041, 0x005A) :: (0x0061, 0x007A) :: _) c.toNat = true
    rw [CodePoints.containsCode, CodePoints.containsCode]
    rcases h.2 with ⟨hfirst, hlast⟩ | ⟨hfirst, hlast⟩
    · have hfirst : 97 ≤ c.toNat := hfirst
      have hlast : c.toNat ≤ 102 := hlast
      rw [if_neg (by omega), if_neg (by omega), if_neg (by omega), if_pos (by omega)]
    · have hfirst : 65 ≤ c.toNat := hfirst
      have hlast : c.toNat ≤ 70 := hlast
      rw [if_neg (by omega), if_pos (by omega)]

theorem isDigit_of_isBlank {c : Char} (h : isBlank c = true) (base : Nat) :
    isDigit base c = false := by
  rw [← Bool.not_eq_true]
  intro hdigit
  rw [isBlank_of_isAlphanumeric (isAlphanumeric_of_isDigit hdigit)] at h
  exact absurd h Bool.false_ne_true

theorem isBlank_of_isDecimal {c : Char} (h : isDecimal c = true) : isBlank c = false :=
  isBlank_of_isAlphanumeric (by rw [isAlphanumeric, isNumeric_of_isDecimal h, Bool.or_true])

theorem startsWord_of_isDecimal {c : Char} (h : isDecimal c = true) : startsWord c = false := by
  have hne : (c == '_') = false := by
    rw [beq_eq_false_iff_ne]
    rintro rfl
    exact absurd h (by decide)
  rw [startsWord, isAlphabetic_of_isDecimal h, hne]
  rfl

end Number

theorem continuesWord_of_isBlank {c : Char} (h : isBlank c = true) : continuesWord c = false := by
  have hne : (c == '_') = false := beq_eq_false_iff_ne.mpr (ne_of_isBlank h (by decide))
  rw [continuesWord, isAlphanumeric_of_isBlank h, hne]
  rfl

theorem isBlank_of_startsWord {c : Char} (h : startsWord c = true) : isBlank c = false := by
  rw [startsWord, Bool.or_eq_true, beq_iff_eq] at h
  rcases h with h | rfl
  · exact isBlank_of_isAlphanumeric (by rw [isAlphanumeric, h, Bool.true_or])
  · decide

end Lexeme
end LexicalFrontEnd
