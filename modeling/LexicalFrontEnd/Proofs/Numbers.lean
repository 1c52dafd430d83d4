import LexicalFrontEnd.Proofs.Placement
import LexicalFrontEnd.Proofs.Spelling.Viable

/-!
Numbers are scanned by longest viable prefix.

Where a token starts with a digit, or with a minus sign and a digit, it takes the
longest text there that can still be made a number, and it is an integer or a
real just if that text is one.  A text that is none has lost the digits behind
the mark of a base, or else those of a fraction or an exponent.  A point and a
digit start no number, but the scanner takes what would be its fraction and its
exponent.
-/

namespace LexicalFrontEnd

open Lexeme Numeral

def StartsNumber (text : List Char) : Prop :=
  ∃ negative digit rest, digit ∈ Radix.decimal.digits ∧ text = minus negative ++ digit :: rest

def StartsFraction (text : List Char) : Prop :=
  ∃ digit rest, digit ∈ Radix.decimal.digits ∧ text = '.' :: digit :: rest

structure Span.IsNumber (x : Span) (span behind : List Char) : Prop where
  longest : LongestFront Viable (span ++ behind) span
  integer : x.Denotes .integer span ↔ IsInteger span
  real : x.Denotes .real span ↔ IsReal span
  mark : x.Faulty .malformedInteger ↔ IsMark span
  unfinished : x.Faulty .malformedReal ↔ ¬IsInteger span ∧ ¬IsReal span ∧ ¬IsMark span

namespace Numeral

variable {text : List Char}

theorem isDecimal_of_startsNumber {c : Char} {rest : List Char} (h : StartsNumber (c :: rest)) :
    Number.isDecimal c = true ∨ c = '-' ∧ rest.head?.any Number.isDecimal = true := by
  obtain ⟨negative, digit, tail, hdigit, htext⟩ := h
  cases negative with
  | false =>
    obtain ⟨rfl, rfl⟩ := List.cons.inj htext
    exact Or.inl (Radix.isDecimal_of_mem hdigit)
  | true =>
    obtain ⟨rfl, rfl⟩ := List.cons.inj htext
    exact Or.inr ⟨rfl, Radix.isDecimal_of_mem hdigit⟩

/-- Which of the four a text is goes by its verdict. -/
theorem judged_iff {verdict verdict' : Verdict} (h : Judged verdict text) :
    Judged verdict' text ↔ verdict = verdict' :=
  ⟨Number.verdict_unique h, fun heq => heq ▸ h⟩

theorem judged_integer : Judged (.token .integer none) text ↔ IsInteger text :=
  ⟨fun h => by cases h; assumption, .integer⟩

theorem judged_real : Judged (.token .real none) text ↔ IsReal text :=
  ⟨fun h => by cases h; assumption, .real⟩

theorem judged_mark : Judged (.malformed .malformedInteger) text ↔ IsMark text :=
  ⟨fun h => by cases h; assumption, .mark⟩

end Numeral

theorem Span.isNumber_of_judged {x : Span} {span behind : List Char}
    (hlongest : LongestFront Viable (span ++ behind) span) (htext : x.lexeme.text = span)
    (h : Judged x.lexeme.verdict span) : x.IsNumber span behind := by
  refine ⟨hlongest, ?_, ?_, ?_, ?_⟩
  · rw [denotes_iff, and_iff_left htext, ← judged_iff h, judged_integer]
  · rw [denotes_iff, and_iff_left htext, ← judged_iff h, judged_real]
  · rw [faulty_iff, ← judged_iff h, judged_mark]
  · rw [faulty_iff, ← judged_integer, ← judged_real, ← judged_mark, judged_iff h, judged_iff h,
      judged_iff h]
    constructor
    · intro hverdict
      rw [hverdict]
      exact ⟨Verdict.noConfusion, Verdict.noConfusion, by decide⟩
    · rintro ⟨hinteger, hreal, hmark⟩
      generalize x.lexeme.verdict = verdict at h hinteger hreal hmark
      cases h with
      | integer => exact absurd rfl hinteger
      | real => exact absurd rfl hreal
      | mark => exact absurd rfl hmark
      | unfinished => rfl

/-- Every token that starts like a number takes the longest text that can be made
one, and comes to what that text is; one that starts with a point and a digit
takes the longest text of a fraction and an exponent, and is malformed. -/
theorem tokenize_numbers (text : String) (capacity : Nat) :
    let lexemes := spans .standard text.toList
    (tokenize text capacity).1 = lexemes.map (·.token) ∧
    (tokenize text capacity).2.toList = lexemes.filterMap (·.complaint?) ∧
    ∀ x ∈ lexemes, ∃ before span behind, x.Takes text.toList before span behind ∧
      (StartsNumber (span ++ behind) → x.IsNumber span behind) ∧
      (StartsFraction (span ++ behind) →
        LongestFront IsDotted (span ++ behind) span ∧ x.Faulty .malformedReal) := by
  intro lexemes
  obtain ⟨htokens, hlog⟩ := tokenize_eq_spans text capacity
  refine ⟨htokens, hlog, fun x hx => ?_⟩
  obtain ⟨before, c, rest, -, hlexeme, htakes⟩ := exists_takes hx
  refine ⟨before, _, _, htakes, ?_, ?_⟩
  · rw [List.take_append_drop]
    intro hstart
    have hnumber := isDecimal_of_startsNumber hstart
    rw [read_number hnumber] at hlexeme ⊢
    have htext : x.lexeme.text = (c :: rest).take (Number.read (c :: rest)).width := by
      rw [hlexeme]
      exact Number.standsForItself_read (c :: rest)
    refine Span.isNumber_of_judged ?_ htext ?_
    · rw [List.take_append_drop]
      exact Number.longest_viable hnumber
    · rw [← htext, hlexeme]
      exact Number.right_read hnumber
  · rw [List.take_append_drop]
    rintro ⟨digit, tail, hdigit, htext⟩
    obtain ⟨rfl, rfl⟩ := List.cons.inj htext
    have hnext : (digit :: tail).head?.any Number.isDecimal = true := Radix.isDecimal_of_mem hdigit
    rw [read_point hnext] at hlexeme ⊢
    refine ⟨Number.longest_dotted hnext, Span.faulty_iff.mpr ?_⟩
    rw [hlexeme]
    rfl

end LexicalFrontEnd
