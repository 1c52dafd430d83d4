import LexicalFrontEnd.Proofs.Lexeme.Read
import LexicalFrontEnd.Proofs.Spelling.Number

/-!
The language of numbers, and how far its words are read.

A text is viable if something can be written behind it that makes it an integer
or a real.  The reader of numbers takes a viable text and knows what it is
(`right_read`): an integer, a real, the mark of a base without digits, or a real
that lacks its last digits.  It takes the longest viable text because it looks
one character ahead: a word that starts like the text beyond that character
would be read like the text, and so not in full (`OneAhead.le_width`).
-/

namespace LexicalFrontEnd

open Lexeme

namespace Numeral

def IsInteger (text : List Char) : Prop :=
  ∃ negative radix digits, (Spelling.integer negative radix digits).WellFormed ∧
    (Spelling.integer negative radix digits).text = text

def IsReal (text : List Char) : Prop :=
  ∃ negative whole fraction? exponent?,
    (Spelling.real negative whole fraction? exponent?).WellFormed ∧
      (Spelling.real negative whole fraction? exponent?).text = text

/-- The text can be made an integer or a real by what is written behind it. -/
def Viable (text : List Char) : Prop := ∃ more, IsInteger (text ++ more) ∨ IsReal (text ++ more)

def IsMark (text : List Char) : Prop :=
  ∃ negative radix, radix ≠ Radix.decimal ∧ minus negative ++ radix.mark = text

/-- A real whose last digits are missing, those of the fraction or those of the
exponent. -/
inductive Unfinished : List Char → Prop
  | fraction {negative : Bool} {whole : List Char} :
    Radix.decimal.Numeral whole → Unfinished (minus negative ++ whole ++ ['.'])
  | exponent {negative : Bool} {whole : List Char} {fraction? : Option (List Char)}
      {e : Exponent} :
    Radix.decimal.Numeral whole → (∀ f ∈ fraction?, Radix.decimal.Numeral f) → e.Begun →
    e.digits = [] →
    Unfinished (minus negative ++ whole ++ Spelling.fractionText fraction? ++ e.text)

/-- A fraction without a whole part, and an exponent that may lack its digits. -/
def IsDotted (text : List Char) : Prop :=
  ∃ fraction exponent?, Radix.decimal.Numeral fraction ∧ (∀ e ∈ exponent?, e.Begun) ∧
    '.' :: fraction ++ Spelling.exponentText exponent? = text

inductive Judged : Verdict → List Char → Prop
  | integer {text : List Char} : IsInteger text → Judged (.token .integer none) text
  | real {text : List Char} : IsReal text → Judged (.token .real none) text
  | mark {text : List Char} : IsMark text → Judged (.malformed .malformedInteger) text
  | unfinished {text : List Char} :
    Unfinished text → Judged (.malformed .malformedReal) text

section

variable {negative : Bool} {whole : List Char} {fraction? : Option (List Char)}

theorem isReal_fraction (hwhole : Radix.decimal.Numeral whole) {digits : List Char}
    (hdigits : Radix.decimal.Numeral digits) :
    IsReal (minus negative ++ whole ++ Spelling.fractionText (some digits)) := by
  refine ⟨negative, whole, some digits, none, ⟨hwhole, ?_, ?_, ?_⟩, List.append_nil _⟩
  · intro f hf
    rwa [← Option.some.inj hf]
  · intro e he
    cases he
  · rintro ⟨hnone, -⟩
    cases hnone

theorem isReal_exponent (hwhole : Radix.decimal.Numeral whole)
    (hfraction : ∀ f ∈ fraction?, Radix.decimal.Numeral f) {e : Exponent} (he : e.WellFormed) :
    IsReal (minus negative ++ whole ++ Spelling.fractionText fraction? ++ e.text) := by
  refine ⟨negative, whole, fraction?, some e, ⟨hwhole, hfraction, ?_, ?_⟩, rfl⟩
  · intro e' he'
    rwa [← Option.some.inj he']
  · rintro ⟨-, hnone⟩
    cases hnone

end

theorem numeral_zero (radix : Radix) : radix.Numeral ['0'] := by
  refine ⟨List.cons_ne_nil _ _, fun c hc => ?_⟩
  rw [List.mem_singleton.mp hc]
  cases radix <;> exact List.mem_cons_self

/-- A zero makes a number of everything that is judged. -/
theorem Judged.viable {verdict : Verdict} {text : List Char} (h : Judged verdict text) :
    Viable text := by
  cases h with
  | integer h => exact ⟨[], Or.inl (by rwa [List.append_nil])⟩
  | real h => exact ⟨[], Or.inr (by rwa [List.append_nil])⟩
  | mark h =>
    obtain ⟨negative, radix, -, rfl⟩ := h
    exact ⟨['0'], Or.inl ⟨negative, radix, ['0'], numeral_zero radix, rfl⟩⟩
  | unfinished h =>
    refine ⟨['0'], Or.inr ?_⟩
    cases h with
    | fraction hwhole =>
      rw [List.append_assoc]
      exact isReal_fraction hwhole (numeral_zero .decimal)
    | @exponent negative whole fraction? e hwhole hfraction he hdigits =>
      have htext : e.text ++ ['0'] = Exponent.text { e with digits := ['0'] } := by
        rw [Exponent.text, Exponent.text, hdigits, List.append_nil]
      rw [List.append_assoc, htext]
      exact isReal_exponent hwhole hfraction ⟨he.1, numeral_zero .decimal⟩

end Numeral

namespace Lexeme

namespace Number

open Numeral

/-! ## Digits -/

theorem mem_digits_of_isDigit {radix : Radix} {c : Char} (h : isDigit radix.base c = true) :
    c ∈ radix.digits := by
  have hsmall : c.toNat < 128 := by
    rw [isDigit] at h
    split at h
    · rename_i hc
      simp only [isDecimal, Bool.and_eq_true, decide_eq_true_eq] at hc
      have hle : c.toNat ≤ 57 := hc.2
      omega
    · simp only [Bool.and_eq_true, Bool.or_eq_true, decide_eq_true_eq] at h
      rcases h.2 with hc | hc
      · have hle : c.toNat ≤ 102 := hc.2
        omega
      · have hle : c.toNat ≤ 70 := hc.2
        omega
  have hall : ∀ n < 128, isDigit radix.base (Char.ofNat n) = true →
      Char.ofNat n ∈ radix.digits := by
    cases radix <;> decide +kernel
  rw [← Char.ofNat_toNat c] at h ⊢
  exact hall c.toNat hsmall h

theorem isDecimal_of_notMem {c : Char} (h : c ∉ Radix.decimal.digits) : isDecimal c = false := by
  apply Bool.eq_false_iff.mpr
  intro hc
  exact h (mem_digits_of_isDigit (isDigit_ten hc))

theorem mem_of_mem_digits (radix : Radix) (text : List Char) :
    ∀ c ∈ digits radix.base text, c ∈ radix.digits :=
  fun c hc => mem_digits_of_isDigit (List.all_eq_true.mp List.all_takeWhile c hc)

theorem numeral_digits {radix : Radix} {text : List Char} (h : digits radix.base text ≠ []) :
    radix.Numeral (digits radix.base text) :=
  ⟨h, mem_of_mem_digits radix text⟩

/-! ## Words that are read alone -/

theorem read_of_isInteger {text : List Char} (h : IsInteger text) :
    read text = verbatim (.token .integer none) text := by
  obtain ⟨negative, radix, ds, hds, rfl⟩ := h
  have hread := @read_integer negative ds [] radix hds .nil
  rwa [List.append_nil] at hread

theorem read_of_isReal {text : List Char} (h : IsReal text) :
    read text = verbatim (.token .real none) text := by
  obtain ⟨negative, whole, fraction?, exponent?, hreal, rfl⟩ := h
  have hread := read_real hreal .nil
  rwa [List.append_nil] at hread

theorem read_of_isMark {text : List Char} (h : IsMark text) :
    read text = verbatim (.malformed .malformedInteger) text := by
  obtain ⟨negative, radix, hradix, rfl⟩ := h
  cases radix with
  | decimal => exact absurd rfl hradix
  | binary => cases negative <;> rfl
  | octal => cases negative <;> rfl
  | hexadecimal => cases negative <;> rfl

theorem read_of_unfinished {text : List Char} (h : Unfinished text) :
    read text = verbatim (.malformed .malformedReal) text := by
  cases h with
  | @fraction negative whole hwhole =>
    have hends : EndsWhole ['.'] :=
      endsWhole_fractionText (some []) (endsWhole_of_delimits .nil)
    rw [List.append_assoc, read_eq, sign_minus negative (head?_append_ne_minus hwhole _)]
    simp only
    rw [unsigned_whole _ hwhole hends, ← List.append_assoc]
    rfl
  | @exponent negative whole fraction? e hwhole hfraction he hdigits =>
    have hletter : ∀ e' ∈ some e, e'.letter ∈ ['e', 'E'] := by
      intro e' he'
      rw [← Option.some.inj he']
      exact he.1
    have hends : EndsWhole (e.text ++ []) := endsWhole_exponentText hletter .nil
    have hpoint : (e.text ++ []).head? ≠ some '.' :=
      head?_exponentText_ne_point hletter .nil
    rw [List.append_nil] at hends hpoint
    have hexponent := withExponent_begun (if fraction? = none then .integer else .real)
      (minus negative ++ whole ++ Spelling.fractionText fraction?) he .nil
    rw [List.append_nil, hdigits] at hexponent
    have htext : e.text = e.letter :: minus e.negative := by
      rw [Exponent.text, hdigits, List.append_nil]
    rw [List.append_assoc, List.append_assoc, read_eq,
      sign_minus negative (head?_append_ne_minus hwhole _)]
    simp only
    rw [unsigned_whole _ hwhole (endsWhole_fractionText fraction? hends),
      afterWhole_fractionText _ _ hfraction hends hpoint, hexponent, htext, ← List.append_assoc,
      ← List.append_assoc]
    exact congrArg (verbatim _) (List.append_nil _)

/-- What is judged is read like that where it stands alone, so no text is judged in
two ways. -/
theorem read_of_judged {verdict : Verdict} {text : List Char} (h : Judged verdict text) :
    read text = verbatim verdict text := by
  cases h with
  | integer h => exact read_of_isInteger h
  | real h => exact read_of_isReal h
  | mark h => exact read_of_isMark h
  | unfinished h => exact read_of_unfinished h

theorem verdict_unique {verdict verdict' : Verdict} {text : List Char} (h : Judged verdict text)
    (h' : Judged verdict' text) : verdict = verdict' := by
  have hread := read_of_judged h
  rw [read_of_judged h'] at hread
  exact (congrArg Lexeme.verdict hread).symm

/-! ## What is read of a text -/

theorem exists_sign (text : List Char) : ∃ negative, (sign text).1 = minus negative := by
  unfold sign
  split
  · exact ⟨true, rfl⟩
  · exact ⟨false, rfl⟩

/-- The exponent of a number, if there is any. -/
theorem withExponent_cases (kind : TokenKind) (mantissa text : List Char) :
    withExponent kind mantissa text = verbatim (.token kind none) mantissa ∨
    ∃ e : Exponent, e.Begun ∧ withExponent kind mantissa text =
      complete .real .malformedReal (mantissa ++ e.letter :: minus e.negative) e.digits := by
  cases text with
  | nil => exact Or.inl rfl
  | cons c text =>
    by_cases hc : c = 'e' ∨ c = 'E'
    · obtain ⟨negative, hsign⟩ := exists_sign text
      refine Or.inr ⟨⟨c, negative, digits 10 (sign text).2⟩, ⟨?_, ?_⟩, ?_⟩
      · rwa [List.mem_cons, List.mem_singleton]
      · exact mem_of_mem_digits .decimal _
      · rw [withExponent, if_pos hc, ← hsign]
    · exact Or.inl (if_neg hc)

def Right (lexeme : Lexeme) : Prop := Judged lexeme.verdict lexeme.text

theorem right_mark {radix : Radix} (hradix : radix ≠ .decimal) (negative : Bool)
    (text : List Char) :
    Right (complete .integer .malformedInteger (minus negative ++ radix.mark)
      (digits radix.base text)) := by
  by_cases hdigits : digits radix.base text = []
  · rw [hdigits]
    refine .mark ⟨negative, radix, hradix, ?_⟩
    exact (List.append_nil _).symm
  · rw [complete_of_ne_nil _ _ _ hdigits]
    exact .integer ⟨negative, radix, _, numeral_digits hdigits, rfl⟩

section

variable {negative : Bool} {whole : List Char} {fraction? : Option (List Char)}

theorem right_withExponent {kind : TokenKind} (hwhole : Radix.decimal.Numeral whole)
    (hfraction : ∀ f ∈ fraction?, Radix.decimal.Numeral f)
    (hkind : Judged (.token kind none)
      (minus negative ++ whole ++ Spelling.fractionText fraction?)) (text : List Char) :
    Right (withExponent kind (minus negative ++ whole ++ Spelling.fractionText fraction?)
      text) := by
  rcases withExponent_cases kind _ text with h | ⟨e, he, h⟩
  · rw [h]
    exact hkind
  · have htext : minus negative ++ whole ++ Spelling.fractionText fraction? ++
        e.letter :: minus e.negative ++ e.digits =
        minus negative ++ whole ++ Spelling.fractionText fraction? ++ e.text :=
      List.append_assoc _ _ _
    rw [h]
    by_cases hdigits : e.digits = []
    · have hunfinished := @Unfinished.exponent negative _ _ _ hwhole hfraction he hdigits
      rw [← htext, hdigits] at hunfinished
      rw [hdigits]
      exact .unfinished hunfinished
    · rw [complete_of_ne_nil _ _ _ hdigits, htext]
      exact .real (isReal_exponent hwhole hfraction ⟨he.1, hdigits, he.2⟩)

theorem right_afterWhole (hwhole : Radix.decimal.Numeral whole) (text : List Char) :
    Right (afterWhole (minus negative) whole text) := by
  by_cases hpoint : text.head? = some '.'
  · obtain ⟨text, rfl⟩ := List.head?_eq_some_iff.mp hpoint
    rw [afterWhole]
    by_cases hdigits : digits 10 text = []
    · rw [if_pos (List.isEmpty_iff.mpr hdigits)]
      exact .unfinished (.fraction hwhole)
    · rw [if_neg (mt List.isEmpty_iff.mp hdigits)]
      have hfraction : ∀ f ∈ some (digits 10 text), Radix.decimal.Numeral f := by
        intro f hf
        rw [← Option.some.inj hf]
        exact numeral_digits hdigits
      exact right_withExponent hwhole hfraction
        (.real (isReal_fraction hwhole (numeral_digits hdigits))) _
  · have hinteger : IsInteger (minus negative ++ whole) :=
      ⟨negative, .decimal, whole, hwhole, by rw [Spelling.text, Radix.mark, List.append_nil]⟩
    have hnone : minus negative ++ whole ++ Spelling.fractionText none = minus negative ++ whole :=
      List.append_nil _
    rw [afterWhole_of_ne hpoint, ← hnone]
    refine right_withExponent hwhole (fun f hf => by cases hf) (.integer ?_) text
    rwa [hnone]

end

theorem right_decimal {c : Char} (hc : isDecimal c = true) (negative : Bool) (rest : List Char) :
    Right (decimal (minus negative) (c :: rest)) := by
  rw [decimal_eq]
  exact right_afterWhole (numeral_digits (digits_ten_ne_nil hc rest)) _

theorem exists_radix {letter : Char} {base : Nat} (h : base? letter = some base) :
    ∃ radix : Radix, radix ≠ .decimal ∧ radix.mark = ['0', letter] ∧ radix.base = base := by
  unfold base? at h
  split at h
  · exact ⟨.binary, by decide, rfl, Option.some.inj h⟩
  · exact ⟨.octal, by decide, rfl, Option.some.inj h⟩
  · exact ⟨.hexadecimal, by decide, rfl, Option.some.inj h⟩
  · cases h

theorem right_unsigned {c : Char} (hc : isDecimal c = true) (negative : Bool) (rest : List Char) :
    Right (unsigned (minus negative) (c :: rest)) := by
  unfold unsigned
  split
  · rename_i letter rest heq
    split
    · rename_i base hbase
      obtain ⟨radix, hradix, hmark, rfl⟩ := exists_radix hbase
      rw [← hmark]
      exact right_mark hradix negative rest
    · exact right_decimal hc negative _
  · exact right_decimal hc negative _

/-- Every number is read as what it is. -/
theorem right_read {c : Char} {text : List Char}
    (h : isDecimal c = true ∨ c = '-' ∧ text.head?.any isDecimal = true) :
    Right (read (c :: text)) := by
  rcases h with hc | ⟨rfl, htext⟩
  · have hsign : sign (c :: text) = ([], c :: text) :=
      sign_minus false fun hhead => absurd (Option.some.inj hhead ▸ hc) (by decide)
    rw [read_eq, hsign]
    exact right_unsigned hc false text
  · obtain ⟨d, hhead, hd⟩ := (Option.any_eq_true _ _).mp htext
    obtain ⟨text, rfl⟩ := List.head?_eq_some_iff.mp hhead
    exact right_unsigned hd true text

example : read ['0', 'b', '2'] = verbatim (.malformed .malformedInteger) ['0', 'b'] := rfl

/-! ## A fraction without a whole part -/

theorem readPoint_eq (text : List Char) :
    readPoint ('.' :: text) =
      { withExponent .real ('.' :: digits 10 text) (text.drop (digits 10 text).length) with
        verdict := .malformed .malformedReal } := rfl

theorem standsForItself_readPoint (text : List Char) :
    StandsForItself (readPoint ('.' :: text)) ('.' :: text) := by
  have h := standsForItself_withExponent .real ('.' :: digits 10 text)
    (text.drop (digits 10 text).length)
  rw [List.cons_append, digits_append_drop] at h
  exact h

theorem width_readPoint_of_isDotted {text : List Char} (h : IsDotted text) :
    (readPoint text).width = text.length := by
  obtain ⟨fraction, exponent?, hfraction, hexponent, rfl⟩ := h
  have hletter (e : Exponent) (he : e ∈ exponent?) := (hexponent e he).1
  have hends := endsWhole_exponentText hletter .nil
  rw [List.append_nil] at hends
  have hdigits : digits 10 (fraction ++ Spelling.exponentText exponent?) = fraction :=
    hfraction.digits_append fun c hc => (hends c hc).1
  rw [List.cons_append, readPoint_eq, hdigits, List.drop_left]
  cases exponent? with
  | none => exact congrArg (· + 1) (congrArg List.length (List.append_nil fraction)).symm
  | some e =>
    have hread := withExponent_begun .real ('.' :: fraction) (hexponent e rfl) .nil
    rw [List.append_nil] at hread
    show (withExponent .real ('.' :: fraction) e.text).width = _
    rw [hread, ← List.cons_append]
    exact congrArg List.length (List.append_assoc _ _ _)

theorem isDotted_readPoint {text : List Char} (h : text.head?.any isDecimal = true) :
    IsDotted (readPoint ('.' :: text)).text := by
  obtain ⟨d, hhead, hd⟩ := (Option.any_eq_true _ _).mp h
  obtain ⟨text, rfl⟩ := List.head?_eq_some_iff.mp hhead
  have hfraction : Radix.decimal.Numeral (digits 10 (d :: text)) :=
    numeral_digits (digits_ten_ne_nil hd text)
  rw [readPoint_eq]
  rcases withExponent_cases .real ('.' :: digits 10 (d :: text))
    ((d :: text).drop (digits 10 (d :: text)).length) with hread | ⟨e, he, hread⟩
  · rw [hread]
    refine ⟨_, none, hfraction, ?_, List.append_nil _⟩
    intro e he
    cases he
  · rw [hread]
    refine ⟨_, some e, hfraction, ?_, (List.append_assoc _ _ _).symm⟩
    intro e' he'
    rwa [← Option.some.inj he']

/-! ## The longest texts -/

theorem longest_viable {c : Char} {rest : List Char}
    (h : isDecimal c = true ∨ c = '-' ∧ rest.head?.any isDecimal = true) :
    LongestFront Viable (c :: rest) ((c :: rest).take (read (c :: rest)).width) := by
  refine ⟨List.take_prefix _ _, ?_, ?_⟩
  · rw [← standsForItself_read]
    exact (right_read h).viable
  · rintro other hother ⟨more, hword⟩
    have hle := (oneAhead_read h).le_length
    rw [List.length_take, List.length_cons, Nat.min_eq_left (by omega)]
    refine OneAhead.le_width (oneAhead_read h) hother more ?_
    rcases hword with hword | hword
    · rw [read_of_isInteger hword]
      rfl
    · rw [read_of_isReal hword]
      rfl

theorem longest_dotted {rest : List Char} (h : rest.head?.any isDecimal = true) :
    LongestFront IsDotted ('.' :: rest) (('.' :: rest).take (readPoint ('.' :: rest)).width) := by
  refine ⟨List.take_prefix _ _, ?_, ?_⟩
  · rw [← standsForItself_readPoint]
    exact isDotted_readPoint h
  · intro other hother hdotted
    have hle := (oneAhead_readPoint rest).le_length
    rw [List.length_take, List.length_cons, Nat.min_eq_left (by omega)]
    refine OneAhead.le_width (oneAhead_readPoint rest) hother [] ?_
    rw [List.append_nil]
    exact width_readPoint_of_isDotted hdotted

end Number
end Lexeme
end LexicalFrontEnd
