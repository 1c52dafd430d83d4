import LexicalFrontEnd.Command.Line
import Mathlib.Data.List.TakeWhile

/-!
How a code may be written.

A text names a problem just if its upper case, without the white space at its two
ends, is the code of the problem.  Hence neither the case of the letters `A` to `Z`
nor white space around a text has a say in what it names, each problem is named by
its own code however that is written, and where a text names nothing it is kept as it
was given (`parse_variants`).
-/

namespace LexicalFrontEnd

/-! ## The case of a character -/

namespace Unicode

/-- A character that has a lower case in ASCII is one of the letters `A` to `Z`. -/
theorem toLower_cases (c : Char) :
    c.toLower = c ∨ ∃ n < 26, c = Char.ofNat (65 + n) := by
  by_cases hupper : 65 ≤ c.toNat ∧ c.toNat ≤ 90
  · refine Or.inr ⟨c.toNat - 65, by omega, ?_⟩
    rw [Nat.add_sub_cancel' hupper.1, Char.ofNat_toNat]
  · exact Or.inl (dif_neg hupper)

/-- What is the same for the letters `A` to `Z` and for their lower case is the same for
every character and its lower case. -/
theorem eq_toLower {β : Type} (f : Char → β)
    (hletters : ∀ n < 26, f (Char.ofNat (65 + n)).toLower = f (Char.ofNat (65 + n))) (c : Char) :
    f c.toLower = f c := by
  rcases toLower_cases c with hsame | ⟨n, hn, rfl⟩
  · rw [hsame]
  · exact hletters n hn

theorem uppercase_toLower (c : Char) : uppercase c.toLower = uppercase c :=
  eq_toLower uppercase (by decide +kernel) c

theorem isBlank_toLower (c : Char) : isBlank c.toLower = isBlank c :=
  eq_toLower isBlank (by decide +kernel) c

theorem upcase_map_toLower (text : List Char) : upcase (text.map Char.toLower) = upcase text := by
  have hsame : (fun c => uppercase c.toLower) = uppercase := funext uppercase_toLower
  rw [upcase, upcase, List.flatMap_map, hsame]

theorem upcase_eq_self {text : List Char} (h : ∀ c ∈ text, uppercase c = [c]) :
    upcase text = text := by
  induction text with
  | nil => rfl
  | cons c text ih =>
    have hrest : upcase text = text := ih fun d hd => h d (List.mem_cons_of_mem c hd)
    rw [upcase] at hrest
    rw [upcase, List.flatMap_cons, h c List.mem_cons_self, hrest]
    rfl

end Unicode

namespace Problem

open Unicode

variable {p : Problem} {text middle before after : List Char}

/-! ## The white space around a text -/

/-- `middle` is `text` without the white space at its two ends. -/
structure IsTrimmed (text middle : List Char) : Prop where
  inside : ∃ before after, text = before ++ middle ++ after ∧ ∀ c ∈ before ++ after, isBlank c
  starts : ∀ c, middle.head? = some c → isBlank c = false
  ends : ∀ c, middle.getLast? = some c → isBlank c = false

theorem isBlank_of_head?_dropWhile {c : Char} (h : (text.dropWhile isBlank).head? = some c) :
    isBlank c = false := by
  have hnot := List.head?_dropWhile_not isBlank text
  rwa [h] at hnot

theorem isTrimmed_trim (text : List Char) : IsTrimmed text (trim text) := by
  have hback : trim text ++ ((text.dropWhile isBlank).reverse.takeWhile isBlank).reverse
      = text.dropWhile isBlank := by
    rw [trim, ← List.reverse_append, List.takeWhile_append_dropWhile, List.reverse_reverse]
  refine ⟨⟨text.takeWhile isBlank, ((text.dropWhile isBlank).reverse.takeWhile isBlank).reverse,
    ?_, ?_⟩, ?_, ?_⟩
  · rw [List.append_assoc, hback, List.takeWhile_append_dropWhile]
  · intro c hc
    rw [List.mem_append, List.mem_reverse] at hc
    rcases hc with hc | hc
    · exact List.mem_takeWhile_imp hc
    · exact List.mem_takeWhile_imp hc
  · intro c hc
    have hhead : (text.dropWhile isBlank).head? = some c := by
      rw [← hback, List.head?_append, hc]
      rfl
    exact isBlank_of_head?_dropWhile hhead
  · intro c hc
    rw [trim, List.getLast?_reverse] at hc
    exact isBlank_of_head?_dropWhile hc

theorem trim_append (hbefore : ∀ c ∈ before, isBlank c) (hafter : ∀ c ∈ after, isBlank c) :
    trim (before ++ middle ++ after) = trim middle := by
  have hfront : (before ++ middle ++ after).dropWhile isBlank
      = (middle ++ after).dropWhile isBlank := by
    rw [List.append_assoc, List.dropWhile_append_of_pos hbefore]
  rw [trim, trim, hfront, List.dropWhile_append]
  split
  · next hempty =>
    rw [List.isEmpty_iff.mp hempty, List.dropWhile_eq_nil_iff.mpr hafter]
  · rw [List.reverse_append, List.dropWhile_append_of_pos]
    intro c hc
    exact hafter c (List.mem_reverse.mp hc)

theorem trim_eq_self (h : ∀ c ∈ text, isBlank c = false) : trim text = text := by
  have hkeep (list : List Char) (hlist : ∀ c ∈ list, isBlank c = false) :
      list.dropWhile isBlank = list := by
    rw [List.dropWhile_eq_self_iff]
    intro hpos
    rw [hlist _ (List.getElem_mem hpos)]
    exact Bool.false_ne_true
  have hreverse : ∀ c ∈ text.reverse, isBlank c = false := fun c hc => h c (List.mem_reverse.mp hc)
  rw [trim, hkeep text h, hkeep text.reverse hreverse, List.reverse_reverse]

theorem trim_map_toLower (text : List Char) :
    trim (text.map Char.toLower) = (trim text).map Char.toLower := by
  have hblank : isBlank ∘ Char.toLower = isBlank := funext isBlank_toLower
  rw [trim, trim, List.dropWhile_map, hblank, ← List.map_reverse, List.dropWhile_map, hblank,
    List.map_reverse]

/-! ## The problem that a text names -/

theorem find?_code (p : Problem) : all.find? (·.code.toList == p.code.toList) = some p := by
  cases p <;> decide +kernel

theorem ofCode?_eq_some_iff {text : String} :
    ofCode? text = some p ↔ p.code.toList = upcase (trim text.toList) := by
  constructor
  · intro h
    exact beq_iff_eq.mp (List.find?_some h :)
  · intro h
    rw [ofCode?, ← h]
    exact find?_code p

theorem parse_eq_ok_iff {text : String} :
    parse text = .ok p ↔ p.code.toList = upcase (trim text.toList) := by
  rw [← ofCode?_eq_some_iff, parse]
  cases ofCode? text with
  | none => exact ⟨nofun, nofun⟩
  | some q => rw [Except.ok.injEq, Option.some.injEq]

/-- A code is made of capital letters and digits. -/
theorem uppercase_of_mem_code {c : Char} (h : c ∈ p.code.toList) :
    uppercase c = [c] ∧ isBlank c = false := by
  have hletters : p.code.toList ⊆ "TKSN0123456789".toList := by cases p <;> decide
  have hall : ("TKSN0123456789".toList.all fun d => uppercase d == [d] && !isBlank d) = true := by
    decide +kernel
  have hc := List.all_eq_true.mp hall c (hletters h)
  rwa [Bool.and_eq_true, beq_iff_eq, Bool.not_eq_true'] at hc

theorem parse_code (p : Problem) : parse p.code = .ok p := by
  rw [parse_eq_ok_iff, trim_eq_self fun c hc => (uppercase_of_mem_code hc).2,
    upcase_eq_self fun c hc => (uppercase_of_mem_code hc).1]

/-- `variant` is `text` in any case, as far as the letters `A` to `Z` go, with any white
space around it. -/
def IsVariant (text variant : String) : Prop :=
  ∃ before middle after, variant.toList = before ++ middle ++ after ∧
    (∀ c ∈ before ++ after, isBlank c) ∧
    middle.map Char.toLower = text.toList.map Char.toLower

theorem upcase_trim_of_variant {text variant : String} (h : IsVariant text variant) :
    upcase (trim variant.toList) = upcase (trim text.toList) := by
  obtain ⟨before, middle, after, hvariant, hblank, hcase⟩ := h
  have hbefore : ∀ c ∈ before, isBlank c := fun c hc => hblank c (List.mem_append_left after hc)
  have hafter : ∀ c ∈ after, isBlank c := fun c hc => hblank c (List.mem_append_right before hc)
  calc upcase (trim variant.toList)
      = upcase (trim middle) := by rw [hvariant, trim_append hbefore hafter]
    _ = upcase ((trim middle).map Char.toLower) := (upcase_map_toLower _).symm
    _ = upcase ((trim text.toList).map Char.toLower) := by
      rw [← trim_map_toLower, hcase, trim_map_toLower]
    _ = upcase (trim text.toList) := upcase_map_toLower _

theorem parse_of_variant {text variant : String} (h : IsVariant text variant) :
    parse variant = (parse text).mapError fun _ => ⟨variant⟩ := by
  have hcode : ofCode? variant = ofCode? text := by
    rw [ofCode?, ofCode?, upcase_trim_of_variant h]
  rw [parse, parse, hcode]
  cases ofCode? text with
  | none => rfl
  | some p => rfl

theorem text_of_parse_error {text : String} {e : UnknownCode} (h : parse text = .error e) :
    e.text = text := by
  rw [parse] at h
  cases hcode : ofCode? text with
  | none =>
    rw [hcode] at h
    exact (congrArg UnknownCode.text (Except.error.inj h)).symm
  | some p =>
    rw [hcode] at h
    exact nomatch h

theorem explainTo_of_parse_error {text : String} {e : UnknownCode} (h : parse text = .error e)
    (out : Output.Sink) (fullCause : String) :
    Command.explainTo out fullCause text = (.error (.unknownCode text), out) := by
  obtain rfl := text_of_parse_error h
  rw [Command.explainTo, Command.explain, h]

/-- A text and its variants name the same problem or none of them names any, each
problem is named by every variant of its code, and a text names a problem just if its
upper case without the white space around it is the code of the problem.  A text that
names none is kept as it is, and nothing is written about it. -/
theorem parse_variants (text : String) :
    (∀ variant, IsVariant text variant →
      parse variant = (parse text).mapError fun _ => ⟨variant⟩) ∧
    (∀ p variant, IsVariant (code p) variant → parse variant = .ok p) ∧
    (∀ p, parse text = .ok p ↔ p.code.toList = upcase (trim text.toList)) ∧
    IsTrimmed text.toList (trim text.toList) ∧
    ∀ e, parse text = .error e → e.text = text ∧
      ∀ out fullCause,
        Command.explainTo out fullCause text = (.error (.unknownCode text), out) := by
  refine ⟨fun variant => parse_of_variant, ?_, fun p => parse_eq_ok_iff,
    isTrimmed_trim text.toList, ?_⟩
  · intro p variant h
    rw [parse_of_variant h, parse_code]
    rfl
  · intro e h
    exact ⟨text_of_parse_error h, explainTo_of_parse_error h⟩

example : parse "\u3000tK0006\t" = .ok .unknownEscape := by decide +kernel

end Problem
end LexicalFrontEnd
