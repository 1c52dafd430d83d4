import LexicalFrontEnd.Proofs.Characters
import LexicalFrontEnd.Proofs.Lexeme.Verdict
import LexicalFrontEnd.Proofs.Spelling.Viable
import LexicalFrontEnd.Proofs.Strings

/-!
Invalid tokens read as they are written, but for strings with escape sequences.

A number, a character literal or a single character that is malformed stands for
itself (`standsForItself_of_malformed`).  A malformed string keeps its opening quote
and what is wrong with it, but its items stand there as what they denote, so an
escape sequence before the mistake is lost (`readString_malformed`).  An escape
sequence is longer than what it stands for, and therefore such a string reads as
written only if there is none (`map_meaning_eq_iff`).
-/

namespace LexicalFrontEnd

open Lexeme

/-! ## Items and what they denote -/

namespace Item

variable {items : List Item}

theorem length_le_length_text (items : List Item) :
    items.length ≤ (items.flatMap Item.text).length := by
  induction items with
  | nil => exact Nat.le_refl 0
  | cons item items ih =>
    rw [List.flatMap_cons, List.length_append, List.length_cons]
    cases item with
    | raw c => simp only [text, List.length_singleton]; omega
    | escape e => simp only [text, List.length_cons, List.length_nil]; omega

/-- Items are written as what they denote just if no escape sequence is among them. -/
theorem map_meaning_eq_iff : items.map meaning = items.flatMap text ↔ ∀ e, escape e ∉ items := by
  induction items with
  | nil => simp
  | cons item items ih =>
    cases item with
    | raw c => simp [meaning, text, ih]
    | escape e =>
      have hlonger :
          (Item.escape e :: items).map meaning ≠ (Item.escape e :: items).flatMap text := by
        intro heq
        have hlength := congrArg List.length heq
        have hle := length_le_length_text items
        simp only [List.length_map, List.length_cons, List.flatMap_cons, List.length_append,
          text, List.length_nil] at hlength
        omega
      exact iff_of_false hlonger fun hnone => hnone e List.mem_cons_self

end Item

namespace Lexeme

variable {problem : Problem} {text rest : List Char}

namespace Literal

theorem standsForItself_readCharacter (h : (readCharacter text).verdict = .malformed problem) :
    StandsForItself (readCharacter text) ('\'' :: text) := by
  rcases complete_or_mistaken text with ⟨item, rest, hitem⟩ | ⟨_, taken, behind, rfl, hm⟩
  · rw [readCharacter_complete hitem] at h
    cases h
  · rw [readCharacter_mistaken hm]
    exact standsForItself_verbatim _ (List.prefix_append ('\'' :: taken) behind)

/-- A malformed string is its items as far as they go, by what they denote, and the
rest of what it takes as it is written. -/
theorem readString_malformed {items : List Item} (h : Itemized text items rest)
    (hend : EndsItems rest) (hm : (readString text).verdict = .malformed problem) :
    ∃ tail, tail <+: rest ∧ (readString text).text = '"' :: (items.map Item.meaning ++ tail) ∧
      (readString text).width = (items.flatMap Item.text ++ tail).length + 1 := by
  cases hend with
  | quote =>
    rw [readString_quote h] at hm
    cases hm
  | @unknown letter rest hletter =>
    have hquote : '"' ≠ '\n' ∧ '"' ≠ '\\' := by decide
    obtain ⟨passed, behind, ending, htext, hpassed, -⟩ :=
      exists_skips hquote.1 hquote.2 [] (letter :: rest)
    refine ⟨'\\' :: passed, ⟨behind, congrArg _ htext.symm⟩, ?_⟩
    rw [readString_unknown h (Escape.decode?_eq_none_iff.mpr hletter), hpassed]
    refine ⟨rfl, ?_⟩
    simp only [List.reverse_nil, List.nil_append, List.length_append, List.length_cons]
    omega
  | newline =>
    refine ⟨[], List.nil_prefix, ?_⟩
    rw [readString_cut h (Or.inr rfl), List.append_nil, List.append_nil]
    exact ⟨rfl, rfl⟩
  | nil =>
    refine ⟨[], List.nil_prefix, ?_⟩
    rw [readString_cut h (Or.inl rfl), List.append_nil, List.append_nil]
    exact ⟨rfl, rfl⟩
  | backslash =>
    refine ⟨['\\'], List.prefix_rfl, ?_⟩
    rw [readString_backslash h, List.length_append]
    exact ⟨rfl, rfl⟩

end Literal

/-- Every malformed lexeme but a string stands for itself. -/
theorem standsForItself_of_malformed {lexicon : Lexicon} {c : Char} (hquote : c ≠ '"')
    (h : (read lexicon c text).verdict = .malformed problem) :
    StandsForItself (read lexicon c text) (c :: text) := by
  revert h
  rw [read]
  split
  · intro _
    refine standsForItself_verbatim _ ?_
    rw [List.prefix_cons_inj]
    exact List.takeWhile_prefix _
  · split
    · exact fun _ => Number.standsForItself_read (c :: text)
    · split
      · rename_i hpoint
        rw [Bool.and_eq_true, beq_iff_eq] at hpoint
        rw [hpoint.1]
        exact fun _ => Number.standsForItself_readPoint text
      · split
        · rename_i hstring
          exact absurd (beq_iff_eq.mp hstring) hquote
        · split
          · rename_i hcharacter
            rw [beq_iff_eq.mp hcharacter]
            exact Literal.standsForItself_readCharacter
          · exact fun _ => standsForItself_readOperator c text

end Lexeme

open Literal

structure Span.IsInvalid (x : Span) (span behind : List Char) : Prop where
  verbatim : span.head? ≠ some '"' → x.token.lexeme = String.ofList span
  string : ∀ inner, span ++ behind = '"' :: inner → ∃ items rest tail,
    Itemized inner items rest ∧ EndsItems rest ∧
    span = '"' :: (items.flatMap Item.text ++ tail) ∧
    x.token.lexeme = String.ofList ('"' :: (items.map Item.meaning ++ tail)) ∧
    (x.token.lexeme = String.ofList span ↔ ∀ e, Item.escape e ∉ items)

theorem Placed.exists_problem {x : Placed} (hregular : x.lexeme.verdict.Regular)
    (h : x.token.kind = .invalid) : ∃ problem, x.lexeme.verdict = .malformed problem := by
  rw [token] at h
  cases hverdict : x.lexeme.verdict with
  | malformed problem => exact ⟨problem, rfl⟩
  | token kind code? =>
    rw [hverdict] at h hregular
    exact absurd h hregular.1

namespace Span

variable {x : Span} {problem : Problem} {c : Char} {rest : List Char}

theorem lexeme_eq_take_of_malformed (hquote : c ≠ '"') (h : x.lexeme = read .standard c rest)
    (hverdict : x.lexeme.verdict = .malformed problem) :
    x.token.lexeme = String.ofList ((c :: rest).take x.lexeme.width) := by
  rw [x.lexeme_eq_ofList, h]
  rw [h] at hverdict
  exact congrArg String.ofList (standsForItself_of_malformed hquote hverdict)

theorem exists_items_of_malformed (h : x.lexeme = readString rest)
    (hverdict : x.lexeme.verdict = .malformed problem) :
    ∃ items left tail, Itemized rest items left ∧ EndsItems left ∧
      ('"' :: rest).take x.lexeme.width = '"' :: (items.flatMap Item.text ++ tail) ∧
      x.token.lexeme = String.ofList ('"' :: (items.map Item.meaning ++ tail)) := by
  rw [h] at hverdict
  obtain ⟨items, left, hitems, hend⟩ := exists_itemized rest
  obtain ⟨tail, ⟨behind, htail⟩, htext, hwidth⟩ := readString_malformed hitems hend hverdict
  refine ⟨items, left, tail, hitems, hend, ?_, ?_⟩
  · rw [h, hwidth, List.take_succ_cons, hitems.text, ← htail, ← List.append_assoc, List.take_left]
  · rw [x.lexeme_eq_ofList, h, htext]

theorem isInvalid_of_malformed (h : x.lexeme = read .standard c rest)
    (hverdict : x.lexeme.verdict = .malformed problem) :
    x.IsInvalid ((c :: rest).take x.lexeme.width) ((c :: rest).drop x.lexeme.width) := by
  constructor
  · intro hquote
    have hwidth : x.lexeme.width ≠ 0 := by
      rw [h]
      exact Nat.ne_of_gt (width_read_pos .standard c rest)
    rw [List.head?_take, if_neg hwidth, List.head?_cons] at hquote
    exact lexeme_eq_take_of_malformed (fun hc => hquote (congrArg some hc)) h hverdict
  · intro inner hinner
    rw [List.take_append_drop] at hinner
    obtain ⟨rfl, rfl⟩ := List.cons.inj hinner
    rw [read_string] at h
    obtain ⟨items, left, tail, hitems, hend, hspan, hlexeme⟩ :=
      exists_items_of_malformed h hverdict
    refine ⟨items, left, tail, hitems, hend, hspan, hlexeme, ?_⟩
    rw [hspan, hlexeme, String.ofList_inj, List.cons_inj_right, List.append_cancel_right_eq,
      Item.map_meaning_eq_iff]

end Span

/-- An invalid token reads as written unless it is a string with an escape sequence
before its mistake.  The items of an invalid string stand there as what they
denote, and the rest of it as it is written. -/
theorem tokenize_invalid (text : String) (capacity : Nat) :
    let lexemes := spans .standard text.toList
    (tokenize text capacity).1 = lexemes.map (·.token) ∧
    ∀ x ∈ lexemes, ∃ before span behind, x.Takes text.toList before span behind ∧
      (x.token.kind = .invalid → x.IsInvalid span behind) := by
  intro lexemes
  refine ⟨tokens_eq_spans text capacity, fun x hx => ?_⟩
  obtain ⟨before, c, rest, -, hlexeme, htakes⟩ := exists_takes hx
  refine ⟨before, _, _, htakes, fun hinvalid => ?_⟩
  have hregular : x.lexeme.verdict.Regular := hlexeme ▸ regular_read .standard c rest
  obtain ⟨problem, hproblem⟩ := x.exists_problem hregular hinvalid
  rw [← hlexeme]
  exact Span.isInvalid_of_malformed hlexeme hproblem

/-- The newline that an escape sequence denotes is in the lexeme, and not the escape
sequence. -/
theorem lexeme_ne_of_invalid :
    let text := "\"\\n"
    let x : Span := ⟨⟨⟨.malformed .unclosedString, ['"', '\n'], 3⟩, ⟨1, 1⟩⟩, 3⟩
    spans .standard text.toList = [x] ∧ x.Takes text.toList [] text.toList [] ∧
      (tokenize text 0).1 = [x.token] ∧ x.token.kind = .invalid ∧ x.token.lexeme ≠ text := by
  refine ⟨?_, ⟨rfl, rfl, rfl⟩, ?_, rfl, ?_⟩
  · decide +kernel
  · decide +kernel
  · decide +kernel

end LexicalFrontEnd
