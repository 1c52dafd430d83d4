import LexicalFrontEnd.Proofs.Lexeme.ClosingQuote
import LexicalFrontEnd.Proofs.Placement
import LexicalFrontEnd.Proofs.Spelling.Literal

/-!
Strings denote their items, and there are five ways for the items to end.

What stands behind an opening quote is a sequence of items, as long as it can be,
and then one of five things: the closing quote, a backslash with a character that
makes no escape sequence, a newline, the end of the text, or a backslash at the
end of the text (`exists_itemized`).  The first makes a string of what the items
stand for; each other one is reported once, and tells where the token ends.
-/

namespace LexicalFrontEnd

open Lexeme

namespace Lexeme
namespace Literal

structure Itemized (text : List Char) (items : List Item) (rest : List Char) : Prop where
  wellFormed : ∀ item ∈ items, item.WellFormed '"'
  text : text = items.flatMap Item.text ++ rest

inductive EndsItems : List Char → Prop
  | quote {rest : List Char} : EndsItems ('"' :: rest)
  | unknown {letter : Char} {rest : List Char} :
    (∀ e ∈ Escape.table, e.letter ≠ letter) → EndsItems ('\\' :: letter :: rest)
  | newline {rest : List Char} : EndsItems ('\n' :: rest)
  | nil : EndsItems []
  | backslash : EndsItems ['\\']

section

variable {text rest : List Char} {items : List Item}

theorem itemized_nil (text : List Char) : Itemized text [] text :=
  ⟨fun _ h => absurd h List.not_mem_nil, rfl⟩

theorem Itemized.cons {item : Item} (h : Itemized text items rest) (hitem : item.WellFormed '"') :
    Itemized (item.text ++ text) (item :: items) rest := by
  constructor
  · intro other hother
    rcases List.mem_cons.mp hother with rfl | hother
    · exact hitem
    · exact h.wellFormed other hother
  · rw [h.text, List.flatMap_cons, List.append_assoc]

/-- Every text is a sequence of items and an end. -/
theorem exists_itemized (text : List Char) :
    ∃ items rest, Itemized text items rest ∧ EndsItems rest := by
  -- On the length, because an escape takes two characters at once.
  induction hlen : text.length using Nat.strongRecOn generalizing text with
  | ind n ih =>
    cases text with
    | nil => exact ⟨[], _, itemized_nil _, .nil⟩
    | cons c text =>
      rw [List.length_cons] at hlen
      by_cases hq : c = '"'
      · exact ⟨[], _, itemized_nil _, hq ▸ .quote⟩
      · by_cases hn : c = '\n'
        · exact ⟨[], _, itemized_nil _, hn ▸ .newline⟩
        · by_cases hb : c = '\\'
          · subst hb
            cases text with
            | nil => exact ⟨[], _, itemized_nil _, .backslash⟩
            | cons letter text =>
              rw [List.length_cons] at hlen
              cases hletter : Escape.decode? letter with
              | none =>
                exact ⟨[], _, itemized_nil _, .unknown (Escape.decode?_eq_none_iff.mp hletter)⟩
              | some d =>
                obtain ⟨e, he, rfl⟩ := Escape.exists_of_decode? hletter
                obtain ⟨items, rest, hitems, hend⟩ := ih _ (by omega) text rfl
                have hitem : (Item.escape e).WellFormed '"' := he
                exact ⟨_, rest, hitems.cons hitem, hend⟩
          · obtain ⟨items, rest, hitems, hend⟩ := ih _ (by omega) text rfl
            have hitem : (Item.raw c).WellFormed '"' := ⟨hq, hb, hn⟩
            exact ⟨_, rest, hitems.cons hitem, hend⟩

/-! ## What is read before each end -/

theorem Itemized.readString_eq (h : Itemized text items rest) :
    readString text =
      ofBody (body (items.map Item.meaning).reverse (items.flatMap Item.text).length rest) := by
  rw [h.text, readString_append h.wellFormed]

theorem readString_quote (h : Itemized text items ('"' :: rest)) :
    readString text =
      ⟨.token .string none, items.map Item.meaning, (items.flatMap Item.text).length + 2⟩ := by
  rw [h.readString_eq]
  show (⟨_, (items.map Item.meaning).reverse.reverse, _⟩ : Lexeme) = _
  rw [List.reverse_reverse]
  rfl

theorem readString_unknown {letter : Char} (h : Itemized text items ('\\' :: letter :: rest))
    (hletter : Escape.decode? letter = none) :
    readString text =
      ⟨.malformed .unknownEscape,
        '"' :: (items.map Item.meaning ++ '\\' :: (passOver '"' [] (letter :: rest)).1),
        (items.flatMap Item.text).length + 1 +
          (passOver '"' [] (letter :: rest)).1.length + 1⟩ := by
  rw [h.readString_eq, body_unknown hletter, List.reverse_reverse]
  rfl

example : readString ['\\', 'q', '\\', '"', '"', 'x'] =
    ⟨.malformed .unknownEscape, ['"', '\\', 'q', '\\', '"', '"'], 6⟩ := rfl

theorem readString_cut (h : Itemized text items rest)
    (hrest : rest = [] ∨ rest.head? = some '\n') :
    readString text =
      ⟨.malformed .unclosedString, '"' :: items.map Item.meaning,
        (items.flatMap Item.text).length + 1⟩ := by
  have hbody (taken : List Char) (width : Nat) :
      body taken width rest = ⟨taken.reverse, width, some .unclosedString⟩ := by
    rcases hrest with rfl | hrest
    · rfl
    · obtain ⟨rest, rfl⟩ := List.head?_eq_some_iff.mp hrest
      rfl
  rw [h.readString_eq, hbody, List.reverse_reverse]
  rfl

theorem readString_backslash (h : Itemized text items ['\\']) :
    readString text =
      ⟨.malformed .unclosedString, '"' :: (items.map Item.meaning ++ ['\\']),
        (items.flatMap Item.text).length + 2⟩ := by
  rw [h.readString_eq]
  show (⟨_, '"' :: ('\\' :: (items.map Item.meaning).reverse).reverse, _⟩ : Lexeme) = _
  rw [List.reverse_cons, List.reverse_reverse]
  rfl

end

end Literal
end Lexeme

open Literal

/-- What there is to say of a token that starts with a quote and `inner` behind it,
and leaves `behind`. -/
structure Span.IsString (x : Span) (inner behind : List Char) : Prop where
  itemized : ∃ items rest, Itemized inner items rest ∧ EndsItems rest
  closed : ∀ items rest, Itemized inner items ('"' :: rest) →
    x.Denotes .string (items.map Item.meaning) ∧ behind = rest
  unknown : ∀ items letter rest, Itemized inner items ('\\' :: letter :: rest) →
    (∀ e ∈ Escape.table, e.letter ≠ letter) →
    x.Faulty .unknownEscape ∧
      ∃ passed ending, letter :: rest = passed ++ behind ∧ Skips '"' passed behind ending
  cut : ∀ items rest, Itemized inner items rest → rest = [] ∨ rest.head? = some '\n' →
    x.Faulty .unclosedString ∧ behind = rest
  backslash : ∀ items, Itemized inner items ['\\'] → x.Faulty .unclosedString ∧ behind = []

theorem Span.isString_of_read {x : Span} {inner : List Char} (h : x.lexeme = readString inner) :
    x.IsString inner (('"' :: inner).drop x.lexeme.width) := by
  have hbehind {items : List Item} (taken : List Char) {rest : List Char}
      (hinner : Itemized inner items (taken ++ rest)) :
      ('"' :: inner).drop ((items.flatMap Item.text).length + taken.length + 1) = rest := by
    rw [hinner.text, List.drop_succ_cons, ← List.append_assoc, ← List.length_append, List.drop_left]
  refine ⟨exists_itemized inner, ?_, ?_, ?_, ?_⟩
  · intro items rest hinner
    rw [denotes_iff, h, readString_quote hinner]
    exact ⟨⟨rfl, rfl⟩, hbehind ['"'] hinner⟩
  · intro items letter rest hinner hletter
    have hquote : '"' ≠ '\n' ∧ '"' ≠ '\\' := by decide
    obtain ⟨passed, behind, ending, htext, hpassed, hskips⟩ :=
      exists_skips hquote.1 hquote.2 [] (letter :: rest)
    rw [List.reverse_nil, List.nil_append] at hpassed
    have hread := readString_unknown hinner (Escape.decode?_eq_none_iff.mpr hletter)
    rw [htext] at hinner
    rw [hpassed] at hread
    have hdrop : ('"' :: inner).drop (readString inner).width = behind := by
      rw [hread]
      show List.drop (_ + 1 + passed.length + 1) _ = _
      rw [Nat.add_assoc _ 1, Nat.add_comm 1]
      exact hbehind ('\\' :: passed) hinner
    rw [faulty_iff, h, hdrop, hread]
    exact ⟨rfl, passed, ending, htext, hskips⟩
  · intro items rest hinner hrest
    rw [faulty_iff, h, readString_cut hinner hrest]
    exact ⟨rfl, hbehind [] hinner⟩
  · intro items hinner
    rw [faulty_iff, h, readString_backslash hinner]
    exact ⟨rfl, hbehind ['\\'] hinner⟩

/-- Every token that starts with a quote comes to what its items and their end make of
it. -/
theorem tokenize_strings (text : String) (capacity : Nat) :
    let lexemes := spans .standard text.toList
    (tokenize text capacity).1 = lexemes.map (·.token) ∧
    (tokenize text capacity).2.toList = lexemes.filterMap (·.complaint?) ∧
    ∀ x ∈ lexemes, ∃ before span behind, x.Takes text.toList before span behind ∧
      ∀ inner, span ++ behind = '"' :: inner → x.IsString inner behind := by
  intro lexemes
  obtain ⟨htokens, hlog⟩ := tokenize_eq_spans text capacity
  refine ⟨htokens, hlog, fun x hx => ?_⟩
  obtain ⟨before, c, rest, -, hlexeme, htakes⟩ := exists_takes hx
  refine ⟨before, _, _, htakes, fun inner hinner => ?_⟩
  rw [List.take_append_drop] at hinner
  obtain ⟨rfl, rfl⟩ := List.cons.inj hinner
  rw [← hlexeme]
  rw [read_string] at hlexeme
  exact Span.isString_of_read hlexeme

end LexicalFrontEnd
