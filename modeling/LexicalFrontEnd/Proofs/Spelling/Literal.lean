import LexicalFrontEnd.Proofs.Lexeme.Literal
import LexicalFrontEnd.Proofs.Spelling.Basic

/-!
Literals are read as what their items stand for.

A literal tells by itself where it ends, so nothing is asked of what follows.
-/

namespace LexicalFrontEnd

namespace Escape

variable {letter c : Char}

/-- No letter has two escape sequences. -/
theorem decode?_letter {e : Escape} (h : e ∈ table) : decode? e.letter = some e.meaning := by
  have hall : ∀ e ∈ table, decode? e.letter = some e.meaning := by decide
  exact hall e h

theorem exists_of_decode? (h : decode? letter = some c) : ∃ e ∈ table, e.letter = letter := by
  obtain ⟨e, he, -⟩ := Option.map_eq_some_iff.mp h
  have hletter := List.find?_some he
  exact ⟨e, List.mem_of_find?_eq_some he, eq_of_beq hletter⟩

theorem decode?_eq_none_iff : decode? letter = none ↔ ∀ e ∈ table, e.letter ≠ letter := by
  rw [decode?, Option.map_eq_none_iff, List.find?_eq_none]
  simp only [beq_iff_eq, ne_eq]

end Escape

namespace Lexeme
namespace Literal

theorem body_item {item : Item} (h : item.WellFormed '"') (taken : List Char) (width : Nat)
    (rest : List Char) :
    body taken width (item.text ++ rest) =
      body (item.meaning :: taken) (width + item.text.length) rest := by
  cases item with
  | raw c =>
    obtain ⟨hq, hb, hn⟩ := h
    exact body_cons hq hn hb
  | escape e => exact body_escape (Escape.decode?_letter h)

theorem body_items {items : List Item} (h : ∀ item ∈ items, item.WellFormed '"')
    (taken : List Char) (width : Nat) (rest : List Char) :
    body taken width (items.flatMap Item.text ++ rest) =
      body ((items.map Item.meaning).reverse ++ taken)
        (width + (items.flatMap Item.text).length) rest := by
  induction items generalizing taken width with
  | nil => rfl
  | cons item items ih =>
    have hitems := ih fun item hm => h item (List.mem_cons_of_mem _ hm)
    rw [List.flatMap_cons, List.append_assoc, body_item (h item List.mem_cons_self), hitems,
      List.length_append, Nat.add_assoc width, List.map_cons, List.reverse_cons, List.append_assoc]
    rfl

/-- The items of a string are read, whatever stands behind them. -/
theorem readString_append {items : List Item} (h : ∀ item ∈ items, item.WellFormed '"')
    (rest : List Char) :
    readString (items.flatMap Item.text ++ rest) =
      ofBody (body (items.map Item.meaning).reverse (items.flatMap Item.text).length rest) := by
  rw [readString_eq, body_items h, List.append_nil, Nat.zero_add]

theorem readString_items {items : List Item} (h : ∀ item ∈ items, item.WellFormed '"')
    (rest : List Char) :
    readString (items.flatMap Item.text ++ '"' :: rest) =
      ⟨.token .string none, items.map Item.meaning, (Spelling.string items).text.length⟩ := by
  rw [readString_append h, Spelling.text, List.length_append, List.length_cons]
  show (⟨_, (items.map Item.meaning).reverse.reverse, _⟩ : Lexeme) = _
  rw [List.reverse_reverse]
  rfl

theorem readCharacter_item {item : Item} (h : item.WellFormed '\'') (rest : List Char) :
    readCharacter (item.text ++ '\'' :: rest) =
      ⟨.token .character none, [item.meaning], (Spelling.character item).text.length⟩ := by
  cases item with
  | raw c =>
    obtain ⟨hq, hb, hn⟩ := h
    exact readCharacter_cons hn hq hb ('\'' :: rest)
  | escape e =>
    show readCharacter ('\\' :: e.letter :: '\'' :: rest) = _
    rw [readCharacter, Escape.decode?_letter h]
    rfl

end Literal
end Lexeme
end LexicalFrontEnd
