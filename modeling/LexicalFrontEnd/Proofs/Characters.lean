import LexicalFrontEnd.Proofs.Lexeme.ClosingQuote
import LexicalFrontEnd.Proofs.Placement
import LexicalFrontEnd.Proofs.Spelling.Literal

/-!
A character literal holds one item, or has one of five mistakes.

Behind an opening quote stands one item with its closing quote, or else there is a
mistake (`complete_or_mistaken`).  A literal is empty, or it starts with a
backslash and a character that makes no escape sequence, or it does not close
behind its item.  The last is three mistakes, by what comes first behind the item:
a quote that no backslash takes along, the end of the line or the end of the text.
No literal has two mistakes, because where a mistaken literal ends is determined by
the text behind its quote (`readCharacter_mistaken`).
-/

namespace LexicalFrontEnd

open Lexeme

namespace Lexeme
namespace Literal

structure Complete (text : List Char) (item : Item) (rest : List Char) : Prop where
  wellFormed : item.WellFormed '\''
  text : text = item.text ++ '\'' :: rest

/-- A character literal that does not close: the item that is read of it, or nothing
where no item stands, and what follows. -/
inductive Unfinished : List Char → List Char → Prop
  | item {item : Item} {rest : List Char} :
    item.WellFormed '\'' → rest.head? ≠ some '\'' → Unfinished item.text rest
  | newline {rest : List Char} : Unfinished [] ('\n' :: rest)
  | nil : Unfinished [] []
  | backslash : Unfinished [] ['\\']

/-- A mistake in a character literal, with what the literal takes behind its opening
quote and what it leaves. -/
inductive Mistaken : Problem → List Char → List Char → Prop
  | empty {behind : List Char} : Mistaken .emptyCharacter ['\''] behind
  | unknown {letter : Char} {passed behind : List Char} {ending : Ending} :
    (∀ e ∈ Escape.table, e.letter ≠ letter) → (passed ++ behind).head? = some letter →
    Skips '\'' passed behind ending → Mistaken .unknownEscape ('\\' :: passed) behind
  | unfinished {first passed behind : List Char} {ending : Ending} :
    Unfinished first (passed ++ behind) → Skips '\'' passed behind ending →
    Mistaken ending.problem (first ++ passed) behind

section

variable {text first rest : List Char} {item : Item}

/-! ## No other text -/

theorem exists_skips_character (text : List Char) :
    ∃ passed behind ending, text = passed ++ behind ∧ Skips '\'' passed behind ending := by
  have hquote : '\'' ≠ '\n' ∧ '\'' ≠ '\\' := by decide
  obtain ⟨passed, behind, ending, htext, -, hskips⟩ := exists_skips hquote.1 hquote.2 [] text
  exact ⟨passed, behind, ending, htext, hskips⟩

theorem Unfinished.exists_mistaken (h : Unfinished first rest) :
    ∃ problem taken behind, first ++ rest = taken ++ behind ∧ Mistaken problem taken behind := by
  obtain ⟨passed, behind, ending, rfl, hskips⟩ := exists_skips_character rest
  exact ⟨_, first ++ passed, behind, (List.append_assoc _ _ _).symm, .unfinished h hskips⟩

theorem complete_or_mistaken_item (h : item.WellFormed '\'') (rest : List Char) :
    (∃ other behind, Complete (item.text ++ rest) other behind) ∨
      ∃ problem taken behind, item.text ++ rest = taken ++ behind ∧
        Mistaken problem taken behind := by
  by_cases hclose : rest.head? = some '\''
  · obtain ⟨rest, rfl⟩ := List.head?_eq_some_iff.mp hclose
    exact Or.inl ⟨item, rest, h, rfl⟩
  · exact Or.inr (Unfinished.item h hclose).exists_mistaken

theorem complete_or_mistaken (text : List Char) :
    (∃ item rest, Complete text item rest) ∨
      ∃ problem taken behind, text = taken ++ behind ∧ Mistaken problem taken behind := by
  cases text with
  | nil => exact Or.inr Unfinished.nil.exists_mistaken
  | cons c text =>
    by_cases hq : c = '\''
    · exact Or.inr ⟨_, ['\''], text, hq ▸ rfl, .empty⟩
    · by_cases hn : c = '\n'
      · exact Or.inr (hn ▸ Unfinished.newline.exists_mistaken)
      · by_cases hb : c = '\\'
        · subst hb
          cases text with
          | nil => exact Or.inr Unfinished.backslash.exists_mistaken
          | cons letter text =>
            cases hletter : Escape.decode? letter with
            | some d =>
              obtain ⟨e, he, rfl⟩ := Escape.exists_of_decode? hletter
              have hitem : (Item.escape e).WellFormed '\'' := he
              exact complete_or_mistaken_item hitem text
            | none =>
              obtain ⟨passed, behind, ending, htext, hskips⟩ :=
                exists_skips_character (letter :: text)
              refine Or.inr ⟨.unknownEscape, '\\' :: passed, behind, congrArg _ htext, ?_⟩
              exact .unknown (Escape.decode?_eq_none_iff.mp hletter) (htext ▸ rfl) hskips
        · have hitem : (Item.raw c).WellFormed '\'' := ⟨hq, hb, hn⟩
          exact complete_or_mistaken_item hitem text

/-! ## What is read -/

theorem readCharacter_complete (h : Complete text item rest) :
    readCharacter text = ⟨.token .character none, [item.meaning], item.text.length + 2⟩ := by
  rw [h.text, readCharacter_item h.wellFormed, Spelling.text, List.length_append]
  rfl

theorem readCharacter_unfinished (h : Unfinished first rest) :
    readCharacter (first ++ rest) =
      verbatim (.malformed (passOver '\'' [] rest).2.problem)
        ('\'' :: (first ++ (passOver '\'' [] rest).1)) := by
  cases h with
  | @item item rest hitem hclose =>
    cases item with
    | raw c =>
      obtain ⟨hq, hb, hn⟩ := hitem
      exact (readCharacter_cons hn hq hb rest).trans (close_of_ne hclose _ _)
    | escape e =>
      exact (readCharacter_escape (Escape.decode?_letter hitem) rest).trans
        (close_of_ne hclose _ _)
  | newline =>
    rw [passOver_newline]
    rfl
  | nil => rfl
  | backslash => rfl

/-- The mistake is found, and the literal stands for itself. -/
theorem readCharacter_mistaken {problem : Problem} {taken behind : List Char}
    (h : Mistaken problem taken behind) :
    readCharacter (taken ++ behind) = verbatim (.malformed problem) ('\'' :: taken) := by
  cases h with
  | empty => rfl
  | unknown hletter hhead hskips =>
    obtain ⟨tail, htail⟩ := List.head?_eq_some_iff.mp hhead
    rw [List.cons_append, htail, readCharacter_unknown (Escape.decode?_eq_none_iff.mpr hletter),
      ← htail, passOver_skips hskips (by decide) (by decide)]
    rfl
  | unfinished hfirst hskips =>
    rw [List.append_assoc, readCharacter_unfinished hfirst,
      passOver_skips hskips (by decide) (by decide)]
    rfl

example : readCharacter ['a', '\\', '\'', '\\', '\\', '\'', 'x'] =
    ⟨.malformed .overfullCharacter, ['\'', 'a', '\\', '\'', '\\', '\\', '\''], 7⟩ := rfl

end

/-! ## The mistakes that show in the first characters -/

section

variable {problem : Problem} {taken behind : List Char}

theorem Mistaken.head?_of_empty (h : Mistaken .emptyCharacter taken behind) :
    (taken ++ behind).head? = some '\'' := by
  generalize hproblem : Problem.emptyCharacter = problem at h
  cases h with
  | empty => rfl
  | unknown _ _ _ => cases hproblem
  | @unfinished _ _ _ ending _ _ => cases ending <;> cases hproblem

theorem Mistaken.exists_letter_of_unknown (h : Mistaken .unknownEscape taken behind) :
    ∃ letter rest, taken ++ behind = '\\' :: letter :: rest ∧
      ∀ e ∈ Escape.table, e.letter ≠ letter := by
  generalize hproblem : Problem.unknownEscape = problem at h
  cases h with
  | empty => cases hproblem
  | @unknown letter passed _ _ hletter hhead _ =>
    obtain ⟨rest, hrest⟩ := List.head?_eq_some_iff.mp hhead
    exact ⟨letter, rest, congrArg _ hrest, hletter⟩
  | @unfinished _ _ _ ending _ _ => cases ending <;> cases hproblem

end

end Literal
end Lexeme

open Literal

/-- What there is to say of a token that takes `span`, starts with a single quote
and `inner` behind it, and leaves `behind`. -/
structure Span.IsCharacter (x : Span) (span inner behind : List Char) : Prop where
  complete : ∀ item rest, Complete inner item rest →
    x.Denotes .character [item.meaning] ∧ behind = rest
  mistaken : (∀ item rest, ¬Complete inner item rest) →
    x.token = ⟨String.ofList span, .invalid, none, x.start⟩ ∧ ∃ problem, x.Faulty problem
  faulty : ∀ problem,
    x.Faulty problem ↔ ∃ taken, span = '\'' :: taken ∧ Mistaken problem taken behind
  empty : x.Faulty .emptyCharacter ↔ inner.head? = some '\''
  unknown : x.Faulty .unknownEscape ↔
    ∃ letter rest, inner = '\\' :: letter :: rest ∧ ∀ e ∈ Escape.table, e.letter ≠ letter

namespace Span

structure ReadsCharacter (x : Span) (span inner behind : List Char) : Prop where
  lexeme : x.lexeme = readCharacter inner
  text : span ++ behind = '\'' :: inner
  width : span.length = x.lexeme.width

namespace ReadsCharacter

variable {x : Span} {span inner behind taken rest : List Char} {problem : Problem}

theorem split (h : x.ReadsCharacter span inner behind) (hinner : inner = taken ++ rest)
    (hlength : x.lexeme.width = taken.length + 1) : span = '\'' :: taken ∧ behind = rest := by
  have htext := h.text
  rw [hinner, ← List.cons_append] at htext
  exact List.append_inj htext (h.width.trans hlength)

theorem denotes_of_complete {item : Item} (h : x.ReadsCharacter span inner behind)
    (hitem : Complete inner item rest) : x.Denotes .character [item.meaning] ∧ behind = rest := by
  have hread := h.lexeme.trans (readCharacter_complete hitem)
  have hinner : inner = item.text ++ ['\''] ++ rest := by rw [hitem.text, List.append_cons]
  refine ⟨denotes_iff.mpr (by rw [hread]; exact ⟨rfl, rfl⟩), (h.split hinner ?_).2⟩
  rw [hread, List.length_append]
  rfl

theorem verbatim_of_mistaken (h : x.ReadsCharacter span inner behind)
    (hinner : inner = taken ++ rest) (hm : Mistaken problem taken rest) :
    x.lexeme = verbatim (.malformed problem) span ∧ span = '\'' :: taken ∧ behind = rest := by
  have hread : x.lexeme = verbatim (.malformed problem) ('\'' :: taken) := by
    rw [h.lexeme, hinner, readCharacter_mistaken hm]
  obtain ⟨rfl, rfl⟩ := h.split hinner (by rw [hread]; rfl)
  exact ⟨hread, rfl, rfl⟩

theorem token_of_not_complete (h : x.ReadsCharacter span inner behind)
    (hnone : ∀ item rest, ¬Complete inner item rest) :
    x.token = ⟨String.ofList span, .invalid, none, x.start⟩ ∧ ∃ problem, x.Faulty problem := by
  rcases complete_or_mistaken inner with ⟨item, rest, hitem⟩ | ⟨problem, taken, rest, hinner, hm⟩
  · exact absurd hitem (hnone item rest)
  · have hread := (h.verbatim_of_mistaken hinner hm).1
    refine ⟨?_, problem, faulty_iff.mpr (by rw [hread]; rfl)⟩
    rw [Placed.token, hread]
    rfl

/-- The fault of the token is the mistake in what it takes. -/
theorem faulty_iff_mistaken (h : x.ReadsCharacter span inner behind) :
    x.Faulty problem ↔ ∃ taken, span = '\'' :: taken ∧ Mistaken problem taken behind := by
  rw [faulty_iff]
  constructor
  · intro hverdict
    rcases complete_or_mistaken inner with ⟨item, rest, hitem⟩ | ⟨_, taken, rest, hinner, hm⟩
    · rw [h.lexeme, readCharacter_complete hitem] at hverdict
      cases hverdict
    · obtain ⟨hread, rfl, rfl⟩ := h.verbatim_of_mistaken hinner hm
      rw [hread] at hverdict
      cases hverdict
      exact ⟨taken, rfl, hm⟩
  · rintro ⟨taken, rfl, hm⟩
    obtain rfl := (List.cons.inj h.text).2
    rw [(h.verbatim_of_mistaken rfl hm).1]
    rfl

theorem faulty_empty_iff (h : x.ReadsCharacter span inner behind) :
    x.Faulty .emptyCharacter ↔ inner.head? = some '\'' := by
  constructor
  · intro hempty
    obtain ⟨taken, rfl, hm⟩ := h.faulty_iff_mistaken.mp hempty
    rw [← (List.cons.inj h.text).2]
    exact hm.head?_of_empty
  · intro hhead
    obtain ⟨rest, rfl⟩ := List.head?_eq_some_iff.mp hhead
    rw [faulty_iff, h.lexeme]
    rfl

theorem faulty_unknown_iff (h : x.ReadsCharacter span inner behind) :
    x.Faulty .unknownEscape ↔
      ∃ letter rest, inner = '\\' :: letter :: rest ∧ ∀ e ∈ Escape.table, e.letter ≠ letter := by
  constructor
  · intro hunknown
    obtain ⟨taken, rfl, hm⟩ := h.faulty_iff_mistaken.mp hunknown
    rw [← (List.cons.inj h.text).2]
    exact hm.exists_letter_of_unknown
  · rintro ⟨letter, rest, rfl, hletter⟩
    rw [faulty_iff, h.lexeme, readCharacter_unknown (Escape.decode?_eq_none_iff.mpr hletter)]
    rfl

theorem isCharacter (h : x.ReadsCharacter span inner behind) :
    x.IsCharacter span inner behind where
  complete := fun _ _ => h.denotes_of_complete
  mistaken := h.token_of_not_complete
  faulty := fun _ => h.faulty_iff_mistaken
  empty := h.faulty_empty_iff
  unknown := h.faulty_unknown_iff

end ReadsCharacter

end Span

/-- Every token that starts with a single quote is the one item before its closing
quote, or else malformed by just one of the mistakes, and then it reads as it is
written. -/
theorem tokenize_characters (text : String) (capacity : Nat) :
    let lexemes := spans .standard text.toList
    (tokenize text capacity).1 = lexemes.map (·.token) ∧
    (tokenize text capacity).2.toList = lexemes.filterMap (·.complaint?) ∧
    ∀ x ∈ lexemes, ∃ before span behind, x.Takes text.toList before span behind ∧
      ∀ inner, span ++ behind = '\'' :: inner → x.IsCharacter span inner behind := by
  intro lexemes
  obtain ⟨htokens, hlog⟩ := tokenize_eq_spans text capacity
  refine ⟨htokens, hlog, fun x hx => ?_⟩
  obtain ⟨before, c, rest, -, hlexeme, htakes⟩ := exists_takes hx
  refine ⟨before, _, _, htakes, fun inner hinner => Span.ReadsCharacter.isCharacter ?_⟩
  refine ⟨?_, hinner, ?_⟩
  · rw [List.take_append_drop] at hinner
    obtain ⟨rfl, rfl⟩ := List.cons.inj hinner
    rw [hlexeme, read_character]
  · rw [length_take_read, hlexeme]

end LexicalFrontEnd
