import LexicalFrontEnd.Proofs.Lexeme.Read
import LexicalFrontEnd.Proofs.Position
import LexicalFrontEnd.Proofs.Reading

/-!
A text is made of its tokens and the gaps between them.

Nothing of a text is lost, taken twice or misplaced: the text splits into one
piece for each token, a gap and the span of the token, and a last gap, and every
token tells where its span starts (`exists_layout`).  A span is what its lexeme
takes of the text, so it stays on its line, and the token is read back off it
unless the token denotes something else.
-/

namespace LexicalFrontEnd

open Lexeme

structure Piece where
  gap : List Char
  span : List Char

namespace Piece

def text (x : Piece) : List Char := x.gap ++ x.span

/-- The piece is written behind the characters `before`, and the token is what
it says. -/
structure Accounts (x : Piece) (before : List Char) (t : Token) : Prop where
  gap : Gap false x.gap
  span_ne_nil : x.span ≠ []
  newline : '\n' ∉ x.span
  blank : ∀ c, x.span.head? = some c → Unicode.isBlank c = false
  comment : ¬['/', '/'] <+: x.span
  position : t.position = .following (before ++ x.gap)
  lexeme : t.kind ≠ .string → t.kind ≠ .character → t.kind ≠ .invalid →
    t.lexeme = String.ofList x.span

end Piece

/-- A token with a kind of its own stands for what its lexeme takes. -/
theorem Placed.lexeme_token {lexicon : Lexicon} {c : Char} {rest : List Char} {p : Position}
    (hstring : (Placed.mk (read lexicon c rest) p).token.kind ≠ .string)
    (hcharacter : (Placed.mk (read lexicon c rest) p).token.kind ≠ .character)
    (hinvalid : (Placed.mk (read lexicon c rest) p).token.kind ≠ .invalid) :
    (Placed.mk (read lexicon c rest) p).token.lexeme =
      String.ofList ((c :: rest).take (read lexicon c rest).width) := by
  rw [token] at hstring hcharacter hinvalid ⊢
  cases hverdict : (read lexicon c rest).verdict with
  | token kind code? =>
    simp only [hverdict] at hstring hcharacter ⊢
    rw [standsForItself_read hverdict hstring hcharacter]
  | malformed problem =>
    simp only [hverdict] at hinvalid
    exact absurd rfl hinvalid

namespace Reading

theorem accounts {gap : List Char} {c : Char} {rest : List Char} (hgap : Gap false gap)
    (hstart : Starts c rest) (lexicon : Lexicon) (before : List Char) :
    Piece.Accounts ⟨gap, (c :: rest).take (read lexicon c rest).width⟩ before
      (Placed.mk (read lexicon c rest)
        (((Position.start.afterText before).afterText gap).after c)).token := by
  have hpos := width_read_pos lexicon c rest
  obtain ⟨n, hn⟩ : ∃ n, (read lexicon c rest).width = n + 1 := ⟨_, (Nat.sub_add_cancel hpos).symm⟩
  have hspan : (c :: rest).take (read lexicon c rest).width = c :: rest.take n := by
    rw [hn, List.take_succ_cons]
  have hnewline := newline_notMem_take hstart.ne_newline lexicon rest
  refine ⟨hgap, ?_, hnewline, ?_, ?_, ?_, Placed.lexeme_token⟩
  · rw [hspan]
    exact List.cons_ne_nil _ _
  · rw [hspan]
    intro d hd
    rw [← Option.some.inj hd]
    exact hstart.1
  · rw [hspan]
    rintro ⟨tail, htail⟩
    obtain ⟨hc, hrest⟩ := List.cons.inj htail
    refine hstart.2 ⟨hc.symm, ?_⟩
    have hhead : (rest.take n).head? = some '/' := by
      rw [← hrest]
      rfl
    rw [List.head?_take] at hhead
    split at hhead
    · cases hhead
    · exact hhead
  · rw [Placed.position_token, ← Position.afterText_append,
      Position.start_afterText_after hstart.ne_newline]

theorem exists_pieces {lexicon : Lexicon} {p : Position} {text : List Char} {found : List Placed}
    (h : Reading lexicon p text found) (before : List Char)
    (hp : p = Position.start.afterText before) :
    ∃ (pieces : List Piece) (last : List Char),
      text = pieces.flatMap Piece.text ++ last ∧ Gap true last ∧
      pieces.length = found.length ∧
      ∀ (i : Nat) (piece : Piece) (x : Placed), pieces[i]? = some piece → found[i]? = some x →
        piece.Accounts (before ++ (pieces.take i).flatMap Piece.text) x.token := by
  induction h generalizing before with
  | @gap p gap hgap =>
    refine ⟨[], gap, rfl, hgap, rfl, ?_⟩
    intro i piece x hpiece
    cases hpiece
  | @lexeme p gap c rest later hgap hstart hlater ih =>
    subst hp
    generalize hfirst : Piece.mk gap ((c :: rest).take (read lexicon c rest).width) = first
    have htext : gap ++ (c :: rest).take (read lexicon c rest).width = first.text := by
      rw [← hfirst]
      rfl
    rw [htext] at ih
    obtain ⟨pieces, last, hpieces, hlast, hlength, haccounts⟩ :=
      ih (before ++ first.text) (Position.afterText_append _ _ _).symm
    refine ⟨first :: pieces, last, ?_, hlast, ?_, ?_⟩
    · rw [List.flatMap_cons, List.append_assoc, ← hpieces, ← htext, List.append_assoc,
        List.take_append_drop]
    · rw [List.length_cons, List.length_cons, hlength]
    · intro i piece x hpiece hx
      cases i with
      | zero =>
        rw [← Option.some.inj hpiece, ← Option.some.inj hx, List.take_zero, List.flatMap_nil,
          List.append_nil, ← hfirst]
        exact accounts hgap hstart lexicon before
      | succ i =>
        have h := haccounts i piece x hpiece hx
        rwa [List.append_assoc, ← List.flatMap_cons] at h

end Reading

/-- Every text is made of a piece for each of its tokens, in order, and a last
gap. -/
theorem exists_layout (text : String) (capacity : Nat) :
    ∃ (pieces : List Piece) (last : List Char),
      text.toList = pieces.flatMap Piece.text ++ last ∧ Gap true last ∧
      pieces.length = (tokenize text capacity).1.length ∧
      ∀ (i : Nat) (piece : Piece) (t : Token),
        pieces[i]? = some piece → (tokenize text capacity).1[i]? = some t →
        piece.Accounts ((pieces.take i).flatMap Piece.text) t := by
  obtain ⟨found, h⟩ := exists_reading .standard .start text.toList
  obtain ⟨pieces, last, htext, hlast, hlength, haccounts⟩ := h.exists_pieces [] rfl
  rw [tokens_of_reading h]
  refine ⟨pieces, last, htext, hlast, ?_, ?_⟩
  · rw [hlength, List.length_map]
  · intro i piece t hpiece ht
    rw [List.getElem?_map] at ht
    obtain ⟨x, hx, rfl⟩ := Option.map_eq_some_iff.mp ht
    exact haccounts i piece x hpiece hx

end LexicalFrontEnd
