import LexicalFrontEnd.Proofs.Output.Sink
import LexicalFrontEnd.Proofs.Rendering
import LexicalFrontEnd.Proofs.Text.Longest
import LexicalFrontEnd.Proofs.Text.Quoted

/-!
A listing tells its tokens.

Each token has a line of its own, and no line holds a newline but the one that ends
it, so a listing has as many newlines as tokens.  The line of a token can be read
back field by field, and two listings with the same text are listings of the same
tokens (`Listing.lines_unambiguous`).  Nothing of this depends on which characters of
a lexeme show by themselves.
-/

namespace LexicalFrontEnd

open Text Quoted

/-! ## One line -/

namespace TokenKind

theorem label_inj {k k' : TokenKind} (h : k.label.toList = k'.label.toList) : k = k' := by
  revert h
  cases k <;> cases k' <;> decide

theorem blank_notMem_label (k : TokenKind) : ' ' ∉ k.label.toList := by
  cases k <;> decide

theorem newline_notMem_label (k : TokenKind) : '\n' ∉ k.label.toList := by
  cases k <;> decide

end TokenKind

namespace Token

/-- A line of a token, without the newline behind it, in which any characters of the
lexeme may be written by their numbers. -/
def IsLine (t : Token) (line : List Char) : Prop :=
  ∃ quoted, Quotes t.lexeme.toList quoted ∧ line = t.heading ++ quoted

variable {t u : Token} {line line' rest rest' : List Char}

theorem decimal_inj {m n : Nat} (h : Nat.toDigits 10 m = Nat.toDigits 10 n) : m = n :=
  toDigits_inj (by decide) (by decide) h

/-- Behind the code of a token, or in its place, stands the quote of the lexeme. -/
theorem codeText_inj {code? code'? : Option Nat}
    (h : codeText code? ++ '"' :: rest = codeText code'? ++ '"' :: rest') :
    code? = code'? ∧ rest = rest' := by
  have hblank (n : Nat) := notMem_decimal (c := ' ') (by decide) n
  have hne {n : Nat} {more more' : List Char} :
      codeText (some n) ++ more ≠ '"' :: more' := by
    intro heq
    obtain ⟨d, digits, hdigits⟩ := List.exists_cons_of_ne_nil (Nat.toDigits_ne_nil (n := n) (b := 10))
    have hquote := notMem_decimal (c := '"') (by decide) n
    rw [hdigits] at hquote
    rw [codeText, hdigits] at heq
    exact List.ne_of_not_mem_cons hquote (List.cons.inj heq).1.symm
  cases code? with
  | none =>
    cases code'? with
    | none => exact ⟨rfl, (List.cons.inj h).2⟩
    | some code' => exact absurd h.symm hne
  | some code =>
    cases code'? with
    | none => exact absurd h hne
    | some code' =>
      simp only [codeText, List.append_assoc, List.singleton_append] at h
      obtain ⟨hdigits, hrest⟩ := append_cons_inj (hblank code) (hblank code') h
      exact ⟨congrArg some (decimal_inj hdigits), (List.cons.inj hrest).2⟩

/-- All fields but the lexeme are read back from what stands before the lexeme. -/
theorem heading_inj (h : t.heading ++ '"' :: rest = u.heading ++ '"' :: rest') :
    t.position = u.position ∧ t.kind = u.kind ∧ t.code? = u.code? ∧ rest = rest' := by
  have hcolon (n : Nat) := notMem_decimal (c := ':') (by decide) n
  have hblank (n : Nat) := notMem_decimal (c := ' ') (by decide) n
  simp only [heading, List.cons_append, List.append_assoc, List.cons.injEq, true_and] at h
  obtain ⟨hline, h⟩ := append_cons_inj (hcolon _) (hcolon _) h
  obtain ⟨hcolumn, h⟩ := append_cons_inj (hblank _) (hblank _) h
  obtain ⟨hlabel, h⟩ := append_cons_inj (TokenKind.blank_notMem_label _)
    (TokenKind.blank_notMem_label _) h
  obtain ⟨hcode, hrest⟩ := codeText_inj h
  have hposition : t.position = u.position := by
    rw [Position.mk.injEq]
    exact ⟨decimal_inj hline, decimal_inj hcolumn⟩
  exact ⟨hposition, TokenKind.label_inj hlabel, hcode, hrest⟩

/-- A token is read back from its line, whatever follows the line. -/
theorem IsLine.inj (h : t.IsLine line) (h' : u.IsLine line')
    (heq : line ++ rest = line' ++ rest') : t = u ∧ rest = rest' := by
  obtain ⟨quoted, hquotes, rfl⟩ := h
  obtain ⟨quoted', hquotes', rfl⟩ := h'
  obtain ⟨more, hmore⟩ := hquotes.exists_more
  obtain ⟨more', hmore'⟩ := hquotes'.exists_more
  rw [List.append_assoc, List.append_assoc, hmore, hmore', List.cons_append, List.cons_append] at heq
  obtain ⟨hposition, hkind, hcode, htail⟩ := heading_inj heq
  have hquoted : quoted ++ rest = quoted' ++ rest' := by
    rw [hmore, hmore', List.cons_append, List.cons_append, htail]
  obtain ⟨hlexeme, hrest⟩ := hquotes.inj hquotes' hquoted
  obtain ⟨lexeme, kind, code?, position⟩ := t
  obtain ⟨lexeme', kind', code'?, position'⟩ := u
  rw [Token.mk.injEq]
  exact ⟨⟨String.toList_inj.mp hlexeme, hkind, hcode, hposition⟩, hrest⟩

theorem IsLine.newline_notMem (h : t.IsLine line) : '\n' ∉ line := by
  obtain ⟨quoted, hquotes, rfl⟩ := h
  have hdigits (n : Nat) := notMem_decimal (c := '\n') (by decide) n
  have hlabel := t.kind.newline_notMem_label
  have hcode : '\n' ∉ codeText t.code? := by
    cases t.code? with
    | none => exact List.not_mem_nil
    | some code => simp [codeText, hdigits]
  simp [heading, hdigits, hlabel, hcode, hquotes.newline_notMem]

theorem isLine_line (t : Token) :
    ∃ front, t.IsLine front ∧ (Listing.line t).toList = front ++ ['\n'] :=
  ⟨_, ⟨_, quotes_encode _, rfl⟩, t.toList_line⟩

end Token

/-! ## Whole listings -/

namespace Listing

inductive Lists : List Token → List Char → Prop
  | nil : Lists [] []
  | cons {t : Token} {front : List Char} {tokens : List Token} {text : List Char} :
    t.IsLine front → Lists tokens text → Lists (t :: tokens) (front ++ '\n' :: text)

def textOf (tokens : List Token) : List Char := tokens.flatMap fun t => (line t).toList

theorem bytesOf_lines (tokens : List Token) :
    Output.bytesOf (tokens.map line) = Utf8.encode (textOf tokens) := by
  simp only [Output.bytesOf, Utf8.encode, textOf, List.flatMap_map, List.flatMap_assoc]

theorem lists_textOf (tokens : List Token) : Lists tokens (textOf tokens) := by
  induction tokens with
  | nil => exact .nil
  | cons t tokens ih =>
    obtain ⟨front, hfront, htext⟩ := t.isLine_line
    rw [textOf, List.flatMap_cons, htext, List.append_assoc]
    exact .cons hfront ih

variable {tokens tokens' : List Token} {text : List Char}

theorem Lists.count_newline (h : Lists tokens text) : text.count '\n' = tokens.length := by
  induction h with
  | nil => rfl
  | cons hfront _ ih =>
    rw [List.count_append, List.count_eq_zero.mpr hfront.newline_notMem, List.count_cons_self, ih,
      List.length_cons, Nat.zero_add]

/-- Every line of a listing ends where its newline is, and the token is read back from
what stands before. -/
theorem Lists.inj {text' : List Char} (h : Lists tokens text) (h' : Lists tokens' text')
    (heq : text = text') : tokens = tokens' := by
  induction h generalizing tokens' text' with
  | nil =>
    cases h' with
    | nil => rfl
    | cons _ _ => exact absurd heq.symm (List.append_ne_nil_of_right_ne_nil _ (List.cons_ne_nil _ _))
  | cons hfront _ ih =>
    cases h' with
    | nil => exact absurd heq (List.append_ne_nil_of_right_ne_nil _ (List.cons_ne_nil _ _))
    | cons hfront' hrest' =>
      obtain ⟨rfl, hrest⟩ := hfront.inj hfront' heq
      rw [ih hrest' (List.cons.inj hrest).2]

theorem Lists.exists_lines (h : Lists tokens text) :
    ∃ fronts : List (List Char), fronts.length = tokens.length ∧
      (∀ front ∈ fronts, '\n' ∉ front) ∧ text = fronts.flatMap (· ++ ['\n']) := by
  induction h with
  | nil => exact ⟨[], rfl, fun _ h => absurd h List.not_mem_nil, rfl⟩
  | @cons t front tokens text hfront _ ih =>
    obtain ⟨fronts, hlength, hnewline, rfl⟩ := ih
    refine ⟨front :: fronts, congrArg (· + 1) hlength, ?_, ?_⟩
    · exact List.forall_mem_cons.mpr ⟨hfront.newline_notMem, hnewline⟩
    · rw [List.flatMap_cons, List.append_assoc]
      rfl

/-- The lines of tokens are a listing of them.  Whichever characters are written by
their numbers, a listing has one newline for each token, at the end of its line, and
lists no other tokens; so the bytes of the lines tell the tokens in every field. -/
theorem lines_unambiguous :
    (∀ tokens, Output.bytesOf (tokens.map line) = Utf8.encode (textOf tokens) ∧
      Lists tokens (textOf tokens)) ∧
    (∀ tokens text, Lists tokens text →
      text.count '\n' = tokens.length ∧
      ∃ fronts : List (List Char), fronts.length = tokens.length ∧
        (∀ front ∈ fronts, '\n' ∉ front) ∧ text = fronts.flatMap (· ++ ['\n'])) ∧
    (∀ tokens tokens' text, Lists tokens text → Lists tokens' text → tokens = tokens') ∧
    ∀ tokens tokens' : List Token,
      Output.bytesOf (tokens.map line) = Output.bytesOf (tokens'.map line) ↔ tokens = tokens' := by
  refine ⟨fun tokens => ⟨bytesOf_lines tokens, lists_textOf tokens⟩,
    fun _ _ h => ⟨h.count_newline, h.exists_lines⟩, fun _ _ _ h h' => h.inj h' rfl,
    fun tokens tokens' => ⟨fun h => ?_, fun h => by rw [h]⟩⟩
  rw [bytesOf_lines, bytesOf_lines] at h
  exact (lists_textOf tokens).inj (lists_textOf tokens') (Utf8.encode_inj h)

/-- A lexeme that reads like the end of one line and the beginning of another. -/
example : textOf [⟨"a\"\n  2:1 Char \"b", .string, none, ⟨1, 1⟩⟩] =
    "  1:1 String \"a\\\"\\n  2:1 Char \\\"b\"\n".toList := by decide +kernel

end Listing

end LexicalFrontEnd
