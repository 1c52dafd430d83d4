import LexicalFrontEnd.Proofs.Lexeme.Ended
import LexicalFrontEnd.Proofs.Lexeme.Unclosed
import LexicalFrontEnd.Proofs.Lines
import Mathlib.Data.List.Forall2

/-!
The style of line endings does not matter.

A carriage return before every newline adds white space to the gaps between
lexemes and moves no place (`afterText_withReturns`).  Inside a lexeme it can only
stand where a literal is cut off by the end of its line, and there it becomes the
last character of the literal (`read_withReturns`).  The tokens of a text and its
reports are therefore the same with either style, except for that character
(`tokenize_withReturns`).
-/

namespace LexicalFrontEnd

open Lexeme

def withReturns (text : List Char) : List Char :=
  text.flatMap fun c => if c = '\n' then ['\r', '\n'] else [c]

theorem withReturns_append (s t : List Char) :
    withReturns (s ++ t) = withReturns s ++ withReturns t :=
  List.flatMap_append

theorem withReturns_newline (text : List Char) :
    withReturns ('\n' :: text) = '\r' :: '\n' :: withReturns text := rfl

theorem withReturns_cons {c : Char} (hc : c ≠ '\n') (text : List Char) :
    withReturns (c :: text) = c :: withReturns text := by
  rw [withReturns, List.flatMap_cons, if_neg hc]
  rfl

theorem withReturns_line {line : List Char} (h : '\n' ∉ line) : withReturns line = line := by
  induction line with
  | nil => rfl
  | cons c line ih =>
    rw [List.mem_cons, not_or] at h
    rw [withReturns_cons (Ne.symm h.1), ih h.2]

/-- A carriage return takes a column, but the newline behind it starts the next
line all the same. -/
theorem Position.afterText_withReturns (p : Position) (text : List Char) :
    p.afterText (withReturns text) = p.afterText text := by
  induction text generalizing p with
  | nil => rfl
  | cons c text ih =>
    by_cases hc : c = '\n'
    · subst hc
      exact ih _
    · rw [withReturns_cons hc]
      exact ih _

/-! ## Gaps and starts -/

namespace Lexeme

theorem Gap.withReturns {atEnd : Bool} {gap : List Char} (h : Gap atEnd gap) :
    Gap atEnd (withReturns gap) := by
  induction h with
  | nil => exact .nil
  | @blank c gap hc _ ih =>
    by_cases hnewline : c = '\n'
    · subst hnewline
      exact .blank (by decide) (.blank hc ih)
    · rw [withReturns_cons hnewline]
      exact .blank hc ih
  | @comment body gap hbody hend _ ih =>
    have hslashes : '\n' ∉ '/' :: '/' :: body := by
      rw [List.mem_cons, not_or, List.mem_cons, not_or]
      exact ⟨by decide, by decide, hbody⟩
    rw [withReturns_append, withReturns_line hslashes]
    rcases hend with hnewline | ⟨hatEnd, rfl⟩
    · -- The carriage return belongs to the comment.
      obtain ⟨gap, rfl⟩ := List.head?_eq_some_iff.mp hnewline
      rw [withReturns_newline] at ih ⊢
      have hgap : Gap atEnd ('\n' :: LexicalFrontEnd.withReturns gap) := by
        cases ih with
        | blank _ h => exact h
      have h := Gap.comment (Literal.newline_notMem_return hbody) (Or.inl rfl) hgap
      rwa [← List.cons_append, ← List.cons_append, List.append_assoc] at h
    · exact .comment hbody (Or.inr ⟨hatEnd, rfl⟩) .nil

theorem Starts.withReturns {c : Char} {rest : List Char} (h : Starts c rest) :
    Starts c (withReturns rest) := by
  refine ⟨h.1, fun hslash => h.2 ⟨hslash.1, ?_⟩⟩
  have hhead := hslash.2
  cases rest with
  | nil => exact hhead
  | cons d rest =>
    by_cases hd : d = '\n'
    · subst hd
      rw [withReturns_newline, List.head?_cons, Option.some.injEq] at hhead
      exact absurd hhead (by decide)
    · rwa [withReturns_cons hd] at hhead

/-! ## Lexemes -/

/-- A lexeme is the same with a carriage return before the newline that ends its
line, or it is a literal that this newline cuts off. -/
theorem read_line (lexicon : Lexicon) (c : Char) {line : List Char} (hline : '\n' ∉ line) :
    (∀ behind behind', read lexicon c (line ++ '\r' :: '\n' :: behind') =
      read lexicon c (line ++ '\n' :: behind)) ∨
    ((c = '"' ∨ c = '\'') ∧ Literal.Unclosed c line ∧
      Literal.CutByLine (read lexicon c) line) := by
  by_cases hstring : c = '"'
  · subst hstring
    rw [funext (read_string lexicon)]
    rcases Literal.closed_or_unclosed '"' line with h | h
    · left
      intro behind behind'
      rw [Literal.readString_closed h hline, Literal.readString_closed h hline]
    · exact Or.inr ⟨Or.inl rfl, h, Literal.readString_unclosed h hline⟩
  · by_cases hcharacter : c = '\''
    · subst hcharacter
      rw [funext (read_character lexicon)]
      rcases Literal.closed_or_unclosed '\'' line with h | h
      · left
        intro behind behind'
        rw [Literal.readCharacter_closed h hline, Literal.readCharacter_closed h hline]
      · exact Or.inr ⟨Or.inr rfl, h, Literal.readCharacter_unclosed h hline⟩
    · left
      intro behind behind'
      rw [read_append_delimited hstring hcharacter (.cons (by decide) _),
        read_append_delimited hstring hcharacter (.cons isBlank_newline _)]

theorem read_withReturns (lexicon : Lexicon) (c : Char) (rest : List Char) :
    read lexicon c (withReturns rest) = read lexicon c rest ∨
    ∃ line behind, rest = line ++ '\n' :: behind ∧ '\n' ∉ line ∧ (c = '"' ∨ c = '\'') ∧
      Literal.Unclosed c line ∧ Literal.CutByLine (read lexicon c) line := by
  obtain ⟨line, tail, rfl, hline, htail⟩ := exists_line rest
  rw [withReturns_append, withReturns_line hline]
  rcases htail with hnewline | rfl
  · obtain ⟨behind, rfl⟩ := List.head?_eq_some_iff.mp hnewline
    rcases read_line lexicon c hline with hsame | ⟨hquote, hunclosed, hcut⟩
    · exact Or.inl (hsame behind _)
    · exact Or.inr ⟨line, behind, rfl, hline, hquote, hunclosed, hcut⟩
  · exact Or.inl rfl

end Lexeme

/-! ## Readings -/

/-- A literal starts at the place, and the end of its line cuts it off. -/
def CutOff (text : List Char) (start : Position) : Prop :=
  ∃ before quote line behind, text = before ++ quote :: line ++ '\n' :: behind ∧
    (quote = '"' ∨ quote = '\'') ∧ '\n' ∉ line ∧ Literal.Unclosed quote line ∧
    start = .following before

theorem Diagnostic.create_of_not_quotesLexeme {problem : Problem} (h : quotesLexeme problem = false)
    {t t' : Token} (hposition : t'.position = t.position) :
    create problem t' none = create problem t none := by
  have hmessage (lexeme : String) : messageFor problem lexeme none = problem.title := by
    simp [messageFor, h]
  rw [create, create, hmessage, hmessage, hposition]

namespace Placed

/-- The same lexeme with either style of line endings: a literal of the text that
the end of its line cuts off has a carriage return more. -/
inductive SameButReturn (text : List Char) : Placed → Placed → Prop
  | same (x : Placed) : SameButReturn text x x
  | cut {problem : Problem} {taken : List Char} {width : Nat} {start : Position} :
    Diagnostic.quotesLexeme problem = false → CutOff text start →
      SameButReturn text ⟨⟨.malformed problem, taken, width⟩, start⟩
        ⟨⟨.malformed problem, taken ++ ['\r'], width + 1⟩, start⟩

theorem SameButReturn.complaint?_eq {text : List Char} {x x' : Placed}
    (h : SameButReturn text x x') : x'.complaint? = x.complaint? := by
  cases h with
  | same => rfl
  | @cut problem taken width start hproblem _ =>
    exact congrArg some (Diagnostic.create_of_not_quotesLexeme hproblem rfl)

end Placed

section

variable {lexicon : Lexicon} {p : Position} {whole gap rest back line behind : List Char}
  {c quote : Char}

theorem Reading.lexeme_append {lexeme : Lexeme} {later : List Placed} (hgap : Gap false gap)
    (hstart : Starts c rest) (front : List Char) (htext : c :: rest = front ++ back)
    (hread : read lexicon c rest = lexeme) (hwidth : front.length = lexeme.width)
    (hlater : Reading lexicon (p.afterText (gap ++ front)) back later) :
    Reading lexicon p (gap ++ c :: rest) (⟨lexeme, (p.afterText gap).after c⟩ :: later) := by
  subst hread
  refine .lexeme hgap hstart ?_
  rwa [htext, ← hwidth, List.take_left, List.drop_left]

theorem Reading.newline {text : List Char} {found : List Placed}
    (h : Reading lexicon (p.afterText ['\n']) text found) :
    Reading lexicon p ('\n' :: text) found :=
  gap_append (.blank isBlank_newline .nil) h

def ReadAlike (lexicon : Lexicon) (whole : List Char) (p : Position) (text : List Char) : Prop :=
  ∃ found found', Reading lexicon p text found ∧ Reading lexicon p (withReturns text) found' ∧
    List.Forall₂ (Placed.SameButReturn whole) found found'

theorem readAlike_gap (h : Gap true gap) : ReadAlike lexicon whole p gap :=
  ⟨[], [], .gap h, .gap h.withReturns, .nil⟩

/-- A lexeme that is the same with either style leads from texts that are read
alike to texts that are. -/
theorem readAlike_same (hgap : Gap false gap) (hstart : Starts c rest)
    (hsame : read lexicon c (withReturns rest) = read lexicon c rest)
    (h : ReadAlike lexicon whole
      (p.afterText (gap ++ (c :: rest).take (read lexicon c rest).width))
      ((c :: rest).drop (read lexicon c rest).width)) :
    ReadAlike lexicon whole p (gap ++ c :: rest) := by
  obtain ⟨found, found', hfound, hfound', hrel⟩ := h
  have hc := hstart.ne_newline
  have htext : c :: withReturns rest = (c :: rest).take (read lexicon c rest).width ++
      withReturns ((c :: rest).drop (read lexicon c rest).width) := by
    rw [← withReturns_cons hc, ← withReturns_line (newline_notMem_take hc lexicon rest),
      ← withReturns_append, List.take_append_drop]
  rw [Position.afterText_append, ← Position.afterText_withReturns p gap,
    ← Position.afterText_append] at hfound'
  have hfirst := Reading.lexeme hgap hstart hfound
  have hsecond := Reading.lexeme_append hgap.withReturns hstart.withReturns _ htext hsame
    (length_take_read lexicon c rest) hfound'
  rw [Position.afterText_withReturns] at hsecond
  refine ⟨_, _, hfirst, ?_, .cons (.same _) hrel⟩
  rwa [withReturns_append, withReturns_cons hc]

/-- So does a literal that the end of its line cuts off. -/
theorem readAlike_cut (hgap : Gap false gap) (hstart : Starts quote (line ++ '\n' :: behind))
    (hline : '\n' ∉ line) (hcut : Literal.CutByLine (read lexicon quote) line)
    (hwhole : CutOff whole ((p.afterText gap).after quote))
    (h : ReadAlike lexicon whole (p.afterText (gap ++ quote :: line ++ ['\n'])) behind) :
    ReadAlike lexicon whole p (gap ++ quote :: (line ++ '\n' :: behind)) := by
  obtain ⟨found, found', hfound, hfound', hrel⟩ := h
  obtain ⟨problem, taken, hproblem, hread⟩ := hcut
  have hquote := hstart.ne_newline
  -- The newline behind the literal starts a gap, which leads to the same place.
  have hplace : (p.afterText (withReturns gap ++ (quote :: line ++ ['\r']))).afterText ['\n'] =
      p.afterText (gap ++ quote :: line ++ ['\n']) := by
    rw [← Position.afterText_withReturns p (gap ++ quote :: line ++ ['\n']), withReturns_append,
      withReturns_append, withReturns_cons hquote, withReturns_line hline,
      ← Position.afterText_append]
    simp [withReturns]
  rw [← hplace] at hfound'
  rw [Position.afterText_append] at hfound
  have htext' := Literal.append_return (quote :: line) (withReturns behind)
  have hrest : withReturns (line ++ '\n' :: behind) =
      line ++ '\r' :: '\n' :: withReturns behind := by
    rw [withReturns_append, withReturns_line hline, withReturns_newline]
  have hstart' := hstart.withReturns
  rw [hrest] at hstart'
  have hwidth' : (quote :: line ++ ['\r']).length = line.length + 2 := List.length_append
  have hfirst := Reading.lexeme_append hgap hstart (quote :: line) rfl (hread behind).1 rfl
    hfound.newline
  have hsecond := Reading.lexeme_append hgap.withReturns hstart' _ htext' (hread _).2 hwidth'
    hfound'.newline
  rw [Position.afterText_withReturns] at hsecond
  refine ⟨_, _, hfirst, ?_, .cons (.cut hproblem hwhole) hrel⟩
  rw [withReturns_append, withReturns_cons hquote, hrest]
  exact hsecond

end

/-- Every text is read in the same way with either style of line endings. -/
theorem readAlike (lexicon : Lexicon) (passed text : List Char) :
    ReadAlike lexicon (passed ++ text) (Position.start.afterText passed) text := by
  -- On the length: the text behind a lexeme is shorter.
  induction hn : text.length using Nat.strongRecOn generalizing passed text with
  | ind n ih =>
    rcases gap_or_start text with hgap | ⟨gap, c, rest, rfl, hgap, hstart⟩
    · exact readAlike_gap hgap
    · rw [List.length_append, List.length_cons] at hn
      rcases read_withReturns lexicon c rest with hsame |
        ⟨line, behind, rfl, hline, hquote, hunclosed, hcut⟩
      · have hlater := ih ((c :: rest).drop (read lexicon c rest).width).length ?_
          (passed ++ (gap ++ (c :: rest).take (read lexicon c rest).width)) _ rfl
        · rw [List.append_assoc, List.append_assoc, List.take_append_drop,
            Position.afterText_append] at hlater
          exact readAlike_same hgap hstart hsame hlater
        · have hpos := width_read_pos lexicon c rest
          rw [List.length_drop, List.length_cons]
          omega
      · have hlater := ih behind.length ?_ (passed ++ (gap ++ c :: line ++ ['\n'])) _ rfl
        · have htext : passed ++ (gap ++ c :: line ++ ['\n']) ++ behind =
              passed ++ (gap ++ c :: (line ++ '\n' :: behind)) := by
            simp
          rw [htext, Position.afterText_append] at hlater
          refine readAlike_cut hgap hstart hline hcut ?_ hlater
          refine ⟨passed ++ gap, c, line, behind, by simp, hquote, hline, hunclosed, ?_⟩
          rw [← Position.afterText_append, Position.start_afterText_after hstart.ne_newline]
        · rw [List.length_append, List.length_cons] at hn
          omega

/-! ## Tokens -/

/-- The same token with either style of line endings.  Its lexeme gains a carriage
return only if it is an invalid literal that the end of its line cuts off. -/
structure Token.SameButReturn (text : List Char) (t t' : Token) : Prop where
  kind : t'.kind = t.kind
  code? : t'.code? = t.code?
  position : t'.position = t.position
  lexeme : t'.lexeme = t.lexeme ∨
    t.kind = .invalid ∧ CutOff text t.position ∧ t'.lexeme = t.lexeme ++ "\r"

theorem Placed.SameButReturn.token {text : List Char} {x x' : Placed}
    (h : SameButReturn text x x') : x.token.SameButReturn text x'.token := by
  cases h with
  | same => exact ⟨rfl, rfl, rfl, Or.inl rfl⟩
  | cut _ hcut => exact ⟨rfl, rfl, rfl, Or.inr ⟨rfl, hcut, String.ofList_append⟩⟩

theorem complaints_eq {text : List Char} {found found' : List Placed}
    (h : List.Forall₂ (Placed.SameButReturn text) found found') :
    found'.filterMap Placed.complaint? = found.filterMap Placed.complaint? := by
  induction h with
  | nil => rfl
  | cons hx _ ih => rw [List.filterMap_cons, List.filterMap_cons, hx.complaint?_eq, ih]

/-- With a carriage return before every newline, tokenizing brings as many tokens,
each of them the same but for a carriage return at the end of a literal that is
cut off, and the same reports. -/
theorem tokenize_withReturns (text : String) (capacity : Nat) :
    let returned := String.ofList (withReturns text.toList)
    List.Forall₂ (Token.SameButReturn text.toList)
        (tokenize text capacity).1 (tokenize returned capacity).1 ∧
      (tokenize returned capacity).2.toList = (tokenize text capacity).2.toList := by
  intro returned
  obtain ⟨found, found', hfound, hfound', hrel⟩ := readAlike .standard [] text.toList
  have hreturned : returned.toList = withReturns text.toList := String.toList_ofList
  rw [← hreturned] at hfound'
  constructor
  · rw [tokens_of_reading hfound, tokens_of_reading hfound', List.forall₂_map_left_iff,
      List.forall₂_map_right_iff]
    exact hrel.imp fun _ _ hx => hx.token
  · rw [log_of_reading hfound, log_of_reading hfound', complaints_eq hrel]

end LexicalFrontEnd
