import LexicalFrontEnd.Diagnostic.Basic
import LexicalFrontEnd.Proofs.Lexeme.Literal

/-!
Literals and the ends of their lines.

A line closes a literal, or the literal is cut off where the line ends; a
backslash takes the character after it along, so `Closed` and `Unclosed` go by
the same steps as the readers do.  A literal that is closed on its line does not
depend on what follows the line.  One that is not takes the rest of the line, a
carriage return before the newline included, and has the same problem with it
and without (`CutByLine`).
-/

namespace LexicalFrontEnd

theorem Escape.ne_of_decode?_eq_none {letter : Char} (h : decode? letter = none) :
    letter ≠ '"' ∧ letter ≠ '\'' ∧ letter ≠ '\\' := by
  refine ⟨?_, ?_, ?_⟩
  all_goals
    rintro rfl
    cases h

namespace Lexeme
namespace Literal

/-- The quote closes a literal on the rest of its line. -/
inductive Closed (quote : Char) : List Char → Prop
  | quote {rest : List Char} : Closed quote (quote :: rest)
  | raw {c : Char} {rest : List Char} :
    c ≠ quote → c ≠ '\\' → Closed quote rest → Closed quote (c :: rest)
  | escape {c : Char} {rest : List Char} : Closed quote rest → Closed quote ('\\' :: c :: rest)

/-- No quote closes a literal on the rest of its line. -/
inductive Unclosed (quote : Char) : List Char → Prop
  | nil : Unclosed quote []
  | backslash : Unclosed quote ['\\']
  | raw {c : Char} {rest : List Char} :
    c ≠ quote → c ≠ '\\' → Unclosed quote rest → Unclosed quote (c :: rest)
  | escape {c : Char} {rest : List Char} : Unclosed quote rest → Unclosed quote ('\\' :: c :: rest)

theorem closed_or_unclosed (quote : Char) (line : List Char) :
    Closed quote line ∨ Unclosed quote line := by
  -- On the length, because a backslash takes two characters at once.
  induction hn : line.length using Nat.strongRecOn generalizing line with
  | ind n ih =>
    cases line with
    | nil => exact Or.inr .nil
    | cons c line =>
      rw [List.length_cons] at hn
      by_cases hq : c = quote
      · subst hq
        exact Or.inl .quote
      · by_cases hb : c = '\\'
        · subst hb
          cases line with
          | nil => exact Or.inr .backslash
          | cons d line =>
            rw [List.length_cons] at hn
            exact (ih line.length (by omega) line rfl).imp .escape .escape
        · exact (ih line.length (by omega) line rfl).imp (.raw hq hb) (.raw hq hb)

section

variable {quote c : Char} {line more rest : List Char}

theorem Unclosed.concat (h : Unclosed quote line) (hq : c ≠ quote) (hb : c ≠ '\\') :
    Unclosed quote (line ++ [c]) := by
  induction h with
  | nil => exact .raw hq hb .nil
  | backslash => exact .escape .nil
  | raw hd hd' _ ih => exact .raw hd hd' ih
  | escape _ ih => exact .escape ih

theorem Unclosed.head?_ne (h : Unclosed quote line) (hq : quote ≠ '\\') (hn : quote ≠ '\n') :
    (line ++ '\n' :: rest).head? ≠ some quote := by
  intro hhead
  cases h with
  | nil => exact hn (Option.some.inj hhead).symm
  | backslash => exact hq (Option.some.inj hhead).symm
  | raw hc _ _ => exact hc (Option.some.inj hhead)
  | escape _ => exact hq (Option.some.inj hhead).symm

/-! ## Passing over the rest of a literal -/

theorem passOver_closed (h : Closed quote line) (hline : '\n' ∉ line) (hq : quote ≠ '\\')
    (hn : quote ≠ '\n') (passed more : List Char) :
    passOver quote passed (line ++ more) = passOver quote passed line := by
  induction h generalizing passed with
  | quote => rw [List.cons_append, passOver_quote hn hq, passOver_quote hn hq]
  | raw hc hb _ ih =>
    rw [List.mem_cons, not_or] at hline
    rw [List.cons_append, passOver_cons (Ne.symm hline.1) hc hb,
      passOver_cons (Ne.symm hline.1) hc hb, ih hline.2]
  | escape _ ih =>
    rw [List.mem_cons, not_or, List.mem_cons, not_or] at hline
    rw [List.cons_append, List.cons_append, passOver_backslash (Ne.symm hline.2.1),
      passOver_backslash (Ne.symm hline.2.1), ih hline.2.2]

theorem passOver_unclosed (h : Unclosed quote line) (hline : '\n' ∉ line)
    (passed rest : List Char) :
    passOver quote passed (line ++ '\n' :: rest) = (passed.reverse ++ line, .line) := by
  induction h generalizing passed with
  | nil => rw [List.nil_append, passOver_newline, List.append_nil]
  | backslash =>
    rw [List.cons_append, List.nil_append, passOver_backslash_newline, List.reverse_cons]
  | raw hc hb _ ih =>
    rw [List.mem_cons, not_or] at hline
    rw [List.cons_append, passOver_cons (Ne.symm hline.1) hc hb, ih hline.2, List.reverse_cons,
      List.append_assoc, List.singleton_append]
  | escape _ ih =>
    rw [List.mem_cons, not_or, List.mem_cons, not_or] at hline
    rw [List.cons_append, List.cons_append, passOver_backslash (Ne.symm hline.2.1), ih hline.2.2,
      List.reverse_cons, List.reverse_cons, List.append_assoc, List.append_assoc,
      List.singleton_append, List.singleton_append]

/-! ## Cut off with and without a carriage return -/

/-- The reader finds a literal that the end of its line cuts off.  The literal
takes all of the line, and a carriage return before the newline as well; its
problem is the same, and one whose report does not quote it. -/
def CutByLine (read : List Char → Lexeme) (line : List Char) : Prop :=
  ∃ problem text, Diagnostic.quotesLexeme problem = false ∧ ∀ rest,
    read (line ++ '\n' :: rest) = ⟨.malformed problem, text, line.length + 1⟩ ∧
    read (line ++ '\r' :: '\n' :: rest) = ⟨.malformed problem, text ++ ['\r'], line.length + 2⟩

/-- The carriage return before a newline is the last character of its line. -/
theorem append_return (line rest : List Char) :
    line ++ '\r' :: '\n' :: rest = line ++ ['\r'] ++ '\n' :: rest :=
  (List.append_assoc line ['\r'] ('\n' :: rest)).symm

theorem newline_notMem_return (h : '\n' ∉ line) : '\n' ∉ line ++ ['\r'] := by
  rw [List.mem_append, not_or]
  exact ⟨h, by decide⟩

theorem passOver_unclosed_return (h : Unclosed quote line) (hline : '\n' ∉ line)
    (hr : quote ≠ '\r') (passed rest : List Char) :
    passOver quote passed (line ++ '\r' :: '\n' :: rest) =
      (passed.reverse ++ (line ++ ['\r']), .line) := by
  rw [append_return]
  exact passOver_unclosed (h.concat hr.symm (by decide)) (newline_notMem_return hline) passed rest

/-! ## Strings -/

theorem body_closed (h : Closed '"' line) (hline : '\n' ∉ line) (taken : List Char) (width : Nat)
    (more : List Char) : body taken width (line ++ more) = body taken width line := by
  induction h generalizing taken width with
  | quote => rfl
  | raw hc hb _ ih =>
    rw [List.mem_cons, not_or] at hline
    rw [List.cons_append, body_cons hc (Ne.symm hline.1) hb, body_cons hc (Ne.symm hline.1) hb,
      ih hline.2]
  | @escape letter line h ih =>
    rw [List.mem_cons, not_or] at hline
    cases hletter : Escape.decode? letter with
    | some c =>
      rw [List.cons_append, List.cons_append, body_escape hletter, body_escape hletter,
        ih (List.not_mem_of_not_mem_cons hline.2)]
    | none =>
      obtain ⟨hq, -, hb⟩ := Escape.ne_of_decode?_eq_none hletter
      have hpassed := passOver_closed (.raw hq hb h) hline.2 (by decide) (by decide) [] more
      rw [List.cons_append, List.cons_append, body_unknown hletter, body_unknown hletter,
        ← List.cons_append, hpassed]

theorem body_unclosed (h : Unclosed '"' line) (hline : '\n' ∉ line) (taken : List Char)
    (width : Nat) :
    ∃ problem text, Diagnostic.quotesLexeme problem = false ∧ ∀ rest,
      body taken width (line ++ '\n' :: rest) = ⟨text, width + line.length, some problem⟩ ∧
      body taken width (line ++ '\r' :: '\n' :: rest) =
        ⟨text ++ ['\r'], width + line.length + 1, some problem⟩ := by
  induction h generalizing taken width with
  | nil =>
    refine ⟨.unclosedString, taken.reverse, rfl, fun rest => ⟨rfl, ?_⟩⟩
    rw [← List.reverse_cons]
    rfl
  | backslash =>
    refine ⟨.unknownEscape, taken.reverse ++ ['\\'], rfl, fun rest => ⟨rfl, ?_⟩⟩
    rw [List.append_assoc]
    rfl
  | @raw c line hc hb _ ih =>
    rw [List.mem_cons, not_or] at hline
    obtain ⟨problem, text, hproblem, hread⟩ := ih hline.2 (c :: taken) (width + 1)
    refine ⟨problem, text, hproblem, fun rest => ?_⟩
    rw [List.length_cons, Nat.add_comm line.length, ← Nat.add_assoc, List.cons_append,
      List.cons_append, body_cons hc (Ne.symm hline.1) hb, body_cons hc (Ne.symm hline.1) hb]
    exact hread rest
  | @escape letter line h ih =>
    rw [List.mem_cons, not_or] at hline
    have hlength (n : Nat) : n + ('\\' :: letter :: line).length = n + 2 + line.length := by
      rw [List.length_cons, List.length_cons]
      omega
    cases hletter : Escape.decode? letter with
    | some c =>
      obtain ⟨problem, text, hproblem, hread⟩ :=
        ih (List.not_mem_of_not_mem_cons hline.2) (c :: taken) (width + 2)
      refine ⟨problem, text, hproblem, fun rest => ?_⟩
      rw [hlength, List.cons_append, List.cons_append, List.cons_append, List.cons_append,
        body_escape hletter, body_escape hletter]
      exact hread rest
    | none =>
      obtain ⟨hq, -, hb⟩ := Escape.ne_of_decode?_eq_none hletter
      have hletters : Unclosed '"' (letter :: line) := .raw hq hb h
      refine ⟨.unknownEscape, taken.reverse ++ '\\' :: letter :: line, rfl, fun rest => ?_⟩
      have hpassed := passOver_unclosed hletters hline.2 [] rest
      have hpassed' := passOver_unclosed_return hletters hline.2 (by decide) [] rest
      have hwidth : width + 1 + (letter :: line).length = width + 2 + line.length := by
        rw [List.length_cons]
        omega
      rw [List.cons_append, List.reverse_nil, List.nil_append] at hpassed hpassed'
      rw [hlength, List.cons_append, List.cons_append, List.cons_append, List.cons_append,
        body_unknown hletter, body_unknown hletter, hpassed, hpassed']
      constructor
      · rw [hwidth]
      · rw [List.length_append, ← Nat.add_assoc, hwidth, List.append_assoc]
        rfl

theorem readString_closed (h : Closed '"' line) (hline : '\n' ∉ line) (more : List Char) :
    readString (line ++ more) = readString line := by
  rw [readString, readString, body_closed h hline]

theorem readString_unclosed (h : Unclosed '"' line) (hline : '\n' ∉ line) :
    CutByLine readString line := by
  obtain ⟨problem, text, hproblem, hread⟩ := body_unclosed h hline [] 0
  refine ⟨problem, '"' :: text, hproblem, fun rest => ?_⟩
  obtain ⟨hbody, hbody'⟩ := hread rest
  rw [Nat.zero_add] at hbody hbody'
  rw [readString, readString, hbody, hbody']
  exact ⟨rfl, rfl⟩

example : readString ['a', '\r', '\n'] = ⟨.malformed .unclosedString, ['"', 'a', '\r'], 3⟩ := rfl

/-! ## Characters -/

theorem close_closed (h : Closed '\'' line) (hline : '\n' ∉ line) (front : List Char) (c : Char)
    (more : List Char) : close front c (line ++ more) = close front c line := by
  have hpassed := passOver_closed h hline (by decide) (by decide) [] more
  by_cases hhead : line.head? = some '\''
  · obtain ⟨line, rfl⟩ := List.head?_eq_some_iff.mp hhead
    rfl
  · have hhead' : (line ++ more).head? ≠ some '\'' := by
      cases h with
      | quote => exact absurd rfl hhead
      | raw _ _ _ => exact hhead
      | escape _ => exact hhead
    rw [close_of_ne hhead, close_of_ne hhead', hpassed]

theorem close_unclosed (h : Unclosed '\'' line) (hline : '\n' ∉ line) (front : List Char)
    (c : Char) (rest : List Char) :
    close front c (line ++ '\n' :: rest) =
      verbatim (.malformed .characterCutByLine) (front ++ line) := by
  rw [close_of_ne (h.head?_ne (by decide) (by decide)), passOver_unclosed h hline]
  rfl

theorem close_unclosed_return (h : Unclosed '\'' line) (hline : '\n' ∉ line)
    (front : List Char) (c : Char) (rest : List Char) :
    close front c (line ++ '\r' :: '\n' :: rest) =
      verbatim (.malformed .characterCutByLine) (front ++ (line ++ ['\r'])) := by
  rw [append_return]
  exact close_unclosed (h.concat (by decide) (by decide)) (newline_notMem_return hline) front c rest

theorem readCharacter_closed (h : Closed '\'' line) (hline : '\n' ∉ line) (more : List Char) :
    readCharacter (line ++ more) = readCharacter line := by
  cases h with
  | quote => rfl
  | raw hc hb h =>
    rw [List.mem_cons, not_or] at hline
    rw [List.cons_append, readCharacter_cons (Ne.symm hline.1) hc hb,
      readCharacter_cons (Ne.symm hline.1) hc hb, close_closed h hline.2]
  | @escape letter line h =>
    rw [List.mem_cons, not_or] at hline
    cases hletter : Escape.decode? letter with
    | some d =>
      rw [List.cons_append, List.cons_append, readCharacter_escape hletter,
        readCharacter_escape hletter, close_closed h (List.not_mem_of_not_mem_cons hline.2)]
    | none =>
      obtain ⟨-, hq, hb⟩ := Escape.ne_of_decode?_eq_none hletter
      have hpassed := passOver_closed (.raw hq hb h) hline.2 (by decide) (by decide) [] more
      rw [List.cons_append, List.cons_append, readCharacter_unknown hletter,
        readCharacter_unknown hletter, ← List.cons_append, hpassed]

theorem readCharacter_unclosed (h : Unclosed '\'' line) (hline : '\n' ∉ line) :
    CutByLine readCharacter line := by
  -- The whole of the line stands for itself, whatever the problem is.
  suffices hread : ∃ problem, Diagnostic.quotesLexeme problem = false ∧ ∀ rest,
      readCharacter (line ++ '\n' :: rest) = verbatim (.malformed problem) ('\'' :: line) ∧
      readCharacter (line ++ '\r' :: '\n' :: rest) =
        verbatim (.malformed problem) ('\'' :: line ++ ['\r']) by
    obtain ⟨problem, hproblem, hread⟩ := hread
    refine ⟨problem, '\'' :: line, hproblem, fun rest => ?_⟩
    rw [(hread rest).1, (hread rest).2, verbatim, verbatim, List.length_append]
    exact ⟨rfl, rfl⟩
  cases h with
  | nil => exact ⟨.characterCutByLine, rfl, fun rest => ⟨rfl, rfl⟩⟩
  | backslash => exact ⟨.unknownEscape, rfl, fun rest => ⟨rfl, rfl⟩⟩
  | @raw c line hc hb h =>
    rw [List.mem_cons, not_or] at hline
    refine ⟨.characterCutByLine, rfl, fun rest => ?_⟩
    rw [List.cons_append, List.cons_append, readCharacter_cons (Ne.symm hline.1) hc hb,
      readCharacter_cons (Ne.symm hline.1) hc hb, close_unclosed h hline.2,
      close_unclosed_return h hline.2]
    exact ⟨rfl, rfl⟩
  | @escape letter line h =>
    rw [List.mem_cons, not_or] at hline
    cases hletter : Escape.decode? letter with
    | some d =>
      have hrest := List.not_mem_of_not_mem_cons hline.2
      refine ⟨.characterCutByLine, rfl, fun rest => ?_⟩
      rw [List.cons_append, List.cons_append, List.cons_append, List.cons_append,
        readCharacter_escape hletter, readCharacter_escape hletter, close_unclosed h hrest,
        close_unclosed_return h hrest]
      exact ⟨rfl, rfl⟩
    | none =>
      obtain ⟨-, hq, hb⟩ := Escape.ne_of_decode?_eq_none hletter
      have hletters : Unclosed '\'' (letter :: line) := .raw hq hb h
      refine ⟨.unknownEscape, rfl, fun rest => ?_⟩
      have hpassed := passOver_unclosed hletters hline.2 [] rest
      have hpassed' := passOver_unclosed_return hletters hline.2 (by decide) [] rest
      rw [List.cons_append] at hpassed hpassed'
      rw [List.cons_append, List.cons_append, List.cons_append, List.cons_append,
        readCharacter_unknown hletter, readCharacter_unknown hletter, hpassed, hpassed']
      exact ⟨rfl, rfl⟩

end

end Literal
end Lexeme
end LexicalFrontEnd
