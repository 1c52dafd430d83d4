import LexicalFrontEnd.Lexeme.Trivia

/-!
Gaps between lexemes.

A gap is made of white space and of comments that run up to the end of their
lines.  `Gap` says so without counting characters; the theorems below hold
`Trivia.width` to it.  Every text is a gap, or a gap and then a text that starts
a lexeme (`gap_or_start`), and `Trivia.width` finds the gap in both cases.
-/

namespace LexicalFrontEnd
namespace Lexeme

open Trivia

/-- White space and comments.  A comment ends before a newline of the gap; where
the text ends with the gap, the last comment may also end with the text. -/
inductive Gap (atEnd : Bool) : List Char → Prop
  | nil : Gap atEnd []
  | blank {c : Char} {gap : List Char} :
    Unicode.isBlank c = true → Gap atEnd gap → Gap atEnd (c :: gap)
  | comment {body gap : List Char} :
    '\n' ∉ body → (gap.head? = some '\n' ∨ atEnd = true ∧ gap = []) → Gap atEnd gap →
      Gap atEnd ('/' :: '/' :: body ++ gap)

/-- A lexeme starts at `c`: it is no white space and starts no comment. -/
def Starts (c : Char) (rest : List Char) : Prop :=
  Unicode.isBlank c = false ∧ ¬(c = '/' ∧ rest.head? = some '/')

theorem isBlank_newline : Unicode.isBlank '\n' = true := by decide

theorem Starts.ne_newline {c : Char} {rest : List Char} (h : Starts c rest) : c ≠ '\n' := by
  rintro rfl
  exact absurd isBlank_newline (by rw [h.1]; decide)

theorem Starts.congr {c : Char} {rest rest' : List Char} (h : Starts c rest)
    (hhead : rest'.head? = rest.head?) : Starts c rest' := by
  rw [Starts, hhead]
  exact h

/-! ## Passing over a gap -/

theorem widthFrom_comment_append {body : List Char} (h : '\n' ∉ body) (n : Nat)
    (rest : List Char) :
    widthFrom .comment n (body ++ rest) = widthFrom .comment (n + body.length) rest := by
  induction body generalizing n with
  | nil => rfl
  | cons c body ih =>
    rw [List.mem_cons, not_or] at h
    obtain ⟨hc, hbody⟩ := h
    rw [List.cons_append, widthFrom, if_neg (Ne.symm hc), ih hbody, List.length_cons,
      Nat.add_assoc, Nat.add_comm 1]

theorem widthFrom_comment_newline {gap : List Char} (h : gap.head? = some '\n') (n : Nat)
    (rest : List Char) :
    widthFrom .comment n (gap ++ rest) = widthFrom .blank n (gap ++ rest) := by
  obtain ⟨gap, rfl⟩ := List.head?_eq_some_iff.mp h
  rw [List.cons_append, widthFrom, widthFrom, if_pos rfl, if_pos isBlank_newline]

theorem widthFrom_comment (body : List Char) (h : '\n' ∉ body) (n : Nat) (rest : List Char) :
    widthFrom .blank n ('/' :: '/' :: body ++ rest) =
      widthFrom .comment (n + ('/' :: '/' :: body).length) rest := by
  have hslash : Unicode.isBlank '/' = false := by decide
  have hbody : '\n' ∉ '/' :: body := by
    rw [List.mem_cons, not_or]
    exact ⟨by decide, h⟩
  show widthFrom .blank n ('/' :: ('/' :: body ++ rest)) = _
  rw [widthFrom, hslash, if_neg Bool.false_ne_true, if_pos ⟨rfl, rfl⟩,
    widthFrom_comment_append hbody, Nat.add_assoc, Nat.add_comm 1]
  rfl

theorem widthFrom_gap_append {gap : List Char} (h : Gap false gap) (n : Nat) (rest : List Char) :
    widthFrom .blank n (gap ++ rest) = widthFrom .blank (n + gap.length) rest := by
  induction h generalizing n with
  | nil => rfl
  | @blank c gap hc hgap ih =>
    rw [List.cons_append, widthFrom, if_pos hc, ih, List.length_cons, Nat.add_assoc,
      Nat.add_comm 1]
  | @comment body gap hbody hend hgap ih =>
    have hnewline : gap.head? = some '\n' := by
      rcases hend with h | ⟨h, -⟩
      · exact h
      · exact absurd h Bool.false_ne_true
    rw [List.append_assoc, widthFrom_comment body hbody, widthFrom_comment_newline hnewline, ih,
      List.length_append, Nat.add_assoc]

theorem widthFrom_gap {gap : List Char} (h : Gap true gap) (n : Nat) :
    widthFrom .blank n gap = n + gap.length := by
  induction h generalizing n with
  | nil => rfl
  | @blank c gap hc hgap ih =>
    rw [widthFrom, if_pos hc, ih, List.length_cons, Nat.add_assoc, Nat.add_comm 1]
  | @comment body gap hbody hend hgap ih =>
    rw [widthFrom_comment body hbody]
    rcases hend with hnewline | ⟨-, rfl⟩
    · rw [← List.append_nil gap, widthFrom_comment_newline hnewline, List.append_nil, ih,
        List.length_append, Nat.add_assoc]
    · rw [List.append_nil]
      rfl

theorem widthFrom_start {c : Char} {rest : List Char} (h : Starts c rest) (n : Nat) :
    widthFrom .blank n (c :: rest) = n := by
  rw [widthFrom, h.1, if_neg Bool.false_ne_true, if_neg h.2]

theorem width_gap {gap : List Char} (h : Gap true gap) : width gap = gap.length := by
  rw [width, widthFrom_gap h, Nat.zero_add]

theorem width_gap_append {gap : List Char} {c : Char} {rest : List Char} (h : Gap false gap)
    (hs : Starts c rest) : width (gap ++ c :: rest) = gap.length := by
  rw [width, widthFrom_gap_append h, widthFrom_start hs, Nat.zero_add]

/-! ## Finding a gap -/

/-- A text is made of the rest of its first line, and then nothing or a
newline. -/
theorem exists_line (text : List Char) :
    ∃ line rest, text = line ++ rest ∧ '\n' ∉ line ∧ (rest.head? = some '\n' ∨ rest = []) := by
  induction text with
  | nil => exact ⟨[], [], rfl, List.not_mem_nil, Or.inr rfl⟩
  | cons c text ih =>
    by_cases hc : c = '\n'
    · subst hc
      exact ⟨[], '\n' :: text, rfl, List.not_mem_nil, Or.inl rfl⟩
    · obtain ⟨line, rest, rfl, hline, hrest⟩ := ih
      refine ⟨c :: line, rest, rfl, ?_, hrest⟩
      rw [List.mem_cons, not_or]
      exact ⟨Ne.symm hc, hline⟩

/-- A text is a gap, or a gap and then the start of a lexeme. -/
theorem gap_or_start (text : List Char) :
    Gap true text ∨
      ∃ gap c rest, text = gap ++ c :: rest ∧ Gap false gap ∧ Starts c rest := by
  -- On the length, because the text behind a comment is no tail of the text.
  induction hn : text.length using Nat.strongRecOn generalizing text with
  | ind n ih =>
    cases text with
    | nil => exact Or.inl .nil
    | cons c text =>
      by_cases hblank : Unicode.isBlank c = true
      · rcases ih text.length (hn ▸ Nat.lt_succ_self _) text rfl with h | h
        · exact Or.inl (.blank hblank h)
        · obtain ⟨gap, d, rest, rfl, hgap, hstart⟩ := h
          exact Or.inr ⟨c :: gap, d, rest, rfl, .blank hblank hgap, hstart⟩
      · rw [Bool.not_eq_true] at hblank
        by_cases hslash : c = '/' ∧ text.head? = some '/'
        · obtain ⟨rfl, hhead⟩ := hslash
          obtain ⟨text, rfl⟩ := List.head?_eq_some_iff.mp hhead
          obtain ⟨body, tail, rfl, hbody, htail⟩ := exists_line text
          have hlt : tail.length < n := by
            rw [← hn]
            simp only [List.length_cons, List.length_append]
            omega
          rcases htail with hnewline | rfl
          · rcases ih tail.length hlt tail rfl with h | h
            · exact Or.inl (.comment hbody (Or.inl hnewline) h)
            · obtain ⟨gap, d, rest, rfl, hgap, hstart⟩ := h
              have hne : gap.head? = some '\n' := by
                cases gap with
                | nil => exact absurd (Option.some.inj hnewline) hstart.ne_newline
                | cons e gap => exact hnewline
              refine Or.inr ⟨'/' :: '/' :: body ++ gap, d, rest, ?_, .comment hbody (Or.inl hne) hgap,
                hstart⟩
              rw [List.append_assoc]
              rfl
          · exact Or.inl (.comment hbody (Or.inr ⟨rfl, rfl⟩) .nil)
        · exact Or.inr ⟨[], c, text, rfl, .nil, hblank, hslash⟩

/-- A gap that ends with its line needs no end of the text. -/
theorem Gap.of_newline {gap : List Char} (h : Gap true gap) (hlast : gap.getLast? = some '\n') :
    Gap false gap := by
  induction h with
  | nil => exact .nil
  | @blank c gap hc hgap ih =>
    cases gap with
    | nil => exact .blank hc .nil
    | cons d gap => exact .blank hc (ih (by rwa [List.getLast?_cons_cons] at hlast))
  | @comment body gap hbody hend hgap ih =>
    rcases hend with hnewline | ⟨-, rfl⟩
    · have hne : gap ≠ [] := by
        rintro rfl
        exact absurd hnewline (by simp)
      refine .comment hbody (Or.inl hnewline) (ih ?_)
      rw [List.getLast?_append, List.getLast?_eq_some_getLast hne, Option.some_or] at hlast
      rw [List.getLast?_eq_some_getLast hne, hlast]
    · -- The comment itself would hold the newline.
      rw [List.append_nil] at hlast
      have hmem := List.mem_of_getLast? hlast
      simp only [List.mem_cons, Char.reduceEq, false_or] at hmem
      exact absurd hmem hbody

end Lexeme
end LexicalFrontEnd
