import LexicalFrontEnd.Proofs.Lexeme.Read
import LexicalFrontEnd.Proofs.Position
import LexicalFrontEnd.Proofs.Reading

/-!
Lines are read apart from each other.

No lexeme holds a newline, and what a lexeme is depends on nothing behind the
newline after it.  The reading of a text therefore stops at every newline in the
state in which a new text would be read, and the lines behind it are read as a
text of their own, further down (`tokenize_lines`).
-/

namespace LexicalFrontEnd

open Lexeme

/-! ## Further down -/

def Token.down (t : Token) (lines : Nat) : Token := { t with position := t.position.down lines }

def Diagnostic.down (d : Diagnostic) (lines : Nat) : Diagnostic :=
  { d with position := d.position.down lines }

namespace Placed

def down (x : Placed) (lines : Nat) : Placed := { x with start := x.start.down lines }

theorem token_down (x : Placed) (lines : Nat) : (x.down lines).token = x.token.down lines := by
  obtain ⟨⟨verdict, text, width⟩, start⟩ := x
  cases verdict <;> rfl

theorem complaint?_down (x : Placed) (lines : Nat) :
    (x.down lines).complaint? = x.complaint?.map (·.down lines) := by
  obtain ⟨⟨verdict, text, width⟩, start⟩ := x
  cases verdict <;> rfl

end Placed

theorem Reading.down {lexicon : Lexicon} {p : Position} {text : List Char} {found : List Placed}
    (h : Reading lexicon p text found) (lines : Nat) :
    Reading lexicon (p.down lines) text (found.map (·.down lines)) := by
  induction h with
  | gap hgap => exact .gap hgap
  | @lexeme p gap c rest later hgap hstart hlater ih =>
    rw [← Position.afterText_down] at ih
    have h := Reading.lexeme hgap hstart ih
    rwa [Position.afterText_down, Position.after_down] at h

/-! ## Reading up to a newline -/

namespace Lexeme

theorem Gap.append {atEnd : Bool} {first second : List Char} (h : Gap false first)
    (h' : Gap atEnd second) : Gap atEnd (first ++ second) := by
  induction h with
  | nil => exact h'
  | blank hc hgap ih => exact .blank hc ih
  | @comment body gap hbody hend hgap ih =>
    have hnewline : gap.head? = some '\n' := by
      rcases hend with h | ⟨h, -⟩
      · exact h
      · exact absurd h Bool.false_ne_true
    rw [List.append_assoc]
    refine .comment hbody (Or.inl ?_) ih
    rw [List.head?_append, hnewline]
    rfl

/-- What a lexeme is does not depend on anything further away than the character
behind it. -/
theorem read_append {lexicon : Lexicon} {c : Char} {rest : List Char}
    (h : (read lexicon c rest).width ≤ rest.length) (more : List Char) :
    read lexicon c (rest ++ more) = read lexicon c rest :=
  (oneAhead_read lexicon c rest).congr (rest ++ more)
    (List.take_append_of_le_length (by omega))

/-- A lexeme ends before the newline that its text ends with. -/
theorem width_read_le {c : Char} {rest : List Char} (hc : c ≠ '\n')
    (hlast : (c :: rest).getLast? = some '\n') (lexicon : Lexicon) :
    (read lexicon c rest).width ≤ rest.length := by
  obtain ⟨-, hlength, hnewline, -⟩ := oneAhead_read lexicon c rest
  by_cases hle : (read lexicon c rest).width ≤ rest.length
  · exact hle
  · rw [List.take_of_length_le (by omega)] at hnewline
    rcases List.mem_cons.mp (List.mem_of_getLast? hlast) with h | h
    · exact absurd h.symm hc
    · exact absurd h hnewline

end Lexeme

namespace Reading

variable {lexicon : Lexicon} {p : Position} {found later : List Placed}

theorem gap_append {gap text : List Char} (hgap : Gap false gap)
    (h : Reading lexicon (p.afterText gap) text found) : Reading lexicon p (gap ++ text) found := by
  generalize hq : p.afterText gap = q at h
  cases h with
  | gap hlast => exact .gap (hgap.append hlast)
  | lexeme hinner hstart hlater =>
    rw [← hq, ← Position.afterText_append, ← List.append_assoc] at *
    exact .lexeme (hgap.append hinner) hstart hlater

/-- What follows a newline is read as a text of its own. -/
theorem append {text more : List Char} (h : Reading lexicon p text found)
    (hlast : text.getLast? = some '\n')
    (hmore : Reading lexicon (p.afterText text) more later) :
    Reading lexicon p (text ++ more) (found ++ later) := by
  induction h with
  | gap hgap => exact gap_append (hgap.of_newline hlast) hmore
  | @lexeme p gap c rest inner hgap hstart hinner ih =>
    have hcons : (c :: rest).getLast? = some '\n' := by
      rwa [List.getLast?_append, List.getLast?_cons, Option.some_or, ← List.getLast?_cons] at hlast
    have hle := width_read_le hstart.ne_newline hcons lexicon
    have hwidth : (read lexicon c rest).width ≤ (c :: rest).length := Nat.le_succ_of_le hle
    have hhead : (rest ++ more).head? = rest.head? := by
      have hpos := width_read_pos lexicon c rest
      rw [List.head?_append, List.head?_eq_some_head (List.ne_nil_of_length_pos (by omega))]
      rfl
    have hdrop : ((c :: rest).drop (read lexicon c rest).width).getLast? = some '\n' := by
      rw [List.getLast?_drop, if_neg, hcons]
      rw [List.length_cons]
      omega
    have h := @Reading.lexeme lexicon p gap c (rest ++ more) (inner ++ later) hgap
      (hstart.congr hhead)
    rw [read_append hle, ← List.cons_append, List.take_append_of_le_length hwidth,
      List.drop_append_of_le_length hwidth] at h
    rw [List.append_assoc]
    refine h (ih hdrop ?_)
    rw [← Position.afterText_append, List.append_assoc, List.take_append_drop]
    exact hmore

end Reading

/-- Tokenizing two texts with a newline between them brings the tokens and the
reports of the first one, and then those of the second one, further down by the
lines of the first. -/
theorem tokenize_lines (first second : String) (capacity : Nat) :
    let upper := tokenize (first ++ "\n") capacity
    let lower := tokenize second capacity
    let both := tokenize (first ++ "\n" ++ second) capacity
    let lines := 1 + first.toList.count '\n'
    both.1 = upper.1 ++ lower.1.map (·.down lines) ∧
      both.2.toList = upper.2.toList ++ lower.2.toList.map (·.down lines) := by
  intro upper lower both lines
  have hfirst : (first ++ "\n").toList = first.toList ++ ['\n'] := String.toList_append
  obtain ⟨found, hupper⟩ := exists_reading .standard .start (first ++ "\n").toList
  obtain ⟨later, hlower⟩ := exists_reading .standard .start second.toList
  have hboth : Reading .standard .start (first ++ "\n" ++ second).toList
      (found ++ later.map (·.down lines)) := by
    rw [String.toList_append]
    refine hupper.append ?_ ?_
    · rw [hfirst, List.getLast?_concat]
    · rw [hfirst, Position.start_afterText_newline]
      exact hlower.down lines
  constructor
  · rw [tokens_of_reading hboth, tokens_of_reading hupper, tokens_of_reading hlower,
      List.map_append, List.map_map, List.map_map]
    congr 1
    exact List.map_congr_left fun x _ => x.token_down lines
  · rw [log_of_reading hboth, log_of_reading hupper, log_of_reading hlower,
      List.filterMap_append, List.filterMap_map, List.map_filterMap]
    have hdown : Placed.complaint? ∘ (Placed.down · lines) =
        fun x => x.complaint?.map (Diagnostic.down · lines) :=
      funext fun x => x.complaint?_down lines
    rw [hdown]

end LexicalFrontEnd
