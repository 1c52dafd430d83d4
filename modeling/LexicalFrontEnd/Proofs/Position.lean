import LexicalFrontEnd.Position

/-!
Places by the characters before them.

Walking over a text counts newlines and the characters behind the last one
(`start_afterText`), and it counts in the same way further down
(`afterText_down`).
-/

namespace LexicalFrontEnd
namespace Position

/-- The place of a character by the characters before it: the line is told by
their newlines, the column by those behind the last newline. -/
def following (before : List Char) : Position :=
  ⟨1 + before.count '\n', 1 + (before.reverse.takeWhile (· != '\n')).length⟩

def down (p : Position) (lines : Nat) : Position := { p with line := p.line + lines }

theorem start_afterText (before : List Char) :
    start.afterText before =
      ⟨1 + before.count '\n', (before.reverse.takeWhile (· != '\n')).length⟩ := by
  -- On the last character, which is passed last.
  rw [← List.reverse_reverse before]
  induction before.reverse with
  | nil => rfl
  | cons c text ih =>
    rw [List.reverse_cons, afterText_append, ih, List.count_append, List.reverse_append]
    show after _ c = _
    by_cases hc : c = '\n'
    · rw [after, if_pos hc, hc]
      rfl
    · have hkeep : (c != '\n') = true := bne_iff_ne.mpr hc
      rw [after, if_neg hc, List.count_cons_of_ne hc, List.count_nil, List.reverse_singleton,
        List.singleton_append, List.takeWhile_cons_of_pos (p := (· != '\n')) hkeep,
        List.length_cons]
      rfl

theorem start_afterText_after {c : Char} (hc : c ≠ '\n') (before : List Char) :
    (start.afterText before).after c = following before := by
  rw [start_afterText, after, if_neg hc, following, Nat.add_comm 1 (List.length _)]

theorem after_down (p : Position) (lines : Nat) (c : Char) :
    (p.down lines).after c = (p.after c).down lines := by
  by_cases hc : c = '\n'
  · rw [after, after, if_pos hc, if_pos hc]
    show Position.mk (p.line + lines + 1) 0 = ⟨p.line + 1 + lines, 0⟩
    rw [Nat.add_right_comm]
  · rw [after, after, if_neg hc, if_neg hc]
    rfl

theorem afterText_down (p : Position) (lines : Nat) (text : List Char) :
    (p.down lines).afterText text = (p.afterText text).down lines := by
  induction text generalizing p with
  | nil => rfl
  | cons c text ih =>
    show ((p.down lines).after c).afterText text = ((p.after c).afterText text).down lines
    rw [after_down, ih]

/-- Behind its last newline a text has led to the start of a line. -/
theorem start_afterText_newline (text : List Char) :
    start.afterText (text ++ ['\n']) = start.down (1 + text.count '\n') := by
  rw [afterText_append, start_afterText]
  show Position.mk (1 + text.count '\n' + 1) 0 = ⟨1 + (1 + text.count '\n'), 0⟩
  rw [Nat.add_comm 1 (1 + _)]

end Position
end LexicalFrontEnd
