import LexicalFrontEnd.Lexeme.Basic

/-!
Readings that look at most one character ahead.

What stands behind a lexeme decides where it ends, but only its first character
does.  `OneAhead` says this of a function that reads a text behind the
characters of a lexeme taken so far, together with the two facts that go through
the same recursion: the lexeme ends within the text, and it holds no newline.
The lemmas follow the ways in which readings are built: stop here, take one
character and go on, branch on the next character, take a run of characters.
A reading that looks ahead like that goes as far as any word that starts with
the text (`OneAhead.le_width`).
-/

namespace LexicalFrontEnd
namespace Lexeme

structure LongestFront (P : List Char → Prop) (text front : List Char) : Prop where
  starts : front <+: text
  holds : P front
  longest : ∀ other, other <+: text → P other → other.length ≤ front.length

variable {β γ : Type} {width : β → Nat} {taken : Nat} {read : List Char → β} {text : List Char}

/-- What `read` makes of `text` behind `taken` characters of a lexeme.  The lexeme
takes `width` characters in all, which are there and none of which is a newline;
every text with the same characters up to one behind the lexeme is read the same
way. -/
structure OneAhead (width : β → Nat) (taken : Nat) (read : List Char → β) (text : List Char) :
    Prop where
  taken_le : taken ≤ width (read text)
  le_length : width (read text) ≤ taken + text.length
  newline : '\n' ∉ text.take (width (read text) - taken)
  congr : ∀ other, other.take (width (read text) + 1 - taken) =
    text.take (width (read text) + 1 - taken) → read other = read text

namespace OneAhead

theorem head?_eq_of_take {n : Nat} (hn : n ≠ 0) {s t : List Char} (h : s.take n = t.take n) :
    s.head? = t.head? := by
  have := congrArg List.head? h
  rwa [List.head?_take, List.head?_take, if_neg hn, if_neg hn] at this

/-- The lexeme ends here, as the next character tells. -/
theorem stop (hwidth : width (read text) = taken)
    (hhead : ∀ other, other.head? = text.head? → read other = read text) :
    OneAhead width taken read text := by
  refine ⟨Nat.le_of_eq hwidth.symm, by omega, ?_, ?_⟩
  · rw [hwidth, Nat.sub_self]
    exact List.not_mem_nil
  · intro other h
    exact hhead other (head?_eq_of_take (by omega) h)

theorem stop_nil (hwidth : width (read []) = taken) : OneAhead width taken read [] := by
  apply stop hwidth
  intro other hother
  rw [List.head?_eq_none_iff.mp hother]

theorem stop_cons {c : Char} (hwidth : width (read (c :: text)) = taken)
    (hread : ∀ other, read (c :: other) = read (c :: text)) :
    OneAhead width taken read (c :: text) := by
  apply stop hwidth
  intro other hother
  obtain ⟨other, rfl⟩ := List.head?_eq_some_iff.mp hother
  exact hread other

/-- The next character belongs to the lexeme. -/
theorem cons {c : Char} (hc : c ≠ '\n')
    (h : OneAhead width (taken + 1) (fun t => read (c :: t)) text) :
    OneAhead width taken read (c :: text) := by
  obtain ⟨htaken, hlength, hnewline, hcongr⟩ := h
  refine ⟨by omega, ?_, ?_, ?_⟩
  · rw [List.length_cons]
    omega
  · rw [show width (read (c :: text)) - taken = (width (read (c :: text)) - (taken + 1)) + 1 by omega,
      List.take_succ_cons]
    rw [List.mem_cons, not_or]
    exact ⟨Ne.symm hc, hnewline⟩
  · intro other h
    rw [show width (read (c :: text)) + 1 - taken =
      (width (read (c :: text)) + 1 - (taken + 1)) + 1 by omega, List.take_succ_cons] at h
    cases other with
    | nil => exact absurd h (by simp)
    | cons d other =>
      rw [List.take_succ_cons] at h
      obtain ⟨rfl, h⟩ := List.cons.inj h
      exact hcongr other h

/-- A reading that goes on as another does where the next character is the same
looks as far ahead as that one. -/
theorem of_head {read' : List Char → β} (h : OneAhead width taken read' text)
    (hhead : ∀ other, other.head? = text.head? → read other = read' other) :
    OneAhead width taken read text := by
  obtain ⟨htaken, hlength, hnewline, hcongr⟩ := h
  have htext : read text = read' text := hhead text rfl
  rw [← htext] at htaken hlength hnewline hcongr
  refine ⟨htaken, hlength, hnewline, ?_⟩
  intro other h
  rw [hhead other (head?_eq_of_take (by omega) h)]
  exact hcongr other h

/-- What is made of a reading looks as far ahead; `front` characters may be taken
before it. -/
theorem map (width' : γ → Nat) (f : β → γ) (front : Nat)
    (hwidth : ∀ b, width' (f b) = front + width b) (h : OneAhead width taken read text) :
    OneAhead width' (front + taken) (fun t => f (read t)) text := by
  obtain ⟨htaken, hlength, hnewline, hcongr⟩ := h
  refine ⟨?_, ?_, ?_, ?_⟩
  · rw [hwidth]
    omega
  · rw [hwidth]
    omega
  · rw [hwidth, Nat.add_sub_add_left]
    exact hnewline
  · intro other h
    rw [hwidth, Nat.add_assoc, Nat.add_sub_add_left] at h
    show f (read other) = f (read text)
    rw [hcongr other h]

/-- A run of characters belongs to the lexeme, and the reading goes on with the
run and the text behind it. -/
theorem takeWhile {p : Char → Bool} (hp : p '\n' = false)
    (after : List Char → List Char → β)
    (h : OneAhead width (taken + (text.takeWhile p).length) (after (text.takeWhile p))
      (text.drop (text.takeWhile p).length)) :
    OneAhead width taken (fun t => after (t.takeWhile p) (t.drop (t.takeWhile p).length)) text := by
  induction text generalizing taken after with
  | nil =>
    apply of_head h
    intro other hother
    rw [List.head?_eq_none_iff.mp hother]
    rfl
  | cons c text ih =>
    cases hc : p c with
    | false =>
      have hstop (t : List Char) : (c :: t).takeWhile p = [] :=
        List.takeWhile_cons_of_neg (by rw [hc]; exact Bool.false_ne_true)
      rw [hstop] at h
      apply of_head h
      intro other hother
      obtain ⟨t, rfl⟩ := List.head?_eq_some_iff.mp hother
      rw [hstop]
      rfl
    | true =>
      have hgo (t : List Char) : (c :: t).takeWhile p = c :: t.takeWhile p :=
        List.takeWhile_cons_of_pos hc
      have hne : c ≠ '\n' := by
        rintro rfl
        rw [hp] at hc
        exact Bool.false_ne_true hc
      refine cons hne ?_
      simp only [hgo, List.length_cons, List.drop_succ_cons] at h ⊢
      refine ih (fun run => after (c :: run)) ?_
      rwa [Nat.add_assoc, Nat.add_comm 1]

/-- A word is read in full only if it does not go on beyond what is read where it
starts. -/
theorem le_width {read : List Char → Lexeme} {c : Char} {rest other : List Char}
    (h : OneAhead Lexeme.width 1 (fun t => read (c :: t)) rest) (hother : other <+: c :: rest)
    (more : List Char) (hword : (read (other ++ more)).width = (other ++ more).length) :
    other.length ≤ (read (c :: rest)).width := by
  cases other with
  | nil => exact Nat.zero_le _
  | cons d other =>
    obtain ⟨rfl, tail, rfl⟩ := List.cons_prefix_cons.mp hother
    apply Nat.le_of_not_lt
    intro hlt
    rw [List.length_cons] at hlt
    have hread : read (d :: (other ++ more)) = read (d :: (other ++ tail)) := by
      apply h.congr
      rw [List.take_append_of_le_length (by omega), List.take_append_of_le_length (by omega)]
    rw [List.cons_append, hread, List.length_cons, List.length_append] at hword
    omega

end OneAhead
end Lexeme
end LexicalFrontEnd
