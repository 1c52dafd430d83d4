import LexicalFrontEnd.Proofs.Lexeme.Literal

/-!
Where the rest of a mistaken literal ends.

The rest runs through the first quote of its line that no backslash takes along.
A backslash takes the character behind it along unless it is taken along itself,
so a quote is taken along if an odd number of backslashes stands before it.  A
rest without any other quote is all of the line.  A text is such a rest and what
is left of it in one way only (`Skips.unique`).
-/

namespace LexicalFrontEnd
namespace Lexeme
namespace Literal

/-- The text ends in a backslash that takes the next character along. -/
def Pairs (text : List Char) : Prop := (text.reverse.takeWhile (· == '\\')).length % 2 = 1

instance (text : List Char) : Decidable (Pairs text) := inferInstanceAs (Decidable (_ = _))

/-- Every quote in the text is taken along by a backslash. -/
def Held (quote : Char) (text : List Char) : Prop :=
  ∀ earlier, earlier ++ [quote] <+: text → Pairs earlier

/-- The rest of a mistaken literal with what is left behind it, by the way in which
the rest ends. -/
inductive Skips (quote : Char) : List Char → List Char → Ending → Prop
  | quote {front behind : List Char} :
    '\n' ∉ front → Held quote front → ¬Pairs front →
    Skips quote (front ++ [quote]) behind .quote
  | line {line behind : List Char} :
    '\n' ∉ line → Held quote line → Skips quote line ('\n' :: behind) .line
  | text {line : List Char} : '\n' ∉ line → Held quote line → Skips quote line [] .text

section

variable {quote c : Char} {front text behind : List Char} {ending : Ending}

theorem pairs_append (h : ¬Pairs front) (text : List Char) :
    Pairs (front ++ text) ↔ Pairs text := by
  rw [Pairs] at h
  rw [Pairs, Pairs, List.reverse_append, List.takeWhile_append]
  split
  · rename_i hall
    rw [List.length_append]
    omega
  · rfl

theorem Held.append (hfront : Held quote front) (hpairs : ¬Pairs front) (h : Held quote text) :
    Held quote (front ++ text) := by
  rintro earlier ⟨tail, htail⟩
  rw [List.append_assoc] at htail
  rcases List.append_eq_append_iff.mp htail with ⟨more, rfl, hmore⟩ | ⟨more, rfl, hmore⟩
  · cases more with
    | nil => exact absurd (h [] ⟨tail, hmore⟩) (by decide)
    | cons d more =>
      obtain ⟨rfl, -⟩ := List.cons.inj hmore
      refine hfront earlier ⟨more, ?_⟩
      rw [List.append_assoc, List.singleton_append]
  · refine (pairs_append hpairs more).mpr (h more ⟨tail, ?_⟩)
    rw [hmore, List.append_assoc]

/-- What takes nothing of the text behind it along goes before a rest. -/
theorem Skips.append (h : Skips quote text behind ending) (hnewline : '\n' ∉ front)
    (hfront : Held quote front) (hpairs : ¬Pairs front) :
    Skips quote (front ++ text) behind ending := by
  have hline {line : List Char} (hline : '\n' ∉ line) : '\n' ∉ front ++ line := by
    rw [List.mem_append, not_or]
    exact ⟨hnewline, hline⟩
  cases h with
  | @quote text _ htext hheld hends =>
    rw [← List.append_assoc]
    exact .quote (hline htext) (hfront.append hpairs hheld) (mt (pairs_append hpairs text).mp hends)
  | line htext hheld => exact .line (hline htext) (hfront.append hpairs hheld)
  | text htext hheld => exact .text (hline htext) (hfront.append hpairs hheld)

theorem held_singleton (hq : c ≠ quote) : Held quote [c] := by
  rintro earlier ⟨tail, htail⟩
  rw [List.append_assoc] at htail
  cases earlier with
  | nil => exact absurd (List.cons.inj htail).1.symm hq
  | cons d earlier =>
    have hlength := congrArg List.length htail
    simp only [List.length_append, List.length_cons] at hlength
    omega

theorem pairs_singleton (hb : c ≠ '\\') : ¬Pairs [c] := by
  rw [Pairs, List.reverse_singleton, List.takeWhile_cons_of_neg (by rwa [beq_iff_eq])]
  decide

theorem held_escape (hq : quote ≠ '\\') (c : Char) : Held quote ['\\', c] := by
  rintro earlier ⟨tail, htail⟩
  rw [List.append_assoc] at htail
  cases earlier with
  | nil => exact absurd (List.cons.inj htail).1 hq
  | cons d earlier =>
    obtain ⟨rfl, htail⟩ := List.cons.inj htail
    cases earlier with
    | nil => decide
    | cons e earlier =>
      have hlength := congrArg List.length htail
      simp only [List.length_append, List.length_cons, List.length_nil] at hlength
      omega

/-- The character behind the backslash takes nothing along, even if it is one. -/
theorem pairs_escape (c : Char) : ¬Pairs ['\\', c] := by
  by_cases hb : c = '\\'
  · rw [hb]
    decide
  · show ¬([c, '\\'].takeWhile (· == '\\')).length % 2 = 1
    rw [List.takeWhile_cons_of_neg (by rwa [beq_iff_eq])]
    decide

theorem Skips.cons (h : Skips quote text behind ending) (hn : c ≠ '\n') (hq : c ≠ quote)
    (hb : c ≠ '\\') : Skips quote (c :: text) behind ending := by
  have hnewline : '\n' ∉ [c] := by
    rw [List.mem_singleton]
    exact hn.symm
  exact h.append hnewline (held_singleton hq) (pairs_singleton hb)

theorem Skips.escape (h : Skips quote text behind ending) (hn : c ≠ '\n') (hq : quote ≠ '\\') :
    Skips quote ('\\' :: c :: text) behind ending := by
  have hnewline : '\n' ∉ ['\\', c] := by
    rw [List.mem_cons, List.mem_singleton, not_or]
    exact ⟨by decide, hn.symm⟩
  exact h.append hnewline (held_escape hq c) (pairs_escape c)

/-! ## One end only -/

theorem Skips.newline_notMem (h : Skips quote text behind ending) (hn : quote ≠ '\n') :
    '\n' ∉ text := by
  cases h with
  | quote hline _ _ => simp [hline, hn.symm]
  | line hline _ => exact hline
  | text hline _ => exact hline

/-- A quote before the last character is taken along. -/
theorem Skips.pairs_of_prefix (h : Skips quote text behind ending)
    (hfront : front ++ [quote] <+: text) (hlt : (front ++ [quote]).length < text.length) :
    Pairs front := by
  cases h with
  | @quote line _ _ hheld _ =>
    refine hheld front (List.prefix_of_prefix_length_le hfront (List.prefix_append _ _) ?_)
    simp only [List.length_append, List.length_singleton] at hlt ⊢
    omega
  | line _ hheld => exact hheld front hfront
  | text _ hheld => exact hheld front hfront

/-- The rest goes on to its first end, so nothing stands behind it that might belong
to it as well. -/
theorem Skips.eq_nil_of_append {more behind' : List Char} {ending' : Ending}
    (h : Skips quote text (more ++ behind') ending)
    (h' : Skips quote (text ++ more) behind' ending') (hn : quote ≠ '\n') : more = [] := by
  generalize hbehind : more ++ behind' = behind at h
  cases more with
  | nil => rfl
  | cons c more =>
    cases h with
    | @quote front _ _ _ hpairs =>
      refine absurd (h'.pairs_of_prefix (List.prefix_append _ _) ?_) hpairs
      simp
    | line _ _ =>
      obtain ⟨rfl, -⟩ := List.cons.inj hbehind
      exact absurd (List.mem_append_right _ List.mem_cons_self) (h'.newline_notMem hn)
    | text _ _ => exact absurd hbehind (List.cons_ne_nil _ _)

theorem Skips.ending_unique {ending' : Ending} (h : Skips quote text behind ending)
    (h' : Skips quote text behind ending') : ending = ending' := by
  have hheld_last {front : List Char} (hheld : Held quote (front ++ [quote])) : Pairs front :=
    hheld front List.prefix_rfl
  cases h with
  | @quote front _ _ _ hpairs =>
    generalize htext : front ++ [quote] = text at h'
    cases h' with
    | quote _ _ _ => rfl
    | line _ hheld => exact absurd (hheld_last (htext ▸ hheld)) hpairs
    | text _ hheld => exact absurd (hheld_last (htext ▸ hheld)) hpairs
  | line _ hheld =>
    cases h' with
    | quote _ _ hpairs => exact absurd (hheld_last hheld) hpairs
    | line _ _ => rfl
  | text _ hheld =>
    cases h' with
    | quote _ _ hpairs => exact absurd (hheld_last hheld) hpairs
    | text _ _ => rfl

/-- A text is the rest of a mistaken literal and what is left in one way only. -/
theorem Skips.unique {text' behind' : List Char} {ending' : Ending}
    (h : Skips quote text behind ending) (h' : Skips quote text' behind' ending')
    (hn : quote ≠ '\n') (heq : text ++ behind = text' ++ behind') :
    text = text' ∧ behind = behind' ∧ ending = ending' := by
  rcases List.append_eq_append_iff.mp heq with ⟨more, rfl, rfl⟩ | ⟨more, rfl, rfl⟩
  · obtain rfl := h.eq_nil_of_append h' hn
    rw [List.append_nil] at h' ⊢
    exact ⟨rfl, rfl, h.ending_unique h'⟩
  · obtain rfl := h'.eq_nil_of_append h hn
    rw [List.append_nil] at h ⊢
    exact ⟨rfl, rfl, h.ending_unique h'⟩

end

/-- What is passed over is the rest of the literal. -/
theorem exists_skips {quote : Char} (hn : quote ≠ '\n') (hq : quote ≠ '\\')
    (passed text : List Char) :
    ∃ rest behind ending, text = rest ++ behind ∧
      passOver quote passed text = (passed.reverse ++ rest, ending) ∧
      Skips quote rest behind ending := by
  -- On the length, because a backslash takes two characters at once.
  induction hlen : text.length using Nat.strongRecOn generalizing passed text with
  | ind n ih =>
    have hnil : Held quote [] := fun earlier h =>
      absurd (List.prefix_nil.mp h) (List.append_ne_nil_of_right_ne_nil _ (List.cons_ne_nil _ _))
    cases text with
    | nil =>
      refine ⟨[], [], .text, rfl, ?_, .text List.not_mem_nil hnil⟩
      rw [List.append_nil]
      rfl
    | cons c text =>
      have hlt : text.length < n := by
        rw [← hlen, List.length_cons]
        omega
      by_cases hc : c = '\n'
      · subst hc
        refine ⟨[], _, .line, rfl, ?_, .line List.not_mem_nil hnil⟩
        rw [passOver_newline, List.append_nil]
      · by_cases hb : c = '\\'
        · subst hb
          have hnewline : '\n' ∉ ['\\'] := by decide
          have hheld : Held quote ['\\'] := held_singleton hq.symm
          cases text with
          | nil =>
            refine ⟨['\\'], [], .text, rfl, ?_, .text hnewline hheld⟩
            rw [passOver_backslash_nil hq, List.reverse_cons]
          | cons d text =>
            by_cases hd : d = '\n'
            · subst hd
              refine ⟨['\\'], _, .line, rfl, ?_, .line hnewline hheld⟩
              rw [passOver_backslash_newline, List.reverse_cons]
            · obtain ⟨rest, behind, ending, rfl, hread, hskips⟩ :=
                ih _ (Nat.lt_of_succ_lt hlt) (d :: '\\' :: passed) text rfl
              refine ⟨'\\' :: d :: rest, behind, ending, rfl, ?_, hskips.escape hd hq⟩
              rw [passOver_backslash hd, hread, List.reverse_cons, List.reverse_cons,
                List.append_assoc, List.append_assoc]
              rfl
        · by_cases hclose : c = quote
          · subst hclose
            refine ⟨[c], text, .quote, rfl, ?_, .quote List.not_mem_nil hnil (by decide)⟩
            rw [passOver_quote hc hb, List.reverse_cons]
          · obtain ⟨rest, behind, ending, rfl, hread, hskips⟩ := ih _ hlt (c :: passed) text rfl
            refine ⟨c :: rest, behind, ending, rfl, ?_, hskips.cons hc hclose hb⟩
            rw [passOver_cons hc hclose hb, hread, List.reverse_cons, List.append_assoc]
            rfl

/-- Where the rest ends is where it is passed over to. -/
theorem passOver_skips {quote : Char} {text behind : List Char} {ending : Ending}
    (h : Skips quote text behind ending) (hn : quote ≠ '\n') (hq : quote ≠ '\\')
    (passed : List Char) :
    passOver quote passed (text ++ behind) = (passed.reverse ++ text, ending) := by
  obtain ⟨rest, left, ending', htext, hread, hskips⟩ := exists_skips hn hq passed (text ++ behind)
  obtain ⟨rfl, -, rfl⟩ := h.unique hskips hn htext
  exact hread

end Literal
end Lexeme
end LexicalFrontEnd
