import LexicalFrontEnd.Proofs.Lines
import LexicalFrontEnd.Proofs.Span

/-!
One character behind a lexeme is enough to know it.

Whatever follows a text, the lexemes that end before the end of the text are the
same (`tokenize_front`).  A lexeme that ends there is read in the text alone,
because its reader looks at one character behind it and that one belongs to the
text; the other way round, a lexeme that is read with more text behind it and
ends before the end of the front is read in the front alone.
-/

namespace LexicalFrontEnd

open Lexeme

section

variable {lexicon : Lexicon} {text more passed gap rest : List Char} {c : Char}

/-! ## Where lexemes start and end -/

def spansPast (lexicon : Lexicon) (passed text : List Char) : List Span :=
  spansBehind lexicon (Position.start.afterText passed) passed.length text

theorem spansPast_lexeme (hgap : Gap false gap) (hstart : Starts c rest) :
    spansPast lexicon passed (gap ++ c :: rest) =
      ⟨⟨read lexicon c rest, .following (passed ++ gap)⟩,
          (passed ++ gap).length + (read lexicon c rest).width⟩ ::
        spansPast lexicon (passed ++ gap ++ (c :: rest).take (read lexicon c rest).width)
          ((c :: rest).drop (read lexicon c rest).width) := by
  have hlength : (passed ++ gap ++ (c :: rest).take (read lexicon c rest).width).length =
      (passed ++ gap).length + (read lexicon c rest).width := by
    rw [List.length_append, length_take_read]
  rw [spansPast, spansBehind_lexeme hgap hstart, ← Position.afterText_append,
    ← Position.afterText_append, ← List.append_assoc,
    Position.start_afterText_after hstart.ne_newline, spansPast, hlength, List.length_append,
    Nat.add_assoc]

/-- A lexeme starts at a character of the text, is what is read there, and ends as
many characters further on as it takes. -/
theorem exists_start_of_mem_spansPast {x : Span} (h : x ∈ spansPast lexicon passed text) :
    ∃ before c rest, passed ++ text = before ++ c :: rest ∧ passed <+: before ∧ Starts c rest ∧
      x = ⟨⟨read lexicon c rest, .following before⟩,
        before.length + (read lexicon c rest).width⟩ := by
  -- On the length: the text behind a lexeme is shorter.
  induction hn : text.length using Nat.strongRecOn generalizing passed text with
  | ind n ih =>
    rcases gap_or_start text with hgap | ⟨gap, c, rest, rfl, hgap, hstart⟩
    · rw [spansPast, spansBehind_gap hgap] at h
      cases h
    · rw [spansPast_lexeme hgap hstart, List.mem_cons] at h
      rcases h with rfl | h
      · exact ⟨passed ++ gap, c, rest, (List.append_assoc _ _ _).symm, List.prefix_append _ _,
          hstart, rfl⟩
      · have hpos := width_read_pos lexicon c rest
        have hlt : ((c :: rest).drop (read lexicon c rest).width).length < n := by
          rw [← hn, List.length_append, List.length_drop, List.length_cons]
          omega
        obtain ⟨before, d, tail, htext, hbefore, hfound⟩ := ih _ hlt h rfl
        refine ⟨before, d, tail, ?_, ?_, hfound⟩
        · rw [← htext, List.append_assoc, List.append_assoc, List.take_append_drop]
        · rw [List.append_assoc] at hbefore
          exact List.IsPrefix.trans (List.prefix_append _ _) hbefore

theorem lt_stop_of_mem_spansPast {x : Span} (h : x ∈ spansPast lexicon passed text) :
    passed.length < x.stop := by
  obtain ⟨before, c, rest, -, hbefore, -, rfl⟩ := exists_start_of_mem_spansPast h
  have hle := hbefore.length_le
  have hpos := width_read_pos lexicon c rest
  show passed.length < before.length + _
  omega

/-! ## More text behind -/

theorem read_of_append (h : (read lexicon c (rest ++ more)).width ≤ rest.length) :
    read lexicon c rest = read lexicon c (rest ++ more) :=
  (oneAhead_read lexicon c (rest ++ more)).congr rest
    (List.take_append_of_le_length (by omega)).symm

/-- The lexemes of a front with more text behind it that leave at least one
character of the front behind them. -/
def frontPast (lexicon : Lexicon) (passed front more : List Char) : List Span :=
  (spansPast lexicon passed (front ++ more)).filter (·.stop < (passed ++ front).length)

/-- A lexeme that ends within the front is found in it, whatever follows. -/
theorem frontPast_lexeme (hgap : Gap false gap) (hstart : Starts c rest)
    (hle : (read lexicon c rest).width ≤ rest.length) (more : List Char) :
    frontPast lexicon passed (gap ++ c :: rest) more =
      ⟨⟨read lexicon c rest, .following (passed ++ gap)⟩,
          (passed ++ gap).length + (read lexicon c rest).width⟩ ::
        frontPast lexicon (passed ++ gap ++ (c :: rest).take (read lexicon c rest).width)
          ((c :: rest).drop (read lexicon c rest).width) more := by
  have hpos := width_read_pos lexicon c rest
  have hhead : (rest ++ more).head? = rest.head? := by
    rw [List.head?_append, List.head?_eq_some_head (List.ne_nil_of_length_pos (by omega))]
    rfl
  have hwidth : (read lexicon c rest).width ≤ (c :: rest).length := Nat.le_succ_of_le hle
  have hspans : spansPast lexicon passed (gap ++ c :: rest ++ more) =
      ⟨⟨read lexicon c rest, .following (passed ++ gap)⟩,
          (passed ++ gap).length + (read lexicon c rest).width⟩ ::
        spansPast lexicon (passed ++ gap ++ (c :: rest).take (read lexicon c rest).width)
          ((c :: rest).drop (read lexicon c rest).width ++ more) := by
    rw [List.append_assoc, List.cons_append, spansPast_lexeme hgap (hstart.congr hhead),
      read_append hle, ← List.cons_append, List.take_append_of_le_length hwidth,
      List.drop_append_of_le_length hwidth]
  have hlimit : (passed ++ gap ++ (c :: rest).take (read lexicon c rest).width ++
      (c :: rest).drop (read lexicon c rest).width).length =
      (passed ++ (gap ++ c :: rest)).length := by
    rw [List.append_assoc, List.take_append_drop, List.append_assoc]
  have hinside : (passed ++ gap).length + (read lexicon c rest).width <
      (passed ++ (gap ++ c :: rest)).length := by
    simp only [List.length_append, List.length_cons]
    omega
  rw [frontPast, hspans, List.filter_cons, if_pos (decide_eq_true hinside), frontPast, hlimit]

/-- A lexeme that ends within the front of a text is read in the front alone. -/
theorem exists_lexeme_of_lt {front : List Char} (htext : front ++ more = gap ++ c :: rest)
    (hstart : Starts c rest) (hlt : gap.length + (read lexicon c rest).width < front.length) :
    ∃ tail, front = gap ++ c :: tail ∧ Starts c tail ∧
      (read lexicon c tail).width ≤ tail.length := by
  have hpos := width_read_pos lexicon c rest
  obtain ⟨behind, hfront, hbehind⟩ :
      ∃ behind, front = gap ++ behind ∧ c :: rest = behind ++ more := by
    rcases List.append_eq_append_iff.mp htext with ⟨gap', rfl, -⟩ | ⟨behind, hfront, hbehind⟩
    · rw [List.length_append] at hlt
      omega
    · exact ⟨behind, hfront, hbehind⟩
  rw [hfront, List.length_append] at hlt
  cases behind with
  | nil =>
    rw [List.length_nil] at hlt
    omega
  | cons d tail =>
    rw [List.cons_append] at hbehind
    obtain ⟨rfl, rfl⟩ := List.cons.inj hbehind
    rw [List.length_cons] at hlt
    have hhead : (tail ++ more).head? = tail.head? := by
      rw [List.head?_append, List.head?_eq_some_head (List.ne_nil_of_length_pos (by omega))]
      rfl
    have hread : read lexicon c tail = read lexicon c (tail ++ more) := read_of_append (by omega)
    refine ⟨tail, hfront, hstart.congr hhead.symm, ?_⟩
    rw [hread]
    omega

theorem frontPast_eq_nil {front : List Char}
    (h : ∀ gap c rest, front = gap ++ c :: rest → Gap false gap → Starts c rest →
      rest.length < (read lexicon c rest).width) (more : List Char) :
    frontPast lexicon passed front more = [] := by
  rw [frontPast, List.filter_eq_nil_iff]
  intro x hx
  rw [decide_eq_true_eq, Nat.not_lt]
  rcases gap_or_start (front ++ more) with hgap | ⟨gap, c, rest, htext, hgap, hstart⟩
  · rw [spansPast, spansBehind_gap hgap] at hx
    cases hx
  · have hfirst : front.length ≤ gap.length + (read lexicon c rest).width := by
      apply Nat.le_of_not_lt
      intro hlt
      obtain ⟨tail, hfront, hstart, hle⟩ := exists_lexeme_of_lt htext hstart hlt
      exact Nat.not_lt.mpr hle (h gap c tail hfront hgap hstart)
    rw [htext, spansPast_lexeme hgap hstart, List.mem_cons] at hx
    rw [List.length_append]
    rcases hx with rfl | hx
    · show _ ≤ (passed ++ gap).length + _
      rw [List.length_append]
      omega
    · have hlater := lt_stop_of_mem_spansPast hx
      rw [List.length_append, List.length_append, length_take_read] at hlater
      omega

/-- The lexemes that end within the front do not depend on what follows it. -/
theorem frontPast_eq (lexicon : Lexicon) (passed front more : List Char) :
    frontPast lexicon passed front more = frontPast lexicon passed front [] := by
  -- On the length: the front behind a lexeme is shorter.
  induction hn : front.length using Nat.strongRecOn generalizing passed front with
  | ind n ih =>
    by_cases hinside : ∃ gap c rest, front = gap ++ c :: rest ∧ Gap false gap ∧ Starts c rest ∧
        (read lexicon c rest).width ≤ rest.length
    · obtain ⟨gap, c, rest, rfl, hgap, hstart, hle⟩ := hinside
      have hlt : ((c :: rest).drop (read lexicon c rest).width).length < n := by
        have hpos := width_read_pos lexicon c rest
        rw [← hn, List.length_append, List.length_drop, List.length_cons]
        omega
      rw [frontPast_lexeme hgap hstart hle, frontPast_lexeme hgap hstart hle, ih _ hlt _ _ rfl]
    · have hnone : ∀ gap c rest, front = gap ++ c :: rest → Gap false gap → Starts c rest →
          rest.length < (read lexicon c rest).width := by
        intro gap c rest hfront hgap hstart
        apply Nat.lt_of_not_le
        intro hle
        exact hinside ⟨gap, c, rest, hfront, hgap, hstart, hle⟩
      rw [frontPast_eq_nil hnone, frontPast_eq_nil hnone]

end

/-- Whatever follows a text, tokenizing brings the same tokens that end before the
end of the text, and the same reports of them.  Each token belongs to one of the
lexemes, which ends as many characters behind the place where it starts as it
takes. -/
theorem tokenize_front (front first second : String) (capacity : Nat) :
    let lexemes (more : String) := spans .standard (front ++ more).toList
    let inner (more : String) := (lexemes more).filter (·.stop < front.toList.length)
    inner first = inner second ∧ ∀ more,
      (tokenize (front ++ more) capacity).1 = (lexemes more).map (·.token) ∧
      (tokenize (front ++ more) capacity).2.toList = (lexemes more).filterMap (·.complaint?) ∧
      ∀ x ∈ lexemes more, ∃ before c rest,
        (front ++ more).toList = before ++ c :: rest ∧ Starts c rest ∧
        x = ⟨⟨read .standard c rest, .following before⟩,
          before.length + (read .standard c rest).width⟩ := by
  intro lexemes inner
  have hinner (more : String) :
      inner more = frontPast .standard [] front.toList more.toList := by
    show (spansPast .standard [] (front ++ more).toList).filter _ = _
    rw [String.toList_append]
    rfl
  refine ⟨?_, fun more => ⟨tokens_eq_spans _ _, ?_, ?_⟩⟩
  · rw [hinner, hinner, frontPast_eq, frontPast_eq _ _ _ second.toList]
  · obtain ⟨found, hfound⟩ := exists_reading .standard .start (front ++ more).toList
    have hspans : (lexemes more).map Span.toPlaced = found := hfound.map_spans 0
    rw [log_of_reading hfound, ← hspans, List.filterMap_map]
    rfl
  · intro x hx
    have hpast : x ∈ spansPast .standard [] (front ++ more).toList := hx
    obtain ⟨before, c, rest, htext, -, hstart, hfound⟩ := exists_start_of_mem_spansPast hpast
    exact ⟨before, c, rest, htext, hstart, hfound⟩

end LexicalFrontEnd
