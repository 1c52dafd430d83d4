import LexicalFrontEnd.Proofs.Scanner.Literal

/-!
The scans of a scanner.

A scan of a source comes to what a scan of its cursor comes to, if its loops are
given more rounds than there are characters left (`scan_agrees`).
-/

namespace LexicalFrontEnd

open Lexeme

/-! ## The width of a gap, piece by piece -/

namespace Lexeme.Trivia

theorem widthFrom_add (trivia : Trivia) (n : Nat) (text : List Char) :
    widthFrom trivia n text = n + widthFrom trivia 0 text := by
  induction text generalizing trivia n with
  | nil => cases trivia <;> rfl
  | cons c text ih =>
    cases trivia with
    | comment =>
      rw [widthFrom, widthFrom, ih, ih _ (0 + 1)]
      omega
    | blank =>
      rw [widthFrom, widthFrom]
      split
      · rw [ih, ih _ (0 + 1)]
        omega
      · split
        · rw [ih, ih _ (0 + 1)]
          omega
        · rfl

theorem width_blanks (text : List Char) :
    let blanks := text.takeWhile Unicode.isBlank
    width text = blanks.length + width (text.drop blanks.length) := by
  induction text with
  | nil => rfl
  | cons c text ih =>
    cases hc : Unicode.isBlank c with
    | false =>
      rw [List.takeWhile_cons_of_neg (by rw [hc]; exact Bool.false_ne_true)]
      exact (Nat.zero_add _).symm
    | true =>
      have hrun : (c :: text).takeWhile Unicode.isBlank = c :: text.takeWhile Unicode.isBlank :=
        List.takeWhile_cons_of_pos hc
      have hwidth : width (c :: text) = 1 + width text := by
        rw [width, widthFrom, if_pos hc, widthFrom_add]
        rfl
      simp only [hrun, List.length_cons, List.drop_succ_cons]
      rw [hwidth, ih]
      omega

theorem head?_drop_blanks (text : List Char) (c : Char)
    (h : (text.drop (text.takeWhile Unicode.isBlank).length).head? = some c) :
    Unicode.isBlank c = false := by
  induction text with
  | nil => cases h
  | cons d text ih =>
    cases hd : Unicode.isBlank d with
    | true =>
      rw [List.takeWhile_cons_of_pos hd] at h
      exact ih h
    | false =>
      rw [List.takeWhile_cons_of_neg (by rw [hd]; exact Bool.false_ne_true)] at h
      rwa [← Option.some.inj h]

/-- A comment ends with its line or with the text. -/
theorem width_comment (rest : List Char) :
    let comment := ('/' :: '/' :: rest).takeWhile (· != '\n')
    width ('/' :: '/' :: rest) =
      comment.length + width (('/' :: '/' :: rest).drop comment.length) := by
  have hcomment : ('/' :: '/' :: rest).takeWhile (· != '\n') =
      '/' :: '/' :: rest.takeWhile (· != '\n') := rfl
  have hbody : '\n' ∉ rest.takeWhile (· != '\n') := by
    intro h
    have hp := List.all_takeWhile (p := (· != '\n')) (l := rest)
    exact absurd (List.all_eq_true.mp hp _ h) (by decide)
  have hsplit : rest.takeWhile (· != '\n') ++ rest.dropWhile (· != '\n') = rest :=
    List.takeWhile_append_dropWhile
  have hdrop : rest.drop (rest.takeWhile (· != '\n')).length = rest.dropWhile (· != '\n') := by
    have h := @List.drop_left _ (rest.takeWhile (· != '\n')) (rest.dropWhile (· != '\n'))
    rwa [hsplit] at h
  intro comment
  rw [show comment = _ from hcomment, List.length_cons, List.length_cons, List.drop_succ_cons,
    List.drop_succ_cons, hdrop]
  have hwidth : width ('/' :: '/' :: rest) =
      widthFrom .comment (0 + ('/' :: '/' :: rest.takeWhile (· != '\n')).length)
        (rest.dropWhile (· != '\n')) := by
    have h := widthFrom_comment _ hbody 0 (rest.dropWhile (· != '\n'))
    rwa [List.cons_append, List.cons_append, hsplit] at h
  rw [hwidth, widthFrom_add, Nat.zero_add]
  congr 1
  cases hrest : rest.dropWhile (· != '\n') with
  | nil => rfl
  | cons c rest' =>
    have hne : rest.dropWhile (· != '\n') ≠ [] := by
      rw [hrest]
      exact List.cons_ne_nil c rest'
    have hhead := List.head_dropWhile_not (· != '\n') hne
    simp only [hrest, List.head_cons, bne_eq_false_iff_eq] at hhead
    subst hhead
    have hnewline : ['\n'].head? = some '\n' := rfl
    exact widthFrom_comment_newline hnewline 0 rest'

end Lexeme.Trivia

/-! ## Gaps -/

namespace Cursor

variable {p : Position} {rest : List Char} {failure? : Option Source.SourceError}

/-- A gap may be passed in pieces. -/
theorem skipTrivia_split {n : Nat}
    (h : Trivia.width rest = n + Trivia.width (rest.drop n)) :
    skipTrivia ⟨p, rest, failure?⟩ =
      advanceBy ⟨p, rest, failure?⟩ n >>= fun next => next.skipTrivia := by
  rw [skipTrivia, h]
  cases hn : advanceBy ⟨p, rest, failure?⟩ n with
  | error failure => rw [advanceBy_add_of_error hn]; rfl
  | ok next =>
    rw [advanceBy_add_of_ok hn]
    show _ = next.skipTrivia
    rw [skipTrivia, eq_of_advanceBy hn]

theorem advanceBy_zero {c : Char} :
    advanceBy ⟨p, c :: rest, failure?⟩ 0 = .ok ⟨p, c :: rest, failure?⟩ := rfl

/-- A slash that starts no comment is a lexeme, but what follows has to be
known. -/
theorem skipTrivia_slash (h : rest.head? ≠ some '/') :
    skipTrivia ⟨p, '/' :: rest, failure?⟩ =
      (advanceBy ⟨p, '/' :: rest, failure?⟩ 1).map fun _ => ⟨p, '/' :: rest, failure?⟩ := by
  have hstart : Starts '/' rest := ⟨by decide, fun hslash => h hslash.2⟩
  have hwidth : Trivia.width ('/' :: rest) = 0 := widthFrom_start hstart 0
  rw [skipTrivia, hwidth, advanceBy_zero]
  show (do lookAhead _; pure _) = _
  rw [lookAhead]
  cases advanceBy ⟨p, '/' :: rest, failure?⟩ 1 <;> rfl

theorem skipTrivia_none (hblank : ∀ c, rest.head? = some c → Unicode.isBlank c = false)
    (hslash : rest.head? ≠ some '/') (hend : rest = [] → failure? = none) :
    skipTrivia ⟨p, rest, failure?⟩ = .ok ⟨p, rest, failure?⟩ := by
  cases rest with
  | nil =>
    rw [hend rfl]
    rfl
  | cons c rest =>
    have hc : c ≠ '/' := fun h => hslash (congrArg some h)
    have hstart : Starts c rest := ⟨hblank c rfl, fun h => hc h.1⟩
    have hwidth : Trivia.width (c :: rest) = 0 := widthFrom_start hstart 0
    rw [skipTrivia, hwidth, advanceBy_zero]
    show (if (c :: rest).head? = some '/' then _ else _) = _
    rw [if_neg hslash]
    rfl

end Cursor

namespace Scanner

variable {rounds : Nat} {rest text : List Char}

theorem isBlank_sentinel : Unicode.isBlank sentinel = false := by decide

theorem passComment_reads (taken : Nat) (text : List Char) (hrounds : rest.length < rounds) :
    Reads (passComment rounds) taken text rest
      (taken + (rest.takeWhile (· != '\n')).length) () text := by
  induction rounds generalizing rest taken with
  | zero => exact absurd hrounds (Nat.not_lt_zero _)
  | succ rounds ih =>
    rw [passComment]
    refine Reads.isAtEnd_bind ?_
    cases rest with
    | nil => exact Reads.current_bind (Reads.pure _ _ _ _)
    | cons c rest =>
      refine Reads.current_cons ?_
      show Reads (if (c == '\n') = true then _ else _) _ _ _ _ _ _
      by_cases hc : c = '\n'
      · subst hc
        exact Reads.pure _ _ _ _
      · have hrun : (c :: rest).takeWhile (· != '\n') = c :: rest.takeWhile (· != '\n') :=
          List.takeWhile_cons_of_pos (bne_iff_ne.mpr hc)
        rw [if_neg (mt beq_iff_eq.mp hc), hrun, List.length_cons, Nat.add_comm _ 1,
          ← Nat.add_assoc]
        exact Reads.advance_bind (ih (taken + 1) (Nat.lt_of_succ_lt_succ hrounds))

section Gap

variable {source : Source} {p : Position} {failure? : Option Source.SourceError}

/-- A slash is looked behind.  If it starts a comment, the gap goes on behind
that. -/
theorem slash_agrees (hrounds : rest.length < rounds)
    (h : source.Stands ⟨p, '/' :: rest, failure?⟩)
    (hgo : ∀ {source p rest}, rest.length < rounds → source.Stands ⟨p, rest, failure?⟩ →
      Agrees () text (skipTrivia rounds ⟨source, text⟩)
        (Cursor.skipTrivia ⟨p, rest, failure?⟩)) :
    Agrees () text
      ((do
        if (← peek) == '/' then
          passComment (rounds + 1)
          skipTrivia rounds
        else return () : Action Unit) ⟨source, text⟩)
      (Cursor.skipTrivia ⟨p, '/' :: rest, failure?⟩) := by
  have hpeek := Reads.peek_agrees h text
  by_cases hslash : rest.head? = some '/'
  · obtain ⟨rest, rfl⟩ := List.head?_eq_some_iff.mp hslash
    generalize hresult : peek ⟨source, text⟩ = result at hpeek
    cases hpeek with
    | stands hstands =>
      rw [bind_of_ok hresult, Cursor.skipTrivia_split (Trivia.width_comment rest)]
      have hcomment :=
        (passComment_reads 0 text (Nat.succ_lt_succ hrounds)).agrees hstands
      rw [Nat.zero_add, Nat.sub_zero] at hcomment
      refine hcomment.bind ?_
      intro source cursor hcursor hstands
      rw [Cursor.eq_of_advanceBy hcursor] at hstands ⊢
      refine hgo ?_ hstands
      show (rest.drop (rest.takeWhile (· != '\n')).length).length < rounds
      exact length_drop_lt (Nat.lt_of_succ_lt hrounds)
  · have hnext : (front rest == '/') = false := front_beq (by decide) hslash
    rw [Cursor.skipTrivia_slash hslash, ← bind_pure (Except.map _ _)]
    refine hpeek.bind ?_
    intro source cursor _ hstands
    show Agrees () text ((if (front rest == '/') = true then _ else _ : Action Unit) _) _
    rw [hnext]
    exact .stands hstands

theorem skipTrivia_agrees (text : List Char) (hrounds : rest.length < rounds)
    (h : source.Stands ⟨p, rest, failure?⟩) :
    Agrees () text (skipTrivia rounds ⟨source, text⟩) (Cursor.skipTrivia ⟨p, rest, failure?⟩) := by
  induction rounds generalizing source p rest with
  | zero => exact absurd hrounds (Nat.not_lt_zero _)
  | succ rounds ih =>
    rw [skipTrivia, Cursor.skipTrivia_split (Trivia.width_blanks rest)]
    have hblanks :=
      (Reads.advanceWhile 0 text isBlank_sentinel hrounds).agrees h
    rw [Nat.zero_add, Nat.sub_zero] at hblanks
    refine hblanks.bind ?_
    intro source cursor hcursor hstands
    have hlt := length_drop_lt (n := (rest.takeWhile Unicode.isBlank).length) hrounds
    have hblank := Trivia.head?_drop_blanks rest
    rw [Cursor.eq_of_advanceBy hcursor] at hstands ⊢
    generalize p.afterText _ = p at hstands ⊢
    generalize rest.drop (rest.takeWhile Unicode.isBlank).length = rest at *
    rw [current_apply hstands]
    by_cases hslash : rest.head? = some '/'
    · obtain ⟨rest, rfl⟩ := List.head?_eq_some_iff.mp hslash
      exact slash_agrees (Nat.lt_of_succ_lt_succ hlt) hstands ih
    · rw [front_beq (by decide) hslash, Cursor.skipTrivia_none hblank hslash]
      · exact .stands hstands
      · rintro rfl
        exact hstands.failure_nil

end Gap

/-! ## Whole scans -/

inductive Result.Agrees : Result → Scan → Prop
  | exhausted {source : Source} :
    source.isAtEnd = true → Result.Agrees (.exhausted source) .exhausted
  | failed (failure : ReadFailure) (start? : Option Position) :
    Result.Agrees (.failed failure start?) (.failed failure start?)
  | found {lexeme : Lexeme} {start : Position} {next : Source} {cursor : Cursor} :
    next.Stands cursor →
    Result.Agrees (.found lexeme.verdict lexeme.text start next) (.found lexeme start cursor)

theorem scan_agrees (lexicon : Lexicon) {source : Source} {cursor : Cursor}
    (hrounds : cursor.rest.length < rounds) (h : source.Stands cursor) :
    ∃ result, scan lexicon rounds source = some result ∧
      result.Agrees (cursor.scan lexicon) := by
  have htrivia := skipTrivia_agrees [] hrounds h
  rw [scan, Cursor.scan]
  generalize hskip : cursor.skipTrivia = skipped at htrivia
  generalize skipTrivia rounds ⟨source, []⟩ = skipping at htrivia
  cases htrivia with
  | failed failure => exact ⟨_, rfl, .failed failure none⟩
  | @stands source cursor hstands =>
    have hle := Cursor.length_rest_le_of_skipTrivia hskip
    obtain ⟨p, rest, failure?⟩ := cursor
    cases rest with
    | nil =>
      have hend : source.isAtEnd = true := by rw [Source.isAtEnd, hstands.current]; rfl
      simp only [hend, if_true]
      exact ⟨_, rfl, .exhausted hend⟩
    | cons c rest =>
      have hend : source.isAtEnd = false := by rw [Source.isAtEnd, hstands.current]; rfl
      have hlexeme := (takes_lexeme lexicon c (Nat.lt_of_le_of_lt hle hrounds)).agrees hstands
      rw [Nat.sub_zero] at hlexeme
      simp only [hend, Bool.false_eq_true, if_false, hstands.position rfl]
      generalize lexeme lexicon rounds ⟨source, []⟩ = reading at hlexeme
      generalize Cursor.advanceBy ⟨p, c :: rest, failure?⟩ _ = moved at hlexeme
      cases hlexeme with
      | failed failure => exact ⟨_, rfl, .failed failure _⟩
      | stands hnext => exact ⟨_, rfl, .found hnext⟩

end Scanner

end LexicalFrontEnd
