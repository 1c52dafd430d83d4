import LexicalFrontEnd.Lexeme.Literal
import LexicalFrontEnd.Proofs.Lexeme.OneAhead

/-!
Literals look one character ahead and stay on their line.
-/

namespace LexicalFrontEnd

/-- A backslash and a newline are no escape. -/
theorem Escape.ne_newline_of_decode? {letter c : Char} (h : decode? letter = some c) :
    letter ≠ '\n' := by
  rintro rfl
  cases h

namespace Lexeme
namespace Literal

/-! ## Passing over the rest of a literal -/

section PassOver

variable {quote c : Char} {passed rest : List Char}

theorem passOver_newline :
    passOver quote passed ('\n' :: rest) = (passed.reverse, .line) := by
  rw [passOver.eq_def]
  rfl

theorem passOver_backslash (hc : c ≠ '\n') :
    passOver quote passed ('\\' :: c :: rest) = passOver quote (c :: '\\' :: passed) rest := by
  rw [passOver, if_neg hc]

theorem passOver_backslash_newline :
    passOver quote passed ('\\' :: '\n' :: rest) = (('\\' :: passed).reverse, .line) := by
  rw [passOver, if_pos rfl]

theorem passOver_backslash_nil (hq : quote ≠ '\\') :
    passOver quote passed ['\\'] = (('\\' :: passed).reverse, .text) := by
  rw [passOver, if_neg (by decide), if_neg hq.symm, passOver]
  intro d rest _ h
  cases h

theorem passOver_quote (hc : quote ≠ '\n') (hq : quote ≠ '\\') :
    passOver quote passed (quote :: rest) = ((quote :: passed).reverse, .quote) := by
  rw [passOver.eq_def]
  split
  · rename_i h
    cases h
  · rename_i h
    exact absurd (List.cons.inj h).1 hq
  · rename_i h
    obtain ⟨rfl, rfl⟩ := List.cons.inj h
    rw [if_neg hc, if_pos rfl]

theorem passOver_cons (hc : c ≠ '\n') (hq : c ≠ quote) (hb : c ≠ '\\') :
    passOver quote passed (c :: rest) = passOver quote (c :: passed) rest := by
  rw [passOver.eq_def]
  split
  · rename_i h
    cases h
  · rename_i h
    exact absurd (List.cons.inj h).1 hb
  · rename_i h
    obtain ⟨rfl, rfl⟩ := List.cons.inj h
    rw [if_neg hc, if_neg hq]

end PassOver

theorem oneAhead_passOver (quote : Char) (hn : quote ≠ '\n') (hq : quote ≠ '\\')
    (passed text : List Char) :
    OneAhead (fun result => result.1.length) passed.length (passOver quote passed) text := by
  -- On the length, because a backslash takes two characters at once.
  induction hlen : text.length using Nat.strongRecOn generalizing passed text with
  | ind n ih =>
    cases text with
    | nil => exact OneAhead.stop_nil List.length_reverse
    | cons c text =>
      have hlt : text.length < n := by
        rw [← hlen, List.length_cons]
        omega
      by_cases hc : c = '\n'
      · subst hc
        apply OneAhead.stop_cons
        · rw [passOver_newline]
          exact List.length_reverse
        · intro other
          rw [passOver_newline, passOver_newline]
      · refine OneAhead.cons hc ?_
        by_cases hb : c = '\\'
        · subst hb
          cases text with
          | nil =>
            apply OneAhead.stop_nil
            show (passOver quote passed ['\\']).1.length = _
            rw [passOver_backslash_nil hq]
            exact List.length_reverse
          | cons d text =>
            by_cases hd : d = '\n'
            · subst hd
              apply OneAhead.stop_cons
              · rw [passOver_backslash_newline]
                exact List.length_reverse
              · intro other
                rw [passOver_backslash_newline, passOver_backslash_newline]
            · refine OneAhead.cons hd ?_
              simp only [passOver_backslash hd]
              exact ih text.length (Nat.lt_of_succ_lt hlt) (d :: '\\' :: passed) text rfl
        · by_cases hclose : c = quote
          · subst hclose
            apply OneAhead.stop
            · rw [passOver_quote hc hb]
              exact List.length_reverse
            · intro other _
              rw [passOver_quote hc hb, passOver_quote hc hb]
          · simp only [passOver_cons hc hclose hb]
            exact ih text.length hlt (c :: passed) text rfl

/-! ## Strings -/

section Body

variable {taken rest : List Char} {width : Nat} {c letter : Char}

theorem body_escape (h : Escape.decode? letter = some c) :
    body taken width ('\\' :: letter :: rest) = body (c :: taken) (width + 2) rest := by
  rw [body, h]

theorem body_unknown (h : Escape.decode? letter = none) :
    body taken width ('\\' :: letter :: rest) =
      ⟨taken.reverse ++ '\\' :: (passOver '"' [] (letter :: rest)).1,
        width + 1 + (passOver '"' [] (letter :: rest)).1.length, some .unknownEscape⟩ := by
  rw [body, h]

theorem body_cons (hq : c ≠ '"') (hn : c ≠ '\n') (hb : c ≠ '\\') :
    body taken width (c :: rest) = body (c :: taken) (width + 1) rest := by
  rw [body.eq_def]
  split
  · rename_i h
    cases h
  · rename_i h
    exact absurd (List.cons.inj h).1 hq
  · rename_i h
    exact absurd (List.cons.inj h).1 hn
  · rename_i h
    exact absurd (List.cons.inj h).1 hb
  · rename_i h
    exact absurd (List.cons.inj h).1 hb
  · rename_i h
    obtain ⟨rfl, rfl⟩ := List.cons.inj h
    rfl

end Body

theorem oneAhead_body (taken : List Char) (width : Nat) (text : List Char) :
    OneAhead Body.width width (body taken width) text := by
  -- On the length, because an escape takes two characters at once.
  induction hlen : text.length using Nat.strongRecOn generalizing taken width text with
  | ind n ih =>
    cases text with
    | nil => exact OneAhead.stop_nil rfl
    | cons c text =>
      have hlt : text.length < n := by
        rw [← hlen, List.length_cons]
        omega
      by_cases hn : c = '\n'
      · subst hn
        exact OneAhead.stop_cons rfl fun other => rfl
      · refine OneAhead.cons hn ?_
        by_cases hq : c = '"'
        · subst hq
          exact OneAhead.stop rfl fun _ _ => rfl
        · by_cases hb : c = '\\'
          · subst hb
            cases text with
            | nil => exact OneAhead.stop_nil rfl
            | cons letter text =>
              cases hletter : Escape.decode? letter with
              | some d =>
                refine OneAhead.cons (Escape.ne_newline_of_decode? hletter) ?_
                simp only [body_escape hletter]
                exact ih text.length (Nat.lt_of_succ_lt hlt) (d :: taken) (width + 2) text rfl
              | none =>
                have h := OneAhead.map Body.width
                  (fun result : List Char × Ending => Body.mk (taken.reverse ++ '\\' :: result.1)
                    (width + 1 + result.1.length) (some .unknownEscape)) (width + 1)
                  (fun _ => rfl)
                  (oneAhead_passOver '"' (by decide) (by decide) [] (letter :: text))
                apply OneAhead.of_head h
                intro other hother
                obtain ⟨t, rfl⟩ := List.head?_eq_some_iff.mp hother
                exact body_unknown hletter
          · simp only [body_cons hq hn hb]
            exact ih text.length hlt (c :: taken) (width + 1) text rfl

def ofBody (b : Body) : Lexeme :=
  b.problem?.elim ⟨.token .string none, b.text, b.width + 1⟩ fun problem =>
    ⟨.malformed problem, '"' :: b.text, b.width + 1⟩

theorem readString_eq (text : List Char) : readString text = ofBody (body [] 0 text) := by
  rw [readString, ofBody]
  cases (body [] 0 text).problem? <;> rfl

theorem oneAhead_readString (text : List Char) : OneAhead Lexeme.width 1 readString text := by
  have hwidth (b : Body) : (ofBody b).width = 1 + b.width := by
    rw [ofBody, Nat.add_comm]
    cases b.problem? <;> rfl
  rw [funext readString_eq]
  exact OneAhead.map Lexeme.width ofBody 1 hwidth (oneAhead_body [] 0 text)

/-! ## Characters -/

theorem close_of_ne {text : List Char} (h : text.head? ≠ some '\'') (front : List Char) (c : Char) :
    close front c text =
      verbatim (.malformed (passOver '\'' [] text).2.problem)
        (front ++ (passOver '\'' [] text).1) := by
  unfold close
  split
  · exact absurd rfl h
  · rfl

/-- A malformed literal is what was read of it and what is passed over. -/
theorem oneAhead_passed (verdict : Ending → Verdict) (front text : List Char) :
    OneAhead Lexeme.width front.length
      (fun t => verbatim (verdict (passOver '\'' [] t).2) (front ++ (passOver '\'' [] t).1))
      text :=
  OneAhead.map Lexeme.width
    (fun result : List Char × Ending => verbatim (verdict result.2) (front ++ result.1))
    front.length (fun _ => List.length_append)
    (oneAhead_passOver '\'' (by decide) (by decide) [] text)

theorem oneAhead_close (front : List Char) (c : Char) (text : List Char) :
    OneAhead Lexeme.width front.length (close front c) text := by
  by_cases hclose : text.head? = some '\''
  · obtain ⟨text, rfl⟩ := List.head?_eq_some_iff.mp hclose
    exact OneAhead.cons (by decide) (OneAhead.stop rfl fun _ _ => rfl)
  · apply OneAhead.of_head
      (oneAhead_passed (fun ending => .malformed ending.problem) front text)
    intro other hother
    exact close_of_ne (by rwa [hother]) front c

theorem readCharacter_escape {letter c : Char} (h : Escape.decode? letter = some c)
    (rest : List Char) :
    readCharacter ('\\' :: letter :: rest) = close ['\'', '\\', letter] c rest := by
  rw [readCharacter, h]

theorem readCharacter_unknown {letter : Char} (h : Escape.decode? letter = none)
    (rest : List Char) :
    readCharacter ('\\' :: letter :: rest) =
      verbatim (.malformed .unknownEscape)
        (['\'', '\\'] ++ (passOver '\'' [] (letter :: rest)).1) := by
  rw [readCharacter, h]

theorem readCharacter_cons {c : Char} (hn : c ≠ '\n') (hq : c ≠ '\'') (hb : c ≠ '\\')
    (rest : List Char) : readCharacter (c :: rest) = close ['\'', c] c rest := by
  rw [readCharacter.eq_def]
  split
  · rename_i h
    cases h
  · rename_i h
    exact absurd (List.cons.inj h).1 hn
  · rename_i h
    exact absurd (List.cons.inj h).1 hq
  · rename_i h
    exact absurd (List.cons.inj h).1 hb
  · rename_i h
    exact absurd (List.cons.inj h).1 hb
  · rename_i h
    obtain ⟨rfl, rfl⟩ := List.cons.inj h
    rfl

theorem oneAhead_readCharacter (text : List Char) :
    OneAhead Lexeme.width 1 readCharacter text := by
  cases text with
  | nil => exact OneAhead.stop_nil rfl
  | cons c text =>
    by_cases hn : c = '\n'
    · subst hn
      exact OneAhead.stop_cons rfl fun other => rfl
    · refine OneAhead.cons hn ?_
      by_cases hq : c = '\''
      · subst hq
        exact OneAhead.stop rfl fun _ _ => rfl
      · by_cases hb : c = '\\'
        · subst hb
          cases text with
          | nil => exact OneAhead.stop_nil rfl
          | cons letter text =>
            cases hletter : Escape.decode? letter with
            | some d =>
              refine OneAhead.cons (Escape.ne_newline_of_decode? hletter) ?_
              simp only [readCharacter_escape hletter]
              exact oneAhead_close ['\'', '\\', letter] d text
            | none =>
              apply OneAhead.of_head
                (oneAhead_passed (fun _ => .malformed .unknownEscape) ['\'', '\\']
                  (letter :: text))
              intro other hother
              obtain ⟨t, rfl⟩ := List.head?_eq_some_iff.mp hother
              exact readCharacter_unknown hletter t
        · simp only [readCharacter_cons hn hq hb]
          exact oneAhead_close ['\'', c] c text

end Literal
end Lexeme
end LexicalFrontEnd
