import LexicalFrontEnd.Proofs.Scan
import LexicalFrontEnd.Proofs.Scanner.Basic

/-!
What a part of a scan takes from a text.

`Reads` says of an action that it takes a lexeme from `taken` characters to
`total`, whatever stands behind them: the source ends up where a cursor would, and
fails where a cursor would.  There is one rule for each thing that a scanner can
do, so the readers of the lexemes are followed step by step.
-/

namespace LexicalFrontEnd

namespace Cursor

variable {p : Position} {rest : List Char} {failure? : Option Source.SourceError}

theorem eq_of_advanceBy {next : Cursor} {n : Nat}
    (h : advanceBy ⟨p, rest, failure?⟩ n = .ok next) :
    next = ⟨p.afterText (rest.take n), rest.drop n, failure?⟩ := by
  simp only [advanceBy, walk_eq, moveTo] at h
  split at h
  · cases h
  · cases h
    rfl

theorem advanceBy_add_of_ok {cursor next : Cursor} {n : Nat} (h : cursor.advanceBy n = .ok next)
    (m : Nat) : cursor.advanceBy (n + m) = next.advanceBy m := by
  rw [eq_of_advanceBy h, advanceBy, advanceBy, walk_eq, walk_eq, List.take_add,
    Position.afterText_append, List.drop_drop]
  rfl

theorem advanceBy_add_of_error {cursor : Cursor} {failure : ReadFailure} {n : Nat}
    (h : cursor.advanceBy n = .error failure) (m : Nat) :
    cursor.advanceBy (n + m) = .error failure := by
  obtain ⟨p, rest, failure?⟩ := cursor
  cases failure? with
  | none =>
    rw [advanceBy_text] at h
    cases h
  | some e =>
    rcases Nat.lt_or_ge n rest.length with hlt | hle
    · rw [advanceBy_of_lt hlt] at h
      cases h
    · rw [advanceBy_of_le hle] at h
      rw [advanceBy_of_le (Nat.le_add_right_of_le hle), h]

end Cursor

namespace Scanner

variable {α β : Type}

theorem bind_of_ok {m : Action α} {k : α → Action β} {a : α} {scanner next : Scanner}
    (h : m scanner = some (.ok (a, next))) : (m >>= k) scanner = k a next := by
  show ExceptT.bind (m scanner) _ = _
  rw [h]
  rfl

theorem bind_of_error {m : Action α} {k : α → Action β} {failure : ReadFailure}
    {scanner : Scanner} (h : m scanner = some (.error failure)) :
    (m >>= k) scanner = some (.error failure) := by
  show ExceptT.bind (m scanner) _ = _
  rw [h]
  rfl

/-- What a text reads as before its first character. -/
def front : List Char → Char
  | [] => sentinel
  | c :: _ => c

theorem front_beq {rest : List Char} {c : Char} (hc : c ≠ sentinel) (h : rest.head? ≠ some c) :
    (front rest == c) = false := by
  cases rest with
  | nil => exact beq_false_of_ne (Ne.symm hc)
  | cons d rest => exact beq_false_of_ne fun hd => h (congrArg some hd)

/-- An action and a cursor have met the same failure, or the action gave `a`, left
`text` and has its source where the cursor is. -/
inductive Agrees (a : α) (text : List Char) :
    ExceptT ReadFailure Option (α × Scanner) → Except ReadFailure Cursor → Prop
  | failed (failure : ReadFailure) : Agrees a text (some (.error failure)) (.error failure)
  | stands {source : Source} {cursor : Cursor} : source.Stands cursor →
    Agrees a text (some (.ok (a, ⟨source, text⟩))) (.ok cursor)

theorem Agrees.bind {m : Action α} {k : α → Action β} {a : α} {b : β} {text text' : List Char}
    {scanner : Scanner} {moved : Except ReadFailure Cursor}
    {go : Cursor → Except ReadFailure Cursor} (h : Agrees a text (m scanner) moved)
    (hk : ∀ source cursor, moved = .ok cursor → source.Stands cursor →
      Agrees b text' (k a ⟨source, text⟩) (go cursor)) :
    Agrees b text' ((m >>= k) scanner) (moved >>= go) := by
  generalize hm : m scanner = result at h
  cases h with
  | failed failure =>
    rw [bind_of_error hm]
    exact .failed failure
  | @stands source cursor hstands =>
    rw [bind_of_ok hm]
    exact hk source cursor rfl hstands

/-- The current character is the first one of what is to come. -/
theorem current_apply {source : Source} {cursor : Cursor} (h : source.Stands cursor)
    {k : Char → Action β} {text : List Char} :
    (current >>= k) ⟨source, text⟩ = k (front cursor.rest) ⟨source, text⟩ := by
  have hcurrent : source.current?.getD sentinel = front cursor.rest := by
    rw [h.current]
    cases cursor.rest <;> rfl
  rw [← hcurrent]
  rfl

/-- Behind `taken` characters of a lexeme, with `text` as its text so far and `rest`
to come, the action takes it to `total` characters, gives `a` and leaves `text'`. -/
structure Reads (m : Action α) (taken : Nat) (text rest : List Char) (total : Nat) (a : α)
    (text' : List Char) : Prop where
  le : taken ≤ total
  agrees : ∀ {source : Source} {p : Position} {failure? : Option Source.SourceError},
    source.Stands ⟨p, rest, failure?⟩ →
      Agrees a text' (m ⟨source, text⟩) (Cursor.advanceBy ⟨p, rest, failure?⟩ (total - taken))

namespace Reads

variable {m : Action α} {k : α → Action β} {a : α} {b : β} {taken middle total : Nat}
  {text text₁ text' rest : List Char} {c : Char}

theorem pure (a : α) (taken : Nat) (text rest : List Char) :
    Reads (Pure.pure a) taken text rest taken a text := by
  refine ⟨Nat.le_refl _, ?_⟩
  intro source p failure? h
  rw [Nat.sub_self]
  cases h with
  | ended hcurrent hposition => exact .stands (.ended hcurrent hposition)
  | char hwf hcurrent hposition hbrings => exact .stands (.char hwf hcurrent hposition hbrings)

theorem bind (hm : Reads m taken text rest middle a text₁)
    (hk : Reads (k a) middle text₁ (rest.drop (middle - taken)) total b text') :
    Reads (m >>= k) taken text rest total b text' := by
  have hfirst := hm.le
  have hsecond := hk.le
  refine ⟨Nat.le_trans hfirst hsecond, ?_⟩
  intro source p failure? h
  have hsum : total - taken = (middle - taken) + (total - middle) := by omega
  have hmoved : Cursor.advanceBy ⟨p, rest, failure?⟩ (total - taken) =
      Cursor.advanceBy ⟨p, rest, failure?⟩ (middle - taken) >>= fun next =>
        next.advanceBy (total - middle) := by
    rw [hsum]
    cases hadvance : Cursor.advanceBy ⟨p, rest, failure?⟩ (middle - taken) with
    | error failure => exact Cursor.advanceBy_add_of_error hadvance _
    | ok next => exact Cursor.advanceBy_add_of_ok hadvance _
  rw [hmoved]
  refine (hm.agrees h).bind ?_
  intro source cursor hcursor hstands
  rw [Cursor.eq_of_advanceBy hcursor] at hstands ⊢
  exact hk.agrees hstands

/-! ## One step -/

section Step

variable {k : Unit → Action β}

theorem push_bind (h : Reads (k ()) taken (text ++ [c]) rest total b text') :
    Reads (push c >>= k) taken text rest total b text' :=
  ⟨h.le, fun hs => h.agrees hs⟩

theorem setText_bind (h : Reads (k ()) taken text₁ rest total b text') :
    Reads (setText text₁ >>= k) taken text rest total b text' :=
  ⟨h.le, fun hs => h.agrees hs⟩

theorem advance_agrees {source : Source} {cursor : Cursor} (h : source.Stands cursor)
    (text : List Char) : Agrees () text (advance ⟨source, text⟩) (cursor.advanceBy 1) := by
  have hfollows := Source.follows_advance h
  show Agrees () text (some (source.moveOn.map fun source => ((), ⟨source, text⟩))) _
  generalize source.moveOn = step at hfollows ⊢
  generalize cursor.advanceBy 1 = moved at hfollows ⊢
  cases hfollows with
  | failed failure => exact .failed failure
  | stands hstands => exact .stands hstands

theorem advance (text : List Char) (taken : Nat) (rest : List Char) :
    Reads Scanner.advance taken text rest (taken + 1) () text := by
  refine ⟨Nat.le_succ _, ?_⟩
  intro source p failure? h
  rw [Nat.add_sub_cancel_left]
  exact advance_agrees h text

theorem advance_bind (h : Reads (k ()) (taken + 1) text rest total b text') :
    Reads (Scanner.advance >>= k) taken text (c :: rest) total b text' := by
  refine bind (advance text taken (c :: rest)) ?_
  rwa [Nat.add_sub_cancel_left]

theorem bump_bind (h : Reads (k ()) (taken + 1) (text ++ [c]) rest total b text') :
    Reads (bump >>= k) taken text (c :: rest) total b text' := by
  have hbump : Reads bump taken text (c :: rest) (taken + 1) () (text ++ [c]) := by
    refine ⟨Nat.le_succ _, ?_⟩
    intro source p failure? hs
    have hcurrent : source.current?.getD sentinel = c := by rw [hs.current]; rfl
    have hpushed : bump ⟨source, text⟩ = Scanner.advance ⟨source, text ++ [c]⟩ := by
      rw [← hcurrent]
      rfl
    rw [hpushed]
    exact (advance (text ++ [c]) taken (c :: rest)).agrees hs
  refine bind hbump ?_
  rwa [Nat.add_sub_cancel_left]

end Step

/-! ## One look -/

theorem current_bind {k : Char → Action β}
    (h : Reads (k (front rest)) taken text rest total b text') :
    Reads (current >>= k) taken text rest total b text' := by
  refine ⟨h.le, ?_⟩
  intro source p failure? hs
  rw [current_apply hs]
  exact h.agrees hs

theorem current_cons {k : Char → Action β}
    (h : Reads (k c) taken text (c :: rest) total b text') :
    Reads (current >>= k) taken text (c :: rest) total b text' := current_bind h

theorem isAtEnd_bind {k : Bool → Action β}
    (h : Reads (k rest.isEmpty) taken text rest total b text') :
    Reads (isAtEnd >>= k) taken text rest total b text' := by
  refine ⟨h.le, ?_⟩
  intro source p failure? hs
  have hend : source.isAtEnd = rest.isEmpty := by
    rw [Source.isAtEnd, hs.current]
    cases rest <;> rfl
  have hlook : (isAtEnd >>= k) ⟨source, text⟩ = k rest.isEmpty ⟨source, text⟩ := by
    rw [← hend]
    rfl
  rw [hlook]
  exact h.agrees hs

theorem textSoFar_bind {k : List Char → Action β}
    (h : Reads (k text) taken text rest total b text') :
    Reads (textSoFar >>= k) taken text rest total b text' :=
  ⟨h.le, fun hs => h.agrees hs⟩

theorem peek_agrees {source : Source} {cursor : Cursor} (h : source.Stands cursor)
    (text : List Char) :
    Agrees (front cursor.rest.tail) text (peek ⟨source, text⟩)
      ((cursor.advanceBy 1).map fun _ => cursor) := by
  obtain ⟨hfollows, hnext⟩ := Source.follows_peek h
  show Agrees _ text (some (source.lookOn.map fun found =>
    (found.1.getD sentinel, ⟨found.2, text⟩))) _
  generalize source.lookOn = look at hfollows hnext ⊢
  generalize (cursor.advanceBy 1).map (fun _ => cursor) = moved at hfollows ⊢
  cases look with
  | error failure =>
    cases hfollows
    exact .failed failure
  | ok found =>
    obtain ⟨next?, source⟩ := found
    have hfront : front cursor.rest.tail = next?.getD sentinel := by
      rw [hnext next? source rfl]
      cases cursor.rest.tail <;> rfl
    cases hfollows with
    | stands hstands =>
      rw [hfront]
      exact .stands hstands

/-- Looking behind the current character is safe where that belongs to the
lexeme. -/
theorem peek_bind {k : Char → Action β} (hlt : taken < total)
    (h : Reads (k (front rest.tail)) taken text rest total b text') :
    Reads (peek >>= k) taken text rest total b text' := by
  refine ⟨h.le, ?_⟩
  intro source p failure? hs
  have hagrees := peek_agrees hs text
  have hsum : total - taken = 1 + (total - taken - 1) := by omega
  cases hmoved : Cursor.advanceBy ⟨p, rest, failure?⟩ 1 with
  | error failure =>
    rw [hmoved] at hagrees
    generalize hpeek : peek ⟨source, text⟩ = result at hagrees
    cases hagrees
    rw [bind_of_error hpeek, hsum, Cursor.advanceBy_add_of_error hmoved]
    exact .failed failure
  | ok next =>
    rw [hmoved] at hagrees
    generalize hpeek : peek ⟨source, text⟩ = result at hagrees
    cases hagrees with
    | stands hstands =>
      rw [bind_of_ok hpeek]
      exact h.agrees hstands

/-! ## Runs of characters -/

section Run

variable {p : Char → Bool} {rounds : Nat}

theorem takeWhile_of_front (hfront : p (front rest) = false) : rest.takeWhile p = [] := by
  cases rest with
  | nil => rfl
  | cons c rest =>
    have hc : p c = false := hfront
    exact List.takeWhile_cons_of_neg (by rw [hc]; exact Bool.false_ne_true)

/-- A run that ends before the sentinel ends within a round more than there are
characters. -/
theorem advanceWhile (taken : Nat) (text : List Char) (hp : p sentinel = false)
    (hrounds : rest.length < rounds) :
    Reads (Scanner.advanceWhile p rounds) taken text rest
      (taken + (rest.takeWhile p).length) () text := by
  induction rounds generalizing rest taken with
  | zero => exact absurd hrounds (Nat.not_lt_zero _)
  | succ rounds ih =>
    rw [Scanner.advanceWhile]
    refine current_bind ?_
    cases hfront : p (front rest) with
    | false =>
      rw [takeWhile_of_front hfront]
      exact pure () taken text rest
    | true =>
      cases rest with
      | nil => exact absurd (hp.symm.trans hfront) Bool.false_ne_true
      | cons c rest =>
        have hrun : (c :: rest).takeWhile p = c :: rest.takeWhile p :=
          List.takeWhile_cons_of_pos hfront
        rw [if_pos rfl, hrun, List.length_cons, Nat.add_comm _ 1, ← Nat.add_assoc]
        exact advance_bind (ih (taken + 1) (Nat.lt_of_succ_lt_succ hrounds))

theorem bumpWhile (hp : p sentinel = false) (hrounds : rest.length < rounds) :
    Reads (Scanner.bumpWhile p rounds) taken text rest (taken + (rest.takeWhile p).length)
      (rest.takeWhile p).length (text ++ rest.takeWhile p) := by
  induction rounds generalizing rest taken text with
  | zero => exact absurd hrounds (Nat.not_lt_zero _)
  | succ rounds ih =>
    rw [Scanner.bumpWhile]
    refine current_bind ?_
    cases hfront : p (front rest) with
    | false =>
      rw [takeWhile_of_front hfront, List.append_nil]
      exact pure 0 taken text rest
    | true =>
      cases rest with
      | nil => exact absurd (hp.symm.trans hfront) Bool.false_ne_true
      | cons c rest =>
        have hrun : (c :: rest).takeWhile p = c :: rest.takeWhile p :=
          List.takeWhile_cons_of_pos hfront
        rw [if_pos rfl, hrun, List.length_cons, Nat.add_comm _ 1, ← Nat.add_assoc,
          List.append_cons]
        refine bump_bind (bind (ih (Nat.lt_of_succ_lt_succ hrounds)) ?_)
        rw [Nat.add_comm 1]
        exact pure _ _ _ _

theorem bumpWhile_bind {k : Nat → Action β} (hp : p sentinel = false)
    (hrounds : rest.length < rounds)
    (h : Reads (k (rest.takeWhile p).length) (taken + (rest.takeWhile p).length)
      (text ++ rest.takeWhile p) (rest.drop (rest.takeWhile p).length) total b text') :
    Reads (Scanner.bumpWhile p rounds >>= k) taken text rest total b text' := by
  refine bind (bumpWhile hp hrounds) ?_
  rwa [Nat.add_sub_cancel_left]

end Run

end Reads
end Scanner
end LexicalFrontEnd
