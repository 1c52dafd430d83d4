import LexicalFrontEnd.Proofs.Source.Delivery

/-!
Sources and cursors.

A cursor has all characters that are still to come before it, and a source gets
them one by one.  A source `Stands` at a cursor if it will get the same
characters and then the same end or failure, whether it has looked at the next
one or not.  Moving on takes both to the same place or meets the same failure
(`follows_advance`), looking ahead changes nothing (`follows_peek`), and a reader
is opened at the cursor of all that it delivers (`stands_ofReader`).
-/

namespace LexicalFrontEnd
namespace Source

/-! ## The character behind the current one -/

theorem Stream.next_of_deliver_cut {s : Stream} {e : SourceError} (h : s.deliver = ⟨[], some e⟩) :
    ∃ t, s.next = (.error e, t) := by
  cases hnext : s.next with | mk result t =>
  rcases result with e' | _ | c
  · rw [deliver_of_error hnext] at h
    cases h
    exact ⟨t, rfl⟩
  · rw [deliver_of_end hnext] at h
    cases h
  · rw [deliver_of_char hnext] at h
    cases h

theorem Stream.next_of_deliver_nil {s : Stream} (h : s.deliver = ⟨[], none⟩) :
    ∃ t, s.next = (.ok none, t) := by
  cases hnext : s.next with | mk result t =>
  rcases result with e | _ | c
  · rw [deliver_of_error hnext] at h
    cases h
  · exact ⟨t, rfl⟩
  · rw [deliver_of_char hnext] at h
    cases h

theorem Stream.next_of_deliver_cons {s : Stream} {c : Char} {text : List Char}
    {failure? : Option SourceError} (h : s.deliver = ⟨c :: text, failure?⟩) :
    ∃ t, s.next = (.ok (some c), t) ∧ t.deliver = ⟨text, failure?⟩ := by
  cases hnext : s.next with | mk result t =>
  rcases result with e | _ | d
  · rw [deliver_of_error hnext] at h
    cases h
  · rw [deliver_of_end hnext] at h
    cases h
  · rw [deliver_of_char hnext] at h
    cases h
    exact ⟨t, rfl, rfl⟩

/-- The characters behind the current one, and the failure behind them if there
is one.  The first of them may have been looked at. -/
inductive Brings (s : Source) : List Char → Option SourceError → Prop
  | unread {text : List Char} {failure? : Option SourceError} : s.lookahead = .unread →
    s.decoder.stream.deliver = ⟨text, failure?⟩ → Brings s text failure?
  | read {c : Char} {text : List Char} {failure? : Option SourceError} :
    s.lookahead = .read (some c) → s.decoder.stream.deliver = ⟨text, failure?⟩ →
    Brings s (c :: text) failure?
  | ended : s.lookahead = .read none → Brings s [] none

section Pull

variable {s : Source} {e : SourceError} {c : Char} {text : List Char}
  {failure? : Option SourceError}

theorem pull_eq_of_unread (h : s.lookahead = .unread) :
    s.pull = (s.decoder.next.1, { s with decoder := s.decoder.next.2 }) := by
  rw [pull, h]

theorem pull_cut (hwf : s.decoder.buffer.WellFormed) (h : s.Brings [] (some e)) :
    ∃ t, s.pull = (.error e, t) := by
  cases h with
  | unread hlookahead hdeliver =>
    obtain ⟨hrefines, -⟩ := s.decoder.next_refines hwf
    obtain ⟨stream, hnext⟩ := Stream.next_of_deliver_cut hdeliver
    rw [hnext] at hrefines
    rw [pull_eq_of_unread hlookahead, (Prod.mk.inj hrefines).1]
    exact ⟨_, rfl⟩

theorem pull_nil (hwf : s.decoder.buffer.WellFormed) (h : s.Brings [] none) :
    ∃ decoder, s.pull = (.ok none, { s with decoder, lookahead := .unread }) ∧
      decoder.buffer.WellFormed := by
  cases h with
  | unread hlookahead hdeliver =>
    obtain ⟨hrefines, hwf⟩ := s.decoder.next_refines hwf
    obtain ⟨stream, hnext⟩ := Stream.next_of_deliver_nil hdeliver
    rw [hnext] at hrefines
    rw [pull_eq_of_unread hlookahead, (Prod.mk.inj hrefines).1, ← hlookahead]
    exact ⟨_, rfl, hwf⟩
  | ended hlookahead =>
    rw [pull, hlookahead]
    exact ⟨_, rfl, hwf⟩

theorem pull_cons (hwf : s.decoder.buffer.WellFormed) (h : s.Brings (c :: text) failure?) :
    ∃ decoder, s.pull = (.ok (some c), { s with decoder, lookahead := .unread }) ∧
      decoder.buffer.WellFormed ∧ decoder.stream.deliver = ⟨text, failure?⟩ := by
  cases h with
  | unread hlookahead hdeliver =>
    obtain ⟨hrefines, hwf⟩ := s.decoder.next_refines hwf
    obtain ⟨stream, hnext, hbehind⟩ := Stream.next_of_deliver_cons hdeliver
    rw [hnext] at hrefines
    obtain ⟨hchar, rfl⟩ := Prod.mk.inj hrefines
    rw [pull_eq_of_unread hlookahead, hchar, ← hlookahead]
    exact ⟨_, rfl, hwf, hbehind⟩
  | read hlookahead hdeliver =>
    rw [pull, hlookahead]
    exact ⟨_, rfl, hwf, hdeliver⟩

end Pull

/-! ## Standing at a cursor -/

/-- The source stands where the cursor is, with the same characters to come. -/
inductive Stands (s : Source) : Cursor → Prop
  | ended {p : Position} : s.current? = none → s.position = p → Stands s ⟨p, [], none⟩
  | char {p : Position} {c : Char} {rest : List Char} {failure? : Option SourceError} :
    s.decoder.buffer.WellFormed → s.current? = some c → s.position = p.after c →
    s.Brings rest failure? → Stands s ⟨p, c :: rest, failure?⟩

/-- Move on; a failure has the place of the current character. -/
def moveOn (s : Source) : Except ReadFailure Source :=
  match s.advance with
  | (.ok _, t) => .ok t
  | (.error e, _) => .error ⟨e, s.position⟩

def lookOn (s : Source) : Except ReadFailure (Option Char × Source) :=
  match s.peek with
  | (.ok next?, t) => .ok (next?, t)
  | (.error e, _) => .error ⟨e, s.position⟩

inductive Follows : Except ReadFailure Source → Except ReadFailure Cursor → Prop
  | failed (failure : ReadFailure) : Follows (.error failure) (.error failure)
  | stands {s : Source} {cursor : Cursor} : s.Stands cursor → Follows (.ok s) (.ok cursor)

section

variable {s : Source} {cursor : Cursor}

theorem Stands.current (h : s.Stands cursor) : s.current? = cursor.rest.head? := by
  cases h with
  | ended hcurrent => exact hcurrent
  | char _ hcurrent => exact hcurrent

theorem Stands.position {c : Char} {rest : List Char} (h : s.Stands cursor)
    (hrest : cursor.rest = c :: rest) : s.position = cursor.before.after c := by
  cases h with
  | ended => cases hrest
  | char _ _ hposition =>
    cases hrest
    exact hposition

/-- A source that has ended does not fail behind its end. -/
theorem Stands.failure_nil {p : Position} {failure? : Option SourceError}
    (h : s.Stands ⟨p, [], failure?⟩) : failure? = none := by
  cases h with
  | ended => rfl

theorem follows_advance (h : s.Stands cursor) : Follows s.moveOn (cursor.advanceBy 1) := by
  cases h with
  | ended hcurrent hposition =>
    rw [moveOn, advance, isAtEnd, hcurrent]
    exact .stands (.ended hcurrent hposition)
  | @char p c rest failure? hwf hcurrent hposition hbrings =>
    have hend : s.isAtEnd = false := by rw [isAtEnd, hcurrent]; rfl
    rw [moveOn, advance, hend, if_neg Bool.false_ne_true]
    cases rest with
    | nil =>
      cases failure? with
      | some e =>
        obtain ⟨t, hpull⟩ := pull_cut hwf hbrings
        rw [hpull, hposition]
        exact .failed ⟨e, p.after c⟩
      | none =>
        obtain ⟨decoder, hpull, -⟩ := pull_nil hwf hbrings
        rw [hpull]
        exact .stands (.ended rfl hposition)
    | cons d rest =>
      obtain ⟨decoder, hpull, hwf, hdeliver⟩ := pull_cons hwf hbrings
      rw [hpull]
      refine .stands (.char hwf rfl ?_ (.unread rfl hdeliver))
      show s.position.after d = _
      rw [hposition]

theorem follows_peek (h : s.Stands cursor) :
    Follows (s.lookOn.map Prod.snd) ((cursor.advanceBy 1).map fun _ => cursor) ∧
      ∀ next? t, s.lookOn = .ok (next?, t) → next? = cursor.rest.tail.head? := by
  cases h with
  | ended hcurrent hposition =>
    rw [lookOn, peek, isAtEnd, hcurrent]
    refine ⟨.stands (.ended hcurrent hposition), ?_⟩
    rintro next? t h
    cases h
    rfl
  | @char p c rest failure? hwf hcurrent hposition hbrings =>
    have hend : s.isAtEnd = false := by rw [isAtEnd, hcurrent]; rfl
    rw [lookOn, peek, hend, if_neg Bool.false_ne_true]
    cases rest with
    | nil =>
      cases failure? with
      | some e =>
        obtain ⟨t, hpull⟩ := pull_cut hwf hbrings
        rw [hpull, hposition]
        refine ⟨.failed ⟨e, p.after c⟩, ?_⟩
        rintro next? t h
        cases h
      | none =>
        obtain ⟨decoder, hpull, hwf⟩ := pull_nil hwf hbrings
        rw [hpull]
        refine ⟨.stands (.char hwf hcurrent hposition (.ended rfl)), ?_⟩
        rintro next? t h
        cases h
        rfl
    | cons d rest =>
      obtain ⟨decoder, hpull, hwf, hdeliver⟩ := pull_cons hwf hbrings
      rw [hpull]
      refine ⟨.stands (.char hwf hcurrent hposition (.read rfl hdeliver)), ?_⟩
      rintro next? t h
      cases h
      rfl

/-- A reader is opened at the cursor of what it delivers, unless that is nothing
but a failure. -/
theorem stands_ofReader (r : Reader) (capacity : Nat) :
    match r.stream.deliver with
    | ⟨[], some e⟩ => ofReader r capacity = .error e
    | ⟨text, failure?⟩ => ∃ s, ofReader r capacity = .ok s ∧ s.Stands ⟨.start, text, failure?⟩ := by
  obtain ⟨hrefines, hwf⟩ :=
    (Decoder.ofReader r capacity).next_refines (Buffer.wellFormed_empty capacity)
  rw [Decoder.stream_ofReader] at hrefines
  rw [ofReader]
  generalize (Decoder.ofReader r capacity).next = answer at hrefines hwf
  obtain ⟨result, decoder⟩ := answer
  cases hdeliver : r.stream.deliver with | mk text failure? =>
  cases text with
  | nil =>
    cases failure? with
    | some e =>
      obtain ⟨stream, hnext⟩ := Stream.next_of_deliver_cut hdeliver
      obtain ⟨rfl, -⟩ := Prod.mk.inj (hrefines.trans hnext)
      rfl
    | none =>
      obtain ⟨stream, hnext⟩ := Stream.next_of_deliver_nil hdeliver
      obtain ⟨rfl, -⟩ := Prod.mk.inj (hrefines.trans hnext)
      exact ⟨_, rfl, .ended rfl rfl⟩
  | cons c text =>
    obtain ⟨stream, hnext, hbehind⟩ := Stream.next_of_deliver_cons hdeliver
    obtain ⟨rfl, rfl⟩ := Prod.mk.inj (hrefines.trans hnext)
    exact ⟨_, rfl, .char hwf rfl rfl (.unread rfl hbehind)⟩

/-- A source that has just been opened stands at its own cursor. -/
theorem stands_ofSource {r : Reader} {capacity : Nat} (h : ofReader r capacity = .ok s) :
    s.Stands (.ofSource s) := by
  obtain ⟨-, hwf⟩ := (Decoder.ofReader r capacity).next_refines (Buffer.wellFormed_empty capacity)
  rw [ofReader] at h
  generalize (Decoder.ofReader r capacity).next = answer at h hwf
  obtain ⟨e | first?, decoder⟩ := answer
  · cases h
  · cases h
    rw [ofSource_of_unread rfl hwf]
    cases first? with
    | none => exact .ended rfl rfl
    | some c => exact .char hwf rfl rfl (.unread rfl rfl)

end

/-! ## What is left -/

/-- The characters that a source still gets, the current one first. -/
def left (s : Source) : List Char := s.drain.chars.map Prod.fst

theorem chars_drainOnto {s : Source} {cursor : Cursor} (h : s.Stands cursor)
    (done : List (Char × Position)) :
    (s.drainOnto done).chars.map Prod.fst = done.reverse.map Prod.fst ++ cursor.rest := by
  obtain ⟨p, text, failure?⟩ := cursor
  induction text generalizing s p done with
  | nil =>
    rw [drainOnto]
    split
    · exact (List.append_nil _).symm
    · rename_i c hcurrent
      rw [h.current] at hcurrent
      cases hcurrent
  | cons c text ih =>
    rw [drainOnto]
    split
    · rename_i hcurrent
      rw [h.current] at hcurrent
      cases hcurrent
    · rename_i d hcurrent
      obtain rfl : c = d := Option.some.inj (h.current.symm.trans hcurrent)
      have hfollows := follows_advance h
      rw [moveOn] at hfollows
      split
      · rename_i e next hadvance
        rw [hadvance] at hfollows
        cases text with
        | nil => rw [List.reverse_cons, List.map_append]; rfl
        | cons d text => cases hfollows
      · rename_i moved next hadvance
        have hmove : Cursor.advanceBy ⟨p, c :: text, failure?⟩ 1 =
            .ok ⟨p.after c, text, failure?⟩ := by
          cases text with
          | cons d text => rfl
          | nil =>
            cases failure? with
            | none => rfl
            | some e => rw [hadvance] at hfollows; cases hfollows
        rw [hadvance, hmove] at hfollows
        cases hfollows with
        | stands hnext =>
          rw [ih _ _ hnext, List.reverse_cons, List.map_append, List.append_assoc]
          rfl

theorem left_eq {s : Source} {cursor : Cursor} (h : s.Stands cursor) : s.left = cursor.rest :=
  chars_drainOnto h []

end Source
end LexicalFrontEnd
