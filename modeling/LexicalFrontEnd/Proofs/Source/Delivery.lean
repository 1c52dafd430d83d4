import LexicalFrontEnd.Proofs.Source.Stream
import LexicalFrontEnd.Session

/-!
What a source delivers to its end.

`Stream.deliver` reads a stream character by character up to its end or its
first failure.  A source that is drained delivers what its stream does
(`drainOnto_delivers`), so the cursor before an opened source, and with it everything
that a session does with a reader, is a function of the signals of the reader
(`attach_eq`).
-/

namespace LexicalFrontEnd
namespace Source

/-- A text, and the failure that cut it short. -/
structure Delivery where
  text : List Char
  failure? : Option SourceError
  deriving DecidableEq, Repr

namespace Stream

theorem length_ready_le (s : Stream) : s.ready.length ≤ s.signals.length := by
  rw [ready]
  induction s.signals with
  | nil => exact Nat.le_refl 0
  | cons signal rest ih =>
    cases signal with
    | byte b => exact Nat.succ_le_succ ih
    | failure message => exact Nat.zero_le _

theorem eq_of_await {s t : Stream} {n : Nat} (h : s.await n = (.ok (), t)) : t = s := by
  unfold await at h
  split at h
  · cases h
    rfl
  · cases h

/-- A character is decoded from the bytes that its lead byte announces, and they
are used up. -/
theorem exists_width_of_next {s t : Stream} {c : Char} (h : s.next = (.ok (some c), t)) :
    ∃ width, 0 < width ∧ width ≤ s.ready.length ∧
      Text.Utf8.decode? (s.ready.take width) = some c ∧ t = s.drop width := by
  unfold next at h
  split at h
  · cases h
  · rename_i s₁ h₁
    obtain rfl := eq_of_await h₁
    split at h
    · cases h
    · rename_i lead hlead
      split at h
      · cases h
      · rename_i width hwidth
        split at h
        · cases h
        · rename_i s₂ h₂
          obtain rfl := eq_of_await h₂
          split at h
          · cases h
          · rename_i hsize
            split at h
            · cases h
            · rename_i hdecode
              cases h
              exact ⟨width, Text.Utf8.width?_pos hwidth, Nat.le_of_not_lt hsize, hdecode, rfl⟩

theorem length_signals_lt_of_next {s t : Stream} {c : Char} (h : s.next = (.ok (some c), t)) :
    t.signals.length < s.signals.length := by
  obtain ⟨width, hpos, hle, -, rfl⟩ := exists_width_of_next h
  have := s.length_ready_le
  show (s.signals.drop width).length < _
  rw [List.length_drop]
  omega

def deliver (s : Stream) : Delivery :=
  match h : s.next with
  | (.error e, _) => ⟨[], some e⟩
  | (.ok none, _) => ⟨[], none⟩
  | (.ok (some c), t) =>
    have := length_signals_lt_of_next h
    { deliver t with text := c :: (deliver t).text }
termination_by s.signals.length

theorem deliver_of_error {s t : Stream} {e : SourceError} (h : s.next = (.error e, t)) :
    s.deliver = ⟨[], some e⟩ := by
  rw [deliver]
  split <;> simp_all

theorem deliver_of_end {s t : Stream} (h : s.next = (.ok none, t)) : s.deliver = ⟨[], none⟩ := by
  rw [deliver]
  split <;> simp_all

theorem deliver_of_char {s t : Stream} {c : Char} (h : s.next = (.ok (some c), t)) :
    s.deliver = { t.deliver with text := c :: t.deliver.text } := by
  rw [deliver]
  split <;> simp_all

end Stream

theorem advance_of_unread {s : Source} {c : Char} (hc : s.current? = some c)
    (hl : s.lookahead = .unread) :
    s.advance =
      match s.decoder.next with
      | (.error e, decoder) => (.error e, { s with decoder })
      | (.ok next?, decoder) =>
        (.ok next?.isSome,
          { s with decoder, current? := next?, position := placeAfter s.position next? }) := by
  obtain ⟨decoder, lookahead, current?, position⟩ := s
  obtain rfl : current? = some c := hc
  obtain rfl : lookahead = .unread := hl
  simp only [advance, isAtEnd, Option.isNone_some, Bool.false_eq_true, if_false, pull]
  generalize decoder.next = answer
  obtain ⟨_ | _, _⟩ := answer <;> rfl

/-- What a source with its current character delivers, behind what was drained
before. -/
def behind (done : List (Char × Position)) (s : Source) : Delivery :=
  match s.current? with
  | none => ⟨done.reverse.map Prod.fst, none⟩
  | some c =>
    ⟨done.reverse.map Prod.fst ++ c :: s.decoder.stream.deliver.text,
      s.decoder.stream.deliver.failure?⟩

theorem drainOnto_delivers (done : List (Char × Position)) (s : Source)
    (hl : s.lookahead = .unread) (hd : s.decoder.buffer.WellFormed) :
    ⟨(s.drainOnto done).chars.map Prod.fst, (s.drainOnto done).failure?⟩ = s.behind done := by
  fun_induction drainOnto done s with
  | case1 done s hs => rw [behind, hs]
  | case2 done s c hs e next h =>
    obtain ⟨hnext, -⟩ := s.decoder.next_refines hd
    rw [advance_of_unread hs hl] at h
    rw [behind, hs]
    generalize s.decoder.next = answer at h hnext
    obtain ⟨_ | _, decoder⟩ := answer
    · cases h
      rw [Stream.deliver_of_error hnext.symm]
      simp
    · cases h
  | case3 done s c hs moved next h _ ih =>
    obtain ⟨hnext, hwf⟩ := s.decoder.next_refines hd
    rw [advance_of_unread hs hl] at h
    generalize s.decoder.next = answer at h hnext hwf
    obtain ⟨_ | next?, decoder⟩ := answer
    · cases h
    · cases h
      rw [ih hl hwf, behind, behind, hs]
      cases next? with
      | none =>
        rw [Stream.deliver_of_end hnext.symm]
        simp
      | some d =>
        rw [Stream.deliver_of_char hnext.symm]
        simp

theorem ofSource_of_unread {s : Source} (hl : s.lookahead = .unread)
    (hd : s.decoder.buffer.WellFormed) :
    Cursor.ofSource s = ⟨.start, (s.behind []).text, (s.behind []).failure?⟩ := by
  rw [← drainOnto_delivers [] s hl hd]
  rfl

/-- A source is opened unless its first character cannot be had, and then
delivers what its reader gives. -/
theorem ofReader_delivers (r : Reader) (capacity : Nat) :
    (ofReader r capacity).map Cursor.ofSource =
      match r.stream.deliver with
      | ⟨[], some e⟩ => .error e
      | ⟨text, failure?⟩ => .ok ⟨.start, text, failure?⟩ := by
  have hwf : (Decoder.ofReader r capacity).buffer.WellFormed := Buffer.wellFormed_empty capacity
  obtain ⟨hnext, hwf⟩ := Decoder.next_refines _ hwf
  rw [Decoder.stream_ofReader] at hnext
  rw [ofReader]
  generalize (Decoder.ofReader r capacity).next = answer at hnext hwf
  obtain ⟨e | first?, decoder⟩ := answer
  · rw [Stream.deliver_of_error hnext.symm]
    rfl
  · show Except.ok (Cursor.ofSource ⟨decoder, .unread, first?, placeAfter .start first?⟩) = _
    rw [ofSource_of_unread rfl hwf]
    cases first? with
    | none => rw [Stream.deliver_of_end hnext.symm]; rfl
    | some c => rw [Stream.deliver_of_char hnext.symm]; rfl

end Source

namespace Session

/-- Opening a reader depends on nothing but what its stream delivers. -/
theorem attach_eq (s : Session) (r : Source.Reader) :
    s.attach r =
      match r.stream.deliver with
      | ⟨[], some e⟩ => (.error (s.fail e .start).1, (s.fail e .start).2)
      | ⟨text, failure?⟩ => (.ok (), { s with state := .ready ⟨.start, text, failure?⟩ }) := by
  have hopen := Source.ofReader_delivers r s.capacity
  rw [attach]
  cases hr : Source.ofReader r s.capacity with
  | error e =>
    rw [hr] at hopen
    split at hopen
    · cases hopen
      rfl
    · cases hopen
  | ok source =>
    rw [hr] at hopen
    split at hopen
    · cases hopen
    · rw [← Except.ok.inj hopen]

end Session
end LexicalFrontEnd
