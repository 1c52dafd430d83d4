import LexicalFrontEnd.Proofs.Source.Calls
import LexicalFrontEnd.Proofs.Source.Steady

/-!
Failures that a source survives.

A reader may fail and go on.  A call that reports such a failure changes nothing
that can be seen of the source, and it takes nothing from what the source still
delivers (`pending`), so the call may be made again.  The theorem this file
exists for is `steps_of_failing_reader`: the calls that report no failure of the
reader go as they go over a reader of the same bytes that never fails, and each
failure of the reader is reported by one call.

The proof runs the two sources side by side.  They are twins (`Twin`) as long as
one of them is before the bytes that the other is before; a call that reports a
failure is made on the first one only.
-/

namespace LexicalFrontEnd
namespace Source

section

variable {s t u : Source} {next? : Option Char} {e : SourceError}

/-! ## Twins -/

/-- The source `t` stands where `s` stands, over the same bytes without
failures. -/
structure Twin (s t : Source) : Prop where
  wellFormed : s.decoder.buffer.WellFormed
  wellFormed_steady : t.decoder.buffer.WellFormed
  stream : t.decoder.stream = s.decoder.stream.steady
  lookahead : t.lookahead = s.lookahead
  current : t.current? = s.current?
  position : t.position = s.position

theorem Twin.isAtEnd (h : Twin s t) : t.isAtEnd = s.isAtEnd := by
  rw [Source.isAtEnd, Source.isAtEnd, h.current]

/-- A character is taken out of both of them, or a failure out of the first. -/
theorem Twin.pull (h : Twin s t) :
    (∃ message u, s.pull = (.error (.io message), u) ∧ Twin u t) ∨
    (∃ result u v, s.pull = (result, u) ∧ t.pull = (result, v) ∧ Twin u v ∧
      ∀ e, result = .error e → Twin u t ∧ ∀ message, e ≠ .io message) := by
  cases hlookahead : s.lookahead with
  | read next? =>
    have ht : t.lookahead = .read next? := h.lookahead.trans hlookahead
    refine Or.inr ⟨.ok next?, { s with lookahead := .unread }, { t with lookahead := .unread },
      by rw [Source.pull, hlookahead], by rw [Source.pull, ht], ?_, by simp⟩
    exact ⟨h.wellFormed, h.wellFormed_steady, h.stream, rfl, h.current, h.position⟩
  | unread =>
    have ht : t.lookahead = .unread := h.lookahead.trans hlookahead
    obtain ⟨hs, hwf⟩ := s.decoder.next_refines h.wellFormed
    obtain ⟨ht', hwf'⟩ := t.decoder.next_refines h.wellFormed_steady
    have hpull := pull_of_unread hlookahead
    have hpull' := pull_of_unread ht
    rcases s.decoder.stream.next_cases with ⟨message, stream, hnext, hsteady⟩ |
      ⟨result, stream, hnext, hsteady, herror⟩
    · obtain ⟨hresult, hstream⟩ := Prod.mk.inj (hs.trans hnext)
      rw [hresult] at hpull
      refine Or.inl ⟨message, _, hpull, hwf, h.wellFormed_steady, ?_, ht, h.current, h.position⟩
      rw [h.stream, ← hsteady, ← hstream]
    · obtain ⟨hresult, hstream⟩ := Prod.mk.inj (hs.trans hnext)
      rw [h.stream, hsteady] at ht'
      obtain ⟨hresult', hstream'⟩ := Prod.mk.inj ht'
      rw [hresult] at hpull
      rw [hresult'] at hpull'
      refine Or.inr ⟨result, _, _, hpull, hpull', ?_, ?_⟩
      · exact ⟨hwf, hwf', by rw [hstream', ← hstream], rfl, h.current, h.position⟩
      · intro e he
        obtain ⟨hkept, hother⟩ := herror e he
        refine ⟨⟨hwf, h.wellFormed_steady, ?_, ht, h.current, h.position⟩, hother⟩
        rw [h.stream, ← hkept, ← hstream]

theorem Twin.settle (h : Twin s t) (next? : Option Char) (call : Call) :
    Twin (s.settle next? call) (t.settle next? call) := by
  cases call with
  | advance =>
    refine ⟨h.wellFormed, h.wellFormed_steady, h.stream, h.lookahead, rfl, ?_⟩
    show placeAfter t.position next? = placeAfter s.position next?
    rw [h.position]
  | peek => exact ⟨h.wellFormed, h.wellFormed_steady, h.stream, rfl, h.current, h.position⟩

/-- A call that fails leaves the source where its twin is.  One that reports no
failure of the reader goes as it goes on the twin. -/
theorem Twin.call (h : Twin s t) (call : Call) :
    (∀ e, s.reply call = .error e → Twin (s.call call) t) ∧
    (reported? (s.reply call) = none →
      t.reply call = s.reply call ∧ Twin (s.call call) (t.call call)) := by
  cases hend : s.isAtEnd with
  | true =>
    obtain ⟨hreply, hcall⟩ := call_of_end hend call
    obtain ⟨hreply', hcall'⟩ := call_of_end (h.isAtEnd.trans hend) call
    rw [hreply, hcall, hreply', hcall']
    exact ⟨fun e he => (nomatch he), fun _ => ⟨rfl, h⟩⟩
  | false =>
    have hend' : t.isAtEnd = false := h.isAtEnd.trans hend
    rcases h.pull with ⟨message, u, hpull, htwin⟩ | ⟨result, u, v, hpull, hpull', htwin, herror⟩
    · obtain ⟨hreply, hcall⟩ := call_of_error hend hpull call
      rw [hreply, hcall]
      exact ⟨fun _ _ => htwin, fun hnone => (nomatch hnone)⟩
    · cases result with
      | error e =>
        obtain ⟨hreply, hcall⟩ := call_of_error hend hpull call
        obtain ⟨hreply', hcall'⟩ := call_of_error hend' hpull' call
        rw [hreply, hcall, hreply', hcall']
        exact ⟨fun _ _ => (herror e rfl).1, fun _ => ⟨rfl, htwin⟩⟩
      | ok next? =>
        obtain ⟨hreply, hcall⟩ := call_of_ok hend hpull call
        obtain ⟨hreply', hcall'⟩ := call_of_ok hend' hpull' call
        rw [hreply, hcall, hreply', hcall']
        exact ⟨fun e he => (nomatch he), fun _ => ⟨rfl, htwin.settle next? call⟩⟩

/-- Without the steps that report a failure, a run is one of the twin. -/
theorem Twin.steps (h : Twin s t) (calls : List Call) :
    let kept := (s.steps calls).filter (·.failure?.isNone)
    t.steps (kept.map Step.call) = kept ∧
      Twin (s.callAll calls) (t.callAll (kept.map Step.call)) := by
  induction calls generalizing s t with
  | nil => exact ⟨rfl, h⟩
  | cons call calls ih =>
    obtain ⟨hfailed, hkept⟩ := h.call call
    simp only [Source.steps, List.filter_cons]
    by_cases hnone : reported? (s.reply call) = none
    · obtain ⟨hreply, htwin⟩ := hkept hnone
      have hstep : t.step call = s.step call := by
        rw [step, step, hreply, htwin.current, htwin.position]
      obtain ⟨hsteps, hlast⟩ := ih htwin
      rw [if_pos (by show (reported? (s.reply call)).isNone = true; rw [hnone]; rfl)]
      refine ⟨?_, hlast⟩
      show t.step call :: _ = _
      rw [hstep]
      exact congrArg _ hsteps
    · rw [if_neg (by
        show ¬(reported? (s.reply call)).isNone = true
        rwa [Option.isNone_iff_eq_none])]
      obtain ⟨message, hmessage⟩ := Option.ne_none_iff_exists'.mp hnone
      cases hreply : s.reply call with
      | ok told =>
        rw [hreply, reported?_ok] at hmessage
        cases hmessage
      | error e => exact ih (hfailed e hreply)

/-! ## What is still to come -/

def Delivery.following (next? : Option Char) (behind : Delivery) : Delivery :=
  match next? with
  | none => ⟨[], none⟩
  | some c => { behind with text := c :: behind.text }

/-- What the source still delivers to one who makes a call again as often as it
reports a failure of the reader. -/
def pending (s : Source) : Delivery :=
  if s.isAtEnd then ⟨[], none⟩
  else
    match s.lookahead with
    | .unread => s.decoder.stream.steady.deliver
    | .read next? => .following next? s.decoder.stream.steady.deliver

theorem Stream.deliver_of_next {s t : Stream} (h : s.next = (.ok next?, t)) :
    s.deliver = .following next? t.deliver := by
  cases next? with
  | none => exact deliver_of_end h
  | some c => exact deliver_of_char h

theorem Twin.pending_eq (h : Twin s t) (h' : Twin u t) : u.pending = s.pending := by
  rw [pending, pending, ← h.isAtEnd, ← h'.isAtEnd, ← h.lookahead, ← h'.lookahead, ← h.stream,
    ← h'.stream]

theorem pending_of_unread (hend : s.isAtEnd = false) (h : s.lookahead = .unread) :
    s.pending = s.decoder.stream.steady.deliver := by
  rw [pending, hend, if_neg Bool.false_ne_true, h]

theorem next_steady_of_pull (hwf : s.decoder.buffer.WellFormed) (hlookahead : s.lookahead = .unread)
    {result : Except SourceError (Option Char)} (hpull : s.pull = (result, u))
    (hresult : ∀ message, result ≠ .error (.io message)) :
    u.lookahead = .unread ∧ s.decoder.stream.steady.next = (result, u.decoder.stream.steady) := by
  rw [pull_of_unread hlookahead] at hpull
  obtain ⟨rfl, rfl⟩ := Prod.mk.inj hpull
  refine ⟨rfl, ?_⟩
  obtain ⟨hnext, -⟩ := s.decoder.next_refines hwf
  rcases s.decoder.stream.next_cases with ⟨message, stream, hfail, -⟩ |
    ⟨result, stream, hcalm, hsteady, -⟩
  · rw [hfail] at hnext
    exact absurd (Prod.mk.inj hnext).1 (hresult message)
  · rw [hcalm] at hnext
    obtain ⟨rfl, rfl⟩ := Prod.mk.inj hnext
    exact hsteady

theorem pending_of_pull (hwf : s.decoder.buffer.WellFormed) (hend : s.isAtEnd = false)
    (hpull : s.pull = (.ok next?, u)) :
    u.lookahead = .unread ∧ s.pending = .following next? u.decoder.stream.steady.deliver := by
  cases hlookahead : s.lookahead with
  | read found? =>
    rw [pending, hend, if_neg Bool.false_ne_true, hlookahead]
    rw [pull, hlookahead] at hpull
    cases hpull
    exact ⟨rfl, rfl⟩
  | unread =>
    obtain ⟨hunread, hnext⟩ := next_steady_of_pull hwf hlookahead hpull (by simp)
    rw [pending_of_unread hend hlookahead]
    exact ⟨hunread, Stream.deliver_of_next hnext⟩

theorem pending_of_refused (hwf : s.decoder.buffer.WellFormed) (hend : s.isAtEnd = false)
    (hpull : s.pull = (.error e, u)) (he : ∀ message, e ≠ .io message) :
    s.pending = ⟨[], some e⟩ := by
  cases hlookahead : s.lookahead with
  | read found? =>
    rw [pull, hlookahead] at hpull
    cases hpull
  | unread =>
    obtain ⟨-, hnext⟩ := next_steady_of_pull hwf hlookahead hpull (by simpa using he)
    rw [pending_of_unread hend hlookahead]
    exact Stream.deliver_of_error hnext

/-- Moving on takes the next character from what is still to come. -/
theorem pending_of_moved (hwf : s.decoder.buffer.WellFormed) {told : Told}
    (h : s.reply .advance = .ok told) :
    s.pending = .following (s.call .advance).current? (s.call .advance).pending := by
  cases hend : s.isAtEnd with
  | true =>
    rw [(call_of_end hend .advance).2, pending, if_pos hend, Option.isNone_iff_eq_none.mp hend]
    rfl
  | false =>
    cases hpull : s.pull with
    | mk result u =>
      cases result with
      | error e =>
        rw [(call_of_error hend hpull .advance).1] at h
        cases h
      | ok next? =>
        obtain ⟨hlookahead, hpending⟩ := pending_of_pull hwf hend hpull
        rw [(call_of_ok hend hpull .advance).2, hpending]
        cases next? with
        | none => rfl
        | some c =>
          have hunread : (u.settle (some c) .advance).lookahead = .unread := hlookahead
          rw [pending_of_unread rfl hunread]
          rfl

/-- A call that fails is refused for ever, or a failure of the reader cuts it. -/
theorem pending_of_error (hwf : s.decoder.buffer.WellFormed) {call : Call}
    (h : s.reply call = .error e) :
    (∃ message, e = .io message) ∨ s.pending = ⟨[], some e⟩ := by
  cases e with
  | io message => exact Or.inl ⟨message, rfl⟩
  | invalidUtf8 offset =>
    right
    cases hend : s.isAtEnd with
    | true =>
      rw [(call_of_end hend call).1] at h
      cases h
    | false =>
      cases hpull : s.pull with
      | mk result u =>
        cases result with
        | ok next? =>
          rw [(call_of_ok hend hpull call).1] at h
          cases h
        | error e =>
          rw [(call_of_error hend hpull call).1] at h
          cases h
          exact pending_of_refused hwf hend hpull (by simp)

end

/-- A source that is opened in spite of its reader has a twin. -/
theorem exists_twin {r steady : Reader} {capacity : Nat} {s : Source}
    (hopen : ofReader r capacity = .ok s)
    (hsteady : steady.signals = (Signal.allBytes r.signals).map .byte) (capacity' : Nat) :
    r.failures = s.decoder.reader.failures ∧
      ∃ t, ofReader steady capacity' = .ok t ∧ Twin s t := by
  have hstream : steady.stream = r.stream.steady := by
    rw [Reader.stream, hsteady]
    rfl
  have hfailures := (Decoder.ofReader r capacity).failures_next
  obtain ⟨hnext, hwf⟩ :=
    (Decoder.ofReader r capacity).next_refines (Buffer.wellFormed_empty capacity)
  obtain ⟨hnext', hwf'⟩ :=
    (Decoder.ofReader steady capacity').next_refines (Buffer.wellFormed_empty capacity')
  rw [Decoder.stream_ofReader] at hnext hnext'
  rw [ofReader] at hopen ⊢
  generalize (Decoder.ofReader r capacity).next = answer at hopen hnext hwf hfailures
  generalize (Decoder.ofReader steady capacity').next = answer' at hnext' hwf'
  obtain ⟨_ | first?, decoder⟩ := answer
  · cases hopen
  · cases hopen
    refine ⟨hfailures, ?_⟩
    rcases r.stream.next_cases with ⟨message, stream, hfail, -⟩ | ⟨result, stream, hcalm, hkept, -⟩
    · rw [hfail] at hnext
      cases hnext
    · rw [hcalm] at hnext
      obtain ⟨rfl, rfl⟩ := Prod.mk.inj hnext
      obtain ⟨result', decoder'⟩ := answer'
      rw [hstream, hkept] at hnext'
      obtain ⟨rfl, hstream'⟩ := Prod.mk.inj hnext'
      exact ⟨_, rfl, hwf, hwf', hstream', rfl, rfl, rfl⟩

/-- However often the reader of an opened source fails and goes on, and whatever
calls are made: a call that fails leaves what is seen of the source and what is
still to come.  The calls that report no failure of the reader tell and show what
they do over a reader of the same bytes without failures, and every failure that
the reader has raised is reported by one call. -/
theorem steps_of_failing_reader {r steady : Reader} {capacity : Nat} {s : Source}
    (hopen : ofReader r capacity = .ok s)
    (hsteady : steady.signals = (Signal.allBytes r.signals).map .byte) (capacity' : Nat) :
    ∃ t, ofReader steady capacity' = .ok t ∧
      t.current? = s.current? ∧ t.position = s.position ∧ ∀ calls,
        let steps := s.steps calls
        let kept := steps.filter (·.failure?.isNone)
        let u := s.callAll calls
        t.steps (kept.map Step.call) = kept ∧
        r.failures = steps.filterMap Step.failure? ++ u.decoder.reader.failures ∧
        (∀ told, u.reply .advance = .ok told →
          u.pending = .following (u.call .advance).current? (u.call .advance).pending) ∧
        ∀ call e, u.reply call = .error e →
          (u.call call).current? = u.current? ∧ (u.call call).position = u.position ∧
          (u.call call).isAtEnd = u.isAtEnd ∧ (u.call call).pending = u.pending ∧
          ((∃ message, e = .io message) ∨ u.pending = ⟨[], some e⟩) := by
  obtain ⟨hfailures, t, hopen', htwin⟩ := exists_twin hopen hsteady capacity'
  refine ⟨t, hopen', htwin.current, htwin.position, fun calls => ?_⟩
  obtain ⟨hsteps, hlast⟩ := htwin.steps calls
  intro steps kept u
  refine ⟨hsteps, hfailures.trans (s.failures_steps calls), ?_, ?_⟩
  · intro told htold
    exact pending_of_moved hlast.wellFormed htold
  · intro call e herror
    have hleft : Twin (u.call call) _ := (hlast.call call).1 e herror
    refine ⟨?_, ?_, ?_, hlast.pending_eq hleft, pending_of_error hlast.wellFormed herror⟩
    · exact hleft.current.symm.trans hlast.current
    · exact hleft.position.symm.trans hlast.position
    · exact hleft.isAtEnd.symm.trans hlast.isAtEnd

/-- A letter of two bytes, with two failures between them, and a byte that is no
UTF-8. -/
theorem steps_of_failing_reader_cut_letter :
    let r : Reader :=
      ⟨[.data [0x61, 0xC3], .failure "one", .interrupt, .failure "two", .data [0xA9, 0xFF]], some 1⟩
    let steady : Reader := .ofBytes [0x61, 0xC3, 0xA9, 0xFF]
    let calls : List Call := [.peek, .advance, .peek, .advance, .advance]
    steady.signals = (Signal.allBytes r.signals).map .byte ∧
      ∃ s t, ofReader r 0 = .ok s ∧ ofReader steady 1024 = .ok t ∧
        t.steps [.peek, .advance, .advance] =
          (s.steps calls).filter (·.failure?.isNone) ∧
        (s.steps calls).filterMap Step.failure? = ["one", "two"] := by
  intro r steady calls
  have hsteady : steady.signals = (Signal.allBytes r.signals).map .byte := by decide
  have hrun : (ofReader r 0).toOption.map (fun s =>
      (((s.steps calls).filter (·.failure?.isNone)).map Step.call,
        (s.callAll calls).decoder.reader.failures)) =
      some ([.peek, .advance, .advance], []) := by decide +kernel
  cases hs : ofReader r 0 with
  | error e =>
    rw [hs] at hrun
    cases hrun
  | ok s =>
    rw [hs] at hrun
    obtain ⟨hcalls, hleft⟩ := Prod.mk.inj (Option.some.inj hrun)
    obtain ⟨t, ht, -, -, h⟩ := steps_of_failing_reader hs hsteady 1024
    obtain ⟨hsteps, hfailures, -⟩ := h calls
    rw [hcalls] at hsteps
    rw [hleft, List.append_nil] at hfailures
    exact ⟨hsteady, s, t, rfl, ht, hsteps, hfailures.symm⟩

end Source
end LexicalFrontEnd
