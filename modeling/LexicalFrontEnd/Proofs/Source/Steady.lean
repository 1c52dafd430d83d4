import LexicalFrontEnd.Proofs.Source.Decoding

/-!
Streams without their failures.

A reader may fail and go on, so failures may stand between any two bytes of a
stream.  Leaving them all out gives a stream that never fails (`steady`).  The
next character of a stream is that of its steady stream, or a failure is reported
instead and passed, which takes no byte along (`next_cases`).
-/

namespace LexicalFrontEnd
namespace Source

namespace Signal

def allBytes : List Signal → List UInt8
  | [] => []
  | .byte b :: rest => b :: allBytes rest
  | .failure _ :: rest => allBytes rest

variable {n : Nat} {signals rest : List Signal} {message : String}

/-- A failure that is passed takes no byte along. -/
theorem allBytes_of_failureAmong (h : failureAmong n signals = some (message, rest)) :
    allBytes rest = allBytes signals := by
  induction signals generalizing n rest with
  | nil =>
    rw [failureAmong_nil] at h
    cases h
  | cons signal signals ih =>
    cases n with
    | zero => cases h
    | succ n =>
      cases signal with
      | failure text =>
        cases h
        rfl
      | byte b =>
        obtain ⟨found, hfound, hrest⟩ := Option.map_eq_some_iff.mp h
        cases hrest
        rw [allBytes, allBytes, ih hfound]

/-- Where no failure stands among the first signals, the bytes that can be had are
the next ones. -/
theorem take_allBytes (h : failureAmong n signals = none) :
    (allBytes signals).take n = (bytes signals).take n := by
  induction signals generalizing n with
  | nil => rfl
  | cons signal signals ih =>
    cases n with
    | zero => rfl
    | succ n =>
      cases signal with
      | failure text => cases h
      | byte b => rw [allBytes, bytes, List.take_succ_cons, List.take_succ_cons,
          ih (Option.map_eq_none_iff.mp h)]

theorem drop_allBytes (h : failureAmong n signals = none) :
    allBytes (signals.drop n) = (allBytes signals).drop n := by
  induction signals generalizing n with
  | nil => rw [List.drop_nil, allBytes, List.drop_nil]
  | cons signal signals ih =>
    cases n with
    | zero => rfl
    | succ n =>
      cases signal with
      | failure text => cases h
      | byte b => rw [List.drop_succ_cons, allBytes, List.drop_succ_cons,
          ih (Option.map_eq_none_iff.mp h)]

end Signal

namespace Stream

variable {s t : Stream}

def steady (s : Stream) : Stream := ⟨(Signal.allBytes s.signals).map .byte, s.offset⟩

theorem await_steady (n : Nat) (s : Stream) : s.steady.await n = (.ok (), s.steady) :=
  await_bytes n _ _

theorem ready_steady (s : Stream) : s.steady.ready = Signal.allBytes s.signals := by
  have h := Signal.bytes_append (Signal.allBytes s.signals) []
  rwa [List.append_nil, Signal.bytes, List.append_nil] at h

/-- Waiting for bytes reports a failure and passes it, or brings the bytes that
there are without failures. -/
theorem await_cases (n : Nat) (s : Stream) :
    (∃ message t, s.await n = (.error (.io message), t) ∧ t.steady = s.steady) ∨
    (s.await n = (.ok (), s) ∧ s.steady.ready.take n = s.ready.take n ∧
      (s.drop n).steady = s.steady.drop n) := by
  rw [await]
  cases h : Signal.failureAmong n s.signals with
  | some found =>
    obtain ⟨message, rest⟩ := found
    refine Or.inl ⟨message, _, rfl, ?_⟩
    rw [steady, steady, Signal.allBytes_of_failureAmong h]
  | none =>
    refine Or.inr ⟨rfl, ?_, ?_⟩
    · rw [ready_steady]
      exact Signal.take_allBytes h
    · rw [steady, steady, drop, drop, Signal.drop_allBytes h, List.map_drop]

/-- The next character is reported to be out of reach because of a failure, or it
is what it is without failures. -/
theorem next_cases (s : Stream) :
    (∃ message t, s.next = (.error (.io message), t) ∧ t.steady = s.steady) ∨
    (∃ result t, s.next = (result, t) ∧ s.steady.next = (result, t.steady) ∧
      ∀ e, result = .error e → t = s ∧ ∀ message, e ≠ .io message) := by
  rcases await_cases 1 s with ⟨message, t, hawait, hsteady⟩ | ⟨hawait, htake, -⟩
  · exact Or.inl ⟨message, t, by rw [next, hawait], hsteady⟩
  · have hhead : s.steady.ready.head? = s.ready.head? := by
      have h := congrArg List.head? htake
      rwa [List.head?_take, List.head?_take, if_neg Nat.one_ne_zero, if_neg Nat.one_ne_zero] at h
    rw [next, next, hawait, await_steady]
    simp only
    rw [hhead]
    cases s.ready.head? with
    | none => exact Or.inr ⟨_, _, rfl, rfl, by simp⟩
    | some lead =>
      simp only
      cases Text.Utf8.width? lead with
      | none => exact Or.inr ⟨_, _, rfl, rfl, by simp⟩
      | some width =>
        simp only
        rw [await_steady]
        rcases await_cases width s with ⟨message, t, hawait, hsteady⟩ | ⟨hawait, htake, hdrop⟩
        · exact Or.inl ⟨message, t, by rw [hawait], hsteady⟩
        · have hlength : s.steady.ready.length < width ↔ s.ready.length < width := by
            have h := congrArg List.length htake
            rw [List.length_take, List.length_take] at h
            omega
          rw [hawait]
          simp only [hlength, htake]
          by_cases hshort : s.ready.length < width
          · rw [if_pos hshort, if_pos hshort]
            exact Or.inr ⟨_, _, rfl, rfl, by simp⟩
          · rw [if_neg hshort, if_neg hshort]
            cases Text.Utf8.decode? (s.ready.take width) with
            | none => exact Or.inr ⟨_, _, rfl, rfl, by simp⟩
            | some c =>
              refine Or.inr ⟨_, _, rfl, ?_, by simp⟩
              simp only
              rw [hdrop]

end Stream

end Source
end LexicalFrontEnd
