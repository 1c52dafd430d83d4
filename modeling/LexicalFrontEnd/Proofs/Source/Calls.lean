import LexicalFrontEnd.Proofs.Source.Decoding

/-!
Calls to a source and what they come to.

Both calls take the next character out of the source, if it can be had, and
differ in what they do with it (`settle`) and in what they tell (`told`).  A
failure that the reader raises is reported by the call that meets it, and by no
other (`failures_steps`).
-/

namespace LexicalFrontEnd
namespace Source

/-- What a call tells: moving on tells whether there was a next character, looking
ahead which one it is. -/
inductive Told
  | moved (found : Bool)
  | seen (next? : Option Char)
  deriving DecidableEq, Repr

def Call.told : Call → Option Char → Told
  | .advance, next? => .moved next?.isSome
  | .peek, next? => .seen next?

def reply (s : Source) : Call → Except SourceError Told
  | .advance => s.advance.1.map .moved
  | .peek => s.peek.1.map .seen

def settle (s : Source) (next? : Option Char) : Call → Source
  | .advance => { s with current? := next?, position := placeAfter s.position next? }
  | .peek => { s with lookahead := .read next? }

def reported? {α : Type} : Except SourceError α → Option String
  | .error (.io message) => some message
  | _ => none

theorem reported?_ok {α : Type} (a : α) : reported? (.ok a) = none := rfl

structure Step where
  call : Call
  reply : Except SourceError Told
  current? : Option Char
  position : Position

def Step.failure? (x : Step) : Option String := reported? x.reply

def step (s : Source) (call : Call) : Step :=
  ⟨call, s.reply call, (s.call call).current?, (s.call call).position⟩

def steps (s : Source) : List Call → List Step
  | [] => []
  | call :: calls => s.step call :: (s.call call).steps calls

section

variable {s u : Source} {next? : Option Char} {e : SourceError}

theorem call_of_end (h : s.isAtEnd = true) (call : Call) :
    s.reply call = .ok (call.told none) ∧ s.call call = s := by
  cases call with
  | advance => simp [reply, Source.call, Call.told, advance, h, Except.map]
  | peek => simp [reply, Source.call, Call.told, peek, h, Except.map]

theorem call_of_error (h : s.isAtEnd = false) (hpull : s.pull = (.error e, u)) (call : Call) :
    s.reply call = .error e ∧ s.call call = u := by
  cases call with
  | advance => simp [reply, Source.call, advance, h, hpull, Except.map]
  | peek => simp [reply, Source.call, peek, h, hpull, Except.map]

theorem call_of_ok (h : s.isAtEnd = false) (hpull : s.pull = (.ok next?, u)) (call : Call) :
    s.reply call = .ok (call.told next?) ∧ s.call call = u.settle next? call := by
  cases call with
  | advance => simp [reply, Source.call, Call.told, settle, advance, h, hpull, Except.map]
  | peek => simp [reply, Source.call, Call.told, settle, peek, h, hpull, Except.map]

end

/-! ## Failures are reported once -/

def ReadEvent.failures : List ReadEvent → List String
  | [] => []
  | .failure message :: rest => message :: failures rest
  | _ :: rest => failures rest

def Reader.failures (r : Reader) : List String := ReadEvent.failures r.events

def ReadResult.failure? : ReadResult → Option String
  | .failed message => some message
  | _ => none

theorem Reader.failures_of_read {r s : Reader} {room : Nat} {result : ReadResult}
    (h : r.read room = (result, s)) : r.failures = result.failure?.toList ++ s.failures := by
  obtain ⟨rfl, rfl⟩ := Prod.mk.inj h
  simp only [failures]
  generalize r.events = events
  fun_induction readEvents r.chunk? room events with
  | case1 => rfl
  | case2 rest ih => exact ih
  | case3 bytes rest hne taken => rfl
  | case4 rest => rfl
  | case5 message rest => rfl
  | case6 rest => rfl

namespace Decoder

theorem failures_fill (need : Nat) (d : Decoder) :
    d.reader.failures =
      (reported? (d.fill need).1).toList ++ (d.fill need).2.reader.failures := by
  fun_induction fill need d with
  | case1 => rfl
  | case2 d h buffer reader hread => exact Reader.failures_of_read hread
  | case3 d h buffer b bs reader hread _ ih =>
    rw [← ih]
    exact Reader.failures_of_read hread
  | case4 d h buffer reader hread _ ih =>
    rw [← ih]
    exact Reader.failures_of_read hread
  | case5 d h buffer message reader hread => exact Reader.failures_of_read hread

theorem failures_next (d : Decoder) :
    d.reader.failures = (reported? d.next.1).toList ++ d.next.2.reader.failures := by
  have hone := d.failures_fill 1
  rw [next]
  generalize d.fill 1 = filled at hone
  obtain ⟨e | ⟨⟨⟩⟩, d₁⟩ := filled
  · cases e <;> exact hone
  · simp only [reported?_ok, Option.toList_none, List.nil_append] at hone ⊢
    rw [hone]
    cases d₁.buffer.first? with
    | none => rfl
    | some lead =>
      simp only
      cases Text.Utf8.width? lead with
      | none => rfl
      | some width =>
        simp only
        have hall := d₁.failures_fill width
        generalize d₁.fill width = filled at hall
        obtain ⟨e | ⟨⟨⟩⟩, d₂⟩ := filled
        · cases e <;> exact hall
        · simp only [reported?_ok, Option.toList_none, List.nil_append] at hall ⊢
          rw [hall]
          split
          · rfl
          · split <;> rfl

end Decoder

theorem failures_pull (s : Source) :
    s.decoder.reader.failures =
      (reported? s.pull.1).toList ++ s.pull.2.decoder.reader.failures := by
  rw [pull]
  cases s.lookahead with
  | unread => exact s.decoder.failures_next
  | read next? => rfl

theorem failures_call (s : Source) (call : Call) :
    s.decoder.reader.failures =
      (reported? (s.reply call)).toList ++ (s.call call).decoder.reader.failures := by
  cases hend : s.isAtEnd with
  | true =>
    obtain ⟨hreply, hcall⟩ := call_of_end hend call
    rw [hreply, hcall]
    rfl
  | false =>
    have hfailures := s.failures_pull
    cases hpull : s.pull with
    | mk result u =>
      rw [hpull] at hfailures
      cases result with
      | error e =>
        obtain ⟨hreply, hcall⟩ := call_of_error hend hpull call
        rw [hreply, hcall, hfailures]
        cases e <;> rfl
      | ok next? =>
        obtain ⟨hreply, hcall⟩ := call_of_ok hend hpull call
        rw [hreply, hcall, hfailures]
        cases call <;> rfl

/-- The failures that the reader has raised are those that the calls report, one
by one. -/
theorem failures_steps (s : Source) (calls : List Call) :
    s.decoder.reader.failures =
      (s.steps calls).filterMap Step.failure? ++ (s.callAll calls).decoder.reader.failures := by
  induction calls generalizing s with
  | nil => rfl
  | cons call calls ih =>
    have hfailure : (s.step call).failure? = reported? (s.reply call) := rfl
    rw [s.failures_call call, ih (s.call call), steps, List.filterMap_cons, hfailure]
    cases reported? (s.reply call) <;> rfl

end Source
end LexicalFrontEnd
