import LexicalFrontEnd.Proofs.Source.Calls
import LexicalFrontEnd.Proofs.Source.Delivery
import LexicalFrontEnd.Proofs.Source.Memory
import LexicalFrontEnd.Proofs.Source.Steady

/-!
The memory of a source is consistent, whatever is done with the source.

A source is run on a machine: it is opened and then called any number of times, to
move on or to look ahead.  Whatever the capacity asked for and the reader, no step of
the machine is a fault, the calls are answered as the source answers them, and the
marks, the bytes between them and the offset always agree with each other and with
what the reader still has (`run_consistent`).  Since every read call is offered a cell,
one that brings nothing has met the end of the reader.

The readers are no special ones (`answers_ofAnswers`): whatever some calls bring, none
of them more than it asked for, there is a reader that brings just that.
-/

namespace LexicalFrontEnd
namespace Source

/-! ## What a reader has -/

/-- All bytes that calls of the reader bring until one brings nothing; failures between
them are passed. -/
def Reader.input (r : Reader) : List UInt8 := Signal.allBytes r.signals

def Reader.answers (r : Reader) : List Nat → List ReadResult
  | [] => []
  | room :: rooms => (r.read room).1 :: (r.read room).2.answers rooms

def ReadResult.event : ReadResult → ReadEvent
  | .bytes [] => .stop
  | .bytes (b :: bs) => .data (b :: bs)
  | .interrupted => .interrupt
  | .failed message => .failure message

/-- A reader whose calls bring this, if each asks for enough. -/
def Reader.ofAnswers (answers : List ReadResult) : Reader := ⟨answers.map ReadResult.event, none⟩

theorem Reader.answers_data_nil (events : List ReadEvent) (rooms : List Nat) :
    (Reader.mk (.data [] :: events) none).answers rooms = (Reader.mk events none).answers rooms := by
  cases rooms <;> rfl

/-- Whatever calls bring, none of them more bytes than it asked for, is what some
reader brings. -/
theorem Reader.answers_ofAnswers (calls : List (Nat × ReadResult))
    (hfit : ∀ call ∈ calls, ∀ bytes, call.2 = .bytes bytes → bytes.length ≤ call.1) :
    (ofAnswers (calls.map Prod.snd)).answers (calls.map Prod.fst) = calls.map Prod.snd := by
  induction calls with
  | nil => rfl
  | cons call calls ih =>
    obtain ⟨room, result⟩ := call
    have hrest := ih fun other hother => hfit other (List.mem_cons_of_mem _ hother)
    cases result with
    | interrupted => exact congrArg (ReadResult.interrupted :: ·) hrest
    | failed message => exact congrArg (ReadResult.failed message :: ·) hrest
    | bytes bytes =>
      cases bytes with
      | nil => exact congrArg (ReadResult.bytes [] :: ·) hrest
      | cons b bs =>
        have hroom : (b :: bs).length ≤ room := hfit _ List.mem_cons_self _ rfl
        have htaken : (b :: bs).take room = b :: bs := List.take_of_length_le hroom
        show ReadResult.bytes ((b :: bs).take room) ::
          (Reader.mk (.data ((b :: bs).drop ((b :: bs).take room).length) :: _) none).answers _ = _
        rw [htaken, List.drop_length, answers_data_nil]
        exact congrArg (ReadResult.bytes (b :: bs) :: ·) hrest

/-! ## What is left of the input -/

theorem Signal.allBytes_append (bytes : List UInt8) (rest : List Signal) :
    allBytes (bytes.map .byte ++ rest) = bytes ++ allBytes rest := by
  induction bytes with
  | nil => rfl
  | cons b bytes ih => rw [List.map_cons, List.cons_append, allBytes, ih, List.cons_append]

namespace Stream

variable {s t : Stream} {input : List UInt8}

theorem offset_steady (s : Stream) : s.steady.offset = s.offset := rfl

theorem ready_drop_steady (n : Nat) (s : Stream) :
    (s.steady.drop n).ready = (Signal.allBytes s.signals).drop n := by
  have h := Signal.bytes_append ((Signal.allBytes s.signals).drop n) []
  rw [List.append_nil, Signal.bytes, List.append_nil] at h
  rw [steady, drop, ready, ← List.map_drop, h]

theorem eq_of_next_end (h : s.next = (.ok none, t)) : t = s := by
  unfold next at h
  split at h
  · cases h
  · rename_i s₁ hawait
    obtain rfl := eq_of_await hawait
    split at h
    · cases h
      rfl
    · split at h
      · cases h
      · split at h
        · cases h
        · split at h
          · cases h
          · split at h <;> cases h

/-- Without its failures a stream loses nothing by an attempt at its next character but
the bytes of the character. -/
theorem steady_next (s : Stream) :
    s.next.2.steady = s.steady ∨
      ∃ n ≤ s.steady.ready.length, s.next.2.steady = s.steady.drop n := by
  rcases s.next_cases with ⟨message, t, hnext, hsteady⟩ | ⟨result, t, hnext, hsteady, herror⟩
  · exact Or.inl (by rw [hnext, hsteady])
  · rw [hnext]
    rcases result with e | _ | c
    · exact Or.inl (congrArg steady (herror e rfl).1)
    · exact Or.inl (eq_of_next_end hsteady)
    · obtain ⟨width, -, hwidth, -, hdrop⟩ := exists_width_of_next hsteady
      exact Or.inr ⟨width, hwidth, hdrop⟩

structure IsRest (input : List UInt8) (s : Stream) : Prop where
  offset_le : s.offset ≤ input.length
  bytes : Signal.allBytes s.signals = input.drop s.offset

theorem isRest_next (h : s.IsRest input) : s.next.2.IsRest input := by
  rcases s.steady_next with hsame | ⟨n, hn, hdrop⟩
  · have hoffset := congrArg Stream.offset hsame
    have hbytes := congrArg ready hsame
    rw [offset_steady, offset_steady] at hoffset
    rw [ready_steady, ready_steady] at hbytes
    exact ⟨hoffset ▸ h.offset_le, by rw [hbytes, hoffset, h.bytes]⟩
  · have hoffset : s.next.2.offset = s.offset + n := by rw [← offset_steady, hdrop]; rfl
    have hbytes := congrArg ready hdrop
    rw [ready_steady, ready_drop_steady, h.bytes, List.drop_drop] at hbytes
    rw [ready_steady, h.bytes, List.length_drop] at hn
    have hle := h.offset_le
    exact ⟨by omega, by rw [hbytes, hoffset]⟩

end Stream

namespace Decoder

variable {d : Decoder} {input : List UInt8} {capacity : Nat}

theorem capacity_fill (need : Nat) (d : Decoder) :
    (d.fill need).2.buffer.capacity = d.buffer.capacity := by
  have hmakeRoom (b : Buffer) : b.makeRoom.capacity = b.capacity := by
    rw [Buffer.makeRoom]
    split <;> rfl
  fun_induction fill need d with
  | case1 => rfl
  | case2 d h buffer reader hread => exact hmakeRoom d.buffer
  | case3 d h buffer b bs reader hread _ ih => exact ih.trans (hmakeRoom d.buffer)
  | case4 d h buffer reader hread _ ih => exact ih.trans (hmakeRoom d.buffer)
  | case5 d h buffer message reader hread => exact hmakeRoom d.buffer

theorem capacity_next (d : Decoder) : d.next.2.buffer.capacity = d.buffer.capacity := by
  have hone := d.capacity_fill 1
  rw [next]
  generalize d.fill 1 = filled at hone
  obtain ⟨e | ⟨⟨⟩⟩, d₁⟩ := filled
  · exact hone
  · rw [← hone]
    simp only
    cases d₁.buffer.first? with
    | none => rfl
    | some lead =>
      simp only
      cases Text.Utf8.width? lead with
      | none => rfl
      | some width =>
        simp only
        have hall := d₁.capacity_fill width
        generalize d₁.fill width = filled at hall
        obtain ⟨e | ⟨⟨⟩⟩, d₂⟩ := filled
        · exact hall
        · rw [← hall]
          simp only
          split
          · rfl
          · split <;> rfl

structure Within (input : List UInt8) (capacity : Nat) (d : Decoder) : Prop where
  wellFormed : d.buffer.WellFormed
  capacity : d.buffer.capacity = capacity
  rest : d.stream.IsRest input

theorem within_ofReader (r : Reader) (capacity : Nat) :
    (ofReader r capacity).Within r.input (max capacity Buffer.minCapacity) :=
  ⟨Buffer.wellFormed_empty capacity, rfl, Nat.zero_le _, rfl⟩

theorem within_next (h : d.Within input capacity) : d.next.2.Within input capacity := by
  obtain ⟨hnext, hwf⟩ := d.next_refines h.wellFormed
  have hstream : d.next.2.stream = d.stream.next.2 := congrArg Prod.snd hnext
  refine ⟨hwf, d.capacity_next.trans h.capacity, ?_⟩
  rw [hstream]
  exact Stream.isRest_next h.rest

end Decoder

section

variable {s : Source} {input : List UInt8} {capacity : Nat}

theorem within_pull (h : s.decoder.Within input capacity) :
    s.pull.2.decoder.Within input capacity := by
  rw [pull]
  cases s.lookahead with
  | unread => exact Decoder.within_next h
  | read next? => exact h

theorem within_call (h : s.decoder.Within input capacity) (call : Call) :
    (s.call call).decoder.Within input capacity := by
  cases hend : s.isAtEnd with
  | true =>
    rw [(call_of_end hend call).2]
    exact h
  | false =>
    have hwithin := within_pull h
    cases hpull : s.pull with | mk result u =>
    rw [hpull] at hwithin
    cases result with
    | error e =>
      rw [(call_of_error hend hpull call).2]
      exact hwithin
    | ok next? =>
      rw [(call_of_ok hend hpull call).2]
      cases call <;> exact hwithin

end

/-! ## A source on a machine -/

/-- A source whose decoder is a machine. -/
structure Head where
  machine : Machine
  lookahead : Lookahead
  current? : Option Char
  position : Position
  deriving DecidableEq, Repr

namespace Head

def pull (x : Head) : Option (Except SourceError (Option Char) × Head) :=
  match x.lookahead with
  | .read next? => some (.ok next?, { x with lookahead := .unread })
  | .unread => do
    let (result, machine) ← x.machine.next
    some (result, { x with machine })

def settle (x : Head) (next? : Option Char) : Call → Head
  | .advance => { x with current? := next?, position := placeAfter x.position next? }
  | .peek => { x with lookahead := .read next? }

def call (x : Head) (call : Call) : Option (Except SourceError Told × Head) :=
  if x.current?.isNone then some (.ok (call.told none), x)
  else do
    match ← x.pull with
    | (.error e, x) => some (.error e, x)
    | (.ok next?, x) => some (.ok (call.told next?), x.settle next? call)

def callAll (x : Head) : List Call → Option (List (Except SourceError Told) × Head)
  | [] => some ([], x)
  | call :: calls => do
    let (reply, x) ← x.call call
    let (replies, x) ← x.callAll calls
    some (reply :: replies, x)

/-- Open a reader and make calls: what they tell, unless the first character cannot be
had, and the machine as it is left. -/
def run (r : Reader) (capacity : Nat) (calls : List Call) :
    Option (Except SourceError (List (Except SourceError Told)) × Machine) := do
  match ← (Machine.ofReader r capacity).next with
  | (.error e, machine) => some (.error e, machine)
  | (.ok first?, machine) =>
    let (replies, x) ← callAll ⟨machine, .unread, first?, placeAfter .start first?⟩ calls
    some (.ok replies, x.machine)

structure Represents (x : Head) (s : Source) : Prop where
  machine : x.machine.Represents s.decoder
  lookahead : x.lookahead = s.lookahead
  current : x.current? = s.current?
  position : x.position = s.position

variable {x : Head} {s : Source} {input : List UInt8} {capacity : Nat}

theorem pull_represents (hs : s.decoder.buffer.WellFormed) (h : x.Represents s) :
    ∃ y, x.pull = some (s.pull.1, y) ∧ y.Represents s.pull.2 := by
  rw [pull, Source.pull, h.lookahead]
  cases s.lookahead with
  | read next? => exact ⟨_, rfl, h.machine, rfl, h.current, h.position⟩
  | unread =>
    obtain ⟨machine, hnext, hmachine⟩ := Machine.next_represents hs h.machine
    simp only
    rw [hnext, Option.bind_eq_bind, Option.bind_some]
    exact ⟨_, rfl, hmachine, rfl, h.current, h.position⟩

theorem settle_represents (h : x.Represents s) (next? : Option Char) (call : Call) :
    (x.settle next? call).Represents (s.settle next? call) := by
  cases call with
  | advance => exact ⟨h.machine, h.lookahead, rfl, congrArg (placeAfter · next?) h.position⟩
  | peek => exact ⟨h.machine, rfl, h.current, h.position⟩

theorem call_represents (hs : s.decoder.buffer.WellFormed) (h : x.Represents s) (call : Call) :
    ∃ y, x.call call = some (s.reply call, y) ∧ y.Represents (s.call call) := by
  have hisAtEnd : x.current?.isNone = s.isAtEnd := congrArg Option.isNone h.current
  rw [Head.call, hisAtEnd]
  cases hend : s.isAtEnd with
  | true =>
    obtain ⟨hreply, hcall⟩ := call_of_end hend call
    rw [if_pos rfl, hreply, hcall]
    exact ⟨x, rfl, h⟩
  | false =>
    obtain ⟨y, hxpull, hy⟩ := pull_represents hs h
    rw [if_neg Bool.false_ne_true, hxpull, Option.bind_eq_bind, Option.bind_some]
    cases hpull : s.pull with | mk result u =>
    rw [hpull] at hy
    cases result with
    | error e =>
      obtain ⟨hreply, hcall⟩ := call_of_error hend hpull call
      rw [hreply, hcall]
      exact ⟨y, rfl, hy⟩
    | ok next? =>
      obtain ⟨hreply, hcall⟩ := call_of_ok hend hpull call
      rw [hreply, hcall]
      exact ⟨_, rfl, settle_represents hy next? call⟩

theorem callAll_represents (hs : s.decoder.Within input capacity) (h : x.Represents s)
    (calls : List Call) :
    ∃ y, x.callAll calls = some ((s.steps calls).map Step.reply, y) ∧
      y.Represents (s.callAll calls) ∧ (s.callAll calls).decoder.Within input capacity := by
  induction calls generalizing x s with
  | nil => exact ⟨x, rfl, h, hs⟩
  | cons call calls ih =>
    obtain ⟨y, hcall, hy⟩ := call_represents hs.wellFormed h call
    obtain ⟨z, hcalls, hz⟩ := ih (within_call hs call) hy
    refine ⟨z, ?_, hz⟩
    rw [callAll, hcall, Option.bind_eq_bind, Option.bind_some]
    simp only
    rw [hcalls]
    rfl

end Head

/-! ## Consistency -/

def Machine.undelivered (m : Machine) : List UInt8 := if m.finished then [] else m.reader.input

/-- The memory has as many cells as it was asked for, but no less than four, and its
marks are in order and within.  The bytes between the marks with those that the reader
still delivers are what is left of the input behind `offset` bytes.  Every read call was
offered a cell, so that one which brought nothing has met the end. -/
structure Machine.Consistent (r : Reader) (capacity : Nat) (m : Machine) : Prop where
  length : m.memory.cells.length = max capacity 4
  start_le : m.memory.start ≤ m.memory.stop
  stop_le : m.memory.stop ≤ m.memory.cells.length
  offset_le : m.offset ≤ r.input.length
  rest : m.memory.unread ++ m.undelivered = r.input.drop m.offset
  calls : ∀ call ∈ m.calls, 0 < call.room ∧
    ((call.reader.read call.room).1 = .bytes [] → call.reader.signals = [])

theorem Machine.consistent_of_within {r : Reader} {capacity : Nat} {m : Machine} {d : Decoder}
    (hd : d.Within r.input (max capacity 4)) (h : m.Represents d) : m.Consistent r capacity where
  length := h.memory.length.trans hd.capacity
  start_le := by
    rw [h.memory.start, h.memory.stop]
    exact hd.wellFormed.start_le
  stop_le := by
    rw [h.memory.stop, h.memory.length]
    exact hd.wellFormed.size_le
  offset_le := by
    rw [h.offset]
    exact hd.rest.offset_le
  rest := by
    have hbytes := hd.rest.bytes
    rw [Decoder.stream, Signal.allBytes_append] at hbytes
    rw [Memory.unread_of_holds h.memory, undelivered, h.finished, h.reader, h.offset, ← hbytes,
      Reader.input]
    cases d.finished <;> rfl
  calls := by
    intro call hcall
    have hroom := h.room_pos call hcall
    cases hread : call.reader.read call.room with | mk result reader =>
    refine ⟨hroom, ?_⟩
    rintro rfl
    exact Reader.signals_eq_of_read hroom hread

/-- Whatever reader is opened with whatever capacity, and whatever calls are made then,
there is no fault, the source is told what it tells, and the machine is consistent. -/
theorem run_consistent (r : Reader) (capacity : Nat) (calls : List Call) :
    ∃ m, Head.run r capacity calls =
        some ((ofReader r capacity).map fun s => (s.steps calls).map Step.reply, m) ∧
      m.Consistent r capacity ∧
      ∀ s, ofReader r capacity = .ok s → m.Represents (s.callAll calls).decoder := by
  have hopen := Decoder.within_ofReader r capacity
  obtain ⟨machine, hnext, hmachine⟩ :=
    Machine.next_represents hopen.wellFormed (Machine.ofReader_represents r capacity)
  have hopened := Decoder.within_next hopen
  rw [Head.run, hnext, Option.bind_eq_bind, Option.bind_some, ofReader]
  generalize (Decoder.ofReader r capacity).next = answer at hmachine hopened
  obtain ⟨e | first?, decoder⟩ := answer
  · refine ⟨machine, rfl, Machine.consistent_of_within hopened hmachine, ?_⟩
    intro s hs
    cases hs
  · have hhead : Head.Represents ⟨machine, .unread, first?, placeAfter .start first?⟩
        ⟨decoder, .unread, first?, placeAfter .start first?⟩ := ⟨hmachine, rfl, rfl, rfl⟩
    obtain ⟨x, hcalls, hx, hwithin⟩ := Head.callAll_represents hopened hhead calls
    simp only
    rw [hcalls, Option.bind_eq_bind, Option.bind_some]
    refine ⟨x.machine, rfl, Machine.consistent_of_within hwithin hx.machine, ?_⟩
    intro s hs
    cases hs
    exact hx.machine

/-- The second character is read in three calls, two of them for the one cell that is left
behind it, and the third is read into the cells from the first on. -/
example :
    let r : Reader := ⟨[.data [0x61, 0xE2, 0x82], .interrupt, .data [0xAC, 0x62]], none⟩
    (Head.run r 0 [.advance, .peek]).map (fun x => (x.2.memory, x.2.calls.map ReadCall.room)) =
      some (⟨[0x62, 0xE2, 0x82, 0xAC], 1, 1⟩, [4, 1, 1, 4]) := by
  decide +kernel

end Source
end LexicalFrontEnd
