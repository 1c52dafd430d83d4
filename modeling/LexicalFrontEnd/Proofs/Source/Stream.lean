import LexicalFrontEnd.Proofs.Source.Signals
import LexicalFrontEnd.Source.Decoder

/-!
A decoder without its buffer.

A stream is what is still to be decoded: the signals that the buffer and the
reader hold together.  It has the operations of a decoder, on the whole
sequence, so there is nothing in it that a capacity could change.  The theorem
this file exists for is `next_refines`: a decoder gives the character that its
stream gives, and goes on to the stream that its stream goes on to.

The hypothesis `Buffer.WellFormed` holds of an empty buffer and every operation
keeps it.  With it a buffer that lacks some of the at most four bytes of a
character always has room for more (`room_makeRoom_pos`), so a call that brings
nothing really means the end.
-/

namespace LexicalFrontEnd
namespace Source

namespace Signal

def failureAmong : Nat → List Signal → Option (String × List Signal)
  | 0, _ => none
  | _ + 1, [] => none
  | _ + 1, .failure message :: rest => some (message, rest)
  | n + 1, .byte b :: rest => (failureAmong n rest).map fun found => (found.1, .byte b :: found.2)

def bytes : List Signal → List UInt8
  | [] => []
  | .byte b :: rest => b :: bytes rest
  | .failure _ :: _ => []

theorem failureAmong_bytes_append (n : Nat) (bs : List UInt8) (rest : List Signal) :
    failureAmong n (bs.map .byte ++ rest) =
      (failureAmong (n - bs.length) rest).map fun found => (found.1, bs.map .byte ++ found.2) := by
  induction bs generalizing n with
  | nil =>
    show failureAmong n rest = (failureAmong n rest).map id
    rw [Option.map_id, id]
  | cons b bs ih =>
    cases n with
    | zero => rw [Nat.zero_sub, failureAmong, failureAmong]; rfl
    | succ n =>
      rw [List.map_cons, List.cons_append, failureAmong, ih, Option.map_map, List.length_cons,
        Nat.add_sub_add_right]
      rfl

theorem failureAmong_nil (n : Nat) : failureAmong n [] = none := by
  cases n <;> rfl

theorem bytes_append (bs : List UInt8) (rest : List Signal) :
    bytes (bs.map .byte ++ rest) = bs ++ bytes rest := by
  induction bs with
  | nil => rfl
  | cons b bs ih => rw [List.map_cons, List.cons_append, bytes, ih, List.cons_append]

end Signal

/-- What is still to be decoded, behind `offset` bytes that were. -/
structure Stream where
  signals : List Signal
  offset : Nat
  deriving DecidableEq, Repr

namespace Stream

def ready (s : Stream) : List UInt8 := Signal.bytes s.signals

/-- Report the failure among the first `n` signals, if there is one, and pass
it. -/
def await (n : Nat) (s : Stream) : Except SourceError Unit × Stream :=
  match Signal.failureAmong n s.signals with
  | none => (.ok (), s)
  | some (message, signals) => (.error (.io message), { s with signals })

def drop (s : Stream) (n : Nat) : Stream := ⟨s.signals.drop n, s.offset + n⟩

def next (s : Stream) : Except SourceError (Option Char) × Stream :=
  match s.await 1 with
  | (.error e, s) => (.error e, s)
  | (.ok (), s) =>
    match s.ready.head? with
    | none => (.ok none, s)
    | some lead =>
      match Text.Utf8.width? lead with
      | none => (.error (.invalidUtf8 s.offset), s)
      | some width =>
        match s.await width with
        | (.error e, s) => (.error e, s)
        | (.ok (), s) =>
          if s.ready.length < width then (.error (.invalidUtf8 s.offset), s)
          else
            match Text.Utf8.decode? (s.ready.take width) with
            | none => (.error (.invalidUtf8 s.offset), s)
            | some c => (.ok (some c), s.drop width)

end Stream

def Reader.stream (r : Reader) : Stream := ⟨r.signals, 0⟩

/-! ## Buffers -/

namespace Buffer

/-- The bytes used up are among those held, those held fit the capacity, and a
character of any width does. -/
structure WellFormed (b : Buffer) : Prop where
  start_le : b.start ≤ b.bytes.size
  size_le : b.bytes.size ≤ b.capacity
  least : minCapacity ≤ b.capacity

theorem wellFormed_empty (capacity : Nat) : (empty capacity).WellFormed :=
  ⟨Nat.le_refl 0, Nat.zero_le _, Nat.le_max_right _ _⟩

theorem length_toList (b : Buffer) : b.toList.length = b.size := by
  rw [toList, List.length_drop, Array.length_toList, size]

theorem toList_makeRoom (b : Buffer) : b.makeRoom.toList = b.toList := by
  unfold makeRoom
  split
  · show (b.bytes.extract b.start b.bytes.size).toList.drop 0 = b.bytes.toList.drop b.start
    rw [List.drop_zero, Array.toList_extract, List.extract_eq_take_drop, ← Array.length_toList,
      ← List.length_drop, List.take_length]
  · rfl

theorem wellFormed_makeRoom {b : Buffer} (h : b.WellFormed) : b.makeRoom.WellFormed := by
  unfold makeRoom
  split
  · refine ⟨Nat.zero_le _, ?_, h.least⟩
    have := h.size_le
    simp only [Array.size_extract]
    omega
  · exact h

/-- A buffer that lacks bytes of a character has room for one. -/
theorem room_makeRoom_pos {b : Buffer} (h : b.WellFormed) (hsize : b.size < minCapacity) :
    0 < b.makeRoom.room := by
  have hstart := h.start_le
  have hfit := h.size_le
  have hleast := h.least
  unfold makeRoom
  split
  · simp only [room, Array.size_extract]
    rw [size] at hsize
    omega
  · rw [room]
    omega

theorem toList_append {b : Buffer} (h : b.WellFormed) (bytes : List UInt8) :
    (b.append bytes).toList = b.toList ++ bytes := by
  show (b.bytes ++ bytes.toArray).toList.drop b.start = b.bytes.toList.drop b.start ++ bytes
  rw [Array.toList_append, List.drop_append_of_le_length (by simpa using h.start_le)]

theorem wellFormed_append {b : Buffer} (h : b.WellFormed) {bytes : List UInt8}
    (hfit : bytes.length ≤ b.room) : (b.append bytes).WellFormed := by
  have hstart := h.start_le
  have hsize := h.size_le
  rw [room] at hfit
  refine ⟨?_, ?_, h.least⟩
  · simp only [append, Array.size_append]
    omega
  · simp only [append, Array.size_append, List.size_toArray]
    omega

theorem first?_eq_head? (b : Buffer) : b.first? = b.toList.head? := by
  rw [first?, toList, List.head?_drop, Array.getElem?_toList]

theorem take_eq (b : Buffer) (n : Nat) : b.take n = b.toList.take n := by
  rw [take, toList, Array.toList_extract, List.extract_eq_take_drop, Nat.add_sub_cancel_left]

theorem toList_drop (b : Buffer) (n : Nat) : (b.drop n).toList = b.toList.drop n := by
  show b.bytes.toList.drop (b.start + n) = (b.bytes.toList.drop b.start).drop n
  rw [List.drop_drop]

theorem wellFormed_drop {b : Buffer} (h : b.WellFormed) {n : Nat} (hn : n ≤ b.size) :
    (b.drop n).WellFormed := by
  have hstart := h.start_le
  rw [size] at hn
  refine ⟨?_, h.size_le, h.least⟩
  show b.start + n ≤ b.bytes.size
  omega

end Buffer

/-! ## Decoders -/

namespace Decoder

def stream (d : Decoder) : Stream :=
  ⟨d.buffer.toList.map .byte ++ (if d.finished then [] else d.reader.signals), d.offset⟩

theorem stream_ofReader (r : Reader) (capacity : Nat) : (ofReader r capacity).stream = r.stream :=
  rfl

def Filled (need : Nat) (d : Decoder) : Prop := need ≤ d.buffer.size ∨ d.finished = true

theorem await_of_filled {need : Nat} {d : Decoder} (h : d.Filled need) :
    d.stream.await need = (.ok (), d.stream) := by
  have hnone : Signal.failureAmong need d.stream.signals = none := by
    rw [stream, Signal.failureAmong_bytes_append, Buffer.length_toList]
    rcases h with h | h
    · rw [Nat.sub_eq_zero_of_le h]
      rfl
    · rw [h, if_pos rfl, Signal.failureAmong_nil]
      rfl
  rw [Stream.await, hnone]

theorem stream_of_unfinished {d : Decoder} (h : d.finished = false) :
    d.stream = ⟨d.buffer.toList.map .byte ++ d.reader.signals, d.offset⟩ := by
  rw [stream, h, if_neg Bool.false_ne_true]

/-- A decoder that lacks bytes of a character may call its reader, and has room
for what the call brings. -/
theorem unfinished_of_not_filled {need : Nat} (hneed : need ≤ Buffer.minCapacity) {d : Decoder}
    (hd : d.buffer.WellFormed) (h : ¬(need ≤ d.buffer.size ∨ d.finished = true)) :
    d.buffer.size < need ∧ d.finished = false ∧ 0 < d.buffer.makeRoom.room := by
  rw [not_or, Nat.not_le, Bool.not_eq_true] at h
  refine ⟨h.1, h.2, ?_⟩
  apply Buffer.room_makeRoom_pos hd
  omega

/-- Filling the buffer moves signals from the reader into it, and passes a
failure if one stands among those needed. -/
theorem fill_refines {need : Nat} (hneed : need ≤ Buffer.minCapacity) (d : Decoder)
    (hd : d.buffer.WellFormed) :
    ((d.fill need).1, (d.fill need).2.stream) = d.stream.await need ∧
      (d.fill need).2.buffer.WellFormed ∧
      ((d.fill need).1 = .ok () → (d.fill need).2.Filled need) := by
  fun_induction fill need d with
  | case1 d h => exact ⟨(await_of_filled h).symm, hd, fun _ => h⟩
  | case2 d h buffer reader hread =>
    obtain ⟨-, hfinished, hroom⟩ := unfinished_of_not_filled hneed hd h
    have hnil : d.reader.signals = [] := Reader.signals_eq_of_read hroom hread
    have hfilled : Filled need { d with reader, buffer, finished := true } := Or.inr rfl
    have hstream : stream { d with reader, buffer, finished := true } = d.stream := by
      rw [stream_of_unfinished hfinished, hnil, stream, if_pos rfl, Buffer.toList_makeRoom]
    refine ⟨?_, Buffer.wellFormed_makeRoom hd, fun _ => hfilled⟩
    rw [← hstream]
    exact (await_of_filled hfilled).symm
  | case3 d h buffer b bs reader hread _ ih =>
    obtain ⟨-, hfinished, hroom⟩ := unfinished_of_not_filled hneed hd h
    have hbuffer : buffer.WellFormed := Buffer.wellFormed_makeRoom hd
    have hfit : (b :: bs).length ≤ buffer.room := Reader.length_le_of_read (by rw [hread])
    have hsignals : d.reader.signals = (b :: bs).map .byte ++ reader.signals :=
      Reader.signals_eq_of_read hroom hread
    have hstream : stream { d with reader, buffer := buffer.append (b :: bs) } = d.stream := by
      rw [stream_of_unfinished hfinished, stream, Buffer.toList_append hbuffer,
        Buffer.toList_makeRoom, hfinished, if_neg Bool.false_ne_true, hsignals, List.map_append,
        List.append_assoc]
    rw [← hstream]
    exact ih (Buffer.wellFormed_append hbuffer hfit)
  | case4 d h buffer reader hread _ ih =>
    obtain ⟨-, -, hroom⟩ := unfinished_of_not_filled hneed hd h
    have hsignals : d.reader.signals = reader.signals := Reader.signals_eq_of_read hroom hread
    have hstream : stream { d with reader, buffer } = d.stream := by
      rw [stream, stream, Buffer.toList_makeRoom, hsignals]
    rw [← hstream]
    exact ih (Buffer.wellFormed_makeRoom hd)
  | case5 d h buffer message reader hread =>
    obtain ⟨hlack, hfinished, hroom⟩ := unfinished_of_not_filled hneed hd h
    have hsignals : d.reader.signals = .failure message :: reader.signals :=
      Reader.signals_eq_of_read hroom hread
    refine ⟨?_, Buffer.wellFormed_makeRoom hd, by intro h; cases h⟩
    -- The failure is the first signal behind a buffer that lacks bytes.
    obtain ⟨k, hk⟩ : ∃ k, need - d.buffer.size = k + 1 := ⟨need - d.buffer.size - 1, by omega⟩
    have hfound : Signal.failureAmong need d.stream.signals =
        some (message, d.buffer.toList.map .byte ++ reader.signals) := by
      rw [stream_of_unfinished hfinished, Signal.failureAmong_bytes_append,
        Buffer.length_toList, hk, hsignals]
      rfl
    rw [Stream.await, hfound]
    show (_, stream { d with reader, buffer }) = _
    rw [stream, Buffer.toList_makeRoom, hfinished, if_neg Bool.false_ne_true]
    rfl

theorem take_ready_of_filled {need : Nat} {d : Decoder} (h : d.Filled need) :
    d.stream.ready.take need = d.buffer.toList.take need := by
  rw [Stream.ready, stream, Signal.bytes_append]
  rcases h with h | h
  · rw [List.take_append_of_le_length (by rwa [Buffer.length_toList])]
  · rw [h, if_pos rfl, Signal.bytes, List.append_nil]

theorem length_ready_lt_iff {need : Nat} {d : Decoder} (h : d.Filled need) :
    d.stream.ready.length < need ↔ d.buffer.size < need := by
  have := congrArg List.length (take_ready_of_filled h)
  rw [List.length_take, List.length_take, Buffer.length_toList] at this
  omega

theorem head?_ready_of_filled {d : Decoder} (h : d.Filled 1) :
    d.stream.ready.head? = d.buffer.first? := by
  have := congrArg List.head? (take_ready_of_filled h)
  rwa [List.head?_take, List.head?_take, if_neg Nat.one_ne_zero, if_neg Nat.one_ne_zero,
    ← Buffer.first?_eq_head?] at this

theorem width?_le {lead : UInt8} {width : Nat} (h : Text.Utf8.width? lead = some width) :
    width ≤ Buffer.minCapacity := by
  simp only [Text.Utf8.width?] at h
  repeat' split at h
  all_goals cases h
  all_goals decide

/-- A decoder gives what its stream gives and goes on to what its stream goes on
to. -/
theorem next_refines (d : Decoder) (hd : d.buffer.WellFormed) :
    (d.next.1, d.next.2.stream) = d.stream.next ∧ d.next.2.buffer.WellFormed := by
  obtain ⟨hawait, hwf, hfilled⟩ := fill_refines (by decide : 1 ≤ Buffer.minCapacity) d hd
  rw [Stream.next, ← hawait, next]
  generalize d.fill 1 = filled at hwf hfilled
  obtain ⟨_ | ⟨⟨⟩⟩, d⟩ := filled
  · exact ⟨rfl, hwf⟩
  · have hfull : d.Filled 1 := hfilled rfl
    simp only at hwf ⊢
    rw [head?_ready_of_filled hfull]
    cases hlead : d.buffer.first? with
    | none => exact ⟨rfl, hwf⟩
    | some lead =>
      simp only
      cases hwidth : Text.Utf8.width? lead with
      | none => exact ⟨rfl, hwf⟩
      | some width =>
        simp only
        obtain ⟨hawait, hwf, hfilled⟩ := fill_refines (width?_le hwidth) d hwf
        rw [← hawait]
        generalize d.fill width = filled at hwf hfilled
        obtain ⟨_ | ⟨⟨⟩⟩, d⟩ := filled
        · exact ⟨rfl, hwf⟩
        · have hfull : d.Filled width := hfilled rfl
          simp only at hwf ⊢
          by_cases hsize : d.buffer.size < width
          · rw [if_pos hsize, if_pos ((length_ready_lt_iff hfull).mpr hsize)]
            exact ⟨rfl, hwf⟩
          · rw [if_neg hsize, if_neg (mt (length_ready_lt_iff hfull).mp hsize),
              take_ready_of_filled hfull, Buffer.take_eq]
            cases Text.Utf8.decode? (d.buffer.toList.take width) with
            | none => exact ⟨rfl, hwf⟩
            | some c =>
              refine ⟨?_, Buffer.wellFormed_drop hwf (Nat.le_of_not_lt hsize)⟩
              have hle : width ≤ (d.buffer.toList.map Signal.byte).length := by
                rw [List.length_map, Buffer.length_toList]
                exact Nat.le_of_not_lt hsize
              simp only [stream, Stream.drop, Buffer.toList_drop, List.map_drop]
              rw [List.drop_append_of_le_length hle]

end Decoder
end Source
end LexicalFrontEnd
