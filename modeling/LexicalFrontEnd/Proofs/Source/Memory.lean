import LexicalFrontEnd.Proofs.Source.Stream

/-!
The buffer of a decoder as it lies in memory.

A `Buffer` holds no more bytes than were put into it, its differences stop at zero
and its pieces stop where it ends.  A `Memory` is a fixed number of cells with two
marks, and what is out of range there is a fault (`none`): a difference below zero, a
piece that ends before it starts or behind the last cell, bytes for which there are
no cells.

A machine is a decoder on a memory that also keeps the read calls it makes.  The
theorem this file exists for is `next_represents`: a machine that represents a decoder
with a well-formed buffer meets no fault, gives the same character and represents the
decoder that is left, and each of its read calls asks for at least one byte.
-/

namespace LexicalFrontEnd
namespace Source

/-! ## Cells -/

/-- The distance of two marks; it is a fault if the second is before the first. -/
def distance (start stop : Nat) : Option Nat :=
  if start ≤ stop then some (stop - start) else none

def slice (cells : List UInt8) (first last : Nat) : Option (List UInt8) :=
  if first ≤ last ∧ last ≤ cells.length then some ((cells.take last).drop first) else none

def overwrite (cells : List UInt8) (first : Nat) (bytes : List UInt8) : Option (List UInt8) :=
  if first + bytes.length ≤ cells.length then
    some (cells.take first ++ bytes ++ cells.drop (first + bytes.length))
  else none

/-- Bytes that there are cells for are put behind the cells before them, and there
are as many cells as before. -/
theorem overwrite_eq {cells bytes : List UInt8} {first : Nat}
    (h : first + bytes.length ≤ cells.length) :
    ∃ written, overwrite cells first bytes = some written ∧ written.length = cells.length ∧
      written.take (first + bytes.length) = cells.take first ++ bytes := by
  have hfirst : (cells.take first).length = first := List.length_take_of_le (by omega)
  refine ⟨_, if_pos h, ?_, ?_⟩
  · simp only [List.length_append, List.length_drop, hfirst]
    omega
  · exact List.take_left' (by rw [List.length_append, hfirst])

/-! ## Memories -/

/-- The cells of a buffer.  Those from `start` to before `stop` hold the bytes that
were read and not used up. -/
structure Memory where
  cells : List UInt8
  start : Nat
  stop : Nat
  deriving DecidableEq, Repr

namespace Memory

def empty (capacity : Nat) : Memory :=
  ⟨List.replicate (max capacity Buffer.minCapacity) 0, 0, 0⟩

def unread (m : Memory) : List UInt8 := (m.cells.take m.stop).drop m.start

/-- The memory with the bytes that are not used up moved to the first cells, if the
last cell is in use. -/
def makeRoom (m : Memory) : Option Memory :=
  if m.stop = m.cells.length then do
    let unread ← slice m.cells m.start m.stop
    let cells ← overwrite m.cells 0 unread
    let stop ← distance m.start m.stop
    some ⟨cells, 0, stop⟩
  else some m

/-- The memory with room behind its last byte, and the number of cells that are
offered to a read call. -/
def offer (m : Memory) : Option (Memory × Nat) := do
  let memory ← m.makeRoom
  let free ← slice memory.cells memory.stop memory.cells.length
  some (memory, free.length)

def append (m : Memory) (bytes : List UInt8) : Option Memory := do
  let cells ← overwrite m.cells m.stop bytes
  some ⟨cells, m.start, m.stop + bytes.length⟩

structure Holds (m : Memory) (b : Buffer) : Prop where
  length : m.cells.length = b.capacity
  start : m.start = b.start
  stop : m.stop = b.bytes.size
  bytes : m.cells.take m.stop = b.bytes.toList

theorem holds_empty (capacity : Nat) : (empty capacity).Holds (.empty capacity) :=
  ⟨List.length_replicate, rfl, rfl, rfl⟩

section Holds

variable {m : Memory} {b : Buffer} {bytes : List UInt8} {n : Nat}

theorem unread_of_holds (h : m.Holds b) : m.unread = b.toList := by
  rw [unread, h.bytes, h.start, Buffer.toList]

theorem distance_of_holds (h : m.Holds b) (hb : b.WellFormed) :
    distance m.start m.stop = some b.size := by
  rw [distance, h.start, h.stop, if_pos hb.start_le, Buffer.size]

theorem slice_of_holds (h : m.Holds b) (hb : b.WellFormed) :
    slice m.cells m.start m.stop = some b.toList := by
  have hrange : m.start ≤ m.stop ∧ m.stop ≤ m.cells.length := by
    rw [h.start, h.stop, h.length]
    exact ⟨hb.start_le, hb.size_le⟩
  rw [slice, if_pos hrange, ← unread_of_holds h, unread]

theorem slice_take_of_holds (h : m.Holds b) (hb : b.WellFormed) (hn : n ≤ b.size) :
    slice m.cells m.start (m.start + n) = some (b.take n) := by
  have hstart := hb.start_le
  have hfit := hb.size_le
  rw [Buffer.size] at hn
  have hrange : m.start ≤ m.start + n ∧ m.start + n ≤ m.cells.length := by
    rw [h.start, h.length]
    omega
  have hstop : m.start + n ≤ m.stop := by
    rw [h.start, h.stop]
    omega
  have htake : m.cells.take (m.start + n) = b.bytes.toList.take (b.start + n) := by
    rw [← h.bytes, ← h.start, List.take_take, Nat.min_eq_left hstop]
  rw [slice, if_pos hrange, htake, h.start, Buffer.take_eq, Buffer.toList, List.drop_take,
    Nat.add_sub_cancel_left]

/-- The first byte that is not used up, if there is one. -/
theorem lead_of_holds (h : m.Holds b) {lead : UInt8} (hlead : b.first? = some lead) :
    m.start ≠ m.stop ∧ m.cells[m.start]? = some lead := by
  obtain ⟨hlt, -⟩ := Array.getElem?_eq_some_iff.mp hlead
  rw [← h.start, ← h.stop] at hlt
  refine ⟨Nat.ne_of_lt hlt, ?_⟩
  rw [← List.getElem?_take_of_lt hlt, h.bytes, h.start, Array.getElem?_toList]
  exact hlead

theorem start_eq_stop_of_holds (h : m.Holds b) (hb : b.WellFormed) (hnone : b.first? = none) :
    m.start = m.stop := by
  rw [h.start, h.stop]
  exact Nat.le_antisymm hb.start_le (Array.getElem?_eq_none_iff.mp hnone)

theorem makeRoom_holds (h : m.Holds b) (hb : b.WellFormed) :
    ∃ t, m.makeRoom = some t ∧ t.Holds b.makeRoom := by
  by_cases hfull : b.bytes.size = b.capacity
  · have hstop : m.stop = m.cells.length := by rw [h.stop, h.length, hfull]
    have hfit : 0 + b.toList.length ≤ m.cells.length := by
      rw [b.length_toList, h.length, Buffer.size]
      omega
    obtain ⟨cells, hwrite, hlength, htake⟩ := overwrite_eq hfit
    refine ⟨⟨cells, 0, b.size⟩, ?_, ?_⟩
    · rw [makeRoom, if_pos hstop, slice_of_holds h hb, Option.bind_eq_bind, Option.bind_some,
        hwrite, Option.bind_eq_bind, Option.bind_some, distance_of_holds h hb]
      rfl
    · rw [Nat.zero_add, b.length_toList, List.take_zero, List.nil_append] at htake
      rw [Buffer.makeRoom, if_pos hfull]
      refine ⟨hlength.trans h.length, rfl, ?_, ?_⟩
      · rw [Buffer.size, Array.size_extract, Nat.min_self]
      · rw [htake, Array.toList_extract, List.extract_eq_take_drop, ← Array.length_toList,
          ← List.length_drop, List.take_length, Buffer.toList]
  · have hstop : m.stop ≠ m.cells.length := by rwa [h.stop, h.length]
    rw [makeRoom, if_neg hstop, Buffer.makeRoom, if_neg hfull]
    exact ⟨m, rfl, h⟩

/-- A read call is offered the cells behind the last byte. -/
theorem offer_holds (h : m.Holds b) (hb : b.WellFormed) :
    ∃ t, m.offer = some (t, b.makeRoom.room) ∧ t.Holds b.makeRoom := by
  obtain ⟨t, hmakeRoom, ht⟩ := makeRoom_holds h hb
  have hsize := (Buffer.wellFormed_makeRoom hb).size_le
  have hrange : t.stop ≤ t.cells.length ∧ t.cells.length ≤ t.cells.length := by
    rw [ht.stop, ht.length]
    exact ⟨hsize, Nat.le_refl _⟩
  refine ⟨t, ?_, ht⟩
  rw [offer, hmakeRoom, Option.bind_eq_bind, Option.bind_some, slice, if_pos hrange,
    Option.bind_eq_bind, Option.bind_some, List.take_length, List.length_drop, ht.length, ht.stop,
    Buffer.room]

theorem append_holds (h : m.Holds b) (hb : b.WellFormed) (hfit : bytes.length ≤ b.room) :
    ∃ t, m.append bytes = some t ∧ t.Holds (b.append bytes) := by
  have hsize := hb.size_le
  rw [Buffer.room] at hfit
  have hroom : m.stop + bytes.length ≤ m.cells.length := by
    rw [h.stop, h.length]
    omega
  obtain ⟨cells, hwrite, hlength, htake⟩ := overwrite_eq hroom
  refine ⟨⟨cells, m.start, m.stop + bytes.length⟩, ?_, hlength.trans h.length, h.start, ?_, ?_⟩
  · rw [append, hwrite]
    rfl
  · show m.stop + bytes.length = (b.bytes ++ bytes.toArray).size
    rw [Array.size_append, h.stop]
    rfl
  · rw [htake, h.bytes, Buffer.append, Array.toList_append]

theorem drop_holds (h : m.Holds b) (n : Nat) :
    Holds { m with start := m.start + n } (b.drop n) :=
  ⟨h.length, congrArg (· + n) h.start, h.stop, h.bytes⟩

end Holds

end Memory

/-! ## Machines -/

structure ReadCall where
  reader : Reader
  room : Nat
  deriving DecidableEq, Repr

/-- A decoder on a memory, with the read calls that it has made. -/
structure Machine where
  reader : Reader
  memory : Memory
  finished : Bool
  offset : Nat
  calls : List ReadCall
  deriving DecidableEq, Repr

namespace Machine

def ofReader (reader : Reader) (capacity : Nat) : Machine :=
  ⟨reader, .empty capacity, false, 0, []⟩

def fill (need : Nat) (m : Machine) : Option (Except SourceError Unit × Machine) := do
  let size ← distance m.memory.start m.memory.stop
  if need ≤ size ∨ m.finished then some (.ok (), m)
  else
    let (memory, room) ← m.memory.offer
    let calls := m.calls ++ [⟨m.reader, room⟩]
    match h : m.reader.read room with
    | (.bytes [], reader) => some (.ok (), { m with reader, memory, calls, finished := true })
    | (.bytes (b :: bs), reader) =>
      have := Reader.size_lt_of_read h (Nat.succ_pos bs.length)
      let memory ← memory.append (b :: bs)
      fill need { m with reader, memory, calls }
    | (.interrupted, reader) =>
      have := Reader.size_lt_of_read h Nat.one_pos
      fill need { m with reader, memory, calls }
    | (.failed message, reader) => some (.error (.io message), { m with reader, memory, calls })
termination_by m.reader.size

/-- How the filling goes on when a call for at most `room` bytes has brought `result`. -/
def resume (need : Nat) (m : Machine) (memory : Memory) (room : Nat) (reader : Reader) :
    ReadResult → Option (Except SourceError Unit × Machine)
  | .bytes [] => some (.ok (), ⟨reader, memory, true, m.offset, m.calls ++ [⟨m.reader, room⟩]⟩)
  | .bytes (b :: bs) => do
    let memory ← memory.append (b :: bs)
    fill need ⟨reader, memory, m.finished, m.offset, m.calls ++ [⟨m.reader, room⟩]⟩
  | .interrupted => fill need ⟨reader, memory, m.finished, m.offset, m.calls ++ [⟨m.reader, room⟩]⟩
  | .failed message =>
    some (.error (.io message),
      ⟨reader, memory, m.finished, m.offset, m.calls ++ [⟨m.reader, room⟩]⟩)

section Fill

variable {m : Machine} {memory : Memory} {reader : Reader} {need size room : Nat}

theorem fill_of_filled (hsize : distance m.memory.start m.memory.stop = some size)
    (hfilled : need ≤ size ∨ m.finished = true) : m.fill need = some (.ok (), m) := by
  rw [fill, hsize, Option.bind_eq_bind, Option.bind_some, if_pos hfilled]

theorem fill_of_lack (hsize : distance m.memory.start m.memory.stop = some size)
    (hlack : ¬(need ≤ size ∨ m.finished = true)) (hoffer : m.memory.offer = some (memory, room))
    {result : ReadResult} (hread : m.reader.read room = (result, reader)) :
    m.fill need = m.resume need memory room reader result := by
  rw [fill, hsize, Option.bind_eq_bind, Option.bind_some, if_neg hlack, hoffer,
    Option.bind_eq_bind, Option.bind_some]
  dsimp only
  split <;> rename_i hanswer <;> rw [hread] at hanswer <;> cases hanswer <;> rfl

end Fill

def next (m : Machine) : Option (Except SourceError (Option Char) × Machine) := do
  match ← m.fill 1 with
  | (.error e, m) => some (.error e, m)
  | (.ok (), m) =>
    if m.memory.start = m.memory.stop then some (.ok none, m)
    else
      let lead ← m.memory.cells[m.memory.start]?
      match Text.Utf8.width? lead with
      | none => some (.error (.invalidUtf8 m.offset), m)
      | some width =>
        match ← m.fill width with
        | (.error e, m) => some (.error e, m)
        | (.ok (), m) =>
          let size ← distance m.memory.start m.memory.stop
          if size < width then some (.error (.invalidUtf8 m.offset), m)
          else
            let bytes ← slice m.memory.cells m.memory.start (m.memory.start + width)
            match Text.Utf8.decode? bytes with
            | none => some (.error (.invalidUtf8 m.offset), m)
            | some c =>
              let memory := { m.memory with start := m.memory.start + width }
              some (.ok (some c), { m with memory, offset := m.offset + width })

/-- The machine works as the decoder does, and no read call was made without room. -/
structure Represents (m : Machine) (d : Decoder) : Prop where
  reader : m.reader = d.reader
  memory : m.memory.Holds d.buffer
  finished : m.finished = d.finished
  offset : m.offset = d.offset
  room_pos : ∀ call ∈ m.calls, 0 < call.room

theorem ofReader_represents (reader : Reader) (capacity : Nat) :
    (ofReader reader capacity).Represents (.ofReader reader capacity) :=
  ⟨rfl, Memory.holds_empty capacity, rfl, rfl, nofun⟩

section Represents

variable {m : Machine} {d : Decoder} {memory : Memory} {buffer : Buffer} {need : Nat}

/-- Behind a read call that had room the machine works as the decoder does. -/
theorem represents_read (h : m.Represents d) (hmemory : memory.Holds buffer) {room : Nat}
    (hroom : 0 < room) (reader : Reader) (finished : Bool) :
    Represents ⟨reader, memory, finished, m.offset, m.calls ++ [⟨m.reader, room⟩]⟩
      ⟨reader, buffer, finished, d.offset⟩ := by
  refine ⟨rfl, hmemory, rfl, h.offset, ?_⟩
  intro call hcall
  rw [List.mem_append, List.mem_singleton] at hcall
  rcases hcall with hcall | rfl
  · exact h.room_pos call hcall
  · exact hroom

/-- A machine that lacks bytes of a character finds room for a read call. -/
theorem offer_of_lack (hneed : need ≤ Buffer.minCapacity) (hd : d.buffer.WellFormed)
    (h : m.Represents d) (hlack : ¬(need ≤ d.buffer.size ∨ d.finished = true)) :
    distance m.memory.start m.memory.stop = some d.buffer.size ∧
      ¬(need ≤ d.buffer.size ∨ m.finished = true) ∧
      ∃ memory, m.memory.offer = some (memory, d.buffer.makeRoom.room) ∧
        memory.Holds d.buffer.makeRoom ∧ 0 < d.buffer.makeRoom.room := by
  obtain ⟨-, -, hroom⟩ := Decoder.unfinished_of_not_filled hneed hd hlack
  obtain ⟨memory, hoffer, hmemory⟩ := Memory.offer_holds h.memory hd
  rw [← h.finished] at hlack
  exact ⟨Memory.distance_of_holds h.memory hd, hlack, memory, hoffer, hmemory, hroom⟩

/-- Filling its memory the machine meets no fault and works as the decoder does. -/
theorem fill_represents (hneed : need ≤ Buffer.minCapacity) (d : Decoder)
    (hd : d.buffer.WellFormed) (m : Machine) (h : m.Represents d) :
    ∃ t, m.fill need = some ((d.fill need).1, t) ∧ t.Represents (d.fill need).2 := by
  revert m
  -- Round by round with the decoder, whose buffer stays well-formed.
  fun_induction Decoder.fill need d with
  | case1 d hfilled =>
    intro m h
    have hsize := Memory.distance_of_holds h.memory hd
    rw [← h.finished] at hfilled
    exact ⟨m, fill_of_filled hsize hfilled, h⟩
  | case2 d hlack buffer reader hread =>
    intro m h
    obtain ⟨hsize, hlack, memory, hoffer, hmemory, hroom⟩ := offer_of_lack hneed hd h hlack
    rw [← h.reader] at hread
    rw [fill_of_lack hsize hlack hoffer hread]
    exact ⟨_, rfl, represents_read h hmemory hroom reader true⟩
  | case3 d hlack buffer b bs reader hread _ ih =>
    intro m h
    have hbuffer : buffer.WellFormed := Buffer.wellFormed_makeRoom hd
    have hfit : (b :: bs).length ≤ buffer.room := Reader.length_le_of_read (by rw [hread])
    obtain ⟨hsize, hlack, memory, hoffer, hmemory, hroom⟩ := offer_of_lack hneed hd h hlack
    obtain ⟨filled, happend, hfilled⟩ := Memory.append_holds hmemory hbuffer hfit
    rw [← h.reader] at hread
    rw [fill_of_lack hsize hlack hoffer hread, resume, happend, Option.bind_eq_bind,
      Option.bind_some, h.finished]
    exact ih (Buffer.wellFormed_append hbuffer hfit) _ (represents_read h hfilled hroom reader _)
  | case4 d hlack buffer reader hread _ ih =>
    intro m h
    obtain ⟨hsize, hlack, memory, hoffer, hmemory, hroom⟩ := offer_of_lack hneed hd h hlack
    rw [← h.reader] at hread
    rw [fill_of_lack hsize hlack hoffer hread, resume, h.finished]
    exact ih (Buffer.wellFormed_makeRoom hd) _ (represents_read h hmemory hroom reader _)
  | case5 d hlack buffer message reader hread =>
    intro m h
    obtain ⟨hsize, hlack, memory, hoffer, hmemory, hroom⟩ := offer_of_lack hneed hd h hlack
    rw [← h.reader] at hread
    rw [fill_of_lack hsize hlack hoffer hread, resume, h.finished]
    exact ⟨_, rfl, represents_read h hmemory hroom reader _⟩

/-- A machine gives the character that the decoder gives and meets no fault. -/
theorem next_represents (hd : d.buffer.WellFormed) (h : m.Represents d) :
    ∃ t, m.next = some (d.next.1, t) ∧ t.Represents d.next.2 := by
  obtain ⟨-, hwf, -⟩ := Decoder.fill_refines (by decide : 1 ≤ Buffer.minCapacity) d hd
  obtain ⟨t, hfill, ht⟩ := fill_represents (by decide : 1 ≤ Buffer.minCapacity) d hd m h
  rw [next, hfill, Decoder.next, Option.bind_eq_bind, Option.bind_some]
  generalize d.fill 1 = answer at hwf ht
  obtain ⟨e | ⟨⟨⟩⟩, d⟩ := answer
  · exact ⟨t, rfl, ht⟩
  · simp only at hwf ht ⊢
    cases hlead : d.buffer.first? with
    | none =>
      rw [if_pos (Memory.start_eq_stop_of_holds ht.memory hwf hlead)]
      exact ⟨t, rfl, ht⟩
    | some lead =>
      obtain ⟨hne, hcell⟩ := Memory.lead_of_holds ht.memory hlead
      rw [if_neg hne, hcell, Option.bind_eq_bind, Option.bind_some]
      simp only
      cases hwidth : Text.Utf8.width? lead with
      | none => exact ⟨t, by rw [ht.offset], ht⟩
      | some width =>
        have hneed : width ≤ Buffer.minCapacity := Decoder.width?_le hwidth
        obtain ⟨u, hfill, hu⟩ := fill_represents hneed d hwf t ht
        obtain ⟨-, hwf, -⟩ := Decoder.fill_refines hneed d hwf
        simp only
        rw [hfill, Option.bind_eq_bind, Option.bind_some]
        generalize d.fill width = answer at hwf hu
        obtain ⟨e | ⟨⟨⟩⟩, d⟩ := answer
        · exact ⟨u, rfl, hu⟩
        · simp only at hwf hu ⊢
          rw [Memory.distance_of_holds hu.memory hwf, Option.bind_eq_bind, Option.bind_some]
          by_cases hsize : d.buffer.size < width
          · rw [if_pos hsize, if_pos hsize]
            exact ⟨u, by rw [hu.offset], hu⟩
          · rw [if_neg hsize, if_neg hsize,
              Memory.slice_take_of_holds hu.memory hwf (Nat.le_of_not_lt hsize), Option.bind_some]
            cases Text.Utf8.decode? (d.buffer.take width) with
            | none => exact ⟨u, by rw [hu.offset], hu⟩
            | some c =>
              exact ⟨_, rfl, hu.reader, Memory.drop_holds hu.memory width, hu.finished,
                congrArg (· + width) hu.offset, hu.room_pos⟩

end Represents

end Machine
end Source
end LexicalFrontEnd
