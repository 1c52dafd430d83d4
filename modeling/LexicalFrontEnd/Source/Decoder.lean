import LexicalFrontEnd.Source.Reader
import LexicalFrontEnd.Text.Utf8

/-!
Characters out of the bytes of a reader, through a buffer of fixed capacity.

The buffer keeps the bytes that were read and not yet decoded.  When the bytes
behind it are needed and it is full to its end, the unread ones move to its
front, so four bytes of capacity are enough for every character.  A failed call
leaves the decoder where it was, and the next attempt goes on from there.

`Decoder.remaining` bounds the bytes still to be decoded; a character takes from
it (`remaining_next_lt`), which makes every loop over a decoder end.
-/

namespace LexicalFrontEnd
namespace Source

/-- Why the next character cannot be had: the reader failed, or the bytes at
`offset` are not the UTF-8 form of a character. -/
inductive SourceError
  | io (message : String)
  | invalidUtf8 (offset : Nat)
  deriving DecidableEq, Repr

def SourceError.message : SourceError → String
  | io message => s!"failed to read source: {message}"
  | invalidUtf8 offset => s!"source is not valid UTF-8 (byte offset {offset})"

/-- A buffer for `capacity` bytes: the bytes up to its end, of which the first
`start` are used up. -/
structure Buffer where
  capacity : Nat
  bytes : Array UInt8
  start : Nat
  deriving DecidableEq, Repr

namespace Buffer

/-- The longest UTF-8 form of a character, and so the least useful capacity. -/
def minCapacity : Nat := 4

def defaultCapacity : Nat := 1024

def empty (capacity : Nat) : Buffer := ⟨max capacity minCapacity, #[], 0⟩

/-- The number of bytes that are not used up. -/
def size (b : Buffer) : Nat := b.bytes.size - b.start

def toList (b : Buffer) : List UInt8 := b.bytes.toList.drop b.start

/-- The number of bytes that may still be put behind the last one. -/
def room (b : Buffer) : Nat := b.capacity - b.bytes.size

/-- The buffer with its bytes moved to the front if there is no room behind
them. -/
def makeRoom (b : Buffer) : Buffer :=
  if b.bytes.size = b.capacity then
    { b with bytes := b.bytes.extract b.start b.bytes.size, start := 0 }
  else b

def append (b : Buffer) (bytes : List UInt8) : Buffer := { b with bytes := b.bytes ++ bytes.toArray }

def first? (b : Buffer) : Option UInt8 := b.bytes[b.start]?

def take (b : Buffer) (n : Nat) : List UInt8 := (b.bytes.extract b.start (b.start + n)).toList

def drop (b : Buffer) (n : Nat) : Buffer := { b with start := b.start + n }

theorem size_makeRoom (b : Buffer) : b.makeRoom.size = b.size := by
  unfold makeRoom
  split <;> simp [size]

theorem size_append_le (b : Buffer) (bytes : List UInt8) :
    (b.append bytes).size ≤ b.size + bytes.length := by
  simp only [size, append, Array.size_append, List.size_toArray]
  omega

theorem size_pos_of_first? {b : Buffer} {byte : UInt8} (h : b.first? = some byte) :
    0 < b.size := by
  obtain ⟨hlt, -⟩ := Array.getElem?_eq_some_iff.mp h
  exact Nat.sub_pos_of_lt hlt

end Buffer

/-- A reader with the bytes that were read from it and not yet decoded.
`offset` counts the bytes that were decoded. -/
structure Decoder where
  reader : Reader
  buffer : Buffer
  finished : Bool
  offset : Nat
  deriving DecidableEq, Repr

namespace Decoder

def ofReader (reader : Reader) (capacity : Nat) : Decoder := ⟨reader, .empty capacity, false, 0⟩

/-- Read until the buffer holds `need` bytes, or fewer if the reader ends before.
An interrupted call is made again. -/
def fill (need : Nat) (d : Decoder) : Except SourceError Unit × Decoder :=
  if need ≤ d.buffer.size ∨ d.finished then (.ok (), d)
  else
    let buffer := d.buffer.makeRoom
    match h : d.reader.read buffer.room with
    | (.bytes [], reader) => (.ok (), { d with reader, buffer, finished := true })
    | (.bytes (b :: bs), reader) =>
      have := Reader.size_lt_of_read h (Nat.succ_pos bs.length)
      fill need { d with reader, buffer := buffer.append (b :: bs) }
    | (.interrupted, reader) =>
      have := Reader.size_lt_of_read h Nat.one_pos
      fill need { d with reader, buffer }
    | (.failed message, reader) => (.error (.io message), { d with reader, buffer })
termination_by d.reader.size

def next (d : Decoder) : Except SourceError (Option Char) × Decoder :=
  match d.fill 1 with
  | (.error e, d) => (.error e, d)
  | (.ok (), d) =>
    match d.buffer.first? with
    | none => (.ok none, d)
    | some lead =>
      match Text.Utf8.width? lead with
      | none => (.error (.invalidUtf8 d.offset), d)
      | some width =>
        match d.fill width with
        | (.error e, d) => (.error e, d)
        | (.ok (), d) =>
          if d.buffer.size < width then (.error (.invalidUtf8 d.offset), d)
          else
            match Text.Utf8.decode? (d.buffer.take width) with
            | none => (.error (.invalidUtf8 d.offset), d)
            | some c =>
              (.ok (some c), { d with buffer := d.buffer.drop width, offset := d.offset + width })

def remaining (d : Decoder) : Nat := d.buffer.size + d.reader.size

theorem remaining_fill_le (need : Nat) (d : Decoder) : (d.fill need).2.remaining ≤ d.remaining := by
  fun_induction fill need d with
  | case1 => exact Nat.le_refl _
  | case2 d _ buffer reader h =>
    have := Reader.size_read d.reader buffer.room
    simp only [h, ReadResult.weight] at this
    simp only [remaining, buffer, Buffer.size_makeRoom]
    omega
  | case3 d _ buffer b bs reader h _ ih =>
    have := Reader.size_read d.reader buffer.room
    simp only [h, ReadResult.weight] at this
    have := buffer.size_append_le (b :: bs)
    have : buffer.size = d.buffer.size := Buffer.size_makeRoom _
    simp only [remaining] at ih ⊢
    omega
  | case4 d _ buffer reader h _ ih =>
    have := Reader.size_read d.reader buffer.room
    simp only [h, ReadResult.weight] at this
    have : buffer.size = d.buffer.size := Buffer.size_makeRoom _
    simp only [remaining] at ih ⊢
    omega
  | case5 d _ buffer message reader h =>
    have := Reader.size_read d.reader buffer.room
    simp only [h, ReadResult.weight] at this
    simp only [remaining, buffer, Buffer.size_makeRoom]
    omega

/-- No call adds to what remains, and one that gives a character takes from
it. -/
theorem remaining_next {d e : Decoder} {result : Except SourceError (Option Char)}
    (h : d.next = (result, e)) :
    e.remaining + (if result.toOption.join.isSome then 1 else 0) ≤ d.remaining := by
  unfold next at h
  have h₁ := d.remaining_fill_le 1
  split at h
  · rename_i hfill₁
    rw [hfill₁] at h₁
    cases h
    exact h₁
  · rename_i d₁ hfill₁
    rw [hfill₁] at h₁
    split at h
    · cases h
      exact h₁
    · rename_i lead hlead
      have := Buffer.size_pos_of_first? hlead
      split at h
      · cases h
        exact h₁
      · rename_i width hwidth
        have := Text.Utf8.width?_pos hwidth
        have h₂ := d₁.remaining_fill_le width
        split at h
        · rename_i hfill₂
          rw [hfill₂] at h₂
          cases h
          exact Nat.le_trans h₂ h₁
        · rename_i d₂ hfill₂
          rw [hfill₂] at h₂
          split at h
          · cases h
            exact Nat.le_trans h₂ h₁
          · rename_i hsize
            split at h
            · cases h
              exact Nat.le_trans h₂ h₁
            · cases h
              simp only [remaining, Buffer.size, Buffer.drop, Except.toOption, Option.join_some,
                Option.isSome_some, if_true] at *
              omega

end Decoder
end Source
end LexicalFrontEnd
