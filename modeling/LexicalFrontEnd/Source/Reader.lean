/-!
Where bytes come from: a reader answers one read call after another.

A reader is described by what its calls will meet, in order.  Data may be cut
into calls of any size, a call may be interrupted or fail, and a call that
brings nothing says that the data has ended.  `Reader.size` bounds what is left,
and every call takes from it what it brings (`Reader.size_read`).
-/

namespace LexicalFrontEnd
namespace Source

/-- What read calls meet: data, which several calls may share, or a call that is
interrupted, fails, or brings nothing. -/
inductive ReadEvent
  | data (bytes : List UInt8)
  | interrupt
  | failure (message : String)
  | stop
  deriving DecidableEq, Repr

/-- A source of bytes.  One call brings at most `chunk?` bytes. -/
structure Reader where
  events : List ReadEvent
  chunk? : Option Nat
  deriving DecidableEq, Repr

inductive ReadResult
  | bytes (bs : List UInt8)
  | interrupted
  | failed (message : String)
  deriving DecidableEq, Repr

/-- The number of bytes that a call brings; a call that is interrupted or fails
counts as one. -/
def ReadResult.weight : ReadResult → Nat
  | .bytes bs => bs.length
  | _ => 1

namespace ReadEvent

/-- One more than the number of bytes that the event brings. -/
def size : ReadEvent → Nat
  | data bytes => bytes.length + 1
  | _ => 1

def totalSize : List ReadEvent → Nat
  | [] => 0
  | event :: rest => event.size + totalSize rest

end ReadEvent

namespace Reader

def ofBytes (bytes : List UInt8) : Reader := ⟨[.data bytes], none⟩

/-- The bytes that one call for at most `room` of them takes from `bytes`. -/
def portion (chunk? : Option Nat) (room : Nat) (bytes : List UInt8) : List UInt8 :=
  match chunk? with
  | none => bytes.take room
  | some chunk => bytes.take (min room chunk)

/-- The first call for at most `room` bytes meets these events: what it brings,
and the events that are left.  Data that is used up is passed over. -/
def readEvents (chunk? : Option Nat) (room : Nat) : List ReadEvent → ReadResult × List ReadEvent
  | [] => (.bytes [], [])
  | .data [] :: rest => readEvents chunk? room rest
  | .data bytes :: rest =>
    let taken := portion chunk? room bytes
    (.bytes taken, .data (bytes.drop taken.length) :: rest)
  | .interrupt :: rest => (.interrupted, rest)
  | .failure message :: rest => (.failed message, rest)
  | .stop :: rest => (.bytes [], rest)

def read (r : Reader) (room : Nat) : ReadResult × Reader :=
  let (result, events) := readEvents r.chunk? room r.events
  (result, { r with events })

/-- A bound on what the reader has left. -/
def size (r : Reader) : Nat := ReadEvent.totalSize r.events

theorem portion_length_le (chunk? : Option Nat) (room : Nat) (bytes : List UInt8) :
    (portion chunk? room bytes).length ≤ bytes.length := by
  unfold portion
  split <;> simp only [List.length_take] <;> omega

theorem portion_length_le_room (chunk? : Option Nat) (room : Nat) (bytes : List UInt8) :
    (portion chunk? room bytes).length ≤ room := by
  unfold portion
  split <;> simp only [List.length_take] <;> omega

theorem size_readEvents (chunk? : Option Nat) (room : Nat) (events : List ReadEvent) :
    ReadEvent.totalSize (readEvents chunk? room events).2
      + (readEvents chunk? room events).1.weight ≤ ReadEvent.totalSize events := by
  fun_induction readEvents chunk? room events with
  | case1 => exact Nat.le_refl _
  | case2 rest ih =>
    simp only [ReadEvent.totalSize]
    omega
  | case3 bytes rest _ taken =>
    have : taken.length ≤ bytes.length := portion_length_le chunk? room bytes
    simp only [ReadResult.weight, ReadEvent.totalSize, ReadEvent.size, List.length_drop]
    omega
  | case4 rest =>
    simp only [ReadResult.weight, ReadEvent.totalSize, ReadEvent.size]
    omega
  | case5 message rest =>
    simp only [ReadResult.weight, ReadEvent.totalSize, ReadEvent.size]
    omega
  | case6 rest =>
    simp only [ReadResult.weight, ReadEvent.totalSize, List.length_nil]
    omega

/-- What a call brings is no longer among what is left. -/
theorem size_read (r : Reader) (room : Nat) :
    (r.read room).2.size + (r.read room).1.weight ≤ r.size :=
  size_readEvents r.chunk? room r.events

theorem size_lt_of_read {r s : Reader} {room : Nat} {result : ReadResult}
    (h : r.read room = (result, s)) (hw : 0 < result.weight) : s.size < r.size := by
  have := r.size_read room
  simp only [h] at this
  omega

/-- A call never brings more bytes than it asked for. -/
theorem length_le_of_read {r : Reader} {room : Nat} {bs : List UInt8}
    (h : (r.read room).1 = .bytes bs) : bs.length ≤ room := by
  simp only [read] at h
  generalize r.events = events at h
  fun_induction readEvents r.chunk? room events with
  | case1 => cases h; exact Nat.zero_le _
  | case2 rest ih => exact ih h
  | case3 bytes rest _ taken =>
    obtain rfl : taken = bs := ReadResult.bytes.inj h
    exact portion_length_le_room r.chunk? room bytes
  | case4 => cases h
  | case5 => cases h
  | case6 => cases h; exact Nat.zero_le _

end Reader
end Source
end LexicalFrontEnd
