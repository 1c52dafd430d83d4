import LexicalFrontEnd.Source.Reader

/-!
What a reader brings, however its data is cut into calls.

A reader that is called until a call brings nothing gives a sequence of bytes
and failures, its signals.  How many bytes a call asks for, how many it brings,
and how often it is interrupted all leave the sequence as it is.  The theorem
this file exists for is `signals_eq_of_read`: a call that asks for at least one
byte takes what it brings off the front of the signals.
-/

namespace LexicalFrontEnd
namespace Source

inductive Signal
  | byte (b : UInt8)
  | failure (message : String)
  deriving DecidableEq, Repr

/-- What the calls that meet these events bring until one brings nothing.  An
interrupted call is made again, so it does not show.  Calls that may bring no
byte at all say that the data has ended where they meet it. -/
def ReadEvent.signals (chunk? : Option Nat) : List ReadEvent → List Signal
  | [] => []
  | .data bytes :: rest =>
    if chunk? = some 0 ∧ bytes ≠ [] then [] else bytes.map .byte ++ signals chunk? rest
  | .interrupt :: rest => signals chunk? rest
  | .failure message :: rest => .failure message :: signals chunk? rest
  | .stop :: _ => []

def Reader.signals (r : Reader) : List Signal := ReadEvent.signals r.chunk? r.events

def ReadResult.signals : ReadResult → List Signal
  | .bytes bs => bs.map .byte
  | .interrupted => []
  | .failed message => [.failure message]

/-! ## Cutting data into calls -/

/-- Data may be cut anywhere. -/
theorem ReadEvent.signals_cut {chunk? : Option Nat} (h : chunk? ≠ some 0)
    (first second : List UInt8) (rest : List ReadEvent) :
    signals chunk? (.data first :: .data second :: rest) =
      signals chunk? (.data (first ++ second) :: rest) := by
  simp only [signals, h, false_and, if_false, List.map_append, List.append_assoc]

/-- Calls may bring as few bytes as they like, as long as they bring any. -/
theorem ReadEvent.signals_chunk {chunk : Nat} (h : chunk ≠ 0) (events : List ReadEvent) :
    signals (some chunk) events = signals none events := by
  induction events with
  | nil => rfl
  | cons event rest ih =>
    cases event with
    | data bytes => simp only [signals, ih, Option.some.injEq, h, reduceCtorEq, false_and, if_false]
    | interrupt => exact ih
    | failure message =>
      rw [signals, signals, ih]
    | stop => rfl

/-! ## What a call takes -/

namespace Reader

theorem signals_ofBytes (bytes : List UInt8) : (ofBytes bytes).signals = bytes.map .byte := by
  show (if none = some 0 ∧ bytes ≠ [] then [] else bytes.map Signal.byte ++ []) = _
  have hchunk : ¬(none = some 0 ∧ bytes ≠ []) := by
    intro h
    cases h.1
  rw [if_neg hchunk, List.append_nil]

theorem portion_append_drop (chunk? : Option Nat) (room : Nat) (bytes : List UInt8) :
    portion chunk? room bytes ++ bytes.drop (portion chunk? room bytes).length = bytes := by
  have htake (n : Nat) : bytes.take n ++ bytes.drop (bytes.take n).length = bytes := by
    rw [List.length_take]
    rcases Nat.le_total n bytes.length with h | h
    · rw [Nat.min_eq_left h, List.take_append_drop]
    · rw [Nat.min_eq_right h, List.take_of_length_le h, List.drop_length, List.append_nil]
  cases chunk? with
  | none => exact htake room
  | some chunk => exact htake (min room chunk)

theorem portion_eq_nil {chunk? : Option Nat} {room : Nat} {bytes : List UInt8} (hroom : 0 < room)
    (hbytes : bytes ≠ []) (h : portion chunk? room bytes = []) : chunk? = some 0 := by
  have hlen : bytes.length ≠ 0 := fun h => hbytes (List.length_eq_zero_iff.mp h)
  have h0 : (portion chunk? room bytes).length = 0 := by rw [h]; rfl
  cases chunk? with
  | none =>
    rw [portion, List.length_take] at h0
    omega
  | some chunk =>
    rw [portion, List.length_take] at h0
    congr
    omega

theorem signals_readEvents (chunk? : Option Nat) {room : Nat} (hroom : 0 < room)
    (events : List ReadEvent) :
    ReadEvent.signals chunk? events =
      if (readEvents chunk? room events).1 = .bytes [] then []
      else (readEvents chunk? room events).1.signals ++
        ReadEvent.signals chunk? (readEvents chunk? room events).2 := by
  fun_induction readEvents chunk? room events with
  | case1 => rfl
  | case2 rest ih =>
    rw [← ih, ReadEvent.signals, if_neg fun h => h.2 rfl]
    rfl
  | case3 bytes rest hne taken =>
    have hbytes : bytes ≠ [] := fun h => hne h
    have hsplit : taken ++ bytes.drop taken.length = bytes :=
      portion_append_drop chunk? room bytes
    by_cases ht : taken = []
    · have hchunk : chunk? = some 0 := portion_eq_nil hroom hbytes ht
      rw [if_pos (by rw [ht]), ReadEvent.signals, if_pos ⟨hchunk, hbytes⟩]
    · have hchunk : chunk? ≠ some 0 := by
        rintro rfl
        exact ht (by show bytes.take (min room 0) = []; simp)
      rw [if_neg fun h => ht (ReadResult.bytes.inj h), ReadEvent.signals, ReadEvent.signals,
        if_neg fun h => hchunk h.1, if_neg fun h => hchunk h.1, ReadResult.signals,
        ← List.append_assoc, ← List.map_append, hsplit]
  | case4 rest => rfl
  | case5 message rest => rfl
  | case6 rest => rfl

/-- What a call brings is what the signals start with, and the reader goes on
with the others.  A call that brings nothing has met the end. -/
theorem signals_eq_of_read {r s : Reader} {room : Nat} {result : ReadResult} (hroom : 0 < room)
    (h : r.read room = (result, s)) :
    r.signals = if result = .bytes [] then [] else result.signals ++ s.signals := by
  obtain ⟨rfl, rfl⟩ := Prod.mk.inj h
  exact signals_readEvents r.chunk? hroom r.events

end Reader
end Source
end LexicalFrontEnd
