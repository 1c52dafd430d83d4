import LexicalFrontEnd.Position
import LexicalFrontEnd.Source.Decoder

/-!
A source of characters with a place in it.

One character is current, and the one after it may be looked at without moving.
At the end no character is current; the place stays that of the last one.  A
failed call changes neither the current character nor the place, so it may be
made again.

`drain` reads a source to its end or to its first failure.
-/

namespace LexicalFrontEnd

/-- What is known of the character after the current one: nothing, or that it is
`next?`, where none is the end. -/
inductive Source.Lookahead
  | unread
  | read (next? : Option Char)
  deriving DecidableEq, Repr

/-- A source of characters; `current?` is none at its end. -/
structure Source where
  decoder : Source.Decoder
  lookahead : Source.Lookahead
  current? : Option Char
  position : Position
  deriving DecidableEq, Repr

namespace Source

/-- The place of `next?`, which follows a character at `p`; the end has the place
of the last character. -/
def placeAfter (p : Position) (next? : Option Char) : Position := (next?.map p.after).getD p

/-- Open a reader with a buffer of the given capacity and read the first
character. -/
def ofReader (reader : Reader) (capacity : Nat) : Except SourceError Source :=
  match (Decoder.ofReader reader capacity).next with
  | (.error e, _) => .error e
  | (.ok first?, decoder) => .ok ⟨decoder, .unread, first?, placeAfter .start first?⟩

def capacity (s : Source) : Nat := s.decoder.buffer.capacity

def isAtEnd (s : Source) : Bool := s.current?.isNone

def pull (s : Source) : Except SourceError (Option Char) × Source :=
  match s.lookahead with
  | .read next? => (.ok next?, { s with lookahead := .unread })
  | .unread =>
    let (result, decoder) := s.decoder.next
    (result, { s with decoder })

/-- Make the next character current; tells whether there was one. -/
def advance (s : Source) : Except SourceError Bool × Source :=
  if s.isAtEnd then (.ok false, s)
  else
    match s.pull with
    | (.error e, s) => (.error e, s)
    | (.ok next?, s) =>
      (.ok next?.isSome, { s with current? := next?, position := placeAfter s.position next? })

def peek (s : Source) : Except SourceError (Option Char) × Source :=
  if s.isAtEnd then (.ok none, s)
  else
    match s.pull with
    | (.error e, s) => (.error e, s)
    | (.ok next?, s) => (.ok next?, { s with lookahead := .read next? })

def Lookahead.size : Lookahead → Nat
  | .read (some _) => 1
  | _ => 0

/-- A bound on the calls of `advance` that can change the source. -/
def remaining (s : Source) : Nat :=
  s.decoder.remaining + s.lookahead.size + (if s.isAtEnd then 0 else 1)

/-- Taking a character out of the source, or finding that there is none, leaves
no more than before, and less if there was one. -/
theorem remaining_pull {s t : Source} {next? : Option Char} (h : s.pull = (.ok next?, t)) :
    t.decoder.remaining + t.lookahead.size + (if next?.isSome then 1 else 0)
      ≤ s.decoder.remaining + s.lookahead.size := by
  unfold pull at h
  split at h
  · rename_i found? hl
    cases h
    cases next? <;> simp [hl, Lookahead.size]
  · rename_i hl
    generalize hn : s.decoder.next = answer at h
    obtain ⟨result, decoder⟩ := answer
    cases h
    have := Decoder.remaining_next hn
    cases next? <;> simpa [hl, Lookahead.size, Except.toOption] using this

theorem remaining_advance_lt {s t : Source} {moved : Bool} (hs : s.isAtEnd = false)
    (h : s.advance = (.ok moved, t)) : t.remaining < s.remaining := by
  unfold advance at h
  rw [hs] at h
  simp only [Bool.false_eq_true, if_false] at h
  split at h
  · cases h
  · rename_i next? u hp
    have hle := remaining_pull hp
    cases h
    have : s.remaining = s.decoder.remaining + s.lookahead.size + 1 := by rw [remaining, hs]; rfl
    rw [this]
    cases next? <;> simp [remaining, isAtEnd] at hle ⊢ <;> omega

/-- What reading a source to its end brings: each character with its place, the
failure that cut it short, and the source as it is left. -/
structure Drained where
  chars : List (Char × Position)
  failure? : Option SourceError
  source : Source
  deriving DecidableEq, Repr

/-- Read to the end or to the first failure, behind the characters read so far,
the last one first. -/
def drainOnto (done : List (Char × Position)) (s : Source) : Drained :=
  match hs : s.current? with
  | none => ⟨done.reverse, none, s⟩
  | some c =>
    match h : s.advance with
    | (.error e, next) => ⟨((c, s.position) :: done).reverse, some e, next⟩
    | (.ok _, next) =>
      have := remaining_advance_lt (by simp [isAtEnd, hs]) h
      drainOnto ((c, s.position) :: done) next
termination_by s.remaining

def drain (s : Source) : Drained := s.drainOnto []

end Source
end LexicalFrontEnd
