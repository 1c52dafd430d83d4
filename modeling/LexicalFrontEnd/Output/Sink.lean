import LexicalFrontEnd.Text.Utf8

/-!
Places that text is written to and that may run full.

A write that does not fit stores the part that fits and then fails, so what a
sink holds is always a beginning of what was offered to it.  Some writers stop
at the first failure (`writeAll`) and some go on regardless (`offerAll`).
-/

namespace LexicalFrontEnd
namespace Output

/-- A place for text with room for `limit?` bytes, or for any number of them. -/
structure Sink where
  limit? : Option Nat
  written : Array UInt8
  deriving DecidableEq, Repr

namespace Sink

def ofLimit (limit? : Option Nat) : Sink := ⟨limit?, #[]⟩

def fitting (s : Sink) (bytes : List UInt8) : List UInt8 :=
  match s.limit? with
  | none => bytes
  | some limit => bytes.take (limit - s.written.size)

/-- Write one piece; tells whether all of it fitted. -/
def write (s : Sink) (piece : String) : Bool × Sink :=
  let bytes := Text.Utf8.encode piece.toList
  let kept := s.fitting bytes
  (kept.length == bytes.length, { s with written := s.written ++ kept.toArray })

/-- Write pieces up to the first that does not fit; tells whether all fitted. -/
def writeAll (s : Sink) : List String → Bool × Sink
  | [] => (true, s)
  | piece :: rest =>
    let (fitted, s) := s.write piece
    if fitted then s.writeAll rest else (false, s)

/-- Write every piece, whether the ones before it fitted or not. -/
def offerAll (s : Sink) (pieces : List String) : Sink :=
  pieces.foldl (fun s piece => (s.write piece).2) s

end Sink
end Output
end LexicalFrontEnd
