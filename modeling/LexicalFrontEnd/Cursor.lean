import LexicalFrontEnd.Lexeme.Read
import LexicalFrontEnd.Lexeme.Trivia
import LexicalFrontEnd.Source.Basic

/-!
A cursor in the characters that a source delivers.

A source that fails does so after its last character, so whoever moves past that
character, or asks for the one after it, meets the failure.  Moving on is
therefore the only thing here that can fail, and a failure has the place of the
last character that was delivered.

`Cursor.scan` finds the next lexeme and where it starts.  A scan that finds one
leaves fewer characters (`length_rest_lt_of_scan`).
-/

namespace LexicalFrontEnd

/-- What a source still delivers: the characters after the one at `before`, and
then its end, or a failure. -/
structure Cursor where
  before : Position
  rest : List Char
  failure? : Option Source.SourceError
  deriving DecidableEq, Repr

/-- A failure of the source, and the place of the last character before it. -/
structure ReadFailure where
  error : Source.SourceError
  position : Position
  deriving DecidableEq, Repr

/-- What a scan finds.  A failure inside a lexeme comes with the place where the
lexeme starts. -/
inductive Scan
  | exhausted
  | failed (failure : ReadFailure) (start? : Option Position)
  | found (lexeme : Lexeme) (start : Position) (next : Cursor)
  deriving DecidableEq, Repr

namespace Cursor

def ofSource (s : Source) : Cursor :=
  let drained := s.drain
  ⟨.start, drained.chars.map Prod.fst, drained.failure?⟩

def moveTo (cur : Cursor) (before : Position) (rest : List Char) : Except ReadFailure Cursor :=
  match rest, cur.failure? with
  | [], some error => .error ⟨error, before⟩
  | _, _ => .ok { cur with before, rest }

/-- The place of the last of the first `n` characters after `p`, and the
characters that follow. -/
def walk : Nat → Position → List Char → Position × List Char
  | 0, p, text => (p, text)
  | _ + 1, p, [] => (p, [])
  | n + 1, p, c :: rest => walk n (p.after c) rest

def advanceBy (cur : Cursor) (n : Nat) : Except ReadFailure Cursor :=
  let (before, rest) := walk n cur.before cur.rest
  cur.moveTo before rest

def lookAhead (cur : Cursor) : Except ReadFailure Unit :=
  (cur.advanceBy 1).map fun _ => ()

/-- The cursor moved to the next lexeme.  A slash may start a comment, so the
character after it has to be read to tell. -/
def skipTrivia (cur : Cursor) : Except ReadFailure Cursor := do
  let next ← cur.advanceBy (Lexeme.Trivia.width cur.rest)
  if next.rest.head? = some '/' then next.lookAhead
  return next

def scan (lexicon : Lexicon) (cur : Cursor) : Scan :=
  match cur.skipTrivia with
  | .error failure => .failed failure none
  | .ok cur =>
    match cur.rest with
    | [] => .exhausted
    | c :: rest =>
      let start := cur.before.after c
      let lexeme := Lexeme.read lexicon c rest
      match cur.advanceBy lexeme.width with
      | .error failure => .failed failure (some start)
      | .ok next => .found lexeme start next

theorem walk_eq (n : Nat) (p : Position) (text : List Char) :
    walk n p text = (p.afterText (text.take n), text.drop n) := by
  induction n generalizing p text with
  | zero => simp [walk, Position.afterText]
  | succ n ih =>
    cases text with
    | nil => simp [walk, Position.afterText]
    | cons c rest => simp [walk, ih, Position.afterText]

/-- Moving over `n` characters takes them away. -/
theorem rest_of_advanceBy {cur next : Cursor} {n : Nat} (h : cur.advanceBy n = .ok next) :
    next.rest = cur.rest.drop n := by
  simp only [advanceBy, walk_eq, moveTo] at h
  split at h
  · cases h
  · cases h
    rfl

theorem length_rest_le_of_skipTrivia {cur next : Cursor} (h : cur.skipTrivia = .ok next) :
    next.rest.length ≤ cur.rest.length := by
  unfold skipTrivia at h
  cases hmove : cur.advanceBy (Lexeme.Trivia.width cur.rest) with
  | error failure => simp [hmove, bind, Except.bind] at h
  | ok moved =>
    have hle : moved.rest.length ≤ cur.rest.length := by
      rw [rest_of_advanceBy hmove, List.length_drop]
      exact Nat.sub_le _ _
    simp only [hmove, bind, Except.bind] at h
    split at h
    · split at h
      · cases h
      · cases h
        exact hle
    · cases h
      exact hle

/-- A lexeme takes characters away from what is delivered. -/
theorem length_rest_lt_of_scan {lexicon : Lexicon} {cur next : Cursor} {lexeme : Lexeme}
    {start : Position} (h : cur.scan lexicon = .found lexeme start next) :
    next.rest.length < cur.rest.length := by
  unfold scan at h
  split at h
  · cases h
  · rename_i cur' hskip
    have hle := length_rest_le_of_skipTrivia hskip
    cases hrest : cur'.rest with
    | nil => simp [hrest] at h
    | cons c rest =>
      simp only [hrest] at h
      split at h
      · cases h
      · rename_i next' hnext
        cases h
        have hpos := Lexeme.width_read_pos lexicon c rest
        rw [rest_of_advanceBy hnext, List.length_drop]
        rw [hrest, List.length_cons] at hle ⊢
        omega

end Cursor
end LexicalFrontEnd
