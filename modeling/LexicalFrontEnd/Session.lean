import LexicalFrontEnd.Cursor
import LexicalFrontEnd.Diagnostic.Basic

/-!
Sessions: one token at a time out of one source after another.

A session keeps the token that was read last and a log of everything that was
wrong.  Both outlive the source, so a session may go on to another source, and
other stages may add to the log.  Once a source has ended or failed, scanning
changes nothing until the next one is opened.
-/

namespace LexicalFrontEnd

/-- What a session has before it: no source yet, a source with more to read, one
that has ended, or one that has failed.  The cursor comes with the state, so no
session is ready without one; a `Tokenizer` keeps the two apart. -/
inductive Session.State
  | unopened
  | ready (cursor : Cursor)
  | exhausted
  | failed
  deriving DecidableEq, Repr

/-- A session; `capacity` is that of the buffers for its sources. -/
structure Session where
  capacity : Nat
  lexicon : Lexicon
  token : Token
  log : Log
  state : Session.State

/-- What one scan came to: a well-formed token, a malformed one that was logged,
the failure of the source, which was logged too, or nothing any more. -/
inductive Outcome
  | token
  | recovered (d : Diagnostic)
  | fatal (d : Diagnostic)
  | exhausted
  deriving DecidableEq, Repr

def Outcome.hasToken : Outcome → Bool
  | token | recovered _ => true
  | fatal _ | exhausted => false

def Outcome.isFatal : Outcome → Bool
  | fatal _ => true
  | _ => false

namespace Session

def new (lexicon : Lexicon) (capacity : Nat) : Session :=
  ⟨capacity, lexicon, .blank, .empty, .unopened⟩

def standard (capacity : Nat) : Session := new .standard capacity

def record (s : Session) (d : Diagnostic) : Session := { s with log := s.log.push d }

/-- A session that goes on with the words, the token and the log of this one, but
with no source and a buffer of the usual capacity. -/
def renew (s : Session) : Session :=
  { s with capacity := Source.Buffer.defaultCapacity, state := .unopened }

/-- Give the source up.  The report stands at `position` and leaves the token as
it is. -/
def fail (s : Session) (error : Source.SourceError) (position : Position) : Diagnostic × Session :=
  let d := (Diagnostic.create .unreadableSource (.startingAt position) none).withNote error.message
  (d, { s.record d with state := .failed })

/-- Go over to another source, whatever became of the one before. -/
def attach (s : Session) (reader : Source.Reader) : Except Diagnostic Unit × Session :=
  match Source.ofReader reader s.capacity with
  | .ok source => (.ok (), { s with state := .ready (.ofSource source) })
  | .error error =>
    let (d, s) := s.fail error .start
    (.error d, s)

/-- Take a lexeme over into the token, and into the log if it is malformed. -/
def accept (s : Session) (lexeme : Lexeme) (start : Position) : Outcome × Session :=
  let text := String.ofList lexeme.text
  match lexeme.verdict with
  | .token kind code? => (.token, { s with token := ⟨text, kind, code?, start⟩ })
  | .malformed problem =>
    let token := (Token.startingAt start).set text .invalid
    let d := Diagnostic.create problem token none
    (.recovered d, { s with token }.record d)

/-- Read the next token.  If the source fails inside it, an empty token stays
where it would have started. -/
def scan (s : Session) : Outcome × Session :=
  match s.state with
  | .ready cursor =>
    match cursor.scan s.lexicon with
    | .exhausted => (.exhausted, { s with state := .exhausted })
    | .failed failure start? =>
      let token := (start?.map Token.startingAt).getD s.token
      let (d, s) := { s with token }.fail failure.error failure.position
      (.fatal d, s)
    | .found lexeme start next => { s with state := .ready next }.accept lexeme start
  | _ => (.exhausted, s)

def next (s : Session) : Bool × Session :=
  let (outcome, s) := s.scan
  (outcome.hasToken, s)

/-- A bound on the tokens to come. -/
def remaining (s : Session) : Nat :=
  match s.state with
  | .ready cursor => cursor.rest.length
  | _ => 0

theorem state_accept (s : Session) (lexeme : Lexeme) (start : Position) :
    (s.accept lexeme start).2.state = s.state := by
  simp only [accept]
  split <;> rfl

/-- Every token takes characters away from the source. -/
theorem remaining_scan_lt {s t : Session} {outcome : Outcome} (h : s.scan = (outcome, t))
    (ht : outcome.hasToken = true) : t.remaining < s.remaining := by
  unfold scan at h
  split at h
  · rename_i cursor hs
    split at h
    · cases h
      cases ht
    · cases h
      cases ht
    · rename_i lexeme start next hscan
      have hlt := Cursor.length_rest_lt_of_scan hscan
      have hstate := state_accept { s with state := .ready next } lexeme start
      rw [h] at hstate
      simp only at hstate
      simpa only [remaining, hs, hstate] using hlt
  · cases h
    cases ht

/-- What scanning a source to its end brings: every token with the outcome of its
scan, the outcome that left none, and the session afterwards. -/
structure Run where
  scans : List (Outcome × Token)
  last : Outcome
  session : Session

/-- Scan to the end, behind the tokens scanned so far, the last one first. -/
def scanOnto (done : List (Outcome × Token)) (s : Session) : Run :=
  match h : s.scan with
  | (outcome, next) =>
    if ht : outcome.hasToken then
      have := remaining_scan_lt h ht
      scanOnto ((outcome, next.token) :: done) next
    else ⟨done.reverse, outcome, next⟩
termination_by s.remaining

def scanAll (s : Session) : Run := s.scanOnto []

def read (s : Session) (reader : Source.Reader) : Run :=
  match s.attach reader with
  | (.ok (), s) => s.scanAll
  | (.error d, s) => ⟨[], .fatal d, s⟩

def describe (s : Session) : String :=
  let code := match s.token.code? with
    | some code => s!"Some({code})"
    | none => "None"
  "ParserContext \x7b token: Token \x7b lexeme: " ++ Text.quote s.token.lexeme ++
    s!", kind: {s.token.kind.label}, code: {code}, line: {s.token.position.line}" ++
    s!", column: {s.token.position.column} \x7d, diagnostics: {s.log.size}, .. \x7d"

end Session

def tokenize (text : String) (capacity : Nat) : List Token × Log :=
  let run := (Session.standard capacity).read (.ofBytes (Text.Utf8.encode text.toList))
  (run.scans.map Prod.snd, run.session.log)

end LexicalFrontEnd
