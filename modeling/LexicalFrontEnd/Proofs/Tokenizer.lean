import LexicalFrontEnd.Proofs.Progress
import LexicalFrontEnd.Proofs.Protocol

/-!
Tokenizers: sessions whose source is kept apart from their state.

A session that is ready has its cursor in its state, so there is nothing it could
lack.  A tokenizer has a phase in one field and a source, or none, in another, and
its scans go through the source character by character.  There are two faults: a
scan of a tokenizer that is ready finds no source, or a loop runs out of rounds.

A tokenizer that represents a session does what the session does, without a fault
(`perform_represents`), so behind any operations it is ready only with a source and
the protocol of sessions is its own (`performAll_keeps_protocol`).
-/

namespace LexicalFrontEnd

inductive Tokenizer.Phase
  | unopened
  | ready
  | exhausted
  | failed
  deriving DecidableEq, Repr

inductive Tokenizer.Fault
  | noSource
  | outOfRounds
  deriving DecidableEq, Repr

structure Tokenizer where
  capacity : Nat
  lexicon : Lexicon
  token : Token
  log : Log
  source? : Option Source
  phase : Tokenizer.Phase

namespace Tokenizer

def new (lexicon : Lexicon) (capacity : Nat) : Tokenizer :=
  ⟨capacity, lexicon, .blank, .empty, none, .unopened⟩

def record (x : Tokenizer) (d : Diagnostic) : Tokenizer := { x with log := x.log.push d }

def renew (x : Tokenizer) : Tokenizer :=
  { x with capacity := Source.Buffer.defaultCapacity, source? := none, phase := .unopened }

/-- Give the source up.  The token stays as it is. -/
def fail (x : Tokenizer) (failure : ReadFailure) : Diagnostic × Tokenizer :=
  (failure.report, { x.record failure.report with source? := none, phase := .failed })

def attach (x : Tokenizer) (reader : Source.Reader) : Except Diagnostic Unit × Tokenizer :=
  let x := { x with source? := none }
  match Source.ofReader reader x.capacity with
  | .ok source => (.ok (), { x with source? := some source, phase := .ready })
  | .error error =>
    let (d, x) := x.fail ⟨error, .start⟩
    (.error d, x)

def accept (x : Tokenizer) (verdict : Verdict) (text : List Char) (start : Position) :
    Outcome × Tokenizer :=
  let x := { x with token := Scanner.tokenOf verdict text start }
  match verdict with
  | .token _ _ => (.token, x)
  | .malformed problem =>
    let d := Diagnostic.create problem x.token none
    (.recovered d, x.record d)

/-- Read the next token.  The loops of the scanner have a round for each character that
is left, and one more.  A source that has ended stays where it is. -/
def scan (x : Tokenizer) : Except Fault (Outcome × Tokenizer) :=
  match x.phase with
  | .unopened | .exhausted | .failed => .ok (.exhausted, x)
  | .ready =>
    match x.source? with
    | none => .error .noSource
    | some source =>
      match Scanner.scan x.lexicon (source.left.length + 1) source with
      | none => .error .outOfRounds
      | some (.exhausted source) =>
        .ok (.exhausted, { x with source? := some source, phase := .exhausted })
      | some (.failed failure start?) =>
        let x := { x with token := (start?.map Token.startingAt).getD x.token }
        let (d, x) := x.fail failure
        .ok (.fatal d, x)
      | some (.found verdict text start source) =>
        .ok ({ x with source? := some source }.accept verdict text start)

def next (x : Tokenizer) : Except Fault (Bool × Tokenizer) := do
  let (outcome, x) ← x.scan
  return (outcome.hasToken, x)

def perform (x : Tokenizer) : Session.Operation → Except Fault (Session.Event × Tokenizer)
  | .attach reader =>
    match x.attach reader with
    | (.ok (), x) => return (.attached reader, x)
    | (.error d, x) => return (.refused d, x)
  | .scan => do
    let (outcome, x) ← x.scan
    return (.scanned outcome, x)
  | .next => do
    let (found, x) ← x.next
    return (.asked found, x)
  | .record d => return (.recorded d, x.record d)
  | .renew => return (.renewed, x.renew)

def performAll (x : Tokenizer) :
    List Session.Operation → Except Fault (List Session.Event × Tokenizer)
  | [] => return ([], x)
  | operation :: operations => do
    let (event, x) ← x.perform operation
    let (events, x) ← x.performAll operations
    return (event :: events, x)

/-! ## Tokenizers and sessions -/

/-- The phase and the source of a tokenizer make the state of a session. -/
inductive Shows : Phase → Option Source → Session.State → Prop
  | unopened : Shows .unopened none .unopened
  | ready {source : Source} {cursor : Cursor} :
    source.Stands cursor → Shows .ready (some source) (.ready cursor)
  | exhausted {source : Source} :
    source.isAtEnd = true → Shows .exhausted (some source) .exhausted
  | failed : Shows .failed none .failed

theorem Shows.ready_or_not {phase : Phase} {source? : Option Source} {state : Session.State}
    (h : Shows phase source? state) :
    (∃ source cursor, phase = .ready ∧ source? = some source ∧ state = .ready cursor ∧
      source.Stands cursor) ∨
    phase ≠ .ready ∧ ∀ cursor, state ≠ .ready cursor := by
  cases h with
  | ready hstands => exact Or.inl ⟨_, _, rfl, rfl, rfl, hstands⟩
  | unopened | exhausted | failed =>
    exact Or.inr ⟨by rintro ⟨⟩, by rintro cursor ⟨⟩⟩

structure Represents (x : Tokenizer) (s : Session) : Prop where
  capacity : x.capacity = s.capacity
  lexicon : x.lexicon = s.lexicon
  token : x.token = s.token
  log : x.log = s.log
  state : Shows x.phase x.source? s.state

theorem new_represents (lexicon : Lexicon) (capacity : Nat) :
    (new lexicon capacity).Represents (.new lexicon capacity) :=
  ⟨rfl, rfl, rfl, rfl, .unopened⟩

variable {x : Tokenizer} {s : Session}

theorem exists_source_of_ready (h : x.Represents s) (hready : x.phase = .ready) :
    ∃ source, x.source? = some source := by
  rcases h.state.ready_or_not with ⟨source, cursor, -, hsource, -⟩ | ⟨hphase, -⟩
  · exact ⟨source, hsource⟩
  · exact absurd hready hphase

theorem record_represents (h : x.Represents s) (d : Diagnostic) :
    (x.record d).Represents (s.record d) :=
  ⟨h.capacity, h.lexicon, h.token, congrArg (Log.push · d) h.log, h.state⟩

theorem renew_represents (h : x.Represents s) : x.renew.Represents s.renew :=
  ⟨rfl, h.lexicon, h.token, h.log, .unopened⟩

theorem attach_represents (h : x.Represents s) (reader : Source.Reader) :
    (x.attach reader).1 = (s.attach reader).1 ∧
      (x.attach reader).2.Represents (s.attach reader).2 := by
  rw [attach, Session.attach, ← h.capacity]
  cases hopen : Source.ofReader reader x.capacity with
  | ok source =>
    exact ⟨rfl, rfl, h.lexicon, h.token, h.log, .ready (Source.stands_ofSource hopen)⟩
  | error e =>
    exact ⟨rfl, h.capacity, h.lexicon, h.token, congrArg (Log.push · _) h.log, .failed⟩

/-- The token and the log become those of a session that accepts the lexeme. -/
theorem accept_placed (x : Tokenizer) (placed : Placed) :
    x.accept placed.lexeme.verdict placed.lexeme.text placed.start =
      (placed.outcome,
        { x with token := placed.token, log := placed.complaint?.elim x.log x.log.push }) := by
  rw [accept.eq_def, Placed.outcome, Placed.complaint?, Scanner.tokenOf_placed]
  cases placed.lexeme.verdict <;> rfl

/-- A tokenizer that is ready finds its source, and the loops of the scanner end. -/
theorem scan_of_ready {source : Source} {cursor : Cursor} (h : x.Represents s)
    (hphase : x.phase = .ready) (hsource : x.source? = some source)
    (hstate : s.state = .ready cursor) (hstands : source.Stands cursor) :
    ∃ y, x.scan = .ok (s.scan.1, y) ∧ y.Represents s.scan.2 := by
  have hrounds : cursor.rest.length < source.left.length + 1 := by
    rw [Source.left_eq hstands]
    exact Nat.lt_succ_self _
  obtain ⟨result, hresult, hagrees⟩ := Scanner.scan_agrees x.lexicon hrounds hstands
  rw [scan, hphase, hsource]
  simp only
  rw [hresult]
  generalize hscan : cursor.scan x.lexicon = scanned at hagrees
  rw [h.lexicon] at hscan
  cases hagrees with
  | exhausted hend =>
    rw [Session.scan_of_exhausted hstate hscan]
    exact ⟨_, rfl, h.capacity, h.lexicon, h.token, h.log, .exhausted hend⟩
  | failed failure start? =>
    rw [Session.scan_of_failed hstate hscan]
    refine ⟨_, rfl, h.capacity, h.lexicon, ?_, congrArg (Log.push · _) h.log, .failed⟩
    exact congrArg (start?.map Token.startingAt).getD h.token
  | @found lexeme start next behind hnext =>
    rw [Session.scan_of_found (x := ⟨lexeme, start⟩) hstate hscan]
    refine ⟨_, congrArg Except.ok (accept_placed _ ⟨lexeme, start⟩), h.capacity, h.lexicon, rfl,
      ?_, .ready hnext⟩
    show Option.elim _ x.log x.log.push = Option.elim _ s.log s.log.push
    rw [h.log]

theorem scan_of_not_ready (h : x.phase ≠ .ready) : x.scan = .ok (.exhausted, x) := by
  rw [scan]
  cases hphase : x.phase with
  | ready => exact absurd hphase h
  | unopened | exhausted | failed => rfl

theorem scan_represents (h : x.Represents s) :
    ∃ y, x.scan = .ok (s.scan.1, y) ∧ y.Represents s.scan.2 := by
  rcases h.state.ready_or_not with ⟨source, cursor, hphase, hsource, hstate, hstands⟩ |
    ⟨hphase, hstate⟩
  · exact scan_of_ready h hphase hsource hstate hstands
  · rw [scan_of_not_ready hphase, Session.scan_of_not_ready hstate]
    exact ⟨x, rfl, h⟩

/-- Where a session has no cursor, a scan leaves the tokenizer as it is. -/
theorem scan_of_closed (h : x.Represents s) (hclosed : ∀ cursor, s.state ≠ .ready cursor) :
    x.scan = .ok (.exhausted, x) := by
  rcases h.state.ready_or_not with ⟨source, cursor, -, -, hstate, -⟩ | ⟨hphase, -⟩
  · exact absurd hstate (hclosed cursor)
  · exact scan_of_not_ready hphase

theorem perform_represents (h : x.Represents s) (operation : Session.Operation) :
    ∃ y, x.perform operation = .ok ((s.perform operation).1, y) ∧
      y.Represents (s.perform operation).2 := by
  cases operation with
  | attach reader =>
    obtain ⟨hsame, hafter⟩ := attach_represents h reader
    rw [perform, Session.perform]
    generalize x.attach reader = answer at hsame hafter
    generalize s.attach reader = answer' at hsame hafter
    obtain ⟨result, y⟩ := answer
    obtain ⟨result', t⟩ := answer'
    obtain rfl : result = result' := hsame
    cases result with
    | ok => exact ⟨y, rfl, hafter⟩
    | error d => exact ⟨y, rfl, hafter⟩
  | scan =>
    obtain ⟨y, hscan, hy⟩ := scan_represents h
    rw [perform, hscan]
    exact ⟨y, rfl, hy⟩
  | next =>
    obtain ⟨y, hscan, hy⟩ := scan_represents h
    rw [perform, next, hscan]
    exact ⟨y, rfl, hy⟩
  | record d => exact ⟨_, rfl, record_represents h d⟩
  | renew => exact ⟨_, rfl, renew_represents h⟩

theorem performAll_represents (h : x.Represents s) (operations : List Session.Operation) :
    ∃ y, x.performAll operations = .ok ((s.performAll operations).1, y) ∧
      y.Represents (s.performAll operations).2 := by
  induction operations generalizing x s with
  | nil => exact ⟨x, rfl, h⟩
  | cons operation operations ih =>
    obtain ⟨y, hperform, hy⟩ := perform_represents h operation
    obtain ⟨z, hperformAll, hz⟩ := ih hy
    refine ⟨z, ?_, hz⟩
    rw [performAll, hperform]
    show (y.performAll operations >>= _) = _
    rw [hperformAll]
    rfl

/-! ## The protocol -/

/-- However operations follow one another, a tokenizer meets no fault, tells what a
session tells, and has the token and the log of that session, which keep the protocol.
It is ready only with a source, so its next scan does not miss one either; and without
an open reader a scan leaves it as it is. -/
theorem performAll_keeps_protocol (lexicon : Lexicon) (capacity : Nat)
    (operations : List Session.Operation) :
    let run := (Session.new lexicon capacity).performAll operations
    Session.Lawful run.1 run.2 ∧
      ∃ x, (new lexicon capacity).performAll operations = .ok (run.1, x) ∧ x.Represents run.2 ∧
        (x.phase = .ready → ∃ source, x.source? = some source) ∧
        (∃ y, x.scan = .ok (run.2.scan.1, y) ∧ y.Represents run.2.scan.2) ∧
        (Session.openReader? run.1 = none → x.scan = .ok (.exhausted, x)) := by
  intro run
  have hlawful := Session.lawful_performAll lexicon capacity operations
  obtain ⟨x, hrun, hx⟩ := performAll_represents (new_represents lexicon capacity) operations
  refine ⟨hlawful, x, hrun, hx, exists_source_of_ready hx, scan_represents hx, fun hclosed => ?_⟩
  have hreads : run.2.Reads none := hclosed ▸ hlawful.reads
  exact scan_of_closed hx hreads

/-- A tokenizer that is ready and has no source would meet the fault. -/
example (x : Tokenizer) : scan { x with source? := none, phase := .ready } = .error .noSource :=
  rfl

end Tokenizer
end LexicalFrontEnd
