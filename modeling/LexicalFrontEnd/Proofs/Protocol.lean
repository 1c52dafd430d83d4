import LexicalFrontEnd.Proofs.Lexeme.Verdict
import LexicalFrontEnd.Proofs.Scan
import LexicalFrontEnd.Proofs.Source.Delivery

/-!
The protocol of a session.

Operations on a session may come in any order.  Each of them is an event to its
caller, and which reader is open can be told from the events alone
(`openReader?`).  The theorem this file exists for is `lawful_performAll`: behind
any operations, a scan does to token and log what its outcome says, it reads in
the reader that the events tell of, and without such a reader it does nothing.
-/

namespace LexicalFrontEnd

open Lexeme

/-! ## One scan -/

theorem Cursor.regular_of_found {cursor next : Cursor} {lexicon : Lexicon} {lexeme : Lexeme}
    {start : Position} (h : cursor.scan lexicon = .found lexeme start next) :
    lexeme.verdict.Regular := by
  have hscanned := scanned lexicon cursor
  rw [h] at hscanned
  cases hscanned with
  | lexeme hgap hstart => exact regular_read lexicon _ _

theorem Cursor.gap_of_exhausted {cursor : Cursor} {lexicon : Lexicon}
    (h : cursor.scan lexicon = .exhausted) :
    Gap true cursor.rest ∧ cursor.failure? = none := by
  have hscanned := scanned lexicon cursor
  rw [h] at hscanned
  cases hscanned with
  | ended hgap => exact ⟨hgap, rfl⟩

namespace Session

variable {s t : Session}

/-- What an outcome says about the session `s` before the scan and `t` behind it. -/
def Tells (s t : Session) : Outcome → Prop
  | .token => t.log = s.log ∧ t.token.kind ≠ .invalid
  | .recovered d =>
    t.log.toList = s.log.toList ++ [d] ∧ t.token.kind = .invalid ∧
      d = Diagnostic.create d.problem t.token none
  | .fatal d => t.log.toList = s.log.toList ++ [d]
  | .exhausted => t.token = s.token ∧ t.log = s.log

theorem tells_outcome {x : Placed} (hregular : x.lexeme.verdict.Regular)
    (htoken : t.token = x.token) (hlog : t.log = x.complaint?.elim s.log s.log.push) :
    Tells s t x.outcome := by
  rw [Placed.outcome]
  rw [Placed.complaint?] at hlog ⊢
  rw [Placed.token] at htoken
  cases hverdict : x.lexeme.verdict with
  | token kind code? =>
    rw [hverdict] at hregular htoken hlog
    exact ⟨hlog, by rw [htoken]; exact hregular.1⟩
  | malformed problem =>
    rw [hverdict] at htoken hlog
    refine ⟨?_, by rw [htoken], ?_⟩
    · rw [hlog]
      exact Log.toList_push _ _
    · rw [htoken, Placed.token, hverdict]
      rfl

theorem tells_scan (s : Session) : Tells s s.scan.2 s.scan.1 := by
  rcases s.scan_cases with ⟨cursor, x, behind, -, hscan, hs⟩ | ⟨-, failure, start?, -, -, hs⟩ |
    ⟨-, -, -, hs⟩ | ⟨-, hs⟩
  · rw [hs]
    exact tells_outcome (Cursor.regular_of_found hscan) rfl rfl
  · rw [hs]
    exact Log.toList_push s.log _
  · rw [hs]
    exact ⟨rfl, rfl⟩
  · rw [hs]
    exact ⟨rfl, rfl⟩

theorem log_grows_of_tells {outcome : Outcome} (h : Tells s t outcome) :
    s.log.toList <+: t.log.toList := by
  cases outcome with
  | token => exact ⟨[], by rw [h.1, List.append_nil]⟩
  | recovered d => exact ⟨[d], h.1.symm⟩
  | fatal d => exact ⟨[d], Eq.symm h⟩
  | exhausted => exact ⟨[], by rw [h.2, List.append_nil]⟩

/-! ## Operations -/

inductive Operation
  | attach (reader : Source.Reader)
  | scan
  | next
  | record (d : Diagnostic)
  | renew

inductive Event
  | attached (reader : Source.Reader)
  | refused (d : Diagnostic)
  | scanned (outcome : Outcome)
  | asked (found : Bool)
  | recorded (d : Diagnostic)
  | renewed

def perform (s : Session) : Operation → Event × Session
  | .attach reader =>
    match s.attach reader with
    | (.ok (), t) => (.attached reader, t)
    | (.error d, t) => (.refused d, t)
  | .scan => (.scanned s.scan.1, s.scan.2)
  | .next => (.asked s.next.1, s.next.2)
  | .record d => (.recorded d, s.record d)
  | .renew => (.renewed, s.renew)

def performAll (s : Session) : List Operation → List Event × Session
  | [] => ([], s)
  | operation :: operations =>
    let (event, t) := s.perform operation
    let (events, u) := t.performAll operations
    (event :: events, u)

theorem attach_of_ok {reader : Source.Reader} (h : s.attach reader = (.ok (), t)) :
    t = { s with
      state := .ready ⟨.start, reader.stream.deliver.text, reader.stream.deliver.failure?⟩ } := by
  rw [attach_eq] at h
  split at h
  · cases h
  · rename_i hdeliver
    rw [hdeliver]
    exact (Prod.mk.inj h).2.symm

theorem attach_of_error {reader : Source.Reader} {d : Diagnostic}
    (h : s.attach reader = (.error d, t)) : t = { s.record d with state := .failed } := by
  rw [attach_eq] at h
  split at h
  · cases h
    rfl
  · cases h

theorem log_grows_perform (s : Session) (operation : Operation) :
    s.log.toList <+: (s.perform operation).2.log.toList := by
  cases operation with
  | attach reader =>
    rw [perform]
    split
    · rename_i hattach
      obtain rfl := attach_of_ok hattach
      exact List.prefix_rfl
    · rename_i d _ hattach
      rw [attach_of_error hattach]
      exact ⟨[d], (Log.toList_push s.log d).symm⟩
  | scan | next => exact log_grows_of_tells s.tells_scan
  | record d => exact ⟨[d], (Log.toList_push s.log d).symm⟩
  | renew => exact List.prefix_rfl

theorem log_grows_performAll (s : Session) (operations : List Operation) :
    s.log.toList <+: (s.performAll operations).2.log.toList := by
  induction operations generalizing s with
  | nil => exact List.prefix_rfl
  | cons operation operations ih =>
    exact List.IsPrefix.trans (s.log_grows_perform operation) (ih (s.perform operation).2)

/-! ## The open reader -/

def Event.openReader? (before? : Option Source.Reader) : Event → Option Source.Reader
  | attached reader => some reader
  | refused _ | renewed | scanned .exhausted | scanned (.fatal _) | asked false => none
  | scanned .token | scanned (.recovered _) | asked true | recorded _ => before?

/-- The reader that is open behind the events of a session. -/
def openReader? (events : List Event) : Option Source.Reader :=
  events.foldl Event.openReader? none

/-- The session stands in what the reader delivers.  Without a reader there is no
source. -/
def Reads (s : Session) : Option Source.Reader → Prop
  | none => ∀ cursor, s.state ≠ .ready cursor
  | some reader =>
    ∃ cursor passed, s.state = .ready cursor ∧
      reader.stream.deliver.text = passed ++ cursor.rest ∧
      cursor.before = Position.start.afterText passed ∧
      cursor.failure? = reader.stream.deliver.failure?

theorem openReader?_asked (before? : Option Source.Reader) (outcome : Outcome) :
    (Event.asked outcome.hasToken).openReader? before? =
      (Event.scanned outcome).openReader? before? := by
  cases outcome <;> rfl

theorem openReader?_outcome (before? : Option Source.Reader) (x : Placed) :
    (Event.scanned x.outcome).openReader? before? = before? := by
  rw [Placed.outcome]
  cases x.complaint? <;> rfl

theorem reads_afterPlaced {reader? : Option Source.Reader} {cursor behind : Cursor} {x : Placed}
    (h : s.Reads reader?) (hstate : s.state = .ready cursor)
    (hscan : cursor.scan s.lexicon = .found x.lexeme x.start behind) :
    (s.afterPlaced x behind).Reads reader? := by
  cases reader? with
  | none => exact absurd hstate (h cursor)
  | some reader =>
    obtain ⟨lexeme, start⟩ := x
    obtain ⟨cursor', passed, hstate', htext, hbefore, hfailure⟩ := h
    obtain rfl : cursor' = cursor := State.ready.inj (hstate'.symm.trans hstate)
    have hscanned := Cursor.scanned s.lexicon cursor'
    rw [hscan] at hscanned
    cases hscanned with
    | @lexeme p gap rest c failure? hgap hstart =>
      refine ⟨_, passed ++ (gap ++ (c :: rest).take (Lexeme.read s.lexicon c rest).width), rfl,
        ?_, ?_, hfailure⟩
      · rw [htext, List.append_assoc, List.append_assoc, List.take_append_drop]
      · obtain rfl : p = Position.start.afterText passed := hbefore
        exact (Position.afterText_append _ passed _).symm

theorem reads_scan {reader? : Option Source.Reader} (h : s.Reads reader?) :
    s.scan.2.Reads ((Event.scanned s.scan.1).openReader? reader?) := by
  rcases s.scan_cases with ⟨cursor, x, behind, hstate, hscan, hs⟩ |
    ⟨-, failure, start?, -, -, hs⟩ | ⟨-, -, -, hs⟩ | ⟨hready, hs⟩
  · rw [hs, openReader?_outcome]
    exact reads_afterPlaced h hstate hscan
  · rw [hs]
    rintro cursor ⟨⟩
  · rw [hs]
    rintro cursor ⟨⟩
  · rw [hs]
    exact hready

theorem reads_perform {reader? : Option Source.Reader} (h : s.Reads reader?)
    (operation : Operation) :
    (s.perform operation).2.Reads ((s.perform operation).1.openReader? reader?) := by
  cases operation with
  | attach reader =>
    rw [perform]
    split
    · rename_i hattach
      rw [attach_of_ok hattach]
      exact ⟨_, [], rfl, rfl, rfl, rfl⟩
    · rename_i hattach
      rw [attach_of_error hattach]
      rintro cursor ⟨⟩
  | scan => exact reads_scan h
  | next =>
    show s.scan.2.Reads ((Event.asked s.scan.1.hasToken).openReader? reader?)
    rw [openReader?_asked]
    exact reads_scan h
  | record d => cases reader? <;> exact h
  | renew => rintro cursor ⟨⟩

theorem reads_performAll {reader? : Option Source.Reader} (h : s.Reads reader?)
    (operations : List Operation) :
    (s.performAll operations).2.Reads
      ((s.performAll operations).1.foldl Event.openReader? reader?) := by
  induction operations generalizing s reader? with
  | nil => exact h
  | cons operation operations ih => exact ih (reads_perform h operation)

/-! ## What always holds -/

/-- What holds of a session behind the events of its operations. -/
structure Lawful (events : List Event) (s : Session) : Prop where
  log_grows : ∀ operations, s.log.toList <+: (s.performAll operations).2.log.toList
  scan : Tells s s.scan.2 s.scan.1
  next : s.next = (s.scan.1.hasToken, s.scan.2)
  attached : ∀ reader t, s.attach reader = (.ok (), t) → t.token = s.token ∧ t.log = s.log
  refused : ∀ reader d t, s.attach reader = (.error d, t) →
    t.token = s.token ∧ t.log.toList = s.log.toList ++ [d]
  reads : s.Reads (openReader? events)
  closed : openReader? events = none → s.scan = (.exhausted, s)
  /-- A scan of an open reader finds nothing only where there is nothing. -/
  opened : ∀ reader, openReader? events = some reader → s.scan.1 = .exhausted →
    ∃ gap, Gap true gap ∧ gap <:+ reader.stream.deliver.text ∧
      reader.stream.deliver.failure? = none

theorem gap_of_exhausted {reader : Source.Reader} (h : s.Reads (some reader))
    (hexhausted : s.scan.1 = .exhausted) :
    ∃ gap, Gap true gap ∧ gap <:+ reader.stream.deliver.text ∧
      reader.stream.deliver.failure? = none := by
  obtain ⟨cursor, passed, hstate, htext, -, hfailure⟩ := h
  rcases s.scan_cases with ⟨-, x, behind, -, -, hs⟩ | ⟨-, failure, start?, -, -, hs⟩ |
    ⟨cursor', hstate', hscan, -⟩ | ⟨hready, -⟩
  · have htoken := x.hasToken_outcome
    rw [hs] at hexhausted
    rw [show x.outcome = .exhausted from hexhausted] at htoken
    cases htoken
  · rw [hs] at hexhausted
    cases hexhausted
  · obtain rfl : cursor' = cursor := State.ready.inj (hstate'.symm.trans hstate)
    obtain ⟨hgap, hnone⟩ := Cursor.gap_of_exhausted hscan
    exact ⟨cursor'.rest, hgap, ⟨passed, htext.symm⟩, hfailure.symm.trans hnone⟩
  · exact absurd hstate (hready cursor)

/-- However operations follow one another: the log only grows, and a scan or a
reader that is opened does to it and to the token what the answer says.  A scan
reads on in the reader that was opened last; when that was refused, when a scan
has ended with it or the session was renewed since, and before there is any, a
scan finds nothing and changes nothing. -/
theorem lawful_performAll (lexicon : Lexicon) (capacity : Nat) (operations : List Operation) :
    let run := (new lexicon capacity).performAll operations
    Lawful run.1 run.2 := by
  intro run
  have hnew : (new lexicon capacity).Reads none := by rintro cursor ⟨⟩
  have hreads : run.2.Reads (openReader? run.1) := reads_performAll hnew operations
  exact
    { log_grows := log_grows_performAll run.2
      scan := run.2.tells_scan
      next := rfl
      attached := fun reader t h => by rw [attach_of_ok h]; exact ⟨rfl, rfl⟩
      refused := fun reader d t h => by
        rw [attach_of_error h]
        exact ⟨rfl, Log.toList_push _ _⟩
      reads := hreads
      closed := fun hclosed => by
        rw [hclosed] at hreads
        exact scan_of_not_ready hreads
      opened := fun reader hopen hscan => by
        rw [hopen] at hreads
        exact gap_of_exhausted hreads hscan }

end Session
end LexicalFrontEnd
