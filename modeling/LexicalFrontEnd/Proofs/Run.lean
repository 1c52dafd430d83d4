import LexicalFrontEnd.Session

/-!
Runs of a session, one scan at a time.

A scan that finds a lexeme makes a token of it and logs what is wrong with it
(`scan_of_found`); one that finds none is the last (`scan_of_exhausted`,
`scan_of_failed`).  There is nothing else that a scan can do (`scan_cases`).  A
run is a scan with a token and then another run, or a scan without one.
-/

namespace LexicalFrontEnd

structure Placed where
  lexeme : Lexeme
  start : Position
  deriving DecidableEq, Repr

namespace Placed

def token (x : Placed) : Token :=
  match x.lexeme.verdict with
  | .token kind code? => ⟨String.ofList x.lexeme.text, kind, code?, x.start⟩
  | .malformed _ => ⟨String.ofList x.lexeme.text, .invalid, none, x.start⟩

def complaint? (x : Placed) : Option Diagnostic :=
  match x.lexeme.verdict with
  | .token _ _ => none
  | .malformed problem => some (.create problem x.token none)

def outcome (x : Placed) : Outcome :=
  match x.complaint? with
  | none => .token
  | some d => .recovered d

theorem hasToken_outcome (x : Placed) : x.outcome.hasToken = true := by
  rw [outcome]
  cases x.complaint? <;> rfl

theorem position_token (x : Placed) : x.token.position = x.start := by
  rw [token]
  cases x.lexeme.verdict <;> rfl

theorem lexeme_eq_ofList (x : Placed) : x.token.lexeme = String.ofList x.lexeme.text := by
  rw [token]
  cases x.lexeme.verdict <;> rfl

end Placed

def ReadFailure.report (failure : ReadFailure) : Diagnostic :=
  (Diagnostic.create .unreadableSource (.startingAt failure.position) none).withNote
    failure.error.message

namespace Session

variable {s next : Session} {outcome : Outcome} {cursor : Cursor}

theorem accept_placed (s : Session) (x : Placed) :
    s.accept x.lexeme x.start =
      (x.outcome, { s with token := x.token, log := x.complaint?.elim s.log s.log.push }) := by
  rw [accept, Placed.outcome, Placed.complaint?, Placed.token]
  cases x.lexeme.verdict <;> rfl

def afterPlaced (s : Session) (x : Placed) (next : Cursor) : Session :=
  { s with
    token := x.token
    log := x.complaint?.elim s.log s.log.push
    state := .ready next }

theorem toList_log_afterPlaced (s : Session) (x : Placed) (next : Cursor) :
    (s.afterPlaced x next).log.toList = s.log.toList ++ x.complaint?.toList := by
  show (x.complaint?.elim s.log s.log.push).toList = _
  cases x.complaint? with
  | none => exact (List.append_nil _).symm
  | some d => exact Log.toList_push s.log d

theorem scan_of_found {x : Placed} {behind : Cursor} (hstate : s.state = .ready cursor)
    (h : cursor.scan s.lexicon = .found x.lexeme x.start behind) :
    s.scan = (x.outcome, s.afterPlaced x behind) := by
  rw [scan, hstate]
  simp only
  rw [h]
  exact accept_placed { s with state := .ready behind } x

theorem scan_of_exhausted (hstate : s.state = .ready cursor)
    (h : cursor.scan s.lexicon = .exhausted) :
    s.scan = (.exhausted, { s with state := .exhausted }) := by
  rw [scan, hstate]
  simp only
  rw [h]

def afterFailure (s : Session) (failure : ReadFailure) (start? : Option Position) : Session :=
  { s with
    token := (start?.map Token.startingAt).getD s.token
    log := s.log.push failure.report
    state := .failed }

theorem scan_of_failed {failure : ReadFailure} {start? : Option Position}
    (hstate : s.state = .ready cursor) (h : cursor.scan s.lexicon = .failed failure start?) :
    s.scan = (.fatal failure.report, s.afterFailure failure start?) := by
  rw [scan, hstate]
  simp only
  rw [h]
  rfl

theorem scan_of_not_ready (h : ∀ cursor, s.state ≠ .ready cursor) : s.scan = (.exhausted, s) := by
  rw [scan]
  cases hstate : s.state with
  | ready cursor => exact absurd hstate (h cursor)
  | unopened => rfl
  | exhausted => rfl
  | failed => rfl

/-- Everything that a scan can do. -/
theorem scan_cases (s : Session) :
    (∃ cursor x behind, s.state = .ready cursor ∧
      cursor.scan s.lexicon = .found x.lexeme x.start behind ∧
      s.scan = (x.outcome, s.afterPlaced x behind)) ∨
    (∃ cursor failure start?, s.state = .ready cursor ∧
      cursor.scan s.lexicon = .failed failure start? ∧
      s.scan = (.fatal failure.report, s.afterFailure failure start?)) ∨
    (∃ cursor, s.state = .ready cursor ∧ cursor.scan s.lexicon = .exhausted ∧
      s.scan = (.exhausted, { s with state := .exhausted })) ∨
    (∀ cursor, s.state ≠ .ready cursor) ∧ s.scan = (.exhausted, s) := by
  by_cases hready : ∃ cursor, s.state = .ready cursor
  · obtain ⟨cursor, hstate⟩ := hready
    cases hscan : cursor.scan s.lexicon with
    | found lexeme start behind =>
      exact Or.inl ⟨cursor, ⟨lexeme, start⟩, behind, hstate, hscan, scan_of_found hstate hscan⟩
    | failed failure start? =>
      exact Or.inr (Or.inl ⟨cursor, failure, start?, hstate, hscan, scan_of_failed hstate hscan⟩)
    | exhausted =>
      exact Or.inr (Or.inr (Or.inl ⟨cursor, hstate, hscan, scan_of_exhausted hstate hscan⟩))
  · rw [not_exists] at hready
    exact Or.inr (Or.inr (Or.inr ⟨hready, scan_of_not_ready hready⟩))

theorem scanOnto_of_token (done : List (Outcome × Token)) (h : s.scan = (outcome, next))
    (ht : outcome.hasToken = true) :
    s.scanOnto done = next.scanOnto ((outcome, next.token) :: done) := by
  rw [scanOnto]
  split
  rename_i outcome' next' h'
  obtain ⟨rfl, rfl⟩ := Prod.mk.inj (h.symm.trans h')
  rw [dif_pos ht]

theorem scanOnto_of_found (done : List (Outcome × Token)) {x : Placed} {behind : Cursor}
    (hstate : s.state = .ready cursor)
    (h : cursor.scan s.lexicon = .found x.lexeme x.start behind) :
    s.scanOnto done = (s.afterPlaced x behind).scanOnto ((x.outcome, x.token) :: done) :=
  scanOnto_of_token done (scan_of_found hstate h) x.hasToken_outcome

theorem scanOnto_of_last (done : List (Outcome × Token)) (h : s.scan = (outcome, next))
    (ht : ¬outcome.hasToken = true) : s.scanOnto done = ⟨done.reverse, outcome, next⟩ := by
  rw [scanOnto]
  split
  rename_i outcome' next' h'
  obtain ⟨rfl, rfl⟩ := Prod.mk.inj (h.symm.trans h')
  rw [dif_neg ht]

/-- The scans done before a run are only put in front of it. -/
theorem scanOnto_eq (done : List (Outcome × Token)) (s : Session) :
    s.scanOnto done = { s.scanAll with scans := done.reverse ++ s.scanAll.scans } := by
  rw [scanAll]
  -- The accumulator of the run on the right grows as well, so both start anywhere.
  suffices hmore : ∀ more, s.scanOnto (more ++ done) =
      { s.scanOnto more with scans := done.reverse ++ (s.scanOnto more).scans } from hmore []
  intro more
  induction more, s using scanOnto.induct with
  | case1 more s outcome next h ht _ ih =>
    rw [scanOnto_of_token (more ++ done) h ht, scanOnto_of_token more h ht]
    exact ih
  | case2 more s outcome next h ht =>
    rw [scanOnto_of_last (more ++ done) h ht, scanOnto_of_last more h ht, List.reverse_append]

theorem scanAll_of_token (h : s.scan = (outcome, next)) (ht : outcome.hasToken = true) :
    s.scanAll = { next.scanAll with scans := (outcome, next.token) :: next.scanAll.scans } := by
  rw [scanAll, scanOnto_of_token [] h ht, scanOnto_eq]
  rfl

theorem scanAll_of_last (h : s.scan = (outcome, next)) (ht : ¬outcome.hasToken = true) :
    s.scanAll = ⟨[], outcome, next⟩ :=
  scanOnto_of_last [] h ht

end Session
end LexicalFrontEnd
