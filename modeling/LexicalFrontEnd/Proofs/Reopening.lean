import LexicalFrontEnd.Proofs.Protocol

/-!
A session that was used before reads like a new one.

What became of earlier sources is left in the token, in the log and in the state
of a session.  Opening a reader replaces the state, and no scan looks at the
token or at what the log holds, so the history of a session shows in nothing but
the front of its log (`read_of_used`).
-/

namespace LexicalFrontEnd
namespace Session

/-- Both sessions stand at the same place of the same text and know the same words.
The first one has logged `prior` before; its token may be another. -/
structure Continues (prior : List Diagnostic) (s t : Session) : Prop where
  lexicon : s.lexicon = t.lexicon
  state : s.state = t.state
  log : s.log.toList = prior ++ t.log.toList

variable {prior : List Diagnostic} {s t : Session}

theorem Continues.afterPlaced (h : Continues prior s t) (x : Placed) (behind : Cursor) :
    Continues prior (s.afterPlaced x behind) (t.afterPlaced x behind) := by
  refine ⟨h.lexicon, rfl, ?_⟩
  rw [toList_log_afterPlaced, toList_log_afterPlaced, h.log, List.append_assoc]

theorem Continues.afterFailure (h : Continues prior s t) (failure : ReadFailure)
    (start? : Option Position) :
    Continues prior (s.afterFailure failure start?) (t.afterFailure failure start?) := by
  refine ⟨h.lexicon, rfl, ?_⟩
  show (s.log.push failure.report).toList = prior ++ (t.log.push failure.report).toList
  rw [Log.toList_push, Log.toList_push, h.log, List.append_assoc]

/-- Scans of both find the same.  Where they find a token, it is the token of both
sessions from then on. -/
theorem Continues.scan (h : Continues prior s t) :
    s.scan.1 = t.scan.1 ∧ Continues prior s.scan.2 t.scan.2 ∧
      (t.scan.1.hasToken = true → s.scan.2.token = t.scan.2.token) := by
  rcases t.scan_cases with ⟨cursor, x, behind, hstate, hscan, ht⟩ |
    ⟨cursor, failure, start?, hstate, hscan, ht⟩ | ⟨cursor, hstate, hscan, ht⟩ | ⟨hready, ht⟩
  · rw [← h.lexicon] at hscan
    rw [ht, scan_of_found (h.state.trans hstate) hscan]
    exact ⟨rfl, h.afterPlaced x behind, fun _ => rfl⟩
  · rw [← h.lexicon] at hscan
    rw [ht, scan_of_failed (h.state.trans hstate) hscan]
    exact ⟨rfl, h.afterFailure failure start?, fun hnone => absurd hnone Bool.false_ne_true⟩
  · rw [← h.lexicon] at hscan
    rw [ht, scan_of_exhausted (h.state.trans hstate) hscan]
    exact ⟨rfl, ⟨h.lexicon, rfl, h.log⟩, fun hnone => absurd hnone Bool.false_ne_true⟩
  · rw [ht, scan_of_not_ready fun cursor hs => hready cursor (h.state.symm.trans hs)]
    exact ⟨rfl, h, fun hnone => absurd hnone Bool.false_ne_true⟩

theorem Continues.scanOnto (h : Continues prior s t) (done : List (Outcome × Token)) :
    (s.scanOnto done).scans = (t.scanOnto done).scans ∧
      (s.scanOnto done).last = (t.scanOnto done).last ∧
      Continues prior (s.scanOnto done).session (t.scanOnto done).session := by
  induction done, t using scanOnto.induct generalizing s with
  | case1 done t outcome next hscan ht _ ih =>
    obtain ⟨houtcome, hnext, htoken⟩ := h.scan
    rw [hscan] at houtcome hnext htoken
    have hs : s.scan = (outcome, s.scan.2) := Prod.ext houtcome rfl
    rw [scanOnto_of_token done hs ht, scanOnto_of_token done hscan ht, htoken ht]
    exact ih hnext
  | case2 done t outcome next hscan ht =>
    obtain ⟨houtcome, hnext, -⟩ := h.scan
    rw [hscan] at houtcome hnext
    have hs : s.scan = (outcome, s.scan.2) := Prod.ext houtcome rfl
    rw [scanOnto_of_last done hs ht, scanOnto_of_last done hscan ht]
    exact ⟨rfl, rfl, hnext⟩

/-- Opening a reader makes sessions alike that know the same words. -/
theorem continues_attach (hlexicon : s.lexicon = t.lexicon)
    (hlog : s.log.toList = prior ++ t.log.toList) (reader : Source.Reader) :
    (s.attach reader).1 = (t.attach reader).1 ∧
      Continues prior (s.attach reader).2 (t.attach reader).2 := by
  rw [attach_eq, attach_eq]
  split
  · rename_i e _
    refine ⟨rfl, hlexicon, rfl, ?_⟩
    show (s.log.push (s.fail e .start).1).toList = prior ++ (t.log.push (t.fail e .start).1).toList
    rw [Log.toList_push, Log.toList_push, hlog, List.append_assoc]
    rfl
  · exact ⟨rfl, hlexicon, rfl, hlog⟩

theorem Continues.read (hlexicon : s.lexicon = t.lexicon)
    (hlog : s.log.toList = prior ++ t.log.toList) (reader : Source.Reader) :
    (s.read reader).scans = (t.read reader).scans ∧
      (s.read reader).last = (t.read reader).last ∧
      Continues prior (s.read reader).session (t.read reader).session := by
  obtain ⟨hsame, hnext⟩ := continues_attach hlexicon hlog reader
  rw [Session.read, Session.read]
  generalize s.attach reader = opened at hsame hnext
  generalize t.attach reader = opened' at hsame hnext
  obtain ⟨result, s'⟩ := opened
  obtain ⟨result', t'⟩ := opened'
  obtain rfl : result = result' := hsame
  cases result with
  | ok => exact hnext.scanOnto []
  | error d => exact ⟨rfl, rfl, hnext⟩

/-! ## Any history -/

theorem lexicon_scan (s : Session) : s.scan.2.lexicon = s.lexicon := by
  rcases s.scan_cases with ⟨_, x, behind, -, -, hs⟩ | ⟨_, failure, start?, -, -, hs⟩ |
    ⟨_, -, -, hs⟩ | ⟨-, hs⟩
  · rw [hs]
    rfl
  · rw [hs]
    rfl
  · rw [hs]
  · rw [hs]

theorem lexicon_perform (s : Session) (operation : Operation) :
    (s.perform operation).2.lexicon = s.lexicon := by
  cases operation with
  | attach reader =>
    rw [perform]
    split
    · rename_i hattach
      rw [attach_of_ok hattach]
    · rename_i hattach
      rw [attach_of_error hattach]
      rfl
  | scan | next => exact s.lexicon_scan
  | record d => rfl
  | renew => rfl

theorem lexicon_performAll (s : Session) (operations : List Operation) :
    (s.performAll operations).2.lexicon = s.lexicon := by
  induction operations generalizing s with
  | nil => rfl
  | cons operation operations ih =>
    exact (ih (s.perform operation).2).trans (s.lexicon_perform operation)

/-- Whatever was done with a session before: a reader that it opens and scans to
the end brings the same answer, outcomes and tokens as in a new session with the
same words, of its capacity or any other, the log gets the entries that the new
session logs, and the session is in the state that the new session is in. -/
theorem read_of_used (lexicon : Lexicon) (capacity capacity' : Nat) (operations : List Operation)
    (reader : Source.Reader) :
    let used := ((new lexicon capacity).performAll operations).2
    let fresh := new lexicon capacity'
    (used.attach reader).1 = (fresh.attach reader).1 ∧
      (used.read reader).scans = (fresh.read reader).scans ∧
      (used.read reader).last = (fresh.read reader).last ∧
      (used.read reader).session.log.toList =
        used.log.toList ++ (fresh.read reader).session.log.toList ∧
      (used.read reader).session.state = (fresh.read reader).session.state := by
  intro used fresh
  have hlexicon : used.lexicon = fresh.lexicon := lexicon_performAll _ operations
  have hlog : used.log.toList = used.log.toList ++ fresh.log.toList := by
    show _ = used.log.toList ++ Log.empty.toList
    rw [Log.toList_empty, List.append_nil]
  obtain ⟨hscans, hlast, hend⟩ := Continues.read hlexicon hlog reader
  exact ⟨(continues_attach hlexicon hlog reader).1, hscans, hlast, hend.log, hend.state⟩

end Session
end LexicalFrontEnd
