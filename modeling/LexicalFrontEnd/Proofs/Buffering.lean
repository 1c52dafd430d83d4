import LexicalFrontEnd.Proofs.Run
import LexicalFrontEnd.Proofs.Source.Delivery

/-!
Buffering is invisible.

The capacity of a session matters only while a reader is opened, and there only
to the calls that are made, not to what they bring.  Two sessions that differ in
nothing but their capacities, on two readers with the same signals, therefore go
through the same scans (`same_run_of_same_signals`).
-/

namespace LexicalFrontEnd
namespace Session

def withCapacity (s : Session) (capacity : Nat) : Session := { s with capacity }

theorem scan_withCapacity (s : Session) (capacity : Nat) :
    (s.withCapacity capacity).scan = (s.scan.1, s.scan.2.withCapacity capacity) := by
  obtain ⟨usual, lexicon, token, log, state⟩ := s
  cases state with
  | ready cursor =>
    simp only [scan, withCapacity]
    cases cursor.scan lexicon with
    | exhausted => rfl
    | failed failure start? => rfl
    | found lexeme start next =>
      simp only [accept]
      cases lexeme.verdict <;> rfl
  | unopened => rfl
  | exhausted => rfl
  | failed => rfl

theorem scanOnto_withCapacity (done : List (Outcome × Token)) (s : Session) (capacity : Nat) :
    (s.withCapacity capacity).scanOnto done =
      { s.scanOnto done with session := (s.scanOnto done).session.withCapacity capacity } := by
  induction done, s using scanOnto.induct with
  | case1 done s outcome next h ht _ ih =>
    have hscan : (s.withCapacity capacity).scan = (outcome, next.withCapacity capacity) := by
      rw [scan_withCapacity, h]
    rw [scanOnto_of_token done hscan ht, scanOnto_of_token done h ht]
    exact ih
  | case2 done s outcome next h ht =>
    have hscan : (s.withCapacity capacity).scan = (outcome, next.withCapacity capacity) := by
      rw [scan_withCapacity, h]
    rw [scanOnto_of_last done hscan ht, scanOnto_of_last done h ht]

theorem attach_withCapacity (s : Session) {first second : Source.Reader}
    (h : first.signals = second.signals) (m n : Nat) :
    (s.withCapacity m).attach first =
      (((s.withCapacity n).attach second).1,
        ((s.withCapacity n).attach second).2.withCapacity m) := by
  have hstream : first.stream = second.stream := by rw [Source.Reader.stream, h]; rfl
  rw [attach_eq, attach_eq, hstream]
  split <;> rfl

theorem read_withCapacity (s : Session) {first second : Source.Reader}
    (h : first.signals = second.signals) (m n : Nat) :
    (s.withCapacity m).read first =
      { (s.withCapacity n).read second with
        session := ((s.withCapacity n).read second).session.withCapacity m } := by
  rw [read, read, attach_withCapacity s h m n]
  generalize (s.withCapacity n).attach second = opened
  obtain ⟨result, t⟩ := opened
  cases result with
  | ok => exact scanOnto_withCapacity [] t m
  | error d => rfl

/-- Data that is cut in two, and of which a call brings no more than `chunk` bytes, is read
like the whole of it. -/
theorem read_of_cut (s : Session) {chunk : Nat} (hchunk : chunk ≠ 0) (first second : List UInt8)
    (rest : List Source.ReadEvent) (m n : Nat) :
    let cut := (s.withCapacity m).read ⟨.data first :: .data second :: rest, some chunk⟩
    let whole := (s.withCapacity n).read ⟨.data (first ++ second) :: rest, none⟩
    cut.scans = whole.scans ∧ cut.last = whole.last ∧ cut.session.log = whole.session.log := by
  intro cut whole
  have hsignals : (Source.Reader.mk (.data first :: .data second :: rest) (some chunk)).signals =
      (Source.Reader.mk (.data (first ++ second) :: rest) none).signals := by
    rw [Source.Reader.signals, Source.ReadEvent.signals_cut (mt Option.some.inj hchunk),
      Source.ReadEvent.signals_chunk hchunk]
    rfl
  have hcut : cut = { whole with session := whole.session.withCapacity m } :=
    read_withCapacity s hsignals m n
  rw [hcut]
  exact ⟨rfl, rfl, rfl⟩

/-- However the data of a reader is cut into calls, and whatever the capacity of
the buffer it is read through, opening it comes to the same, and so does every
scan to its end: outcomes, tokens and log. -/
theorem same_run_of_same_signals (s : Session) {first second : Source.Reader}
    (h : first.signals = second.signals) (m n : Nat) :
    let one := (s.withCapacity m).attach first
    let other := (s.withCapacity n).attach second
    one.1 = other.1 ∧
      one.2.scanAll.scans = other.2.scanAll.scans ∧
      one.2.scanAll.last = other.2.scanAll.last ∧
      one.2.scanAll.session.token = other.2.scanAll.session.token ∧
      one.2.scanAll.session.log = other.2.scanAll.session.log := by
  intro one other
  have hone : one = (other.1, other.2.withCapacity m) := attach_withCapacity s h m n
  have hrun : one.2.scanAll =
      { other.2.scanAll with session := other.2.scanAll.session.withCapacity m } := by
    rw [hone]
    exact scanOnto_withCapacity [] other.2 m
  rw [hrun, hone]
  exact ⟨rfl, rfl, rfl, rfl, rfl⟩

/-- An unfinished string and a letter of two bytes, once in calls of one byte with
an interruption between the bytes of the letter, once in one piece; the reader
fails after them. -/
theorem same_run_of_same_signals_cut_letter :
    let first : Source.Reader :=
      ⟨[.data [0x22, 0xC3], .interrupt, .data [0xA9, 0x0A], .failure "gone", .stop], some 1⟩
    let second : Source.Reader := ⟨[.data [0x22, 0xC3, 0xA9, 0x0A], .failure "gone"], none⟩
    first.signals = second.signals ∧
      ((standard 0).attach first).2.scanAll.scans =
        ((standard 1024).attach second).2.scanAll.scans :=
  ⟨by decide, (same_run_of_same_signals (standard 0) (by decide) 0 1024).2.1⟩

end Session
end LexicalFrontEnd
