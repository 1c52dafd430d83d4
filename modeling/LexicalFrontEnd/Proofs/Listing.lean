import LexicalFrontEnd.Listing
import LexicalFrontEnd.Proofs.Failure
import LexicalFrontEnd.Proofs.Output.Terminal
import LexicalFrontEnd.Proofs.Protocol

/-!
Listing a source while it is read.

A listing need not be complete before it is written: the line of a token can go
out as soon as the token is found, and whoever wants only the tokens can ask for
one after another.  Both loops come to what reading everything first comes to
(`gather_eq`, `write_eq`), so a listing shows the tokens of its text, and the
diagnostics behind them are those of the log (`write_agrees`).
-/

namespace LexicalFrontEnd

namespace Output

structure Emitter (ε : Type) where
  emit : ε → Diagnostic → ε
  emitSummary : ε → Nat → Nat → ε
  flush : ε → ε

namespace Emitter

variable {ε : Type}

def emitAll (emitter : Emitter ε) (e : ε) (ds : List Diagnostic) : ε := ds.foldl emitter.emit e

/-- Hand over diagnostics and the summary of a run, and nothing more. -/
def conclude (emitter : Emitter ε) (e : ε) (ds : List Diagnostic) (errors warnings : Nat) : ε :=
  emitter.flush (emitter.emitSummary (emitter.emitAll e ds) errors warnings)

end Emitter

/-- A terminal keeps nothing back, so there is nothing to flush. -/
def Terminal.emitter : Emitter Terminal := ⟨Terminal.emit, Terminal.emitSummary, id⟩

end Output

open Output

/-! ## Asking for tokens -/

namespace Session

variable {s t : Session}

theorem scan_of_next {found : Bool} (h : s.next = (found, t)) :
    s.scan = (s.scan.1, t) ∧ s.scan.1.hasToken = found :=
  ⟨Prod.ext rfl (Prod.mk.inj h).2, (Prod.mk.inj h).1⟩

theorem remaining_next_lt (h : s.next = (true, t)) : t.remaining < s.remaining :=
  remaining_scan_lt (scan_of_next h).1 (scan_of_next h).2

def gatherOnto (done : List Token) (s : Session) : List Token × Log :=
  match h : s.next with
  | (true, next) =>
    have := remaining_next_lt h
    gatherOnto (next.token :: done) next
  | (false, next) => (done.reverse, next.log)
termination_by s.remaining

def gather (s : Session) (reader : Source.Reader) : List Token × Log :=
  match s.attach reader with
  | (.ok (), s) => s.gatherOnto []
  | (.error _, s) => ([], s.log)

theorem gatherOnto_eq (done : List Token) (s : Session) :
    s.gatherOnto done = (done.reverse ++ s.scanAll.scans.map Prod.snd, s.scanAll.session.log) := by
  fun_induction gatherOnto done s with
  | case1 done s next h _ ih =>
    obtain ⟨hscan, ht⟩ := scan_of_next h
    rw [ih, scanAll_of_token hscan ht, List.reverse_cons, List.append_assoc]
    rfl
  | case2 done s next h =>
    obtain ⟨hscan, ht⟩ := scan_of_next h
    rw [scanAll_of_last hscan (ht ▸ Bool.false_ne_true), List.map_nil, List.append_nil]

theorem gather_eq (s : Session) (reader : Source.Reader) :
    s.gather reader = ((s.read reader).scans.map Prod.snd, (s.read reader).session.log) := by
  rw [gather, read]
  generalize s.attach reader = opened
  obtain ⟨_ | ⟨⟨⟩⟩, s⟩ := opened
  · rfl
  · exact gatherOnto_eq [] s

end Session

/-! ## Writing lines -/

namespace Listing

structure Progress where
  tokens : Nat
  aborted : Bool
  session : Session

/-- Write the line of one token after another, behind `count` lines.  There is
nothing more to say where a line does not fit. -/
def writeOnto (out : Sink) (count : Nat) (s : Session) : Option Progress × Sink :=
  match h : s.scan with
  | (.token, next) | (.recovered _, next) =>
    have := Session.remaining_scan_lt h rfl
    match out.write (line next.token) with
    | (true, out) => writeOnto out (count + 1) next
    | (false, out) => (none, out)
  | (.fatal _, next) => (some ⟨count, true, next⟩, out)
  | (.exhausted, next) => (some ⟨count, false, next⟩, out)
termination_by s.remaining

/-- Write the listing of a reader, a line as soon as its token is found, and hand
what was logged to the emitter.  It is handed nothing if a line does not fit. -/
def write {ε : Type} (emitter : Emitter ε) (reader : Source.Reader) (capacity : Nat) (out : Sink)
    (e : ε) : Option Report × Sink × ε :=
  let listed := match (Session.standard capacity).attach reader with
    | (.ok (), s) => writeOnto out 0 s
    | (.error _, s) => (some ⟨0, true, s⟩, out)
  match listed with
  | (none, out) => (none, out, e)
  | (some p, out) =>
    let log := p.session.log
    (some ⟨p.tokens, log.errorCount, log.warningCount, p.aborted⟩, out,
      emitter.conclude e log.toList log.errorCount log.warningCount)

section

variable {s next : Session} {outcome : Outcome}

theorem writeOnto_of_token (out : Sink) (count : Nat) (h : s.scan = (outcome, next))
    (ht : outcome.hasToken = true) :
    writeOnto out count s =
      match out.write (line next.token) with
      | (true, out) => writeOnto out (count + 1) next
      | (false, out) => (none, out) := by
  rw [writeOnto]
  cases outcome with
  | token | recovered d =>
    split <;> simp_all
  | fatal d => cases ht
  | exhausted => cases ht

theorem writeOnto_of_last (out : Sink) (count : Nat) (h : s.scan = (outcome, next))
    (ht : ¬outcome.hasToken = true) :
    writeOnto out count s = (some ⟨count, outcome.isFatal, next⟩, out) := by
  rw [writeOnto]
  cases outcome with
  | token | recovered d => exact absurd rfl ht
  | fatal d | exhausted =>
    split <;> simp_all [Outcome.isFatal]

end

def bytesOfRun (run : Session.Run) : List UInt8 := bytesOf (run.scans.map fun x => line x.2)

theorem writeOnto_eq (out : Sink) (count : Nat) (s : Session) :
    writeOnto out count s =
      (if out.Fits (bytesOfRun s.scanAll) then
        some ⟨count + s.scanAll.scans.length, s.scanAll.last.isFatal, s.scanAll.session⟩
      else none, out.keep (bytesOfRun s.scanAll)) := by
  -- On the bound of the tokens to come, because sink and count change along the way.
  induction hn : s.remaining using Nat.strongRecOn generalizing out count s with
  | ind n ih =>
    cases hscan : s.scan with | mk outcome next =>
    by_cases ht : outcome.hasToken = true
    · have hbytes : bytesOfRun s.scanAll =
          Text.Utf8.encode (line next.token).toList ++ bytesOfRun next.scanAll := by
        rw [Session.scanAll_of_token hscan ht]
        rfl
      have hlt := Session.remaining_scan_lt hscan ht
      rw [writeOnto_of_token out count hscan ht, Sink.write_eq, hbytes, Sink.keep_append]
      by_cases hfit : out.Fits (Text.Utf8.encode (line next.token).toList)
      · rw [decide_eq_true hfit]
        simp only [Sink.fits_append, hfit, true_and]
        rw [ih _ (hn ▸ hlt) _ _ _ rfl, Session.scanAll_of_token hscan ht, List.length_cons,
          Nat.add_right_comm, Nat.add_assoc]
      · rw [decide_eq_false hfit, Sink.keep_keep_of_not_fits hfit]
        simp only [Sink.fits_append, hfit, false_and, if_false]
    · rw [writeOnto_of_last out count hscan ht, Session.scanAll_of_last hscan ht]
      have hbytes : bytesOfRun ⟨[], outcome, next⟩ = [] := rfl
      rw [hbytes, if_pos out.fits_nil, Sink.keep_nil]
      rfl

theorem write_eq {ε : Type} (emitter : Emitter ε) (reader : Source.Reader) (capacity : Nat)
    (out : Sink) (e : ε) :
    let l := ofReader reader capacity
    write emitter reader capacity out e =
      match out.writeAll l.lines with
      | (false, out) => (none, out, e)
      | (true, out) =>
        (some l.report, out,
          emitter.conclude e l.log.toList l.report.errors l.report.warnings) := by
  intro l
  rw [write]
  cases hopened : (Session.standard capacity).attach reader with | mk result s =>
  cases result with
  | error d =>
    have hl : l = ⟨[], s.log, true⟩ := by
      show ofReader reader capacity = _
      rw [ofReader, Session.read, hopened]
      rfl
    rw [hl]
    rfl
  | ok =>
    have hl : l =
        ⟨s.scanAll.scans.map Prod.snd, s.scanAll.session.log, s.scanAll.last.isFatal⟩ := by
      show ofReader reader capacity = _
      rw [ofReader, Session.read, hopened]
    have hlines : bytesOf l.lines = bytesOfRun s.scanAll := by
      rw [hl, lines, List.map_map]
      rfl
    simp only [Sink.writeAll_eq, hlines, writeOnto_eq, Nat.zero_add]
    by_cases hfit : out.Fits (bytesOfRun s.scanAll)
    · rw [if_pos hfit, decide_eq_true hfit, hl]
      simp only [report, List.length_map]
    · rw [if_neg hfit, decide_eq_false hfit]

/-- Written at once or line by line, a listing on a terminal is the same. -/
theorem write_terminal (reader : Source.Reader) (capacity : Nat) (out : Sink)
    (terminal : Terminal) :
    write Terminal.emitter reader capacity out terminal =
      (ofReader reader capacity).print out terminal := by
  rw [write_eq, print]
  rfl

end Listing

/-! ## What is logged -/

theorem Diagnostic.isError_create (problem : Problem) (t : Token) (expected? : Option Operator) :
    (create problem t expected?).isError = true := by
  cases problem <;> rfl

theorem Placed.isError_of_complaint {x : Placed} {d : Diagnostic} (h : x.complaint? = some d) :
    d.isError = true := by
  rw [complaint?] at h
  cases hverdict : x.lexeme.verdict with
  | token kind code? => simp [hverdict] at h
  | malformed problem =>
    simp only [hverdict, Option.some.injEq] at h
    rw [← h]
    exact Diagnostic.isError_create problem _ none

theorem Placed.problem_of_complaint {x : Placed} (hregular : x.lexeme.verdict.Regular)
    {d : Diagnostic} (h : x.complaint? = some d) : d.problem ≠ .unreadableSource := by
  rw [complaint?] at h
  cases hverdict : x.lexeme.verdict with
  | token kind code? => simp [hverdict] at h
  | malformed problem =>
    simp only [hverdict, Option.some.injEq] at h hregular
    rw [← h]
    exact hregular

theorem Reading.regular {lexicon : Lexicon} {p : Position} {text : List Char}
    {found : List Placed} (h : Reading lexicon p text found) :
    ∀ x ∈ found, x.lexeme.verdict.Regular := by
  induction h with
  | gap _ => exact fun x hx => absurd hx List.not_mem_nil
  | lexeme _ _ _ ih => exact List.forall_mem_cons.mpr ⟨Lexeme.regular_read _ _ _, ih⟩

def Source.Reader.BringsText (r : Reader) : Prop :=
  ∃ text : List Char, r.signals = (Text.Utf8.encode text).map .byte

namespace Session

/-- How a run of a session with an empty log can end: with the whole text read and
errors in the log that are about lexemes, or before that, with one more error
about the source. -/
inductive Ended (reader : Source.Reader) (run : Run) : Prop
  | wholly : reader.BringsText → run.last = .exhausted →
    (∀ d ∈ run.session.log.toList, d.isError = true ∧ d.problem ≠ .unreadableSource) →
    Ended reader run
  | early (before : List Diagnostic) {d : Diagnostic} : ¬reader.BringsText → run.last = .fatal d →
    d.problem = .unreadableSource → run.session.log.toList = before ++ [d] →
    d.isError = true → (∀ d ∈ before, d.isError = true) → Ended reader run

theorem ended_of_text (s : Session) (hlog : s.log.toList = []) {reader : Source.Reader}
    {text : List Char} (hsignals : reader.signals = (Text.Utf8.encode text).map .byte) :
    Ended reader (s.read reader) := by
  have hdeliver : reader.stream.deliver = ⟨text, none⟩ := by
    rw [Source.Reader.stream, hsignals, Source.Stream.deliver_encode]
  have hattach : s.attach reader = (.ok (), { s with state := .ready ⟨.start, text, none⟩ }) := by
    rw [attach_eq, hdeliver]
    cases text <;> rfl
  obtain ⟨found, hfound⟩ := exists_reading s.lexicon .start text
  obtain ⟨-, hlast, hentries⟩ :=
    scanOnto_of_reading hfound [] (s := { s with state := .ready ⟨.start, text, none⟩ }) rfl rfl
  have hrun : s.read reader = scanAll { s with state := .ready ⟨.start, text, none⟩ } := by
    rw [read, hattach]
  rw [hrun, scanAll]
  refine .wholly ⟨text, hsignals⟩ hlast fun d hd => ?_
  rw [hentries, hlog] at hd
  obtain ⟨x, hx, hcomplaint⟩ := List.mem_filterMap.mp hd
  exact ⟨x.isError_of_complaint hcomplaint, x.problem_of_complaint (hfound.regular x hx) hcomplaint⟩

theorem ended_of_unreadable (s : Session) (hlog : s.log.toList = []) {reader : Source.Reader}
    {text : List Char} {rest : List Source.Signal}
    (hsignals : reader.signals = (Text.Utf8.encode text).map .byte ++ rest)
    (hrest : Source.Unreadable rest) : Ended reader (s.read reader) := by
  have hbrings : ¬reader.BringsText := by
    rintro ⟨other, hother⟩
    have hdeliver := Source.Stream.deliver_of_unreadable text hrest 0
    rw [← hsignals, hother, Source.Stream.deliver_encode] at hdeliver
    cases hdeliver
  have hattach := s.attach_of_unreadable hsignals hrest rfl
  by_cases htext : text = []
  · rw [if_pos htext] at hattach
    rw [read, hattach]
    refine .early [] hbrings rfl rfl ?_ rfl (fun d hd => absurd hd List.not_mem_nil)
    refine (Log.toList_push _ _).trans ?_
    rw [hlog]
    rfl
  · rw [if_neg htext] at hattach
    obtain ⟨found, hfound⟩ := exists_reading s.lexicon .start text
    obtain ⟨-, hlast, hentries, -⟩ := scanOnto_of_cut hfound 0 _ []
      (s := { s with state := .ready ⟨.start, text, some _⟩ }) rfl rfl
    rw [read, hattach]
    refine .early _ hbrings hlast rfl (hentries.trans (by rw [hlog, List.nil_append])) rfl ?_
    intro d hd
    obtain ⟨x, -, hcomplaint⟩ := List.mem_filterMap.mp hd
    exact x.toPlaced.isError_of_complaint hcomplaint

theorem ended_read (s : Session) (hlog : s.log.toList = []) (reader : Source.Reader) :
    Ended reader (s.read reader) := by
  obtain ⟨text, rest, hsignals, rfl | hrest⟩ := Source.exists_text reader.signals
  · rw [List.append_nil] at hsignals
    exact s.ended_of_text hlog hsignals
  · exact s.ended_of_unreadable hlog hsignals hrest

end Session

/-! ## What is told -/

namespace Log

variable {log : Log}

theorem errorCount_eq_size (h : ∀ d ∈ log.toList, d.isError = true) :
    log.errorCount = log.size := by
  rw [errorCount, size_eq_length_toList]
  exact List.countP_eq_length.mpr h

theorem warningCount_eq_zero (h : ∀ d ∈ log.toList, d.isError = true) : log.warningCount = 0 := by
  refine List.countP_eq_zero.mpr fun d hd => ?_
  have herror := h d hd
  rw [Diagnostic.isError] at herror
  rw [Diagnostic.isWarning]
  cases hseverity : d.severity with
  | warning => rw [hseverity] at herror; cases herror
  | error => decide
  | critical => decide

end Log

namespace Output

theorem Terminal.concluded (t : Terminal) (ds : List Diagnostic) (errors warnings : Nat) :
    Terminal.emitter.conclude t ds errors warnings =
      { t with
        sink := t.sink.keep (bytesOf (ds.flatMap (report t.colors)
          ++ summary t.colors errors warnings)) } := by
  show (t.emitAll ds).emitSummary errors warnings = _
  rw [emitAll_eq, emitSummary, Sink.offerAll_eq, bytesOf_append, Sink.keep_append]

/-- Whatever the diagnostic, its report ends with an empty line. -/
theorem bytesOf_report_ne_nil (colors : Bool) (d : Diagnostic) :
    bytesOf (report colors d) ≠ [] := by
  intro h
  have hnewline : "\n" ∈ report colors d := List.mem_append_right _ (List.mem_singleton_self _)
  have := List.flatMap_eq_nil_iff.mp h _ hnewline
  revert this
  decide

end Output

namespace Listing

/-- Nothing is told just if nothing was logged. -/
theorem bytesOf_remarks_eq_nil (l : Listing) (colors : Bool) :
    bytesOf (l.remarks colors) = [] ↔ l.log.toList = [] := by
  rw [remarks, bytesOf_append, List.append_eq_nil_iff]
  constructor
  · rintro ⟨hreports, -⟩
    cases hlog : l.log.toList with
    | nil => rfl
    | cons d ds =>
      rw [hlog, List.flatMap_cons, bytesOf_append] at hreports
      exact absurd (List.append_eq_nil_iff.mp hreports).1 (bytesOf_report_ne_nil colors d)
  · intro hlog
    have herrors : l.report.errors = 0 := by
      show l.log.toList.countP _ = 0
      rw [hlog]
      rfl
    have hwarnings : l.report.warnings = 0 := by
      show l.log.toList.countP _ = 0
      rw [hlog]
      rfl
    rw [hlog, herrors, hwarnings]
    exact ⟨rfl, rfl⟩

section

variable {reader : Source.Reader} {capacity : Nat} {l : Listing}

/-- A listing whose sink is not limited is written out. -/
theorem write_unlimited {ε : Type} (hl : ofReader reader capacity = l) (emitter : Emitter ε)
    {out : Sink} (hout : out.limit? = none) (e : ε) :
    write emitter reader capacity out e =
      (some l.report, { out with written := out.written ++ (bytesOf l.lines).toArray },
        emitter.conclude e l.log.toList l.report.errors l.report.warnings) := by
  have hkeep : out.keep (bytesOf l.lines) =
      { out with written := out.written ++ (bytesOf l.lines).toArray } := by
    rw [Sink.keep, Sink.fits_of_unlimited hout]
  rw [write_eq, hl, Sink.writeAll_eq, decide_eq_true (Sink.fits_of_unlimited hout _), hkeep]

/-- Everything in the log of a listing is an error, so the figures are read off
its size. -/
theorem report_eq (hl : ofReader reader capacity = l) :
    l.report = ⟨l.tokens.length, l.log.size, 0, l.aborted⟩ := by
  have herror : ∀ d ∈ l.log.toList, d.isError = true := by
    rw [← hl]
    rcases Session.ended_read (.standard capacity) rfl reader with
      ⟨-, -, h⟩ | ⟨_, -, -, -, hlog, hd, hbefore⟩
    · exact fun d hd => (h d hd).1
    · intro entry hentry
      have hmem : entry ∈ _ ++ [_] := hlog ▸ hentry
      rcases List.mem_append.mp hmem with hmem | hmem
      · exact hbefore entry hmem
      · exact List.mem_singleton.mp hmem ▸ hd
  rw [report, Log.errorCount_eq_size herror, Log.warningCount_eq_zero herror]

/-- A listing is not aborted where its source brings a text to its end, and then
no failure of the source is logged. -/
theorem aborted_of_bringsText (hl : ofReader reader capacity = l) (h : reader.BringsText) :
    l.aborted = false ∧ ∀ d ∈ l.log.toList, d.problem ≠ .unreadableSource := by
  rw [← hl]
  rcases Session.ended_read (.standard capacity) rfl reader with
    ⟨-, hlast, hregular⟩ | ⟨_, hbrings, -⟩
  · exact ⟨congrArg Outcome.isFatal hlast, fun d hd => (hregular d hd).2⟩
  · exact absurd h hbrings

/-- Otherwise it is aborted, and the failure is the last thing that is logged. -/
theorem aborted_of_not_bringsText (hl : ofReader reader capacity = l) (h : ¬reader.BringsText) :
    l.aborted = true ∧
      ∃ before d, l.log.toList = before ++ [d] ∧ d.problem = .unreadableSource := by
  rw [← hl]
  rcases Session.ended_read (.standard capacity) rfl reader with
    ⟨hbrings, -⟩ | ⟨_, -, hlast, hproblem, hlog, -⟩
  · exact absurd hbrings h
  · exact ⟨congrArg Outcome.isFatal hlast, _, _, hlog, hproblem⟩

theorem aborted_iff (hl : ofReader reader capacity = l) :
    l.aborted = true ↔ ¬reader.BringsText := by
  constructor
  · intro haborted hbrings
    rw [(aborted_of_bringsText hl hbrings).1] at haborted
    cases haborted
  · exact fun h => (aborted_of_not_bringsText hl h).1

theorem aborted_iff_logged (hl : ofReader reader capacity = l) :
    l.aborted = true ↔
      ∃ before d, l.log.toList = before ++ [d] ∧ d.problem = .unreadableSource := by
  rw [aborted_iff hl]
  constructor
  · exact fun h => (aborted_of_not_bringsText hl h).2
  · rintro ⟨before, d, hlog, hproblem⟩ hbrings
    have hd : d ∈ l.log.toList := hlog ▸ List.mem_append_right _ (List.mem_singleton_self d)
    exact (aborted_of_bringsText hl hbrings).2 d hd hproblem

/-- A failure is logged, so a log with nothing in it is that of a whole text. -/
theorem bringsText_of_silent (hl : ofReader reader capacity = l) (hlog : l.log.toList = []) :
    reader.BringsText := by
  apply Classical.byContradiction
  intro h
  obtain ⟨-, before, d, hentries, -⟩ := aborted_of_not_bringsText hl h
  exact List.append_ne_nil_of_right_ne_nil before (List.cons_ne_nil d []) (hentries ▸ hlog)

theorem isClean_iff (hl : ofReader reader capacity = l) :
    l.report.isClean = true ↔ l.log.toList = [] := by
  have hclean : l.report.isClean = true ↔ l.log.size = 0 ∧ l.aborted = false := by
    rw [report_eq hl, Report.isClean]
    simp only [Bool.and_eq_true, beq_iff_eq, Bool.not_eq_true', and_true]
  rw [hclean, Log.size_eq_length_toList, List.length_eq_zero_iff]
  exact ⟨And.left, fun hlog =>
    ⟨hlog, (aborted_of_bringsText hl (bringsText_of_silent hl hlog)).1⟩⟩

/-- Only a listing with nothing in its log leaves a terminal as it was. -/
theorem written_conclude (l : Listing) {terminal : Terminal}
    (hterminal : terminal.sink.limit? = none) :
    (Terminal.emitter.conclude terminal l.log.toList l.report.errors
        l.report.warnings).sink.written = terminal.sink.written ↔
      l.log.toList = [] := by
  rw [Terminal.concluded, ← l.bytesOf_remarks_eq_nil terminal.colors]
  show (terminal.sink.keep (bytesOf (l.remarks terminal.colors))).written = _ ↔ _
  rw [← Array.toList_inj, Sink.toList_written_keep hterminal, List.append_right_eq_self]

end

/-- A listing that is written while its source is read agrees with the tokens that
one gets by asking for one after another.  Of a text, `out` gets a line for each
token, the emitter everything that was logged and then one summary, and the
figures are the numbers of both.  Of any source, the report tells whether it
failed, which is then the last thing in the log; and nothing is told just if the
source brings all of a text and nothing is wrong with the text. -/
theorem write_agrees (capacity : Nat) (out : Sink) (terminal : Terminal)
    (hout : out.limit? = none) (hterminal : terminal.sink.limit? = none) :
    (∀ {ε : Type} (emitter : Emitter ε) (e : ε) (text : String),
      let reader := Source.Reader.ofBytes (Text.Utf8.encode text.toList)
      let found := (Session.standard capacity).gather reader
      found = tokenize text capacity ∧
      write emitter reader capacity out e =
        (some ⟨found.1.length, found.2.size, 0, false⟩,
          { out with
            written := out.written ++
              (bytesOf (found.1.map fun t => "  " ++ t.render ++ "\n")).toArray },
          emitter.conclude e found.2.toList found.2.size 0)) ∧
    ∀ reader : Source.Reader,
      let found := (Session.standard capacity).gather reader
      ∃ report : Report,
        (∀ {ε : Type} (emitter : Emitter ε) (e : ε),
          write emitter reader capacity out e =
            (some report,
              { out with
                written := out.written ++
                  (bytesOf (found.1.map fun t => "  " ++ t.render ++ "\n")).toArray },
              emitter.conclude e found.2.toList found.2.size 0)) ∧
        report = ⟨found.1.length, found.2.size, 0, report.aborted⟩ ∧
        (report.aborted = true ↔ ¬reader.BringsText) ∧
        (report.aborted = true ↔
          ∃ before d, found.2.toList = before ++ [d] ∧ d.problem = .unreadableSource) ∧
        (report.isClean = true ↔ reader.BringsText ∧ found.2.toList = []) ∧
        (report.isClean = true ↔
          (write Terminal.emitter reader capacity out terminal).2.2.sink.written =
            terminal.sink.written) := by
  constructor
  · intro ε emitter e text reader found
    generalize hl : ofReader reader capacity = l
    have hfound : found = (l.tokens, l.log) := by
      rw [← hl]
      exact Session.gather_eq _ _
    have hbrings : reader.BringsText := ⟨text.toList, Source.Reader.signals_ofBytes _⟩
    have hwritten := write_unlimited hl emitter hout e
    rw [report_eq hl, (aborted_of_bringsText hl hbrings).1] at hwritten
    rw [hfound]
    refine ⟨?_, hwritten⟩
    rw [← hl]
    rfl
  · intro reader found
    generalize hl : ofReader reader capacity = l
    have hfound : found = (l.tokens, l.log) := by
      rw [← hl]
      exact Session.gather_eq _ _
    rw [hfound]
    refine ⟨l.report, ?_, report_eq hl, aborted_iff hl, aborted_iff_logged hl, ?_, ?_⟩
    · intro ε emitter e
      have hwritten := write_unlimited hl emitter hout e
      rw [report_eq hl] at hwritten ⊢
      exact hwritten
    · rw [isClean_iff hl]
      exact ⟨fun hlog => ⟨bringsText_of_silent hl hlog, hlog⟩, And.right⟩
    · rw [isClean_iff hl, write_unlimited hl Terminal.emitter hout terminal]
      exact (l.written_conclude hterminal).symm

/-- The source fails behind a word. -/
theorem write_agrees_word_and_failure :
    let out : Sink := .ofLimit none
    let terminal : Terminal := ⟨false, .ofLimit none⟩
    let reader : Source.Reader := .ofBytes [0x61, 0x20, 0xFF]
    out.limit? = none ∧ terminal.sink.limit? = none ∧
      (write Terminal.emitter reader 0 out terminal).1 = some ⟨1, 1, 0, true⟩ ∧
      (write Terminal.emitter reader 0 out terminal).2.2.sink.written ≠ #[] := by
  intro out terminal reader
  obtain ⟨-, hagrees⟩ := write_agrees 0 out terminal rfl rfl
  obtain ⟨report, hwrite, hreport, -, haborted, -, hclean⟩ := hagrees reader
  have hfound : ((Session.standard 0).gather reader).1.length = 1 ∧
      ((Session.standard 0).gather reader).2.size = 1 ∧
      ((Session.standard 0).gather reader).2.toList.getLast?.map Diagnostic.problem =
        some .unreadableSource := by
    rw [Session.gather_eq]
    decide +kernel
  obtain ⟨hlength, hsize, hlast⟩ := hfound
  have htrue : report.aborted = true := by
    obtain ⟨d, hd, hproblem⟩ := Option.map_eq_some_iff.mp hlast
    obtain ⟨before, hlog⟩ := List.getLast?_eq_some_iff.mp hd
    exact haborted.mpr ⟨before, d, hlog, hproblem⟩
  rw [hlength, hsize, htrue] at hreport
  refine ⟨rfl, rfl, ?_, fun hempty => ?_⟩
  · rw [hwrite Terminal.emitter terminal, hreport]
  · have := hclean.mpr hempty
    rw [hreport] at this
    cases this

end Listing

end LexicalFrontEnd
