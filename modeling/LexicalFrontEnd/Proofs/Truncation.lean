import LexicalFrontEnd.Proofs.Listing
import LexicalFrontEnd.Proofs.Rendering

/-!
A listing whose output runs full.

The line of a token is written in many small pieces, and an output that runs full
fails one of them.  What it holds by then is as much of the listing as it has room
for, wherever in a line that is and however the line is cut into pieces.  The tokens
behind that line are never looked for, and the emitter is told nothing, also if some
of the tokens before were logged as malformed (`pour_limited`).
-/

namespace LexicalFrontEnd

open Output

def Outcome.logged? : Outcome → Option Diagnostic
  | .recovered d | .fatal d => some d
  | .token | .exhausted => none

namespace Listing

/-! ## Lines in pieces -/

/-- A way to write the lines of tokens in pieces. -/
structure Cutting where
  pieces : Token → List String
  flatMap_pieces : ∀ t, (pieces t).flatMap String.toList = (line t).toList

namespace Cutting

/-- A line field by field, and its lexeme character by character. -/
def byField : Cutting where
  pieces t :=
    ["  ", toString t.position.line, ":", toString t.position.column, " ", t.kind.label]
      ++ (match t.code? with
        | some code => [" ", toString code]
        | none => [])
      ++ [" ", "\""] ++ t.lexeme.toList.map (fun c => String.ofList (Text.Quoted.encodeChar c))
      ++ ["\"", "\n"]
  flatMap_pieces t := by
    rw [t.toList_line, Token.heading]
    cases t.code? <;>
      simp [Token.codeText, Text.Quoted.encode, List.flatMap_map]

/-- The pieces of a line are written like the whole of it. -/
theorem writeAll_pieces (cut : Cutting) (out : Sink) (t : Token) :
    out.writeAll (cut.pieces t) = out.write (line t) := by
  rw [Sink.writeAll_eq, Sink.write_eq, bytesOf_eq_encode, cut.flatMap_pieces]

end Cutting

/-! ## Writing in pieces -/

/-- Where the writing of lines stopped: behind the last token of the source, or in a
line that did not fit. -/
inductive Stop
  | ended (aborted : Bool)
  | full
  deriving DecidableEq, Repr

structure Poured where
  stop : Stop
  tokens : Nat
  session : Session
  out : Sink

def pourOnto (cut : Cutting) (out : Sink) (count : Nat) (s : Session) : Poured :=
  match h : s.scan with
  | (.token, next) | (.recovered _, next) =>
    have := Session.remaining_scan_lt h rfl
    match out.writeAll (cut.pieces next.token) with
    | (true, out) => pourOnto cut out (count + 1) next
    | (false, out) => ⟨.full, count + 1, next, out⟩
  | (.fatal _, next) => ⟨.ended true, count, next, out⟩
  | (.exhausted, next) => ⟨.ended false, count, next, out⟩
termination_by s.remaining

/-- What is left of a listing that was written in pieces.  There is no report where the
output failed; the tokens that were found, and what was logged by then, are lost to
the caller. -/
structure Aftermath (ε : Type) where
  report? : Option Report
  out : Sink
  emitter : ε
  tokens : Nat
  log : Log

def pourReader (cut : Cutting) (reader : Source.Reader) (capacity : Nat) (out : Sink) : Poured :=
  match (Session.standard capacity).attach reader with
  | (.ok (), s) => pourOnto cut out 0 s
  | (.error _, s) => ⟨.ended true, 0, s, out⟩

def Poured.conclude {ε : Type} (p : Poured) (emitter : Emitter ε) (e : ε) : Aftermath ε :=
  let log := p.session.log
  match p.stop with
  | .full => ⟨none, p.out, e, p.tokens, log⟩
  | .ended aborted =>
    ⟨some ⟨p.tokens, log.errorCount, log.warningCount, aborted⟩, p.out,
      emitter.conclude e log.toList log.errorCount log.warningCount, p.tokens, log⟩

def pour {ε : Type} (emitter : Emitter ε) (cut : Cutting) (reader : Source.Reader)
    (capacity : Nat) (out : Sink) (e : ε) : Aftermath ε :=
  (pourReader cut reader capacity out).conclude emitter e

def frontBytes (run : Session.Run) (n : Nat) : List UInt8 :=
  bytesOf ((run.scans.take n).map fun x => line x.2)

section

variable {s next : Session} {outcome : Outcome} {cut : Cutting}

theorem toList_log_of_scan (h : s.scan = (outcome, next)) :
    next.log.toList = s.log.toList ++ outcome.logged?.toList := by
  have htells := s.tells_scan
  rw [h] at htells
  cases outcome with
  | token => rw [htells.1]; exact (List.append_nil _).symm
  | recovered d => exact htells.1
  | fatal d => exact htells
  | exhausted => rw [htells.2]; exact (List.append_nil _).symm

theorem pourOnto_of_token (out : Sink) (count : Nat) (h : s.scan = (outcome, next))
    (ht : outcome.hasToken = true) :
    pourOnto cut out count s =
      if out.Fits (bytesOf [line next.token]) then
        pourOnto cut (out.keep (bytesOf [line next.token])) (count + 1) next
      else ⟨.full, count + 1, next, out.keep (bytesOf [line next.token])⟩ := by
  have hwrite : out.writeAll (cut.pieces next.token) =
      (decide (out.Fits (bytesOf [line next.token])), out.keep (bytesOf [line next.token])) := by
    rw [cut.writeAll_pieces, Sink.write_eq, bytesOf, List.flatMap_singleton]
  rw [pourOnto]
  cases outcome with
  | token | recovered d =>
    by_cases hfit : out.Fits (bytesOf [line next.token]) <;> split <;> simp_all
  | fatal d => cases ht
  | exhausted => cases ht

theorem pourOnto_of_last (out : Sink) (count : Nat) (h : s.scan = (outcome, next))
    (ht : ¬outcome.hasToken = true) :
    pourOnto cut out count s = ⟨.ended outcome.isFatal, count, next, out⟩ := by
  rw [pourOnto]
  cases outcome with
  | token | recovered d => exact absurd rfl ht
  | fatal d | exhausted =>
    split <;> simp_all [Outcome.isFatal]

/-- Where the lines of a run fit, all of them are written, and otherwise the writing
stops in the first that does not. -/
theorem pourOnto_cases (cut : Cutting) (out : Sink) (count : Nat) (s : Session) :
    let run := s.scanAll
    (out.Fits (bytesOfRun run) ∧
      pourOnto cut out count s =
        ⟨.ended run.last.isFatal, count + run.scans.length, run.session,
          out.keep (bytesOfRun run)⟩) ∨
    ∃ n last,
      n < run.scans.length ∧ out.Fits (frontBytes run n) ∧ ¬out.Fits (frontBytes run (n + 1)) ∧
      last.log.toList =
        s.log.toList ++ (run.scans.take (n + 1)).filterMap (fun x => x.1.logged?) ∧
      pourOnto cut out count s = ⟨.full, count + (n + 1), last, out.keep (bytesOfRun run)⟩ := by
  -- On the bound of the tokens to come, because sink and count change along the way.
  induction hn : s.remaining using Nat.strongRecOn generalizing out count s with
  | ind bound ih =>
    intro run
    cases hscan : s.scan with | mk outcome next =>
    by_cases ht : outcome.hasToken = true
    · have hrun : run =
          { next.scanAll with scans := (outcome, next.token) :: next.scanAll.scans } :=
        Session.scanAll_of_token hscan ht
      have hbytes : bytesOfRun run = bytesOf [line next.token] ++ bytesOfRun next.scanAll := by
        rw [hrun]
        exact bytesOf_append [line next.token] _
      have hfront (n : Nat) : frontBytes run (n + 1) =
          bytesOf [line next.token] ++ frontBytes next.scanAll n := by
        rw [hrun]
        exact bytesOf_append [line next.token] _
      have hlogged (n : Nat) : (run.scans.take (n + 1)).filterMap (fun x => x.1.logged?) =
          outcome.logged?.toList ++
            (next.scanAll.scans.take n).filterMap (fun x => x.1.logged?) := by
        rw [hrun, List.take_succ_cons, List.filterMap_cons]
        cases outcome.logged? <;> rfl
      have hlength : run.scans.length = next.scanAll.scans.length + 1 := by rw [hrun]; rfl
      rw [pourOnto_of_token out count hscan ht, hbytes, Sink.fits_append, Sink.keep_append, hlength]
      by_cases hfit : out.Fits (bytesOf [line next.token])
      · rw [if_pos hfit]
        rcases ih _ (hn ▸ Session.remaining_scan_lt hscan ht) _ (count + 1) next rfl with
          ⟨hrest, heq⟩ | ⟨n, last, hlt, hbefore, hbehind, hlog, heq⟩
        · refine Or.inl ⟨⟨hfit, hrest⟩, ?_⟩
          rw [heq, hrun, Nat.add_right_comm, Nat.add_assoc]
        · refine Or.inr ⟨n + 1, last, Nat.succ_lt_succ hlt, ?_, ?_, ?_, ?_⟩
          · rw [hfront, Sink.fits_append]
            exact ⟨hfit, hbefore⟩
          · rw [hfront, Sink.fits_append]
            exact fun h => hbehind h.2
          · rw [hlog, hlogged, toList_log_of_scan hscan, List.append_assoc]
          · rw [heq, Nat.add_right_comm, Nat.add_assoc]
      · rw [if_neg hfit, Sink.keep_keep_of_not_fits hfit]
        refine Or.inr ⟨0, next, Nat.succ_pos _, out.fits_nil, ?_, ?_, rfl⟩
        · rw [hfront, Sink.fits_append]
          exact fun h => hfit h.1
        · rw [hlogged, toList_log_of_scan hscan, List.take_zero, List.filterMap_nil,
            List.append_nil]
    · have hrun : run = ⟨[], outcome, next⟩ := Session.scanAll_of_last hscan ht
      have hbytes : bytesOfRun run = [] := by rw [hrun]; rfl
      rw [pourOnto_of_last out count hscan ht, hbytes, Sink.keep_nil]
      exact Or.inl ⟨out.fits_nil, by rw [hrun]; rfl⟩

end

/-- The same of a reader, behind which nothing is logged yet. -/
theorem pourReader_cases (cut : Cutting) (reader : Source.Reader) (capacity : Nat) (out : Sink) :
    let run := (Session.standard capacity).read reader
    (out.Fits (bytesOfRun run) ∧
      pourReader cut reader capacity out =
        ⟨.ended run.last.isFatal, run.scans.length, run.session, out.keep (bytesOfRun run)⟩) ∨
    ∃ n last,
      n < run.scans.length ∧ out.Fits (frontBytes run n) ∧ ¬out.Fits (frontBytes run (n + 1)) ∧
      last.log.toList = (run.scans.take (n + 1)).filterMap (fun x => x.1.logged?) ∧
      pourReader cut reader capacity out = ⟨.full, n + 1, last, out.keep (bytesOfRun run)⟩ := by
  rw [Session.read, pourReader]
  cases hopened : (Session.standard capacity).attach reader with | mk result s =>
  cases result with
  | error d =>
    exact Or.inl ⟨out.fits_nil, congrArg (Poured.mk _ _ _) out.keep_nil.symm⟩
  | ok =>
    have hlog : s.log.toList = [] := by
      rw [Session.attach_of_ok hopened]
      rfl
    have hcases := pourOnto_cases cut out 0 s
    rw [hlog] at hcases
    simpa only [Nat.zero_add, List.nil_append] using hcases

theorem fits_frontBytes {out : Sink} {run : Session.Run} (h : out.Fits (bytesOfRun run)) (n : Nat) :
    out.Fits (frontBytes run n) := by
  have hsplit : bytesOfRun run = frontBytes run n ++
      bytesOf ((run.scans.drop n).map fun x => line x.2) := by
    rw [frontBytes, ← bytesOf_append, ← List.map_append, List.take_append_drop]
    rfl
  rw [hsplit, Sink.fits_append] at h
  exact h.1

/-- Piece by piece, a listing is written as it is line by line. -/
theorem pour_eq_write {ε : Type} (emitter : Emitter ε) (cut : Cutting) (reader : Source.Reader)
    (capacity : Nat) (out : Sink) (e : ε) :
    let result := pour emitter cut reader capacity out e
    (result.report?, result.out, result.emitter) = write emitter reader capacity out e := by
  have hbytes : bytesOf (ofReader reader capacity).lines =
      bytesOfRun ((Session.standard capacity).read reader) := by
    rw [lines, ofReader, List.map_map]
    rfl
  rw [write_eq, Sink.writeAll_eq, hbytes, pour]
  rcases pourReader_cases cut reader capacity out with
    ⟨hfits, heq⟩ | ⟨n, last, -, -, hbehind, -, heq⟩
  · rw [heq, decide_eq_true hfits, report, ofReader, List.length_map]
    rfl
  · rw [heq, decide_eq_false fun hfits => hbehind (fits_frontBytes hfits _)]
    rfl

section

variable {ε : Type} (emitter : Emitter ε) (cut : Cutting) (reader : Source.Reader)
  (capacity : Nat) {limit : Nat} (e : ε)

theorem pour_unlimited :
    let run := (Session.standard capacity).read reader
    pour emitter cut reader capacity (.ofLimit none) e =
      Poured.conclude ⟨.ended run.last.isFatal, run.scans.length, run.session,
        ⟨none, (bytesOfRun run).toArray⟩⟩ emitter e := by
  rcases pourReader_cases cut reader capacity (.ofLimit none) with
    ⟨-, heq⟩ | ⟨_, _, -, -, hbehind, -⟩
  · rw [Sink.keep_unlimited] at heq
    exact congrArg (Poured.conclude · emitter e) heq
  · exact absurd (Sink.fits_of_unlimited rfl _) hbehind

theorem pour_of_le (h : (bytesOfRun ((Session.standard capacity).read reader)).length ≤ limit) :
    let run := (Session.standard capacity).read reader
    pour emitter cut reader capacity (.ofLimit (some limit)) e =
      Poured.conclude ⟨.ended run.last.isFatal, run.scans.length, run.session,
        ⟨some limit, (bytesOfRun run).toArray⟩⟩ emitter e := by
  rcases pourReader_cases cut reader capacity (.ofLimit (some limit)) with
    ⟨-, heq⟩ | ⟨_, _, -, -, hbehind, -⟩
  · rw [Sink.keep_ofLimit, List.take_of_length_le h] at heq
    exact congrArg (Poured.conclude · emitter e) heq
  · exact absurd (fits_frontBytes (Sink.fits_ofLimit.mpr h) _) hbehind

theorem pour_of_lt (h : limit < (bytesOfRun ((Session.standard capacity).read reader)).length) :
    let run := (Session.standard capacity).read reader
    ∃ n log, n < run.scans.length ∧
      (frontBytes run n).length ≤ limit ∧ limit < (frontBytes run (n + 1)).length ∧
      log.toList = (run.scans.take (n + 1)).filterMap (fun x => x.1.logged?) ∧
      pour emitter cut reader capacity (.ofLimit (some limit)) e =
        ⟨none, ⟨some limit, ((bytesOfRun run).take limit).toArray⟩, e, n + 1, log⟩ := by
  rcases pourReader_cases cut reader capacity (.ofLimit (some limit)) with
    ⟨hfits, -⟩ | ⟨n, last, hn, hbefore, hbehind, hlogged, heq⟩
  · exact absurd (Sink.fits_ofLimit.mp hfits) (Nat.not_le_of_lt h)
  · rw [Sink.fits_ofLimit] at hbefore hbehind
    rw [Sink.keep_ofLimit] at heq
    exact ⟨n, last.log, hn, hbefore, Nat.lt_of_not_le hbehind, hlogged,
      congrArg (Poured.conclude · emitter e) heq⟩

end

/-- A listing whose output takes the first bytes of it only.  If that is all of them,
everything is as with an output that takes any number.  Otherwise the output holds
just the first bytes, whatever pieces the lines are written in.  The writing has come to
the line that the last of them is in front of or in; what was logged by then is lost,
since the emitter is as it was before. -/
theorem pour_limited {ε : Type} (emitter : Emitter ε) (cut : Cutting) (reader : Source.Reader)
    (capacity limit : Nat) (e : ε) :
    let run := (Session.standard capacity).read reader
    let full := pour emitter cut reader capacity (.ofLimit none) e
    let bytes := full.out.written.toList
    let result := pour emitter cut reader capacity (.ofLimit (some limit)) e
    full.report?.isSome = true ∧
    (bytes.length ≤ limit → result = { full with out := ⟨some limit, full.out.written⟩ }) ∧
    (limit < bytes.length →
      result.report? = none ∧ result.out = ⟨some limit, (bytes.take limit).toArray⟩ ∧
      result.emitter = e ∧
      ∃ n < run.scans.length,
        (frontBytes run n).length ≤ limit ∧ limit < (frontBytes run (n + 1)).length ∧
        result.tokens = n + 1 ∧
        result.log.toList = (run.scans.take (n + 1)).filterMap fun x => x.1.logged?) ∧
    ∀ (out : Sink) (terminal : Terminal),
      let shown := pour Terminal.emitter cut reader capacity out terminal
      (shown.report?, shown.out, shown.emitter) =
        (ofReader reader capacity).print out terminal := by
  intro run full bytes result
  have hfull : full = _ := pour_unlimited emitter cut reader capacity e
  have hbytes : bytes = bytesOfRun run := by
    show full.out.written.toList = _
    rw [hfull]
    rfl
  refine ⟨by rw [hfull]; rfl, fun hle => ?_, fun hlt => ?_, fun out terminal => ?_⟩
  · have hresult : result = _ := pour_of_le emitter cut reader capacity e (hbytes ▸ hle)
    rw [hresult, hfull]
    rfl
  · obtain ⟨n, log, hn, hbefore, hbehind, hlogged, hpour⟩ :=
      pour_of_lt emitter cut reader capacity e (hbytes ▸ hlt)
    have hresult : result = ⟨none, ⟨some limit, (bytes.take limit).toArray⟩, e, n + 1, log⟩ :=
      hbytes ▸ hpour
    rw [hresult]
    exact ⟨rfl, rfl, rfl, n, hn, hbefore, hbehind, rfl, hlogged⟩
  · exact (pour_eq_write Terminal.emitter cut reader capacity out terminal).trans
      (write_terminal reader capacity out terminal)

/-- The output runs full in the line of a stray character: it is in the log, and the
terminal shows nothing of it. -/
example :
    let reader : Source.Reader := .ofBytes (Text.Utf8.encode ['$', ' ', 'x'])
    let result := pour Terminal.emitter .byField reader 0 (.ofLimit (some 9)) ⟨false, .ofLimit none⟩
    result.report? = none ∧ result.tokens = 1 ∧ result.log.size = 1 ∧
      result.out.written.size = 9 ∧ result.emitter.sink.written = #[] := by
  decide +kernel

end Listing
end LexicalFrontEnd
