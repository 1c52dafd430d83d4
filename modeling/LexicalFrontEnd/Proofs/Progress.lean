import LexicalFrontEnd.Proofs.Scanner.Scan
import LexicalFrontEnd.Proofs.Source.Fault

/-!
Scanning never stalls.

Every loop of a scanner ends.  The one that fills the buffer of a source takes
something from the reader in each round; every other one takes a character or
ends, so a round more than there are characters is enough.  A scan that finds a
lexeme has passed a character, so as many scans as there are characters, and one
more, reach the end of a source or its failure (`never_stalls`).
-/

namespace LexicalFrontEnd

/-! ## Filling a buffer -/

namespace Source.Decoder

/-- Read until the buffer holds `need` bytes, in so many rounds. -/
def fillWithin : Nat → Nat → Decoder → Option (Except SourceError Unit × Decoder)
  | 0, _, _ => none
  | rounds + 1, need, d =>
    if need ≤ d.buffer.size ∨ d.finished then some (.ok (), d)
    else
      let buffer := d.buffer.makeRoom
      match d.reader.read buffer.room with
      | (.bytes [], reader) => some (.ok (), { d with reader, buffer, finished := true })
      | (.bytes (b :: bs), reader) =>
        fillWithin rounds need { d with reader, buffer := buffer.append (b :: bs) }
      | (.interrupted, reader) => fillWithin rounds need { d with reader, buffer }
      | (.failed message, reader) => some (.error (.io message), { d with reader, buffer })

/-- There are no more rounds than the reader has bytes and other results, and one
that finds the end. -/
theorem fillWithin_eq (d : Decoder) (need : Nat) {rounds : Nat} (h : d.reader.size < rounds) :
    d.fillWithin rounds need = some (d.fill need) := by
  induction rounds generalizing d with
  | zero => exact absurd h (Nat.not_lt_zero _)
  | succ rounds ih =>
    rw [fillWithin, fill]
    split
    · rfl
    · rename_i hfull
      simp only
      split
      · rename_i reader hread
        split <;> simp_all
      · rename_i b bs reader hread
        have hlt := Reader.size_lt_of_read hread (Nat.succ_pos bs.length)
        rw [ih _ (Nat.lt_of_lt_of_le hlt (Nat.le_of_lt_succ h))]
        split <;> simp_all
      · rename_i reader hread
        have hlt := Reader.size_lt_of_read hread Nat.one_pos
        rw [ih _ (Nat.lt_of_lt_of_le hlt (Nat.le_of_lt_succ h))]
        split <;> simp_all
      · rename_i message reader hread
        split <;> simp_all

end Source.Decoder

/-- A scan that finds a lexeme passes a character. -/
theorem Cursor.passed_of_scan {lexicon : Lexicon} {cursor next : Cursor} {lexeme : Lexeme}
    {start : Position} (h : cursor.scan lexicon = .found lexeme start next) :
    ∃ passed, passed ≠ [] ∧ cursor.rest = passed ++ next.rest := by
  have hscanned := scanned lexicon cursor
  rw [h] at hscanned
  cases hscanned with
  | @lexeme p gap rest c failure? hgap hstart =>
    refine ⟨gap ++ (c :: rest).take (Lexeme.read lexicon c rest).width, ?_, ?_⟩
    · obtain ⟨n, hn⟩ := Nat.exists_eq_add_of_lt (Lexeme.width_read_pos lexicon c rest)
      rw [hn, Nat.zero_add, List.take_succ_cons]
      exact List.append_ne_nil_of_right_ne_nil gap (List.cons_ne_nil _ _)
    · rw [List.append_assoc, List.take_append_drop]

namespace Scanner

variable {lexicon : Lexicon} {rounds : Nat} {source s t : Source} {cursor : Cursor}

/-! ## One scan after another -/

/-- The sources that scans leave behind the lexemes that they find. -/
inductive Reached (lexicon : Lexicon) (rounds : Nat) (source : Source) : Source → Prop
  | opened : Reached lexicon rounds source source
  | found {s t : Source} {verdict : Verdict} {text : List Char} {start : Position} :
    Reached lexicon rounds source s →
    scan lexicon rounds s = some (.found verdict text start t) → Reached lexicon rounds source t

theorem cursor_of_found (hs : s.Stands cursor) (hrounds : cursor.rest.length < rounds)
    {verdict : Verdict} {text : List Char} {start : Position}
    (h : scan lexicon rounds s = some (.found verdict text start t)) :
    ∃ lexeme next, cursor.scan lexicon = .found lexeme start next ∧ t.Stands next ∧
      lexeme.verdict = verdict ∧ lexeme.text = text := by
  obtain ⟨result, hresult, hagrees⟩ := scan_agrees lexicon hrounds hs
  obtain rfl := Option.some.inj (hresult.symm.trans h)
  generalize hscan : cursor.scan lexicon = scanned at hagrees
  cases hagrees with
  | found hnext => exact ⟨_, _, rfl, hnext, rfl, rfl⟩

theorem stands_of_reached (h : Reached lexicon rounds source t) (hs : source.Stands cursor)
    (hrounds : cursor.rest.length < rounds) :
    ∃ next, t.Stands next ∧ next.rest.length ≤ cursor.rest.length := by
  induction h with
  | opened => exact ⟨cursor, hs, Nat.le_refl _⟩
  | found _ hscan ih =>
    obtain ⟨middle, hstands, hle⟩ := ih
    obtain ⟨lexeme, next, hfound, hnext, -⟩ :=
      cursor_of_found hstands (Nat.lt_of_le_of_lt hle hrounds) hscan
    have hlt := Cursor.length_rest_lt_of_scan hfound
    exact ⟨next, hnext, Nat.le_of_lt (Nat.lt_of_lt_of_le hlt hle)⟩

/-- A scan ends, and it has passed a character if it finds a lexeme. -/
theorem scan_progress (lexicon : Lexicon) (hs : s.Stands cursor)
    (hrounds : cursor.rest.length < rounds) :
    ∃ result, scan lexicon rounds s = some result ∧
      ∀ verdict text start next, result = .found verdict text start next →
        ∃ passed, passed ≠ [] ∧ s.left = passed ++ next.left := by
  obtain ⟨result, hresult, -⟩ := scan_agrees lexicon hrounds hs
  refine ⟨result, hresult, ?_⟩
  rintro verdict text start t rfl
  obtain ⟨lexeme, next, hfound, hnext, -⟩ := cursor_of_found hs hrounds hresult
  rw [Source.left_eq hs, Source.left_eq hnext]
  exact Cursor.passed_of_scan hfound

/-! ## To the end -/

def tokenOf : Verdict → List Char → Position → Token
  | .token kind code?, text, start => ⟨String.ofList text, kind, code?, start⟩
  | .malformed _, text, start => ⟨String.ofList text, .invalid, none, start⟩

structure Outline where
  tokens : List Token
  failure? : Option ReadFailure
  deriving DecidableEq, Repr

/-- Scan up to the end or to a failure, if that takes no more scans than given. -/
def scanAll (lexicon : Lexicon) (rounds : Nat) : Nat → Source → Option Outline
  | 0, _ => none
  | scans + 1, source =>
    match scan lexicon rounds source with
    | none => none
    | some (.exhausted _) => some ⟨[], none⟩
    | some (.failed failure _) => some ⟨[], some failure⟩
    | some (.found verdict text start next) =>
      (scanAll lexicon rounds scans next).map fun found =>
        { found with tokens := tokenOf verdict text start :: found.tokens }

theorem tokenOf_placed (x : Placed) :
    tokenOf x.lexeme.verdict x.lexeme.text x.start = x.token := by
  rw [Placed.token]
  cases x.lexeme.verdict <;> rfl

/-- A scanner goes through a source as a session does, in at most one scan more
than there are characters. -/
theorem scanAll_agrees {scans : Nat} {session : Session} (hs : s.Stands cursor)
    (hstate : session.state = .ready cursor) (hrounds : cursor.rest.length < rounds)
    (hscans : cursor.rest.length < scans) :
    ∃ found, scanAll session.lexicon rounds scans s = some found ∧
      found.tokens = session.scanAll.scans.map Prod.snd ∧
      session.scanAll.last =
        found.failure?.elim .exhausted (fun failure => .fatal failure.report) ∧
      found.tokens.length ≤ cursor.rest.length := by
  induction scans generalizing s cursor session with
  | zero => exact absurd hscans (Nat.not_lt_zero _)
  | succ scans ih =>
    obtain ⟨result, hresult, hagrees⟩ := scan_agrees session.lexicon hrounds hs
    rw [scanAll, hresult]
    generalize hscan : cursor.scan session.lexicon = scanned at hagrees
    cases hagrees with
    | exhausted =>
      have hlast := Session.scan_of_exhausted hstate hscan
      rw [Session.scanAll_of_last hlast Bool.false_ne_true]
      exact ⟨_, rfl, rfl, rfl, Nat.zero_le _⟩
    | failed failure start? =>
      have hlast := Session.scan_of_failed hstate hscan
      rw [Session.scanAll_of_last hlast Bool.false_ne_true]
      exact ⟨_, rfl, rfl, rfl, Nat.zero_le _⟩
    | @found lexeme start next behind hnext =>
      have hlt := Cursor.length_rest_lt_of_scan hscan
      have hfound := Session.scan_of_found (x := ⟨lexeme, start⟩) hstate hscan
      have hstate : (session.afterPlaced ⟨lexeme, start⟩ behind).state = .ready behind := rfl
      obtain ⟨found, hall, htokens, hlast, hlength⟩ := ih hnext hstate
        (Nat.lt_trans hlt hrounds) (Nat.lt_of_lt_of_le hlt (Nat.le_of_lt_succ hscans))
      have hall : scanAll session.lexicon rounds scans next = some found := hall
      rw [Session.scanAll_of_token hfound (Placed.hasToken_outcome _)]
      simp only [hall, Option.map_some]
      refine ⟨_, rfl, ?_, hlast, Nat.lt_of_le_of_lt hlength hlt⟩
      rw [List.map_cons, ← htokens]
      exact congrArg (· :: found.tokens) (tokenOf_placed ⟨lexeme, start⟩)

/-- A NUL ends neither a text nor a literal. -/
example :
    (Source.ofReader (.ofBytes [0x00, 0x22, 0x00]) 0).toOption.bind (scanAll .standard 4 4) =
      some ⟨[⟨"\x00", .invalid, none, ⟨1, 1⟩⟩, ⟨"\"\x00", .invalid, none, ⟨1, 2⟩⟩], none⟩ := by
  decide +kernel

end Scanner

/-! ## Every reader -/

theorem Source.deliver_of_text {reader : Source.Reader} {text : List Char}
    {rest : List Source.Signal}
    (hsignals : reader.signals = (Text.Utf8.encode text).map .byte ++ rest)
    (hrest : rest = [] ∨ Source.Unreadable rest) :
    ∃ failure?, reader.stream.deliver = ⟨text, failure?⟩ := by
  rw [Source.Reader.stream, hsignals]
  rcases hrest with rfl | hrest
  · rw [List.append_nil]
    exact ⟨none, Source.Stream.deliver_encode text 0⟩
  · exact ⟨_, Source.Stream.deliver_of_unreadable text hrest 0⟩

/-- A session ends, with no more tokens than its source has characters. -/
theorem Session.last_scanAll {s : Session} {cursor : Cursor} (hstate : s.state = .ready cursor)
    {source : Source} (h : source.Stands cursor) :
    s.scanAll.scans.length ≤ cursor.rest.length ∧
      (s.scanAll.last = .exhausted ∨ ∃ d, s.scanAll.last = .fatal d) := by
  obtain ⟨found, -, htokens, hlast, hlength⟩ :=
    Scanner.scanAll_agrees h hstate (Nat.lt_succ_self _) (Nat.lt_succ_self _)
  refine ⟨?_, ?_⟩
  · rwa [htokens, List.length_map] at hlength
  · rw [hlast]
    cases found.failure? with
    | none => exact Or.inl rfl
    | some failure => exact Or.inr ⟨_, rfl⟩

/-- A session goes over to a reader that brings a character, or no failure. -/
theorem Session.attach_of_deliver (s : Session) {reader : Source.Reader} {text : List Char}
    {failure? : Option Source.SourceError} (hdeliver : reader.stream.deliver = ⟨text, failure?⟩)
    (h : text ≠ [] ∨ failure? = none) :
    s.attach reader = (.ok (), { s with state := .ready ⟨.start, text, failure?⟩ }) ∧
      ∃ source, Source.ofReader reader s.capacity = .ok source ∧
        source.Stands ⟨.start, text, failure?⟩ := by
  have hattach := s.attach_eq reader
  have hopen := Source.stands_ofReader reader s.capacity
  rw [hdeliver] at hattach hopen
  cases text with
  | cons c text => exact ⟨hattach, hopen⟩
  | nil =>
    obtain rfl : failure? = none := h.resolve_left fun hne => hne rfl
    exact ⟨hattach, hopen⟩

/-- Whatever a reader brings, a buffer is filled in as many calls as it can bring
results, and scanning ends.  Of a text with `rest` behind it, each scan ends if
its loops are given more rounds than there are characters; one that finds a lexeme
has passed a character; and scans, one more than there are characters, find what a
session finds, up to the end or to the failure.  All this holds of any lexicon, and
of any character, NUL included. -/
theorem never_stalls (lexicon : Lexicon) (reader : Source.Reader) (capacity : Nat) :
    (∀ (d : Source.Decoder) (need rounds : Nat), d.reader.size < rounds →
      d.fillWithin rounds need = some (d.fill need)) ∧
    ∃ (text : List Char) (rest : List Source.Signal),
      reader.signals = (Text.Utf8.encode text).map .byte ++ rest ∧
      (rest = [] ∨ Source.Unreadable rest) ∧
      let run := (Session.new lexicon capacity).read reader
      run.scans.length ≤ text.length ∧ (run.last = .exhausted ∨ ∃ d, run.last = .fatal d) ∧
      ((∃ e, Source.ofReader reader capacity = .error e ∧ text = []) ∨
        ∃ source, Source.ofReader reader capacity = .ok source ∧ source.left = text ∧
          ∀ rounds, text.length < rounds →
            (∀ s, Scanner.Reached lexicon rounds source s →
              ∃ result, Scanner.scan lexicon rounds s = some result ∧
                ∀ verdict lexeme start next, result = .found verdict lexeme start next →
                  ∃ passed, passed ≠ [] ∧ s.left = passed ++ next.left) ∧
            ∃ found, Scanner.scanAll lexicon rounds (text.length + 1) source = some found ∧
              found.tokens = run.scans.map Prod.snd ∧
              run.last = found.failure?.elim .exhausted fun failure => .fatal failure.report) := by
  refine ⟨fun d need rounds h => d.fillWithin_eq need h, ?_⟩
  obtain ⟨text, rest, hsignals, hrest⟩ := Source.exists_text reader.signals
  obtain ⟨failure?, hdeliver⟩ := Source.deliver_of_text hsignals hrest
  refine ⟨text, rest, hsignals, hrest, ?_⟩
  by_cases hopens : text ≠ [] ∨ failure? = none
  · let s : Session :=
      { Session.new lexicon capacity with state := .ready ⟨.start, text, failure?⟩ }
    have hstate : s.state = .ready ⟨.start, text, failure?⟩ := rfl
    obtain ⟨hattach, source, hsource, hstands⟩ :=
      (Session.new lexicon capacity).attach_of_deliver hdeliver hopens
    have hrun : (Session.new lexicon capacity).read reader = s.scanAll := by
      rw [Session.read, hattach]
    obtain ⟨hlength, hlast⟩ := Session.last_scanAll hstate hstands
    rw [hrun]
    refine ⟨hlength, hlast, Or.inr ⟨source, hsource, Source.left_eq hstands, ?_⟩⟩
    intro rounds hrounds
    constructor
    · intro t ht
      obtain ⟨cursor, hcursor, hle⟩ := Scanner.stands_of_reached ht hstands hrounds
      exact Scanner.scan_progress lexicon hcursor (Nat.lt_of_le_of_lt hle hrounds)
    · obtain ⟨found, hall, htokens, hend, -⟩ :=
        Scanner.scanAll_agrees hstands hstate hrounds (Nat.lt_succ_self _)
      exact ⟨found, hall, htokens, hend⟩
  · rw [not_or, Classical.not_not] at hopens
    obtain ⟨rfl, hfailure⟩ := hopens
    obtain ⟨e, rfl⟩ := Option.ne_none_iff_exists'.mp hfailure
    have hopen := Source.stands_ofReader reader capacity
    have hattach := (Session.new lexicon capacity).attach_eq reader
    rw [hdeliver] at hopen hattach
    rw [Session.read, hattach]
    exact ⟨Nat.le_refl 0, Or.inr ⟨_, rfl⟩, Or.inl ⟨e, hopen, rfl⟩⟩

end LexicalFrontEnd
