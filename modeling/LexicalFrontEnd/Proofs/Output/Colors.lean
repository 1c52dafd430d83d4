import LexicalFrontEnd.Proofs.Output.Terminal
import LexicalFrontEnd.Proofs.Text.Quoted
import LexicalFrontEnd.Proofs.Text.Utf8

/-!
Colours are decoration.

A terminal that gets a control sequence for style shows nothing of it, but makes
what comes next stand out, or stop standing out.  In colour, a report is the plain one
with such sequences around some pieces that stay within a line (`Decorated`).  What is
shown is therefore the same, and no line ends while something stands out
(`performAll_decorated`).
-/

namespace LexicalFrontEnd
namespace Output

/-! ## What a terminal shows -/

def escape : UInt8 := 0x1B

def newline : UInt8 := 0x0A

/-- The parameters of a control sequence for style, from behind its bracket up to the
`m` that ends it, and what stands behind that. -/
def parameters? : List UInt8 → Option (List UInt8 × List UInt8)
  | [] => none
  | b :: text =>
    if b = 0x6D then some ([], text)
    else if (0x30 ≤ b ∧ b ≤ 0x39) ∨ b = 0x3B then
      (parameters? text).map fun found => (b :: found.1, found.2)
    else none

/-- The parameters of the control sequence for style that a text starts with, and what
stands behind the sequence. -/
def sequence? : List UInt8 → Option (List UInt8 × List UInt8)
  | first :: second :: text =>
    if first = escape ∧ second = 0x5B then parameters? text else none
  | _ => none

def resets (parameters : List UInt8) : Bool := parameters == [] || parameters == [0x30]

theorem length_lt_of_parameters {text : List UInt8} {found : List UInt8 × List UInt8}
    (h : parameters? text = some found) : found.2.length < text.length := by
  induction text generalizing found with
  | nil => cases h
  | cons b text ih =>
    rw [parameters?] at h
    split at h
    · obtain rfl := Option.some.inj h
      exact Nat.lt_succ_self _
    · split at h
      · obtain ⟨tail, htail, rfl⟩ := Option.map_eq_some_iff.mp h
        have hlt : tail.2.length < text.length := ih htail
        exact Nat.lt_succ_of_lt hlt
      · cases h

theorem length_lt_of_sequence {text : List UInt8} {found : List UInt8 × List UInt8}
    (h : sequence? text = some found) : found.2.length < text.length := by
  cases text with
  | nil => cases h
  | cons first text =>
    cases text with
    | nil => cases h
    | cons second text =>
      rw [sequence?] at h
      split at h
      · have := length_lt_of_parameters h
        simp only [List.length_cons]
        omega
      · cases h

/-- The bytes that a terminal shows of a text, each with whether it stands out.  Before
the text something stands out if `styled`. -/
def cells (styled : Bool) : List UInt8 → List (UInt8 × Bool)
  | [] => []
  | b :: text =>
    match h : sequence? (b :: text) with
    | some found =>
      have : found.2.length < text.length + 1 := length_lt_of_sequence h
      cells (!resets found.1) found.2
    | none => (b, styled) :: cells styled text
termination_by text => text.length

def withoutStyles (text : List UInt8) : List UInt8 := (cells false text).map Prod.fst

section

variable {styled : Bool} {text plain behind : List UInt8}

theorem cells_of_sequence {found : List UInt8 × List UInt8} (h : sequence? text = some found) :
    cells styled text = cells (!resets found.1) found.2 := by
  cases text with
  | nil => cases h
  | cons b text =>
    rw [cells]
    split
    · rename_i found' h'
      obtain rfl := Option.some.inj (h'.symm.trans h)
      rfl
    · rename_i h'
      cases h'.symm.trans h

theorem cells_cons_of_ne {b : UInt8} (h : b ≠ escape) :
    cells styled (b :: text) = (b, styled) :: cells styled text := by
  have hnone : sequence? (b :: text) = none := by
    cases text with
    | nil => rfl
    | cons second text => rw [sequence?, if_neg fun hstart => h hstart.1]
  rw [cells]
  split
  · rename_i h'
    cases hnone.symm.trans h'
  · rfl

theorem cells_append (h : escape ∉ plain) :
    cells styled (plain ++ text) = plain.map (fun b => (b, styled)) ++ cells styled text := by
  induction plain with
  | nil => rfl
  | cons b plain ih =>
    rw [List.cons_append, cells_cons_of_ne (List.ne_of_not_mem_cons h).symm,
      ih (List.not_mem_of_not_mem_cons h)]
    rfl

end

/-! ## Control sequences -/

/-- Bytes that are a control sequence with the parameters, whatever stands behind them. -/
structure IsControl (control parameters : List UInt8) : Prop where
  starts : ∃ tail, control = escape :: tail ∧ escape ∉ tail
  reads : ∀ text, sequence? (control ++ text) = some (parameters, text)

theorem isControl_start (style : Style) :
    ∃ parameters, resets parameters = false ∧
      IsControl (Text.Utf8.encode style.start.toList) parameters := by
  cases style with
  | warning => exact ⟨[0x31, 0x3B, 0x33, 0x33], rfl, ⟨_, rfl, by decide⟩, fun _ => rfl⟩
  | error => exact ⟨[0x31, 0x3B, 0x33, 0x31], rfl, ⟨_, rfl, by decide⟩, fun _ => rfl⟩
  | critical => exact ⟨[0x31, 0x3B, 0x33, 0x35], rfl, ⟨_, rfl, by decide⟩, fun _ => rfl⟩
  | strong => exact ⟨[0x31], rfl, ⟨_, rfl, by decide⟩, fun _ => rfl⟩
  | place => exact ⟨[0x31, 0x3B, 0x33, 0x34], rfl, ⟨_, rfl, by decide⟩, fun _ => rfl⟩

theorem isControl_reset : IsControl (Text.Utf8.encode Style.reset.toList) [0x30] :=
  ⟨⟨_, rfl, by decide⟩, fun _ => rfl⟩

section

variable {control parameters front more before text : List UInt8}
  {found : List UInt8 × List UInt8}

theorem exists_cons_of_sequence (h : sequence? text = some found) :
    ∃ tail, text = escape :: tail := by
  cases text with
  | nil => cases h
  | cons first text =>
    cases text with
    | nil => cases h
    | cons second text =>
      rw [sequence?] at h
      split at h
      · rename_i hstart
        exact ⟨_, by rw [hstart.1]⟩
      · cases h

/-- A control sequence is not within a text without one and does not start in it. -/
theorem split_plain (hfront : escape ∉ front) (hsplit : front ++ more = before ++ text)
    (hfound : sequence? text = some found) : ∃ middle, more = middle ++ text := by
  obtain ⟨tail, rfl⟩ := exists_cons_of_sequence hfound
  rcases List.append_eq_append_iff.mp hsplit with ⟨middle, -, hmore⟩ | ⟨middle, rfl, htext⟩
  · exact ⟨middle, hmore⟩
  · cases middle with
    | nil => exact ⟨[], htext.symm⟩
    | cons b middle =>
      obtain rfl := (List.cons.inj htext).1
      exact absurd (List.mem_append_right _ List.mem_cons_self) hfront

/-- A control sequence of a text that starts with one is that, or stands behind it. -/
theorem IsControl.split (hcontrol : IsControl control parameters)
    (hsplit : control ++ more = before ++ text) (hfound : sequence? text = some found) :
    found = (parameters, more) ∨ ∃ middle, more = middle ++ text := by
  cases before with
  | nil =>
    have htext : text = control ++ more := hsplit.symm
    rw [htext, hcontrol.reads] at hfound
    exact Or.inl (Option.some.inj hfound).symm
  | cons b before =>
    obtain ⟨tail, rfl, htail⟩ := hcontrol.starts
    exact Or.inr (split_plain htail (List.cons.inj hsplit).2 hfound)

end

/-! ## Decorated texts -/

def Lacks (c : Char) (text : String) : Prop := c ∉ text.toList

instance (c : Char) (text : String) : Decidable (Lacks c text) :=
  inferInstanceAs (Decidable (_ ∉ _))

@[simp] theorem lacks_append {c : Char} {first second : String} :
    Lacks c (first ++ second) ↔ Lacks c first ∧ Lacks c second := by
  rw [Lacks, String.toList_append, List.mem_append, not_or]
  rfl

theorem lacks_digits {c : Char} (hc : ∀ d < 16, c ≠ Nat.digitChar d) (n : Nat) :
    Lacks c n.repr := by
  rw [Lacks, Nat.toList_repr]
  exact Text.notMem_decimal hc n

/-- Pieces of text in colour, and the same pieces without.  What is coloured has no
control sequence of its own and stays within a line. -/
inductive Decorated : List String → List String → Prop
  | nil : Decorated [] []
  | plain {text : String} {coloured plain : List String} :
    Lacks '\x1b' text → Decorated coloured plain → Decorated (text :: coloured) (text :: plain)
  | painted (style : Style) {text : String} {coloured plain : List String} :
    Lacks '\x1b' text → Lacks '\n' text → Decorated coloured plain →
    Decorated (style.paint true text :: coloured) (style.paint false text :: plain)

theorem escape_notMem_encode {text : String} (h : Lacks '\x1b' text) :
    escape ∉ Text.Utf8.encode text.toList :=
  fun hmem => h (Text.Utf8.mem_of_mem_encode (by decide) hmem)

theorem newline_notMem_encode {text : String} (h : Lacks '\n' text) :
    newline ∉ Text.Utf8.encode text.toList :=
  fun hmem => h (Text.Utf8.mem_of_mem_encode (by decide) hmem)

theorem encode_paint (style : Style) (text : String) :
    Text.Utf8.encode (style.paint true text).toList =
      Text.Utf8.encode style.start.toList ++
        (Text.Utf8.encode text.toList ++ Text.Utf8.encode Style.reset.toList) := by
  rw [Style.paint, if_pos rfl, String.toList_append, String.toList_append,
    Text.Utf8.encode_append, Text.Utf8.encode_append, List.append_assoc]

namespace Decorated

variable {coloured plain coloured' plain' : List String}

theorem append (h : Decorated coloured plain) (h' : Decorated coloured' plain') :
    Decorated (coloured ++ coloured') (plain ++ plain') := by
  induction h with
  | nil => exact h'
  | plain htext _ ih => exact .plain htext ih
  | painted style htext hline _ ih => exact .painted style htext hline ih

theorem flatMap {α : Type} {f g : α → List String} {xs : List α}
    (h : ∀ x ∈ xs, Decorated (f x) (g x)) : Decorated (xs.flatMap f) (xs.flatMap g) := by
  induction xs with
  | nil => exact .nil
  | cons x xs ih =>
    rw [List.forall_mem_cons] at h
    exact h.1.append (ih h.2)

theorem escape_notMem (h : Decorated coloured plain) : escape ∉ bytesOf plain := by
  induction h with
  | nil => exact List.not_mem_nil
  | plain htext _ ih | painted _ htext _ _ ih =>
    rw [bytesOf_cons, List.mem_append, not_or]
    exact ⟨escape_notMem_encode htext, ih⟩

/-- The same bytes are shown, nothing stands out where a line ends, and nothing does
behind them. -/
theorem exists_cells (h : Decorated coloured plain) :
    ∃ shown, (∀ more, cells false (bytesOf coloured ++ more) = shown ++ cells false more) ∧
      shown.map Prod.fst = bytesOf plain ∧ ∀ cell ∈ shown, cell.1 = newline → cell.2 = false := by
  induction h with
  | nil => exact ⟨[], fun _ => rfl, rfl, fun _ h => absurd h List.not_mem_nil⟩
  | @plain text _ _ htext _ ih =>
    obtain ⟨shown, hcells, hbytes, hline⟩ := ih
    refine ⟨(Text.Utf8.encode text.toList).map (fun b => (b, false)) ++ shown, ?_, ?_, ?_⟩
    · intro more
      rw [bytesOf_cons, List.append_assoc, cells_append (escape_notMem_encode htext), hcells,
        List.append_assoc]
    · rw [List.map_append, hbytes, List.map_map, bytesOf_cons]
      exact congrArg (· ++ _) (List.map_id _)
    · intro cell hcell
      rcases List.mem_append.mp hcell with hcell | hcell
      · obtain ⟨b, -, rfl⟩ := List.mem_map.mp hcell
        exact fun _ => rfl
      · exact hline cell hcell
  | @painted style text _ _ htext hwithin _ ih =>
    obtain ⟨shown, hcells, hbytes, hline⟩ := ih
    obtain ⟨parameters, hparameters, hstart⟩ := isControl_start style
    refine ⟨(Text.Utf8.encode text.toList).map (fun b => (b, true)) ++ shown, ?_, ?_, ?_⟩
    · intro more
      rw [bytesOf_cons, encode_paint]
      simp only [List.append_assoc]
      rw [cells_of_sequence (hstart.reads _), hparameters, Bool.not_false,
        cells_append (escape_notMem_encode htext), cells_of_sequence (isControl_reset.reads _)]
      exact congrArg (_ ++ ·) (hcells more)
    · rw [List.map_append, hbytes, List.map_map, bytesOf_cons]
      exact congrArg (· ++ _) (List.map_id _)
    · intro cell hcell
      rcases List.mem_append.mp hcell with hcell | hcell
      · obtain ⟨b, hb, rfl⟩ := List.mem_map.mp hcell
        exact fun hnewline => absurd (hnewline ▸ hb) (newline_notMem_encode hwithin)
      · exact hline cell hcell

/-- A control sequence that makes something stand out is that of a painted piece, and a
reset stands behind the piece. -/
theorem exists_reset (h : Decorated coloured plain) {before text : List UInt8}
    {found : List UInt8 × List UInt8} (hsplit : bytesOf coloured = before ++ text)
    (hfound : sequence? text = some found) (hstyle : resets found.1 = false) :
    ∃ inner rest, found.2 = inner ++ Text.Utf8.encode Style.reset.toList ++ rest ∧
      newline ∉ inner := by
  induction h generalizing before with
  | nil =>
    have htext : text = [] := (List.nil_eq_append_iff.mp hsplit).2
    rw [htext] at hfound
    cases hfound
  | plain htext _ ih =>
    obtain ⟨middle, hmiddle⟩ := split_plain (escape_notMem_encode htext) hsplit hfound
    exact ih hmiddle
  | painted style htext hwithin _ ih =>
    obtain ⟨parameters, -, hstart⟩ := isControl_start style
    rw [bytesOf_cons, encode_paint, List.append_assoc, List.append_assoc] at hsplit
    -- The sequence starts the piece, or it would be the reset, or it stands behind the piece.
    rcases hstart.split hsplit hfound with rfl | ⟨middle, hmiddle⟩
    · exact ⟨_, _, (List.append_assoc _ _ _).symm, newline_notMem_encode hwithin⟩
    · obtain ⟨middle, hmiddle⟩ := split_plain (escape_notMem_encode htext) hmiddle hfound
      rcases isControl_reset.split hmiddle hfound with rfl | ⟨middle, hmiddle⟩
      · cases hstyle
      · exact ih hmiddle

end Decorated

/-! ## Reports -/

def Unescaped (d : Diagnostic) : Prop :=
  Lacks '\x1b' d.message ∧ ∀ note ∈ d.notes, Lacks '\x1b' note

instance (d : Diagnostic) : Decidable (Unescaped d) := inferInstanceAs (Decidable (_ ∧ _))

theorem escape_lacks_digits (n : Nat) : Lacks '\x1b' n.repr := lacks_digits (by decide) n

theorem newline_lacks_digits (n : Nat) : Lacks '\n' n.repr := lacks_digits (by decide) n

theorem escape_lacks_render (o : Operator) : Lacks '\x1b' o.render := by
  rw [Lacks, Operator.render, String.toList_ofList]
  cases o <;> decide

/-- The headline and the place of a report. -/
theorem decorated_head (severity : Severity) (problem : Problem) {message : String} (p : Position)
    (h : Lacks '\x1b' message) :
    let head (colors : Bool) :=
      [(Style.ofSeverity severity).paint colors severity.render,
        Style.strong.paint colors s!"[{problem.code}]", s!": {message}\n",
        "  --> ", Style.place.paint colors p.render, "\n"]
    Decorated (head true) (head false) := by
  have hseverity : Lacks '\x1b' severity.render ∧ Lacks '\n' severity.render := by
    cases severity <;> decide
  have hcode : Lacks '\x1b' s!"[{problem.code}]" ∧ Lacks '\n' s!"[{problem.code}]" := by
    cases problem <;> decide
  have hmessage : Lacks '\x1b' s!": {message}\n" := by
    simp only [toString, lacks_append, h, and_true]
    decide
  have hplace : Lacks '\x1b' p.render ∧ Lacks '\n' p.render := by
    simp only [Position.render, toString, lacks_append, escape_lacks_digits,
      newline_lacks_digits, true_and, and_true]
    decide
  exact .painted _ hseverity.1 hseverity.2 (.painted _ hcode.1 hcode.2
    (.plain hmessage (.plain (by decide) (.painted _ hplace.1 hplace.2 (.plain (by decide) .nil)))))

theorem decorated_note {note : String} (h : Lacks '\x1b' note) :
    let line (colors : Bool) := ["  = ", Style.strong.paint colors "note", s!": {note}\n"]
    Decorated (line true) (line false) := by
  have htext : Lacks '\x1b' s!": {note}\n" := by
    simp only [toString, lacks_append, h, and_true]
    decide
  exact .plain (by decide) (.painted _ (by decide) (by decide) (.plain htext .nil))

theorem decorated_report {d : Diagnostic} (h : Unescaped d) :
    Decorated (report true d) (report false d) := by
  have hhead := decorated_head d.severity d.problem d.position h.1
  refine ((hhead.append ?_).append (.flatMap fun note hmem => decorated_note (h.2 note hmem))).append
    (.plain (by decide) .nil)
  cases d.expected? with
  | none => exact .nil
  | some o =>
    have hexpected : Lacks '\x1b' s!"  = expected: `{o.render}`\n" := by
      simp only [toString, lacks_append, escape_lacks_render, and_true]
      decide
    exact .plain hexpected .nil

theorem lacks_emitted (warnings : Nat) :
    Lacks '\x1b' s!"{warnings} warning{plural warnings} emitted" := by
  have hplural : Lacks '\x1b' (plural warnings) := by
    rw [plural]
    split <;> decide
  simp only [toString, lacks_append, escape_lacks_digits, hplural, true_and]
  decide

theorem lacks_causes (errors : Nat) :
    Lacks '\x1b' (if errors = 1 then "previous error" else s!"{errors} previous errors") := by
  split
  · decide
  · simp only [toString, lacks_append, escape_lacks_digits, true_and]
    decide

theorem decorated_summary (errors warnings : Nat) :
    Decorated (summary true errors warnings) (summary false errors warnings) := by
  have hemitted := lacks_emitted warnings
  by_cases herrors : 0 < errors
  · have hcauses := lacks_causes errors
    have halso : Lacks '\x1b'
        (if 0 < warnings then "; " ++ s!"{warnings} warning{plural warnings} emitted" else "") := by
      split
      · exact lacks_append.mpr ⟨by decide, hemitted⟩
      · decide
    rw [summary, summary, if_pos herrors, if_pos herrors]
    refine .painted .error (by decide) (by decide) (.plain ?_ .nil)
    simp only [toString, lacks_append] at hcauses halso ⊢
    simp only [hcauses, halso, and_true]
    decide
  · by_cases hwarnings : 0 < warnings
    · rw [summary, summary, if_neg herrors, if_pos hwarnings, if_neg herrors, if_pos hwarnings]
      refine .painted .warning (by decide) (by decide) (.plain ?_ .nil)
      simp only [toString, lacks_append] at hemitted ⊢
      simp only [hemitted, and_true]
      decide
    · rw [summary, summary, if_neg herrors, if_neg hwarnings, if_neg herrors, if_neg hwarnings]
      exact .nil

theorem Terminal.Call.decorated_pieces {call : Terminal.Call}
    (h : ∀ d ∈ call.diagnostics, Unescaped d) :
    Decorated (call.pieces true) (call.pieces false) := by
  cases call with
  | emit d => exact decorated_report (h d (List.mem_singleton_self d))
  | emitAll ds => exact .flatMap fun d hd => decorated_report (h d hd)
  | emitSummary errors warnings => exact decorated_summary errors warnings
  | flush => exact .nil

/-- Deleting the control sequences from what is written in colour leaves what is written
without, and that has none.  Whatever makes something stand out is taken back before
the line ends, so nothing stands out where a line ends, nor does anything that is
written behind all of it because of what came before. -/
theorem Terminal.performAll_decorated (calls : List Terminal.Call)
    (hcalls : ∀ call ∈ calls, ∀ d ∈ call.diagnostics, Unescaped d) :
    let shown := ((Terminal.mk true (.ofLimit none)).performAll calls).sink.written.toList
    let plain := ((Terminal.mk false (.ofLimit none)).performAll calls).sink.written.toList
    withoutStyles shown = plain ∧ escape ∉ plain ∧
    (∀ before text found, shown = before ++ text → sequence? text = some found →
      resets found.1 = false →
      ∃ inner rest, found.2 = inner ++ Text.Utf8.encode Style.reset.toList ++ rest ∧
        newline ∉ inner) ∧
    (∀ cell ∈ cells false shown, cell.1 = newline → cell.2 = false) ∧
    ∀ more, cells false (shown ++ more) = cells false shown ++ cells false more := by
  intro shown plain
  have hwritten (colors : Bool) :
      ((Terminal.mk colors (.ofLimit none)).performAll calls).sink.written.toList =
        bytesOf (calls.flatMap (Terminal.Call.pieces colors)) := by
    rw [performAll_eq]
    exact Sink.toList_written_keep rfl _
  have hdecorated : Decorated (calls.flatMap (Terminal.Call.pieces true))
      (calls.flatMap (Terminal.Call.pieces false)) :=
    .flatMap fun call hcall => Call.decorated_pieces (hcalls call hcall)
  obtain ⟨content, hcells, hbytes, hlines⟩ := hdecorated.exists_cells
  have hcontent : cells false shown = content := by
    have hall := hcells []
    rw [List.append_nil, ← hwritten, cells, List.append_nil] at hall
    exact hall
  refine ⟨?_, ?_, ?_, ?_, ?_⟩
  · rw [withoutStyles, hcontent, hbytes]
    exact (hwritten false).symm
  · show escape ∉ Array.toList _
    rw [hwritten]
    exact hdecorated.escape_notMem
  · intro before text found hsplit
    exact hdecorated.exists_reset ((hwritten true).symm.trans hsplit)
  · rw [hcontent]
    exact hlines
  · intro more
    rw [hcontent, ← hcells, ← hwritten]

/-- A message of two lines, a critical problem with a note, and the summary of both. -/
theorem Terminal.performAll_decorated_two_problems :
    let missing : Diagnostic :=
      ⟨.missingOperator, .error, "something\nis missing", ⟨2, 7⟩, some .semicolon, []⟩
    let unreadable : Diagnostic := ⟨.unreadableSource, .critical, "no text", ⟨3, 1⟩, none, ["cut"]⟩
    let calls : List Terminal.Call := [.emit missing, .emitAll [unreadable], .emitSummary 2 0]
    let shown := ((Terminal.mk true (.ofLimit none)).performAll calls).sink.written.toList
    let plain := ((Terminal.mk false (.ofLimit none)).performAll calls).sink.written.toList
    (∀ call ∈ calls, ∀ d ∈ call.diagnostics, Unescaped d) ∧
      withoutStyles shown = plain ∧ escape ∈ shown ∧ escape ∉ plain := by
  intro missing unreadable calls shown plain
  have hcalls : ∀ call ∈ calls, ∀ d ∈ call.diagnostics, Unescaped d := by decide
  obtain ⟨hshown, hplain, -⟩ := performAll_decorated calls hcalls
  exact ⟨hcalls, hshown, by decide +kernel, hplain⟩

end Output
end LexicalFrontEnd
