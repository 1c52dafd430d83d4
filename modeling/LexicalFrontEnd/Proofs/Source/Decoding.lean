import LexicalFrontEnd.Proofs.Position
import LexicalFrontEnd.Proofs.Text.Longest

/-!
What a source makes of its bytes.

A source over bytes that no call fails to bring gives the longest text that the
bytes start with, one character after another, and then says that there is no
more, or that what follows is no UTF-8.  Calls may ask for the next character in
any order (`ofReader_decodes`): a source stands at a character (`At`), which
looking ahead does not change (`at_peek`) and which moving on changes to the next
one, if that can be had (`at_advance`).
-/

namespace LexicalFrontEnd

theorem Position.placeAfter_take (text : List Char) (k : Nat) :
    Source.placeAfter (start.afterText (text.take k)) text[k]? =
      start.afterText (text.take (k + 1)) := by
  rw [List.take_add_one, afterText_append]
  cases text[k]? <;> rfl

namespace Source

open Text.Utf8 (encode Blocked LongestText)

/-- A text with bytes behind it tells what its character `k` is: it has one, or
nothing stands behind it. -/
def Settled (text : List Char) (rest : List UInt8) (k : Nat) : Prop :=
  k < text.length ∨ rest = []

instance (text : List Char) (rest : List UInt8) (k : Nat) : Decidable (Settled text rest k) :=
  inferInstanceAs (Decidable (_ ∨ _))

/-- What asking for the character `k` of a text comes to if `rest` stands behind
the text. -/
def answer (text : List Char) (rest : List UInt8) (k : Nat) : Except SourceError (Option Char) :=
  if Settled text rest k then .ok text[k]? else .error (.invalidUtf8 (encode text).length)

/-! ## Streams before a character -/

theorem Signal.failureAmong_bytes (n : Nat) (bytes : List UInt8) :
    failureAmong n (bytes.map .byte) = none := by
  rw [← List.append_nil (bytes.map _), failureAmong_bytes_append, failureAmong_nil]
  rfl

namespace Stream

variable {text : List Char} {rest : List UInt8} {k : Nat}

theorem await_bytes (n : Nat) (bytes : List UInt8) (offset : Nat) :
    await n ⟨bytes.map .byte, offset⟩ = (.ok (), ⟨bytes.map .byte, offset⟩) := by
  rw [await, Signal.failureAmong_bytes]

def before (text : List Char) (rest : List UInt8) (k : Nat) : Stream :=
  ⟨(encode (text.drop k) ++ rest).map .byte, (encode (text.take k)).length⟩

theorem before_of_le (h : text.length ≤ k) :
    before text rest k = ⟨rest.map .byte, (encode text).length⟩ := by
  rw [before, List.drop_of_length_le h, List.take_of_length_le h]
  rfl

theorem before_succ (h : text.length ≤ k) : before text rest (k + 1) = before text rest k := by
  rw [before_of_le h, before_of_le (Nat.le_succ_of_le h)]

theorem next_before_of_lt (h : k < text.length) :
    (before text rest k).next = (.ok text[k]?, before text rest (k + 1)) := by
  have hencode : encode (text.drop k) =
      String.utf8EncodeChar text[k] ++ encode (text.drop (k + 1)) := by
    rw [List.drop_eq_getElem_cons h, Text.Utf8.encode_cons]
  have hpassed : (encode (text.take (k + 1))).length =
      (encode (text.take k)).length + (String.utf8EncodeChar text[k]).length := by
    rw [List.take_succ_eq_append_getElem h, Text.Utf8.encode_append, List.length_append]
    exact congrArg _ (congrArg _ (List.append_nil _))
  rw [before, hencode, List.append_assoc, List.map_append, next_of_encoded, ← hpassed,
    List.getElem?_eq_getElem h]
  rfl

theorem next_before_of_settled (h : Settled text rest k) :
    (before text rest k).next = (.ok text[k]?, before text rest (k + 1)) := by
  rcases Nat.lt_or_ge k text.length with hlt | hle
  · exact next_before_of_lt hlt
  · obtain rfl : rest = [] := h.resolve_left (Nat.not_lt.mpr hle)
    rw [List.getElem?_eq_none hle, before_succ hle, before_of_le hle]
    rfl

theorem next_before_of_not_settled (hrest : Blocked rest) (h : ¬Settled text rest k) :
    (before text rest k).next =
      (.error (.invalidUtf8 (encode text).length), before text rest k) := by
  rw [Settled, not_or, Nat.not_lt] at h
  rw [before_of_le h.1, next_of_unreadable (unreadable_of_blocked hrest h.2), fault,
    Signal.failureAmong_bytes, await_bytes]

end Stream

/-! ## Sources at a character -/

/-- The character `k` is the next one that the source has not passed, whether it
was looked at or not. -/
inductive Ahead (text : List Char) (rest : List UInt8) (k : Nat) (s : Source) : Prop
  | unread : s.lookahead = .unread → s.decoder.stream = .before text rest k → Ahead text rest k s
  | read : s.lookahead = .read text[k]? → Settled text rest k →
    s.decoder.stream = .before text rest (k + 1) → Ahead text rest k s

/-- The source stands at the character `i` of the text, or behind the text, which
is then all that there is. -/
structure At (text : List Char) (rest : List UInt8) (i : Nat) (s : Source) : Prop where
  wellFormed : s.decoder.buffer.WellFormed
  ahead : s.Ahead text rest (i + 1)
  current : s.current? = text[i]?
  position : s.position = Position.start.afterText (text.take (i + 1))
  settled : Settled text rest i

section At

variable {text : List Char} {rest : List UInt8} {i k : Nat} {s : Source}

theorem pull_of_unread (h : s.lookahead = .unread) :
    s.pull = (s.decoder.next.1, { s with decoder := s.decoder.next.2, lookahead := .unread }) := by
  obtain ⟨decoder, lookahead, current?, position⟩ := s
  obtain rfl : lookahead = .unread := h
  rfl

theorem pull_of_settled (hwf : s.decoder.buffer.WellFormed) (h : s.Ahead text rest k)
    (hsettled : Settled text rest k) :
    ∃ decoder, s.pull = (.ok text[k]?, { s with decoder, lookahead := .unread }) ∧
      decoder.buffer.WellFormed ∧ decoder.stream = .before text rest (k + 1) := by
  cases h with
  | unread hlookahead hstream =>
    obtain ⟨hnext, hwf⟩ := s.decoder.next_refines hwf
    rw [hstream, Stream.next_before_of_settled hsettled] at hnext
    obtain ⟨hresult, hstream⟩ := Prod.mk.inj hnext
    rw [pull_of_unread hlookahead, hresult]
    exact ⟨_, rfl, hwf, hstream⟩
  | read hlookahead _ hstream =>
    rw [pull, hlookahead]
    exact ⟨_, rfl, hwf, hstream⟩

theorem pull_of_not_settled (hrest : Blocked rest) (hwf : s.decoder.buffer.WellFormed)
    (h : s.Ahead text rest k) (hsettled : ¬Settled text rest k) :
    ∃ decoder, s.pull =
        (.error (.invalidUtf8 (encode text).length), { s with decoder, lookahead := .unread }) ∧
      decoder.buffer.WellFormed ∧ decoder.stream = .before text rest k := by
  cases h with
  | unread hlookahead hstream =>
    obtain ⟨hnext, hwf⟩ := s.decoder.next_refines hwf
    rw [hstream, Stream.next_before_of_not_settled hrest hsettled] at hnext
    obtain ⟨hresult, hstream⟩ := Prod.mk.inj hnext
    rw [pull_of_unread hlookahead, hresult]
    exact ⟨_, rfl, hwf, hstream⟩
  -- What was looked at is settled.
  | read _ hread _ => exact absurd hread hsettled

theorem isAtEnd_iff (h : s.At text rest i) : s.isAtEnd = true ↔ text.length ≤ i := by
  rw [isAtEnd, h.current, Option.isNone_iff_eq_none, List.getElem?_eq_none_iff]

theorem settled_of_end (h : s.At text rest i) (hend : s.isAtEnd = true) (k : Nat) :
    Settled text rest k :=
  Or.inr (h.settled.resolve_left (Nat.not_lt.mpr ((isAtEnd_iff h).mp hend)))

theorem answer_of_end (h : s.At text rest i) (hend : s.isAtEnd = true) :
    answer text rest (i + 1) = .ok none := by
  rw [answer, if_pos (settled_of_end h hend _),
    List.getElem?_eq_none (Nat.le_succ_of_le ((isAtEnd_iff h).mp hend))]

theorem at_succ_of_end (h : s.At text rest i) (hend : s.isAtEnd = true) :
    s.At text rest (i + 1) := by
  -- All counts of characters that reach the end of the text are alike.
  have hle := (isAtEnd_iff h).mp hend
  have hle' : text.length ≤ i + 1 := Nat.le_succ_of_le hle
  have hsettled (k : Nat) : Settled text rest k := settled_of_end h hend k
  refine ⟨h.wellFormed, ?_, ?_, ?_, hsettled _⟩
  · rcases h.ahead with ⟨hlookahead, hstream⟩ | ⟨hlookahead, -, hstream⟩
    · exact .unread hlookahead (hstream.trans (Stream.before_succ hle').symm)
    · have hle'' : text.length ≤ i + 1 + 1 := Nat.le_succ_of_le hle'
      refine .read ?_ (hsettled _) (hstream.trans (Stream.before_succ hle'').symm)
      rw [hlookahead, List.getElem?_eq_none hle', List.getElem?_eq_none hle'']
  · rw [h.current, List.getElem?_eq_none hle, List.getElem?_eq_none hle']
  · rw [h.position, List.take_of_length_le hle', List.take_of_length_le (Nat.le_succ_of_le hle')]

/-- Moving on tells whether there is a next character, and goes there if that is
settled. -/
theorem at_advance (hrest : Blocked rest) (h : s.At text rest i) :
    s.advance.1 = (answer text rest (i + 1)).map Option.isSome ∧
      s.advance.2.At text rest (if Settled text rest (i + 1) then i + 1 else i) := by
  by_cases hend : s.isAtEnd = true
  · rw [advance, if_pos hend, answer_of_end h hend, if_pos (settled_of_end h hend _)]
    exact ⟨rfl, at_succ_of_end h hend⟩
  · rw [advance, if_neg hend, answer]
    by_cases hsettled : Settled text rest (i + 1)
    · obtain ⟨decoder, hpull, hwf, hstream⟩ := pull_of_settled h.wellFormed h.ahead hsettled
      rw [hpull, if_pos hsettled, if_pos hsettled]
      refine ⟨rfl, hwf, .unread rfl hstream, rfl, ?_, hsettled⟩
      show placeAfter s.position text[i + 1]? = _
      rw [h.position, Position.placeAfter_take]
    · obtain ⟨decoder, hpull, hwf, hstream⟩ :=
        pull_of_not_settled hrest h.wellFormed h.ahead hsettled
      rw [hpull, if_neg hsettled, if_neg hsettled]
      exact ⟨rfl, hwf, .unread rfl hstream, h.current, h.position, h.settled⟩

/-- Looking ahead answers as moving on would, and goes nowhere. -/
theorem at_peek (hrest : Blocked rest) (h : s.At text rest i) :
    s.peek.1 = answer text rest (i + 1) ∧ s.peek.2.At text rest i := by
  by_cases hend : s.isAtEnd = true
  · rw [peek, if_pos hend, answer_of_end h hend]
    exact ⟨rfl, h⟩
  · rw [peek, if_neg hend, answer]
    by_cases hsettled : Settled text rest (i + 1)
    · obtain ⟨decoder, hpull, hwf, hstream⟩ := pull_of_settled h.wellFormed h.ahead hsettled
      rw [hpull, if_pos hsettled]
      exact ⟨rfl, hwf, .read rfl hsettled hstream, h.current, h.position, h.settled⟩
    · obtain ⟨decoder, hpull, hwf, hstream⟩ :=
        pull_of_not_settled hrest h.wellFormed h.ahead hsettled
      rw [hpull, if_neg hsettled]
      exact ⟨rfl, hwf, .unread rfl hstream, h.current, h.position, h.settled⟩

/-- A source is opened at the first character, if that is settled. -/
theorem ofReader_at (hrest : Blocked rest) {r : Reader}
    (h : r.signals = (encode text ++ rest).map .byte) (capacity : Nat) :
    if Settled text rest 0 then ∃ s, ofReader r capacity = .ok s ∧ s.At text rest 0
    else ofReader r capacity = .error (.invalidUtf8 (encode text).length) := by
  have hstream : (Decoder.ofReader r capacity).stream = .before text rest 0 := by
    rw [Decoder.stream_ofReader, Reader.stream, h]
    rfl
  obtain ⟨hnext, hwf⟩ :=
    (Decoder.ofReader r capacity).next_refines (Buffer.wellFormed_empty capacity)
  rw [hstream] at hnext
  rw [ofReader]
  generalize (Decoder.ofReader r capacity).next = answered at hnext hwf
  obtain ⟨result, decoder⟩ := answered
  split
  · rename_i hsettled
    rw [Stream.next_before_of_settled hsettled] at hnext
    obtain ⟨rfl, hstream⟩ := Prod.mk.inj hnext
    exact ⟨_, rfl, hwf, .unread rfl hstream, rfl, Position.placeAfter_take text 0, hsettled⟩
  · rename_i hsettled
    rw [Stream.next_before_of_not_settled hrest hsettled] at hnext
    obtain ⟨rfl, -⟩ := Prod.mk.inj hnext
    rfl

end At

/-! ## Calls in any order -/

inductive Call
  | advance
  | peek
  deriving DecidableEq, Repr

def call (s : Source) : Call → Source
  | .advance => s.advance.2
  | .peek => s.peek.2

def callAll (s : Source) (calls : List Call) : Source := calls.foldl call s

/-- The character that a source stands at after so many calls to move on: it does
not leave the last one if that is not known to be the last. -/
def reached (text : List Char) (rest : List UInt8) (advances : Nat) : Nat :=
  if rest = [] then advances else min advances (text.length - 1)

section Calls

variable {text : List Char} {rest : List UInt8} {n : Nat} {s : Source}

theorem reached_succ (text : List Char) (rest : List UInt8) (n : Nat) :
    reached text rest (n + 1) =
      if Settled text rest (reached text rest n + 1) then reached text rest n + 1
      else reached text rest n := by
  by_cases hnil : rest = []
  · rw [reached, reached, if_pos hnil, if_pos hnil, if_pos (show Settled _ _ _ from Or.inr hnil)]
  · rw [reached, reached, if_neg hnil, if_neg hnil]
    split
    · rename_i hsettled
      have hlt := Or.resolve_right hsettled hnil
      omega
    · rename_i hsettled
      have hle := Nat.not_lt.mp (not_or.mp hsettled).1
      omega

theorem at_callAll (hrest : Blocked rest) (calls : List Call)
    (h : s.At text rest (reached text rest n)) :
    (s.callAll calls).At text rest (reached text rest (n + calls.count .advance)) := by
  induction calls generalizing s n with
  | nil => exact h
  | cons call calls ih =>
    cases call with
    | advance =>
      have hat := (at_advance hrest h).2
      rw [← reached_succ] at hat
      rw [List.count_cons_self, Nat.add_comm _ 1, ← Nat.add_assoc]
      exact ih hat
    | peek =>
      rw [List.count_cons_of_ne (by decide)]
      exact ih (at_peek hrest h).2

end Calls

/-- However bytes come in and whatever calls are made, a source over them goes
through the longest text that they start with.  It counts lines and columns by
the characters up to the current one, and looking ahead tells what moving on
comes to.  Where the text ends with the bytes, it stays at the end; where the
bytes go on, every call fails at the byte behind the text. -/
theorem ofReader_decodes (bytes : List UInt8) (r : Reader) (capacity : Nat)
    (h : r.signals = bytes.map .byte) :
    ∃ text rest, bytes = encode text ++ rest ∧ LongestText text bytes ∧
      if text ≠ [] ∨ rest = [] then ∃ s, ofReader r capacity = .ok s ∧ ∀ calls,
        let t := s.callAll calls
        let i := reached text rest (calls.count .advance)
        let passed := text.take (i + 1)
        t.current? = text[i]? ∧
        (t.isAtEnd = true ↔ text.length ≤ i) ∧
        t.position = ⟨1 + passed.count '\n', (passed.reverse.takeWhile (· != '\n')).length⟩ ∧
        t.peek.1 = answer text rest (i + 1) ∧
        t.peek.2.current? = t.current? ∧ t.peek.2.position = t.position ∧
        t.advance.1 = t.peek.1.map Option.isSome ∧
        t.advance.2.current? = t.peek.1.toOption.getD t.current? ∧
        (t.isAtEnd = true → t.advance = (.ok false, t))
      else ofReader r capacity = .error (.invalidUtf8 0) := by
  obtain ⟨text, rest, rfl, hrest⟩ := Text.Utf8.exists_split bytes
  refine ⟨text, rest, rfl, Text.Utf8.longest_of_blocked hrest, ?_⟩
  have hopened := ofReader_at hrest h capacity
  have hfirst : Settled text rest 0 ↔ text ≠ [] ∨ rest = [] := or_congr_left List.length_pos_iff
  split
  · rename_i hsettled
    rw [if_pos (hfirst.mpr hsettled)] at hopened
    obtain ⟨s, hs, hat⟩ := hopened
    refine ⟨s, hs, fun calls => ?_⟩
    have hreached : reached text rest 0 = 0 := by
      unfold reached
      split
      · rfl
      · exact Nat.zero_min _
    rw [← hreached] at hat
    have ht := at_callAll hrest calls hat
    rw [Nat.zero_add] at ht
    obtain ⟨hpeeked, hpeek⟩ := at_peek hrest ht
    obtain ⟨hadvanced, hadvance⟩ := at_advance hrest ht
    intro t i passed
    refine ⟨ht.current, isAtEnd_iff ht, ?_, hpeeked, ?_, ?_, ?_, ?_, fun hend => if_pos hend⟩
    · rw [← Position.start_afterText]
      exact ht.position
    · exact hpeek.current.trans ht.current.symm
    · exact hpeek.position.trans ht.position.symm
    · rw [hadvanced, hpeeked]
    · rw [hadvance.current, hpeeked, ht.current, answer]
      split <;> rfl
  · rename_i hcut
    rw [if_neg (mt hfirst.mp hcut)] at hopened
    obtain rfl : text = [] := Classical.not_not.mp (not_or.mp hcut).1
    exact hopened

/-- A newline, a letter of two bytes that calls cut, and a surrogate: there are
three bytes of text. -/
theorem ofReader_decodes_surrogate :
    let r : Reader := ⟨[.data [0x0A, 0xC3], .interrupt, .data [0xA9, 0xED, 0xA0, 0x80]], some 1⟩
    let bytes : List UInt8 := [0x0A, 0xC3, 0xA9, 0xED, 0xA0, 0x80]
    r.signals = bytes.map .byte ∧
      ∃ text, LongestText text bytes ∧ (encode text).length = 3 := by
  intro r bytes
  have hsignals : r.signals = bytes.map .byte := by decide
  have hrun : ((ofReader r 0).toOption.bind fun s =>
      match (s.callAll [.advance]).peek.1 with
      | .error e => some e
      | .ok _ => none) = some (.invalidUtf8 3) := by decide +kernel
  obtain ⟨text, rest, -, hlongest, h⟩ := ofReader_decodes bytes r 0 hsignals
  refine ⟨hsignals, text, hlongest, ?_⟩
  split at h
  · obtain ⟨s, hs, hcalls⟩ := h
    obtain ⟨-, -, -, hpeek, -⟩ := hcalls [.advance]
    rw [hs, Except.toOption, Option.bind_some, hpeek, answer] at hrun
    by_cases hsettled : Settled text rest (reached text rest ([Call.advance].count .advance) + 1)
    · rw [if_pos hsettled] at hrun
      cases hrun
    · rw [if_neg hsettled] at hrun
      exact SourceError.invalidUtf8.inj (Option.some.inj hrun)
  · rw [h] at hrun
    cases hrun

end Source
end LexicalFrontEnd
