import LexicalFrontEnd.Proofs.Text.Utf8

/-!
Where a stream stops giving characters.

Behind the bytes of a text there may stand something that starts with no
character at all: a failure of the reader, or bytes that are not UTF-8.  The
stream gives the text and then the reason (`deliver_of_unreadable`), which is a
failure only if it stands among the bytes that the next character would need.
Every reader brings a text, and then nothing or something of that sort
(`exists_text`).
-/

namespace LexicalFrontEnd
namespace Source

/-- There is something to read, but it starts with no character. -/
def Unreadable (signals : List Signal) : Prop :=
  signals ≠ [] ∧ ∀ c, ¬(String.utf8EncodeChar c).map Signal.byte <+: signals

theorem unreadable_failure (message : String) (rest : List Signal) :
    Unreadable (.failure message :: rest) := by
  refine ⟨List.cons_ne_nil _ _, fun c h => ?_⟩
  obtain ⟨lead, tail, hbytes, -⟩ := Text.Utf8.width?_utf8EncodeChar c
  rw [hbytes] at h
  cases (List.cons_prefix_cons.mp h).1

theorem exists_text (signals : List Signal) :
    ∃ text rest, signals = (Text.Utf8.encode text).map .byte ++ rest ∧
      (rest = [] ∨ Unreadable rest) := by
  -- On the length: a character takes at least one byte away.
  induction hn : signals.length using Nat.strongRecOn generalizing signals with
  | ind n ih =>
    by_cases hstarts : ∃ c, (String.utf8EncodeChar c).map Signal.byte <+: signals
    · obtain ⟨c, tail, rfl⟩ := hstarts
      obtain ⟨lead, more, hbytes, -⟩ := Text.Utf8.width?_utf8EncodeChar c
      have hlt : tail.length < n := by
        rw [← hn, hbytes, List.length_append, List.length_map, List.length_cons]
        omega
      obtain ⟨text, rest, rfl, hrest⟩ := ih tail.length hlt tail rfl
      refine ⟨c :: text, rest, ?_, hrest⟩
      rw [Text.Utf8.encode_cons, List.map_append, List.append_assoc]
    · by_cases hnil : signals = []
      · exact ⟨[], [], hnil, Or.inl rfl⟩
      · exact ⟨[], signals, rfl, Or.inr ⟨hnil, not_exists.mp hstarts⟩⟩

namespace Stream

/-- The number of bytes that the next character needs, as far as can be told. -/
def need (s : Stream) : Nat := (s.ready.head?.bind Text.Utf8.width?).getD 1

/-- Why no character can be had: the reader fails before there are enough bytes,
or there are enough, or no more, and they spell none. -/
def fault (s : Stream) : SourceError :=
  match Signal.failureAmong s.need s.signals with
  | some (message, _) => .io message
  | none => .invalidUtf8 s.offset

theorem map_ready_prefix_signals (s : Stream) : s.ready.map Signal.byte <+: s.signals := by
  rw [ready]
  induction s.signals with
  | nil => exact List.nil_prefix
  | cons signal rest ih =>
    cases signal with
    | byte b => exact (List.prefix_cons_inj _).mpr ih
    | failure message => exact List.nil_prefix

theorem await_eq_fault {s t : Stream} {e : SourceError} (h : s.await s.need = (.error e, t)) :
    e = s.fault := by
  unfold await at h
  unfold fault
  split at h
  · cases h
  · rename_i message signals hfound
    rw [hfound]
    cases h
    rfl

theorem fault_of_await {s t : Stream} (h : s.await s.need = (.ok (), t)) :
    s.fault = .invalidUtf8 s.offset := by
  unfold await at h
  unfold fault
  split at h
  · rename_i hnone
    rw [hnone]
  · cases h

theorem await_one_of_byte {s : Stream} {lead : UInt8} (h : s.ready.head? = some lead) :
    s.await 1 = (.ok (), s) := by
  obtain ⟨signals, offset⟩ := s
  cases signals with
  | nil => cases h
  | cons signal rest =>
    cases signal with
    | byte b => rfl
    | failure message => cases h

/-- What starts with no character gives none, and says why. -/
theorem next_of_unreadable {s : Stream} (h : Unreadable s.signals) :
    s.next = (.error s.fault, (s.await s.need).2) := by
  obtain ⟨hne, hnone⟩ := h
  cases hlead : s.ready.head? with
  | none =>
    obtain ⟨signals, offset⟩ := s
    cases signals with
    | nil => exact absurd rfl hne
    | cons signal rest =>
      cases signal with
      | byte b => cases hlead
      | failure message => rfl
  | some lead =>
    have hone := await_one_of_byte hlead
    have hneed : s.need = (Text.Utf8.width? lead).getD 1 := by rw [need, hlead, Option.bind_some]
    rw [next, hone]
    simp only [hlead]
    cases hwidth : Text.Utf8.width? lead with
    | none =>
      rw [hwidth, Option.getD_none] at hneed
      rw [← hneed] at hone
      rw [fault_of_await hone, hone]
    | some width =>
      rw [hwidth, Option.getD_some] at hneed
      simp only [← hneed]
      cases hawait : s.await s.need with
      | mk result t =>
        cases result with
        | error e => rw [await_eq_fault hawait]
        | ok =>
          obtain rfl := eq_of_await hawait
          rw [fault_of_await hawait]
          simp only
          split
          · rfl
          · split
            · rfl
            · rename_i c hdecode
              have hfront := (List.take_prefix t.need t.ready).map Signal.byte
              rw [← Text.Utf8.utf8EncodeChar_of_decode? hdecode] at hfront
              exact absurd (hfront.trans t.map_ready_prefix_signals) (hnone c)

/-- A text and then something unreadable: the text is delivered, and the reason
why there is no more. -/
theorem deliver_of_unreadable (text : List Char) {rest : List Signal} (h : Unreadable rest)
    (offset : Nat) :
    deliver ⟨(Text.Utf8.encode text).map .byte ++ rest, offset⟩ =
      ⟨text, some (fault ⟨rest, offset + (Text.Utf8.encode text).length⟩)⟩ := by
  induction text generalizing offset with
  | nil => exact deliver_of_error (next_of_unreadable h)
  | cons c text ih =>
    rw [Text.Utf8.encode_cons, List.map_append, List.append_assoc, List.length_append,
      ← Nat.add_assoc, deliver_of_char (next_of_encoded c _ offset), ih]

end Stream
end Source
end LexicalFrontEnd
