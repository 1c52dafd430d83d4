import LexicalFrontEnd.Proofs.Source.Fault

/-!
The text that bytes start with.

UTF-8 is a prefix code: at most one character starts a sequence of bytes
(`eq_of_starts`).  Bytes therefore split in one way into the longest text that
they start with and a rest that starts with no character (`exists_split`,
`longest_of_blocked`).
-/

namespace LexicalFrontEnd
namespace Text
namespace Utf8

/-- The bytes start with `text`, and with no text that has more bytes. -/
structure LongestText (text : List Char) (bytes : List UInt8) : Prop where
  starts : encode text <+: bytes
  longest : ∀ other, encode other <+: bytes → (encode other).length ≤ (encode text).length

def Blocked (bytes : List UInt8) : Prop := ∀ c, ¬String.utf8EncodeChar c <+: bytes

theorem length_utf8EncodeChar_pos (c : Char) : 0 < (String.utf8EncodeChar c).length := by
  obtain ⟨lead, tail, hbytes, -⟩ := width?_utf8EncodeChar c
  rw [hbytes, List.length_cons]
  exact Nat.succ_pos _

/-- The lead byte tells how long a character is, so two that start the same bytes
are the same. -/
theorem eq_of_starts {c d : Char} {bytes : List UInt8} (hc : String.utf8EncodeChar c <+: bytes)
    (hd : String.utf8EncodeChar d <+: bytes) : c = d := by
  obtain ⟨lead, tail, hctail, hcwidth⟩ := width?_utf8EncodeChar c
  obtain ⟨lead', tail', hdtail, hdwidth⟩ := width?_utf8EncodeChar d
  have hlength : (String.utf8EncodeChar c).length = (String.utf8EncodeChar d).length := by
    rw [hctail] at hc ⊢
    rw [hdtail] at hd ⊢
    obtain ⟨rest, rfl⟩ := hc
    obtain rfl : lead' = lead := (List.cons_prefix_cons.mp hd).1
    rw [hcwidth] at hdwidth
    exact Option.some.inj hdwidth
  have hsame : String.utf8EncodeChar c = String.utf8EncodeChar d :=
    (List.prefix_of_prefix_length_le hc hd (Nat.le_of_eq hlength)).eq_of_length hlength
  have hdecode := decode?_utf8EncodeChar c
  rw [hsame, decode?_utf8EncodeChar] at hdecode
  exact (Option.some.inj hdecode).symm

theorem exists_split (bytes : List UInt8) :
    ∃ text rest, bytes = encode text ++ rest ∧ Blocked rest := by
  -- On the number of bytes: a character takes at least one of them away.
  induction hn : bytes.length using Nat.strongRecOn generalizing bytes with
  | ind n ih =>
    by_cases hstarts : ∃ c, String.utf8EncodeChar c <+: bytes
    · obtain ⟨c, tail, rfl⟩ := hstarts
      have hpos := length_utf8EncodeChar_pos c
      rw [List.length_append] at hn
      obtain ⟨text, rest, rfl, hrest⟩ := ih tail.length (by omega) tail rfl
      exact ⟨c :: text, rest, (List.append_assoc _ _ _).symm, hrest⟩
    · exact ⟨[], bytes, rfl, not_exists.mp hstarts⟩

theorem starts_of_encode {text other : List Char} {rest : List UInt8} (hrest : Blocked rest)
    (h : encode other <+: encode text ++ rest) : other <+: text := by
  induction other generalizing text with
  | nil => exact List.nil_prefix
  | cons c other ih =>
    have hc : String.utf8EncodeChar c <+: encode text ++ rest :=
      List.IsPrefix.trans (List.prefix_append _ (encode other)) h
    cases text with
    | nil => exact absurd hc (hrest c)
    | cons d text =>
      rw [encode_cons d, List.append_assoc] at h hc
      obtain rfl := eq_of_starts hc (List.prefix_append _ _)
      exact (List.prefix_cons_inj _).mpr (ih ((List.prefix_append_right_inj _).mp h))

theorem longest_of_blocked {text : List Char} {rest : List UInt8} (hrest : Blocked rest) :
    LongestText text (encode text ++ rest) := by
  refine ⟨List.prefix_append _ _, fun other h => ?_⟩
  obtain ⟨more, rfl⟩ := starts_of_encode hrest h
  rw [encode_append, List.length_append]
  exact Nat.le_add_right _ _

/-- Texts with the same bytes are the same. -/
theorem encode_inj {text other : List Char} (h : encode text = encode other) : text = other := by
  have hblocked : Blocked [] := fun c hc =>
    absurd (length_utf8EncodeChar_pos c) (by rw [List.prefix_nil.mp hc]; decide)
  have hstarts (s t : List Char) (hst : encode s = encode t) : s <+: t := by
    have hall : encode s <+: encode t := ⟨[], (List.append_nil _).trans hst⟩
    exact starts_of_encode hblocked (hall.trans (List.prefix_append _ []))
  exact (hstarts _ _ h).eq_of_length_le (hstarts _ _ h.symm).length_le

end Utf8
end Text

theorem Source.unreadable_of_blocked {rest : List UInt8} (h : Text.Utf8.Blocked rest)
    (hne : rest ≠ []) : Unreadable (rest.map .byte) := by
  refine ⟨mt List.map_eq_nil_iff.mp hne, fun c hc => h c ?_⟩
  exact (List.prefix_map_iff_of_injective fun _ _ => Signal.byte.inj).mp hc

end LexicalFrontEnd
