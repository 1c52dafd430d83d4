import LexicalFrontEnd.Proofs.Source.Delivery

/-!
Reading back what is written.

The bytes of a text are read as exactly that text, whatever follows the bytes of
one character (`next_of_encoded`), so a source over the bytes of a text delivers
the text and then its end (`deliver_encode`).
-/

namespace LexicalFrontEnd
namespace Text
namespace Utf8

theorem toNat_lt (c : Char) : c.val.toNat < 0x110000 := by
  have h := c.valid
  rcases h with h | ⟨-, h⟩
  · exact Nat.lt_trans h (by decide)
  · exact h

theorem payload_utf8EncodeChar (c : Char) : payload (String.utf8EncodeChar c) = c.toNat := by
  have hc := toNat_lt c
  show payload (String.utf8EncodeChar c) = c.val.toNat
  fun_cases String.utf8EncodeChar c with
  | case1 v h =>
    show (UInt8.ofNat v).toNat = v
    rw [UInt8.toNat_ofNat']
    omega
  | case2 v h h' =>
    simp only [payload, UInt8.toNat_ofNat']
    omega
  | case3 v h h' h'' =>
    simp only [payload, UInt8.toNat_ofNat']
    omega
  | case4 v h h' h'' =>
    simp only [payload, UInt8.toNat_ofNat']
    omega

theorem decode?_utf8EncodeChar (c : Char) : decode? (String.utf8EncodeChar c) = some c := by
  rw [decode?, payload_utf8EncodeChar, Char.ofNat_toNat]
  exact if_pos rfl

/-- The number of bytes that a lead byte announces, by what it is as a number. -/
theorem width?_ofNat {n : Nat} (h : n < 256) :
    width? (UInt8.ofNat n) =
      if n < 0x80 then some 1
      else if n < 0xC2 then none
      else if n < 0xE0 then some 2
      else if n < 0xF0 then some 3
      else if n < 0xF5 then some 4
      else none := by
  have hn : (UInt8.ofNat n).toNat = n := by
    rw [UInt8.toNat_ofNat']
    exact Nat.mod_eq_of_lt h
  simp only [width?, UInt8.lt_iff_toNat_lt, hn]
  rfl

theorem width?_utf8EncodeChar (c : Char) :
    ∃ lead rest, String.utf8EncodeChar c = lead :: rest ∧ width? lead = some (rest.length + 1) := by
  have hc := toNat_lt c
  fun_cases String.utf8EncodeChar c with
  | case1 v h =>
    refine ⟨_, _, rfl, ?_⟩
    rw [width?_ofNat (by omega), if_pos (by omega)]
    rfl
  | case2 v h h' =>
    refine ⟨_, _, rfl, ?_⟩
    rw [width?_ofNat (by omega), if_neg (by omega), if_neg (by omega), if_pos (by omega)]
    rfl
  | case3 v h h' h'' =>
    refine ⟨_, _, rfl, ?_⟩
    rw [width?_ofNat (by omega), if_neg (by omega), if_neg (by omega), if_neg (by omega),
      if_pos (by omega)]
    rfl
  | case4 v h h' h'' =>
    refine ⟨_, _, rfl, ?_⟩
    rw [width?_ofNat (by omega), if_neg (by omega), if_neg (by omega), if_neg (by omega),
      if_neg (by omega), if_pos (by omega)]
    rfl

/-- A byte below 0x80 is a whole character. -/
theorem toNat_eq_of_mem {b : UInt8} {c : Char} (hb : b.toNat < 0x80)
    (h : b ∈ String.utf8EncodeChar c) : b.toNat = c.toNat := by
  have hc := toNat_lt c
  revert h
  show _ → b.toNat = c.val.toNat
  fun_cases String.utf8EncodeChar c with
  | case1 v hv =>
    intro h
    rw [List.mem_singleton.mp h, UInt8.toNat_ofNat']
    omega
  | case2 v hv hv' =>
    simp only [List.mem_cons, List.not_mem_nil, or_false]
    rintro (rfl | rfl) <;> simp only [UInt8.toNat_ofNat'] at hb <;> omega
  | case3 v h h' h'' =>
    simp only [List.mem_cons, List.not_mem_nil, or_false]
    rintro (rfl | rfl | rfl) <;> simp only [UInt8.toNat_ofNat'] at hb <;> omega
  | case4 v h h' h'' =>
    simp only [List.mem_cons, List.not_mem_nil, or_false]
    rintro (rfl | rfl | rfl | rfl) <;> simp only [UInt8.toNat_ofNat'] at hb <;> omega

theorem mem_of_mem_encode {b : UInt8} {text : List Char} (hb : b.toNat < 0x80)
    (h : b ∈ encode text) : Char.ofNat b.toNat ∈ text := by
  obtain ⟨c, hc, hmem⟩ := List.mem_flatMap.mp h
  rwa [toNat_eq_of_mem hb hmem, Char.ofNat_toNat]

end Utf8
end Text

namespace Source
namespace Stream

theorem await_of_le_ready {n : Nat} {bytes : List UInt8} {rest : List Signal} {offset : Nat}
    (h : n ≤ bytes.length) :
    await n ⟨bytes.map .byte ++ rest, offset⟩ = (.ok (), ⟨bytes.map .byte ++ rest, offset⟩) := by
  rw [await, Signal.failureAmong_bytes_append, Nat.sub_eq_zero_of_le h]
  rfl

/-- The bytes of a character are read as that character. -/
theorem next_of_encoded (c : Char) (rest : List Signal) (offset : Nat) :
    next ⟨(String.utf8EncodeChar c).map .byte ++ rest, offset⟩ =
      (.ok (some c), ⟨rest, offset + (String.utf8EncodeChar c).length⟩) := by
  obtain ⟨lead, tail, hbytes, hwidth⟩ := Text.Utf8.width?_utf8EncodeChar c
  have hdecode := Text.Utf8.decode?_utf8EncodeChar c
  rw [hbytes] at hdecode ⊢
  have hlen : (lead :: tail).length = tail.length + 1 := rfl
  have hready : ready ⟨(lead :: tail).map .byte ++ rest, offset⟩ =
      lead :: tail ++ Signal.bytes rest := Signal.bytes_append _ _
  rw [next, await_of_le_ready (by rw [hlen]; omega)]
  simp only
  rw [hready, List.cons_append, List.head?_cons]
  simp only [hwidth]
  rw [await_of_le_ready (Nat.le_of_eq hlen.symm)]
  simp only
  rw [hready, if_neg (by rw [List.length_append, hlen]; omega),
    List.take_append_of_le_length (Nat.le_of_eq hlen.symm),
    List.take_of_length_le (Nat.le_of_eq hlen), hdecode]
  simp only [drop]
  have hdrop : ((lead :: tail).map Signal.byte).length = tail.length + 1 := by
    rw [List.length_map, hlen]
  rw [List.drop_append_of_le_length (Nat.le_of_eq hdrop.symm),
    List.drop_of_length_le (Nat.le_of_eq hdrop)]
  rfl

theorem deliver_encode (text : List Char) (offset : Nat) :
    deliver ⟨(Text.Utf8.encode text).map .byte, offset⟩ = ⟨text, none⟩ := by
  induction text generalizing offset with
  | nil => exact deliver_of_end rfl
  | cons c rest ih =>
    have hnext := next_of_encoded c ((Text.Utf8.encode rest).map .byte) offset
    rw [← List.map_append] at hnext
    rw [Text.Utf8.encode_cons, deliver_of_char hnext, ih]

end Stream
end Source

namespace Session

/-- Opening the bytes of a text puts the cursor before the text. -/
theorem attach_ofBytes_encode (s : Session) (text : List Char) :
    s.attach (.ofBytes (Text.Utf8.encode text)) =
      (.ok (), { s with state := .ready ⟨.start, text, none⟩ }) := by
  have hdeliver : (Source.Reader.ofBytes (Text.Utf8.encode text)).stream.deliver = ⟨text, none⟩ := by
    rw [Source.Reader.stream, Source.Reader.signals_ofBytes, Source.Stream.deliver_encode]
  rw [attach_eq, hdeliver]
  cases text <;> rfl

end Session
end LexicalFrontEnd
