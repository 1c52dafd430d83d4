/-!
The UTF-8 form of characters.

`decode?` reads one character from the bytes of exactly that character.  It
accepts a byte sequence only if encoding the character it spells gives the same
bytes back, so overlong forms, surrogates, numbers above the last code point and
stray continuation bytes are all refused (`utf8EncodeChar_of_decode?`), and what
`encode` writes is made of sequences that it accepts.
-/

namespace LexicalFrontEnd
namespace Text
namespace Utf8

def encode (text : List Char) : List UInt8 := text.flatMap String.utf8EncodeChar

/-- The number of bytes that a first byte announces.  No character starts with a
continuation byte, with the first byte of an overlong two-byte form or with one
that would lead beyond the last code point. -/
def width? (lead : UInt8) : Option Nat :=
  if lead < 0x80 then some 1
  else if lead < 0xC2 then none
  else if lead < 0xE0 then some 2
  else if lead < 0xF0 then some 3
  else if lead < 0xF5 then some 4
  else none

/-- The number that the payload bits of one to four bytes spell. -/
def payload : List UInt8 → Nat
  | [a] => a.toNat
  | [a, b] => a.toNat % 32 * 64 + b.toNat % 64
  | [a, b, c] => (a.toNat % 16 * 64 + b.toNat % 64) * 64 + c.toNat % 64
  | [a, b, c, d] =>
    ((a.toNat % 8 * 64 + b.toNat % 64) * 64 + c.toNat % 64) * 64 + d.toNat % 64
  | _ => 0

/-- The character whose encoding is the whole of `bytes`. -/
def decode? (bytes : List UInt8) : Option Char :=
  let c := Char.ofNat (payload bytes)
  if String.utf8EncodeChar c = bytes then some c else none

theorem width?_pos {lead : UInt8} {width : Nat} (h : width? lead = some width) : 0 < width := by
  simp only [width?] at h
  repeat' split at h
  all_goals cases h
  all_goals decide

theorem encode_cons (c : Char) (text : List Char) :
    encode (c :: text) = String.utf8EncodeChar c ++ encode text := rfl

theorem encode_append (s t : List Char) : encode (s ++ t) = encode s ++ encode t := by
  simp [encode]

/-- Only the encoding of a character is read as that character. -/
theorem utf8EncodeChar_of_decode? {bytes : List UInt8} {c : Char} (h : decode? bytes = some c) :
    String.utf8EncodeChar c = bytes := by
  simp only [decode?] at h
  split at h
  · cases h
    assumption
  · cases h

end Utf8
end Text
end LexicalFrontEnd
