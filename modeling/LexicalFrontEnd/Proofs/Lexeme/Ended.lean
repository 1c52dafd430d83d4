import LexicalFrontEnd.Proofs.Spelling.Read

/-!
White space ends a lexeme as the end of the text does.

No character of a word, a number or an operator is white space, so their readers
make the same of a text whether white space or nothing stands behind it
(`read_append_delimited`).  Literals are not among them: white space may belong
to a literal.
-/

namespace LexicalFrontEnd
namespace Lexeme

variable {rest : List Char}

theorem takeWhile_append_stop {p : Char → Bool}
    (hstop : ∀ c, rest.head? = some c → p c = false) (text : List Char) :
    (text ++ rest).takeWhile p = text.takeWhile p := by
  induction text with
  | nil => exact takeWhile_append (fun _ h => absurd h List.not_mem_nil) hstop
  | cons c text ih =>
    rw [List.cons_append, List.takeWhile_cons, List.takeWhile_cons, ih]

namespace Delimits

/-- The character behind the first one, as far as it tells what is read. -/
theorem any_isDecimal_append (h : Delimits rest) (text : List Char) :
    (text ++ rest).head?.any Number.isDecimal = text.head?.any Number.isDecimal := by
  cases text with
  | nil => exact h.any_isDecimal
  | cons c text => rfl

theorem head?_append (h : Delimits rest) {d : Char} (hd : Unicode.isBlank d = false)
    {text : List Char} (htext : text.head? ≠ some d) : (text ++ rest).head? ≠ some d := by
  cases text with
  | nil => exact h.ne hd
  | cons c text => exact htext

end Delimits

/-! ## Numbers -/

namespace Number

theorem digits_append (h : Delimits rest) (base : Nat) (text : List Char) :
    digits base (text ++ rest) = digits base text :=
  takeWhile_append_stop (h.isDigit base) text

theorem drop_digits_append (h : Delimits rest) (base : Nat) (text : List Char) :
    (text ++ rest).drop (digits base (text ++ rest)).length =
      text.drop (digits base text).length ++ rest := by
  have hle : (digits base text).length ≤ text.length := (List.takeWhile_prefix _).length_le
  rw [digits_append h, List.drop_append_of_le_length hle]

theorem sign_append_delimited (h : Delimits rest) (text : List Char) :
    sign (text ++ rest) = ((sign text).1, (sign text).2 ++ rest) := by
  by_cases hminus : text.head? = some '-'
  · obtain ⟨text, rfl⟩ := List.head?_eq_some_iff.mp hminus
    rfl
  · have htext : sign text = ([], text) := sign_minus false hminus
    rw [htext]
    exact sign_minus false (h.head?_append (by decide) hminus)

theorem withExponent_append (h : Delimits rest) (kind : TokenKind) (mantissa text : List Char) :
    withExponent kind mantissa (text ++ rest) = withExponent kind mantissa text := by
  cases text with
  | nil => exact withExponent_delimited kind mantissa h
  | cons c text =>
    rw [List.cons_append, withExponent, withExponent, sign_append_delimited h]
    simp only [digits_append h]

theorem afterWhole_append (h : Delimits rest) (minus whole text : List Char) :
    afterWhole minus whole (text ++ rest) = afterWhole minus whole text := by
  by_cases hpoint : text.head? = some '.'
  · obtain ⟨text, rfl⟩ := List.head?_eq_some_iff.mp hpoint
    rw [List.cons_append, afterWhole, afterWhole, drop_digits_append h, digits_append h,
      withExponent_append h]
  · rw [afterWhole_of_ne hpoint, afterWhole_of_ne (h.head?_append (by decide) hpoint),
      withExponent_append h]

theorem decimal_append (h : Delimits rest) (minus text : List Char) :
    decimal minus (text ++ rest) = decimal minus text := by
  rw [decimal_eq, decimal_eq, drop_digits_append h, digits_append h, afterWhole_append h]

theorem unsigned_append (h : Delimits rest) (minus : List Char) (c : Char) (text : List Char) :
    unsigned minus (c :: text ++ rest) = unsigned minus (c :: text) := by
  have hbase : (text ++ rest).head?.bind base? = text.head?.bind base? := by
    cases text with
    | nil =>
      show rest.head?.bind base? = none
      cases hhead : rest.head? with
      | none => rfl
      | some c => exact (endsWhole_of_delimits h c hhead).2
    | cons letter text => rfl
  by_cases hdecimal : c ≠ '0' ∨ text.head?.bind base? = none
  · have hdecimal' : c ≠ '0' ∨ (text ++ rest).head?.bind base? = none := by rwa [hbase]
    rw [unsigned_eq_decimal hdecimal, ← decimal_append h]
    exact unsigned_eq_decimal hdecimal' minus
  · rw [not_or, Decidable.not_not] at hdecimal
    obtain ⟨rfl, hletter⟩ := hdecimal
    obtain ⟨base, hsome⟩ := Option.ne_none_iff_exists'.mp hletter
    obtain ⟨letter, hhead, hmark⟩ := Option.bind_eq_some_iff.mp hsome
    obtain ⟨text, rfl⟩ := List.head?_eq_some_iff.mp hhead
    show unsigned minus ('0' :: letter :: (text ++ rest)) = _
    rw [unsigned, unsigned, hmark]
    simp only [digits_append h]

theorem read_append_delimited {c : Char} {text : List Char} (h : Delimits rest)
    (hfirst : c = '-' → text ≠ []) : read (c :: (text ++ rest)) = read (c :: text) := by
  rw [← List.cons_append, read_eq, read_eq, sign_append_delimited h]
  by_cases hminus : c = '-'
  · subst hminus
    obtain ⟨d, text, rfl⟩ := List.exists_cons_of_ne_nil (hfirst rfl)
    exact unsigned_append h ['-'] d text
  · have hhead : (c :: text).head? ≠ some '-' := fun hhead => hminus (Option.some.inj hhead)
    have hsign : sign (c :: text) = ([], c :: text) := sign_minus false hhead
    rw [hsign]
    exact unsigned_append h [] c text

theorem readPoint_append (h : Delimits rest) (text : List Char) :
    readPoint ('.' :: (text ++ rest)) = readPoint ('.' :: text) := by
  have hdrop (text : List Char) : ('.' :: text).drop ((digits 10 text).length + 1) =
      text.drop (digits 10 text).length := rfl
  rw [readPoint, readPoint, List.tail_cons, List.tail_cons, hdrop, hdrop, drop_digits_append h,
    digits_append h, withExponent_append h]

end Number

/-! ## Operators -/

theorem ofSpelling?_of_isBlank {text : List Char} {b : Char} (hmem : b ∈ text)
    (hb : Unicode.isBlank b = true) : Operator.ofSpelling? text = none := by
  cases hfound : Operator.ofSpelling? text with
  | none => rfl
  | some o =>
    rw [← Operator.spelling_of_ofSpelling? hfound] at hmem
    rw [isBlank_of_mem_spelling hmem] at hb
    exact absurd hb Bool.false_ne_true

theorem longestAt?_append (h : Delimits rest) (c : Char) (text : List Char) :
    Operator.longestAt? (c :: (text ++ rest)) = Operator.longestAt? (c :: text) := by
  cases rest with
  | nil => rw [List.append_nil]
  | cons b rest =>
    have hb : Unicode.isBlank b = true := h b rfl
    cases text with
    | nil =>
      rw [List.nil_append, Operator.longestAt?_cons_cons, Operator.longestAt?_singleton,
        ofSpelling?_of_isBlank (b := b) (by simp) hb]
    | cons d text =>
      rw [List.cons_append, Operator.longestAt?_cons_cons, Operator.longestAt?_cons_cons]
      cases text with
      | nil =>
        have hnone : Operator.ofSpelling? [c, d, b] = none :=
          ofSpelling?_of_isBlank (b := b) (by simp) hb
        rw [List.nil_append, List.head?_cons, Option.bind_some, hnone]
        rfl
      | cons e text => rfl

/-! ## All of them -/

/-- Only a literal tells the end of the text from white space. -/
theorem read_append_delimited {c : Char} (hstring : c ≠ '"') (hcharacter : c ≠ '\'')
    (h : Delimits rest) (lexicon : Lexicon) (text : List Char) :
    read lexicon c (text ++ rest) = read lexicon c text := by
  have hword : readWord lexicon c (text ++ rest) = readWord lexicon c text := by
    have hrun := takeWhile_append_stop (p := continuesWord)
      (fun d hd => continuesWord_of_isBlank (h d hd)) text
    rw [readWord, readWord, hrun]
  have hoperator : readOperator c (text ++ rest) = readOperator c text := by
    rw [readOperator_eq, readOperator_eq, longestAt?_append h]
  rw [read, read, hword, hoperator, h.any_isDecimal_append]
  by_cases hnumber : (Number.isDecimal c || (c == '-' && text.head?.any Number.isDecimal)) = true
  · have hfirst : c = '-' → text ≠ [] := by
      rintro rfl rfl
      exact absurd hnumber (by decide)
    rw [if_pos hnumber, if_pos hnumber, Number.read_append_delimited h hfirst]
  · rw [if_neg hnumber, if_neg hnumber, beq_false_of_ne hstring, beq_false_of_ne hcharacter]
    by_cases hpoint : (c == '.' && text.head?.any Number.isDecimal) = true
    · have hc : c = '.' := eq_of_beq (Bool.and_eq_true_iff.mp hpoint).1
      subst hc
      rw [if_pos hpoint, if_pos hpoint, Number.readPoint_append h]
    · rw [if_neg hpoint, if_neg hpoint]
      rfl

end Lexeme
end LexicalFrontEnd
