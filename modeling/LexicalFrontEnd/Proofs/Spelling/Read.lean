import LexicalFrontEnd.Proofs.Lexeme.Gap
import LexicalFrontEnd.Proofs.Lexeme.Read
import LexicalFrontEnd.Proofs.Spelling.Literal
import LexicalFrontEnd.Proofs.Spelling.Number

/-!
Every token is read as it is written.

The text of a well-formed spelling starts a lexeme, and with white space or the
end of the text behind it exactly this text is taken, as the token that was
meant (`reads_spelling`).  There is one lemma for each family of spellings; each
of them says which reader the first two characters lead to.
-/

namespace LexicalFrontEnd

namespace Keyword

theorem mem_all (k : Keyword) : k ∈ all := by
  cases k <;> decide

theorem ofSpelling?_spelling (k : Keyword) : ofSpelling? k.spelling = some k := by
  cases k <;> rfl

/-- The cases of the search are the spellings. -/
theorem ofSpelling?_eq_some_iff {word : String} {k : Keyword} :
    ofSpelling? word = some k ↔ k.spelling = word := by
  constructor
  · intro h
    unfold ofSpelling? at h
    split at h <;> cases h <;> rfl
  · rintro rfl
    exact ofSpelling?_spelling k

end Keyword

namespace PrimitiveType

theorem mem_all (t : PrimitiveType) : t ∈ all := by
  cases t <;> decide

theorem ofSpelling?_spelling (t : PrimitiveType) : ofSpelling? t.spelling = some t := by
  cases t <;> rfl

theorem ofSpelling?_eq_some_iff {word : String} {t : PrimitiveType} :
    ofSpelling? word = some t ↔ t.spelling = word := by
  constructor
  · intro h
    have hfound := List.find?_some h
    exact eq_of_beq hfound
  · rintro rfl
    exact ofSpelling?_spelling t

end PrimitiveType

/-- No type is spelled like a keyword. -/
theorem Keyword.ofSpelling?_primitiveType (t : PrimitiveType) : ofSpelling? t.spelling = none := by
  cases t <;> rfl

namespace Lexeme

/-- A lexeme starts with `text`, and `lexeme` is what is read there. -/
def Reads (text rest : List Char) (lexeme : Lexeme) : Prop :=
  ∃ c front, text = c :: front ∧ Starts c (front ++ rest) ∧
    read .standard c (front ++ rest) = lexeme

/-! ## Words -/

section Word

variable {word rest : List Char}

def isWord : List Char → Bool
  | [] => false
  | c :: front => startsWord c && front.all continuesWord

theorem reads_word (hword : isWord word = true) (hrest : Delimits rest) :
    Reads word rest (verbatim (classify .standard word) word) := by
  cases word with
  | nil => exact absurd hword Bool.false_ne_true
  | cons c front =>
    rw [isWord, Bool.and_eq_true, List.all_eq_true] at hword
    obtain ⟨hc, hfront⟩ := hword
    have hslash : c ≠ '/' := by
      rintro rfl
      revert hc
      decide +kernel
    refine ⟨c, front, rfl, ⟨isBlank_of_startsWord hc, fun h => hslash h.1⟩, ?_⟩
    have hrun : (front ++ rest).takeWhile continuesWord = front :=
      takeWhile_append hfront fun d hd => continuesWord_of_isBlank (hrest d hd)
    rw [read, if_pos hc, readWord, hrun]

theorem isWord_keyword (k : Keyword) : isWord k.spelling.toList = true := by
  cases k <;> decide +kernel

theorem isWord_primitiveType (t : PrimitiveType) : isWord t.spelling.toList = true := by
  cases t <;> decide +kernel

theorem classify_keyword (k : Keyword) :
    classify .standard k.spelling.toList = .token .keyword (some k.code) := by
  rw [classify, String.ofList_toList]
  simp only [Lexicon.standard, Keyword.ofSpelling?_spelling, Option.map_some]

theorem classify_primitiveType (t : PrimitiveType) :
    classify .standard t.spelling.toList = .token .primitiveType (some t.code) := by
  rw [classify, String.ofList_toList]
  simp only [Lexicon.standard, Keyword.ofSpelling?_primitiveType,
    PrimitiveType.ofSpelling?_spelling, Option.map_some, Option.map_none]

theorem classify_unreserved (h : Spelling.Unreserved word) :
    classify .standard word = .token .identifier none := by
  have hkeyword : Keyword.ofSpelling? (String.ofList word) = none := by
    refine Option.eq_none_iff_forall_ne_some.mpr fun k hk => h.1 k k.mem_all ?_
    rw [Keyword.ofSpelling?_eq_some_iff.mp hk, String.toList_ofList]
  have htype : PrimitiveType.ofSpelling? (String.ofList word) = none := by
    refine Option.eq_none_iff_forall_ne_some.mpr fun t ht => h.2 t t.mem_all ?_
    rw [PrimitiveType.ofSpelling?_eq_some_iff.mp ht, String.toList_ofList]
  rw [classify]
  simp only [Lexicon.standard, hkeyword, htype, Option.map_none]

theorem isWord_identifier {first : Char} {more : List Char}
    (h : (Spelling.identifier first more).WellFormed) : isWord (first :: more) = true := by
  obtain ⟨hfirst, hmore, -⟩ := h
  rw [isWord, Bool.and_eq_true, List.all_eq_true]
  constructor
  · rwa [startsWord, Bool.or_eq_true, beq_iff_eq]
  · intro c hc
    rw [continuesWord, Bool.or_eq_true, beq_iff_eq]
    exact hmore c hc

end Word

/-! ## Numbers -/

theorem reads_number (negative : Bool) {digits : List Char}
    (hdigits : digits.head?.any Number.isDecimal = true) (rest : List Char) :
    Reads (minus negative ++ digits) rest (Number.read (minus negative ++ digits ++ rest)) := by
  obtain ⟨d, hhead, hd⟩ := (Option.any_eq_true _ _).mp hdigits
  obtain ⟨more, rfl⟩ := List.head?_eq_some_iff.mp hhead
  cases negative with
  | true =>
    refine ⟨'-', d :: more, rfl, ⟨by decide, fun h => absurd h.1 (by decide)⟩, ?_⟩
    refine read_number (Or.inr ⟨rfl, ?_⟩) .standard
    exact hd
  | false =>
    refine ⟨d, more, rfl, ⟨Number.isBlank_of_isDecimal hd, ?_⟩, read_number (Or.inl hd) .standard⟩
    rintro ⟨rfl, -⟩
    exact absurd hd (by decide)

theorem reads_integer {negative : Bool} {radix : Radix} {digits rest : List Char}
    (h : radix.Numeral digits) (hrest : Delimits rest) :
    Reads (Spelling.integer negative radix digits).text rest
      (verbatim (.token .integer none) (Spelling.integer negative radix digits).text) := by
  have hfirst : (radix.mark ++ digits).head?.any Number.isDecimal = true := by
    cases radix with
    | decimal =>
      obtain ⟨d, more, rfl, hd⟩ := h.exists_cons
      exact hd
    | _ => rfl
  have hreads := reads_number negative hfirst rest
  rw [← List.append_assoc] at hreads
  rwa [← Number.read_integer h hrest]

theorem reads_real {negative : Bool} {whole rest : List Char} {fraction? : Option (List Char)}
    {exponent? : Option Exponent}
    (h : (Spelling.real negative whole fraction? exponent?).WellFormed) (hrest : Delimits rest) :
    Reads (Spelling.real negative whole fraction? exponent?).text rest
      (verbatim (.token .real none) (Spelling.real negative whole fraction? exponent?).text) := by
  have hfirst : (whole ++ (Spelling.fractionText fraction? ++
      Spelling.exponentText exponent?)).head?.any Number.isDecimal = true := by
    obtain ⟨d, more, rfl, hd⟩ := h.1.exists_cons
    exact hd
  have hreads := reads_number negative hfirst rest
  rw [← List.append_assoc, ← List.append_assoc] at hreads
  rwa [← Number.read_real h hrest]

/-! ## Literals -/

theorem reads_string {items : List Item} (h : ∀ item ∈ items, item.WellFormed '"')
    (rest : List Char) :
    Reads (Spelling.string items).text rest
      ⟨.token .string none, items.map Item.meaning, (Spelling.string items).text.length⟩ := by
  refine ⟨'"', items.flatMap Item.text ++ ['"'], rfl,
    ⟨by decide, fun h => absurd h.1 (by decide)⟩, ?_⟩
  rw [read_string, List.append_assoc]
  exact Literal.readString_items h rest

theorem reads_character {item : Item} (h : item.WellFormed '\'') (rest : List Char) :
    Reads (Spelling.character item).text rest
      ⟨.token .character none, [item.meaning], (Spelling.character item).text.length⟩ := by
  refine ⟨'\'', item.text ++ ['\''], rfl, ⟨by decide, fun h => absurd h.1 (by decide)⟩, ?_⟩
  rw [read_character, List.append_assoc]
  exact Literal.readCharacter_item h rest

/-! ## Operators -/

section Operator

variable {rest : List Char}

theorem isBlank_of_mem_spelling {o : Operator} {c : Char} (h : c ∈ o.spelling) :
    Unicode.isBlank c = false := by
  have hall : o.spelling.all (!Unicode.isBlank ·) = true := by cases o <;> decide
  have hc := List.all_eq_true.mp hall c h
  rwa [Bool.not_eq_true'] at hc

/-- More characters than those of an operator are no other operator, because the
next one is white space. -/
theorem ofSpelling?_take {o : Operator} (hrest : Delimits rest) {n : Nat}
    (h : o.spelling.length ≤ n) :
    Operator.ofSpelling? ((o.spelling ++ rest).take n) = some o ∨
      o.spelling.length < n ∧ Operator.ofSpelling? ((o.spelling ++ rest).take n) = none := by
  cases rest with
  | nil =>
    rw [List.append_nil, List.take_of_length_le h]
    exact Or.inl (Operator.ofSpelling?_spelling o)
  | cons b rest =>
    rcases Nat.eq_or_lt_of_le h with rfl | hlt
    · rw [List.take_left]
      exact Or.inl (Operator.ofSpelling?_spelling o)
    · refine Or.inr ⟨hlt, ?_⟩
      obtain ⟨k, rfl⟩ := Nat.exists_eq_add_of_lt hlt
      rw [Nat.add_assoc, List.take_length_add_append, List.take_succ_cons]
      cases hfound : Operator.ofSpelling? (o.spelling ++ b :: rest.take k) with
      | none => rfl
      | some p =>
        have hspelling := Operator.spelling_of_ofSpelling? hfound
        have hb : Unicode.isBlank b = false := by
          refine isBlank_of_mem_spelling (o := p) ?_
          rw [hspelling]
          exact List.mem_append_right _ List.mem_cons_self
        rw [hrest b rfl] at hb
        exact absurd hb.symm Bool.false_ne_true

theorem longestAt?_spelling (o : Operator) (hrest : Delimits rest) :
    Operator.longestAt? (o.spelling ++ rest) = some o := by
  have hpos : 0 < o.spelling.length := List.length_pos_iff.mpr (Operator.spelling_ne_nil o)
  have hle : o.spelling.length ≤ 3 := by cases o <;> decide
  rw [Operator.longestAt?]
  rcases ofSpelling?_take hrest hle with h | ⟨hlt, h⟩
  · rw [h]
    rfl
  · rw [h]
    rcases ofSpelling?_take hrest (Nat.le_of_lt_succ hlt) with h | ⟨hlt, h⟩
    · rw [h]
      rfl
    · rw [h]
      rcases ofSpelling?_take hrest (Nat.le_of_lt_succ hlt) with h | ⟨hlt, h⟩
      · exact h
      · omega

/-- No other reader takes the first two characters of an operator, and they start
no comment. -/
theorem exists_spelling_eq (o : Operator) :
    ∃ c front, o.spelling = c :: front ∧ startsWord c = false ∧ Number.isDecimal c = false ∧
      c ≠ '"' ∧ c ≠ '\'' ∧ front.head?.any Number.isDecimal = false ∧
      ¬(c = '/' ∧ front.head? = some '/') := by
  cases o <;> exact ⟨_, _, rfl, by decide +kernel⟩

theorem reads_operator (o : Operator) (hrest : Delimits rest) :
    Reads o.spelling rest (verbatim (.token .operator (some o.code)) o.spelling) := by
  obtain ⟨c, front, hspelling, hword, hdecimal, hstring, hcharacter, hnext, hslash⟩ :=
    exists_spelling_eq o
  have hblank : Unicode.isBlank c = false :=
    isBlank_of_mem_spelling (o := o) (by rw [hspelling]; exact List.mem_cons_self)
  have hfound := longestAt?_spelling o hrest
  rw [hspelling, List.cons_append] at hfound
  have hnext : (front ++ rest).head?.any Number.isDecimal = false := by
    cases front with
    | nil => exact hrest.any_isDecimal
    | cons d front => exact hnext
  have hslash : ¬(c = '/' ∧ (front ++ rest).head? = some '/') := by
    cases front with
    | nil => exact fun h => hrest.ne (by decide) h.2
    | cons d front => exact hslash
  refine ⟨c, front, hspelling, ⟨hblank, hslash⟩, ?_⟩
  rw [read_operator hword hdecimal hnext hstring hcharacter, readOperator_eq, hfound]
  rfl

end Operator

/-! ## All spellings -/

def ofSpelling (s : Spelling) : Lexeme := ⟨.token s.kind s.code?, s.denoted, s.text.length⟩

theorem reads_spelling {s : Spelling} (h : s.WellFormed) {rest : List Char}
    (hrest : Delimits rest) : Reads s.text rest (ofSpelling s) := by
  cases s with
  | keyword k =>
    have hreads := reads_word (isWord_keyword k) hrest
    rwa [classify_keyword] at hreads
  | primitiveType t =>
    have hreads := reads_word (isWord_primitiveType t) hrest
    rwa [classify_primitiveType] at hreads
  | identifier first more =>
    have hreads := reads_word (isWord_identifier h) hrest
    rwa [classify_unreserved h.2.2] at hreads
  | integer negative radix digits => exact reads_integer h hrest
  | real negative whole fraction? exponent? => exact reads_real h hrest
  | string items => exact reads_string h rest
  | character item => exact reads_character h rest
  | operator o => exact reads_operator o hrest

end Lexeme
end LexicalFrontEnd
