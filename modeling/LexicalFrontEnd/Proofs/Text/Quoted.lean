import LexicalFrontEnd.Text.Quoted

/-!
Quoted text can be read back.

A text in quotes tells which text it stands for and where it ends, whatever comes
behind it (`Quotes.inj`).  That does not depend on which characters would show by
themselves: a character with a short escape always has it, and any other one may
stand as itself or by its number (`Shows`), also differently in different places.
-/

namespace LexicalFrontEnd
namespace Text

/-- Two texts that go on the same up to where each of them has the first `c` are the
same up to there and behind it. -/
theorem append_cons_inj {c : Char} {front front' rest rest' : List Char} (hfront : c ∉ front)
    (hfront' : c ∉ front') (h : front ++ c :: rest = front' ++ c :: rest') :
    front = front' ∧ rest = rest' := by
  induction front generalizing front' with
  | nil =>
    cases front' with
    | nil => exact ⟨rfl, (List.cons.inj h).2⟩
    | cons d front' => exact absurd (List.cons.inj h).1 (List.ne_of_not_mem_cons hfront')
  | cons d front ih =>
    cases front' with
    | nil => exact absurd (List.cons.inj h).1.symm (List.ne_of_not_mem_cons hfront)
    | cons d' front' =>
      obtain ⟨rfl, htail⟩ := List.cons.inj h
      obtain ⟨rfl, rfl⟩ :=
        ih (List.not_mem_of_not_mem_cons hfront) (List.not_mem_of_not_mem_cons hfront') htail
      exact ⟨rfl, rfl⟩

/-! ## Hexadecimal digits -/

theorem exists_digit_of_mem {c : Char} {base n : Nat} (hbase : 1 < base)
    (h : c ∈ Nat.toDigits base n) : ∃ d < base, c = Nat.digitChar d := by
  induction n using Nat.strongRecOn with
  | ind n ih =>
    rw [Nat.toDigits_eq_if hbase] at h
    split at h
    · rename_i hlt
      exact ⟨n, hlt, List.mem_singleton.mp h⟩
    · rename_i hge
      rcases List.mem_append.mp h with h | h
      · exact ih (n / base) (Nat.div_lt_self (by omega) hbase) h
      · exact ⟨n % base, Nat.mod_lt n (by omega), List.mem_singleton.mp h⟩

theorem notMem_toDigits {c : Char} {base : Nat} (hbase : 1 < base) (hle : base ≤ 16)
    (hc : ∀ d < 16, c ≠ Nat.digitChar d) (n : Nat) : c ∉ Nat.toDigits base n := by
  intro h
  obtain ⟨d, hd, hdigit⟩ := exists_digit_of_mem hbase h
  exact hc d (Nat.lt_of_lt_of_le hd hle) hdigit

/-- A decimal number has no character but its digits. -/
theorem notMem_decimal {c : Char} (hc : ∀ d < 16, c ≠ Nat.digitChar d) (n : Nat) :
    c ∉ Nat.toDigits 10 n :=
  notMem_toDigits (by decide) (by decide) hc n

theorem digitChar_inj {d e : Nat} (hd : d < 16) (he : e < 16)
    (h : Nat.digitChar d = Nat.digitChar e) : d = e := by
  have hall : ∀ d < 16, ∀ e < 16, Nat.digitChar d = Nat.digitChar e → d = e := by decide
  exact hall d hd e he h

/-- One digit is not two or more. -/
theorem length_toDigits_of_le {base n : Nat} (hbase : 1 < base) (h : base ≤ n) :
    1 < (Nat.toDigits base n).length := by
  have hpos := List.length_pos_iff.mpr (Nat.toDigits_ne_nil (n := n / base) (b := base))
  rw [Nat.toDigits_of_base_le hbase h, List.length_append, List.length_singleton]
  omega

/-- Numbers with the same digits are the same. -/
theorem toDigits_inj {base m n : Nat} (hbase : 1 < base) (hle : base ≤ 16)
    (h : Nat.toDigits base m = Nat.toDigits base n) : m = n := by
  have hlength := congrArg List.length h
  induction m using Nat.strongRecOn generalizing n with
  | ind m ih =>
    rcases Nat.lt_or_ge m base with hm | hm
    · rw [Nat.toDigits_of_lt_base hm, List.length_singleton] at hlength
      rcases Nat.lt_or_ge n base with hn | hn
      · rw [Nat.toDigits_of_lt_base hm, Nat.toDigits_of_lt_base hn, List.singleton_inj] at h
        exact digitChar_inj (by omega) (by omega) h
      · have := length_toDigits_of_le hbase hn
        omega
    · have hlong := length_toDigits_of_le hbase hm
      rcases Nat.lt_or_ge n base with hn | hn
      · rw [Nat.toDigits_of_lt_base hn, List.length_singleton] at hlength
        omega
      · rw [Nat.toDigits_of_base_le hbase hm, Nat.toDigits_of_base_le hbase hn] at h
        obtain ⟨hfront, hlast⟩ := List.append_inj' h rfl
        have hdigit := digitChar_inj (Nat.lt_of_lt_of_le (Nat.mod_lt m (by omega)) hle)
          (Nat.lt_of_lt_of_le (Nat.mod_lt n (by omega)) hle) (List.singleton_inj.mp hlast)
        have hrest := ih (m / base) (Nat.div_lt_self (by omega) hbase) hfront
          (congrArg List.length hfront)
        rw [← Nat.div_add_mod m base, ← Nat.div_add_mod n base, hdigit, hrest]

/-! ## Characters within quotes -/

namespace Quoted

inductive Shows : Char → List Char → Prop
  | short {c letter : Char} : shortEscape? c = some letter → Shows c ['\\', letter]
  | itself {c : Char} : shortEscape? c = none → Shows c [c]
  | number {c : Char} : shortEscape? c = none → Shows c (numericEscape c)

inductive ShowsAll : List Char → List Char → Prop
  | nil : ShowsAll [] []
  | cons {c : Char} {text shown body : List Char} :
    Shows c shown → ShowsAll text body → ShowsAll (c :: text) (shown ++ body)

def Quotes (text quoted : List Char) : Prop :=
  ∃ body, ShowsAll text body ∧ quoted = '"' :: (body ++ ['"'])

theorem shows_encodeChar (c : Char) : Shows c (encodeChar c) := by
  rw [encodeChar]
  cases h : shortEscape? c with
  | some letter => exact .short h
  | none =>
    show Shows c (if _ then _ else _)
    split
    · exact .number h
    · exact .itself h

theorem quotes_encode (text : List Char) : Quotes text (encode text) := by
  refine ⟨text.flatMap encodeChar, ?_, rfl⟩
  induction text with
  | nil => exact .nil
  | cons c text ih => exact .cons (shows_encodeChar c) ih

variable {c d : Char} {text text' shown shown' rest rest' : List Char}

def named : Char → Char
  | '0' => '\x00'
  | 't' => '\t'
  | 'r' => '\r'
  | 'n' => '\n'
  | letter => letter

theorem eq_named {letter : Char} (h : shortEscape? c = some letter) : c = named letter := by
  unfold shortEscape? at h
  split at h
  all_goals cases h
  all_goals rfl

/-- A short escape is none by number. -/
theorem ne_u {letter : Char} (h : shortEscape? c = some letter) : letter ≠ 'u' := by
  unfold shortEscape? at h
  split at h
  all_goals cases h
  all_goals decide

theorem ne_of_shortEscape?_eq_none {e : Char} (he : (shortEscape? e).isSome = true)
    (h : shortEscape? c = none) : c ≠ e := by
  rintro rfl
  rw [h] at he
  cases he

theorem numericEscape_inj
    (h : numericEscape c ++ rest = numericEscape d ++ rest') : c = d ∧ rest = rest' := by
  simp only [numericEscape, List.append_assoc, List.singleton_append] at h
  have hbrace (n : Nat) : '\x7d' ∉ Nat.toDigits 16 n :=
    notMem_toDigits (by decide) (by decide) (by decide) n
  obtain ⟨hdigits, hrest⟩ := append_cons_inj (hbrace _) (hbrace _) (List.append_cancel_left h)
  exact ⟨Char.toNat_inj.mp (toDigits_inj (by decide) (by decide) hdigits), hrest⟩

/-- One character is read back, whatever follows it. -/
theorem Shows.inj (h : Shows c shown) (h' : Shows d shown')
    (heq : shown ++ rest = shown' ++ rest') : c = d ∧ rest = rest' := by
  have hbackslash {e : Char} (he : shortEscape? e = none) : e ≠ '\\' :=
    ne_of_shortEscape?_eq_none rfl he
  cases h with
  | short hletter =>
    cases h' with
    | short hletter' =>
      obtain ⟨rfl, hrest⟩ := List.cons.inj (List.cons.inj heq).2
      exact ⟨(eq_named hletter).trans (eq_named hletter').symm, hrest⟩
    | itself hnone => exact absurd (List.cons.inj heq).1.symm (hbackslash hnone)
    | number _ => exact absurd (List.cons.inj (List.cons.inj heq).2).1 (ne_u hletter)
  | itself hnone =>
    cases h' with
    | short _ => exact absurd (List.cons.inj heq).1 (hbackslash hnone)
    | itself _ => exact List.cons.inj heq
    | number _ => exact absurd (List.cons.inj heq).1 (hbackslash hnone)
  | number _ =>
    cases h' with
    | short hletter => exact absurd (List.cons.inj (List.cons.inj heq).2).1.symm (ne_u hletter)
    | itself hnone => exact absurd (List.cons.inj heq).1.symm (hbackslash hnone)
    | number _ => exact numericEscape_inj heq

/-- No character is written so that it could be taken for the closing quote. -/
theorem Shows.exists_first (h : Shows c shown) : ∃ first more, shown = first :: more ∧ first ≠ '"' := by
  cases h with
  | short hletter => exact ⟨_, _, rfl, by decide⟩
  | itself hnone => exact ⟨_, _, rfl, ne_of_shortEscape?_eq_none rfl hnone⟩
  | number hnone => exact ⟨_, _, rfl, by decide⟩

theorem Shows.not_closed (h : Shows c shown) : shown ++ rest ≠ '"' :: rest' := by
  obtain ⟨first, more, rfl, hfirst⟩ := h.exists_first
  exact fun heq => hfirst (List.cons.inj heq).1

theorem ShowsAll.inj {body body' : List Char} (h : ShowsAll text body) (h' : ShowsAll text' body')
    (heq : body ++ '"' :: rest = body' ++ '"' :: rest') : text = text' ∧ rest = rest' := by
  induction h generalizing text' body' with
  | nil =>
    cases h' with
    | nil => exact ⟨rfl, (List.cons.inj heq).2⟩
    | cons hshows _ =>
      rw [List.append_assoc] at heq
      exact absurd heq.symm hshows.not_closed
  | cons hshows _ ih =>
    rw [List.append_assoc] at heq
    cases h' with
    | nil => exact absurd heq hshows.not_closed
    | cons hshows' hall' =>
      rw [List.append_assoc] at heq
      obtain ⟨rfl, htail⟩ := hshows.inj hshows' heq
      obtain ⟨rfl, rfl⟩ := ih hall' htail
      exact ⟨rfl, rfl⟩

/-- A text in quotes is read back, whatever follows it. -/
theorem Quotes.inj {quoted quoted' : List Char} (h : Quotes text quoted) (h' : Quotes text' quoted')
    (heq : quoted ++ rest = quoted' ++ rest') : text = text' ∧ rest = rest' := by
  obtain ⟨body, hall, rfl⟩ := h
  obtain ⟨body', hall', rfl⟩ := h'
  rw [List.cons_append, List.cons_append, List.append_assoc, List.append_assoc] at heq
  exact hall.inj hall' (List.cons.inj heq).2

theorem Quotes.exists_more {quoted : List Char} (h : Quotes text quoted) :
    ∃ more, quoted = '"' :: more := by
  obtain ⟨body, -, rfl⟩ := h
  exact ⟨_, rfl⟩

/-! ## Newlines -/

theorem Shows.newline_notMem (h : Shows c shown) : '\n' ∉ shown := by
  cases h with
  | short hletter =>
    unfold shortEscape? at hletter
    split at hletter
    all_goals cases hletter
    all_goals decide
  | itself hnone =>
    rw [List.mem_singleton]
    exact (ne_of_shortEscape?_eq_none rfl hnone).symm
  | number _ =>
    have hdigits : '\n' ∉ Nat.toDigits 16 c.toNat :=
      notMem_toDigits (by decide) (by decide) (by decide) c.toNat
    simp [numericEscape, hdigits]

theorem Quotes.newline_notMem {quoted : List Char} (h : Quotes text quoted) : '\n' ∉ quoted := by
  obtain ⟨body, hall, rfl⟩ := h
  have hbody : '\n' ∉ body := by
    induction hall with
    | nil => exact List.not_mem_nil
    | cons hshows _ ih =>
      rw [List.mem_append, not_or]
      exact ⟨hshows.newline_notMem, ih⟩
  simp [hbody]

end Quoted
end Text
end LexicalFrontEnd
