import LexicalFrontEnd.Proofs.Placement
import LexicalFrontEnd.Proofs.Scanner.Tokens
import LexicalFrontEnd.Proofs.Spelling.Read

/-!
Words are as long as they can be, and are looked up in order.

A word is the longest run of letters, numerals and underscores where it starts.
It is a keyword if that vocabulary knows it, else a primitive type if the other one
does, else an identifier, whatever the vocabularies are (`Span.isWord_of_read`).
Those of the language know just the words that they spell, and have no word in
common, so there the order does not show (`Span.IsWord.standard`).
-/

namespace LexicalFrontEnd

open Lexeme

def StartsWord (text : List Char) : Prop :=
  ∃ c rest, (Unicode.isAlphabetic c = true ∨ c = '_') ∧ text = c :: rest

def IsRun (text : List Char) : Prop := ∀ c ∈ text, Unicode.isAlphanumeric c = true ∨ c = '_'

structure Span.IsWord (x : Span) (lexicon : Lexicon) (span behind : List Char) : Prop where
  longest : LongestFront IsRun (span ++ behind) span
  silent : x.complaint? = none
  keyword : ∀ code, x.token = ⟨String.ofList span, .keyword, some code, x.start⟩ ↔
    lexicon.keyword? (String.ofList span) = some code
  primitiveType : ∀ code, x.token = ⟨String.ofList span, .primitiveType, some code, x.start⟩ ↔
    lexicon.keyword? (String.ofList span) = none ∧
      lexicon.primitiveType? (String.ofList span) = some code
  identifier : x.token = ⟨String.ofList span, .identifier, none, x.start⟩ ↔
    lexicon.keyword? (String.ofList span) = none ∧
      lexicon.primitiveType? (String.ofList span) = none

structure Span.IsStandardWord (x : Span) (span : List Char) : Prop where
  reserved : x.token.kind = .keyword ∨ x.token.kind = .primitiveType ↔
    (∃ k : Keyword, k.spelling = String.ofList span) ∨
      ∃ t : PrimitiveType, t.spelling = String.ofList span
  keyword : ∀ code, x.token = ⟨String.ofList span, .keyword, some code, x.start⟩ ↔
    ∃ k : Keyword, k.spelling = String.ofList span ∧ k.code = code
  primitiveType : ∀ code, x.token = ⟨String.ofList span, .primitiveType, some code, x.start⟩ ↔
    ∃ t : PrimitiveType, t.spelling = String.ofList span ∧ t.code = code

/-! ## The longest run -/

namespace Lexeme

theorem continuesWord_iff {c : Char} :
    continuesWord c = true ↔ Unicode.isAlphanumeric c = true ∨ c = '_' := by
  rw [continuesWord, Bool.or_eq_true, beq_iff_eq]

theorem isRun_iff {run : List Char} : IsRun run ↔ ∀ c ∈ run, continuesWord c = true :=
  forall₂_congr fun _ _ => continuesWord_iff.symm

theorem longest_takeWhile (text : List Char) :
    LongestFront IsRun text (text.takeWhile continuesWord) := by
  refine ⟨List.takeWhile_prefix _, isRun_iff.mpr ?_, ?_⟩
  · exact fun c hc => List.all_eq_true.mp List.all_takeWhile c hc
  · rintro run ⟨rest, rfl⟩ hrun
    rw [List.takeWhile_append_of_pos (isRun_iff.mp hrun), List.length_append]
    exact Nat.le_add_right _ _

theorem read_word {c : Char} (hc : startsWord c = true) (lexicon : Lexicon) (rest : List Char) :
    read lexicon c rest =
      verbatim (classify lexicon ((c :: rest).takeWhile continuesWord))
        ((c :: rest).takeWhile continuesWord) := by
  rw [read, if_pos hc, readWord,
    List.takeWhile_cons_of_pos (Scanner.continuesWord_of_startsWord hc)]

/-! ## The order of the vocabularies -/

theorem exists_classify (lexicon : Lexicon) (word : List Char) :
    ∃ kind code?, classify lexicon word = .token kind code? := by
  rw [classify]
  cases lexicon.keyword? (String.ofList word) with
  | some code => exact ⟨_, _, rfl⟩
  | none => cases lexicon.primitiveType? (String.ofList word) <;> exact ⟨_, _, rfl⟩

/-- The three answers, each with what the vocabularies say then. -/
theorem classify_iff (lexicon : Lexicon) (word : List Char) :
    (∀ code, classify lexicon word = .token .keyword (some code) ↔
      lexicon.keyword? (String.ofList word) = some code) ∧
    (∀ code, classify lexicon word = .token .primitiveType (some code) ↔
      lexicon.keyword? (String.ofList word) = none ∧
        lexicon.primitiveType? (String.ofList word) = some code) ∧
    (classify lexicon word = .token .identifier none ↔
      lexicon.keyword? (String.ofList word) = none ∧
        lexicon.primitiveType? (String.ofList word) = none) := by
  rw [classify]
  cases lexicon.keyword? (String.ofList word) with
  | some code => simp
  | none => cases lexicon.primitiveType? (String.ofList word) <;> simp

example : classify (.ofEntries [("yield", 9000)] [("yield", 9500)]) ['y', 'i', 'e', 'l', 'd'] =
    .token .keyword (some 9000) := by decide +kernel

end Lexeme

namespace Span

variable {x : Span} {lexicon : Lexicon} {span behind : List Char}

theorem token_eq_iff {kind : TokenKind} (hkind : kind ≠ .invalid) {code? : Option Nat} :
    x.token = ⟨String.ofList span, kind, code?, x.start⟩ ↔
      x.lexeme.verdict = .token kind code? ∧ x.lexeme.text = span := by
  rw [Placed.token]
  cases x.lexeme.verdict with
  | token kind' code'? => simp [String.ofList_inj, and_comm]
  | malformed problem => simp [hkind.symm]

theorem isWord_of_lexeme (hlongest : LongestFront IsRun (span ++ behind) span)
    (h : x.lexeme = verbatim (classify lexicon span) span) : x.IsWord lexicon span behind := by
  have htoken {kind : TokenKind} (hkind : kind ≠ .invalid) {code? : Option Nat} :
      x.token = ⟨String.ofList span, kind, code?, x.start⟩ ↔
        classify lexicon span = .token kind code? := by
    rw [token_eq_iff hkind, h]
    exact and_iff_left rfl
  obtain ⟨hkeyword, htype, hidentifier⟩ := classify_iff lexicon span
  refine ⟨hlongest, ?_, ?_, ?_, ?_⟩
  · obtain ⟨kind, code?, hclassify⟩ := exists_classify lexicon span
    rw [Placed.complaint?, h, hclassify]
    rfl
  · exact fun code => (htoken (by decide)).trans (hkeyword code)
  · exact fun code => (htoken (by decide)).trans (htype code)
  · exact (htoken (by decide)).trans hidentifier

theorem isWord_of_read {c : Char} {rest : List Char} (hc : startsWord c = true)
    (h : x.lexeme = read lexicon c rest) :
    x.IsWord lexicon ((c :: rest).take x.lexeme.width) ((c :: rest).drop x.lexeme.width) := by
  have hlongest := longest_takeWhile (c :: rest)
  rw [read_word hc] at h
  have hspan : (c :: rest).take x.lexeme.width = (c :: rest).takeWhile continuesWord := by
    rw [h]
    exact (List.prefix_iff_eq_take.mp hlongest.starts).symm
  apply isWord_of_lexeme
  · rwa [List.take_append_drop, hspan]
  · rwa [hspan]

theorem IsWord.reserved_iff (h : x.IsWord lexicon span behind) :
    x.token.kind = .keyword ∨ x.token.kind = .primitiveType ↔
      (∃ code, lexicon.keyword? (String.ofList span) = some code) ∨
        ∃ code, lexicon.primitiveType? (String.ofList span) = some code := by
  cases hkeyword : lexicon.keyword? (String.ofList span) with
  | some code =>
    rw [(h.keyword code).mpr hkeyword]
    simp
  | none =>
    cases htype : lexicon.primitiveType? (String.ofList span) with
    | some code =>
      rw [(h.primitiveType code).mpr ⟨hkeyword, htype⟩]
      simp
    | none =>
      rw [h.identifier.mpr ⟨hkeyword, htype⟩]
      simp

end Span

/-! ## The vocabularies of the language -/

namespace Lexicon

variable {word : String} {code : Nat}

theorem keyword?_standard_iff :
    standard.keyword? word = some code ↔ ∃ k : Keyword, k.spelling = word ∧ k.code = code := by
  show (Keyword.ofSpelling? word).map Keyword.code = some code ↔ _
  simp only [Option.map_eq_some_iff, Keyword.ofSpelling?_eq_some_iff]

theorem primitiveType?_standard_iff : standard.primitiveType? word = some code ↔
    ∃ t : PrimitiveType, t.spelling = word ∧ t.code = code := by
  show (PrimitiveType.ofSpelling? word).map PrimitiveType.code = some code ↔ _
  simp only [Option.map_eq_some_iff, PrimitiveType.ofSpelling?_eq_some_iff]

theorem keyword?_spelling (t : PrimitiveType) : standard.keyword? t.spelling = none := by
  show (Keyword.ofSpelling? t.spelling).map Keyword.code = none
  rw [Keyword.ofSpelling?_primitiveType, Option.map_none]

end Lexicon

theorem Span.IsWord.standard {x : Span} {span behind : List Char}
    (h : x.IsWord .standard span behind) : x.IsStandardWord span := by
  refine ⟨?_, fun code => (h.keyword code).trans Lexicon.keyword?_standard_iff, fun code => ?_⟩
  · rw [h.reserved_iff]
    simp only [Lexicon.keyword?_standard_iff, Lexicon.primitiveType?_standard_iff,
      @exists_comm Nat, exists_and_left, exists_eq', and_true]
  · rw [h.primitiveType code, Lexicon.primitiveType?_standard_iff, and_iff_right_iff_imp]
    rintro ⟨t, ht, -⟩
    rw [← ht]
    exact Lexicon.keyword?_spelling t

/-- Where a word starts, the token is the longest run of the characters of words, and
what the vocabularies of the session say of it. -/
theorem Session.read_words (s : Session) (text : String) :
    let run := s.read (.ofBytes (Text.Utf8.encode text.toList))
    let lexemes := spans s.lexicon text.toList
    run.scans = lexemes.map (fun x => (x.outcome, x.token)) ∧ run.last = .exhausted ∧
    run.session.log.toList = s.log.toList ++ lexemes.filterMap (·.complaint?) ∧
    Scanner.Finds s.lexicon text.toList s.capacity (lexemes.map (·.token)) ∧
    ∀ x ∈ lexemes, ∃ before span behind, x.Takes text.toList before span behind ∧
      (StartsWord (span ++ behind) → x.IsWord s.lexicon span behind ∧
        (s.lexicon = .standard → x.IsStandardWord span)) := by
  intro run lexemes
  obtain ⟨hscans, hlast, hlog⟩ := s.read_eq_spans text.toList
  refine ⟨hscans, hlast, hlog, Scanner.finds_spans _ _ _, fun x hx => ?_⟩
  obtain ⟨before, c, rest, -, hlexeme, htakes⟩ := exists_takes hx
  refine ⟨before, _, _, htakes, fun hstart => ?_⟩
  rw [List.take_append_drop] at hstart
  obtain ⟨first, more, hfirst, htext⟩ := hstart
  obtain ⟨rfl, rfl⟩ := List.cons.inj htext
  have hc : startsWord c = true := by rwa [startsWord, Bool.or_eq_true, beq_iff_eq]
  rw [← hlexeme]
  have hword := Span.isWord_of_read hc hlexeme
  exact ⟨hword, fun hstandard => Span.IsWord.standard (hstandard ▸ hword)⟩

end LexicalFrontEnd
