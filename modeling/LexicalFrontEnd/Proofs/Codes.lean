import LexicalFrontEnd.Proofs.Operators
import LexicalFrontEnd.Proofs.Protocol

/-!
The code of a token says what the token is.

The operators are in three tables, one for each width, and a code is a place in one of
them: `ofCode?` finds the operator with a given code and no other
(`ofCode?_eq_some_iff`).  A session writes every token into the same record, which
may hold anything by then, and a scan that the source cuts short leaves it half
written.  Whatever is done with the session, the record has a code just where its
kind is known by codes, and the code of an operator is that of the characters that
were read (`coded_performAll`).
-/

namespace LexicalFrontEnd

open Lexeme

/-! ## The tables of operators -/

namespace Operator

variable {o : Operator} {table : List Operator} {i code : Nat}

def ofWidth : Nat → List Operator
  | 1 => singles
  | 2 => doubles
  | 3 => triples
  | _ => []

theorem mem_ofWidth (o : Operator) : o ∈ ofWidth o.width := by
  cases o <;> decide

theorem notMem_triples_of_double (h : o ∈ doubles) : o ∉ triples := by
  revert o
  decide

theorem notMem_longer_of_single (h : o ∈ singles) : o ∉ triples ∧ o ∉ doubles := by
  revert o
  decide

theorem idxOf_of_getElem? (hnodup : table.Nodup) (h : table[i]? = some o) :
    table.idxOf o = i := by
  obtain ⟨hi, rfl⟩ := List.getElem?_eq_some_iff.mp h
  exact hnodup.idxOf_getElem i hi

theorem code_of_triple (h : triples[i]? = some o) : o.code = 4000 + i := by
  rw [code, if_pos (List.mem_of_getElem? h), idxOf_of_getElem? (by decide) h]

theorem code_of_double (h : doubles[i]? = some o) : o.code = 3000 + i := by
  have hdouble := List.mem_of_getElem? h
  rw [code, if_neg (notMem_triples_of_double hdouble), if_pos hdouble,
    idxOf_of_getElem? (by decide) h]

theorem code_of_single (h : singles[i]? = some o) : o.code = 2000 + i := by
  obtain ⟨htriple, hdouble⟩ := notMem_longer_of_single (List.mem_of_getElem? h)
  rw [code, if_neg htriple, if_neg hdouble, idxOf_of_getElem? (by decide) h]

theorem ofCode?_code (o : Operator) : ofCode? o.code = some o := by
  cases o <;> rfl

/-- A code is the code of one operator at most, and that is the one it finds. -/
theorem ofCode?_eq_some_iff : ofCode? code = some o ↔ o.code = code := by
  constructor
  · intro h
    unfold ofCode? at h
    split at h
    · have := code_of_triple h
      omega
    · split at h
      · have := code_of_double h
        omega
      · split at h
        · have := code_of_single h
          omega
        · cases h
  · rintro rfl
    exact ofCode?_code o

end Operator

/-! ## The record of a token -/

namespace Token

/-- A token has a code just where its kind is known by codes, and if it is an operator,
the operator with that code is written as the token is. -/
structure Coded (t : Token) : Prop where
  isSome_iff : t.code?.isSome = true ↔
    t.kind = .keyword ∨ t.kind = .primitiveType ∨ t.kind = .operator
  operator : t.kind = .operator → ∃ code o, t.code? = some code ∧
    Operator.ofCode? code = some o ∧ o.render = t.lexeme ∧
    o.width = t.lexeme.length ∧ o ∈ Operator.ofWidth t.lexeme.length

theorem hasCode_iff {kind : TokenKind} :
    kind.hasCode = true ↔ kind = .keyword ∨ kind = .primitiveType ∨ kind = .operator := by
  cases kind <;> decide

variable (t : Token) (text : String) {kind : TokenKind}

theorem coded_startingAt (p : Position) : (startingAt p).Coded := by
  constructor
  · rw [← hasCode_iff]
    exact Iff.rfl
  · exact TokenKind.noConfusion

/-- Setting the record without a code drops the code of the token before. -/
theorem coded_set (h : kind.hasCode = false) : (t.set text kind).Coded := by
  constructor
  · rw [← hasCode_iff]
    show (none : Option Nat).isSome = true ↔ kind.hasCode = true
    rw [h]
    rfl
  · intro hkind
    rw [show kind = .operator from hkind] at h
    cases h

theorem coded_setCoded {code : Nat} (h : kind.hasCode = true)
    (hoperator : kind = .operator → ∃ o : Operator, o.code = code ∧ o.render = text) :
    (t.setCoded text kind code).Coded := by
  constructor
  · rw [← hasCode_iff]
    exact iff_of_true rfl h
  · intro hkind
    obtain ⟨o, rfl, rfl⟩ := hoperator hkind
    have hlength : o.render.length = o.width := String.length_ofList
    refine ⟨o.code, o, rfl, Operator.ofCode?_code o, rfl, hlength.symm, ?_⟩
    rw [show (t.setCoded o.render kind o.code).lexeme = o.render from rfl, hlength]
    exact Operator.mem_ofWidth o

end Token

/-! ## Lexemes -/

namespace Lexeme

theorem classify_ne_operator (lexicon : Lexicon) (word : List Char) (code? : Option Nat) :
    classify lexicon word ≠ .token .operator code? := by
  rw [classify]
  split
  · rintro ⟨⟩
  · split
    · rintro ⟨⟩
    · rintro ⟨⟩

/-- A lexeme that is taken for an operator is one. -/
theorem exists_operator {lexicon : Lexicon} {c : Char} {text : List Char}
    {code? : Option Nat} (h : (read lexicon c text).verdict = .token .operator code?) :
    ∃ o : Operator, code? = some o.code ∧ (read lexicon c text).text = o.spelling := by
  rcases read_cases lexicon c text with hr | ⟨hc, hr⟩ | ⟨-, hr⟩ | hr | hr | hr
  all_goals rw [hr text rfl] at h ⊢
  · exact absurd h (classify_ne_operator lexicon _ code?)
  · have hright := Number.right_read hc
    rw [Number.Right, h] at hright
    cases hright
  · cases h
  · cases Literal.kind_of_readString h
  · cases Literal.kind_of_readCharacter h
  · rw [readOperator_eq] at h ⊢
    cases ho : Operator.longestAt? (c :: text) with
    | none =>
      rw [ho] at h
      cases h
    | some o =>
      rw [ho] at h
      cases h
      exact ⟨o, rfl, rfl⟩

end Lexeme

theorem Placed.coded_token {x : Placed} (hregular : x.lexeme.verdict.Regular)
    (hoperator : ∀ code?, x.lexeme.verdict = .token .operator code? →
      ∃ o : Operator, code? = some o.code ∧ x.lexeme.text = o.spelling) : x.token.Coded := by
  rw [token]
  cases hverdict : x.lexeme.verdict with
  | malformed problem => exact Token.coded_set (.startingAt x.start) _ rfl
  | token kind code? =>
    rw [hverdict] at hregular
    have hcode : code?.isSome = kind.hasCode := hregular.2
    cases code? with
    | none => exact Token.coded_set (.startingAt x.start) _ hcode.symm
    | some code =>
      refine Token.coded_setCoded (.startingAt x.start) _ hcode.symm ?_
      rintro rfl
      obtain ⟨o, hcode, htext⟩ := hoperator _ hverdict
      exact ⟨o, (Option.some.inj hcode).symm, congrArg String.ofList htext.symm⟩

/-! ## Sessions -/

theorem Cursor.coded_of_found {cursor behind : Cursor} {lexicon : Lexicon} {x : Placed}
    (h : cursor.scan lexicon = .found x.lexeme x.start behind) : x.token.Coded := by
  refine x.coded_token (regular_of_found h) fun code? hverdict => ?_
  have hscanned := scanned lexicon cursor
  rw [h] at hscanned
  obtain ⟨lexeme, start⟩ := x
  cases hscanned with
  | lexeme hgap hstart => exact exists_operator hverdict

namespace Session

variable {s : Session}

theorem coded_scan (h : s.token.Coded) : s.scan.2.token.Coded := by
  rcases s.scan_cases with ⟨cursor, x, behind, -, hscan, hs⟩ | ⟨-, failure, start?, -, -, hs⟩ |
    ⟨-, -, -, hs⟩ | ⟨-, hs⟩
  · rw [hs]
    exact Cursor.coded_of_found hscan
  · rw [hs]
    cases start? with
    | none => exact h
    | some start => exact Token.coded_startingAt start
  · rw [hs]
    exact h
  · rw [hs]
    exact h

theorem coded_perform (h : s.token.Coded) (operation : Operation) :
    (s.perform operation).2.token.Coded := by
  cases operation with
  | attach reader =>
    rw [perform]
    split
    · rename_i hattach
      rw [attach_of_ok hattach]
      exact h
    · rename_i hattach
      rw [attach_of_error hattach]
      exact h
  | scan | next => exact coded_scan h
  | record d => exact h
  | renew => exact h

theorem coded_token_performAll (h : s.token.Coded) (operations : List Operation) :
    (s.performAll operations).2.token.Coded := by
  induction operations generalizing s with
  | nil => exact h
  | cons operation operations ih => exact ih (coded_perform h operation)

/-- However operations follow one another, the code of the token says what it is, and
every code finds the operator that has it, if there is one. -/
theorem coded_performAll (lexicon : Lexicon) (capacity : Nat) (operations : List Operation) :
    ((new lexicon capacity).performAll operations).2.token.Coded ∧
    ∀ code o, Operator.ofCode? code = some o ↔ o.code = code :=
  ⟨coded_token_performAll (Token.coded_startingAt ⟨0, 0⟩) operations,
    fun _ _ => Operator.ofCode?_eq_some_iff⟩

end Session
end LexicalFrontEnd
