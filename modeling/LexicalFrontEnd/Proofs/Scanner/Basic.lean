import LexicalFrontEnd.Proofs.Source.Standing

/-!
The scanner, one character at a time.

`Cursor.scan` sees all characters that are still to come.  A scanner sees the
current character and may look at the one behind it; at the end of its source the
current character reads as NUL, which a text may hold as well.  Each of its loops
is given a number of rounds, and a scan in which a loop does not end in its rounds
gives nothing.
-/

namespace LexicalFrontEnd

/-- A scanner at work: its source, and the text of the lexeme so far. -/
structure Scanner where
  source : Source
  text : List Char

namespace Scanner

/-- What reads as the current character at the end of a source. -/
def sentinel : Char := '\x00'

/-- A part of a scan.  It may meet a failure of the source; it gives nothing if a
loop in it runs out of rounds. -/
abbrev Action (α : Type) := StateT Scanner (ExceptT ReadFailure Option) α

/-! ## What a scanner can do -/

def current : Action Char := do return (← get).source.current?.getD sentinel

def isAtEnd : Action Bool := do return (← get).source.isAtEnd

def textSoFar : Action (List Char) := do return (← get).text

def advance : Action Unit := fun scanner =>
  ExceptT.mk (some (scanner.source.moveOn.map fun source => ((), { scanner with source })))

def peek : Action Char := fun scanner =>
  ExceptT.mk (some (scanner.source.lookOn.map fun (next?, source) =>
    (next?.getD sentinel, { scanner with source })))

def setText (text : List Char) : Action Unit := modify fun scanner => { scanner with text }

def push (c : Char) : Action Unit := do setText ((← textSoFar) ++ [c])

/-- Take the current character into the lexeme. -/
def bump : Action Unit := do
  push (← current)
  advance

def stuck {α : Type} : Action α := fun _ => ExceptT.mk none

/-! ## Trivia -/

def advanceWhile (p : Char → Bool) : Nat → Action Unit
  | 0 => stuck
  | rounds + 1 => do
    if p (← current) then
      advance
      advanceWhile p rounds
    else return ()

def passComment : Nat → Action Unit
  | 0 => stuck
  | rounds + 1 => do
    if (← isAtEnd) || (← current) == '\n' then return ()
    else
      advance
      passComment rounds

def skipTrivia : Nat → Action Unit
  | 0 => stuck
  | rounds + 1 => do
    advanceWhile Unicode.isBlank (rounds + 1)
    if (← current) == '/' then
      if (← peek) == '/' then
        passComment (rounds + 1)
        skipTrivia rounds
      else return ()
    else return ()

/-! ## Words, numbers and operators -/

/-- Take characters while they satisfy `p`, and count them. -/
def bumpWhile (p : Char → Bool) : Nat → Action Nat
  | 0 => stuck
  | rounds + 1 => do
    if p (← current) then
      bump
      return (← bumpWhile p rounds) + 1
    else return 0

def word (lexicon : Lexicon) (rounds : Nat) : Action Verdict := do
  let _ ← bumpWhile Lexeme.continuesWord rounds
  return Lexeme.classify lexicon (← textSoFar)

def digits (kind : TokenKind) (problem : Problem) (base rounds : Nat) : Action Verdict := do
  if (← bumpWhile (Lexeme.Number.isDigit base) rounds) == 0 then return .malformed problem
  else return .token kind none

def exponent (rounds : Nat) : Action Verdict := do
  bump
  if (← current) == '-' then
    bump
    digits .real .malformedReal 10 rounds
  else digits .real .malformedReal 10 rounds

def withExponent (kind : TokenKind) (rounds : Nat) : Action Verdict := do
  let c ← current
  if c == 'e' || c == 'E' then exponent rounds else return .token kind none

def afterWhole (rounds : Nat) : Action Verdict := do
  if (← current) == '.' then
    bump
    if (← bumpWhile (Lexeme.Number.isDigit 10) rounds) == 0 then return .malformed .malformedReal
    else withExponent .real rounds
  else withExponent .integer rounds

def decimal (rounds : Nat) : Action Verdict := do
  if (← bumpWhile (Lexeme.Number.isDigit 10) rounds) == 0 then return .malformed .malformedInteger
  else afterWhole rounds

def unsigned (rounds : Nat) : Action Verdict := do
  if (← current) == '0' then
    match Lexeme.Number.base? (← peek) with
    | some base =>
      bump
      bump
      digits .integer .malformedInteger base rounds
    | none => decimal rounds
  else decimal rounds

def number (rounds : Nat) : Action Verdict := do
  if (← current) == '-' then
    bump
    unsigned rounds
  else unsigned rounds

/-- A real without a digit before its point. -/
def pointed (rounds : Nat) : Action Verdict := do
  bump
  let _ ← bumpWhile (Lexeme.Number.isDigit 10) rounds
  let _ ← withExponent .real rounds
  return .malformed .malformedReal

def operator : Action Verdict := do
  let first ← current
  let second ← peek
  match Operator.ofSpelling? [first, second] with
  | some two =>
    bump
    bump
    match Operator.ofSpelling? [first, second, ← current] with
    | some three =>
      bump
      return .token .operator (some three.code)
    | none => return .token .operator (some two.code)
  | none =>
    bump
    match Operator.ofSpelling? [first] with
    | some one => return .token .operator (some one.code)
    | none => return .malformed .strayCharacter

/-! ## Literals -/

def passOver (quote : Char) : Nat → Action Lexeme.Literal.Ending
  | 0 => stuck
  | rounds + 1 => do
    if ← isAtEnd then return .text
    else
      let c ← current
      if c == '\n' then return .line
      else
        bump
        if c == quote then return .quote
        else if c == '\\' && !(← isAtEnd) && (← current) != '\n' then
          bump
          passOver quote rounds
        else passOver quote rounds

def body : Nat → Action Verdict
  | 0 => stuck
  | rounds + 1 => do
    if (← isAtEnd) || (← current) == '\n' then return .malformed .unclosedString
    else
      let c ← current
      if c == '"' then
        advance
        -- The opening quote is kept only by strings that are malformed.
        setText (← textSoFar).tail
        return .token .string none
      else if c == '\\' then
        advance
        if ← isAtEnd then
          push '\\'
          return .malformed .unclosedString
        else
          match Escape.decode? (← current) with
          | some d =>
            push d
            advance
            body rounds
          | none =>
            push '\\'
            let _ ← passOver '"' rounds
            return .malformed .unknownEscape
      else
        push c
        advance
        body rounds

def string (rounds : Nat) : Action Verdict := do
  bump
  body rounds

/-- A character literal whose character `c` is read. -/
def close (c : Char) (rounds : Nat) : Action Verdict := do
  if (← current) == '\'' then
    advance
    setText [c]
    return .token .character none
  else return .malformed (← passOver '\'' rounds).problem

def character (rounds : Nat) : Action Verdict := do
  bump
  if ← isAtEnd then return .malformed .characterCutByEnd
  else
    let c ← current
    if c == '\n' then return .malformed .characterCutByLine
    else if c == '\'' then
      bump
      return .malformed .emptyCharacter
    else if c == '\\' then
      bump
      if ← isAtEnd then return .malformed .characterCutByEnd
      else
        match Escape.decode? (← current) with
        | some d =>
          bump
          close d rounds
        | none =>
          let _ ← passOver '\'' rounds
          return .malformed .unknownEscape
    else
      bump
      close c rounds

/-! ## Scans -/

def lexeme (lexicon : Lexicon) (rounds : Nat) : Action Verdict := do
  let c ← current
  if Lexeme.startsWord c then word lexicon rounds
  else if Lexeme.Number.isDecimal c then number rounds
  else if c == '-' then
    if Lexeme.Number.isDecimal (← peek) then number rounds else operator
  else if c == '.' then
    if Lexeme.Number.isDecimal (← peek) then pointed rounds else operator
  else if c == '"' then string rounds
  else if c == '\'' then character rounds
  else operator

/-- What a scan came to: a source at its end, a failure, or a lexeme and the source
behind it. -/
inductive Result
  | exhausted (source : Source)
  | failed (failure : ReadFailure) (start? : Option Position)
  | found (verdict : Verdict) (text : List Char) (start : Position) (next : Source)

/-- Find the next lexeme of a source, if no loop needs more rounds than are
given. -/
def scan (lexicon : Lexicon) (rounds : Nat) (source : Source) : Option Result :=
  match skipTrivia rounds ⟨source, []⟩ with
  | none => none
  | some (.error failure) => some (.failed failure none)
  | some (.ok ((), scanner)) =>
    if scanner.source.isAtEnd then some (.exhausted scanner.source)
    else
      let start := scanner.source.position
      match lexeme lexicon rounds scanner with
      | none => none
      | some (.error failure) => some (.failed failure (some start))
      | some (.ok (verdict, scanner)) =>
        some (.found verdict scanner.text start scanner.source)

end Scanner
end LexicalFrontEnd
