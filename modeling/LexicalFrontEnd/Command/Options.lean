import LexicalFrontEnd.Command.Error
import LexicalFrontEnd.Lexeme.Number
import LexicalFrontEnd.Source.Decoder

/-!
The arguments of the listing command: a path and options in any order.

An option may be given again, and then the last one counts.  The first argument
that is wrong decides the error.
-/

namespace LexicalFrontEnd
namespace Command

structure Options where
  path : String
  color : Output.ColorMode
  capacity : Nat
  deriving DecidableEq, Repr

def digitsValue (digits : List Char) : Nat :=
  digits.foldl (fun n c => 10 * n + (c.toNat - '0'.toNat)) 0

/-- A capacity: decimal digits with an optional plus sign, of a value from 1 up to
the largest number of 64 bits. -/
def capacity? (text : List Char) : Option Nat :=
  let digits := match text with
    | '+' :: rest => rest
    | _ => text
  let n := digitsValue digits
  if digits.all Lexeme.Number.isDecimal ∧ 0 < n ∧ n < UInt64.size then some n else none

inductive Argument
  | capacity (text : List Char)
  | color (name : String)
  | other (text : String)
  deriving DecidableEq, Repr

def Argument.ofString (text : String) : Argument :=
  match "--buffer-size=".toList.isPrefixOf? text.toList with
  | some rest => .capacity rest
  | none =>
    match "--color=".toList.isPrefixOf? text.toList with
    | some rest => .color (String.ofList rest)
    | none => .other text

namespace Options

/-- Read arguments from left to right, where the ones before gave this path, if
any, and these options. -/
def parseFrom (path? : Option String) (color : Output.ColorMode) (capacity : Nat) :
    List String → Except Error Options
  | [] =>
    match path? with
    | some path => .ok ⟨path, color, capacity⟩
    | none => .error (.missingArgument "file path")
  | argument :: rest =>
    match Argument.ofString argument with
    | .capacity text =>
      match capacity? text with
      | some capacity => parseFrom path? color capacity rest
      | none => .error (.badCapacity (String.ofList text))
    | .color name =>
      match Output.ColorMode.ofName? name with
      | some color => parseFrom path? color capacity rest
      | none => .error (.unknownColor name)
    | .other text =>
      if text.toList.head? = some '-' ∨ path?.isSome then .error (.unknownOption text)
      else parseFrom (some text) color capacity rest

/-- Read the arguments; without options the colours depend on the terminal and the
capacity is the usual one. -/
def parse (arguments : List String) : Except Error Options :=
  parseFrom none .auto Source.Buffer.defaultCapacity arguments

end Options
end Command
end LexicalFrontEnd
