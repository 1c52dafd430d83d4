import LexicalFrontEnd.Diagnostic.Problem
import LexicalFrontEnd.Escape

/-!
The reference that users read: an entry for every problem, and the escape
sequences.  Each part is a list of lines, ends of lines included.
-/

namespace LexicalFrontEnd
namespace Reference

/-- A line under a heading, indented unless it is empty. -/
def indented (line : String) : String := if line.isEmpty then "\n" else s!"    {line}\n"

def entry (p : Problem) : List String :=
  s!"{p.code}: {p.title}\n" :: p.explanation.map indented

def explain (p : Problem) : String := String.join (entry p)

def chapter (s : Series) : List String :=
  let heading := s!"{s.name} Errors ({s.codePrefix})"
  ["\n", heading ++ "\n", String.ofList (List.replicate heading.length '-') ++ "\n",
   s.description ++ "\n"]
    ++ s.problems.flatMap fun p => "\n" :: entry p

def problems : List String :=
  ["Error Codes\n", "===========\n"] ++ Series.all.flatMap chapter

def escapes : List String :=
  ["Escape Sequences\n", "================\n",
   "Strings and character literals accept the following escape sequences:\n", "\n"]
    ++ Escape.table.map fun e => s!"    \\{e.letter}    {e.description}\n"

def document : String := String.join (problems ++ ["\n"] ++ escapes)

end Reference
end LexicalFrontEnd
