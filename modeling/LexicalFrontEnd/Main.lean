import LexicalFrontEnd.Command.Line

/-!
The program: the action that the command line asks for, carried out on the files
of the system.
-/

open LexicalFrontEnd
open LexicalFrontEnd.Command

/-- The reason that the system gives for a failure, by its number. -/
def fileErrorOf (e : IO.Error) : FileError :=
  let number := match e with
    | .noFileOrDirectory _ n _ | .permissionDenied _ n _ | .inappropriateType _ n _
    | .invalidArgument _ n _ => n
    | .illegalOperation n _ | .otherError n _ => n
    | _ => 0
  match number with
  | 2 => .notFound
  | 13 => .permissionDenied
  | 20 => .notDirectory
  | 21 => .isDirectory
  | 36 => .nameTooLong
  | _ => .other e.toString

/-- Read an open file to its end.  One that cannot be read gives a reader that
fails. -/
def readerOf (handle : IO.FS.Handle) : IO Source.Reader := do
  try
    return .ofBytes (← handle.readBinToEnd).toList
  catch e => return ⟨[.failure (fileErrorOf e).message], none⟩

def openFile (path : String) : IO (Except FileError Source.Reader) := do
  try
    return .ok (← readerOf (← IO.FS.Handle.mk path .read))
  catch e => return .error (fileErrorOf e)

def replaceFile (path text : String) : IO (Except FileError Unit) := do
  try
    IO.FS.writeFile path text
    return .ok ()
  catch e => return .error (fileErrorOf e)

def perform : Action → IO UInt32
  | .finish result => do
    IO.print result.stdout
    IO.eprint result.stderr
    return result.exitCode.toUInt32
  | .readFile path next => do perform (next (← openFile path))
  | .writeFile path text next => do perform (next (← replaceFile path text))

def main (arguments : List String) : IO UInt32 := do
  perform (.ofArguments (← (← IO.getStderr).isTty) arguments)
