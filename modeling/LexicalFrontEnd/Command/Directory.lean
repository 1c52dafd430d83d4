import LexicalFrontEnd.Command.Line

/-!
A directory of plain files for actions to be carried out in.

A path names a directory, which is this one or one above it, or a file.  The
directories above hold nothing but the one on the way to this one, whose name is
not known.  The file system is strict about slashes: nothing lies below a file, a
file is not opened by a name with a slash behind it, and such a name creates
nothing.
-/

namespace LexicalFrontEnd
namespace Command

structure Directory where
  files : List (String × List UInt8)
  deriving DecidableEq, Repr

namespace Directory

/-- What a path leads to: a directory, or a name that may or may not have a file
and may or may not have a slash behind it.  The name lies in this directory
(`inside`) or in one above. -/
inductive Place
  | directory
  | entry (inside : Bool) (name : String) (slash : Bool)
  deriving DecidableEq, Repr

/-- The longest name of a file, in bytes. -/
def maxNameSize : Nat := 255

/-- The longest path, in bytes. -/
def maxPathSize : Nat := 4095

def file? (d : Directory) (inside : Bool) (name : String) : Option (List UInt8) :=
  if inside then d.files.lookup name else none

/-- Look a name up.  One that is too long is refused before it is looked for. -/
def find? (d : Directory) (inside : Bool) (name : String) :
    Except FileError (Option (List UInt8)) :=
  if maxNameSize < name.utf8ByteSize then .error .nameTooLong else .ok (d.file? inside name)

/-- Follow the parts of a path from this directory (`inside`) or from one above.
Above the directory at the top is that directory itself. -/
def follow (d : Directory) (inside : Bool) : List String → Except FileError Place
  | [] => .ok .directory
  | part :: rest =>
    if part = "" ∨ part = "." then d.follow inside rest
    else if part = ".." then d.follow false rest
    else if rest.all (· = "") then .ok (.entry inside part (!rest.isEmpty))
    else
      match d.find? inside part with
      | .error e => .error e
      | .ok (some _) => .error .notDirectory
      | .ok none => .error .notFound

/-- Where a path leads.  One that starts with a slash starts at the top. -/
def locate (d : Directory) (path : String) : Except FileError Place :=
  if path = "" then .error .notFound
  else if maxPathSize < path.utf8ByteSize then .error .nameTooLong
  else d.follow (path.toList.head? != some '/') (path.splitOn "/")

/-- Open a file for reading.  A directory can be opened but not read. -/
def read (d : Directory) (path : String) : Except FileError Source.Reader := do
  match ← d.locate path with
  | .directory => return ⟨[.failure FileError.isDirectory.message], none⟩
  | .entry inside name slash =>
    match ← d.find? inside name with
    | none => throw .notFound
    | some bytes => if slash then throw .notDirectory else return .ofBytes bytes

/-- This directory with a file replaced or added, if the path leads into it. -/
def write (d : Directory) (path : String) (bytes : List UInt8) : Except FileError Directory := do
  match ← d.locate path with
  | .directory => throw .isDirectory
  | .entry inside name slash =>
    if slash then throw .isDirectory
    let _ ← d.find? inside name
    if inside then return ⟨(name, bytes) :: d.files.filter (·.1 != name)⟩ else return d

def run (d : Directory) : Action → Result × Directory
  | .finish result => (result, d)
  | .readFile path next => d.run (next (d.read path))
  | .writeFile path text next =>
    match d.write path (Text.Utf8.encode text.toList) with
    | .error e => d.run (next (.error e))
    | .ok d => d.run (next (.ok ()))

end Directory
end Command
end LexicalFrontEnd
