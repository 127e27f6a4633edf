/-!
# Files

A snapshot of the files that a compilation reads: contents by path, and the directories that exist
besides those that hold files. Paths are texts with slashes; empty components and single dots do
not count, and two dots lead back.
-/

namespace MissionBase

/-- The path of an entry of a directory. -/
def joinPath (directory entry : String) : String :=
  if entry.startsWith "/" then entry
  else if directory.isEmpty then entry
  else if directory.endsWith "/" then directory ++ entry
  else directory ++ "/" ++ entry

/-- The components of a path, where `..` takes back the component before it. -/
def pathComponents (path : String) : List String :=
  let step (acc : List String) (part : String) : List String :=
    if part.isEmpty || part == "." then acc
    else if part == ".." then acc.tail
    else part :: acc
  (((path.toList.splitOn '/').map String.ofList).foldl step []).reverse

/-- Why a file cannot be read or written. -/
inductive FileFault where
  | missing
  | notDirectory
  | isDirectory
  | notText
  deriving Repr, DecidableEq

/-- The wording of the operating system, or of the decoder of texts. -/
def FileFault.message : FileFault → String
  | missing => "No such file or directory (os error 2)"
  | notDirectory => "Not a directory (os error 20)"
  | isDirectory => "Is a directory (os error 21)"
  | notText => "stream did not contain valid UTF-8"

/-- A snapshot of files. -/
structure Files where
  contents : List (List String × List UInt8) := []
  directories : List (List String) := []

namespace Files

/-- Whether a file lies at a path. -/
def isFile (files : Files) (path : String) : Bool :=
  let parts := pathComponents path
  files.contents.any fun e => e.1 == parts

/-- Whether the components lead to a directory: one that is listed, or one above a listed
directory or a file. -/
def holdsDirectory (files : Files) (parts : List String) : Bool :=
  files.directories.any (fun d => parts.isPrefixOf d) ||
    files.contents.any fun e => parts.isPrefixOf e.1 && e.1 != parts

/-- Whether a path leads to a directory. -/
def isDirectory (files : Files) (path : String) : Bool :=
  files.holdsDirectory (pathComponents path)

/-- Whether a file stands where a path needs a directory. -/
def crossesFile (files : Files) (parts : List String) : Bool :=
  files.contents.any fun e => e.1.isPrefixOf parts && e.1 != parts

/-- The contents of the file at a path. -/
def read (files : Files) (path : String) : Except FileFault (List UInt8) :=
  let parts := pathComponents path
  match files.contents.find? fun e => e.1 == parts with
  | some e => if path.endsWith "/" then .error .notDirectory else .ok e.2
  | none =>
    if files.holdsDirectory parts then .error .isDirectory
    else if files.crossesFile parts then .error .notDirectory
    else .error .missing

/-- Why a file could not be written at a path, if so. A slash at the end asks for a directory. -/
def writeFault? (files : Files) (path : String) : Option FileFault :=
  let parts := pathComponents path
  if files.crossesFile parts then some .notDirectory
  else if !files.holdsDirectory parts.dropLast then some .missing
  else if files.holdsDirectory parts || path.endsWith "/" then some .isDirectory
  else none

end Files

end MissionBase
