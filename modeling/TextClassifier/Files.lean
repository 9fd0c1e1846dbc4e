import TextClassifier.Text.Malformed

/-!
# Files

The files and directories that a run finds, and what paths lead to. A path is followed part by part,
from the directory of the run or from the root, and each part but the last must be a directory.
Files are kept by the names of tidy paths.
-/
namespace TextClassifier
open Text (Bytes)

/-- Why a file cannot be opened. -/
inductive FileError where
  /-- There is no file of that name, or no directory to put it into. -/
  | absent
  /-- The path names a directory. -/
  | directory
  /-- The path leads through a file. -/
  | throughFile
  /-- The path or one of its parts is too long. -/
  | tooLong
  /-- The path holds a character that no name may have. -/
  | noName
  deriving DecidableEq, Repr

/-- Files with their contents, and directories. -/
structure Files where
  contents : List (String × Bytes)
  directories : List String := []
  deriving Repr

namespace Files

/-- The parts of a path; that of the root is empty. -/
def parts (path : String) : List String := path.splitOn "/"

def join (parts : List String) : String := "/".intercalate parts

/-- Whether a part of a path leads nowhere else. -/
def staysHere (part : String) : Bool := part == "" || part == "."

/-- Where a path begins: at the root or at the directory of the run. -/
def start (path : String) : List String := if path.startsWith "/" then [""] else []

/-- A path without the parts that lead nowhere else. -/
def tidy (path : String) : String :=
  match start path ++ (parts path).filter fun part => !staysHere part with
  | [] => "."
  | [""] => "/"
  | parts => join parts

/-- The parts of the directory above one. Nothing is above the root, and what is above the directory
of the run has no other name. -/
def above (here : List String) : List String :=
  match here.getLast? with
  | none | some ".." => here ++ [".."]
  | some "" => here
  | some _ => here.dropLast

def find? (fs : Files) (name : String) : Option Bytes := fs.contents.lookup name

/-- Whether a name that is no file's is a directory's: one that is given, or one around another or
around a file. -/
def isDirectory (fs : Files) (name : String) : Bool :=
  (fs.directories.map tidy ++ fs.contents.map (·.1)).any fun other =>
    (parts name).isPrefixOf (parts other)

/-- What a path leads to. -/
inductive Place where
  | directory
  | file (name : String) (bytes : Bytes)
  /-- A name that is free, in a directory. -/
  | free (name : String)
  deriving Repr

/-- The greatest number of bytes in a name. -/
def longestName : Nat := 255

/-- The number of bytes from which on a path is too long. -/
def pathLimit : Nat := 4096

/-- Follows the parts of a path from a directory on. -/
def follow (fs : Files) (here : List String) : List String → Except FileError Place
  | [] => .ok .directory
  | part :: rest =>
    if staysHere part then follow fs here rest
    else if part = ".." then follow fs (above here) rest
    else if longestName < part.utf8ByteSize then .error .tooLong
    else
      let name := join (here ++ [part])
      match fs.find? name with
      | some bytes => if rest.isEmpty then .ok (.file name bytes) else .error .throughFile
      | none =>
        if fs.isDirectory name then follow fs (here ++ [part]) rest
        else if rest.isEmpty then .ok (.free name)
        else .error .absent

/-- What a path leads to, or why it leads to nothing. -/
def locate (fs : Files) (path : String) : Except FileError Place :=
  if path.toList.contains (Char.ofNat 0) then .error .noName
  else if path = "" then .error .absent
  else if pathLimit ≤ path.utf8ByteSize then .error .tooLong
  else follow fs (start path) (parts path)

/-- Whether a path leads to a file or a directory, which cannot be told of a path too long. -/
def exists? (fs : Files) (path : String) : Except FileError Bool :=
  match fs.locate (tidy path) with
  | .ok (.free _) => .ok false
  | .ok _ => .ok true
  | .error .tooLong => .error .tooLong
  | .error _ => .ok false

def read (fs : Files) (path : String) : Except FileError Bytes :=
  match fs.locate path with
  | .ok (.file _ bytes) => .ok bytes
  | .ok .directory => .error .directory
  | .ok (.free _) => .error .absent
  | .error e => .error e

/-- Files with new contents under a name. -/
def put (fs : Files) (name : String) (bytes : Bytes) : Files :=
  { fs with contents := (name, bytes) :: fs.contents.filter (·.1 != name) }

/-- A path without slashes at its end. -/
def unslashed (path : String) : String :=
  String.ofList (path.toList.reverse.dropWhile (· == '/')).reverse

/-- Files with new contents at a path. A slash at the end asks for a directory. -/
def write (fs : Files) (path : String) (bytes : Bytes) : Except FileError Files :=
  let bare := if path.endsWith "/" && tidy path != "/" then unslashed path else path
  match fs.locate bare with
  | .ok .directory => .error .directory
  | .ok (.file name _) | .ok (.free name) =>
    if bare = path then .ok (fs.put name bytes) else .error .directory
  | .error e => .error e

end Files
end TextClassifier
