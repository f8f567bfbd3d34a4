/-!
# Files

Why a file cannot be read as text, and how its bytes become a text.

`Folder` is a stand-in for the file system: files that are held in memory, for trying the
command without a disk.  The program does not use it, it reads its files from the system, and
no result is about it.
-/

namespace BuzzerScript

/-- Why a file cannot be read as text. -/
inductive ReadFailure where
  | missing
  | isDirectory
  /-- A part of the path before its end is a file. -/
  | notDirectory
  | nameTooLong
  | notText
  /-- Another reason of the system. -/
  | system (reason : String)
  deriving DecidableEq, Repr

/-- The wording of a failure. -/
def ReadFailure.message : ReadFailure → String
  | .missing => "No such file or directory (os error 2)"
  | .isDirectory => "Is a directory (os error 21)"
  | .notDirectory => "Not a directory (os error 20)"
  | .nameTooLong => "File name too long (os error 36)"
  | .notText => "stream did not contain valid UTF-8"
  | .system reason => reason

/-- Bytes as a text. -/
def textOfBytes (bytes : ByteArray) : Except ReadFailure String :=
  match String.fromUTF8? bytes with
  | some text => .ok text
  | none => .error .notText

/-! ## A stand-in for the file system -/

/-- A folder, given by the files in it; a file in a folder below has a path with slashes. -/
structure Folder where
  files : List (String × ByteArray)

namespace Folder

/-- The names that a path consists of, without those that stay at a place. -/
def names (path : String) : List String :=
  (path.splitOn "/").filter fun name => name ≠ "" ∧ name ≠ "."

/-- The file that the names lead to. -/
def file? (folder : Folder) (place : List String) : Option ByteArray :=
  (folder.files.find? fun file => names file.1 = place).map Prod.snd

/-- Whether the names lead to a folder. -/
def isFolder (folder : Folder) (place : List String) : Bool :=
  place = [] || folder.files.any fun file =>
    place ≠ names file.1 && place.isPrefixOf (names file.1)

/-- The most bytes that a name may have. -/
def longestName : Nat := 255

/-- The most bytes that a path may have. -/
def longestPath : Nat := 4095

/-- What is found by going up from the folder: the folders above it exist, and nothing
else is known to. -/
def above : List String → ReadFailure
  | [] => .isDirectory
  | name :: rest =>
    if name = "" ∨ name = "." ∨ name = ".." then above rest
    else if longestName < name.utf8ByteSize then .nameTooLong
    else .missing

/-- The folders that every system has at its root. -/
def systemFolders : List String :=
  ["bin", "dev", "etc", "home", "lib", "proc", "sbin", "sys", "tmp", "usr", "var"]

/-- What is found from the root on: the folders that every system has, and the device that
is an empty file. -/
def fromRoot (names : List String) : Except ReadFailure String :=
  match names with
  | "dev" :: "null" :: rest => if rest = [] then .ok "" else .error .notDirectory
  | name :: rest => .error (above (if name ∈ systemFolders then rest else name :: rest))
  | [] => .error .isDirectory

/-- The text of the file that the names of a path lead to from a place in the folder. -/
def follow (folder : Folder) (place : List String) : List String → Except ReadFailure String
  | [] => .error .isDirectory
  | name :: rest =>
    if name = "" ∨ name = "." then folder.follow place rest
    else if name = ".." then
      if place = [] then .error (above rest) else folder.follow place.dropLast rest
    else if longestName < name.utf8ByteSize then .error .nameTooLong
    else
      let next := place ++ [name]
      match folder.file? next with
      | some bytes => if rest = [] then textOfBytes bytes else .error .notDirectory
      | none => if folder.isFolder next then folder.follow next rest else .error .missing

/-- The text of the file at a path, seen from the folder. -/
def read (folder : Folder) (path : String) : Except ReadFailure String :=
  let names := path.splitOn "/"
  if path = "" then .error .missing
  else if longestPath < path.utf8ByteSize then .error .nameTooLong
  else if names.head? = some "" then fromRoot (names.dropWhile (· = ""))
  else folder.follow [] names

end Folder

end BuzzerScript
