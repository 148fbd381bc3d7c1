/-!
# Files

A `FileTree` holds directories and the bytes of files. `FileTree.readText` follows a path through
it, name by name, and gives the text of the file there, or the first `FileFault` on the way.
-/

namespace FieldMap

/-- What stands at a place in a tree of files. -/
inductive FileEntry where
  | directory
  | file (bytes : ByteArray)

/-- Why a file gives no text. -/
inductive FileFault where
  | missing
  /-- A file where the path goes on as through a directory. -/
  | notDirectory
  | isDirectory
  | nameTooLong
  /-- A path with the character that ends paths. -/
  | nulInPath
  /-- Bytes that encode no text. -/
  | notText
  deriving DecidableEq

/-- The text of a file's fault. -/
def FileFault.message : FileFault → String
  | .missing => "No such file or directory (os error 2)"
  | .notDirectory => "Not a directory (os error 20)"
  | .isDirectory => "Is a directory (os error 21)"
  | .nameTooLong => "File name too long (os error 36)"
  | .nulInPath => "file name contained an unexpected NUL byte"
  | .notText => "stream did not contain valid UTF-8"

/-- Directories and files, each under the names that lead to it from the root, and the directory
where relative paths begin. The root is a directory, whatever is listed. -/
structure FileTree where
  workingDirectory : List String
  entries : List (List String × FileEntry)

namespace FileTree

/-- The greatest size of a name in bytes. -/
def maxName : Nat :=
  255

/-- The greatest size of a path in bytes. -/
def maxPath : Nat :=
  4095

/-- What stands at a place. -/
def entry? (tree : FileTree) (place : List String) : Option FileEntry :=
  if place = [] then some .directory else tree.entries.lookup place

/-- The place that a name in the directory `place` stands for. An empty name and a point stay where
they are, and two points lead up, at most to the root. -/
def step (place : List String) (name : String) : Except FileFault (List String) :=
  if name = "" ∨ name = "." then .ok place
  else if name = ".." then .ok place.dropLast
  else if maxName < name.utf8ByteSize then .error .nameTooLong
  else .ok (place ++ [name])

/-- The bytes of the file to which `names` lead from `place`. -/
def walk (tree : FileTree) (place : List String) (names : List String) :
    Except FileFault ByteArray :=
  match tree.entry? place, names with
  | none, _ => .error .missing
  | some (.file bytes), [] => .ok bytes
  | some (.file _), _ :: _ => .error .notDirectory
  | some .directory, [] => .error .isDirectory
  | some .directory, name :: names => do
    tree.walk (← step place name) names

/-- The names in a path, among them an empty one before a leading slash and after a final one. -/
def names (path : String) : List String :=
  (path.toList.splitOn '/').map String.ofList

/-- The bytes of the file at a path; the empty path leads nowhere. -/
def read (tree : FileTree) (path : String) : Except FileFault ByteArray :=
  if path.toList.contains '\x00' then .error .nulInPath
  else if path = "" then .error .missing
  else if maxPath < path.utf8ByteSize then .error .nameTooLong
  else tree.walk (if path.toList.head? = some '/' then [] else tree.workingDirectory) (names path)

/-- The text of the file at a path. -/
def readText (tree : FileTree) (path : String) : Except FileFault String := do
  match String.fromUTF8? (← tree.read path) with
  | some text => return text
  | none => throw .notText

end FileTree

end FieldMap
