import QueryByExample.Fields
import QueryByExample.Text.Segment
/-!
# File trees

Files and directories in memory, and the reading of a file by its path. The faults are those of a
file system: a name that is missing, a file where a directory should be, a directory where a file
should be, and a name that is too long.

## Main definitions

- `FileTree`: the trees.
- `FileTree.descend`: what some names lead to.
- `FileTree.bytesAt`: the bytes of the file that a path leads to.
-/

namespace QueryByExample.CommandLine

/-- A file or a directory. -/
inductive FileTree where
  | file (bytes : ByteArray)
  | directory (entries : List (String × FileTree))

namespace FileTree

/-- Why a path leads to no file. -/
inductive Fault where
  | missing
  | denied
  | notDirectory
  | isDirectory
  | nameTooLong
  deriving DecidableEq

/-- The text of a fault, with its number. -/
def Fault.message : Fault → String
  | .missing => "No such file or directory (os error 2)"
  | .denied => "Permission denied (os error 13)"
  | .notDirectory => "Not a directory (os error 20)"
  | .isDirectory => "Is a directory (os error 21)"
  | .nameTooLong => "File name too long (os error 36)"

/-- The length of the longest name, in bytes. -/
def longestName : Nat := 255

/-- The length of the longest path, in bytes. -/
def longestPath : Nat := 4095

/-- A directory with nothing in it. -/
def emptyDirectory : FileTree := .directory []

/-- What some names lead to from a tree that lies under the directories `above`, the nearest first.
An empty name and a dot stay, two dots lead to the directory above, and to the root from the
root. -/
def descend (above : List FileTree) (tree : FileTree) : List String → Except Fault FileTree
  | [] => .ok tree
  | name :: rest =>
    match tree with
    | .file _ => .error .notDirectory
    | .directory entries =>
      if name = "" ∨ name = "." then descend above (.directory entries) rest
      else if name = ".." then
        match above with
        | [] => descend [] (.directory entries) rest
        | nearest :: above => descend above nearest rest
      else if longestName < name.utf8ByteSize then .error .nameTooLong
      else match Fields.find? name entries with
        | none => .error .missing
        | some child => descend (.directory entries :: above) child rest

/-- The names on the way of a path. -/
def names (path : String) : List String :=
  (Text.segments '/' path.toList).map String.ofList

/-- The bytes of the file that a path leads to in the tree of a root. A path that does not start
with a slash starts at the directory `here`. -/
def bytesAt (root : FileTree) (here path : String) : Except Fault ByteArray :=
  if longestPath < path.utf8ByteSize then .error .nameTooLong
  else
    let start := if path.toList.head? = some '/' then [] else names here
    match descend [] root (start ++ names path) with
    | .ok (.file bytes) => .ok bytes
    | .ok (.directory _) => .error .isDirectory
    | .error fault => .error fault

end FileTree

end QueryByExample.CommandLine
