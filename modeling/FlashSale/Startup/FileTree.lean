/-! # Files

    A tree of directories and files, and how a path leads through it.  It is
    what a start finds on its machine. -/

namespace FlashSale

/-! ### Faults -/

/-- Why a file cannot be reached. -/
inductive FileFault where
  | missing
  | notDirectory
  | isDirectory
  | nameTooLong
  | denied
  /-- A path cannot hold the character U+0000. -/
  | zeroInName
  deriving Repr, DecidableEq

/-- The wording of a fault. -/
def FileFault.message : FileFault → String
  | .missing => "No such file or directory (os error 2)"
  | .notDirectory => "Not a directory (os error 20)"
  | .isDirectory => "Is a directory (os error 21)"
  | .nameTooLong => "File name too long (os error 36)"
  | .denied => "Permission denied (os error 13)"
  | .zeroInName => "file name contained an unexpected NUL byte"

/-! ### Trees -/

/-- What stands at a place. -/
inductive FileNode where
  /-- A directory; it may take new files or not. -/
  | directory (isOpen : Bool)
  | file (text : String)
  deriving Repr, DecidableEq

/-- A place: the names on the way from the root to it. -/
abbrev Place := List String

/-- What stands at the places of a tree, and the directory that a path without a
    slash in front starts from.  The root has to be among the places. -/
structure FileTree where
  nodes : List (Place × FileNode)
  working : Place := []
  deriving Repr, DecidableEq

namespace FileTree

/-- What stands at a place. -/
def node? (t : FileTree) (place : Place) : Option FileNode :=
  t.nodes.lookup place

/-- The greatest number of bytes in a name. -/
def maxName : Nat :=
  255

/-- The greatest number of bytes in a path. -/
def maxPath : Nat :=
  4095

/-- Takes one step from a directory.  An empty name and a dot stay there, two
    dots go up. -/
def step (t : FileTree) (place : Place) (name : String) : Except FileFault Place :=
  match t.node? place with
  | none => .error .missing
  | some (.file _) => .error .notDirectory
  | some (.directory _) =>
    if name = "" ∨ name = "." then .ok place
    else if name = ".." then .ok place.dropLast
    else if maxName < name.utf8ByteSize then .error .nameTooLong
    else if (t.node? (place ++ [name])).isSome then .ok (place ++ [name])
    else .error .missing

/-- Follows names from a place on. -/
def walk (t : FileTree) (place : Place) (names : List String) : Except FileFault Place :=
  names.foldlM t.step place

/-- The place where a path starts, and the names on it. -/
def split (t : FileTree) (path : String) : Except FileFault (Place × List String) :=
  if path.toList.contains '\x00' then .error .zeroInName
  else if path = "" then .error .missing
  else if maxPath < path.utf8ByteSize then .error .nameTooLong
  else
    let names := (path.toList.splitOn '/').map String.ofList
    .ok (if path.toList.head? = some '/' then [] else t.working, names)

/-- The place that a path leads to. -/
def resolve (t : FileTree) (path : String) : Except FileFault Place := do
  let (start, names) ← t.split path
  t.walk start names

/-- The text of the file that a path leads to. -/
def read (t : FileTree) (path : String) : Except FileFault String := do
  match t.node? (← t.resolve path) with
  | some (.file text) => return text
  | some (.directory _) => throw .isDirectory
  | none => throw .missing

/-- The place of the file that a path leads to if it is opened to add to it.
    Where there is no file, an open directory takes a new one. -/
def appendPlace? (t : FileTree) (path : String) : Option Place :=
  match t.split path with
  | .error _ => none
  | .ok (start, names) =>
    match t.walk start names.dropLast, names.getLast? with
    | .ok folder, some name =>
      if ["", ".", ".."].contains name || maxName < name.utf8ByteSize then none
      else
        match t.node? (folder ++ [name]), t.node? folder with
        | some (.file _), some (.directory _) => some (folder ++ [name])
        | none, some (.directory true) => some (folder ++ [name])
        | _, _ => none
    | _, _ => none

end FileTree

end FlashSale
