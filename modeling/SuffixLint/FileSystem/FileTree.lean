import SuffixLint.Text.Basic

namespace SuffixLint

/-- A file, or a directory with everything below it. There are no links, and a file that can be
opened can be read to its end. -/
inductive FileTree where
  | file (content : Bytes)
  | lockedFile
  /-- A directory, with its entries in the order of their names. -/
  | directory (entries : List (Text × FileTree))

namespace FileTree

def emptyDirectory : FileTree := .directory []

def isDirectory : FileTree → Bool
  | .directory _ => true
  | _ => false

def entries : FileTree → List (Text × FileTree)
  | .directory entries => entries
  | _ => []

def child? (tree : FileTree) (name : Text) : Option FileTree := tree.entries.lookup name

def at? (tree : FileTree) : List Text → Option FileTree
  | [] => some tree
  | name :: rest =>
    match tree.child? name with
    | none => none
    | some entry => entry.at? rest

def setEntry (name : Text) (entry : FileTree) : List (Text × FileTree) → List (Text × FileTree)
  | [] => [(name, entry)]
  | (other, old) :: rest =>
    match compare name other with
    | .lt => (name, entry) :: (other, old) :: rest
    | .eq => (name, entry) :: rest
    | .gt => (other, old) :: setEntry name entry rest

/-- Puts an entry at the end of a list of names, with the directories that are missing on the way.
An entry that is no directory gives way to one. -/
def put (tree : FileTree) (names : List Text) (entry : FileTree) : FileTree :=
  match names with
  | [] => entry
  | name :: rest =>
    .directory
      (setEntry name (((tree.child? name).getD emptyDirectory).put rest entry) tree.entries)

/-- Makes the directories of a list of names, keeping what is there. -/
def makeDirectories (tree : FileTree) (names : List Text) : FileTree :=
  match names with
  | [] => if tree.isDirectory then tree else emptyDirectory
  | name :: rest =>
    let inner := ((tree.child? name).getD emptyDirectory).makeDirectories rest
    .directory (setEntry name inner tree.entries)

@[simp] theorem at?_nil (tree : FileTree) : tree.at? [] = some tree := rfl

end FileTree

end SuffixLint
