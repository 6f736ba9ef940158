import SuffixLint.FileSystem.FileTree
import SuffixLint.FileSystem.Path
import SuffixLint.Line.Reader

namespace SuffixLint

inductive SystemError where
  | notFound
  | permissionDenied
  | notDirectory
  | isDirectory
deriving DecidableEq, Repr

namespace SystemError

def message : SystemError → Text
  | .notFound => "No such file or directory (os error 2)".toList
  | .permissionDenied => "Permission denied (os error 13)".toList
  | .notDirectory => "Not a directory (os error 20)".toList
  | .isDirectory => "Is a directory (os error 21)".toList

end SystemError

structure Disk where
  root : FileTree
  /-- The names that lead from the root to the current directory. -/
  current : List Text

namespace Disk

/-- Follows segments from the directory at some names, and gives the names of where they end. Every
segment but the last has to lead to a directory, as has one that is followed by an idle segment. -/
def walk (disk : Disk) (place : List Text) : List Text → Except SystemError (List Text)
  | [] => .ok place
  | segment :: rest =>
    match disk.root.at? place with
    | none => .error .notFound
    | some node =>
      if !node.isDirectory then .error .notDirectory
      else if Path.isIdle segment then disk.walk place rest
      else if segment = Path.above then disk.walk place.dropLast rest
      else if (node.child? segment).isSome then disk.walk (place ++ [segment]) rest
      else .error .notFound

/-- The names that lead from the root to what a path denotes. -/
def locate (disk : Disk) (path : Path) : Except SystemError (List Text) :=
  if path.text.isEmpty then .error .notFound
  else disk.walk (if path.isAbsolute then [] else disk.current) path.segments

def find (disk : Disk) (path : Path) : Except SystemError FileTree :=
  match disk.locate path with
  | .error e => .error e
  | .ok names =>
    match disk.root.at? names with
    | none => .error .notFound
    | some node => .ok node

def contains (disk : Disk) (path : Path) : Bool := (disk.find path).toOption.isSome

def isDirectory (disk : Disk) (path : Path) : Bool :=
  (disk.find path).toOption.any (·.isDirectory)

def directory? (disk : Disk) (path : Path) : Option FileTree :=
  (disk.find path).toOption.filter (·.isDirectory)

/-- Opens what a path denotes. A directory can be opened, but not read from. -/
def openFile (disk : Disk) (path : Path) : Except SystemError Stream :=
  match disk.find path with
  | .error e => .error e
  | .ok (.file content) => .ok (Stream.ofBytes content)
  | .ok .lockedFile => .error .permissionDenied
  | .ok (.directory _) =>
    .ok { chunks := [], failure := some SystemError.isDirectory.message }

def currentPath (disk : Disk) : Path :=
  ⟨Path.separator :: Text.join [Path.separator] disk.current⟩

def absolute (disk : Disk) (path : Path) : Path := disk.currentPath.join path

end Disk
end SuffixLint
