import SuffixLint.FileSystem.Disk
import SuffixLint.Glob.Pattern

namespace SuffixLint.Glob

inductive Step where
  | literal (name : Text)
  | wild (tokens : List Token)
  | anyDepth
deriving DecidableEq, Repr

namespace Step

def literal? : List Token → Option Text
  | [] => some []
  | .char c :: rest => (literal? rest).map (c :: ·)
  | _ :: _ => none

def ofTokens (tokens : List Token) : Step :=
  if tokens.contains .anyDirectories then .anyDepth
  else
    match literal? tokens with
    | some name => .literal name
    | none => .wild tokens

def accepts (name : Text) : Step → Bool
  | .literal wanted => wanted == name
  | .wild tokens => matchesName tokens name
  | .anyDepth => true

def mergeDepths : List Step → List Step
  | .anyDepth :: .anyDepth :: rest => mergeDepths (.anyDepth :: rest)
  | step :: rest => step :: mergeDepths rest
  | [] => []

end Step

structure Pattern where
  isAbsolute : Bool
  steps : List Step
  /-- Whether the pattern ends with a separator and so matches directories only. -/
  directoriesOnly : Bool
deriving DecidableEq, Repr

namespace Pattern

def names (text : Text) : List Text :=
  let pieces := text.splitOn Path.separator
  if pieces.getLast? = some [] then pieces.dropLast else pieces

def parse (text : Text) : Except PatternError Pattern := do
  let _ ← Glob.parse text
  let isAbsolute := text.head? == some Path.separator
  let body := if isAbsolute then text.drop 1 else text
  let steps ← (names body).mapM fun name => do return Step.ofTokens (← Glob.parse name)
  return {
    isAbsolute
    steps := if body.isEmpty then [.literal []] else Step.mergeDepths steps
    directoriesOnly := text.getLast? == some Path.separator }

/-- The path of an entry. Entries of the current directory go by their names alone. -/
def entryPath (directory : Path) (name : Text) : Path :=
  if directory.same ⟨Path.here⟩ then ⟨name⟩ else directory.join ⟨name⟩

mutual

/-- Everything below an entry, each directory before what it holds. -/
def below (path : Path) : FileTree → List (Path × Text × FileTree)
  | .directory entries => belowEntries path entries
  | _ => []

def belowEntries (path : Path) : List (Text × FileTree) → List (Path × Text × FileTree)
  | [] => []
  | (name, node) :: rest =>
    (entryPath path name, name, node) :: below (entryPath path name) node ++
      belowEntries path rest

end

def isSpecial (name : Text) : Bool := name == Path.here || name == Path.above

/-- What the steps lead to from a path. The two special names are matched only by a pattern that
starts with a dot, and the one that leads up comes first. -/
def follow (disk : Disk) (directoriesOnly : Bool) : List Step → Path → List Path
  | [], path => if directoriesOnly && !disk.isDirectory path then [] else [path]
  | .literal name :: rest, path =>
    let next := entryPath path name
    if if isSpecial name then disk.isDirectory path else disk.contains next then
      follow disk directoriesOnly rest next
    else []
  | .wild tokens :: rest, path =>
    match disk.directory? path with
    | none => []
    | some directory =>
      let special :=
        if tokens.head? = some (.char '.') then [Path.above, Path.here].filter (matchesName tokens)
        else []
      let found := (directory.entries.map Prod.fst).filter (matchesName tokens)
      special.flatMap (fun name => follow disk directoriesOnly rest (path.join ⟨name⟩)) ++
        found.flatMap fun name => follow disk directoriesOnly rest (entryPath path name)
  | [.anyDepth], path =>
    match disk.directory? path with
    | none => []
    | some directory =>
      ((below path directory).filter (·.2.2.isDirectory)).map Prod.fst
  | .anyDepth :: step :: rest, path =>
    match disk.directory? path with
    | none => []
    | some directory =>
      ((below path directory).filter (step.accepts ·.2.1)).flatMap fun entry =>
        follow disk directoriesOnly rest entry.1

def literalStart (pattern : Pattern) : List Text :=
  (pattern.steps.takeWhile fun step => step matches .literal _).filterMap fun
    | .literal name => some name
    | _ => none

/-- How far below its first names a pattern can match; `none` for any depth. -/
def depthBelow (pattern : Pattern) (start : Nat) : Option Nat :=
  if pattern.steps.contains .anyDepth then none else some (pattern.steps.length - start)

def paths (disk : Disk) (pattern : Pattern) : List Path :=
  let start : Path := if pattern.isAbsolute then ⟨[Path.separator]⟩ else ⟨Path.here⟩
  follow disk pattern.directoriesOnly pattern.steps start

end Pattern

def mergeBlock (seen : List Path) (block : List Path) : List Path :=
  block.foldl (fun seen path => if seen.any (·.same path) then seen else seen ++ [path]) seen

/-- The paths of all blocks in order, each where it comes first. -/
def merge (blocks : List (List Path)) : List Path := blocks.foldl mergeBlock []

def sortedPaths (disk : Disk) (pattern : Pattern) : List Path :=
  (pattern.paths disk).mergeSort Path.le

@[simp] theorem mergeBlock_nil (seen : List Path) : mergeBlock seen [] = seen := rfl

@[simp] theorem merge_nil : merge [] = [] := rfl

end SuffixLint.Glob
