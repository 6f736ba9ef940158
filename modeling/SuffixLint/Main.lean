import SuffixLint.Command.Run

namespace SuffixLint.Console

abbrev Survey := StateT Disk IO

def absolutePath (names : List Text) : String :=
  String.ofList (Path.separator :: Text.join [Path.separator] names)

partial def readInput (stream : IO.FS.Stream) (read : ByteArray) : IO ByteArray := do
  let chunk ← stream.read 65536
  if chunk.isEmpty then return read else readInput stream (read ++ chunk)

def readFile (path : String) : IO FileTree := do
  try return .file (← IO.FS.readBinFile path).toList
  catch _ => return .lockedFile

def probe (names : List Text) : IO (Option FileTree) := do
  let path := (← IO.currentDir) / absolutePath names
  if !(← path.pathExists) then return none
  else if ← path.isDir then return some .emptyDirectory
  else return some (← readFile (absolutePath names))

def note (names : List Text) (entry : FileTree) : Survey Unit :=
  modify fun disk =>
    { disk with
      root := if entry.isDirectory then disk.root.makeDirectories names
        else disk.root.put names entry }

/-- Notes what a path passes and where it ends, starting at some names. -/
def survey (place : List Text) : List Text → Survey Unit
  | [] => return
  | segment :: rest => do
    if Path.isIdle segment then survey place rest
    else if segment = Path.above then survey place.dropLast rest
    else
      let next := place ++ [segment]
      match ← probe next with
      | none => return
      | some entry =>
        note next entry
        if entry.isDirectory then survey next rest

def surveyPath (path : Path) : Survey Unit := do
  let current := (← get).current
  survey (if path.isAbsolute then [] else current) path.segments

/-- Notes what is below some names, down to a depth if there is one. Files are noted without their
contents unless these are known, and what a link leads to is not entered where there is no depth. -/
partial def surveyBelow (depth : Option Nat) (names : List Text) : Survey Unit := do
  if depth = some 0 then return
  let path := (← IO.currentDir) / absolutePath names
  if !(← path.isDir) then return
  note names .emptyDirectory
  for entry in ← (do try path.readDir catch _ => return #[]) do
    let next := names ++ [entry.fileName.toList]
    if ← entry.path.isDir then
      note next .emptyDirectory
      let isLink := (← entry.path.symlinkMetadata).type == .symlink
      if depth.isSome || !isLink then surveyBelow (depth.map (· - 1)) next
    else if ((← get).root.at? next).isNone then note next (.file [])

def surveyPattern (pattern : Glob.Pattern) : Survey Unit := do
  let start := pattern.literalStart
  let current := (← get).current
  let place := if pattern.isAbsolute then [] else current
  survey place start
  match (← get).walk place start with
  | .error _ => return
  | .ok names => surveyBelow (pattern.depthBelow start.length) names

def surveySettings (choices : Choices) : Survey Unit := do
  let start : Path := ⟨choices.root.getD Path.here⟩
  surveyPath start
  for directory in start.lineage do
    for name in Config.repositoryMark :: Config.fileNames.map Prod.fst do
      surveyPath (directory.join ⟨name⟩)
  let root := Config.findRoot (← get) start
  if choices.files.isEmpty then
    match Config.load (← get) root with
    | .ok (some config) =>
      for pattern in config.files do
        match Config.parsePattern root pattern with
        | .ok parsed => surveyPattern parsed
        | .error _ => return
    | _ => return

def surveyFiles (choices : Choices) : Survey (List Path) := do
  surveySettings choices
  match Settings.resolve (← get) choices with
  | .error _ => return []
  | .ok settings =>
    for path in settings.files do
      surveyPath path
    return settings.files

def carryOut (request : Request) : IO Outcome := do
  let current := ((← IO.currentDir).toString.toList.splitOn Path.separator).filter (!·.isEmpty)
  let unknown : Disk := { root := FileTree.emptyDirectory.makeDirectories current, current }
  let (files, disk) ←
    match request with
    | .version => pure ([], unknown)
    | .lint choices | .submissions choices => (surveyFiles choices).run unknown
  let input ←
    if files.any (·.text == standardInput) then readInput (← IO.getStdin) ByteArray.empty
    else pure ByteArray.empty
  return Environment.run { disk, input := input.toList } request

end SuffixLint.Console

open SuffixLint in
def main (arguments : List String) : IO UInt32 := do
  let outcome ←
    match Arguments.parse (arguments.map (·.toList)) with
    | .error error => pure error.outcome
    | .ok request => Console.carryOut request
  (← IO.getStdout).putStr (String.ofList (Outcome.written outcome.output))
  (← IO.getStderr).putStr (String.ofList (Outcome.written outcome.errors))
  return outcome.exitCode.toUInt32
