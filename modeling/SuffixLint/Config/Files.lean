import SuffixLint.Config.Document
import SuffixLint.Glob.Expansion

namespace SuffixLint

namespace Config

inductive Language where
  | toml
  | yaml
deriving DecidableEq, Repr

def parse? : Language → Text → Option Config
  | .toml, text => do ofToml? (← Toml.parse? text)
  | .yaml, text => do
    match ← Yaml.parse? text with
    | none => return {}
    | some document => ofYaml? document

def fileNames : List (Text × Language) :=
  [("pslint.toml".toList, .toml), ("pslint.yaml".toList, .yaml), ("pslint.yml".toList, .yaml)]

/-- The entry that marks a repository without a configuration. -/
def repositoryMark : Text := ".git".toList

def isPresent (disk : Disk) (directory : Path) : Bool :=
  fileNames.any fun (name, _) => disk.contains (directory.join ⟨name⟩)

def isRoot (disk : Disk) (directory : Path) : Bool :=
  isPresent disk directory || disk.contains (directory.join ⟨repositoryMark⟩)

end Config

inductive ConfigFault where
  | unreadable (error : SystemError)
  | notUtf8
  | malformed
deriving DecidableEq, Repr

namespace ConfigFault

/-- Why a configuration cannot be used. What exactly is wrong in a malformed file is for its parser
to say; one fixed text stands for all of that here. -/
def message : ConfigFault → Text
  | .unreadable error => error.message
  | .notUtf8 => "stream did not contain valid UTF-8".toList
  | .malformed => "not a valid configuration".toList

end ConfigFault

inductive ConfigError where
  | invalid (path : Path) (fault : ConfigFault)
  | badPattern (pattern : Text) (error : Glob.PatternError)
deriving DecidableEq, Repr

namespace ConfigError

def subject : ConfigError → Text
  | .invalid path _ => "invalid configuration in ".toList ++ path.text
  | .badPattern pattern _ => "bad glob pattern '".toList ++ pattern ++ "'".toList

def reason : ConfigError → Text
  | .invalid _ fault => fault.message
  | .badPattern _ error => error.message

def message (error : ConfigError) : Text := error.subject ++ ": ".toList ++ error.reason

end ConfigError

namespace Config

def read (disk : Disk) (path : Path) : Except ConfigFault Text :=
  match disk.openFile path with
  | .error error => .error (.unreadable error)
  | .ok stream =>
    match stream.failure with
    | some _ => .error (.unreadable .isDirectory)
    | none =>
      match Utf8.decode? stream.bytes with
      | none => .error .notUtf8
      | some text => .ok text

def loadFrom (disk : Disk) (directory : Path) :
    List (Text × Language) → Except ConfigError (Option Config)
  | [] => .ok none
  | (name, language) :: rest =>
    let path := directory.join ⟨name⟩
    if disk.contains path then
      match read disk path with
      | .error fault => .error (.invalid path fault)
      | .ok text =>
        match parse? language text with
        | none => .error (.invalid path .malformed)
        | some config => .ok (some config)
    else loadFrom disk directory rest

def load (disk : Disk) (directory : Path) : Except ConfigError (Option Config) :=
  loadFrom disk directory fileNames

end Config

namespace Path

/-- A path and the paths above it, as far as their texts tell. -/
def lineage (path : Path) : List Path := go path.text.length path
where
  go : Nat → Path → List Path
    | 0, path => [path]
    | limit + 1, path =>
      match path.parent? with
      | none => [path]
      | some above => path :: go limit above

end Path

namespace Config

/-- The closest root of a repository at or above a path, or the path itself. -/
def findRoot (disk : Disk) (start : Path) : Path :=
  (start.lineage.find? (isRoot disk)).getD start

def parsePattern (root : Path) (pattern : Text) : Except ConfigError Glob.Pattern :=
  match Glob.Pattern.parse (root.join ⟨pattern⟩).text with
  | .error error => .error (.badPattern pattern error)
  | .ok parsed => .ok parsed

/-- The files that patterns match, taken relative to a root: pattern by pattern, each with its
matches in order, and every file once. -/
def expand (disk : Disk) (root : Path) (patterns : List Text) : Except ConfigError (List Path) := do
  let parsed ← patterns.mapM (parsePattern root)
  return Glob.merge (parsed.map (Glob.sortedPaths disk))

end Config

end SuffixLint
