import SuffixLint.Settings

namespace SuffixLint

inductive Request where
  | version
  | lint (choices : Choices)
  | submissions (choices : Choices)
deriving DecidableEq, Repr

inductive UsageError where
  | displayHelp
  | displayVersion
  | missingCommand
  | unknownArgument
  | unknownCommand
  | missingValue
  | unexpectedValue
  | repeatedOption
deriving DecidableEq, Repr

namespace UsageError

/-- Asking for help or for the version is no failure. -/
def exitCode : UsageError → Nat
  | .displayHelp | .displayVersion => 0
  | _ => 2

end UsageError

namespace Arguments

inductive Shape where
  | escape
  | long (name : Text) (value : Option Text)
  | short (first : Char)
  | plain
deriving DecidableEq, Repr

/-- The shape of an argument. A hyphen alone is plain. -/
def Shape.of : Text → Shape
  | ['-', '-'] => .escape
  | '-' :: '-' :: text =>
    match text.dropWhile (· ≠ '=') with
    | [] => .long text none
    | _ :: value => .long (text.takeWhile (· ≠ '=')) (some value)
  | '-' :: c :: _ => .short c
  | _ => .plain

inductive ValueOption where
  | root
  | output
deriving DecidableEq, Repr

inductive CommandOption where
  | help
  | check
  | value (option : ValueOption)
deriving DecidableEq, Repr

structure Command where
  name : Text
  /-- How many paths it takes; `none` for any number. -/
  maxPaths : Option Nat
  options : List (Text × CommandOption)

def helpOption : Text × CommandOption := ("help".toList, .help)

def valueOptions : List (Text × CommandOption) :=
  [("repo-root".toList, .value .root), ("output".toList, .value .output)]

def versionCommand : Command := ⟨"version".toList, some 0, [helpOption]⟩

def lintCommand : Command :=
  ⟨"lint".toList, none, helpOption :: ("check-order".toList, .check) :: valueOptions⟩

def submissionsCommand : Command :=
  ⟨"submissions".toList, some 1, helpOption :: ("check".toList, .check) :: valueOptions⟩

def commands : List Command := [versionCommand, lintCommand, submissionsCommand]

def helpCommand : Text := "help".toList

structure Reading where
  paths : List Text := []
  values : List (ValueOption × Text) := []
  check : Bool := false
  /-- An option with the value that came after it, if one did. An option is not taken up before
  the next argument, so that an unknown argument is reported first. -/
  pending : Option (ValueOption × Option Text) := none
deriving DecidableEq, Repr

namespace Reading

def setValue (reading : Reading) (option : ValueOption) (value : Text) :
    Except UsageError Reading :=
  if (reading.values.lookup option).isSome then .error .repeatedOption
  else .ok { reading with values := reading.values ++ [(option, value)] }

def settle (reading : Reading) : Except UsageError Reading :=
  match reading.pending with
  | none => .ok reading
  | some (_, none) => .error .missingValue
  | some (option, some value) => { reading with pending := none }.setValue option value

def addOption (reading : Reading) (option : CommandOption) (value : Option Text) :
    Except UsageError Reading :=
  match option, value with
  | .help, some _ | .check, some _ => .error .unexpectedValue
  | .help, none => do let _ ← reading.settle; .error .displayHelp
  | .check, none => do
    let reading ← reading.settle
    if reading.check then .error .repeatedOption else return { reading with check := true }
  | .value option, some value => do (← reading.settle).setValue option value
  | .value option, none => do return { ← reading.settle with pending := some (option, none) }

def addPath (reading : Reading) (maxPaths : Option Nat) (path : Text) :
    Except UsageError Reading :=
  if maxPaths.any (· ≤ reading.paths.length) then .error .unknownArgument
  else do
    let reading ← reading.settle
    return { reading with paths := reading.paths ++ [path] }

/-- Takes up an argument after two hyphens alone, which is a path whatever it looks like. -/
def addPaths (reading : Reading) (maxPaths : Option Nat) (paths : List Text) :
    Except UsageError Reading :=
  paths.foldlM (fun reading path => reading.addPath maxPaths path) reading

def run (command : Command) (reading : Reading) : List Text → Except UsageError Reading
  | [] => reading.settle
  | argument :: rest => do
    match Shape.of argument with
    | .escape => (← reading.addPaths command.maxPaths rest).settle
    | .long name value =>
      match command.options.lookup name with
      | none => .error .unknownArgument
      | some option => run command (← reading.addOption option value) rest
    | .short c =>
      if c = 'h' then run command (← reading.addOption .help none) rest
      else .error .unknownArgument
    | .plain =>
      match reading.pending with
      | some (option, none) =>
        run command { reading with pending := some (option, some argument) } rest
      | _ => run command (← reading.addPath command.maxPaths argument) rest

def choices (reading : Reading) : Choices :=
  { root := reading.values.lookup .root
    output := reading.values.lookup .output
    files := reading.paths }

end Reading

def command? (name : Text) : Option Command := commands.find? (·.name == name)

def explain : List Text → UsageError
  | [] => .displayHelp
  | [name] =>
    if name = helpCommand || (command? name).isSome then .displayHelp else .unknownCommand
  | _ => .unknownCommand

def request (command : Command) (reading : Reading) : Request :=
  let wanted : Option Bool := if reading.check then some true else none
  if command.name = lintCommand.name then
    .lint { reading.choices with orderCheck := wanted }
  else if command.name = submissionsCommand.name then
    .submissions { reading.choices with submissionCheck := wanted }
  else .version

/-- What is wrong with an argument after two hyphens alone, where a command should be. A command is
not recognised there. -/
def afterEscape : List Text → UsageError
  | [] => .missingCommand
  | name :: _ =>
    if name = helpCommand || (command? name).isSome then .unknownArgument else .unknownCommand

def parse : List Text → Except UsageError Request
  | [] => .error .missingCommand
  | argument :: rest =>
    match Shape.of argument with
    | .escape => .error (afterEscape rest)
    | .long name value =>
      if name = "help".toList then
        .error (if value.isSome then .unexpectedValue else .displayHelp)
      else if name = "version".toList then
        .error (if value.isSome then .unexpectedValue else .displayVersion)
      else .error .unknownArgument
    | .short c =>
      if c = 'h' then .error .displayHelp
      else if c = 'V' then .error .displayVersion
      else .error .unknownArgument
    | .plain =>
      if argument = helpCommand then .error (explain rest)
      else
        match command? argument with
        | none => .error .unknownCommand
        | some command => do return request command (← Reading.run command {} rest)

end Arguments
end SuffixLint
