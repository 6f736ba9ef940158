import SuffixLint.Config.Files

namespace SuffixLint

/-- The choices of the command line; `none` leaves a matter to the configuration. -/
structure Choices where
  root : Option Text := none
  files : List Text := []
  output : Option Text := none
  orderCheck : Option Bool := none
  submissionCheck : Option Bool := none
deriving DecidableEq, Repr

structure Settings where
  root : Path
  files : List Path
  namesFiles : Bool
  output : Text
  orderCheck : Bool
  submissionCheck : Bool
deriving DecidableEq, Repr

namespace Settings

def defaultOutput : Text := "human".toList

/-- The files to work on. Those of the command line are taken as they are. -/
def selectFiles (disk : Disk) (root : Path) (choices config : List Text) :
    Except ConfigError (List Path × Bool) :=
  if !choices.isEmpty then .ok (choices.map Path.mk, true)
  else if !config.isEmpty then (Config.expand disk root config).map (·, true)
  else .ok ([], false)

def resolve (disk : Disk) (choices : Choices) : Except ConfigError Settings := do
  let root := Config.findRoot disk ⟨choices.root.getD Path.here⟩
  let config := (← Config.load disk root).getD {}
  let (files, namesFiles) ← selectFiles disk root choices.files config.files
  return {
    root, files, namesFiles
    output := (choices.output.or config.output).getD defaultOutput
    orderCheck := (choices.orderCheck.or (config.order.bind (·.check))).getD false
    submissionCheck :=
      (choices.submissionCheck.or (config.submissions.bind (·.check))).getD false }

end Settings
end SuffixLint
