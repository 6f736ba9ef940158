import SuffixLint.Toml.Document
import SuffixLint.Yaml.Node

namespace SuffixLint

structure CheckSettings where
  /-- Whether the check is wanted; `none` leaves it open. -/
  check : Option Bool := none
deriving DecidableEq, Repr

structure Config where
  files : List Text := []
  output : Option Text := none
  order : Option CheckSettings := none
  submissions : Option CheckSettings := none
deriving DecidableEq, Repr

namespace Config

section Toml

open Toml (Value)

def tomlString? : Value → Option Text
  | .string text => some text
  | _ => none

def tomlBool? : Value → Option Bool
  | .boolean value => some value
  | _ => none

/-- Settings as a table, or as a list that starts with the value of `check`. A date counts as a
table without known members. -/
def tomlSettings? : Value → Option CheckSettings
  | .table _ members => do return { check := ← (members.lookup "check".toList).mapM tomlBool? }
  | .array (first :: _) => do return { check := some (← tomlBool? first) }
  | .dateTime => some {}
  | _ => none

def ofToml? (document : Value) : Option Config := do
  let member (key : String) : Option Value := document.member? key.toList
  let files ← match member "files" with
    | none => some []
    | some (.array items) => items.mapM tomlString?
    | some _ => none
  return {
    files
    output := ← (member "output").mapM tomlString?
    order := ← (member "order").mapM tomlSettings?
    submissions := ← (member "submissions").mapM tomlSettings? }

end Toml

section Yaml

open Yaml (Node)

def yamlTarget? : Node → Option Node
  | .alias target => target
  | node => some node

def yamlText? (node : Node) : Option Text := do
  match ← yamlTarget? node with
  | .scalar _ _ text => some text
  | _ => none

def isNullWord (text : Text) : Bool :=
  ["null", "Null", "NULL", "~"].any (·.toList == text)

def nullTag : Text := "tag:yaml.org,2002:null".toList

def boolTag : Text := "tag:yaml.org,2002:bool".toList

/-- Whether something is written. Nothing is an empty plain scalar or a word for it; with a tag,
the word counts only under the tag of nothing, which allows no other. -/
def yamlIsPresent? (node : Node) : Option Bool := do
  match ← yamlTarget? node with
  | .scalar .plain none text => some (!text.isEmpty && !isNullWord text)
  | .scalar .plain (some tag) text =>
    if tag = nullTag then if isNullWord text then some false else none
    else some (!text.isEmpty)
  | _ => some true

def yamlOptional {α : Type} (read : Node → Option α) (node : Node) : Option (Option α) := do
  if ← yamlIsPresent? node then return some (← read node) else return none

def yamlBool? (node : Node) : Option Bool := do
  let ofWord (text : Text) : Option Bool :=
    if ["true", "True", "TRUE"].any (·.toList == text) then some true
    else if ["false", "False", "FALSE"].any (·.toList == text) then some false
    else none
  match ← yamlTarget? node with
  | .scalar .plain _ text => ofWord text
  | .scalar .literal (some tag) text => if tag = boolTag then ofWord text else none
  | _ => none

def yamlItems? (node : Node) : Option (List Node) := do
  match ← yamlTarget? node with
  | .sequence items => some items
  | .scalar .plain _ [] => some []
  | _ => none

/-- The members of a mapping, by the texts of their keys; an empty plain scalar has none. -/
def yamlMembers? (node : Node) : Option (List (Text × Node)) := do
  match ← yamlTarget? node with
  | .mapping pairs => pairs.mapM fun (key, value) => do return (← yamlText? key, value)
  | .scalar .plain _ [] => some []
  | _ => none

/-- The member of a key, which may be there only once. -/
def yamlMember? (members : List (Text × Node)) (key : String) : Option (Option Node) :=
  match members.filter (·.1 == key.toList) with
  | [] => some none
  | [(_, value)] => some (some value)
  | _ => none

def yamlMember {α : Type} (members : List (Text × Node)) (key : String) (read : Node → Option α) :
    Option (Option α) := do
  match ← yamlMember? members key with
  | none => return none
  | some value => yamlOptional read value

def yamlSettings? (node : Node) : Option CheckSettings := do
  return { check := ← yamlMember (← yamlMembers? node) "check" yamlBool? }

def ofYaml? (document : Node) : Option Config := do
  let members ← yamlMembers? document
  let files ← match ← yamlMember? members "files" with
    | none => some []
    | some value => do (← yamlItems? value).mapM yamlText?
  return {
    files
    output := ← yamlMember members "output" yamlText?
    order := ← yamlMember members "order" yamlSettings?
    submissions := ← yamlMember members "submissions" yamlSettings? }

end Yaml

end Config

end SuffixLint
