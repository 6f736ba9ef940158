import SuffixLint.Text.Basic

namespace SuffixLint.Toml

inductive TableForm where
  | closed
  | headed
  | implied
  | dotted
deriving DecidableEq, Repr

/-- A value. Dates and times are recognised, but not kept; nothing depends on them. -/
inductive Value where
  | string (text : Text)
  | boolean (value : Bool)
  | integer (value : Int)
  | float
  | dateTime
  | array (items : List Value)
  | table (form : TableForm) (members : List (Text × Value))
  | tables (elements : List Value)

namespace Value

def newTable (form : TableForm) : Value := .table form []

def form? : Value → Option TableForm
  | .table form _ => some form
  | _ => none

def members : Value → List (Text × Value)
  | .table _ members => members
  | _ => []

def member? (value : Value) (key : Text) : Option Value := value.members.lookup key

def setMember (key : Text) (value : Value) : List (Text × Value) → List (Text × Value)
  | [] => [(key, value)]
  | (other, old) :: rest =>
    if other = key then (key, value) :: rest else (other, old) :: setMember key value rest

/-- Changes the table at the end of a path, with the tables that are missing on the way. `byKey`
says that the path belongs to a dotted key, which may run only through tables that have no header.
Tables in braces cannot be added to, and of tables that share a header the last is meant. -/
def change (byKey : Bool) (f : Value → Option Value) : List Text → Value → Option Value
  | [], value => f value
  | key :: rest, .table form members =>
    let inner? : Option Value :=
      match members.lookup key with
      | none => change byKey f rest (newTable (if byKey then .dotted else .implied))
      | some (.table .closed _) => none
      | some (.table inner innerMembers) =>
        if byKey && inner = .headed then none
        else change byKey f rest (.table inner innerMembers)
      | some (.tables elements) =>
        match elements.getLast? with
        | none => none
        | some last =>
          (change byKey f rest last).map fun new => .tables (elements.dropLast ++ [new])
      | some _ => none
    inner?.map fun inner => .table form (setMember key inner members)
  | _ :: _, _ => none

def add (table : Value) (key : Text) (value : Value) : Option Value :=
  match table with
  | .table form members =>
    if (members.lookup key).isSome then none else some (.table form (members ++ [(key, value)]))
  | _ => none

/-- Assigns a value to a dotted key. The table that takes it must have come about by dotted keys
too, unless the key is a single name. -/
def assign (table : Value) (path : List Text) (key : Text) (value : Value) : Option Value :=
  let place (table : Value) : Option Value :=
    if path.isEmpty || table.form? = some .dotted then table.add key value else none
  table.change true place path

/-- Opens the table of a header. A table that only implied headers led to takes it over. -/
def openTable (table : Value) (key : Text) : Option Value :=
  match table with
  | .table form members =>
    match members.lookup key with
    | none => some (.table form (members ++ [(key, newTable .headed)]))
    | some (.table .implied inner) =>
      some (.table form (setMember key (.table .headed inner) members))
    | some _ => none
  | _ => none

def openElement (table : Value) (key : Text) : Option Value :=
  match table with
  | .table form members =>
    match members.lookup key with
    | none => some (.table form (members ++ [(key, .tables [newTable .headed])]))
    | some (.tables elements) =>
      some (.table form (setMember key (.tables (elements ++ [newTable .headed])) members))
    | some _ => none
  | _ => none

end Value
end SuffixLint.Toml
