import SuffixLint.Yaml.Token

namespace SuffixLint.Yaml

inductive Node where
  | scalar (style : ScalarStyle) (tag : Option Text) (text : Text)
  | sequence (items : List Node)
  | mapping (pairs : List (Node × Node))
  /-- Another mention of a node; `none` inside the very node that is mentioned. -/
  | alias (target : Option Node)

namespace Node

def missing : Node := .scalar .plain none []

end Node

abbrev TagHandles := List (Text × Text)

def defaultHandles : TagHandles :=
  [("!".toList, "!".toList), ("!!".toList, "tag:yaml.org,2002:".toList)]

structure Builder where
  tokens : List Token
  handles : TagHandles
  anchors : Array (Text × Option Node) := #[]

abbrev Building (α : Type) := StateT Builder Option α

namespace Builder

def peek : Building (Option Token) := do return (← get).tokens.head?

def drop : Building Unit := modify fun builder => { builder with tokens := builder.tokens.drop 1 }

def isNext (expected : List Token) : Building Bool := do
  return (← peek).any expected.contains

def expect (token : Token) : Building Unit := do
  guard (← isNext [token])
  drop

def mentioned (name : Text) : Building Node := do
  match (← get).anchors.toList.reverse.lookup name with
  | none => failure
  | some target => return .alias target

def openAnchor (name : Option Text) : Building Nat := do
  let position := (← get).anchors.size
  match name with
  | none => return position
  | some name =>
    modify fun builder => { builder with anchors := builder.anchors.push (name, none) }
    return position

def closeAnchor (name : Option Text) (position : Nat) (node : Node) : Building Unit := do
  match name with
  | none => return
  | some name =>
    modify fun builder =>
      { builder with anchors := builder.anchors.setIfInBounds position (name, some node) }

def anchor? : Building (Option Text) := do
  match ← peek with
  | some (.anchor name) => drop; return some name
  | _ => return none

def tag? : Building (Option Text) := do
  match ← peek with
  | some (.tag handle suffix) =>
    drop
    if handle.isEmpty then return some suffix
    else
      match (← get).handles.lookup handle with
      | none => failure
      | some expansion => return some (expansion ++ suffix)
  | _ => return none

def properties : Building (Option Text × Option Text) := do
  match ← anchor? with
  | some name => return (some name, ← tag?)
  | none =>
    match ← tag? with
    | none => return (none, none)
    | some tag => return (← anchor?, some tag)

def withoutContent (anchor tag : Option Text) : Building Node := do
  guard (anchor.isSome || tag.isSome)
  return .scalar .plain tag []

mutual

/-- A node. Block collections are possible outside brackets only, and a sequence that is not
indented only in a mapping. -/
def node (limit : Nat) (inBlock inMapping : Bool) : Building Node := do
  match limit with
  | 0 => failure
  | limit + 1 =>
    match ← peek with
    | some (.alias name) => drop; mentioned name
    | _ =>
      let (anchor, tag) ← properties
      let position ← openAnchor anchor
      let content ← match ← peek, inBlock, inMapping with
        | some .blockEntry, _, true => Node.sequence <$> looseItems limit
        | some (.scalar style text), _, _ => drop; pure (Node.scalar style tag text)
        | some .flowSequenceStart, _, _ => drop; Node.sequence <$> flowItems limit true
        | some .flowMappingStart, _, _ => drop; Node.mapping <$> flowPairs limit true
        | some .blockSequenceStart, true, _ => drop; Node.sequence <$> blockItems limit
        | some .blockMappingStart, true, _ => drop; Node.mapping <$> blockPairs limit
        | _, _, _ => withoutContent anchor tag
      closeAnchor anchor position content
      return content

def nodeUnless (limit : Nat) (stops : List Token) (inBlock inMapping : Bool) : Building Node := do
  match limit with
  | 0 => failure
  | limit + 1 =>
    match ← peek with
    | none => node limit inBlock inMapping
    | some token =>
      if stops.contains token then return .missing else node limit inBlock inMapping

def blockItems (limit : Nat) : Building (List Node) := do
  match limit with
  | 0 => failure
  | limit + 1 =>
    match ← peek with
    | some .blockEntry =>
      drop
      let item ← nodeUnless limit [.blockEntry, .blockEnd] true false
      return item :: (← blockItems limit)
    | some .blockEnd => drop; return []
    | _ => failure

def looseItems (limit : Nat) : Building (List Node) := do
  match limit with
  | 0 => failure
  | limit + 1 =>
    match ← peek with
    | some .blockEntry =>
      drop
      let item ← nodeUnless limit [.blockEntry, .key, .value, .blockEnd] true false
      return item :: (← looseItems limit)
    | _ => return []

def blockPairs (limit : Nat) : Building (List (Node × Node)) := do
  match limit with
  | 0 => failure
  | limit + 1 =>
    match ← peek with
    | some .key =>
      drop
      let key ← nodeUnless limit [.key, .value, .blockEnd] true true
      let value ← match ← peek with
        | some .value => drop; nodeUnless limit [.key, .value, .blockEnd] true true
        | _ => pure .missing
      return (key, value) :: (← blockPairs limit)
    | some .blockEnd => drop; return []
    | _ => failure

/-- The items of a sequence in brackets. A key mark makes an item a mapping of a single pair. -/
def flowItems (limit : Nat) (isFirst : Bool) : Building (List Node) := do
  match limit with
  | 0 => failure
  | limit + 1 =>
    if ← isNext [.flowSequenceEnd] then drop; return []
    else
      if !isFirst then expect .flowEntry
      match ← peek with
      | some .flowSequenceEnd => drop; return []
      | some .key =>
        drop
        let key ← if ← isNext [.value, .flowEntry, .flowSequenceEnd] then do drop; pure .missing
          else node limit false false
        let value ← match ← peek with
          | some .value => drop; nodeUnless limit [.flowEntry, .flowSequenceEnd] false false
          | _ => pure .missing
        return .mapping [(key, value)] :: (← flowItems limit false)
      | _ =>
        let item ← node limit false false
        return item :: (← flowItems limit false)

def flowPairs (limit : Nat) (isFirst : Bool) : Building (List (Node × Node)) := do
  match limit with
  | 0 => failure
  | limit + 1 =>
    if ← isNext [.flowMappingEnd] then drop; return []
    else
      if !isFirst then expect .flowEntry
      match ← peek with
      | some .flowMappingEnd => drop; return []
      | some .key =>
        drop
        let key ← nodeUnless limit [.value, .flowEntry, .flowMappingEnd] false false
        let value ← match ← peek with
          | some .value => drop; nodeUnless limit [.flowEntry, .flowMappingEnd] false false
          | _ => pure .missing
        return (key, value) :: (← flowPairs limit false)
      | _ =>
        let key ← node limit false false
        return (key, .missing) :: (← flowPairs limit false)

end

/-- The directives in front of a document. A handle may be given once, and so may the version. -/
def directives (hasVersion : Bool) (handles : TagHandles) :
    List Token → Option (TagHandles × List Token)
  | .version major minor :: rest =>
    if hasVersion || major != 1 || (minor != 1 && minor != 2) then none
    else directives true handles rest
  | .tagHandle handle expansion :: rest =>
    if (handles.lookup handle).isSome then none
    else directives hasVersion ((handle, expansion) :: handles) rest
  | tokens => some (handles, tokens)

def endsContent : Token → Bool
  | .version _ _ | .tagHandle _ _ | .documentStart | .documentEnd => true
  | _ => false

def content (handles : TagHandles) (tokens : List Token) : Option (Node × List Token) :=
  if tokens.head?.all endsContent then some (.missing, tokens)
  else
    ((node (4 * tokens.length + 4) true false).run
      { tokens, handles := handles ++ defaultHandles }).map fun (node, builder) =>
      (node, builder.tokens)

/-- The document at the start of tokens, and the tokens after it. A document needs a mark of its
start only if directives come first; without one it cannot be without content. -/
def document (tokens : List Token) : Option (Node × List Token) := do
  let (handles, rest) ← directives false [] tokens
  match rest with
  | .documentStart :: rest => content handles rest
  | rest =>
    guard (rest.length = tokens.length && !rest.head?.any endsContent)
    content handles rest

end Builder

/-- Reads a stream of at most one document. The outer result is nothing if the stream is wrong, the
inner one if it has no document. -/
def parse? (text : Text) : Option (Option Node) := do
  match ← tokens? text with
  | [] => return none
  | tokens =>
    let (node, rest) ← Builder.document tokens
    guard (rest.all (· == .documentEnd))
    return some node

end SuffixLint.Yaml
