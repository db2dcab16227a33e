import Clientwright.Yaml.Scanner

/-!
# Reading documents

The grammar of documents over tokens. A text has to hold exactly one document. Every rule passes a
state on: the tokens that are left, and the anchors seen so far.
-/

namespace Clientwright.Yaml

/-- Where an anchor stands in the numbering of nodes. -/
structure Anchors where
  /-- the number that a name stands for at present -/
  names : List (String × Nat)
  /-- the numbered nodes, the last one first -/
  nodes : List (Nat × Node)

namespace Anchors

/-- No anchors. -/
def none : Anchors := ⟨[], []⟩

/-- Numbers a node under a name. A name that is used again is not counted again, so the number may
be one that another name has. -/
def declare (a : Anchors) (name : String) : Nat × Anchors :=
  let id := a.names.length
  (id, { a with names := (name, id) :: a.names.filter (·.1 != name) })

/-- Settles the node of a number. -/
def settle (a : Anchors) (id : Nat) (n : Node) : Anchors :=
  { a with nodes := (id, n) :: a.nodes }

end Anchors

/-- The state of reading. -/
structure ReaderState where
  tokens : List Token
  anchors : Anchors
  /-- what the handles of tags stand for -/
  handles : List (String × String)

/-- A step of reading, which may fail. -/
abbrev Reader := StateT ReaderState Option

namespace Reader

/-- The next token. -/
def peek : Reader Token := do
  match (← get).tokens with
  | t :: _ => return t
  | [] => return .streamEnd

/-- Passes over the next token. -/
def skip : Reader Unit := modify fun s => { s with tokens := s.tokens.drop 1 }

/-- The tag that a written tag stands for. -/
def resolveTag (t : TagName) : Reader String := do
  if t.handle.isEmpty then return t.suffix
  match (← get).handles.lookup t.handle with
  | some start => return start ++ t.suffix
  | none => failure

/-- What stands before a node. -/
structure Properties where
  anchor : Option String
  tag : Option String

/-- Reads an anchor, if there is one. -/
def anchor? : Reader (Option String) := do
  match ← peek with
  | .anchor name =>
    skip
    return some name
  | _ => return none

/-- Reads a tag, if there is one. -/
def tag? : Reader (Option String) := do
  match ← peek with
  | .tag t =>
    skip
    return some (← resolveTag t)
  | _ => return none

/-- Reads what stands before a node, in either order. -/
def properties : Reader Properties := do
  match ← anchor? with
  | some anchor => return ⟨some anchor, ← tag?⟩
  | none =>
    let tag ← tag?
    return ⟨← anchor?, tag⟩

/-- The tag of a scalar; a single exclamation mark stands for none. -/
def Properties.scalarTag (p : Properties) : Option String := p.tag.filter (· != "!")

/-- Reads a node, and gives it its number if it has an anchor. -/
def anchored (p : Properties) (read : Reader Node) : Reader Node := do
  match p.anchor with
  | none => read
  | some name => do
    let (id, anchors) := (← get).anchors.declare name
    modify fun s => { s with anchors }
    let node ← read
    modify fun s => { s with anchors := s.anchors.settle id node }
    return node

/-- The node where none is written. -/
def missing : Node := .scalar (.missing none)

/-- Where a node may stand. -/
inductive Place where
  /-- on lines of its own -/
  | block
  /-- as a key or a value of a block mapping, where a sequence needs no indentation -/
  | blockValue
  /-- in brackets -/
  | flow
  deriving DecidableEq, Repr

/-- Is the token one of those? -/
def isOneOf (l : List Token) (t : Token) : Bool := l.contains t

mutual

/-- Reads a node. -/
def node (place : Place) : Nat → Reader Node
  | 0 => failure
  | fuel + 1 => do
    match ← peek with
    | .reference name =>
      skip
      match (← get).anchors.names.lookup name with
      | some id => return .reference id
      | none => failure
    | _ =>
      let p ← properties
      match ← peek with
      | .scalar text style =>
        skip
        anchored p (pure (.scalar ⟨text, style, p.scalarTag⟩))
      | .flowSequenceStart =>
        skip
        anchored p (return .sequence (← flowItems fuel true))
      | .flowMappingStart =>
        skip
        anchored p (return .mapping (← flowEntries fuel true))
      | t =>
        if t = .entry && place = .blockValue then
          anchored p (return .sequence (← openItems fuel))
        else if t = .sequenceStart && place ≠ .flow then
          skip
          anchored p (return .sequence (← blockItems fuel))
        else if t = .mappingStart && place ≠ .flow then
          skip
          anchored p (return .mapping (← blockEntries fuel))
        else if p.anchor.isSome || p.tag.isSome then
          anchored p (pure (.scalar (.missing p.tag)))
        else failure

/-- Reads a node, unless one of some tokens shows that none is written. -/
def nodeUnless (ends : List Token) (place : Place) : Nat → Reader Node
  | 0 => failure
  | fuel + 1 => do
    if isOneOf ends (← peek) then return missing else node place fuel

/-- Reads the items of a block sequence. -/
def blockItems : Nat → Reader (List Node)
  | 0 => failure
  | fuel + 1 => do
    match ← peek with
    | .entry =>
      skip
      let item ← nodeUnless [.entry, .blockEnd] .block fuel
      return item :: (← blockItems fuel)
    | .blockEnd =>
      skip
      return []
    | _ => failure

/-- Reads the items of a block sequence without indentation. -/
def openItems : Nat → Reader (List Node)
  | 0 => failure
  | fuel + 1 => do
    match ← peek with
    | .entry =>
      skip
      let item ← nodeUnless [.entry, .key, .value, .blockEnd] .block fuel
      return item :: (← openItems fuel)
    | _ => return []

/-- Reads the entries of a block mapping. -/
def blockEntries : Nat → Reader (List (Node × Node))
  | 0 => failure
  | fuel + 1 => do
    match ← peek with
    | .key =>
      skip
      let key ← nodeUnless [.key, .value, .blockEnd] .blockValue fuel
      let value ←
        match ← peek with
        | .value =>
          skip
          nodeUnless [.key, .value, .blockEnd] .blockValue fuel
        | _ => pure missing
      return (key, value) :: (← blockEntries fuel)
    | .blockEnd =>
      skip
      return []
    | _ => failure

/-- Reads the items of a sequence in brackets. -/
def flowItems : Nat → Bool → Reader (List Node)
  | 0, _ => failure
  | fuel + 1, isFirst => do
    if (← peek) = .flowSequenceEnd then
      skip
      return []
    if !isFirst then
      if (← peek) = .flowEntry then skip else failure
    match ← peek with
    | .key =>
      skip
      let pair ← flowPair fuel
      return .mapping [pair] :: (← flowItems fuel false)
    | .flowSequenceEnd =>
      skip
      return []
    | _ =>
      let item ← node .flow fuel
      return item :: (← flowItems fuel false)

/-- Reads a single pair among the items of a sequence in brackets. Where the key is missing, the
token after it is passed over. -/
def flowPair : Nat → Reader (Node × Node)
  | 0 => failure
  | fuel + 1 => do
    let key ←
      if isOneOf [.value, .flowEntry, .flowSequenceEnd] (← peek) then
        skip
        pure missing
      else node .flow fuel
    match ← peek with
    | .value =>
      skip
      return (key, ← nodeUnless [.flowEntry, .flowSequenceEnd] .flow fuel)
    | _ => return (key, missing)

/-- Reads the entries of a mapping in braces. -/
def flowEntries : Nat → Bool → Reader (List (Node × Node))
  | 0, _ => failure
  | fuel + 1, isFirst => do
    if (← peek) = .flowMappingEnd then
      skip
      return []
    if !isFirst then
      if (← peek) = .flowEntry then skip else failure
    match ← peek with
    | .key =>
      skip
      let key ← nodeUnless [.value, .flowEntry, .flowMappingEnd] .flow fuel
      let value ←
        match ← peek with
        | .value =>
          skip
          nodeUnless [.flowEntry, .flowMappingEnd] .flow fuel
        | _ => pure missing
      return (key, value) :: (← flowEntries fuel false)
    | .flowMappingEnd =>
      skip
      return []
    | _ =>
      let key ← node .flow fuel
      return (key, missing) :: (← flowEntries fuel false)

end

/-- What the handles of tags stand for when no directive says otherwise. -/
def standardHandles : List (String × String) := [("!", "!"), ("!!", "tag:yaml.org,2002:")]

/-- Takes note of the directives before a document. -/
def directives : Nat → Bool → Reader Unit
  | 0, _ => failure
  | fuel + 1, hasVersion => do
    match ← peek with
    | .directive (.version major minor) =>
      if hasVersion || major ≠ 1 || (minor ≠ 1 && minor ≠ 2) then failure
      skip
      directives fuel true
    | .directive (.tag handle start) =>
      if ((← get).handles.lookup handle).isSome then failure
      skip
      modify fun s => { s with handles := s.handles ++ [(handle, start)] }
      directives fuel hasVersion
    | _ => modify fun s => { s with handles := s.handles ++ standardHandles }

/-- Does a token show that a document holds nothing? -/
def isContentEnd : Token → Bool
  | .directive _ | .documentStart | .documentEnd | .streamEnd => true
  | _ => false

/-- Passes over the marks that end documents. -/
def documentEnds : Nat → Reader Unit
  | 0 => failure
  | fuel + 1 => do
    if (← peek) = .documentEnd then
      skip
      documentEnds fuel

/-- Reads the only document of a text that is not empty. -/
def document (fuel : Nat) : Reader Node := do
  let root ←
    match ← peek with
    | .directive _ | .documentStart => do
      directives fuel false
      if (← peek) ≠ .documentStart then failure
      skip
      if isContentEnd (← peek) then pure missing else node .block fuel
    | .streamEnd => failure
    | _ => do
      directives fuel false
      node .block fuel
  documentEnds fuel
  if (← peek) = .streamEnd then return root else failure

end Reader

/-- The document that a text holds, if it is well-formed and holds exactly one that is not empty. -/
def Document.ofText? (text : String) : Option Document := do
  let tokens ← tokens? text
  let fuel := 4 * tokens.length + 8
  let (root, s) ← (Reader.document fuel).run ⟨tokens, .none, []⟩
  return { root, anchored := s.anchors.nodes }

end Clientwright.Yaml
