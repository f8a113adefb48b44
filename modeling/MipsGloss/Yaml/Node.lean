import MipsGloss.Yaml.Stream

namespace MipsGloss.Yaml

/-! A document is a tree of nodes. An alias holds the node that it stands for,
except where it lies inside of that node. -/

inductive Node where
  | scalar (tag : String) (isPlain : Bool) (text : String)
  | sequence (items : List Node)
  | mapping (entries : List (Node × Node))
  | alias (name : String) (target : Option Node)
  deriving Repr

namespace Node

/-- The node where nothing is written. -/
def nothing : Node := .scalar "" true ""

end Node

/-- What is known at a place of a document: the tokens to come, the anchors so
far, newest first, with their nodes once these are complete, and what the
handles of tags stand for. -/
structure Context where
  stream : Stream
  anchors : List (String × Option Node)
  handles : List (String × String)

abbrev Composing := StateT Context Option

namespace Composing

def lift (streaming : Streaming α) : Composing α := fun context =>
  (streaming context.stream).map fun (result, stream) => (result, { context with stream })

def peek : Composing Token := lift Streaming.peek

def skip : Composing Unit := lift Streaming.skip

def ensure (condition : Bool) : Composing Unit :=
  if condition then return () else failure

/-- Takes the next token if it is the given one. -/
def accept (token : Token) : Composing Bool := do
  if (← peek) = token then
    skip
    return true
  else return false

/-! A node may have an anchor and a tag, in either order. -/

def anchor? : Composing (Option String) := do
  match ← peek with
  | .anchor name => do
    skip
    return some name
  | _ => return none

/-- The tag that comes next, in full, and an empty one if there is none. -/
def tag : Composing String := do
  match ← peek with
  | .tag handle suffix => do
    skip
    if handle = "" then return suffix
    else
      match (← get).handles.lookup handle with
      | some expansion => return expansion ++ suffix
      | none => failure
  | _ => return ""

def properties : Composing (Option String × String) := do
  match ← anchor? with
  | some anchor => return (some anchor, ← tag)
  | none => do
    let tag ← tag
    return (← if tag = "" then pure none else anchor?, tag)

/-- Notes an anchor whose node is about to be read, and gives its place. -/
def openAnchor (name : String) : Composing Nat := do
  let context ← get
  set { context with anchors := (name, none) :: context.anchors }
  return context.anchors.length

/-- Enters the node of the anchor at a place. -/
def closeAnchor (place : Nat) (node : Node) : Composing Unit :=
  modify fun context =>
    let position := context.anchors.length - 1 - place
    { context with
      anchors := context.anchors.modify position fun (name, _) => (name, some node) }

/-- Tokens behind which an entry of a block is empty. -/
def endsBlockEntry (token : Token) : Bool :=
  [.key, .value, .blockEnd].contains token

def isScalar : Token → Bool
  | .scalar _ _ => true
  | _ => false

/-- Whether a token begins the content of a node. A block can only stand where
it has lines of its own, and the items of a sequence need not be indented below
a key. -/
def startsContent (block indentless : Bool) (token : Token) : Bool :=
  isScalar token || token == .flowSequence || token == .flowMapping ||
    (block && (token == .blockSequence || token == .blockMapping)) ||
    (indentless && token == .item)

mutual

/-- Reads a node. The fuel bounds the number of steps. -/
def node (fuel : Nat) (block indentless : Bool) : Composing Node :=
  match fuel with
  | 0 => failure
  | fuel + 1 => do
    match ← peek with
    | .alias name => do
      skip
      match (← get).anchors.lookup name with
      | some target => return .alias name target
      | none => failure
    | _ => do
      let (anchor, tag) ← properties
      match anchor with
      | some name => do
        let place ← openAnchor name
        let node ← content fuel block indentless tag true
        closeAnchor place node
        return node
      | none => content fuel block indentless tag (tag != "")

/-- Reads what a node consists of, which may be nothing if it has an anchor or a
tag. -/
def content (fuel : Nat) (block indentless : Bool) (tag : String)
    (optional : Bool) : Composing Node :=
  match fuel with
  | 0 => failure
  | fuel + 1 => do
    let token ← peek
    if startsContent block indentless token then
      match token with
      | .scalar isPlain text => do
        skip
        return .scalar tag isPlain text
      | .item => return .sequence (← indentlessItems fuel)
      | .flowSequence => do
        skip
        return .sequence (← flowItems fuel true)
      | .flowMapping => do
        skip
        return .mapping (← flowEntries fuel true)
      | .blockSequence => do
        skip
        return .sequence (← blockItems fuel)
      | _ => do
        skip
        return .mapping (← blockEntries fuel)
    else if optional then return .scalar tag true ""
    else failure

def blockItems (fuel : Nat) : Composing (List Node) :=
  match fuel with
  | 0 => failure
  | fuel + 1 => do
    if ← accept .item then
      let next ← peek
      let first ←
        if next = .item ∨ next = .blockEnd then pure Node.nothing
        else node fuel true false
      return first :: (← blockItems fuel)
    else do
      ensure (← accept .blockEnd)
      return []

def indentlessItems (fuel : Nat) : Composing (List Node) :=
  match fuel with
  | 0 => failure
  | fuel + 1 => do
    if ← accept .item then
      let next ← peek
      let first ←
        if next = .item || endsBlockEntry next then pure Node.nothing
        else node fuel true false
      return first :: (← indentlessItems fuel)
    else return []

/-- Reads the key or the value of an entry of a block, which may be empty. -/
def blockPart (fuel : Nat) : Composing Node :=
  match fuel with
  | 0 => failure
  | fuel + 1 => do
    if endsBlockEntry (← peek) then return .nothing
    else node fuel true true

def blockEntries (fuel : Nat) : Composing (List (Node × Node)) :=
  match fuel with
  | 0 => failure
  | fuel + 1 => do
    if ← accept .key then
      let key ← blockPart fuel
      let value ← if ← accept .value then blockPart fuel else pure .nothing
      return (key, value) :: (← blockEntries fuel)
    else do
      ensure (← accept .blockEnd)
      return []

/-- Reads a key or a value between brackets, which is empty ahead of the given
tokens. -/
def flowPart (fuel : Nat) (ends : List Token) : Composing Node :=
  match fuel with
  | 0 => failure
  | fuel + 1 => do
    if ends.contains (← peek) then return .nothing
    else node fuel false false

/-- Reads an entry that stands alone in a sequence. A key that is left out takes
the token behind it along. -/
def loneEntry (fuel : Nat) : Composing (Node × Node) :=
  match fuel with
  | 0 => failure
  | fuel + 1 => do
    let next ← peek
    let key ←
      if [.value, .flowEntry, .flowSequenceEnd].contains next then do
        skip
        pure .nothing
      else node fuel false false
    let value ←
      if ← accept .value then flowPart fuel [.flowEntry, .flowSequenceEnd]
      else pure .nothing
    return (key, value)

/-- Reads the items up to the closing bracket. Between two of them there is a
comma, and there may be one behind the last. -/
def flowItems (fuel : Nat) (isFirst : Bool) : Composing (List Node) :=
  match fuel with
  | 0 => failure
  | fuel + 1 => do
    if ← accept .flowSequenceEnd then return []
    else
      if !isFirst then ensure (← accept .flowEntry)
      if ← accept .key then
        let entry ← loneEntry fuel
        return .mapping [entry] :: (← flowItems fuel false)
      else if ← accept .flowSequenceEnd then return []
      else
        let item ← node fuel false false
        return item :: (← flowItems fuel false)

/-- Reads the entries up to the closing brace. A name alone has an empty
value. -/
def flowEntries (fuel : Nat) (isFirst : Bool) : Composing (List (Node × Node)) :=
  match fuel with
  | 0 => failure
  | fuel + 1 => do
    if ← accept .flowMappingEnd then return []
    else
      if !isFirst then ensure (← accept .flowEntry)
      if ← accept .key then
        let key ← flowPart fuel [.value, .flowEntry, .flowMappingEnd]
        let value ←
          if ← accept .value then flowPart fuel [.flowEntry, .flowMappingEnd]
          else pure .nothing
        return (key, value) :: (← flowEntries fuel false)
      else if ← accept .flowMappingEnd then return []
      else
        let key ← node fuel false false
        return (key, .nothing) :: (← flowEntries fuel false)

end

/-! A file may hold several documents, of which the first one counts. Directives
need a mark behind them. -/

def standardHandles : List (String × String) :=
  [("!", "!"), ("!!", "tag:yaml.org,2002:")]

/-- Reads the directives ahead of a document: at most one version, which has to
be 1.1, and no handle twice. Gives whether there are any. -/
def directives : Nat → Bool → Bool → Composing Bool
  | 0, _, _ => failure
  | fuel + 1, versioned, seen => do
    match ← peek with
    | .version major minor => do
      ensure (!versioned && major == 1 && minor == 1)
      skip
      directives fuel true true
    | .handle name expansion => do
      ensure ((← get).handles.lookup name).isNone
      skip
      modify fun context =>
        { context with handles := context.handles ++ [(name, expansion)] }
      directives fuel versioned true
    | _ => do
      modify fun context => { context with handles := context.handles ++ standardHandles }
      return seen

/-- Whether a marked document is empty ahead of a token. -/
def endsDocument : Token → Bool
  | .version _ _ => true
  | .handle _ _ => true
  | .documentStart => true
  | .documentEnd => true
  | .streamEnd => true
  | _ => false

/-- Reads the first document. What follows it is of no interest, apart from the
tokens that have to be known to see where it ends. -/
def document (fuel : Nat) : Composing Node := do
  ensure (← accept .streamStart)
  let directed ← directives fuel false false
  let root ←
    if ← accept .documentStart then
      if endsDocument (← peek) then pure Node.nothing
      else node fuel true false
    else do
      ensure (!directed && (← peek) != .streamEnd)
      node fuel true false
  let _ ← peek
  return root

end Composing

/-- The first document of a text. A text without any is malformed, like every
text outside of the format. -/
def read (text : String) : Option Node :=
  let fuel := 8 * text.length + 64
  (Composing.document fuel ⟨Stream.ofText text, [], []⟩).map (·.1)

end MipsGloss.Yaml
