import MipsGloss.Yaml.Token

namespace MipsGloss.Yaml

/-! A stream delivers the tokens of a document. A key of a mapping is only known
as one when its colon is reached, which has to be on the same line and not too
far away; so tokens are kept back while something that could be a key stands
first, and there are always three tokens kept for the next look. -/

/-- Where a key may begin: the number of its first token and its place. A key is
required where a block mapping can only go on with one. -/
structure KeyPlace where
  possible : Bool
  required : Bool
  number : Nat
  index : Nat
  line : Nat
  column : Nat
  deriving Repr

def KeyPlace.none : KeyPlace := ⟨false, false, 0, 0, 0, 0⟩

structure Stream where
  cursor : Cursor
  started : Bool
  /-- One more than the column of the innermost block collection, and zero where
  there is none. -/
  margin : Nat
  outerMargins : List Nat
  /-- The keys that may be open: one for each open bracket, innermost first, and
  one for what lies outside of all brackets. -/
  keys : List KeyPlace
  /-- For tokens that a key may begin with, how many brackets enclose it. -/
  keyDepths : List (Nat × Nat)
  keyAllowed : Bool
  queue : List Token
  taken : Nat
  deriving Repr

namespace Stream

def ofText (text : String) : Stream where
  cursor := Cursor.ofText text
  started := false
  margin := 0
  outerMargins := []
  keys := [.none]
  keyDepths := []
  keyAllowed := true
  queue := []
  taken := 0

def depth (stream : Stream) : Nat := stream.keys.length - 1

def inFlow (stream : Stream) : Bool := stream.depth != 0

def key (stream : Stream) : KeyPlace := stream.keys.headD .none

/-- The number of the token that comes next into the queue. -/
def nextNumber (stream : Stream) : Nat := stream.taken + stream.queue.length

def setKey (stream : Stream) (key : KeyPlace) : Stream :=
  { stream with keys := key :: stream.keys.tail }

def forget (stream : Stream) (number : Nat) : Stream :=
  { stream with keyDepths := stream.keyDepths.filter fun entry => entry.1 != number }

def push (stream : Stream) (token : Token) : Stream :=
  { stream with queue := stream.queue ++ [token] }

/-- Puts a token ahead of the one with the given number, and last if that one has
been taken. -/
def insert (stream : Stream) (number : Nat) (token : Token) : Stream :=
  let position :=
    if number < stream.taken then stream.queue.length else number - stream.taken
  { stream with
    queue := stream.queue.take position ++ token :: stream.queue.drop position }

/-- The deepest nesting of brackets, and of block collections. -/
def depthLimit : Nat := 10000

/-- The longest distance from the start of a key to its colon. -/
def keyReach : Nat := 1024

end Stream

abbrev Streaming := StateT Stream Option

namespace Streaming

def read (reading : Reading α) : Streaming α := fun stream =>
  (reading stream.cursor).map fun (result, cursor) => (result, { stream with cursor })

def push (token : Token) : Streaming Unit := modify (·.push token)

def allowKey (allowed : Bool) : Streaming Unit :=
  modify fun stream => { stream with keyAllowed := allowed }

def ensure (condition : Bool) : Streaming Unit :=
  if condition then return () else failure

/-! Keys that may be open. -/

/-- Whether a key can still get its colon. A required one must. -/
def checkKey (level : Nat) : Streaming Bool := do
  let stream ← get
  let key := (stream.keys[level]?).getD .none
  let cursor := stream.cursor
  if !key.possible then return false
  else if key.line < cursor.line || key.index + Stream.keyReach < cursor.index then
    ensure !key.required
    set { stream with keys := stream.keys.set level { key with possible := false } }
    return false
  else return true

/-- Gives up the key that may be open. -/
def dropKey : Streaming Unit := do
  let key := (← get).key
  if key.possible then
    ensure !key.required
    modify fun stream => (stream.setKey { key with possible := false }).forget key.number

/-- Notes that a key may begin here. -/
def saveKey : Streaming Unit := do
  let stream ← get
  if stream.keyAllowed then
    let cursor := stream.cursor
    let required := !stream.inFlow && stream.margin == cursor.column + 1
    let number := stream.nextNumber
    dropKey
    modify fun stream =>
      { stream.setKey ⟨true, required, number, cursor.index, cursor.line, cursor.column⟩ with
        keyDepths := (number, stream.depth) :: stream.keyDepths }

/-! Block collections begin with the first thing that is indented more than the
one around them, and end with the first that is indented less. -/

/-- Opens a block collection at a column, unless there is one already. Its token
comes last, or ahead of the one with the given number. -/
def openBlock (column : Nat) (number : Option Nat) (token : Token) : Streaming Unit := do
  let stream ← get
  if !stream.inFlow && stream.margin ≤ column then
    ensure (stream.outerMargins.length < Stream.depthLimit)
    let opened :=
      { stream with
        margin := column + 1, outerMargins := stream.margin :: stream.outerMargins }
    set (match number with
      | some number => opened.insert number token
      | none => opened.push token)

/-- Closes the block collections whose margin is wider than the given one. -/
def closeBlocks (margin : Nat) : Nat → Streaming Unit
  | 0 => return ()
  | fuel + 1 => do
    let stream ← get
    if !stream.inFlow && margin < stream.margin then
      set { stream.push .blockEnd with
        margin := stream.outerMargins.headD 0, outerMargins := stream.outerMargins.tail }
      closeBlocks margin fuel

def closeBlocksTo (margin : Nat) : Streaming Unit := do
  closeBlocks margin ((← get).outerMargins.length)

/-! One function for each kind of token. -/

def fetchEnd : Streaming Unit := do
  modify fun stream =>
    let cursor := stream.cursor
    if cursor.column = 0 then stream
    else { stream with cursor := { cursor with column := 0, line := cursor.line + 1 } }
  closeBlocksTo 0
  dropKey
  allowKey false
  push .streamEnd

/-- Ends all that is open ahead of something that stands between documents. -/
def fetchBetween (reading : Reading Token) : Streaming Unit := do
  closeBlocksTo 0
  dropKey
  allowKey false
  push (← read reading)

def fetchMark (token : Token) : Streaming Unit :=
  fetchBetween do
    Reading.skipMany 3
    return token

def fetchFlowStart (token : Token) : Streaming Unit := do
  saveKey
  modify fun stream => { stream with
    keys := { KeyPlace.none with number := stream.nextNumber } :: stream.keys }
  ensure ((← get).depth ≤ Stream.depthLimit)
  allowKey true
  read Reading.skip
  push token

def fetchFlowEnd (token : Token) : Streaming Unit := do
  dropKey
  let stream ← get
  if stream.inFlow then
    set { stream.forget stream.key.number with keys := stream.keys.tail }
  allowKey false
  read Reading.skip
  push token

def fetchFlowEntry : Streaming Unit := do
  dropKey
  allowKey true
  read Reading.skip
  push .flowEntry

def fetchItem : Streaming Unit := do
  let stream ← get
  ensure (stream.inFlow || stream.keyAllowed)
  openBlock stream.cursor.column none .blockSequence
  dropKey
  allowKey true
  read Reading.skip
  push .item

def fetchKey : Streaming Unit := do
  let stream ← get
  ensure (stream.inFlow || stream.keyAllowed)
  openBlock stream.cursor.column none .blockMapping
  dropKey
  allowKey !stream.inFlow
  read Reading.skip
  push .key

/-- A colon makes a key of what may be one. Otherwise the key is empty, or was
marked as one before. -/
def fetchValue : Streaming Unit := do
  if ← checkKey 0 then
    let key := (← get).key
    modify (·.insert key.number .key)
    openBlock key.column (some key.number) .blockMapping
    modify fun stream => (stream.setKey { key with possible := false }).forget key.number
    allowKey false
  else
    let stream ← get
    ensure (stream.inFlow || stream.keyAllowed)
    openBlock stream.cursor.column none .blockMapping
    allowKey !stream.inFlow
  read Reading.skip
  push .value

def fetchProperty (reading : Reading Token) : Streaming Unit := do
  saveKey
  allowKey false
  push (← read reading)

def fetchBlockScalar : Streaming Unit := do
  dropKey
  allowKey true
  let margin := (← get).margin
  push (.scalar false (← read (Reading.readBlock margin)))

def fetchPlain : Streaming Unit := do
  saveKey
  allowKey false
  let stream ← get
  let (text, broken) ← read (Reading.readPlain stream.inFlow stream.margin)
  if broken then allowKey true
  push (.scalar true text)

/-- Reads the token that begins with the given characters. -/
def fetchContent (first second : Char) : Streaming Unit := do
  let inFlow := (← get).inFlow
  match first with
  | '[' => fetchFlowStart .flowSequence
  | '\x7b' => fetchFlowStart .flowMapping
  | ']' => fetchFlowEnd .flowSequenceEnd
  | '\x7d' => fetchFlowEnd .flowMappingEnd
  | ',' => fetchFlowEntry
  | '*' => fetchProperty (return .alias (← Reading.readAnchorName))
  | '&' => fetchProperty (return .anchor (← Reading.readAnchorName))
  | '!' => fetchProperty Reading.readTag
  | '\x27' => fetchProperty (return .scalar false (← Reading.readQuoted))
  | '\x22' => fetchProperty (return .scalar false (← Reading.readQuoted))
  | _ =>
    if first = '-' ∧ isBlankOrEnd second then fetchItem
    else if first = '?' ∧ (inFlow ∨ isBlankOrEnd second) then fetchKey
    else if first = ':' ∧ (inFlow ∨ isBlankOrEnd second) then fetchValue
    else if (first = '|' ∨ first = '>') ∧ !inFlow then fetchBlockScalar
    else if startsPlain inFlow first second then fetchPlain
    else failure

/-- Reads the next token, and the comment behind it. A comment behind the mark of
an item is left for whatever follows. -/
def fetch : Streaming Unit := do
  read (Reading.need 1)
  let stream ← get
  if !stream.started then
    set { stream.push .streamStart with started := true }
  else
    let keyAllowed ← read do
      Reading.skipToToken stream.inFlow (← Reading.remaining) stream.keyAllowed
    allowKey keyAllowed
    closeBlocksTo ((← get).cursor.column + 1)
    read (Reading.need 4)
    let cursor := (← get).cursor
    let first := cursor.look 0
    if first = endMark then fetchEnd
    else if cursor.column = 0 ∧ first = '%' then fetchBetween Reading.readDirective
    else if cursor.atMarker '-' then fetchMark .documentStart
    else if cursor.atMarker '.' then fetchMark .documentEnd
    else
      fetchContent first (cursor.look 1)
      if (← get).queue.getLast? ≠ some .item then read Reading.skipLineComment

/-- Reads tokens until there are enough and the first one cannot become part of
a key any more. -/
def fill : Nat → Streaming Unit
  | 0 => failure
  | fuel + 1 => do
    let stream ← get
    let ready ←
      if stream.queue.length ≤ 2 then pure false
      else
        match stream.keyDepths.lookup stream.taken with
        | none => pure true
        | some depth => do
          let pending ← checkKey (stream.depth - depth)
          pure !pending
    if !ready then
      fetch
      fill fuel

/-- The next token. -/
def peek : Streaming Token := do
  fill ((← get).cursor.ahead.length + 8)
  match (← get).queue with
  | token :: _ => return token
  | [] => failure

/-- Takes the token that comes next. -/
def skip : Streaming Unit :=
  modify fun stream =>
    { stream with queue := stream.queue.tail, taken := stream.taken + 1 }

end Streaming

end MipsGloss.Yaml
