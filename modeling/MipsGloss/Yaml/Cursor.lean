import MipsGloss.Yaml.Character

namespace MipsGloss.Yaml

/-! A cursor stands at a place of a document. The text arrives in portions of
512 bytes, and a portion is looked at only when something in it is asked for:
a document can end ahead of a character that it could not hold. Of the text at
hand a cursor knows whether it begins with a byte order mark. -/

structure Cursor where
  ahead : List Char
  index : Nat
  line : Nat
  column : Nat
  /-- How many lines have ended since the last character that is not blank. -/
  breaks : Nat
  /-- How many characters have arrived, up to the end of their portion. -/
  arrived : Nat
  /-- The same for the portions to come, and none for one that is malformed. -/
  portions : List (Option Nat)
  marked : Bool
  deriving Repr

namespace Cursor

def portionSize : Nat := 512

/-- The ends of the portions of a text, of which `room` bytes are left in the
first one. -/
def portionEnds (room count : Nat) (valid : Bool) :
    List Char → List (Option Nat)
  | [] => [if valid then some count else none]
  | character :: rest =>
    let size := character.utf8Size
    if size ≤ room then
      portionEnds (room - size) (count + 1) (valid && isAllowed character) rest
    else
      (if valid then some count else none) ::
        portionEnds (portionSize - size) (count + 1) (isAllowed character) rest

/-- The start of a text. A byte order mark ahead of it is left out. -/
def ofText (text : String) : Cursor :=
  let characters := text.toList
  let (room, characters) :=
    if characters.head? = some byteOrderMark then
      (portionSize - byteOrderMark.utf8Size, characters.drop 1)
    else (portionSize, characters)
  { ahead := characters, index := 0, line := 0, column := 0, breaks := 0
    arrived := 0, portions := portionEnds room 0 true characters, marked := false }

/-- Waits for portions until the given number of characters have arrived. The
end of the text counts as one more character. -/
def await (needed : Nat) (cursor : Cursor) : List (Option Nat) → Option Cursor
  | [] =>
    some { cursor with arrived := cursor.index + cursor.ahead.length + 1, portions := [] }
  | none :: _ => none
  | some count :: rest =>
    if needed ≤ count then some { cursor with arrived := count, portions := rest }
    else await needed cursor rest

/-- Makes sure that the next characters are at hand. -/
def need? (count : Nat) (cursor : Cursor) : Option Cursor :=
  let needed := cursor.index + count
  if needed ≤ cursor.arrived then some cursor
  else
    let marked := cursor.ahead.head? == some byteOrderMark
    await needed { cursor with marked } cursor.portions

/-- The character at a distance from the cursor. -/
def look (cursor : Cursor) (distance : Nat) : Char :=
  (cursor.ahead[distance]?).getD endMark

def step (cursor : Cursor) : Cursor :=
  { cursor with
    ahead := cursor.ahead.tail, index := cursor.index + 1, column := cursor.column + 1
    breaks := if isBlank (cursor.look 0) then cursor.breaks else 0 }

/-- Goes to the next line. A newline behind a carriage return belongs to it. -/
def stepLine (cursor : Cursor) : Cursor :=
  let width := if cursor.look 0 = '\r' ∧ cursor.look 1 = '\n' then 2 else 1
  { cursor with
    ahead := cursor.ahead.drop width, index := cursor.index + width
    line := cursor.line + 1, column := 0, breaks := cursor.breaks + 1 }

/-- Whether the cursor stands ahead of the given mark of three characters, which
begins a line and ends a word. -/
def atMarker (cursor : Cursor) (mark : Char) : Bool :=
  cursor.column == 0 && cursor.ahead.take 3 == List.replicate 3 mark &&
    isBlankOrEnd (cursor.look 3)

end Cursor

/-! What is read from a document moves a cursor, unless it is malformed. -/

abbrev Reading := StateT Cursor Option

namespace Reading

def need (count : Nat) : Reading Unit := fun cursor =>
  (cursor.need? count).map fun cursor => ((), cursor)

def look (distance : Nat) : Reading Char := return (← get).look distance

def column : Reading Nat := return (← get).column

def skip : Reading Unit := modify Cursor.step

/-- Skips a character and makes sure that the next ones are at hand. -/
def skipFor (count : Nat) : Reading Unit := do
  skip
  need count

def skipMany : Nat → Reading Unit
  | 0 => return ()
  | count + 1 => do
    skip
    skipMany count

/-- Goes to the next line and gives the line end to keep. All of them become a
newline, except for the two separators of lines and paragraphs. -/
def takeLine : Reading (List Char) := do
  let ending ← look 0
  modify Cursor.stepLine
  return if ending = '\u2028' ∨ ending = '\u2029' then [ending] else ['\n']

/-- Takes the characters of a kind. The fuel bounds their number. -/
def takeWhile (kind : Char → Bool) : Nat → Reading (List Char)
  | 0 => return []
  | fuel + 1 => do
    let character ← look 0
    if kind character then
      skipFor 1
      return character :: (← takeWhile kind fuel)
    else return []

/-- A number of steps that is enough for whatever moves on with each of them. -/
def remaining : Reading Nat := return (← get).ahead.length + 2

def takeAll (kind : Char → Bool) : Reading (List Char) := do
  takeWhile kind (← remaining)

/-- Skips the characters of a kind, one after the other. -/
def skipWhile (kind : Char → Bool) : Nat → Reading Unit
  | 0 => return ()
  | fuel + 1 => do
    if kind (← look 0) then
      skipFor 1
      skipWhile kind fuel

def skipAll (kind : Char → Bool) : Reading Unit := do
  skipWhile kind (← remaining)

def skipLineEnd : Reading Unit := do
  if isBreak (← look 0) then
    need 2
    modify Cursor.stepLine

/-- Ends the reading of what is malformed unless a condition holds. -/
def ensure (condition : Bool) : Reading Unit :=
  if condition then return () else failure

/-! A comment extends to the end of its line. Where one has been found, the
comments on the lines below it are skipped with it, whatever blanks they stand
behind. -/

/-- How far characters are looked over in search of a comment. -/
def commentReach : Nat := 512

/-- Whether more characters are at hand. It is no mistake here if they cannot
be. -/
def canSee (count : Nat) : Reading Bool := do
  match (← get).need? count with
  | some cursor =>
    set cursor
    return true
  | none => return false

/-- The distance to the next comment across characters of a kind. -/
def commentDistance (kind : Char → Bool) (distance : Nat) :
    Nat → Reading (Option Nat)
  | 0 => return none
  | fuel + 1 => do
    if ← canSee (distance + 1) then
      let character ← look distance
      if kind character then commentDistance kind (distance + 1) fuel
      else return if character = '#' then some distance else none
    else return none

def skipToBreak : Reading Unit := skipAll fun character => !isBreakOrEnd character

/-- Skips the comment that stands behind something on the same line. -/
def skipLineComment : Reading Unit := do
  if (← get).breaks = 0 then
    if (← commentDistance isBlank 0 commentReach).isSome then skipToBreak

/-- Skips blanks and ends of lines up to an index. -/
def skipTo (index : Nat) : Nat → Reading Unit
  | 0 => return ()
  | fuel + 1 => do
    let cursor ← get
    if cursor.index < index then
      need 1
      if isBreak (cursor.look 0) then skipLineEnd else skip
      skipTo index fuel

/-- Skips the comment ahead and those on the lines below it. -/
def skipComments : Nat → Reading Unit
  | 0 => return ()
  | fuel + 1 => do
    skipToBreak
    let isGap (character : Char) : Bool := [' ', '\t', '\r', '\n'].contains character
    if isGap (← look 0) then
      match ← commentDistance isGap 1 (commentReach - 1) with
      | some distance =>
        skipTo ((← get).index + distance) (distance + 1)
        skipComments fuel
      | none => return ()

/-- Goes to the next character that is part of something. Tabs count as blanks
inside of brackets, and elsewhere where no key can stand. Gives whether a key
can stand at the end of the way: behind the end of a line it can, outside of
brackets. -/
def skipToToken (inFlow : Bool) : Nat → Bool → Reading Bool
  | 0, _ => failure
  | fuel + 1, keyAllowed => do
    need 1
    if (← get).column = 0 ∧ (← get).marked then skipFor 1
    skipAll fun character =>
      character == ' ' || ((inFlow || !keyAllowed) && character == '\t')
    if (← look 0) = '#' then skipComments (← remaining)
    if isBreak (← look 0) then
      skipLineEnd
      skipToToken inFlow fuel (keyAllowed || !inFlow)
    else return keyAllowed

end Reading

end MipsGloss.Yaml
