import MipsGloss.Text.Lines
import MipsGloss.Web.MediaType

namespace MipsGloss.Web.Multipart

/-! A body of several parts. A line with two dashes and the boundary stands
ahead of each part, and one with two more dashes behind the last. What stands
ahead of the first part does not count. Lines end in a carriage return and a
newline, or in a newline alone if the first boundary does. -/

structure Format where
  boundary : List Char
  lineEnd : List Char
  deriving Repr

def dashes : List Char := ['-', '-']

def Format.delimiter (format : Format) : List Char := dashes ++ format.boundary

def skipSpace (characters : List Char) : List Char :=
  characters.dropWhile fun character => character == ' ' || character == '\t'

/-- What stands on a line behind its start and some spaces, if it starts so. -/
def afterStart? (start line : List Char) : Option (List Char) :=
  if start.isPrefixOf line then some (skipSpace (line.drop start.length)) else none

def Format.isDelimiter (format : Format) (line : List Char) : Bool :=
  afterStart? format.delimiter line == some format.lineEnd

def Format.isFinal (format : Format) (line : List Char) : Bool :=
  match afterStart? (format.delimiter ++ dashes) line with
  | some rest => rest.isEmpty || rest == format.lineEnd
  | none => false

/-- The first line, with its newline, and the rest. -/
def splitLine (characters : List Char) : List Char × List Char :=
  let line := characters.takeWhile (· != '\n')
  match characters.dropWhile (· != '\n') with
  | [] => (line, [])
  | newline :: rest => (line ++ [newline], rest)

/-! A part begins with headers. -/

def isHeaderName (characters : List Char) : Bool :=
  !characters.isEmpty && characters.all fun character =>
    character == ' ' || character.isAlphanum ||
      ['!', '#', '$', '%', '&', '\x27', '*', '+', '-', '.', '^', '_', '\x60', '|',
       '~'].contains character

def isHeaderText (characters : List Char) : Bool :=
  characters.all fun character =>
    character == '\t' || (' ' ≤ character && character != '\x7f')

def trimSpace (characters : List Char) : List Char :=
  (skipSpace (skipSpace characters).reverse).reverse

def isHeader (line : List Char) : Bool :=
  match line.dropWhile (· != ':') with
  | [] => false
  | _ :: value => isHeaderName (line.takeWhile (· != ':')) && isHeaderText value

/-- What is behind the headers of a part: its content, nothing because the body
has ended, or a mistake. -/
inductive Headers where
  | content (rest : List Char)
  | ended
  | malformed

def withoutEnd (line : List Char) : List Char :=
  Text.dropReturn (if line.getLast? = some '\n' then line.dropLast else line)

def startsWithSpace (characters : List Char) : Bool :=
  match characters.head? with
  | some character => character == ' ' || character == '\t'
  | none => false

/-- Reads headers. A line that begins with a space goes on with the one before
it. The fuel bounds the number of lines. -/
def readHeaders : Nat → Option (List Char) → List Char → Headers
  | 0, _, _ => .malformed
  | fuel + 1, header, characters =>
    let complete := (header.map isHeader).getD true
    if header.isSome && startsWithSpace characters then
      let (line, rest) := splitLine characters
      let longer := header.getD [] ++ ' ' :: trimSpace (withoutEnd line)
      readHeaders fuel (some longer) rest
    else if !complete then .malformed
    else if characters.isEmpty then .ended
    else
      let (line, rest) := splitLine characters
      let text := withoutEnd line
      if text.isEmpty then .content rest
      else if !text.contains ':' then .malformed
      else readHeaders fuel (some (trimSpace text)) rest

/-! The content of a part ends ahead of the next boundary. -/

/-- Whether a boundary really ends where it seems to. -/
def endsBoundary : List Char → Bool
  | [] => true
  | '-' :: '-' :: _ => true
  | character :: _ => [' ', '\t', '\r', '\n'].contains character

def startsBoundary (start characters : List Char) : Bool :=
  start.isPrefixOf characters && endsBoundary (characters.drop start.length)

/-- What is left behind the content of a part, from its last line end on. -/
def skipContent? (start : List Char) : List Char → Option (List Char)
  | [] => none
  | character :: rest =>
    if startsBoundary start (character :: rest) then some (character :: rest)
    else skipContent? start rest

def Format.skipPart? (format : Format) (characters : List Char) :
    Option (List Char) :=
  if startsBoundary format.delimiter characters then some characters
  else skipContent? (format.lineEnd ++ format.delimiter) characters

/-- The most parts that a body can have, and the longest line between them. -/
def partLimit : Nat := 1000

def lineLimit : Nat := 4096

/-- Whether a body consists of parts up to its final boundary. `count` parts have
been read, and `expecting` says that a boundary has to follow. The fuel bounds
the number of lines. -/
def isComplete (format : Format) (count : Nat) (expecting : Bool) :
    Nat → List Char → Bool
  | 0, _ => false
  | fuel + 1, characters =>
    let (line, rest) := splitLine characters
    let isWhole := line.getLast? == some '\n'
    let format :=
      if count = 0 ∧ afterStart? format.delimiter line = some ['\n'] then
        { format with lineEnd := ['\n'] }
      else format
    if lineLimit < Text.byteLength line || (lineLimit == Text.byteLength line && !isWhole) then
      false
    else if !isWhole then format.isFinal line
    else if format.isDelimiter line then
      if startsWithSpace rest then false
      else match readHeaders (rest.length + 2) none rest with
      | .malformed => false
      | .ended => true
      | .content content =>
        if partLimit ≤ count then false
        else
          match format.skipPart? content with
          | some rest => isComplete format (count + 1) false fuel rest
          | none => false
    else if format.isFinal line then true
    else if expecting then false
    else if count = 0 then isComplete format count false fuel rest
    else line == format.lineEnd && isComplete format count true fuel rest

/-- Whether a body is made of parts with the given boundary. -/
def isBody (boundary : String) (body : String) : Bool :=
  let characters := body.toList
  boundary != "" &&
    isComplete ⟨boundary.toList, ['\r', '\n']⟩ 0 false (characters.length + 2) characters

end MipsGloss.Web.Multipart
