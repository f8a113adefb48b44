import MipsGloss.Yaml.Scalar

namespace MipsGloss.Yaml

/-! The tokens of a document. Collections that follow from indentation have
tokens for their start and end as well, and a key has one ahead of it, whether
it is marked or not. -/

inductive Token where
  | streamStart
  | streamEnd
  | version (major minor : Nat)
  | handle (name expansion : String)
  | documentStart
  | documentEnd
  | blockSequence
  | blockMapping
  | blockEnd
  | item
  | flowSequence
  | flowSequenceEnd
  | flowMapping
  | flowMappingEnd
  | flowEntry
  | key
  | value
  | alias (name : String)
  | anchor (name : String)
  | tag (handle suffix : String)
  | scalar (isPlain : Bool) (text : String)
  deriving DecidableEq, Repr

namespace Reading

/-! Anchors and aliases have a name. A tag is written whole between angle
brackets, or as a suffix behind a handle. -/

def readAnchorName : Reading String := do
  skipFor 1
  let name ← takeAll isNameCharacter
  ensure (!name.isEmpty && endsAnchor (← look 0))
  return String.ofList name

/-- Reads one byte of a character that is written as the codes of its bytes. -/
def readCodedByte : Reading Nat := do
  need 3
  let digits := ((← get).ahead.drop 1).take 2
  ensure ((← look 0) == '%' && digits.length == 2 && digits.all Text.isHexDigit)
  skipMany 3
  return Text.numeralValue 16 digits

/-- The number of bytes of a character, by the first of them. -/
def byteCount? (first : Nat) : Option Nat :=
  if first < 0x80 then some 1
  else if 0xc0 ≤ first ∧ first < 0xe0 then some 2
  else if 0xe0 ≤ first ∧ first < 0xf0 then some 3
  else if 0xf0 ≤ first ∧ first < 0xf8 then some 4
  else none

def readFurtherBytes : Nat → Reading (List Nat)
  | 0 => return []
  | count + 1 => do
    let byte ← readCodedByte
    ensure (byte / 0x40 == 2)
    return byte :: (← readFurtherBytes count)

/-- Reads the bytes of one coded character. They are kept one by one, since no
tag with a meaning has any but ASCII characters. -/
def readCoded : Reading (List Char) := do
  let first ← readCodedByte
  match byteCount? first with
  | none => failure
  | some count => return ((first :: (← readFurtherBytes (count - 1))).map Char.ofNat)

def readTagText : Nat → Reading (List Char)
  | 0 => return []
  | fuel + 1 => do
    let character ← look 0
    if character = '%' then
      let coded ← readCoded
      need 1
      return coded ++ (← readTagText fuel)
    else if isTagCharacter character then
      skipFor 1
      return character :: (← readTagText fuel)
    else return []

/-- Reads the text of a tag, of which something may have been read before. It
cannot be empty. -/
def readTagSuffix (hasStart : Bool) : Reading (List Char) := do
  need 1
  let text ← readTagText (← remaining)
  ensure (hasStart || !text.isEmpty)
  return text

/-- Reads an exclamation mark, a name, and the mark that ends a handle, if there
is one. -/
def readHandle : Reading (List Char × Bool) := do
  need 1
  ensure ((← look 0) == '!')
  skipFor 1
  let name ← takeAll isNameCharacter
  if (← look 0) = '!' then
    skip
    return ('!' :: name ++ ['!'], true)
  else return ('!' :: name, false)

def readTag : Reading Token := do
  need 2
  let token ←
    if (← look 1) = '<' then do
      skipMany 2
      let suffix ← readTagSuffix false
      ensure ((← look 0) == '>')
      skip
      pure (Token.tag "" (String.ofList suffix))
    else do
      let (handle, closed) ← readHandle
      if closed then do
        let suffix ← readTagSuffix false
        pure (Token.tag (String.ofList handle) (String.ofList suffix))
      else do
        let suffix := handle.drop 1 ++ (← readTagSuffix true)
        pure (if suffix.isEmpty then Token.tag "" "!"
          else Token.tag "!" (String.ofList suffix))
  need 1
  ensure (isBlankOrEnd (← look 0))
  return token

/-! A directive stands on a line of its own. It names the version of the format,
or gives a handle for tags. -/

def readVersionNumber : Reading Nat := do
  let digits ← takeAll Text.isDecimalDigit
  ensure (1 ≤ digits.length && digits.length ≤ 2)
  return Text.numeralValue 10 digits

def readVersion : Reading Token := do
  skipAll isBlank
  let major ← readVersionNumber
  ensure ((← look 0) == '.')
  skipFor 1
  return .version major (← readVersionNumber)

def readHandleExpansion : Reading Token := do
  skipAll isBlank
  let (name, closed) ← readHandle
  ensure (closed || name == ['!'])
  need 1
  ensure (isBlank (← look 0))
  skipAll isBlank
  let expansion ← readTagSuffix false
  ensure (isBlankOrEnd (← look 0))
  return .handle (String.ofList name) (String.ofList expansion)

def readDirective : Reading Token := do
  skipFor 1
  let name ← takeAll isNameCharacter
  ensure (!name.isEmpty && isBlankOrEnd (← look 0))
  let token ←
    if name = ['Y', 'A', 'M', 'L'] then readVersion
    else if name = ['T', 'A', 'G'] then readHandleExpansion
    else failure
  need 1
  skipAll isBlank
  if (← look 0) = '#' then skipToBreak
  ensure (isBreakOrEnd (← look 0))
  skipLineEnd
  return token

end Reading

end MipsGloss.Yaml
