import MipsGloss.Text.Numeral

namespace MipsGloss.Yaml

/-! The characters of a YAML document, by the part they play in it. A NUL cannot
stand in a document, so it is what lies behind its last character. -/

def endMark : Char := '\x00'

def byteOrderMark : Char := '\ufeff'

/-- Control characters cannot stand in a document, apart from the tab and the
ends of lines. -/
def isAllowed (character : Char) : Bool :=
  let code := character.toNat
  ['\t', '\n', '\r', '\u0085'].contains character ||
    (0x20 ≤ code && code ≤ 0x7e) ||
    (0xa0 ≤ code && code != 0xfffe && code != 0xffff)

def isBlank (character : Char) : Bool := character == ' ' || character == '\t'

/-- Besides the newline and the carriage return there are three more characters
that end a line. -/
def isBreak (character : Char) : Bool :=
  ['\r', '\n', '\u0085', '\u2028', '\u2029'].contains character

def isBreakOrEnd (character : Char) : Bool :=
  isBreak character || character == endMark

def isBlankOrEnd (character : Char) : Bool :=
  isBlank character || isBreakOrEnd character

/-- The characters of the names of anchors, tags and directives. -/
def isNameCharacter (character : Char) : Bool :=
  character.isAlphanum || character == '_' || character == '-'

/-- Those characters of a tag that stand for themselves. -/
def isTagCharacter (character : Char) : Bool :=
  isNameCharacter character ||
    [';', '/', '?', ':', '@', '&', '=', '+', '$', ',', '.', '!', '~', '*', '\x27',
     '(', ')', '[', ']'].contains character

/-- What may follow the name of an anchor directly. -/
def endsAnchor (character : Char) : Bool :=
  isBlankOrEnd character ||
    ['?', ':', ',', ']', '\x7d', '%', '@', '\x60'].contains character

def flowIndicators : List Char := [',', '?', '[', ']', '\x7b', '\x7d']

def indicators : List Char :=
  ['-', '?', ':', ',', '[', ']', '\x7b', '\x7d', '#', '&', '*', '!', '|', '>',
   '\x27', '\x22', '%', '@', '\x60']

/-- Whether a plain scalar can begin with a character, by the one behind it. -/
def startsPlain (inFlow : Bool) (character next : Char) : Bool :=
  !(isBlankOrEnd character || indicators.contains character) ||
    (character == '-' && !isBlank next) ||
    (!inFlow && (character == '?' || character == ':') && !isBlankOrEnd next)

/-- Whether a plain scalar ends ahead of a character, by the one behind it. -/
def endsPlain (inFlow : Bool) (character next : Char) : Bool :=
  (character == ':' && isBlankOrEnd next) ||
    (inFlow && flowIndicators.contains character)

end MipsGloss.Yaml
