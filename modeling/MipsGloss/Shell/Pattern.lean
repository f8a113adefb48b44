namespace MipsGloss.Shell

/-! Patterns are matched against whole texts. A star stands for any characters, a
question mark for one, and brackets for one of a set; what is quoted stands for
itself. -/

/-- A character that has been expanded, and whether it is quoted. -/
structure Mark where
  character : Char
  quoted : Bool
  deriving DecidableEq

def plainMarks (characters : List Char) : List Mark :=
  characters.map fun character => ⟨character, false⟩

def quotedMarks (characters : List Char) : List Mark :=
  characters.map fun character => ⟨character, true⟩

def Mark.is (mark : Mark) (character : Char) : Bool :=
  !mark.quoted && mark.character == character

namespace Pattern

inductive Symbol where
  | many
  | one
  | literal (character : Char)
  | oneOf (negated : Bool) (ranges : List (Char × Char))

/-- The characters of a named class. -/
def classRanges : List (String × List (Char × Char)) :=
  [("alpha", [('a', 'z'), ('A', 'Z')]),
   ("digit", [('0', '9')]),
   ("alnum", [('a', 'z'), ('A', 'Z'), ('0', '9')]),
   ("upper", [('A', 'Z')]),
   ("lower", [('a', 'z')]),
   ("space", [('\t', '\r'), (' ', ' ')]),
   ("blank", [('\t', '\t'), (' ', ' ')]),
   ("xdigit", [('0', '9'), ('a', 'f'), ('A', 'F')]),
   ("punct", [('!', '/'), (':', '@'), ('[', '\x60'), ('\x7b', '~')]),
   ("cntrl", [('\x00', '\x1f'), ('\x7f', '\x7f')]),
   ("print", [(' ', '~')]),
   ("graph", [('!', '~')])]

/-- A class at the start of some characters, given without its opening brackets. -/
def takeClass? (characters : List Char) : Option (List (Char × Char) × Nat) :=
  let name := characters.takeWhile Char.isAlpha
  if [':', ']'].isPrefixOf (characters.drop name.length) then
    (classRanges.lookup (String.ofList name)).map fun ranges => (ranges, name.length + 2)
  else none

/-- The ranges of a set up to its closing bracket, and how many characters they
take with it. The first few characters are passed over. A closing bracket that
comes first belongs to the set. -/
def takeSet (isFirst : Bool) (passed : Nat) : List Char → Option (List (Char × Char) × Nat)
  | [] => none
  | character :: rest =>
    match passed with
    | passed + 1 => (takeSet false passed rest).map fun (ranges, count) => (ranges, count + 1)
    | 0 =>
      if character = ']' ∧ !isFirst then some ([], 1)
      else
        let classRanges? :=
          match character, rest with
          | '[', ':' :: name => takeClass? name
          | _, _ => none
        match classRanges? with
        | some (found, count) =>
          (takeSet false (count + 1) rest).map fun (ranges, size) => (found ++ ranges, size + 1)
        | none =>
          match rest with
          | '-' :: last :: _ =>
            if last = ']' then
              (takeSet false 0 rest).map fun (ranges, size) =>
                ((character, character) :: ranges, size + 1)
            else
              (takeSet false 2 rest).map fun (ranges, size) =>
                ((character, last) :: ranges, size + 1)
          | _ =>
            (takeSet false 0 rest).map fun (ranges, size) =>
              ((character, character) :: ranges, size + 1)

/-- A set at the start of some characters, given without its opening bracket. -/
def takeBrackets? (characters : List Char) : Option (Symbol × Nat) :=
  match characters with
  | first :: rest =>
    if first = '!' ∨ first = '^' then
      (takeSet true 0 rest).map fun (ranges, size) => (.oneOf true ranges, size + 1)
    else (takeSet true 0 characters).map fun (ranges, size) => (.oneOf false ranges, size)
  | [] => none

/-- The symbols of a pattern, whose first few characters are passed over. -/
def symbolsBehind (passed : Nat) : List Mark → List Symbol
  | [] => []
  | mark :: rest =>
    match passed with
    | passed + 1 => symbolsBehind passed rest
    | 0 =>
      if mark.is '*' then .many :: symbolsBehind 0 rest
      else if mark.is '?' then .one :: symbolsBehind 0 rest
      else if mark.is '[' then
        match takeBrackets? (rest.map (·.character)) with
        | some (symbol, size) => symbol :: symbolsBehind size rest
        | none => .literal '[' :: symbolsBehind 0 rest
      else if mark.is '\\' then
        match rest with
        | next :: _ => .literal next.character :: symbolsBehind 1 rest
        | [] => [.literal '\\']
      else .literal mark.character :: symbolsBehind 0 rest

def symbols (marks : List Mark) : List Symbol := symbolsBehind 0 marks

def inRanges (ranges : List (Char × Char)) (character : Char) : Bool :=
  ranges.any fun (first, last) => first ≤ character && character ≤ last

def Symbol.accepts (symbol : Symbol) (character : Char) : Bool :=
  match symbol with
  | .many => true
  | .one => true
  | .literal expected => expected == character
  | .oneOf negated ranges => inRanges ranges character != negated

/-- What can be left of a text behind a few of its first characters. -/
def suffixes : List Char → List (List Char)
  | [] => [[]]
  | character :: rest => (character :: rest) :: suffixes rest

def accepts : List Symbol → List Char → Bool
  | [], [] => true
  | [], _ :: _ => false
  | .many :: rest, text => (suffixes text).any (accepts rest)
  | _ :: _, [] => false
  | symbol :: rest, character :: text => symbol.accepts character && accepts rest text

/-- Whether a pattern can stand for anything but one text. -/
def isActive (marks : List Mark) : Bool :=
  marks.any fun mark => mark.is '*' || mark.is '?' || mark.is '['

/-- Cuts what a pattern matches off the start of a text. -/
def cutStart (longest : Bool) (pattern : List Symbol) (text : List Char) : List Char :=
  let sizes := List.range (text.length + 1)
  let sizes := if longest then sizes.reverse else sizes
  match sizes.find? fun size => accepts pattern (text.take size) with
  | some size => text.drop size
  | none => text

def cutEnd (longest : Bool) (pattern : List Symbol) (text : List Char) : List Char :=
  let sizes := List.range (text.length + 1)
  let sizes := if longest then sizes else sizes.reverse
  match sizes.find? fun size => accepts pattern (text.drop size) with
  | some size => text.take size
  | none => text

end Pattern

end MipsGloss.Shell
