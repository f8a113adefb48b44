import MipsGloss.Shell.Pattern
import MipsGloss.Text.Numeral

namespace MipsGloss.Shell

/-! Regular expressions, in the basic and in the extended way to write them. Of
all matches the leftmost one is taken, and of those the longest. -/

inductive Regex where
  | empty
  | literal (character : Char)
  | any
  | oneOf (negated : Bool) (ranges : List (Char × Char))
  | start
  | finish
  | wordEdge (atStart atEnd : Bool)
  | notWordEdge
  | group (number : Nat) (body : Regex)
  | reference (number : Nat)
  | repeated (least : Nat) (most : Option Nat) (body : Regex)
  | sequence (first second : Regex)
  | either (first second : Regex)

namespace Regex

/-! Reading. -/

structure Style where
  extended : Bool
  ignoreCase : Bool

structure Reading where
  rest : List Char
  groups : Nat

abbrev Parse := StateT Reading (Except String)

def wordRanges : List (Char × Char) := [('a', 'z'), ('A', 'Z'), ('0', '9'), ('_', '_')]

def spaceRanges : List (Char × Char) := [('\t', '\r'), (' ', ' ')]

def letters : List Char := (List.range 26).map fun step => Char.ofNat ('a'.toNat + step)

/-- The ranges with the other case of each letter. -/
def bothCases (ranges : List (Char × Char)) : List (Char × Char) :=
  ranges ++ (letters.filter fun letter =>
    Pattern.inRanges ranges letter || Pattern.inRanges ranges letter.toUpper).flatMap
      fun letter => [(letter, letter), (letter.toUpper, letter.toUpper)]

def letter (style : Style) (character : Char) : Regex :=
  if style.ignoreCase && character.isAlpha then
    .oneOf false [(character.toLower, character.toLower), (character.toUpper, character.toUpper)]
  else .literal character

def pass (count : Nat) : Parse Unit :=
  modify fun reading => { reading with rest := reading.rest.drop count }

def startsWith (text : String) : Parse Bool := do
  return text.toList.isPrefixOf (← get).rest

/-- The two ways to write an operator. -/
def operator (style : Style) (character : Char) : String :=
  if style.extended then String.singleton character else String.ofList ['\\', character]

def takeOperator (style : Style) (character : Char) : Parse Bool := do
  let text := operator style character
  if ← startsWith text then
    pass text.length
    return true
  else return false

/-- Bounds of a repetition, from behind the opening brace. -/
def takeBounds (style : Style) : Parse (Nat × Option Nat) := do
  let (low, rest) := (← get).rest.span Text.isDecimalDigit
  let (high, rest) :=
    match rest with
    | ',' :: rest =>
      let (digits, rest) := rest.span Text.isDecimalDigit
      (if digits.isEmpty then none else some (Text.numeralValue 10 digits), rest)
    | rest => (some (Text.numeralValue 10 low), rest)
  modify fun reading => { reading with rest }
  if rest.isEmpty then throw "Unmatched \\\x7b"
  let isOrdered := (high.map fun high => decide (Text.numeralValue 10 low ≤ high)).getD true
  let closes ← takeOperator style '\x7d'
  if closes && isOrdered then return (Text.numeralValue 10 low, high)
  else throw "Invalid content of \\\x7b\\\x7d"

/-- Takes the repetitions behind an atom. The fuel bounds their number. -/
def takeRepetitions (style : Style) : Nat → Regex → Parse Regex
  | 0, atom => return atom
  | fuel + 1, atom => do
    if ← startsWith "*" then
      pass 1
      takeRepetitions style fuel (.repeated 0 none atom)
    else if ← takeOperator style '+' then
      takeRepetitions style fuel (.repeated 1 none atom)
    else if ← takeOperator style '?' then
      takeRepetitions style fuel (.repeated 0 (some 1) atom)
    else if ← takeOperator style '\x7b' then
      let (least, most) ← takeBounds style
      takeRepetitions style fuel (.repeated least most atom)
    else return atom

/-- What a letter behind a backslash stands for. -/
def escaped (style : Style) (character : Char) : Regex :=
  match character with
  | 'n' => .literal '\n'
  | 't' => .literal '\t'
  | 'r' => .literal '\r'
  | 'f' => .literal '\x0c'
  | 'v' => .literal '\x0b'
  | 'w' => .oneOf false wordRanges
  | 'W' => .oneOf true wordRanges
  | 's' => .oneOf false spaceRanges
  | 'S' => .oneOf true spaceRanges
  | 'b' => .wordEdge true true
  | '<' => .wordEdge true false
  | '>' => .wordEdge false true
  | 'B' => .notWordEdge
  | character =>
    if '1' ≤ character && character ≤ '9' then .reference (character.toNat - 48)
    else letter style character

def closes (style : Style) : Parse Bool := do
  startsWith (operator style ')')

/-- Takes one atom. A star that nothing stands ahead of is an ordinary
character. -/
def takeAtom (style : Style) (inner : Parse Regex) (isFirst : Bool) : Parse Regex := do
  if ← takeOperator style '(' then
    modify fun reading => { reading with groups := reading.groups + 1 }
    let number := (← get).groups
    let body ← inner
    if ← takeOperator style ')' then return .group number body
    else throw "Unmatched ( or \\("
  else
    match (← get).rest with
    | [] => return .empty
    | '.' :: _ =>
      pass 1
      return .any
    | '[' :: rest =>
      match Pattern.takeBrackets? (rest.map fun character =>
          if character = '!' then '\x01' else character) with
      | some (.oneOf negated ranges, size) =>
        pass (size + 1)
        let ranges := ranges.map fun (first, last) =>
          (if first = '\x01' then '!' else first, if last = '\x01' then '!' else last)
        if ranges.any fun (first, last) => last < first then throw "Invalid range end"
        return .oneOf negated (if style.ignoreCase then bothCases ranges else ranges)
      | _ =>
        if rest.isEmpty then throw "Invalid regular expression"
        throw "Unmatched [, [^, [:, [., or [="
    | '^' :: _ =>
      pass 1
      return if style.extended || isFirst then .start else .literal '^'
    | '$' :: rest =>
      pass 1
      let atEnd := rest.isEmpty || (← closes style) || (← startsWith (operator style '|'))
      return if style.extended || atEnd then .finish else .literal '$'
    | '\\' :: character :: _ =>
      pass 2
      return escaped style character
    | ['\\'] => throw "Trailing backslash"
    | character :: _ =>
      pass 1
      return letter style character

/-- Takes atoms up to the end of a branch. -/
def takeBranch (style : Style) (inner : Parse Regex) : Nat → Bool → Parse Regex
  | 0, _ => return .empty
  | fuel + 1, isFirst => do
    let atEnd := (← get).rest.isEmpty
    let atBar ← startsWith (operator style '|')
    let atClose ← closes style
    if atEnd || atBar || atClose then return .empty
    else
      let atom ← takeAtom style inner isFirst
      let isAnchor :=
        match atom with
        | .start => true
        | _ => false
      let atom ← if isAnchor && !style.extended then pure atom
        else takeRepetitions style ((← get).rest.length + 1) atom
      let others ← takeBranch style inner fuel (isFirst && isAnchor)
      return .sequence atom others

/-- Takes the branches of an expression. The fuel bounds the depth of groups. -/
def takeBranches (style : Style) : Nat → Parse Regex
  | 0 => throw "Regular expression too big"
  | fuel + 1 => do
    let first ← takeBranch style (takeBranches style fuel) ((← get).rest.length + 1) true
    if ← takeOperator style '|' then
      return .either first (← takeBranches style fuel)
    else return first

/-- The number of groups in an expression. -/
def groupCount : Regex → Nat
  | .group _ body => groupCount body + 1
  | .repeated _ _ body => groupCount body
  | .sequence first second => groupCount first + groupCount second
  | .either first second => groupCount first + groupCount second
  | _ => 0

/-- The highest group that an expression refers to. -/
def highestReference : Regex → Nat
  | .reference number => number
  | .group _ body => highestReference body
  | .repeated _ _ body => highestReference body
  | .sequence first second => max (highestReference first) (highestReference second)
  | .either first second => max (highestReference first) (highestReference second)
  | _ => 0

/-- Reads an expression. In the extended way an unmatched closing bracket is a
mistake of its own. -/
def read (style : Style) (source : String) : Except String Regex :=
  let characters := source.toList
  match (takeBranches style (characters.length + 2)).run ⟨characters, 0⟩ with
  | .error message => .error message
  | .ok (regex, reading) =>
    if !reading.rest.isEmpty then .error "Unmatched ) or \\)"
    else if regex.groupCount < regex.highestReference then .error "Invalid back reference"
    else .ok regex

/-! Matching. -/

/-- A way into a text: the character before it, what is left and how much that
is, and the groups so far. -/
structure Place where
  previous : Option Char
  rest : List Char
  left : Nat
  groups : List (Nat × List Char)

def isWordCharacter (character : Char) : Bool := Pattern.inRanges wordRanges character

/-- Keeps the first of all ways to the same place. -/
def distinct (places : List Place) : List Place :=
  places.foldl (fun kept place =>
    if kept.any fun other => other.left == place.left && other.groups == place.groups then kept
    else kept ++ [place]) []

/-- Goes on from a place by one character that passes a test. -/
def advance (place : Place) (test : Char → Bool) : List Place :=
  match place.rest with
  | character :: rest =>
    if test character then [{ place with previous := some character, rest, left := place.left - 1 }]
    else []
  | [] => []

def consume (place : Place) (text : List Char) : List Place :=
  if text.isPrefixOf place.rest then
    [{ place with
        previous := (text.getLast?).or place.previous
        rest := place.rest.drop text.length
        left := place.left - text.length }]
  else []

/-- The places behind a repetition, those behind more turns first. -/
def turns (step : Place → List Place) (least : Nat) :
    Option Nat → Nat → List Place → List Place
  | _, 0, places => places
  | most, fuel + 1, places =>
    if most = some 0 ∨ places.isEmpty then (if least = 0 then places else [])
    else
      let behind := distinct (places.flatMap fun place =>
        (step place).filter fun next => next.left < place.left || least > 0)
      let further := turns step (least - 1) (most.map (· - 1)) fuel behind
      if least = 0 then distinct (further ++ places) else further

/-- All places behind a match that begins at a place. -/
def behind : Regex → Place → List Place
  | .empty, place => [place]
  | .literal expected, place => advance place (· == expected)
  | .any, place => advance place fun _ => true
  | .oneOf negated ranges, place =>
    advance place fun character => Pattern.inRanges ranges character != negated
  | .start, place => if place.previous.isNone then [place] else []
  | .finish, place => if place.rest.isEmpty then [place] else []
  | .wordEdge atStart atEnd, place =>
    let before := (place.previous.map isWordCharacter).getD false
    let after := (place.rest.head?.map isWordCharacter).getD false
    if (atStart && !before && after) || (atEnd && before && !after) then [place] else []
  | .notWordEdge, place =>
    let before := (place.previous.map isWordCharacter).getD false
    let after := (place.rest.head?.map isWordCharacter).getD false
    if before = after then [place] else []
  | .group number body, place =>
    (body.behind place).map fun next =>
      let text := place.rest.take (place.left - next.left)
      { next with groups := (number, text) :: next.groups.filter (·.1 != number) }
  | .reference number, place =>
    match place.groups.lookup number with
    | some text => consume place text
    | none => []
  | .repeated least most body, place =>
    turns body.behind least most (place.left + least + 2) [place]
  | .sequence first second, place => distinct ((first.behind place).flatMap second.behind)
  | .either first second, place => distinct (first.behind place ++ second.behind place)

/-- A match: what stands ahead of it, the match itself, what stands behind it, and
the groups. -/
structure Match where
  before : List Char
  text : List Char
  behind : List Char
  groups : List (Nat × List Char)

def longest (places : List Place) : Option Place :=
  places.foldl (fun best place =>
    match best with
    | some other => if place.left < other.left then some place else best
    | none => some place) none

/-- The leftmost match from a place on. The characters passed are given in
reverse. -/
def search (regex : Regex) (passed : List Char) : Option Char → List Char → Option Match
  | previous, characters =>
    let place : Place := ⟨previous, characters, characters.length, []⟩
    match longest (regex.behind place), characters with
    | some found, _ =>
      some ⟨passed.reverse, characters.take (characters.length - found.left), found.rest,
        found.groups⟩
    | none, character :: rest => search regex (character :: passed) (some character) rest
    | none, [] => none

def find? (regex : Regex) (text : String) : Option Match := search regex [] none text.toList

end Regex

end MipsGloss.Shell
