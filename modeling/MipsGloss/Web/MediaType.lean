import MipsGloss.Text.Blank
import MipsGloss.Text.Bytes
import MipsGloss.Text.Casing

namespace MipsGloss.Web

/-! A media type is a name of two words with a slash between them, and
parameters behind semicolons. The value of a parameter is a word, or stands in
quotes. -/

structure MediaType where
  name : String
  parameters : List (String × String)
  deriving DecidableEq, Repr

namespace MediaType

def specials : List Char :=
  ['(', ')', '<', '>', '@', ',', ';', ':', '\\', '\x22', '/', '[', ']', '?', '=']

def isWordCharacter (character : Char) : Bool :=
  '!' ≤ character && character ≤ '~' && !specials.contains character

def takeWord (characters : List Char) : List Char × List Char :=
  characters.span isWordCharacter

/-- Whether characters are one word, or two with a slash between them. -/
def isName (characters : List Char) : Bool :=
  match takeWord characters with
  | ([], _) => false
  | (_, []) => true
  | (_, '/' :: rest) => !rest.isEmpty && rest.all isWordCharacter
  | _ => false

/-- Reads a value up to its closing quote. A backslash counts only ahead of a
character that needs it. -/
def takeQuoted? : List Char → Option (List Char × List Char)
  | [] => none
  | '\x22' :: rest => some ([], rest)
  | '\\' :: next :: rest =>
    if specials.contains next then
      (takeQuoted? rest).map fun (taken, left) => (next :: taken, left)
    else
      (takeQuoted? (next :: rest)).map fun (taken, left) => ('\\' :: taken, left)
  | character :: rest =>
    if character = '\r' ∨ character = '\n' then none
    else (takeQuoted? rest).map fun (taken, left) => (character :: taken, left)

def takeValue? : List Char → Option (List Char × List Char)
  | '\x22' :: rest => takeQuoted? rest
  | characters =>
    match takeWord characters with
    | ([], _) => none
    | (word, rest) => some (word, rest)

/-- Reads a parameter and what stands behind it. -/
def takeParameter? (characters : List Char) :
    Option ((String × String) × List Char) :=
  match Text.trimStart characters with
  | ';' :: rest =>
    match takeWord (Text.trimStart rest) with
    | ([], _) => none
    | (name, rest) =>
      match Text.trimStart rest with
      | '=' :: rest =>
        (takeValue? (Text.trimStart rest)).map fun (value, rest) =>
          ((Text.lower (String.ofList name), String.ofList value), rest)
      | _ => none
  | _ => none

/-- Reads the parameters. A semicolon may stand behind the last one, and a name
may come twice with the same value. The fuel bounds their number. -/
def parameters? (found : List (String × String)) :
    Nat → List Char → Option (List (String × String))
  | 0, _ => none
  | fuel + 1, characters =>
    if (Text.trimStart characters).isEmpty then some found
    else
      match takeParameter? characters with
      | none => if Text.trimCharacters characters = [';'] then some found else none
      | some ((name, value), rest) =>
        match found.lookup name with
        | some other =>
          if other = value then parameters? found fuel rest else none
        | none => parameters? ((name, value) :: found) fuel rest

def ofText? (text : String) : Option MediaType :=
  let characters := text.toList
  let name := Text.trimCharacters
    ((characters.takeWhile (· != ';')).map Text.lowerCharacter)
  if isName name then
    (parameters? [] (characters.length + 1) (characters.dropWhile (· != ';'))).map
      fun parameters => ⟨String.ofList name, parameters⟩
  else none

/-! A long value may be spread over several parameters, whose names end in a star
and a number, and a value may give its bytes by their codes, under a name that
ends in a star. -/

def unescape? : List Char → Option (List Nat)
  | [] => some []
  | '%' :: first :: second :: rest =>
    if Text.isHexDigit first && Text.isHexDigit second then
      (unescape? rest).map (Text.numeralValue 16 [first, second] :: ·)
    else none
  | character :: rest =>
    if character = '%' then none
    else (unescape? rest).map (Text.bytes (String.singleton character) ++ ·)

/-- The text of a value with its character set and language ahead of it. -/
def extended? (value : String) : Option String :=
  let rest := value.toList.dropWhile (· != '\x27')
  let set := Text.lower (String.ofList (value.toList.takeWhile (· != '\x27')))
  match (rest.drop 1).dropWhile (· != '\x27') with
  | _ :: text =>
    if set = "utf-8" ∨ set = "us-ascii" then (unescape? text).map Text.ofBytes else none
  | [] => none

/-- The pieces of a value that is spread over several parameters, from the given
number on. -/
def spread (mediaType : MediaType) (name : String) (number : Nat) :
    Nat → List String
  | 0 => []
  | fuel + 1 =>
    let piece := name ++ "*" ++ Text.decimal number
    match mediaType.parameters.lookup piece,
        mediaType.parameters.lookup (piece ++ "*") with
    | some value, _ => value :: mediaType.spread name (number + 1) fuel
    | none, some value =>
      let text :=
        if number = 0 then (extended? value).getD ""
        else ((unescape? value.toList).map Text.ofBytes).getD ""
      text :: mediaType.spread name (number + 1) fuel
    | none, none => []

/-- The value of a parameter, however it is written. -/
def parameter? (mediaType : MediaType) (name : String) : Option String :=
  let single := (mediaType.parameters.lookup (name ++ "*")).map extended?
  let pieces := mediaType.spread name 0 mediaType.parameters.length
  let given := mediaType.parameters.lookup name
  match single with
  | some value => value.or given
  | none => if pieces.isEmpty then given else some (String.join pieces)

end MediaType

end MipsGloss.Web
