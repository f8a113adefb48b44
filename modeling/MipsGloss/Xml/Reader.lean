import MipsGloss.Text.Bytes
import MipsGloss.Text.Casing
import MipsGloss.Xml.Name

namespace MipsGloss.Xml

/-! The reader takes a document apart as far as it is needed: of its first
element it gives the children by name, each with the text that stands directly
in it. Everything up to the end of that element has to be well formed. -/

def isAllowed (character : Char) : Bool :=
  let code := character.toNat
  ['\t', '\n', '\r'].contains character || (0x20 ≤ code && code != 0xfffe && code != 0xffff)

def skipSpace (characters : List Char) : List Char :=
  characters.dropWhile fun character => [' ', '\t', '\n', '\r'].contains character

/-- Takes the characters that begin with a name. Something has to follow it. -/
def takeName? (characters : List Char) : Option (Name × List Char) :=
  match characters.dropWhile goesOnName with
  | [] => none
  | rest => (Name.ofCharacters? (characters.takeWhile goesOnName)).map fun name => (name, rest)

/-! References stand for one character, by its code or by one of five names. -/

def namedCharacters : List (String × Char) :=
  [("lt", '<'), ("gt", '>'), ("amp", '&'), ("apos", '\x27'), ("quot", '\x22')]

/-- The character with the code that digits spell. A surrogate is none, and
becomes the replacement character. -/
def codedCharacter? (base : Nat) (digits : List Char) : Option Char :=
  let code := Text.numeralValue base digits
  if digits.isEmpty ∨ 0x10ffff < code then none
  else some (if code.isValidChar then Char.ofNat code else Text.replacement)

/-- Takes a reference, given without its ampersand. -/
def takeReference? : List Char → Option (Char × List Char)
  | '#' :: 'x' :: rest => close (codedCharacter? 16) (rest.span Text.isHexDigit)
  | '#' :: rest => close (codedCharacter? 10) (rest.span Text.isDecimalDigit)
  | characters =>
    close (fun name => namedCharacters.lookup (String.ofList name))
      (characters.span goesOnName)
where
  close (character? : List Char → Option Char) :
      List Char × List Char → Option (Char × List Char)
    | (taken, ';' :: rest) => (character? taken).map fun character => (character, rest)
    | _ => none

/-! Text ends ahead of a tag, and the value of an attribute at its quote. Every
line end becomes a newline. Two closing brackets and an angle bracket end a
section of characters, and can stand nowhere else in text. -/

inductive Place where
  | content
  | attribute (quote : Char)
  | section
  deriving DecidableEq, Repr

/-- Takes text. The two characters before it are given, as far as they stand for
themselves. The fuel bounds the number of characters. -/
def takeText? (place : Place) (before last : Char) :
    Nat → List Char → Option (List Char × List Char)
  | 0, _ => none
  | _, [] => if place = .section then none else some ([], [])
  | fuel + 1, character :: rest =>
    if before = ']' ∧ last = ']' ∧ character = '>' ∧ place = .section then some ([], rest)
    else if before = ']' ∧ last = ']' ∧ character = '>' ∧ place = .content then none
    else if character = '<' ∧ place ≠ .section then
      (if place = .content then some ([], character :: rest) else none)
    else if place = .attribute character then some ([], rest)
    else if character = '&' ∧ place ≠ .section then
      match takeReference? rest with
      | none => none
      | some (referred, rest) =>
        (takeText? place '\x00' '\x00' fuel rest).map fun (taken, left) =>
          (referred :: taken, left)
    else
      (takeText? place last character fuel rest).map fun (taken, left) =>
        if character = '\r' then ('\n' :: taken, left)
        else if last = '\r' ∧ character = '\n' then (taken, left)
        else (character :: taken, left)

/-- Takes text whose characters are all allowed. -/
def takeAllowedText? (place : Place) (characters : List Char) :
    Option (List Char × List Char) :=
  match takeText? place '\x00' '\x00' (characters.length + 1) characters with
  | some (taken, rest) =>
    let taken := if place = .section then taken.take (taken.length - 2) else taken
    if taken.all isAllowed then some (taken, rest) else none
  | none => none

/-! What stands in angle brackets is a tag, a comment, a section of characters, an
instruction or a declaration. -/

/-- Skips a comment, which cannot hold two dashes. -/
def skipComment? (before last : Char) : List Char → Option (List Char)
  | [] => none
  | character :: rest =>
    if before = '-' ∧ last = '-' then (if character = '>' then some rest else none)
    else skipComment? last character rest

/-- The value that a declaration gives to a name, behind an equals sign and in
quotes. -/
def declared (name : List Char) : List Char → List Char
  | [] => []
  | character :: rest =>
    let behind := (character :: rest).drop (name.length + 1)
    let quote := behind.headD ' '
    if (name ++ ['=']).isPrefixOf (character :: rest) ∧ (quote = '\x22' ∨ quote = '\x27') then
      (if behind.tail.contains quote then behind.tail.takeWhile (· != quote) else [])
    else declared name rest

/-- The text of an instruction, up to its question mark and angle bracket, and
what follows. -/
def takeInstruction? (last : Char) : List Char → Option (List Char × List Char)
  | [] => none
  | character :: rest =>
    if last = '?' ∧ character = '>' then some ([], rest)
    else
      (takeInstruction? character rest).map fun (taken, left) => (character :: taken, left)

/-- Skips an instruction. The one that describes the document can only name
version 1.0 and UTF-8. -/
def skipInstruction? (characters : List Char) : Option (List Char) :=
  match characters.dropWhile goesOnName with
  | [] => none
  | behind =>
    let target := characters.takeWhile goesOnName
    if !isName target then none
    else
      match takeInstruction? ' ' (skipSpace behind) with
      | none => none
      | some (text, rest) =>
        let version := declared "version".toList text
        let encoding := declared "encoding".toList text
        if target = ['x', 'm', 'l'] ∧
            (!(version.isEmpty || version == ['1', '.', '0']) ||
              !(encoding.isEmpty || Text.lower (String.ofList encoding) == "utf-8")) then none
        else some rest

/-- Skips a comment inside of a declaration. -/
def skipInnerComment? (before last : Char) : List Char → Option (List Char)
  | [] => none
  | character :: rest =>
    if before = '-' ∧ last = '-' ∧ character = '>' then some rest
    else skipInnerComment? last character rest

/-- Skips a declaration. Angle brackets are counted in it, except for those in
quotes and in comments. The fuel bounds the number of characters. -/
def skipDeclaration? (depth : Nat) (quote : Option Char) :
    Nat → List Char → Option (List Char)
  | 0, _ => none
  | _, [] => none
  | fuel + 1, character :: rest =>
    if quote = some character then skipDeclaration? depth none fuel rest
    else if quote.isSome then skipDeclaration? depth quote fuel rest
    else if character = '\x22' ∨ character = '\x27' then
      skipDeclaration? depth (some character) fuel rest
    else if character = '>' then
      (if depth = 0 then some rest else skipDeclaration? (depth - 1) none fuel rest)
    else if character = '<' then
      match rest with
      | '!' :: '-' :: '-' :: rest =>
        (skipInnerComment? ' ' ' ' rest).bind (skipDeclaration? depth none fuel)
      | '!' :: '-' :: rest => skipDeclaration? (depth + 1) none fuel rest
      | '!' :: rest => skipDeclaration? (depth + 1) none fuel rest
      | _ => skipDeclaration? (depth + 1) none fuel rest
    else skipDeclaration? depth none fuel rest

/-- Skips the attributes of a tag. Gives whether the tag closes itself. -/
def skipAttributes? : Nat → List Char → Option (Bool × List Char)
  | 0, _ => none
  | fuel + 1, characters =>
    match skipSpace characters with
    | '/' :: '>' :: rest => some (true, rest)
    | '>' :: rest => some (false, rest)
    | characters =>
      match takeName? characters with
      | none => none
      | some (_, rest) =>
        match skipSpace rest with
        | '=' :: rest =>
          match skipSpace rest with
          | quote :: rest =>
            if quote = '\x22' ∨ quote = '\x27' then
              (takeAllowedText? (.attribute quote) rest).bind fun (_, rest) =>
                skipAttributes? fuel rest
            else none
          | [] => none
        | _ => none

inductive Item where
  | text (characters : List Char)
  | opening (name : Name) (closed : Bool)
  | closing (name : Name)
  | other
  deriving Repr

/-- Takes what stands next in a document. -/
def takeItem? : List Char → Option (Item × List Char)
  | [] => none
  | '<' :: '/' :: rest =>
    match takeName? rest with
    | some (name, rest) =>
      match skipSpace rest with
      | '>' :: rest => some (.closing name, rest)
      | _ => none
    | none => none
  | '<' :: '?' :: rest => (skipInstruction? rest).map fun rest => (.other, rest)
  | '<' :: '!' :: '-' :: '-' :: rest =>
    (skipComment? ' ' ' ' rest).map fun rest => (.other, rest)
  | '<' :: '!' :: '-' :: _ => none
  | '<' :: '!' :: '[' :: 'C' :: 'D' :: 'A' :: 'T' :: 'A' :: '[' :: rest =>
    (takeAllowedText? .section rest).map fun (text, rest) => (.text text, rest)
  | '<' :: '!' :: '[' :: _ => none
  | '<' :: '!' :: _ :: rest =>
    (skipDeclaration? 0 none (rest.length + 1) rest).map fun rest => (.other, rest)
  | '<' :: rest =>
    match takeName? rest with
    | some (name, rest) =>
      (skipAttributes? (rest.length + 1) rest).map fun (closed, rest) =>
        (.opening name closed, rest)
    | none => none
  | characters =>
    (takeAllowedText? .content characters).map fun (text, rest) => (.text text, rest)

/-- What an element holds: the text directly in it, and its children, each with
the text directly in it. -/
structure Content where
  text : List Char
  children : List (String × String)

/-- Takes the content of an element, up to its closing tag. The fuel bounds the
number of items. -/
def takeContent? (name : Name) : Nat → List Char → Option (Content × List Char)
  | 0, _ => none
  | fuel + 1, characters =>
    match takeItem? characters with
    | none => none
    | some (.closing other, rest) => if other = name then some (⟨[], []⟩, rest) else none
    | some (.text text, rest) =>
      (takeContent? name fuel rest).map fun (content, rest) =>
        ({ content with text := text ++ content.text }, rest)
    | some (.other, rest) => takeContent? name fuel rest
    | some (.opening child closed, rest) =>
      match if closed then some (⟨[], []⟩, rest) else takeContent? child fuel rest with
      | none => none
      | some (inner, rest) =>
        (takeContent? name fuel rest).map fun (content, rest) =>
          let entry := (child.base, String.ofList inner.text)
          ({ content with children := entry :: content.children }, rest)

/-- The children of the first element of a document. -/
def children? : Nat → List Char → Option (List (String × String))
  | 0, _ => none
  | fuel + 1, characters =>
    match takeItem? characters with
    | none => none
    | some (.closing _, _) => none
    | some (.opening _ true, _) => some []
    | some (.opening name false, rest) =>
      (takeContent? name fuel rest).map fun (content, _) => content.children
    | some (_, rest) => children? fuel rest

def read (text : String) : Option (List (String × String)) :=
  let characters := text.toList
  children? (characters.length + 1) characters

end MipsGloss.Xml
