import MipsGloss.Text.Numeral

namespace MipsGloss.Json

/-! Values of the JSON format. Numbers keep their spelling, and objects keep
their members in order, repeated names included. -/

inductive Value where
  | null
  | boolean (value : Bool)
  | number (spelling : String)
  | string (text : String)
  | array (items : List Value)
  | object (members : List (String × Value))
  deriving Repr

/-- The members of an object, without those that are absent. -/
def Value.ofMembers (members : List (String × Option Value)) : Value :=
  .object (members.filterMap fun (name, value) => value.map fun value => (name, value))

/-- A text, or null where there is none. -/
def Value.ofText? : Option String → Value
  | some text => .string text
  | none => .null

/-! Strings are written between double quotes. Apart from the quote, the
backslash and the control characters, the three characters with a meaning in
markup and the two line separators are escaped too, so that a value always
takes one line and can stand inside a page. -/

def shortEscapes : List (Char × Char) :=
  [('\x22', '\x22'), ('\\', '\\'), ('\x08', 'b'), ('\x0c', 'f'), ('\n', 'n'),
   ('\r', 'r'), ('\t', 't')]

def needsCode (character : Char) : Bool :=
  character.toNat < 0x20 ||
    ['<', '>', '&', '\u2028', '\u2029'].contains character

def escape (character : Char) : List Char :=
  match shortEscapes.lookup character with
  | some letter => ['\\', letter]
  | none =>
    if needsCode character then
      '\\' :: 'u' :: Text.paddedHexDigits 4 character.toNat
    else [character]

def quoted (text : String) : List Char :=
  '\x22' :: text.toList.flatMap escape ++ ['\x22']

namespace Value

mutual

/-- The characters of a value, without any space between its parts. -/
def characters : Value → List Char
  | .null => ['n', 'u', 'l', 'l']
  | .boolean true => ['t', 'r', 'u', 'e']
  | .boolean false => ['f', 'a', 'l', 's', 'e']
  | .number spelling => spelling.toList
  | .string text => quoted text
  | .array items => '[' :: (itemCharacters items ++ [']'])
  | .object members => '\x7b' :: (memberCharacters members ++ ['\x7d'])

def itemCharacters : List Value → List Char
  | [] => []
  | [item] => item.characters
  | item :: next :: rest => item.characters ++ ',' :: itemCharacters (next :: rest)

def memberCharacters : List (String × Value) → List Char
  | [] => []
  | [(name, value)] => quoted name ++ ':' :: value.characters
  | (name, value) :: next :: rest =>
    quoted name ++ ':' :: (value.characters ++ ',' :: memberCharacters (next :: rest))

end

mutual

/-- How many arrays and objects stand inside of each other in a value. -/
def depth : Value → Nat
  | .null | .boolean _ | .number _ | .string _ => 0
  | .array items => itemsDepth items + 1
  | .object members => membersDepth members + 1

def itemsDepth : List Value → Nat
  | [] => 0
  | item :: rest => max item.depth (itemsDepth rest)

def membersDepth : List (String × Value) → Nat
  | [] => 0
  | (_, value) :: rest => max value.depth (membersDepth rest)

end

/-- Writes a value on one line. -/
def line (value : Value) : String := String.ofList (value.characters ++ ['\n'])

/-! A value can also be spread over lines. Every item and every member has a line
of its own then, further in than what it belongs to; what holds nothing stays
together. -/

/-- Begins a line that is so many steps in. -/
def newLine (depth : Nat) : List Char := '\n' :: List.replicate (2 * depth) ' '

mutual

/-- The characters of a value that stands so many steps in. -/
def spreadCharacters (depth : Nat) : Value → List Char
  | .array (item :: rest) =>
    '[' :: (newLine (depth + 1) ++ spreadItems (depth + 1) (item :: rest) ++
      newLine depth ++ [']'])
  | .object (member :: rest) =>
    '\x7b' :: (newLine (depth + 1) ++ spreadMembers (depth + 1) (member :: rest) ++
      newLine depth ++ ['\x7d'])
  | value => value.characters

def spreadItems (depth : Nat) : List Value → List Char
  | [] => []
  | [item] => item.spreadCharacters depth
  | item :: next :: rest =>
    item.spreadCharacters depth ++ ',' :: (newLine depth ++ spreadItems depth (next :: rest))

def spreadMembers (depth : Nat) : List (String × Value) → List Char
  | [] => []
  | [(name, value)] => quoted name ++ ':' :: ' ' :: value.spreadCharacters depth
  | (name, value) :: next :: rest =>
    quoted name ++ ':' :: ' ' :: (value.spreadCharacters depth ++
      ',' :: (newLine depth ++ spreadMembers depth (next :: rest)))

end

/-- Writes a value with a line for each of its parts. -/
def lines (value : Value) : String :=
  String.ofList (value.spreadCharacters 0 ++ ['\n'])

end Value

end MipsGloss.Json
