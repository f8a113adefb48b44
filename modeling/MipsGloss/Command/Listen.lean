import MipsGloss.Text.Numeral

namespace MipsGloss

/-! The address that the service listens on: a host, which may be empty or
stand in brackets, a colon and the number of the service. A host is a name, or a
number of four bytes, and only the machine itself can be listened on. -/

inductive ListenError where
  | missingNumber (address : String)
  | manyColons (address : String)
  | unclosedHost (address : String)
  | strayOpening (address : String)
  | strayClosing (address : String)
  | invalidNumber (name : String)
  | unknownService (name : String)
  | unknownHost (name : String)
  | foreignHost (host : String) (number : Nat)
  deriving DecidableEq, Repr

def ListenError.message : ListenError → String
  | .missingNumber address => about address "missing port in address"
  | .manyColons address => about address "too many colons in address"
  | .unclosedHost address => about address "missing ']' in address"
  | .strayOpening address => about address "unexpected '[' in address"
  | .strayClosing address => about address "unexpected ']' in address"
  | .invalidNumber name => about name "invalid port"
  | .unknownService name => "listen tcp: lookup tcp/" ++ name ++ ": unknown port"
  | .unknownHost name => "listen tcp: lookup " ++ name ++ ": no such host"
  | .foreignHost host number =>
    "listen tcp " ++ host ++ ":" ++ Text.decimal number ++ ": bind: cannot assign requested address"
where
  about (address complaint : String) : String :=
    "listen tcp: address " ++ address ++ ": " ++ complaint

namespace Listen

/-- A host in brackets and what stands behind it, given without the opening one. -/
def bracketed (address : String) (characters : List Char) :
    Except ListenError (List Char × List Char) :=
  match characters.dropWhile (· != ']') with
  | [] => .error (.unclosedHost address)
  | [_] => .error (.missingNumber address)
  | _ :: next :: number =>
    if next ≠ ':' then .error (.missingNumber address)
    else if number.contains ':' then .error (.manyColons address)
    else if (characters.takeWhile (· != ']')).contains '[' || number.contains '[' then
      .error (.strayOpening address)
    else if number.contains ']' then .error (.strayClosing address)
    else .ok (characters.takeWhile (· != ']'), number)

/-- The host of an address, and what stands behind its colon. -/
def split (address : String) : Except ListenError (List Char × List Char) :=
  let characters := address.toList
  if !characters.contains ':' then .error (.missingNumber address)
  else
    match characters with
    | '[' :: rest => bracketed address rest
    | _ =>
      let number := (characters.dropWhile (· != ':')).drop 1
      if number.contains ':' then .error (.manyColons address)
      else if characters.contains '[' then .error (.strayOpening address)
      else if characters.contains ']' then .error (.strayClosing address)
      else .ok (characters.takeWhile (· != ':'), number)

def unsigned : List Char → List Char
  | '+' :: rest => rest
  | '-' :: rest => rest
  | characters => characters

/-- The services that are known by their names. -/
def services : List (String × Nat) :=
  [("domain", 53), ("ftp", 21), ("ftps", 990), ("gopher", 70), ("http", 80), ("https", 443),
   ("imap2", 143), ("imap3", 220), ("imaps", 993), ("pop3", 110), ("pop3s", 995), ("smtp", 25),
   ("ssh", 22), ("telnet", 23)]

/-- Reads the number of a service, which has sixteen bits. An empty one leaves the
choice to the system. -/
def readNumber (characters : List Char) : Except ListenError Nat :=
  let digits := unsigned characters
  let value := Text.numeralValue 10 digits
  if !digits.all Text.isDecimalDigit then
    match services.lookup (String.ofList (characters.map Char.toLower)) with
    | some number => .ok number
    | none => .error (.unknownService (String.ofList characters))
  else if value > 65535 || (characters.head? == some '-' && value != 0) then
    .error (.invalidNumber (String.ofList characters))
  else .ok value

/-- The parts of a host between its dots. -/
def labels : List Char → List (List Char)
  | [] => [[]]
  | character :: rest =>
    match labels rest with
    | [] => [[character]]
    | label :: others =>
      if character = '.' then [] :: label :: others else (character :: label) :: others

/-- The four bytes of a host that is given as a number. None of them is written with
zeros ahead of it. -/
def bytes? (host : List Char) : Option (List Nat) :=
  let parts := labels host
  let isByte (part : List Char) : Bool :=
    !part.isEmpty && part.all Text.isDecimalDigit && part.length ≤ 3 &&
      Text.numeralValue 10 part ≤ 255 && (part.head? != some '0' || part.length == 1)
  if parts.length = 4 ∧ parts.all isByte then some (parts.map (Text.numeralValue 10)) else none

def isNameCharacter (character : Char) : Bool :=
  character.isAlphanum || character == '-' || character == '_'

/-- Whether a host can be a name. A name has a character that is no digit, and
neither begins nor ends a part of it with a hyphen. -/
def isName (host : List Char) : Bool :=
  let parts := labels host
  let parts := if parts.length > 1 ∧ parts.getLast? = some [] then parts.dropLast else parts
  let isPart (part : List Char) : Bool :=
    !part.isEmpty && part.length ≤ 63 && part.all isNameCharacter &&
      part.head? != some '-' && part.getLast? != some '-'
  host.length ≤ 254 && parts.all isPart &&
    parts.any fun part => part.any fun character => !Text.isDecimalDigit character

/-- Whether the bytes of a host mean this machine, or a group that it can be in. -/
def isOwn (bytes : List Nat) : Bool :=
  match bytes with
  | 0 :: _ => true
  | 127 :: _ => true
  | first :: _ => decide (224 ≤ first ∧ first < 240) || bytes == [255, 255, 255, 255]
  | [] => false

/-- Checks a host. One with colons in it is left to the system, and so is every
name. -/
def checkHost (host : List Char) (number : Nat) : Except ListenError Unit :=
  if host.isEmpty ∨ host.contains ':' then .ok ()
  else
    match bytes? host with
    | some bytes =>
      if isOwn bytes then .ok () else .error (.foreignHost (String.ofList host) number)
    | none => if isName host then .ok () else .error (.unknownHost (String.ofList host))

/-- Checks an address. An empty one leaves everything to the system. -/
def check (address : String) : Except ListenError Unit :=
  if address = "" then .ok ()
  else
    match split address with
    | .error error => .error error
    | .ok (host, characters) =>
      match readNumber characters with
      | .error error => .error error
      | .ok number => checkHost host number

end Listen

end MipsGloss
