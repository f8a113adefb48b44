import MipsGloss.Assembly.Statement
import MipsGloss.Listing.Line
import MipsGloss.Listing.Note
import MipsGloss.Text.Lines

namespace MipsGloss.Listing

/-! A listing is read into blocks. A block starts at a header and holds the
instructions up to the next one, each with the number of its line. -/

structure Entry where
  address : Nat
  word : String
  mnemonic : String
  operands : List String
  line : Nat
  deriving DecidableEq, Repr

structure Block where
  address : Nat
  label : String
  entries : List Entry
  deriving DecidableEq, Repr

inductive ByteOrder where
  | bigEndian
  | littleEndian
  deriving DecidableEq, Repr

inductive LineKind where
  | header
  | instruction
  deriving DecidableEq, Repr

/-- Why a listing cannot be read. Lines are numbered from one. -/
inductive Error where
  | address (line : Nat) (kind : LineKind) (digits : String)
  | noBlock (line : Nat)
  | longLine
  deriving DecidableEq, Repr

def LineKind.addressName : LineKind → String
  | .header => "segment address"
  | .instruction => "instruction address"

def Error.message : Error → String
  | .address line kind digits =>
    "error parsing line " ++ Text.decimal line ++ ": invalid " ++
      kind.addressName ++ ": strconv.ParseUint: parsing " ++
      Text.quote digits ++ ": value out of range"
  | .noBlock line =>
    "invalid listing: instruction encountered before segment definition at line " ++
      Text.decimal line
  | .longLine => "error reading listing: bufio.Scanner: token too long"

/-- Addresses have sixty-four bits. -/
def addressLimit : Nat := 0x10000000000000000

/-- A line is read into a buffer of this many bytes, its newline included. -/
def lineLimit : Nat := 65536

def addressText (address : Nat) : String :=
  "0x" ++ String.ofList (Text.hexDigits address)

namespace Entry

def addressText (entry : Entry) : String := Listing.addressText entry.address

def statement (entry : Entry) : Statement := ⟨entry.mnemonic, entry.operands⟩

def text (entry : Entry) : String := entry.statement.text

end Entry

def Block.addressText (block : Block) : String := Listing.addressText block.address

/-- The word of an instruction, as eight digits in lower case with the most
significant byte first. Only a word that is written in bytes depends on their
order. -/
def Encoded.word (order : ByteOrder) (encoded : Encoded) : String :=
  let digits :=
    match encoded, order with
    | .number digits, _ => digits
    | .bytes first second third fourth, .bigEndian =>
      first ++ second ++ third ++ fourth
    | .bytes first second third fourth, .littleEndian =>
      fourth ++ third ++ second ++ first
  Text.lower (String.ofList digits)

def readAddress (line : Nat) (kind : LineKind) (digits : List Char) :
    Except Error Nat :=
  let value := Text.numeralValue 16 digits
  if value < addressLimit then .ok value
  else .error (.address line kind (String.ofList digits))

/-- What a line contributes to a listing. -/
inductive Item where
  | start (address : Nat) (label : String)
  | entry (entry : Entry)
  | nothing
  deriving DecidableEq, Repr

def Line.item (order : ByteOrder) (number : Nat) : Line → Except Error Item
  | .header address label => do
    let address ← readAddress number .header address
    .ok (.start address (String.ofList label))
  | .instruction address encoded mnemonic operands => do
    let address ← readAddress number .instruction address
    .ok (.entry {
      address
      word := encoded.word order
      mnemonic := String.ofList mnemonic
      operands := Operand.split (String.ofList (dropNotes operands))
      line := number })
  | .other => .ok .nothing

/-- Reads one line of a listing, as it stands between two newlines. -/
def readItem (order : ByteOrder) (number : Nat) (characters : List Char) :
    Except Error Item :=
  if Text.byteLength characters < lineLimit then
    (Line.read (Text.dropReturn characters)).item order number
  else .error .longLine

/-- Reads lines from the given number on. `block` is the block they continue,
if one has begun. -/
def readBlocks (order : ByteOrder) (number : Nat) (block : Option Block) :
    List (List Char) → Except Error (List Block)
  | [] => .ok block.toList
  | characters :: rest =>
    match readItem order number characters with
    | .error error => .error error
    | .ok .nothing => readBlocks order (number + 1) block rest
    | .ok (.start address label) =>
      (readBlocks order (number + 1) (some ⟨address, label, []⟩) rest).map
        (block.toList ++ ·)
    | .ok (.entry entry) =>
      match block with
      | none => .error (.noBlock number)
      | some block =>
        readBlocks order (number + 1)
          (some { block with entries := block.entries ++ [entry] }) rest

/-- Reads a listing into its blocks, or finds its first fault. -/
def read (order : ByteOrder) (text : String) : Except Error (List Block) :=
  readBlocks order 1 none (Text.lines text.toList)

end MipsGloss.Listing
