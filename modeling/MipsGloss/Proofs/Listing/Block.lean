import MipsGloss.Listing.Block
import MipsGloss.Proofs.Listing.Line

namespace MipsGloss.Listing

/-! What one line does to the blocks that are being read. Every statement about
a whole listing rests on the cases that are told apart here. -/

/-- What is recognised in the characters between two newlines. -/
def lineOf (characters : List Char) : Line := Line.read (Text.dropReturn characters)

def Line.isHeader : Line → Bool
  | .header .. => true
  | _ => false

/-- The entry of a line that stands at the given number, if it is an
instruction. -/
def Line.entryAt? (order : ByteOrder) (number : Nat) : Line → Option Entry
  | .instruction address encoded mnemonic operands =>
      some {
        address := Text.numeralValue 16 address
        word := encoded.word order
        mnemonic := String.ofList mnemonic
        operands := Operand.split (String.ofList (dropNotes operands))
        line := number }
  | .header .. => none
  | .other => none

theorem Line.entryAt?_eq_some {order : ByteOrder} {number : Nat} {line : Line}
    {entry : Entry} (makes : line.entryAt? order number = some entry) :
    ∃ address encoded mnemonic operands,
      line = .instruction address encoded mnemonic operands ∧
        entry = ⟨Text.numeralValue 16 address, encoded.word order, String.ofList mnemonic,
          Operand.split (String.ofList (dropNotes operands)), number⟩ := by
  cases line with
  | header | other => cases makes
  | instruction address encoded mnemonic operands =>
      cases makes
      exact ⟨address, encoded, mnemonic, operands, rfl, rfl⟩

theorem Line.isHeader_of_entryAt? {order : ByteOrder} {number : Nat} {line : Line}
    {entry : Entry} (makes : line.entryAt? order number = some entry) :
    line.isHeader = false := by
  rcases Line.entryAt?_eq_some makes with ⟨_, _, _, _, rfl, _⟩
  rfl

def Block.append (block : Block) (entries : List Entry) : Block :=
  { block with entries := block.entries ++ entries }

/-! ## One line -/

/-- How a line can be read. -/
inductive Reading (order : ByteOrder) (number : Nat) (characters : List Char) :
    Except Error Item → Prop
  | long (long : lineLimit ≤ Text.byteLength characters) :
      Reading order number characters (.error .longLine)
  | start {address label : List Char}
      (short : Text.byteLength characters < lineLimit)
      (header : lineOf characters = .header address label)
      (inRange : Text.numeralValue 16 address < addressLimit) :
      Reading order number characters
        (.ok (.start (Text.numeralValue 16 address) (String.ofList label)))
  | startOutOfRange {address label : List Char}
      (short : Text.byteLength characters < lineLimit)
      (header : lineOf characters = .header address label)
      (outOfRange : addressLimit ≤ Text.numeralValue 16 address) :
      Reading order number characters
        (.error (.address number .header (String.ofList address)))
  | entry {address mnemonic operands : List Char} {encoded : Encoded} {entry : Entry}
      (short : Text.byteLength characters < lineLimit)
      (instruction : lineOf characters = .instruction address encoded mnemonic operands)
      (inRange : Text.numeralValue 16 address < addressLimit)
      (makes : (lineOf characters).entryAt? order number = some entry) :
      Reading order number characters (.ok (.entry entry))
  | entryOutOfRange {address mnemonic operands : List Char} {encoded : Encoded}
      (short : Text.byteLength characters < lineLimit)
      (instruction : lineOf characters = .instruction address encoded mnemonic operands)
      (outOfRange : addressLimit ≤ Text.numeralValue 16 address) :
      Reading order number characters
        (.error (.address number .instruction (String.ofList address)))
  | nothing (short : Text.byteLength characters < lineLimit)
      (other : lineOf characters = .other) :
      Reading order number characters (.ok .nothing)

theorem readAddress_of_lt {line : Nat} {kind : LineKind} {digits : List Char}
    (inRange : Text.numeralValue 16 digits < addressLimit) :
    readAddress line kind digits = .ok (Text.numeralValue 16 digits) :=
  if_pos inRange

theorem readAddress_of_le {line : Nat} {kind : LineKind} {digits : List Char}
    (outOfRange : addressLimit ≤ Text.numeralValue 16 digits) :
    readAddress line kind digits =
      .error (.address line kind (String.ofList digits)) :=
  if_neg (Nat.not_lt.mpr outOfRange)

theorem readItem_of_short {characters : List Char}
    (short : Text.byteLength characters < lineLimit) (order : ByteOrder)
    (number : Nat) :
    readItem order number characters = (lineOf characters).item order number :=
  if_pos short

theorem reading_readItem (order : ByteOrder) (number : Nat) (characters : List Char) :
    Reading order number characters (readItem order number characters) := by
  by_cases short : Text.byteLength characters < lineLimit
  · rw [readItem_of_short short]
    cases recognised : lineOf characters with
    | other => exact .nothing short recognised
    | header address label =>
        by_cases inRange : Text.numeralValue 16 address < addressLimit
        · rw [Line.item, readAddress_of_lt inRange]
          exact .start short recognised inRange
        · rw [Line.item, readAddress_of_le (Nat.le_of_not_lt inRange)]
          exact .startOutOfRange short recognised (Nat.le_of_not_lt inRange)
    | instruction address encoded mnemonic operands =>
        by_cases inRange : Text.numeralValue 16 address < addressLimit
        · rw [Line.item, readAddress_of_lt inRange]
          exact .entry short recognised inRange (by rw [recognised]; rfl)
        · rw [Line.item, readAddress_of_le (Nat.le_of_not_lt inRange)]
          exact .entryOutOfRange short recognised (Nat.le_of_not_lt inRange)
  · have item : readItem order number characters = .error .longLine := if_neg short
    rw [item]
    exact .long (Nat.le_of_not_lt short)

/-! ## One step -/

/-- What a line does when the lines from it on are read without a fault. -/
inductive Step (order : ByteOrder) (number : Nat) (characters : List Char) :
    Option Block → Option Block → List Block → Prop
  | skip {block : Option Block} (other : lineOf characters = .other) :
      Step order number characters block block []
  | start {block : Option Block} {address label : List Char}
      (header : lineOf characters = .header address label) :
      Step order number characters block
        (some ⟨Text.numeralValue 16 address, String.ofList label, []⟩) block.toList
  | entry {block : Block} {entry : Entry}
      (makes : (lineOf characters).entryAt? order number = some entry) :
      Step order number characters (some block) (some (block.append [entry])) []

theorem map_nil_append (result : Except Error (List Block)) : result.map ([] ++ ·) = result := by
  cases result <;> rfl

/-- A line either ends the reading with a fault or takes one step, whatever stands
below it. -/
theorem readBlocks_step (order : ByteOrder) (number : Nat) (block : Option Block)
    (characters : List Char) :
    (∃ error, ∀ rest, readBlocks order number block (characters :: rest) = .error error) ∨
    (Text.byteLength characters < lineLimit ∧
      ∃ next finished, Step order number characters block next finished ∧
        ∀ rest, readBlocks order number block (characters :: rest) =
          (readBlocks order (number + 1) next rest).map (finished ++ ·)) := by
  have reading := reading_readItem order number characters
  simp only [readBlocks]
  generalize readItem order number characters = result at reading
  cases reading with
  | long | startOutOfRange | entryOutOfRange => exact .inl ⟨_, fun _ => rfl⟩
  | nothing short other =>
      exact .inr ⟨short, block, [], .skip other, fun _ => (map_nil_append _).symm⟩
  | start short header _ => exact .inr ⟨short, _, _, .start header, fun _ => rfl⟩
  | entry short _ _ makes =>
      cases block with
      | none => exact .inl ⟨_, fun _ => rfl⟩
      | some block => exact .inr ⟨short, _, [], .entry makes, fun _ => (map_nil_append _).symm⟩

theorem readBlocks_cons_eq_ok {order : ByteOrder} {number : Nat} {block : Option Block}
    {characters : List Char} {rest : List (List Char)} {blocks : List Block}
    (success : readBlocks order number block (characters :: rest) = .ok blocks) :
    Text.byteLength characters < lineLimit ∧
      ∃ next finished others,
        Step order number characters block next finished ∧
          readBlocks order (number + 1) next rest = .ok others ∧
          blocks = finished ++ others := by
  rcases readBlocks_step order number block characters with
    ⟨error, failure⟩ | ⟨short, next, finished, step, continues⟩
  · rw [failure rest] at success
    cases success
  · rw [continues rest] at success
    cases remaining : readBlocks order (number + 1) next rest with
    | error error =>
        rw [remaining] at success
        cases success
    | ok others =>
        rw [remaining] at success
        cases success
        exact ⟨short, next, finished, others, step, remaining, rfl⟩

end MipsGloss.Listing
