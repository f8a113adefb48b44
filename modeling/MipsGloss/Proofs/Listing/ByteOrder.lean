import MipsGloss.Proofs.Listing.Grammar
import MipsGloss.Proofs.Listing.Structure

namespace MipsGloss.Listing

/-! A listing in the two byte orders. It is read in both of them or in neither, and
nothing but the words that are written in bytes tells the two readings apart. -/

/-! ## Words -/

/-- Digits with their bytes, of two digits each, in the opposite order. -/
def reverseBytes : List Char → List Char
  | first :: second :: rest => reverseBytes rest ++ [first, second]
  | rest => rest

theorem reverseBytes_append {byte : List Char} (length : byte.length = 2) (rest : List Char) :
    reverseBytes (byte ++ rest) = reverseBytes rest ++ byte := by
  rcases List.length_eq_two.mp length with ⟨first, second, rfl⟩
  rfl

example : reverseBytes "8fa40008".toList = "0800a48f".toList := by decide

/-- How the words of the two orders go together: a number is the same in both, and
the four bytes of a word that is written in bytes are turned round. -/
def Encoding.Mirrors (encoding : Encoding) (big little : String) : Prop :=
  match encoding with
  | .number _ => little = big
  | .bytes .. =>
      big.toList.length = 8 ∧ little = String.ofList (reverseBytes big.toList)

theorem Encoding.mirrors_word (encoding : Encoding) :
    encoding.Mirrors (encoding.encoded.word .bigEndian)
      (encoding.encoded.word .littleEndian) := by
  cases encoding with
  | number digits => rfl
  | bytes first _ second _ third _ fourth =>
      -- Small digits are still two to a byte.
      have length : ∀ byte : Digits 2,
          (byte.characters.map Text.lowerCharacter).length = 2 := by
        intro byte
        rw [List.length_map, byte.spelled.1]
      have last : reverseBytes (fourth.characters.map Text.lowerCharacter) =
          fourth.characters.map Text.lowerCharacter := by
        have single := reverseBytes_append (length fourth) []
        rwa [List.append_nil] at single
      simp only [Encoding.Mirrors, Encoding.encoded, Encoded.word, Text.lower,
        String.toList_ofList, List.map_append, List.append_assoc, List.length_append, length,
        reverseBytes_append (length first), reverseBytes_append (length second),
        reverseBytes_append (length third), last, and_self]

/-! ## Entries and blocks -/

/-- An entry in the two orders, as it is made from one of the given lines. -/
structure Entry.Mirrors (lines : List NumberedLine) (big little : Entry) : Prop where
  /-- All but the word is the same. -/
  same : little = { big with word := little.word }
  /-- The line of the entry decides about its word. -/
  word : ∃ numbered ∈ lines, ∃ instruction : InstructionLine,
    numbered.number = big.line ∧
    instruction.characters = Text.trimCharacters (Text.dropReturn numbered.characters) ∧
    instruction.encoding.Mirrors big.word little.word

structure Block.Mirrors (lines : List NumberedLine) (big little : Block) : Prop where
  address : little.address = big.address
  label : little.label = big.label
  entries : List.Forall₂ (Entry.Mirrors lines) big.entries little.entries

theorem InstructionLine.mirrors_entryAt {lines : List NumberedLine} {numbered : NumberedLine}
    (member : numbered ∈ lines) {instruction : InstructionLine}
    (written : instruction.characters =
      Text.trimCharacters (Text.dropReturn numbered.characters)) :
    Entry.Mirrors lines (instruction.entryAt .bigEndian numbered.number)
      (instruction.entryAt .littleEndian numbered.number) where
  same := rfl
  word := by
    have words := instruction.encoding.mirrors_word
    rw [Encoding.word_encoded, Encoding.word_encoded] at words
    exact ⟨numbered, member, instruction, rfl, written, words⟩

theorem Block.Mirrors.append {lines : List NumberedLine} {big little : Block}
    (mirrors : Block.Mirrors lines big little) {entry other : Entry}
    (entryMirrors : Entry.Mirrors lines entry other) :
    Block.Mirrors lines { big with entries := big.entries ++ [entry] }
      { little with entries := little.entries ++ [other] } where
  address := mirrors.address
  label := mirrors.label
  entries := List.rel_append mirrors.entries (.cons entryMirrors .nil)

/-! ## Two readings -/

/-- The outcomes of reading something in the two orders: the same fault, or results
that go together. -/
inductive Mirrored (mirrors : α → α → Prop) : Except Error α → Except Error α → Prop
  | fault (error : Error) : Mirrored mirrors (.error error) (.error error)
  | success {big little : α} (related : mirrors big little) :
      Mirrored mirrors (.ok big) (.ok little)

inductive Item.Mirrors (lines : List NumberedLine) : Item → Item → Prop
  | start (address : Nat) (label : String) :
      Item.Mirrors lines (.start address label) (.start address label)
  | entry {big little : Entry} (mirrors : Entry.Mirrors lines big little) :
      Item.Mirrors lines (.entry big) (.entry little)
  | nothing : Item.Mirrors lines .nothing .nothing

theorem mirrored_readItem {lines : List NumberedLine} {numbered : NumberedLine}
    (member : numbered ∈ lines) :
    Mirrored (Item.Mirrors lines)
      (readItem .bigEndian numbered.number numbered.characters)
      (readItem .littleEndian numbered.number numbered.characters) := by
  by_cases short : Text.byteLength numbered.characters < lineLimit
  · rw [readItem_of_short short, readItem_of_short short]
    simp only [lineOf]
    rcases Line.read_cases (Text.dropReturn numbered.characters) with
      ⟨header, _, line⟩ | ⟨instruction, written, line⟩ | ⟨line, _⟩
    · rw [line, HeaderLine.item_line, HeaderLine.item_line]
      split
      · exact .success (.start _ _)
      · exact .fault _
    · rw [line, InstructionLine.item_line, InstructionLine.item_line]
      split
      · exact .success (.entry (InstructionLine.mirrors_entryAt member written))
      · exact .fault _
    · rw [line]
      exact .success .nothing
  · have long : ∀ order, readItem order numbered.number numbered.characters =
        .error .longLine := fun _ => if_neg short
    rw [long, long]
    exact .fault _

/-- Blocks that are finished ahead of two readings go together with theirs. -/
theorem Mirrored.map_append {lines : List NumberedLine} {big little : List Block}
    (mirrors : List.Forall₂ (Block.Mirrors lines) big little)
    {result other : Except Error (List Block)}
    (mirrored : Mirrored (List.Forall₂ (Block.Mirrors lines)) result other) :
    Mirrored (List.Forall₂ (Block.Mirrors lines)) (result.map (big ++ ·))
      (other.map (little ++ ·)) := by
  cases mirrored with
  | fault error => exact .fault error
  | success related => exact .success (List.rel_append mirrors related)

theorem forall₂_toList {lines : List NumberedLine} {big little : Option Block}
    (mirrors : Option.Rel (Block.Mirrors lines) big little) :
    List.Forall₂ (Block.Mirrors lines) big.toList little.toList := by
  cases mirrors with
  | none => exact .nil
  | some related => exact .cons related .nil

/-- Blocks that go together still do after any further lines. -/
theorem mirrored_readBlocks {lines : List NumberedLine} {rest : List (List Char)}
    {number : Nat} (listed : ∀ numbered ∈ numberFrom number rest, numbered ∈ lines)
    {big little : Option Block} (mirrors : Option.Rel (Block.Mirrors lines) big little) :
    Mirrored (List.Forall₂ (Block.Mirrors lines))
      (readBlocks .bigEndian number big rest) (readBlocks .littleEndian number little rest) := by
  induction rest generalizing number big little with
  | nil => exact .success (forall₂_toList mirrors)
  | cons characters rest induction =>
      have later : ∀ numbered ∈ numberFrom (number + 1) rest, numbered ∈ lines :=
        fun numbered member => listed numbered (List.mem_cons_of_mem _ member)
      have first : NumberedLine.mk number characters ∈ lines := listed _ List.mem_cons_self
      have items := mirrored_readItem first
      simp only [readBlocks]
      generalize readItem .bigEndian number characters = item at items ⊢
      generalize readItem .littleEndian number characters = other at items ⊢
      cases items with
      | fault error => exact .fault error
      | success related =>
          cases related with
          | nothing => exact induction later mirrors
          | start address label =>
              exact (induction later (.some ⟨rfl, rfl, .nil⟩)).map_append
                (forall₂_toList mirrors)
          | entry entryMirrors =>
              cases mirrors with
              | none => exact .fault _
              | some blockMirrors =>
                  exact induction later (.some (blockMirrors.append entryMirrors))

/-- A listing has the same fault in both orders or is read in both, with blocks and
entries that are equal but for the words that are written in bytes. -/
theorem read_mirrored (text : String) :
    Mirrored (List.Forall₂ (Block.Mirrors (numberedLines text)))
      (read .bigEndian text) (read .littleEndian text) :=
  mirrored_readBlocks (fun _ member => member) .none

end MipsGloss.Listing
