import MipsGloss.Proofs.Encoding.Format
import MipsGloss.Proofs.Listing.Entry
import MipsGloss.Proofs.Word.Hexadecimal
import MipsGloss.Report

namespace MipsGloss

/-! Reports on listings. No instruction is lost between a listing and its
reports, and the binary view of an instruction can always be had. -/

theorem Lexicon.standard_digits {text : String} {word : Word}
    (spelled : Word.ofHexadecimal text = .ok word) :
    Lexicon.standard.digits text = .ok (Bits.text word) := by
  change (Word.ofHexadecimal text).map Bits.text = .ok (Bits.text word)
  rw [spelled]
  rfl

namespace Instruction

/-- A spelling in hexadecimal is read as its word, unless it has the length of
binary digits. -/
theorem ofText_of_ofHexadecimal {text : String} {word : Word}
    (length : text.toList.length ≠ 32) (spelled : Word.ofHexadecimal text = .ok word) :
    ofText Lexicon.standard text = .ok (ofWord word) := by
  have notBinary : Bits.ofDigits? 32 text.toList = none := if_neg fun binary => length binary.1
  rw [ofText, notBinary]
  simp only [Lexicon.standard_digits spelled, ofDigits_text]

end Instruction

namespace Report

/-! ## Reports on entries -/

/-- What a report has to say about an entry of the block `source`. -/
structure Explains (source : Listing.Block) (entry : Listing.Entry) (report : Report) :
    Prop where
  input : report.input = entry.text
  address : report.address = entry.addressText
  block : report.block = source.label
  spelled : entry.word.toList.length = 8 ∧
    ∀ digit ∈ entry.word.toList, Text.isSmallHexDigit digit = true
  /-- The word is decoded, and its decoding is that of its thirty-two bits. -/
  binary : ∃ (word : Word) (instruction : Instruction),
    word.toNat = Text.numeralValue 16 entry.word.toList ∧
    Instruction.ofDigits (Bits.text word) = .ok instruction ∧
    Instruction.ofText Lexicon.standard entry.word = .ok instruction ∧
    report.binary = some instruction
  assembly : ∀ gloss, report.assembly = some gloss ↔
    Gloss.ofLine Funct.text? entry.text = .ok gloss
  /-- The assembly view is missing for malformed operands and for nothing else. -/
  malformed : report.assembly = none ↔
    ∃ error : OperandError, Gloss.ofLine Funct.text? entry.text = .error error

theorem explains_ofEntry {order : Listing.ByteOrder} {entry : Listing.Entry}
    (listed : entry.Listed order) (block : Listing.Block) :
    Explains block entry (ofEntry Lexicon.standard block entry) where
  input := rfl
  address := rfl
  block := rfl
  spelled := listed.word_digits
  binary := by
    rcases listed.word_digits with ⟨length, digits⟩
    rcases Word.exists_of_eight_digits length fun digit member =>
      Text.isHexDigit_of_isSmallHexDigit (digits digit member) with ⟨word, value, spelled⟩
    have decoded : Instruction.ofText Lexicon.standard entry.word =
        .ok (Instruction.ofWord word) :=
      Instruction.ofText_of_ofHexadecimal (by rw [length]; decide) spelled
    refine ⟨word, Instruction.ofWord word, value, Instruction.ofDigits_text word, decoded, ?_⟩
    rw [ofEntry, decoded]
    rfl
  assembly := by
    intro gloss
    rw [ofEntry, Lexicon.standard]
    cases Gloss.ofLine Funct.text? entry.text with
    | error error => simp [Except.toOption]
    | ok result => simp [Except.toOption]
  malformed := by
    rw [ofEntry, Lexicon.standard]
    cases Gloss.ofLine Funct.text? entry.text with
    | error error => simp [Except.toOption]
    | ok result => simp [Except.toOption]

/-! ## Reports on listings -/

/-- The entries of blocks in order, each with the block it stands in. -/
def placedEntries (blocks : List Listing.Block) : List (Listing.Block × Listing.Entry) :=
  blocks.flatMap fun block => block.entries.map (block, ·)

theorem ofBlocks_eq_map (lexicon : Lexicon) (blocks : List Listing.Block) :
    ofBlocks lexicon blocks =
      (placedEntries blocks).map fun placed => ofEntry lexicon placed.1 placed.2 := by
  rw [ofBlocks, placedEntries, List.map_flatMap]
  apply List.flatMap_congr
  intro block _
  rw [ofBlock, List.map_map]
  rfl

/-- The reports on a listing explain its entries one by one, in order. -/
theorem explains_ofBlocks {order : Listing.ByteOrder} {text : String}
    {blocks : List Listing.Block} (success : Listing.read order text = .ok blocks) :
    List.Forall₂ (fun placed report => Explains placed.1 placed.2 report)
      (placedEntries blocks) (ofBlocks Lexicon.standard blocks) := by
  rw [ofBlocks_eq_map, List.forall₂_map_right_iff, List.forall₂_same]
  intro placed member
  rcases List.mem_flatMap.mp member with ⟨block, blockMember, inside⟩
  rcases List.mem_map.mp inside with ⟨entry, entryMember, rfl⟩
  exact explains_ofEntry (Listing.listed_of_read success blockMember entryMember) block

theorem explains_sample :
    Listing.read .littleEndian Listing.sample = .ok Listing.sampleBlocks ∧
      List.Forall₂ (fun placed report => Explains placed.1 placed.2 report)
        (placedEntries Listing.sampleBlocks)
        (ofBlocks Lexicon.standard Listing.sampleBlocks) :=
  ⟨Listing.read_sample, explains_ofBlocks Listing.read_sample⟩

end Report

end MipsGloss
