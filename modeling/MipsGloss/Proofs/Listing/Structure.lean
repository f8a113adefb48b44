import Mathlib.Data.List.Forall2
import MipsGloss.Proofs.Listing.Block

namespace MipsGloss.Listing

/-! The blocks of a listing are its passages: a passage is a header line with
the lines below it, up to the next header. Each passage is one block, and each
of its instruction lines is one entry of that block. -/

structure NumberedLine where
  number : Nat
  characters : List Char

def numberFrom (number : Nat) : List (List Char) → List NumberedLine
  | [] => []
  | characters :: rest => ⟨number, characters⟩ :: numberFrom (number + 1) rest

/-- The lines of a listing, numbered from one. -/
def numberedLines (text : String) : List NumberedLine :=
  numberFrom 1 (Text.lines text.toList)

namespace NumberedLine

def line (numbered : NumberedLine) : Line := lineOf numbered.characters

def entryAt? (order : ByteOrder) (numbered : NumberedLine) : Option Entry :=
  numbered.line.entryAt? order numbered.number

end NumberedLine

/-- The entries of the instructions among some lines. -/
def entriesOf (order : ByteOrder) (lines : List NumberedLine) : List Entry :=
  lines.filterMap (NumberedLine.entryAt? order)

theorem entriesOf_cons_of_none {order : ByteOrder} {numbered : NumberedLine}
    (none : numbered.entryAt? order = none) (lines : List NumberedLine) :
    entriesOf order (numbered :: lines) = entriesOf order lines :=
  List.filterMap_cons_none none

theorem entriesOf_cons_of_some {order : ByteOrder} {numbered : NumberedLine}
    {entry : Entry} (makes : numbered.entryAt? order = some entry)
    (lines : List NumberedLine) :
    entriesOf order (numbered :: lines) = entry :: entriesOf order lines :=
  List.filterMap_cons_some makes

structure Passage where
  header : NumberedLine
  body : List NumberedLine

namespace Passage

def lines (passage : Passage) : List NumberedLine := passage.header :: passage.body

/-- The block that a passage is read as. -/
structure Yields (order : ByteOrder) (passage : Passage) (block : Block) : Prop where
  header : ∃ address, passage.header.line = .header address block.label.toList ∧
    block.address = Text.numeralValue 16 address
  body : ∀ numbered ∈ passage.body, numbered.line.isHeader = false
  entries : block.entries = entriesOf order passage.body

end Passage

/-- The lines in front of the first header continue the block that has begun, and
every passage behind them is a block of its own. -/
theorem readBlocks_passages {order : ByteOrder} {lines : List (List Char)}
    {number : Nat} {block : Option Block} {blocks : List Block}
    (success : readBlocks order number block lines = .ok blocks) :
    ∃ front passages others,
      numberFrom number lines = front ++ passages.flatMap Passage.lines ∧
      (∀ numbered ∈ front, numbered.line.isHeader = false) ∧
      (block = none → entriesOf order front = []) ∧
      blocks = (block.map (·.append (entriesOf order front))).toList ++ others ∧
      List.Forall₂ (Passage.Yields order) passages others := by
  induction lines generalizing number block blocks with
  | nil =>
      cases success
      refine ⟨[], [], [], rfl, by simp, fun _ => rfl, ?_, .nil⟩
      cases block <;> simp [Block.append, entriesOf]
  | cons characters rest induction =>
      rcases readBlocks_cons_eq_ok success with
        ⟨_, next, finished, remaining, step, restSuccess, rfl⟩
      rcases induction restSuccess with
        ⟨front, passages, others, cut, noHeader, empty, rfl, yields⟩
      cases step with
      | skip other =>
          have silent : (NumberedLine.mk number characters).entryAt? order = none := by
            simp [NumberedLine.entryAt?, NumberedLine.line, other, Line.entryAt?]
          refine ⟨⟨number, characters⟩ :: front, passages, others, ?_, ?_, ?_, ?_, yields⟩
          · rw [numberFrom, cut, List.cons_append]
          · intro numbered member
            rcases List.mem_cons.mp member with rfl | member
            · simp [NumberedLine.line, other, Line.isHeader]
            · exact noHeader numbered member
          · rwa [entriesOf_cons_of_none silent]
          · rw [entriesOf_cons_of_none silent, List.nil_append]
      | @start _ address label header =>
          let opened : Block :=
            ⟨Text.numeralValue 16 address, String.ofList label, entriesOf order front⟩
          have yielded : Passage.Yields order ⟨⟨number, characters⟩, front⟩ opened :=
            ⟨⟨address, by simp [NumberedLine.line, header, opened], rfl⟩, noHeader, rfl⟩
          refine ⟨[], ⟨⟨number, characters⟩, front⟩ :: passages, opened :: others, ?_,
            by simp, fun _ => rfl, ?_, .cons yielded yields⟩
          · rw [numberFrom, cut]
            rfl
          · cases block <;> simp [Block.append, entriesOf, opened]
      | @entry current entry makes =>
          refine ⟨⟨number, characters⟩ :: front, passages, others, ?_, ?_, ?_, ?_, yields⟩
          · rw [numberFrom, cut, List.cons_append]
          · intro numbered member
            rcases List.mem_cons.mp member with rfl | member
            · exact Line.isHeader_of_entryAt? makes
            · exact noHeader numbered member
          · intro impossible
            cases impossible
          · have made : (NumberedLine.mk number characters).entryAt? order = some entry :=
              makes
            rw [entriesOf_cons_of_some made, List.nil_append]
            simp [Block.append]

/-- A listing is noise in front of the first header, and then its passages. -/
theorem read_passages {order : ByteOrder} {text : String} {blocks : List Block}
    (success : read order text = .ok blocks) :
    ∃ front passages,
      numberedLines text = front ++ passages.flatMap Passage.lines ∧
      (∀ numbered ∈ front, numbered.line = .other) ∧
      List.Forall₂ (Passage.Yields order) passages blocks := by
  rcases readBlocks_passages success with
    ⟨front, passages, others, cut, noHeader, empty, rfl, yields⟩
  refine ⟨front, passages, cut, ?_, yields⟩
  intro numbered member
  have silent : numbered.entryAt? order = none :=
    List.filterMap_eq_nil_iff.mp (empty rfl) numbered member
  have plain := noHeader numbered member
  rw [NumberedLine.entryAt?] at silent
  cases recognised : numbered.line with
  | header => simp [recognised, Line.isHeader] at plain
  | instruction => simp [recognised, Line.entryAt?] at silent
  | other => rfl

/-! ## Entries in the order of the listing -/

theorem entriesOf_passages {order : ByteOrder} {passages : List Passage}
    {blocks : List Block} (yields : List.Forall₂ (Passage.Yields order) passages blocks) :
    entriesOf order (passages.flatMap Passage.lines) = blocks.flatMap Block.entries := by
  induction yields with
  | nil => rfl
  | @cons passage block passages blocks yielded _ induction =>
      rcases yielded.header with ⟨address, header, _⟩
      have silent : passage.header.entryAt? order = none := by
        rw [NumberedLine.entryAt?, header]
        rfl
      rw [List.flatMap_cons, List.flatMap_cons, Passage.lines, List.cons_append,
        entriesOf_cons_of_none silent, yielded.entries, ← induction]
      exact List.filterMap_append

/-- Every instruction line is one entry, and there are no others. -/
theorem entries_read {order : ByteOrder} {text : String} {blocks : List Block}
    (success : read order text = .ok blocks) :
    blocks.flatMap Block.entries = entriesOf order (numberedLines text) := by
  rcases read_passages success with ⟨front, passages, cut, noise, yields⟩
  have silent : entriesOf order front = [] := by
    apply List.filterMap_eq_nil_iff.mpr
    intro numbered member
    rw [NumberedLine.entryAt?, noise numbered member]
    rfl
  rw [cut, ← entriesOf_passages yields]
  calc
    entriesOf order (passages.flatMap Passage.lines)
    _ = entriesOf order front ++ entriesOf order (passages.flatMap Passage.lines) := by
        rw [silent, List.nil_append]
    _ = entriesOf order (front ++ passages.flatMap Passage.lines) :=
        List.filterMap_append.symm

theorem line_of_entryAt? {order : ByteOrder} {numbered : NumberedLine} {entry : Entry}
    (makes : numbered.entryAt? order = some entry) : entry.line = numbered.number := by
  rcases Line.entryAt?_eq_some makes with ⟨_, _, _, _, _, rfl⟩
  rfl

theorem le_number_of_mem_numberFrom {number : Nat} {lines : List (List Char)}
    {numbered : NumberedLine} (member : numbered ∈ numberFrom number lines) :
    number ≤ numbered.number := by
  induction lines generalizing number with
  | nil => cases member
  | cons characters rest induction =>
      rcases List.mem_cons.mp member with rfl | member
      · exact Nat.le_refl number
      · exact Nat.le_of_succ_le (induction member)

theorem pairwise_line_entriesOf (order : ByteOrder) (number : Nat)
    (lines : List (List Char)) :
    ((entriesOf order (numberFrom number lines)).map Entry.line).Pairwise (· < ·) := by
  induction lines generalizing number with
  | nil => exact .nil
  | cons characters rest induction =>
      rw [numberFrom]
      cases makes : (NumberedLine.mk number characters).entryAt? order with
      | none =>
          rw [entriesOf_cons_of_none makes]
          exact induction (number + 1)
      | some entry =>
          rw [entriesOf_cons_of_some makes, List.map_cons]
          apply List.Pairwise.cons _ (induction (number + 1))
          intro line member
          rcases List.mem_map.mp member with ⟨later, laterMember, rfl⟩
          rcases List.mem_filterMap.mp laterMember with ⟨numbered, listed, laterMakes⟩
          have bound := le_number_of_mem_numberFrom listed
          rw [line_of_entryAt? makes, line_of_entryAt? laterMakes]
          exact bound

/-! ## Lines that are passed over

Without their numbers, the entries of a listing depend on its headers and
instructions alone. -/

def Entry.unnumbered (entry : Entry) : Entry := { entry with line := 0 }

def Block.unnumbered (block : Block) : Block :=
  { block with entries := block.entries.map Entry.unnumbered }

/-- The lines that are headers or instructions. -/
def recognisedLines (text : String) : List (List Char) :=
  (Text.lines text.toList).filter (lineOf · ≠ .other)

def outline (result : Except Error (List Block)) : Option (List Block) :=
  result.toOption.map (·.map Block.unnumbered)

theorem outline_map_append {first second : List Block}
    (same : first.map Block.unnumbered = second.map Block.unnumbered)
    {left right : Except Error (List Block)} (equal : outline left = outline right) :
    outline (left.map (first ++ ·)) = outline (right.map (second ++ ·)) := by
  cases left <;> cases right <;>
    simp_all [outline, Except.map, Except.toOption]

/-- Reading at other numbers and without the lines that are passed over has the
same outline. -/
theorem outline_readBlocks {order : ByteOrder} {lines : List (List Char)}
    (short : ∀ characters ∈ lines, Text.byteLength characters < lineLimit)
    {number other : Nat} {block otherBlock : Option Block}
    (same : block.map Block.unnumbered = otherBlock.map Block.unnumbered) :
    outline (readBlocks order number block lines) =
      outline (readBlocks order other otherBlock (lines.filter (lineOf · ≠ .other))) := by
  induction lines generalizing number other block otherBlock with
  | nil =>
      cases block <;> cases otherBlock <;>
        simp_all [readBlocks, outline, Except.toOption]
  | cons characters rest induction =>
      have shortLine := short characters List.mem_cons_self
      have shortRest : ∀ characters ∈ rest, Text.byteLength characters < lineLimit :=
        fun line member => short line (List.mem_cons_of_mem characters member)
      cases recognised : lineOf characters with
      | other =>
          rw [List.filter_cons_of_neg (by simp [recognised])]
          simp only [readBlocks, readItem_of_short shortLine, recognised, Line.item]
          exact induction shortRest same
      | header address label =>
          rw [List.filter_cons_of_pos (by simp [recognised])]
          simp only [readBlocks, readItem_of_short shortLine, recognised, Line.item]
          by_cases inRange : Text.numeralValue 16 address < addressLimit
          · simp only [readAddress_of_lt inRange]
            apply outline_map_append _ (induction shortRest rfl)
            cases block <;> cases otherBlock <;> simp_all
          · simp only [readAddress_of_le (Nat.le_of_not_lt inRange)]
            rfl
      | instruction address encoded mnemonic operands =>
          rw [List.filter_cons_of_pos (by simp [recognised])]
          simp only [readBlocks, readItem_of_short shortLine, recognised, Line.item]
          by_cases inRange : Text.numeralValue 16 address < addressLimit
          · simp only [readAddress_of_lt inRange]
            cases block with
            | none =>
                cases otherBlock with
                | none => rfl
                | some otherBlock => cases same
            | some block =>
                cases otherBlock with
                | none => cases same
                | some otherBlock =>
                    apply induction shortRest
                    simp_all [Block.unnumbered, Entry.unnumbered]
          · simp only [readAddress_of_le (Nat.le_of_not_lt inRange)]
            rfl

theorem short_of_readBlocks {order : ByteOrder} {lines : List (List Char)}
    {number : Nat} {block : Option Block} {blocks : List Block}
    (success : readBlocks order number block lines = .ok blocks) :
    ∀ characters ∈ lines, Text.byteLength characters < lineLimit := by
  induction lines generalizing number block blocks with
  | nil =>
      intro characters member
      cases member
  | cons head rest induction =>
      rcases readBlocks_cons_eq_ok success with ⟨short, _, _, _, _, restSuccess, _⟩
      intro characters member
      rcases List.mem_cons.mp member with rfl | member
      · exact short
      · exact induction restSuccess characters member

/-- Two listings with the same headers and instructions have the same outline. -/
theorem outline_read {order : ByteOrder} {text other : String} {blocks : List Block}
    (success : read order text = .ok blocks)
    (same : recognisedLines other = recognisedLines text)
    (short : ∀ characters ∈ Text.lines other.toList,
      Text.byteLength characters < lineLimit) :
    outline (read order other) = some (blocks.map Block.unnumbered) := by
  calc
    outline (read order other)
    _ = outline (readBlocks order 1 none (recognisedLines other)) :=
        outline_readBlocks short rfl
    _ = outline (read order text) := by
        rw [same]
        exact (outline_readBlocks (short_of_readBlocks success) rfl).symm
    _ = some (blocks.map Block.unnumbered) := by
        rw [success]
        rfl

/-! ## The structure of a listing -/

/-- What blocks have to be in order to be the ones of a listing. -/
structure Reflects (order : ByteOrder) (text : String) (blocks : List Block) : Prop where
  /-- Every header line opens one block, which holds the instruction lines up to
  the next header; only noise stands in front of the first. -/
  passages : ∃ front passages,
    numberedLines text = front ++ passages.flatMap Passage.lines ∧
    (∀ numbered ∈ front, numbered.line = .other) ∧
    List.Forall₂ (Passage.Yields order) passages blocks
  increasing : ((blocks.flatMap Block.entries).map Entry.line).Pairwise (· < ·)
  /-- Lines that are passed over show in the numbers of entries and nowhere else. -/
  quiet : ∀ other : String, recognisedLines other = recognisedLines text →
    (∀ characters ∈ Text.lines other.toList, Text.byteLength characters < lineLimit) →
    ∃ others, read order other = .ok others ∧
      others.map Block.unnumbered = blocks.map Block.unnumbered

theorem read_reflects {order : ByteOrder} {text : String} {blocks : List Block}
    (success : read order text = .ok blocks) : Reflects order text blocks where
  passages := read_passages success
  increasing := by
    rw [entries_read success]
    exact pairwise_line_entriesOf order 1 (Text.lines text.toList)
  quiet := by
    intro other same short
    have equal := outline_read success same short
    cases result : read order other with
    | error error =>
        rw [result] at equal
        cases equal
    | ok others =>
        rw [result] at equal
        exact ⟨others, rfl, Option.some.inj equal⟩

def sample : String :=
  "note\n0 <a>:\n4: 8F a4 00 08 lw a0,8( sp ) <b>#c\n0 <a>:"

def sampleBlocks : List Block :=
  [⟨0, "a", [⟨4, "0800a48f", "lw", ["a0", "8( sp )"], 3⟩]⟩, ⟨0, "a", []⟩]

theorem read_sample : read .littleEndian sample = .ok sampleBlocks := by
  decide +kernel

theorem sample_reflects :
    read .littleEndian sample = .ok sampleBlocks ∧
      Reflects .littleEndian sample sampleBlocks :=
  ⟨read_sample, read_reflects read_sample⟩

end MipsGloss.Listing
