import MipsGloss.Proofs.Listing.Block

/-! Listings one behind another. Behind a complete line a listing goes on as if it had
begun there: faults in front of the seam come first, no block reaches across it, and only
the numbers of the lines count on. -/

namespace MipsGloss.Text

/-! ## Lines of two texts -/

/-- The characters end with a line that has its newline. -/
def EndsLine (characters : List Char) : Prop :=
  characters = [] ∨ ∃ front, characters = front ++ ['\n']

theorem lines_append_newline {line : List Char} (single : '\n' ∉ line) (rest : List Char) :
    lines (line ++ '\n' :: rest) = line :: lines rest := by
  have inLine := bne_of_not_mem single
  have stops : Stops (· != '\n') ('\n' :: rest) := stops_cons (by decide) rest
  have taken := takeWhile_append_of_stops inLine stops
  have left := dropWhile_append_of_stops inLine stops
  cases whole : line ++ '\n' :: rest with
  | nil => simp at whole
  | cons first others =>
      rw [whole] at taken left
      rw [lines]
      split
      · next remaining =>
          rw [left] at remaining
          cases remaining
      · next remaining =>
          rw [left] at remaining
          cases remaining
          rw [taken]

theorem lines_flatMap_append {complete : List (List Char)}
    (single : ∀ line ∈ complete, '\n' ∉ line) (back : List Char) :
    lines (complete.flatMap (· ++ ['\n']) ++ back) = complete ++ lines back := by
  induction complete with
  | nil => rfl
  | cons line others induction =>
      have othersSingle : ∀ other ∈ others, '\n' ∉ other :=
        fun other member => single other (List.mem_cons_of_mem line member)
      rw [List.flatMap_cons, List.append_assoc, List.append_assoc, List.singleton_append,
        lines_append_newline (single line List.mem_cons_self), induction othersSingle]
      rfl

theorem exists_lines_of_endsLine {characters : List Char} (ends : EndsLine characters) :
    ∃ complete : List (List Char), (∀ line ∈ complete, '\n' ∉ line) ∧
      characters = complete.flatMap (· ++ ['\n']) := by
  rcases ends with rfl | ⟨front, rfl⟩
  · exact ⟨[], by simp, rfl⟩
  induction front with
  | nil => exact ⟨[[]], by simp, rfl⟩
  | cons first others induction =>
      rcases induction with ⟨complete, single, whole⟩
      rw [List.cons_append, whole]
      by_cases newline : first = '\n'
      · -- The newline ends an empty line of its own.
        refine ⟨[] :: complete, ?_, by rw [newline]; rfl⟩
        intro line member
        rcases List.mem_cons.mp member with rfl | member
        · exact List.not_mem_nil
        · exact single line member
      · cases complete with
        | nil => simp at whole
        | cons line lines =>
            refine ⟨(first :: line) :: lines, ?_, rfl⟩
            intro other member
            rcases List.mem_cons.mp member with rfl | member
            · rw [List.mem_cons, not_or]
              exact ⟨Ne.symm newline, single line List.mem_cons_self⟩
            · exact single other (List.mem_cons_of_mem line member)

/-- Behind a complete line, the lines of a text are the lines of its two parts. -/
theorem lines_append {front : List Char} (ends : EndsLine front) (back : List Char) :
    lines (front ++ back) = lines front ++ lines back := by
  rcases exists_lines_of_endsLine ends with ⟨complete, single, rfl⟩
  have alone := lines_flatMap_append single []
  rw [List.append_nil, lines, List.append_nil] at alone
  rw [lines_flatMap_append single, alone]

end MipsGloss.Text

namespace MipsGloss.Listing

/-! ## Blocks of two runs of lines -/

section

variable {order : ByteOrder} {number : Nat} {block : Option Block}
  {front : List (List Char)}

theorem readBlocks_append_of_error {error : Error}
    (failure : readBlocks order number block front = .error error)
    (back : List (List Char)) :
    readBlocks order number block (front ++ back) = .error error := by
  induction front generalizing number block with
  | nil => cases failure
  | cons characters rest induction =>
      rw [List.cons_append]
      rcases readBlocks_step order number block characters with
        ⟨found, failed⟩ | ⟨_, next, finished, _, continues⟩
      · rw [failed] at failure ⊢
        exact failure
      · rw [continues] at failure ⊢
        cases remaining : readBlocks order (number + 1) next rest with
        | ok others =>
            rw [remaining] at failure
            cases failure
        | error found =>
            rw [remaining] at failure
            cases failure
            rw [induction remaining]
            rfl

/-- Lines that are read without a fault leave a block that the lines below them go on
with. -/
theorem readBlocks_append_of_ok {blocks : List Block}
    (success : readBlocks order number block front = .ok blocks) :
    ∃ finished current, blocks = finished ++ current.toList ∧
      ∀ back, readBlocks order number block (front ++ back) =
        (readBlocks order (number + front.length) current back).map (finished ++ ·) := by
  induction front generalizing number block blocks with
  | nil =>
      cases success
      exact ⟨[], block, rfl, fun back => (map_nil_append _).symm⟩
  | cons characters rest induction =>
      rcases readBlocks_step order number block characters with
        ⟨found, failed⟩ | ⟨_, next, begun, _, continues⟩
      · rw [failed] at success
        cases success
      · rw [continues] at success
        cases remaining : readBlocks order (number + 1) next rest with
        | error error =>
            rw [remaining] at success
            cases success
        | ok others =>
            rw [remaining] at success
            cases success
            rcases induction remaining with ⟨finished, current, rfl, below⟩
            refine ⟨begun ++ finished, current, (List.append_assoc ..).symm, fun back => ?_⟩
            have numbers : number + 1 + rest.length = number + (characters :: rest).length := by
              rw [List.length_cons]
              omega
            rw [List.cons_append, continues, below, numbers]
            cases readBlocks order (number + (characters :: rest).length) current back <;>
              simp [Except.map]

end

/-! ## Later lines -/

def Entry.later (count : Nat) (entry : Entry) : Entry :=
  { entry with line := entry.line + count }

def Block.later (count : Nat) (block : Block) : Block :=
  { block with entries := block.entries.map (Entry.later count) }

def Item.later (count : Nat) : Item → Item
  | .entry made => .entry (made.later count)
  | item => item

theorem readAddress_later {number : Nat} {kind : LineKind} {digits : List Char} {value : Nat}
    (success : readAddress number kind digits = .ok value) (count : Nat) :
    readAddress (number + count) kind digits = .ok value := by
  by_cases inRange : Text.numeralValue 16 digits < addressLimit
  · rw [readAddress_of_lt inRange] at success ⊢
    exact success
  · rw [readAddress_of_le (Nat.le_of_not_lt inRange)] at success
    cases success

theorem Line.item_later {order : ByteOrder} {number : Nat} {line : Line} {item : Item}
    (success : line.item order number = .ok item) (count : Nat) :
    line.item order (number + count) = .ok (item.later count) := by
  cases line with
  | other =>
      cases success
      rfl
  | header address label =>
      rw [Line.item] at success ⊢
      cases value : readAddress number .header address with
      | error error =>
          rw [value] at success
          cases success
      | ok value =>
          rw [value] at success
          rw [readAddress_later value count]
          cases success
          rfl
  | instruction address encoded mnemonic operands =>
      rw [Line.item] at success ⊢
      cases value : readAddress number .instruction address with
      | error error =>
          rw [value] at success
          cases success
      | ok value =>
          rw [value] at success
          rw [readAddress_later value count]
          cases success
          rfl

theorem readItem_later {order : ByteOrder} {number : Nat} {characters : List Char} {item : Item}
    (success : readItem order number characters = .ok item) (count : Nat) :
    readItem order (number + count) characters = .ok (item.later count) := by
  by_cases short : Text.byteLength characters < lineLimit
  · rw [readItem_of_short short] at success ⊢
    exact Line.item_later success count
  · have long : readItem order number characters = .error .longLine := if_neg short
    rw [long] at success
    cases success

/-- Lines that are read without a fault are read further down as they are here. -/
theorem readBlocks_later {order : ByteOrder} {lines : List (List Char)} {number : Nat}
    {block : Option Block} {blocks : List Block}
    (success : readBlocks order number block lines = .ok blocks) (count : Nat) :
    readBlocks order (number + count) (block.map (Block.later count)) lines =
      .ok (blocks.map (Block.later count)) := by
  induction lines generalizing number block blocks with
  | nil =>
      cases success
      cases block <;> rfl
  | cons characters rest induction =>
      have numbers : number + count + 1 = number + 1 + count := by omega
      rw [readBlocks] at success ⊢
      cases reading : readItem order number characters with
      | error error => simp [reading] at success
      | ok item =>
          rw [readItem_later reading count, numbers]
          rw [reading] at success
          cases item with
          | nothing => exact induction success
          | start address label =>
              cases remaining : readBlocks order (number + 1)
                  (some ⟨address, label, []⟩) rest with
              | error error => simp [remaining, Except.map] at success
              | ok others =>
                  simp only [remaining, Except.map] at success
                  cases success
                  have below : readBlocks order (number + 1 + count)
                      (some ⟨address, label, []⟩) rest = .ok (others.map (Block.later count)) :=
                    induction remaining
                  simp only [Item.later, below, Except.map]
                  cases block <;> rfl
          | entry made =>
              cases block with
              | none => simp at success
              | some block =>
                  have below := induction success
                  simpa [Item.later, Block.later] using below

/-- Lines that need no block above them leave the one that stands there alone. -/
theorem readBlocks_behind {order : ByteOrder} {lines : List (List Char)} {number : Nat}
    {blocks : List Block} (success : readBlocks order number none lines = .ok blocks)
    (block : Option Block) :
    readBlocks order number block lines = .ok (block.toList ++ blocks) := by
  induction lines generalizing number blocks with
  | nil =>
      cases success
      rw [readBlocks]
      simp
  | cons characters rest induction =>
      rw [readBlocks] at success ⊢
      cases reading : readItem order number characters with
      | error error => simp [reading] at success
      | ok item =>
          rw [reading] at success
          cases item with
          | nothing => exact induction success
          | start address label =>
              cases remaining : readBlocks order (number + 1)
                  (some ⟨address, label, []⟩) rest with
              | error error => simp [remaining, Except.map] at success
              | ok others =>
                  simp only [remaining, Except.map] at success ⊢
                  cases success
                  rfl
          | entry made => cases success

/-! ## One listing behind another -/

/-- A listing that ends with a complete line and cannot be read cannot be read with
another behind it, for the same reason. Two listings that can be read have the blocks of
both, and the lines of the second count from the first. -/
theorem read_append (order : ByteOrder) {first : String} (ends : Text.EndsLine first.toList)
    (second : String) :
    (∀ error, read order first = .error error →
      read order (first ++ second) = .error error) ∧
    ∀ blocks others, read order first = .ok blocks → read order second = .ok others →
      read order (first ++ second) =
        .ok (blocks ++ others.map (Block.later (Text.lines first.toList).length)) := by
  have joined : Text.lines (first ++ second).toList =
      Text.lines first.toList ++ Text.lines second.toList := by
    rw [String.toList_append, Text.lines_append ends]
  simp only [read, joined]
  constructor
  · intro error failure
    exact readBlocks_append_of_error failure _
  · intro blocks others firstRead secondRead
    rcases readBlocks_append_of_ok firstRead with ⟨finished, current, rfl, below⟩
    have later := readBlocks_later secondRead (Text.lines first.toList).length
    rw [below, readBlocks_behind later, Except.map, List.append_assoc]

def upperPart : String := "0 <a>:\n4: 00000000 nop\n"

def upperBlocks : List Block := [⟨0, "a", [⟨4, "00000000", "nop", [], 2⟩]⟩]

def lowerPart : String := "\n8 <b>:\n8: 08000002 j 8"

def lowerBlocks (line : Nat) : List Block := [⟨8, "b", [⟨8, "08000002", "j", ["8"], line⟩]⟩]

theorem read_append_parts :
    Text.EndsLine upperPart.toList ∧
      read .bigEndian upperPart = .ok upperBlocks ∧
      read .bigEndian lowerPart = .ok (lowerBlocks 3) ∧
      read .bigEndian (upperPart ++ lowerPart) = .ok (upperBlocks ++ lowerBlocks 5) := by
  have ends : Text.EndsLine upperPart.toList :=
    .inr ⟨"0 <a>:\n4: 00000000 nop".toList, by decide⟩
  have upper : read .bigEndian upperPart = .ok upperBlocks := by decide +kernel
  have lower : read .bigEndian lowerPart = .ok (lowerBlocks 3) := by decide +kernel
  have length : (Text.lines upperPart.toList).length = 2 := by decide +kernel
  have joined := (read_append .bigEndian ends lowerPart).2 _ _ upper lower
  rw [length] at joined
  exact ⟨ends, upper, lower, joined⟩

end MipsGloss.Listing
