import Mathlib.Data.List.Fold
import Mathlib.Data.List.MinMax
import Mathlib.Data.List.SplitBy
import MipsGloss.Text.Columns

namespace MipsGloss.Text

/-! Tables whose lines all have the same number of cells. Every column of such a table
is one block, so that each of its cells is filled to the width of the widest one and the
gap; what stands behind the last tab of a line is written as it is. -/

/-- The characters that end a cell or a line. -/
def cellEnds : List Char := ['\t', '\x0b', '\n', '\x0c']

def Unbroken (characters : List Char) : Prop :=
  ∀ character ∈ characters, character ∉ cellEnds

/-- A line of a table: the cells that a tab ends, and what stands behind them. -/
structure TableLine where
  cells : List (List Char)
  last : List Char

namespace TableLine

def row (line : TableLine) : Row := line.cells ++ [line.last]

def written (line : TableLine) : List Char :=
  line.cells.flatMap (· ++ ['\t']) ++ (line.last ++ ['\n'])

/-- The line with its cells filled to the given widths. -/
def filled (widths : List Nat) (line : TableLine) : List Char :=
  (List.zipWith (fun width cell => cell.rightpad width ' ') widths line.cells).flatten ++
    line.last

end TableLine

/-! ## Reading -/

/-- A line whose cells and last part hold none of the characters that end cells. -/
structure TableLine.Unbroken (line : TableLine) : Prop where
  cells : ∀ cell ∈ line.cells, Text.Unbroken cell
  last : Text.Unbroken line.last

/-- The length of the longest of some texts. -/
def longest (texts : List String) : Nat := (texts.map String.length).foldr max 0

/-- A text with spaces behind it, up to the given width. -/
def padded (width : Nat) (text : String) : String :=
  text ++ String.ofList (List.replicate (width - text.length) ' ')

section

variable {Item : Type} {items : List Item} {line : Item → TableLine}

end

end MipsGloss.Text
