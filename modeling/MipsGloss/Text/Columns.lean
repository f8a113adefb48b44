namespace MipsGloss.Text

/-! Tables are written as running text in which a tab ends a cell and a newline
ends a line, and are then aligned. The last cell of a line is ended by no tab:
it belongs to no column and is written as it is. A column block is a run of
consecutive lines that have a tab-ended cell in that column, and every such
cell is filled with spaces to the width of the widest one and two more. A
vertical tab is as good as a tab; a form feed ends a line and the alignment. -/

def columnGap : Nat := 2

abbrev Row := List (List Char)

/-- Splits text into cells and rows. `page` separates the groups of rows that
are aligned on their own. The arguments hold the current cell, the current row
and the current page, each in reverse. -/
def readPages (cell : List Char) (row : Row) (page : List Row) :
    List Char → List (List Row)
  | [] =>
    let lastRow := (cell.reverse :: row).reverse
    [(lastRow :: page).reverse]
  | character :: rest =>
    if character = '\t' ∨ character = '\x0b' then
      readPages [] (cell.reverse :: row) page rest
    else if character = '\n' then
      readPages [] [] ((cell.reverse :: row).reverse :: page) rest
    else if character = '\x0c' then
      ((cell.reverse :: row).reverse :: page).reverse :: readPages [] [] [] rest
    else
      readPages (character :: cell) row page rest

/-- The width of the tab-ended cell of a row in a column, if it has one. -/
def cellWidth (column : Nat) (row : Row) : Option Nat :=
  row.dropLast[column]?.map List.length

/-- Gives every member of a run of present widths the same width: the largest
and the gap. -/
def equalizeRun (run : List (Option Nat)) : List (Option Nat) :=
  let widest := run.foldl (fun widest width => max widest (width.getD 0)) 0
  run.map fun width => width.map fun _ => widest + columnGap

/-- The filled width of a column in each of the given rows. -/
def columnWidths (rows : List Row) (column : Nat) : List (Option Nat) :=
  ((rows.map (cellWidth column)).splitBy fun left right =>
    left.isSome == right.isSome).flatMap equalizeRun

def fillCell (width : Option Nat) (cell : List Char) : List Char :=
  match width with
  | some width => cell ++ List.replicate (width - cell.length) ' '
  | none => cell

/-- Writes the rows from left to right, one column for each list of widths. -/
def fillColumns : List (List (Option Nat)) → List Row → List (List Char)
  | [], rows => rows.map List.flatten
  | widths :: others, rows =>
    let heads := List.zipWith (fun width (row : Row) =>
      match row with
      | [] => []
      | cell :: _ => fillCell width cell) widths rows
    List.zipWith (· ++ ·) heads (fillColumns others (rows.map (List.drop 1)))

def alignRows (rows : List Row) : List (List Char) :=
  let columns := (rows.map List.length).foldl max 0
  fillColumns ((List.range columns).map (columnWidths rows)) rows

/-- Aligns the table that a text holds. -/
def alignCharacters (characters : List Char) : List Char :=
  let pages := (readPages [] [] [] characters).map alignRows
  ['\n'].intercalate pages.flatten

def align (text : String) : String :=
  String.ofList (alignCharacters text.toList)

end MipsGloss.Text
