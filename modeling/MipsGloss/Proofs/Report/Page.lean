import MipsGloss.Proofs.Encoding.Slice
import MipsGloss.Proofs.Text.Columns
import MipsGloss.Report.Page

namespace MipsGloss

/-! The tables of a page. A table of a word has a line for each slice, with its digits and
its value, and a table of a statement one for each slot; all lines of a table are set in
the same columns. -/

/-! ## Texts without ends of cells -/

namespace Text

-- The characters of the text are tried, and not all characters there are.
instance (characters : List Char) : Decidable (Unbroken characters) :=
  List.decidableBAll (· ∉ cellEnds) characters

theorem Unbroken.append {front back : List Char} (frontUnbroken : Unbroken front)
    (backUnbroken : Unbroken back) : Unbroken (front ++ back) :=
  List.forall_mem_append.mpr ⟨frontUnbroken, backUnbroken⟩

end Text

namespace PageStyle

/-! ## Words -/

end PageStyle

end MipsGloss
