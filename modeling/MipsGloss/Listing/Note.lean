import MipsGloss.Assembly.Operand

namespace MipsGloss.Listing

/-! Disassemblers add notes to operands: a comment at the end, which starts at
`#` or `;`, and the symbol that an address belongs to, in angle brackets. A
comment is cut off first; a symbol is removed with the gap in front of it. -/

def isCommentStart (character : Char) : Bool :=
  character == '#' || character == ';'

def cutComment (characters : List Char) : List Char :=
  characters.takeWhile fun character => !isCommentStart character

/-- What follows the symbol that the characters begin with. A symbol reaches
from an opening bracket to the first closing one. -/
def afterSymbol? : List Char → Option (List Char)
  | '<' :: rest =>
    match rest.dropWhile (· != '>') with
    | _ :: behind => some behind
    | [] => none
  | _ => none

theorem length_afterSymbol?_lt {characters behind : List Char}
    (found : afterSymbol? characters = some behind) :
    behind.length < characters.length := by
  unfold afterSymbol? at found
  split at found
  · rename_i rest
    split at found
    · rename_i head tail remaining
      have bound := (List.dropWhile_suffix (· != '>') (l := rest)).length_le
      rw [remaining, List.length_cons] at bound
      cases found
      simp only [List.length_cons]
      omega
    · cases found
  · cases found

def dropSymbols (characters : List Char) : List Char :=
  match _symbol : afterSymbol? (characters.dropWhile Text.isGap) with
  | some behind => dropSymbols behind
  | none =>
    match characters with
    | [] => []
    | character :: rest => character :: dropSymbols rest
termination_by characters.length
decreasing_by
  · have shorter := length_afterSymbol?_lt _symbol
    have bound := (List.dropWhile_suffix Text.isGap (l := characters)).length_le
    omega
  · simp

/-- The operand text without its notes. -/
def dropNotes (characters : List Char) : List Char :=
  Text.trimCharacters (dropSymbols (cutComment characters))

end MipsGloss.Listing
