namespace MipsGloss.Text

/-! Text is read line by line. A newline ends a line, a last line needs none,
and nothing follows a final newline. -/

theorem length_tail_dropWhile_lt {test : Char → Bool} {characters rest : List Char}
    {head : Char} (remaining : characters.dropWhile test = head :: rest) :
    rest.length < characters.length := by
  have bound := (List.dropWhile_suffix test (l := characters)).length_le
  rw [remaining, List.length_cons] at bound
  omega

/-- The lines of a text, each without its newline. -/
def lines (characters : List Char) : List (List Char) :=
  match characters with
  | [] => []
  | first :: others =>
    let line := (first :: others).takeWhile (· != '\n')
    match _remaining : (first :: others).dropWhile (· != '\n') with
    | [] => [line]
    | _ :: rest => line :: lines rest
termination_by characters.length
decreasing_by exact length_tail_dropWhile_lt _remaining

/-- A line without the one carriage return that may stand at its end. -/
def dropReturn (line : List Char) : List Char :=
  if line.getLast? = some '\r' then line.dropLast else line

/-- The number of bytes that characters take in UTF-8. -/
def byteLength (characters : List Char) : Nat :=
  characters.foldr (fun character size => character.utf8Size + size) 0

end MipsGloss.Text
