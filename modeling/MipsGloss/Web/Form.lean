import MipsGloss.Text.Bytes

namespace MipsGloss.Web

/-! A form is a text of pairs, joined by ampersands. A pair has a name and a
value with an equals sign between them; in both a plus sign is a space, and a
percent sign stands ahead of the code of a byte. Pairs that cannot be read, or
that hold a semicolon, make the form malformed, and the others still count. -/

structure Form where
  /-- Names and values, as bytes. -/
  pairs : List (List Nat × List Nat)
  isWellFormed : Bool
  deriving DecidableEq, Repr

namespace Form

/-- The bytes that escaped characters stand for. -/
def unescape? : List Char → Option (List Nat)
  | [] => some []
  | '+' :: rest => (unescape? rest).map (' '.toNat :: ·)
  | '%' :: first :: second :: rest =>
    if Text.isHexDigit first && Text.isHexDigit second then
      (unescape? rest).map (Text.numeralValue 16 [first, second] :: ·)
    else none
  | character :: rest =>
    if character = '%' then none
    else (unescape? rest).map (Text.bytes (String.singleton character) ++ ·)

/-- The parts of a text between ampersands. -/
def pieces : List Char → List (List Char)
  | [] => [[]]
  | '&' :: rest => [] :: pieces rest
  | character :: rest =>
    match pieces rest with
    | [] => [[character]]
    | piece :: others => (character :: piece) :: others

def pair? (piece : List Char) : Option (List Nat × List Nat) :=
  if piece.contains ';' then none
  else do
    let name ← unescape? (piece.takeWhile (· != '='))
    let value ← unescape? ((piece.dropWhile (· != '=')).drop 1)
    return (name, value)

/-- The most pairs that a form can have. -/
def pairLimit : Nat := 10000

def ofText (text : String) : Form :=
  let pieces := pieces text.toList
  if pairLimit < pieces.length then ⟨[], false⟩
  else
    let pairs := (pieces.filter (!·.isEmpty)).map pair?
    ⟨pairs.filterMap id, pairs.all Option.isSome⟩

/-- Whether a form has a pair of the given name. -/
def has (form : Form) (name : String) : Bool :=
  form.pairs.any fun pair => pair.1 == Text.bytes name

end Form

end MipsGloss.Web
