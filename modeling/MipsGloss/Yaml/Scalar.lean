import MipsGloss.Yaml.Cursor

namespace MipsGloss.Yaml

/-! Scalars are written plain, in quotes, or as a block of lines below their
indicator. -/

/-- A scalar that is being read. Its characters are kept in reverse, and so are
the blanks and the line ends that stand behind them until it is clear what
becomes of them. -/
structure Draft where
  text : List Char
  blanks : List Char
  firstBreak : List Char
  laterBreaks : List Char
  /-- Whether a line has ended since the last character. -/
  broken : Bool

namespace Draft

def empty : Draft := ⟨[], [], [], [], false⟩

/-- Decides what becomes of blanks and line ends: blanks stay as they are, a
single newline is folded into a space, and of several the first is left out. -/
def join (draft : Draft) : Draft :=
  let between :=
    if !draft.broken then draft.blanks
    else if draft.firstBreak.head? = some '\n' then
      (if draft.laterBreaks.isEmpty then [' '] else draft.laterBreaks)
    else draft.laterBreaks ++ draft.firstBreak
  ⟨between ++ draft.text, [], [], [], false⟩

def push (draft : Draft) (character : Char) : Draft :=
  { draft with text := character :: draft.text }

def pushBlank (draft : Draft) (character : Char) : Draft :=
  if draft.broken then draft else { draft with blanks := character :: draft.blanks }

def pushBreak (draft : Draft) (ending : List Char) : Draft :=
  if draft.broken then { draft with laterBreaks := ending ++ draft.laterBreaks }
  else { draft with blanks := [], firstBreak := ending, broken := true }

end Draft

namespace Reading

/-- Reads blanks and ends of lines. A tab cannot stand where a line has to be
indented, which is ahead of the column `floor`. -/
def readGap (floor : Nat) : Nat → Draft → Reading Draft
  | 0, _ => failure
  | fuel + 1, draft => do
    let character ← look 0
    if isBlank character then
      ensure !(draft.broken && (← column) < floor && character == '\t')
      skipFor 1
      readGap floor fuel (draft.pushBlank character)
    else if isBreak character then
      need 2
      let ending ← takeLine
      need 1
      readGap floor fuel (draft.pushBreak ending)
    else return draft

/-! A plain scalar ends at a comment, at a colon with a blank behind it, at a
mark between documents, at a line that is not indented enough, and inside of
brackets at whatever has a meaning there. -/

def readPlainRun (inFlow : Bool) : Nat → Draft → Reading Draft
  | 0, _ => failure
  | fuel + 1, draft => do
    let character ← look 0
    if isBlankOrEnd character || endsPlain inFlow character (← look 1) then return draft
    else
      skipFor 2
      readPlainRun inFlow fuel (draft.join.push character)

def readPlainLines (inFlow : Bool) (floor : Nat) : Nat → Draft → Reading Draft
  | 0, _ => failure
  | fuel + 1, draft => do
    need 4
    let cursor ← get
    if cursor.atMarker '-' || cursor.atMarker '.' || cursor.look 0 == '#' then
      return draft
    else
      let draft ← readPlainRun inFlow (← remaining) draft
      let next ← look 0
      if isBlank next || isBreak next then
        let draft ← readGap floor (← remaining) draft
        if !inFlow && (← column) < floor then return draft
        else readPlainLines inFlow floor fuel draft
      else return draft

/-- Reads a plain scalar, and whether the reading stopped behind the end of a
line. -/
def readPlain (inFlow : Bool) (floor : Nat) : Reading (String × Bool) := do
  let draft ← readPlainLines inFlow floor (← remaining) .empty
  return (String.ofList draft.text.reverse, draft.broken)

/-! Between single quotes a quote is written twice. Between double quotes a
backslash starts an escape, or hides the end of a line. -/

def letterEscapes : List (Char × Char) :=
  [('0', '\x00'), ('a', '\x07'), ('b', '\x08'), ('t', '\t'), ('\t', '\t'),
   ('n', '\n'), ('v', '\x0b'), ('f', '\x0c'), ('r', '\r'), ('e', '\x1b'),
   (' ', ' '), ('\x22', '\x22'), ('\x27', '\x27'), ('\\', '\\'),
   ('N', '\u0085'), ('_', '\u00a0'), ('L', '\u2028'), ('P', '\u2029')]

/-- How many digits follow an escape that gives the code of a character. -/
def codeLength? (letter : Char) : Option Nat :=
  [('x', 2), ('u', 4), ('U', 8)].lookup letter

/-- Reads the character with the code that hexadecimal digits spell. -/
def readCode (length : Nat) : Reading Char := do
  need length
  let digits := (← get).ahead.take length
  let code := Text.numeralValue 16 digits
  ensure (digits.length == length && digits.all Text.isHexDigit)
  ensure (decide code.isValidChar)
  skipMany length
  return Char.ofNat code

/-- Reads the character that an escape stands for. -/
def readEscape : Reading Char := do
  let letter ← look 1
  skipMany 2
  match letterEscapes.lookup letter, codeLength? letter with
  | some character, _ => return character
  | none, some length => readCode length
  | none, none => failure

def readQuotedRun (quote : Char) : Nat → Draft → Reading Draft
  | 0, _ => failure
  | fuel + 1, draft => do
    let character ← look 0
    let next ← look 1
    if isBlankOrEnd character then return draft
    else if quote = '\x27' ∧ character = quote ∧ next = quote then
      skip
      skipFor 2
      readQuotedRun quote fuel (draft.push quote)
    else if character = quote then return draft
    else if quote = '\x22' ∧ character = '\\' then
      if isBreak next then
        need 3
        skip
        modify Cursor.stepLine
        return { draft with broken := true }
      else
        let escaped ← readEscape
        need 2
        readQuotedRun quote fuel (draft.push escaped)
    else
      skipFor 2
      readQuotedRun quote fuel (draft.push character)

def readQuotedLines (quote : Char) : Nat → Draft → Reading Draft
  | 0, _ => failure
  | fuel + 1, draft => do
    need 4
    let cursor ← get
    ensure !(cursor.atMarker '-' || cursor.atMarker '.' || cursor.look 0 == endMark)
    let draft ← readQuotedRun quote (← remaining) draft
    need 1
    if (← look 0) = quote then return draft
    else
      let draft ← readGap 0 (← remaining) draft
      readQuotedLines quote fuel draft.join

/-- Reads a scalar in quotes. -/
def readQuoted : Reading String := do
  let quote ← look 0
  skip
  let draft ← readQuotedLines quote (← remaining) .empty
  skip
  return String.ofList draft.text.reverse

/-! A block keeps its line ends, or folds them. Its header may say by how much
it is indented and what becomes of the line ends behind it; otherwise the
indentation is that of the longest of the lines up to the first that is not
empty. -/

/-- What becomes of the line ends behind a block. -/
inductive Chomping where
  | strip
  | clip
  | keep
  deriving DecidableEq, Repr

def readChomping? : Reading (Option Chomping) := do
  match ← look 0 with
  | '+' => do
    skipFor 1
    return some .keep
  | '-' => do
    skipFor 1
    return some .strip
  | _ => return none

def readIndentation? : Reading (Option Nat) := do
  let digit ← look 0
  if Text.isDecimalDigit digit then
    ensure (digit != '0')
    skipFor 1
    return some (Text.numeralValue 10 [digit])
  else return none

/-- Reads the header of a block. Both of its parts may be left out, and they may
stand in either order. -/
def readBlockHeader : Reading (Chomping × Option Nat) := do
  skipFor 1
  let early ← readChomping?
  let width ← readIndentation?
  let late ← if early.isNone && width.isSome then readChomping? else pure none
  skipAll isBlank
  if (← look 0) = '#' then skipToBreak
  ensure (isBreakOrEnd (← look 0))
  skipLineEnd
  return ((early.or late).getD .clip, width)

/-- Skips the indentation of lines, and gives the widest indentation and the ends
of the lines that hold nothing else, in reverse. The indentation of the block
is zero where it is not known yet. -/
def readEmptyLines (indent : Nat) (widest : Nat) (breaks : List Char) :
    Nat → Reading (Nat × List Char)
  | 0 => failure
  | fuel + 1 => do
    need 1
    skipIndent (← remaining)
    let width := (← get).column
    let character ← look 0
    ensure !((indent == 0 || width < indent) && character == '\t')
    if isBreak character then
      need 2
      let ending ← takeLine
      readEmptyLines indent (max widest width) (ending ++ breaks) fuel
    else return (max widest width, breaks)
where
  skipIndent : Nat → Reading Unit
    | 0 => return ()
    | fuel + 1 => do
      if (indent = 0 ∨ (← column) < indent) ∧ (← look 0) = ' ' then
        skipFor 1
        skipIndent fuel

/-- The lines of a block that are being read: their text, in reverse, the end of
the last line, the ends of the empty lines behind it, and whether that line
begins with a blank. -/
structure BlockDraft where
  text : List Char
  lineEnd : List Char
  emptyEnds : List Char
  startsBlank : Bool

/-- What stands between the last line and the next one. Two lines that do not
begin with a blank are joined where the block is folded. -/
def BlockDraft.join (folded nextBlank : Bool) (draft : BlockDraft) : List Char :=
  let between :=
    if folded && !draft.startsBlank && !nextBlank && draft.lineEnd.head? == some '\n' then
      (if draft.emptyEnds.isEmpty then [' '] else [])
    else draft.lineEnd
  draft.emptyEnds ++ between ++ draft.text

def readBlockLines (folded : Bool) (indent : Nat) :
    Nat → BlockDraft → Reading BlockDraft
  | 0, _ => failure
  | fuel + 1, draft => do
    let character ← look 0
    if (← column) = indent ∧ character ≠ endMark then
      let blank := isBlank character
      let before := draft.join folded blank
      let taken ← takeAll fun character => !isBreakOrEnd character
      need 2
      let ending ← if isBreak (← look 0) then takeLine else pure []
      let (_, breaks) ← readEmptyLines indent 0 [] (← remaining)
      readBlockLines folded indent fuel ⟨taken.reverse ++ before, ending, breaks, blank⟩
    else return draft

/-- Reads a scalar that is written as a block. The lines of the block lie inside
of the given margin. -/
def readBlock (margin : Nat) : Reading String := do
  let folded := (← look 0) = '>'
  let (chomping, width) ← readBlockHeader
  let given := width.map fun width => margin - 1 + width
  let (widest, breaks) ← readEmptyLines (given.getD 0) 0 [] (← remaining)
  let indent := given.getD (max (max widest margin) 1)
  need 1
  let draft ← readBlockLines folded indent (← remaining) ⟨[], [], breaks, false⟩
  let text :=
    match chomping with
    | .strip => draft.text
    | .clip => draft.lineEnd ++ draft.text
    | .keep => draft.emptyEnds ++ draft.lineEnd ++ draft.text
  return String.ofList text.reverse

end Reading

end MipsGloss.Yaml
