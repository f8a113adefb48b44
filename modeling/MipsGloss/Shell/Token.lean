import MipsGloss.Shell.Script
import MipsGloss.Text.Lines
import MipsGloss.Text.Numeral

namespace MipsGloss.Shell

/-! A script is read token by token. A word goes on through quotes and
expansions, and a document begins on the line below the token that asks for
it. -/

inductive Token where
  | endOfFile
  | newline
  | operator (text : String)
  | redirection (descriptor : Option Nat) (operator : String)
  | word (word : Word)

/-- A document that is asked for, with the line that ends it. -/
structure Pending where
  delimiter : List Char
  trimmed : Bool
  expanded : Bool

structure Cursor where
  rest : List Char
  line : Nat
  pushed : Option Token
  pending : List Pending
  /-- All documents so far, by their numbers. -/
  documents : List Word

/-- A mistake in a script, with the line it was found in. -/
structure Fault where
  line : Nat
  message : String
  deriving DecidableEq

abbrev Reader := StateT Cursor (Except Fault)

namespace Reader

def fail {α : Type} (message : String) : Reader α := do
  throw ⟨(← get).line, message⟩

/-- Goes on behind some characters, given what is left then. -/
def passTo (rest : List Char) : Reader Unit :=
  modify fun cursor =>
    let passed := cursor.rest.take (cursor.rest.length - rest.length)
    { cursor with rest, line := cursor.line + passed.count '\n' }

def outOfFuel : String := "Syntax error: word unexpected"

def loopWithin {α β : Type} (step : α → Reader (α ⊕ β)) : Nat → α → Reader β
  | 0, _ => fail outOfFuel
  | fuel + 1, state => do
    match ← step state with
    | .inl next => loopWithin step fuel next
    | .inr result => return result

/-- Repeats a step, which has to pass some character each time, or nearly so. -/
def loop {α β : Type} (step : α → Reader (α ⊕ β)) (start : α) : Reader β := do
  loopWithin step (2 * (← get).rest.length + 4) start

end Reader

open Reader

/-- Where parts of a word stand: outside of quotes, in double quotes, in the
braces of a parameter, or in a document. -/
inductive Context where
  | word
  | double
  | brace (quoted : Bool)
  | document
  deriving DecidableEq

namespace Context

def isQuoted : Context → Bool
  | .word => false
  | .double => true
  | .brace quoted => quoted
  | .document => true

def isEnd (context : Context) (character : Char) : Bool :=
  match context with
  | .word => [' ', '\t', '\n', ';', '&', '|', '<', '>', '(', ')'].contains character
  | .double => character == '\x22'
  | .brace _ => character == '\x7d'
  | .document => false

/-- Whether a character stands for itself. -/
def isPlain (context : Context) (character : Char) : Bool :=
  !context.isEnd character && !(['\\', '$', '\x60'].contains character) &&
    (context == .document ||
      (character != '\x22' && (context.isQuoted || character != '\x27')))

/-- The characters that a backslash quotes. -/
def isQuotable (context : Context) (character : Char) : Bool :=
  match context with
  | .word => true
  | .brace false => true
  | .document => ['$', '\x60', '\\'].contains character
  | .double => ['$', '\x60', '\\', '\x22'].contains character
  | .brace true => ['$', '\x60', '\\', '\x22', '\x7d'].contains character

end Context

/-- Splits characters at the bracket that closes what was opened before them.
Quotes are passed over, and so are comments. -/
def splitBalanced (depth : Nat) (quote : Option Char) :
    List Char → Option (List Char × List Char)
  | [] => none
  | '\\' :: character :: rest =>
    if quote = some '\x27' then
      (splitBalanced depth (if character = '\x27' then none else quote) rest).map
        fun (taken, left) => ('\\' :: character :: taken, left)
    else
      (splitBalanced depth quote rest).map
        fun (taken, left) => ('\\' :: character :: taken, left)
  | character :: rest =>
    if quote = none ∧ character = ')' ∧ depth = 0 then some ([], rest)
    else
      let isQuote := character == '\x22' || character == '\x27'
      let next :=
        if quote = some character then none
        else if quote.isNone && isQuote then some character
        else quote
      let deeper :=
        if quote.isSome then depth
        else if character = '(' then depth + 1
        else if character = ')' then depth - 1
        else depth
      (splitBalanced deeper next rest).map fun (taken, left) => (character :: taken, left)

/-- Splits characters at the two brackets that close an arithmetic expression. -/
def splitArithmetic (depth : Nat) : List Char → Option (List Char × List Char)
  | [] => none
  | character :: rest =>
    if depth = 0 ∧ character = ')' then
      match rest with
      | ')' :: rest => some ([], rest)
      | _ => none
    else
      let deeper :=
        if character = '(' then depth + 1
        else if character = ')' then depth - 1
        else depth
      (splitArithmetic deeper rest).map fun (taken, left) => (character :: taken, left)

/-- Splits characters at a backquote. A backslash quotes a few characters. -/
def splitBackquoted (context : Context) : List Char → Option (List Char × List Char)
  | [] => none
  | '\x60' :: rest => some ([], rest)
  | '\\' :: character :: rest =>
    let isQuotable := ['$', '\x60', '\\'].contains character ||
      (context.isQuoted && character == '\x22')
    (splitBackquoted context rest).map fun (taken, left) =>
      ((if isQuotable then [character] else ['\\', character]) ++ taken, left)
  | character :: rest =>
    (splitBackquoted context rest).map fun (taken, left) => (character :: taken, left)

def specialParameters : List Char := ['@', '*', '#', '?', '-', '$', '!']

/-- Splits off the name of a parameter. In braces a number can have several
digits. -/
def splitParameter (inBraces : Bool) (characters : List Char) : List Char × List Char :=
  match characters with
  | [] => ([], [])
  | first :: rest =>
    if isNameStart first then characters.span isNameCharacter
    else if Text.isDecimalDigit first then
      if inBraces then characters.span Text.isDecimalDigit else ([first], rest)
    else if specialParameters.contains first then ([first], rest)
    else ([], characters)

/-- The operation that begins behind the name of a parameter. -/
def splitOperation : List Char → Operation × List Char
  | '\x7d' :: rest => (.plain, '\x7d' :: rest)
  | ':' :: '-' :: rest => (.default true, rest)
  | ':' :: '=' :: rest => (.assign true, rest)
  | ':' :: '?' :: rest => (.require true, rest)
  | ':' :: '+' :: rest => (.alternative true, rest)
  | '-' :: rest => (.default false, rest)
  | '=' :: rest => (.assign false, rest)
  | '?' :: rest => (.require false, rest)
  | '+' :: rest => (.alternative false, rest)
  | '#' :: '#' :: rest => (.cutStart true, rest)
  | '#' :: rest => (.cutStart false, rest)
  | '%' :: '%' :: rest => (.cutEnd true, rest)
  | '%' :: rest => (.cutEnd false, rest)
  | rest => (.invalid, rest)

/-- The name of a parameter and what is done with it, given what stands behind
the opening brace. -/
def splitBraced (characters : List Char) : List Char × Operation × List Char :=
  let measured := splitParameter true (characters.drop 1)
  if characters.head? = some '#' ∧ !measured.1.isEmpty ∧ measured.2.head? = some '\x7d' then
    (measured.1, .length, measured.2)
  else
    let (name, rest) := splitParameter true characters
    let (operation, rest) := if name.isEmpty then (.invalid, rest) else splitOperation rest
    (name, operation, rest)

/-- The context of the operand of an operation. Patterns are not quoted by quotes
around the parameter. -/
def Operation.operandContext (operation : Operation) (context : Context) : Context :=
  match operation with
  | .cutStart _ => .brace false
  | .cutEnd _ => .brace false
  | _ => .brace context.isQuoted

/-- Reads a parameter in braces, from behind the opening one. -/
def takeBraced (inner : Context → Reader (List Part)) (context : Context)
    (characters : List Char) : Reader (List Part) := do
  let (name, operation, rest) := splitBraced characters
  passTo rest
  let operand ← inner (operation.operandContext context)
  match (← get).rest with
  | _ :: rest =>
    passTo rest
    return [.parameter (String.ofList name) operation operand context.isQuoted]
  | [] => fail "Syntax error: Missing '\x7d'"

/-- Reads what a dollar sign begins, from behind it. -/
def takeExpansion (inner : Context → Reader (List Part)) (context : Context)
    (characters : List Char) : Reader (List Part) := do
  let quoted := context.isQuoted
  match characters with
  | '(' :: '(' :: rest =>
    match splitArithmetic 0 rest with
    | some (source, rest) =>
      let cursor ← get
      set { cursor with rest := source }
      let expression ← inner .document
      set cursor
      passTo rest
      return [.arithmetic expression quoted]
    | none =>
      passTo []
      fail "Syntax error: Missing '))'"
  | '(' :: rest =>
    match splitBalanced 0 none rest with
    | some (source, rest) =>
      let line := (← get).line
      passTo rest
      return [.command source line quoted]
    | none =>
      passTo []
      fail "Syntax error: end of file unexpected (expecting \")\")"
  | '\x7b' :: rest => takeBraced inner context rest
  | _ =>
    match splitParameter false characters with
    | ([], rest) =>
      passTo rest
      return [.text ['$'] quoted]
    | (name, rest) =>
      passTo rest
      return [.parameter (String.ofList name) .plain [] quoted]

/-- Reads one part of a word, which is not at its end. -/
def takePart (inner : Context → Reader (List Part)) (context : Context) :
    Reader (List Part) := do
  let quoted := context.isQuoted
  match (← get).rest with
  | [] => return []
  | '\\' :: '\n' :: rest =>
    passTo rest
    return []
  | '\\' :: character :: rest =>
    passTo rest
    return [.text (if context.isQuotable character then [character] else ['\\', character]) true]
  | '\x60' :: rest =>
    match splitBackquoted context rest with
    | some (source, rest) =>
      let line := (← get).line
      passTo rest
      return [.command source line quoted]
    | none =>
      passTo []
      fail "Syntax error: EOF in backquote substitution"
  | '$' :: rest => takeExpansion inner context rest
  | character :: rest =>
    if context.isPlain character then
      let (plain, rest) := (character :: rest).span context.isPlain
      passTo rest
      return [.text plain quoted]
    else if character = '\x27' then
      match rest.dropWhile (· != '\x27') with
      | _ :: behind =>
        passTo behind
        return [.text (rest.takeWhile (· != '\x27')) true]
      | [] =>
        passTo []
        fail "Syntax error: Unterminated quoted string"
    else if character = '\x22' then
      passTo rest
      let parts ← inner .double
      passTo ((← get).rest.drop 1)
      return if parts.isEmpty then [.text [] true] else parts
    else
      passTo rest
      return [.text [character] quoted]

/-- Reads the parts of a word up to its end. The fuel bounds their number. -/
def takeParts : Nat → Context → Reader (List Part)
  | 0, _ => fail outOfFuel
  | fuel + 1, context => do
    match (← get).rest, context with
    | [], .double => fail "Syntax error: Unterminated quoted string"
    | [], .brace _ => fail "Syntax error: Missing '\x7d'"
    | [], _ => return []
    | character :: _, context =>
      if context.isEnd character then return []
      else
        let first ← takePart (takeParts fuel) context
        let others ← takeParts fuel context
        return first ++ others

def takeWord (context : Context) : Reader Word := do
  takeParts (2 * (← get).rest.length + 2) context

/-! Documents are read at the end of the line that asks for them. -/

def trimTabs (line : List Char) : List Char := line.dropWhile (· == '\t')

/-- The lines of a document, and what stands behind it. -/
def splitDocument (pending : Pending) : List (List Char) → List (List Char) × Nat
  | [] => ([], 0)
  | line :: rest =>
    let line' := if pending.trimmed then trimTabs line else line
    if line' = pending.delimiter then ([], 1)
    else
      let (lines, passed) := splitDocument pending rest
      (line' :: lines, passed + 1)

/-- The characters behind so many lines. -/
def dropLines : Nat → List Char → List Char
  | 0, characters => characters
  | count + 1, characters => dropLines count ((characters.dropWhile (· != '\n')).drop 1)

def takeDocument (pending : Pending) : Reader Unit := do
  let cursor ← get
  let (lines, passed) := splitDocument pending (Text.lines cursor.rest)
  let rest := dropLines passed cursor.rest
  let body := lines.flatMap (· ++ ['\n'])
  let body :=
    if rest.isEmpty && !cursor.rest.isEmpty && cursor.rest.getLast? != some '\n' &&
      passed == lines.length then body.dropLast else body
  let word ←
    if pending.expanded then
      set { cursor with rest := body }
      let word ← takeWord .document
      set cursor
      pure word
    else pure [.text body true]
  passTo rest
  modify fun cursor => { cursor with documents := cursor.documents ++ [word] }

def takeDocuments : Reader Unit := do
  let pending := (← get).pending
  modify fun cursor => { cursor with pending := [] }
  pending.forM takeDocument

/-! Between tokens blanks, comments and escaped ends of lines are passed over. -/

def skipBlanks (inComment : Bool) : List Char → List Char
  | [] => []
  | '\\' :: '\n' :: rest => if inComment then '\n' :: rest else skipBlanks false rest
  | character :: rest =>
    if character = '\n' then character :: rest
    else if inComment then skipBlanks true rest
    else if character = ' ' ∨ character = '\t' then skipBlanks false rest
    else if character = '#' then skipBlanks true rest
    else character :: rest

def operators : List String := ["&&", "||", ";;", "&", "|", ";", "(", ")"]

def redirections : List String := ["<<-", "<<", "<&", "<>", "<", ">>", ">&", ">|", ">"]

/-- The first of some operators that characters begin with. -/
def startingOperator? (candidates : List String) (characters : List Char) :
    Option String :=
  candidates.find? fun operator => operator.toList.isPrefixOf characters

def readToken : Reader Token := do
  passTo (skipBlanks false (← get).rest)
  let characters := (← get).rest
  let (digits, behind) := characters.span Text.isDecimalDigit
  let operator? := startingOperator? operators characters
  match characters, operator?, startingOperator? redirections behind with
  | [], _, _ =>
    takeDocuments
    return .endOfFile
  | '\n' :: rest, _, _ =>
    passTo rest
    takeDocuments
    return .newline
  | _, some operator, _ =>
    passTo (characters.drop operator.length)
    return .operator operator
  | _, none, some operator =>
    passTo (behind.drop operator.length)
    let descriptor := if digits.isEmpty then none else some (Text.numeralValue 10 digits)
    return .redirection descriptor operator
  | _, none, none => return .word (← takeWord .word)

/-- The next token, which is left to be read again. -/
def peek : Reader Token := do
  match (← get).pushed with
  | some token => return token
  | none =>
    let token ← readToken
    modify fun cursor => { cursor with pushed := some token }
    return token

def next : Reader Token := do
  let token ← peek
  modify fun cursor => { cursor with pushed := none }
  return token

end MipsGloss.Shell
