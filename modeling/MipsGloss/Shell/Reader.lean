import MipsGloss.Shell.Token

namespace MipsGloss.Shell

/-! Commands are read from tokens. A word counts as a keyword only where a
command can begin, and only if no part of it is quoted. -/

open Reader

def keywords : List String :=
  ["!", "\x7b", "\x7d", "case", "do", "done", "elif", "else", "esac", "fi", "for", "if",
   "in", "then", "until", "while"]

/-- The keywords and operators that end a list of commands. -/
def terminators : List String :=
  ["\x7d", "do", "done", "elif", "else", "esac", "fi", "then", ")", ";;"]

def keyword? (token : Token) : Option String :=
  match token with
  | .word word => (bareText? word).filter keywords.contains
  | .operator operator => some operator
  | _ => none

def Token.name (token : Token) : String :=
  match token, keyword? token with
  | _, some keyword => "\"" ++ keyword ++ "\""
  | .endOfFile, none => "end of file"
  | .newline, none => "newline"
  | .redirection _ _, none => "redirection"
  | _, none => "word"

def unexpected {α : Type} (token : Token) (expected : Option String) : Reader α :=
  let hint := match expected with
    | some "word" => " (expecting word)"
    | some keyword => " (expecting \"" ++ keyword ++ "\")"
    | none => ""
  fail ("Syntax error: " ++ token.name ++ " unexpected" ++ hint)

def isNewline : Token → Bool
  | .newline => true
  | _ => false

def isEndOfFile : Token → Bool
  | .endOfFile => true
  | _ => false

/-- Passes over the ends of lines. -/
def skipNewlines : Reader Unit :=
  loop (fun _ => do
    if isNewline (← peek) then
      let _ ← next
      return .inl ()
    else return .inr ()) ()

/-- Reads a keyword or operator that has to come next. -/
def expect (keyword : String) : Reader Unit := do
  let token ← next
  if keyword? token = some keyword then return ()
  else unexpected token (some keyword)

/-! Redirections have a word behind their operator. -/

def defaultDescriptor (operator : String) : Nat :=
  if operator.toList.head? = some '<' then 0 else 1

/-- The text of a word without its quotes, and whether it has any. -/
def delimiter (word : Word) : List Char × Bool :=
  (word.flatMap fun
    | .text characters _ => characters
    | .parameter name _ _ _ => '$' :: name.toList
    | _ => [],
   word.any fun
    | .text _ quoted => quoted
    | _ => false)

def readRedirection (descriptor : Option Nat) (operator : String) : Reader Redirection := do
  let token ← next
  match token with
  | .word word =>
    let descriptor := descriptor.getD (defaultDescriptor operator)
    match operator with
    | "<" => return ⟨descriptor, .read word⟩
    | ">>" => return ⟨descriptor, .append word⟩
    | "<>" => return ⟨descriptor, .both word⟩
    | "<&" => return ⟨descriptor, .copy word⟩
    | ">&" => return ⟨descriptor, .copy word⟩
    | "<<" => document descriptor word false
    | "<<-" => document descriptor word true
    | _ => return ⟨descriptor, .write word⟩
  | token => unexpected token none
where
  document (descriptor : Nat) (word : Word) (trimmed : Bool) : Reader Redirection := do
    let (delimiter, quoted) := delimiter word
    let cursor ← get
    set { cursor with pending := cursor.pending ++ [Pending.mk delimiter trimmed !quoted] }
    return ⟨descriptor, .document (cursor.documents.length + cursor.pending.length)⟩

def readRedirections : Reader (List Redirection) :=
  loop (fun found => do
    match ← peek with
    | .redirection descriptor operator =>
      let _ ← next
      return .inl (found ++ [← readRedirection descriptor operator])
    | _ => return .inr found) []

/-! A simple command is made of assignments, words and redirections. -/

/-- The assignment that a word is. -/
def assignment? : Word → Option (String × Word)
  | .text characters false :: rest =>
    let (name, behind) := characters.span isNameCharacter
    match behind with
    | '=' :: value =>
      if isName (String.ofList name) then
        some (String.ofList name, if value.isEmpty then rest else .text value false :: rest)
      else none
    | _ => none
  | _ => none

structure Draft where
  assignments : List (String × Word)
  words : List Word
  redirections : List Redirection

def specialCommands : List String :=
  [":", ".", "break", "continue", "eval", "exec", "exit", "export", "local", "readonly", "return",
   "set", "shift", "times", "trap", "unset"]

/-- Reads a function, from behind its opening bracket. -/
def readFunction (command : Reader Command) (name : Word) : Reader Command := do
  expect ")"
  match bareText? name with
  | some name =>
    if isName name && !specialCommands.contains name then
      skipNewlines
      return .define name (← command)
    else fail "Syntax error: Bad function name"
  | none => fail "Syntax error: Bad function name"

def readSimple (command : Reader Command) : Reader Command := do
  let line := (← get).line
  loop (fun (draft : Draft) => do
    match ← peek with
    | .word word =>
      let _ ← next
      match draft.words, assignment? word with
      | [], some assignment =>
        return .inl { draft with assignments := draft.assignments ++ [assignment] }
      | _, _ => return .inl { draft with words := draft.words ++ [word] }
    | .redirection descriptor operator =>
      let _ ← next
      let redirection ← readRedirection descriptor operator
      return .inl { draft with redirections := draft.redirections ++ [redirection] }
    | .operator "(" =>
      match draft with
      | ⟨[], [name], []⟩ =>
        let _ ← next
        return .inr (← readFunction command name)
      | _ => return .inr (.simple line draft.assignments draft.words draft.redirections)
    | _ => return .inr (.simple line draft.assignments draft.words draft.redirections))
    ⟨[], [], []⟩

/-! Compound commands hold lists of commands, which cannot be empty. -/

structure Grammar where
  command : Reader Command
  list : Reader Command
  /-- A list that can be empty. -/
  arm : Reader Command

/-- Reads the rest of a choice, from behind its first keyword. -/
def readChoice (grammar : Grammar) : Reader Command := do
  let branch : Reader (Command × Command) := do
    let condition ← grammar.list
    expect "then"
    return (condition, ← grammar.list)
  let first ← branch
  let (branches, last) ← loop (fun (branches : List (Command × Command)) => do
    match keyword? (← peek) with
    | some "elif" =>
      let _ ← next
      return .inl ((← branch) :: branches)
    | some "else" =>
      let _ ← next
      return .inr (branches, some (← grammar.list))
    | _ => return .inr (branches, none)) [first]
  expect "fi"
  let chain := branches.foldl (fun last (condition, positive) =>
    some (Command.choice condition positive last)) last
  return chain.getD (.sequence [])

def readBody (grammar : Grammar) : Reader Command := do
  expect "do"
  let body ← grammar.list
  expect "done"
  return body

def readLoop (grammar : Grammar) (whileFailing : Bool) : Reader Command := do
  let condition ← grammar.list
  return .loop whileFailing condition (← readBody grammar)

def readWords : Reader (List Word) :=
  loop (fun words => do
    match ← peek with
    | .word word =>
      let _ ← next
      return .inl (words ++ [word])
    | _ => return .inr words) []

def readEach (grammar : Grammar) : Reader Command := do
  let line := (← get).line
  let token ← next
  match token with
  | .word word =>
    match (bareText? word).filter isName with
    | none => fail "Syntax error: Bad for loop variable"
    | some name =>
      skipNewlines
      match keyword? (← peek) with
      | some "in" =>
        let _ ← next
        let values ← readWords
        let ending ← next
        if isNewline ending || keyword? ending == some ";" then
          skipNewlines
          return .each line name (some values) (← readBody grammar)
        else unexpected ending none
      | some ";" =>
        let _ ← next
        skipNewlines
        return .each line name none (← readBody grammar)
      | _ => return .each line name none (← readBody grammar)
  | _ => fail "Syntax error: Bad for loop variable"

/-- Reads the patterns ahead of a closing bracket. What is no word is passed over
as an empty pattern. -/
def readPatterns : Reader (List Word) :=
  loop (fun patterns => do
    let word := match ← next with
      | .word word => word
      | _ => []
    if keyword? (← peek) = some "|" then
      let _ ← next
      return .inl (patterns ++ [word])
    else return .inr (patterns ++ [word])) []

def readSelect (grammar : Grammar) : Reader Command := do
  let line := (← get).line
  let token ← next
  match token with
  | .word word =>
    skipNewlines
    expect "in"
    let arms ← loop (fun (arms : List (List Word × Command)) => do
      skipNewlines
      match keyword? (← peek) with
      | some "esac" => return .inr arms
      | start =>
        if start = some "(" then
          let _ ← next
        let patterns ← readPatterns
        expect ")"
        let body ← grammar.arm
        let arms := arms ++ [(patterns, body)]
        match keyword? (← peek) with
        | some "esac" => return .inr arms
        | _ =>
          expect ";;"
          return .inl arms) []
    expect "esac"
    return .select line word arms
  | token => unexpected token (some "word")

/-- Reads a compound command by its first keyword. -/
def compound? (grammar : Grammar) (keyword : String) : Option (Reader Command) :=
  match keyword with
  | "if" => some (readChoice grammar)
  | "while" => some (readLoop grammar false)
  | "until" => some (readLoop grammar true)
  | "for" => some (readEach grammar)
  | "case" => some (readSelect grammar)
  | "\x7b" => some do
    let body ← grammar.list
    expect "\x7d"
    return body
  | "(" => some do
    let body ← grammar.list
    expect ")"
    return .subshell body
  | _ => none

def readCommand (grammar : Grammar) : Reader Command := do
  let token ← peek
  match token, keyword? token with
  | token, some keyword =>
    match compound? grammar keyword with
    | some reader =>
      let line := (← get).line
      let _ ← next
      let command ← reader
      match ← readRedirections with
      | [] => return command
      | redirections => return .redirected line command redirections
    | none =>
      let _ ← next
      unexpected token none
  | .word _, none => readSimple grammar.command
  | .redirection _ _, none => readSimple grammar.command
  | token, none =>
    let _ ← next
    unexpected token none

def readPipeline (grammar : Grammar) : Reader Command := do
  let negated := keyword? (← peek) == some "!"
  if negated then
    let _ ← next
  let first ← readCommand grammar
  let commands ← loop (fun commands => do
    if keyword? (← peek) = some "|" then
      let _ ← next
      skipNewlines
      return .inl (commands ++ [← readCommand grammar])
    else return .inr commands) [first]
  let command := if commands.length = 1 then first else .pipeline commands
  return if negated then .negation command else command

def readAndOr (grammar : Grammar) : Reader Command := do
  let first ← readPipeline grammar
  loop (fun command => do
    match keyword? (← peek) with
    | some "&&" =>
      let _ ← next
      skipNewlines
      return .inl (.both command (← readPipeline grammar))
    | some "||" =>
      let _ ← next
      skipNewlines
      return .inl (.either command (← readPipeline grammar))
    | _ => return .inr command) first

def isTerminator (token : Token) : Bool :=
  match keyword? token with
  | some keyword => terminators.contains keyword
  | none => isEndOfFile token

/-- Reads commands up to a terminator. Only where it may be empty can a list begin
with one, other than the end of the file. -/
def readList (grammar : Grammar) (mayBeEmpty : Bool) : Reader Command :=
  loop (fun (commands : List Command) => do
    skipNewlines
    let token ← peek
    if isEndOfFile token || ((mayBeEmpty || !commands.isEmpty) && isTerminator token) then
      return .inr (.sequence commands)
    else
      let command ← readAndOr grammar
      match ← peek with
      | .operator "&" =>
        let _ ← next
        return .inl (commands ++ [.background command])
      | .operator ";" =>
        let _ ← next
        return .inl (commands ++ [command])
      | .newline => return .inl (commands ++ [command])
      | _ => return .inr (.sequence (commands ++ [command]))) []

/-- How to read commands inside of each other. The fuel bounds their depth. -/
def grammar : Nat → Grammar
  | 0 => ⟨fail outOfFuel, fail outOfFuel, fail outOfFuel⟩
  | fuel + 1 =>
    let inner := grammar fuel
    ⟨readCommand inner, readList inner false, readList inner true⟩

/-- The deepest that commands can stand inside of each other. -/
def depthLimit : Nat := 1000

/-- Reads the commands of one line and what belongs to them on the lines below.
Gives nothing at the end. -/
def readLine : Reader (Option Command) := do
  let grammar := grammar (min depthLimit ((← get).rest.length + 2))
  if isEndOfFile (← peek) then return none
  let command ← loop (fun (commands : List Command) => do
    match ← peek with
    | .newline =>
      let _ ← next
      return .inr (.sequence commands)
    | .endOfFile => return .inr (.sequence commands)
    | _ =>
      let command ← readAndOr grammar
      let token ← peek
      match token with
      | .operator "&" =>
        let _ ← next
        return .inl (commands ++ [.background command])
      | .operator ";" =>
        let _ ← next
        return .inl (commands ++ [command])
      | .newline => return .inl (commands ++ [command])
      | .endOfFile => return .inl (commands ++ [command])
      | token =>
        let _ ← next
        unexpected token none) []
  return some command

end MipsGloss.Shell
