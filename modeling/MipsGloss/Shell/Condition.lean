import MipsGloss.Shell.Arithmetic
import MipsGloss.Shell.Session

namespace MipsGloss.Shell

/-! Conditions about texts, numbers and files. -/

namespace Condition

inductive Kind where
  | unary
  | binary
  | joint
  | bracket
  deriving DecidableEq

def fileOperators : List String :=
  ["-r", "-w", "-x", "-e", "-f", "-d", "-c", "-b", "-p", "-u", "-g", "-k", "-s", "-t", "-h",
   "-O", "-G", "-L", "-S"]

def numberOperators : List String := ["-eq", "-ne", "-ge", "-gt", "-le", "-lt"]

def kind? (word : String) : Option Kind :=
  if fileOperators.contains word || word == "-z" || word == "-n" then some .unary
  else if ["=", "!=", "<", ">", "-nt", "-ot", "-ef"].contains word ||
      numberOperators.contains word then some .binary
  else if ["!", "-a", "-o"].contains word then some .joint
  else if word = "(" ∨ word = ")" then some .bracket
  else none

/-- What a word is where it stands. An operator in front of an operator with two
sides is an operand, and so is one that nothing follows. -/
def role (words : List String) : Option Kind :=
  match words with
  | [] => none
  | word :: rest =>
    match kind? word, rest with
    | some .unary, [] => none
    | some .unary, [_] => some .unary
    | some .unary, next :: _ :: _ => if kind? next = some .binary then none else some .unary
    | some .bracket, [] => if word = "(" then none else some .bracket
    | kind, _ => kind

abbrev Evaluator := StateT (List String) (Except String)

def number (word : String) : Evaluator Int :=
  match Arithmetic.integer? word with
  | some value => return value
  | none => throw ("Illegal number: " ++ word)

def isScript (content : String) : Bool := ['#', '!'].isPrefixOf content.toList

def file (disk : Disk) (operator path : String) : Bool :=
  let entry := disk.look (toDiskText path)
  match operator, entry with
  | _, .missing => false
  | "-e", _ => true
  | "-r", _ => true
  | "-w", _ => true
  | "-O", _ => true
  | "-G", _ => true
  | "-d", .directory => true
  | "-f", .file _ => true
  | "-f", .program _ => true
  | "-c", .device _ => true
  | "-s", .file content => content != ""
  | "-s", .program _ => true
  | "-s", .directory => true
  | "-x", .directory => true
  | "-x", .program _ => true
  | "-x", .file content => isScript content
  | _, _ => false

def compare (disk : Disk) (left operator right : String) : Evaluator Bool := do
  match operator with
  | "=" => return left == right
  | "!=" => return left != right
  | "<" => return left < right
  | ">" => return right < left
  | "-nt" => return false
  | "-ot" => return false
  | "-ef" =>
    match disk.locate (toDiskText left), disk.locate (toDiskText right) with
    | .ok first, .ok second => return first == second && disk.entry first != .missing
    | _, _ => return false
  | operator =>
    let first ← number left
    let second ← number right
    match operator with
    | "-eq" => return first == second
    | "-ne" => return first != second
    | "-ge" => return first ≥ second
    | "-gt" => return first > second
    | "-le" => return first ≤ second
    | _ => return first < second

/-- Evaluates an operand or an operator. The words left begin with the last one it
took. -/
def primary (disk : Disk) (inner : Evaluator Bool) : Evaluator Bool := do
  match ← get with
  | [] => return false
  | word :: rest =>
    if word = "(" ∧ !rest.isEmpty then
      if rest.head? = some ")" then
        set rest
        return false
      else
        set rest
        let result ← inner
        let left := (← get).drop 1
        set left
        if left.head? = some ")" then return result else throw "closing paren expected"
    else if role (word :: rest) = some .unary then
      set rest
      match rest with
      | [] => throw (word ++ ": argument expected")
      | operand :: _ =>
        match word with
        | "-z" => return operand == ""
        | "-n" => return operand != ""
        | "-t" =>
          let _ ← number operand
          return false
        | operator => return file disk operator operand
    else
      match rest with
      | operator :: operands =>
        if role rest = some .binary then
          match operands with
          | right :: _ =>
            set operands
            compare disk word operator right
          | [] => throw (operator ++ ": argument expected")
        else return word != ""
      | [] => return word != ""

def negation (disk : Disk) (inner : Evaluator Bool) : Nat → Evaluator Bool
  | 0 => return false
  | fuel + 1 => do
    match ← get with
    | "!" :: rest =>
      if !rest.isEmpty then set rest
      return !(← if rest.isEmpty then pure false else negation disk inner fuel)
    | _ => primary disk inner

/-- Goes on with operands as long as one operator stands between them. -/
def chain (operator : String) (combine : Bool → Bool → Bool) (operand : Evaluator Bool) :
    Nat → Bool → Evaluator Bool
  | 0, value => return value
  | fuel + 1, value => do
    match (← get).drop 1 with
    | next :: rest =>
      if next = operator then
        set rest
        let right ← operand
        chain operator combine operand fuel (combine value right)
      else return value
    | [] => return value

def disjunction (disk : Disk) : Nat → Evaluator Bool
  | 0 => return false
  | fuel + 1 => do
    let operand := negation disk (disjunction disk fuel) (fuel + 1)
    let conjunction : Evaluator Bool := do
      chain "-a" (· && ·) operand (fuel + 1) (← operand)
    chain "-o" (· || ·) conjunction (fuel + 1) (← conjunction)

/-- Evaluates with the first word taken for an operand, which it is if an operator
with two sides follows. -/
def evaluateWords (disk : Disk) (words : List String) : Except String Bool := do
  let start : Evaluator Bool :=
    match words with
    | [left, operator, right] =>
      if kind? operator = some .binary then do
        set [right]
        compare disk left operator right
      else disjunction disk (words.length + 2)
    | _ => disjunction disk (words.length + 2)
  let (result, left) ← start.run words
  match left with
  | last :: _ :: _ => throw (last ++ ": unexpected operator")
  | _ => return result

/-- Evaluates a condition. Short ones have rules of their own. The fuel bounds the
number of negations. -/
def evaluate (disk : Disk) : Nat → List String → Except String Bool
  | 0, _ => .ok false
  | _, [] => .ok false
  | fuel + 1, words =>
    let isShort := words.length == 3 || words.length == 4
    let isComparison := words.length == 3 && (words[1]?.bind kind?) == some .binary
    if isComparison then evaluateWords disk words
    else if isShort && words.head? == some "(" && words.getLast? == some ")" then
      evaluateWords disk (words.drop 1).dropLast
    else if isShort && words.head? == some "!" then
      (evaluate disk fuel (words.drop 1)).map (!·)
    else evaluateWords disk words

end Condition

end MipsGloss.Shell
