import MipsGloss.Shell.Script
import MipsGloss.Text.Numeral

namespace MipsGloss.Shell

/-! Arithmetic on integers of sixty-four bits. Values are kept in variables as
texts; one without a value counts as zero. -/

namespace Arithmetic

/-- The integer of sixty-four bits that is congruent to a given one. -/
def wrap (value : Int) : Int := Int.bmod value (Nat.pow 2 64)

def largest : Int := Nat.pow 2 63 - 1

/-- Reads a numeral in the base that its first digits tell. Gives what is left
behind it. -/
def takeNumeral (characters : List Char) : Nat × List Char :=
  match characters with
  | '0' :: mark :: digit :: rest =>
    if (mark = 'x' ∨ mark = 'X') ∧ Text.isHexDigit digit then
      let (digits, rest) := (digit :: rest).span Text.isHexDigit
      (Text.numeralValue 16 digits, rest)
    else octal characters
  | '0' :: _ => octal characters
  | _ =>
    let (digits, rest) := characters.span Text.isDecimalDigit
    (Text.numeralValue 10 digits, rest)
where
  octal (characters : List Char) : Nat × List Char :=
    let (digits, rest) := characters.span fun digit => '0' ≤ digit && digit ≤ '7'
    (Text.numeralValue 8 digits, rest)

def isSpace (character : Char) : Bool :=
  [' ', '\t', '\n', '\x0b', '\x0c', '\r'].contains character

/-- The integer that a whole text spells, as far as sixty-four bits go. -/
def integer? (text : String) : Option Int :=
  let characters := text.toList.dropWhile isSpace
  let (negative, digits) :=
    match characters with
    | '-' :: rest => (true, rest)
    | '+' :: rest => (false, rest)
    | rest => (false, rest)
  let (value, rest) := takeNumeral digits
  if (digits.head?.map Text.isDecimalDigit).getD false && rest.all isSpace then
    some (if negative then max (-(value : Int)) (-largest - 1) else min value largest)
  else none

inductive Token where
  | number (value : Int)
  | named (name : String)
  | operator (text : String)
  deriving DecidableEq

def operators : List String :=
  ["<<=", ">>=", "<<", ">>", "<=", ">=", "==", "!=", "&&", "||", "+=", "-=", "*=", "/=", "%=",
   "&=", "^=", "|=", "+", "-", "*", "/", "%", "<", ">", "&", "^", "|", "!", "~", "?", ":", "=",
   "(", ")"]

/-- The tokens up to a character that is none of them, which stands for an operator
that nothing expects. -/
def tokens : Nat → List Char → List Token
  | 0, _ => []
  | _, [] => []
  | fuel + 1, character :: rest =>
    if isSpace character then tokens fuel rest
    else if Text.isDecimalDigit character then
      let (value, left) := takeNumeral (character :: rest)
      .number (min value largest) :: tokens fuel left
    else if isNameStart character then
      let (name, left) := (character :: rest).span isNameCharacter
      .named (String.ofList name) :: tokens fuel left
    else
      match operators.find? fun operator => operator.toList.isPrefixOf (character :: rest) with
      | some operator =>
        .operator operator :: tokens fuel ((character :: rest).drop operator.length)
      | none => [.operator (String.singleton character)]

/-- What is wrong with an expression. -/
inductive Complaint where
  | illegalNumber (text : String)
  | malformed (complaint : String)
  deriving DecidableEq

def Complaint.message (complaint : Complaint) (source : String) : String :=
  match complaint with
  | .illegalNumber text => "Illegal number: " ++ text
  | .malformed complaint =>
    "arithmetic expression: " ++ complaint ++ ": \"" ++ source ++ "\""

structure Machine where
  tokens : List Token
  values : List (String × String)

abbrev Evaluator := StateT Machine (Except Complaint)

def decimal (value : Int) : String :=
  if value < 0 then "-" ++ Text.decimal value.natAbs else Text.decimal value.natAbs

/-- The value of a variable, which has to spell an integer. -/
def value (name : String) : Evaluator Int := do
  match (← get).values.lookup name with
  | none => return 0
  | some "" => return 0
  | some text =>
    match integer? text with
    | some value => return value
    | none => throw (.illegalNumber text)

def assign (name : String) (value : Int) : Evaluator Unit :=
  modify fun machine => { machine with values := (name, decimal value) :: machine.values }

def complain {α : Type} (complaint : String) : Evaluator α := throw (.malformed complaint)

def next? : Evaluator (Option Token) := do
  match (← get).tokens with
  | [] => return none
  | token :: rest =>
    modify fun machine => { machine with tokens := rest }
    return some token

/-- Takes an operator if it comes next. -/
def takes (operator : String) : Evaluator Bool := do
  match (← get).tokens with
  | .operator other :: rest =>
    if other = operator then
      modify fun machine => { machine with tokens := rest }
      return true
    else return false
  | _ => return false

def truth (value : Bool) : Int := if value then 1 else 0

/-- Shifts by as many bits as the last six of an amount say. -/
def shiftAmount (amount : Int) : Nat := (amount % 64).toNat

/-- Combines the bits of two integers. -/
def bitwise (combine : BitVec 64 → BitVec 64 → BitVec 64) (left right : Int) : Int :=
  (combine (BitVec.ofInt 64 left) (BitVec.ofInt 64 right)).toInt

def combine (live : Bool) (operator : String) (left right : Int) : Evaluator Int := do
  match operator with
  | "+" => return wrap (left + right)
  | "-" => return wrap (left - right)
  | "*" => return wrap (left * right)
  | "/" =>
    if right = 0 then
      if live then complain "division by zero" else return 0
    else return wrap (left.tdiv right)
  | "%" =>
    if right = 0 then
      if live then complain "division by zero" else return 0
    else return left.tmod right
  | "<<" => return wrap (left * Nat.pow 2 (shiftAmount right))
  | ">>" => return left.fdiv (Nat.pow 2 (shiftAmount right))
  | "<" => return truth (left < right)
  | "<=" => return truth (left ≤ right)
  | ">" => return truth (left > right)
  | ">=" => return truth (left ≥ right)
  | "==" => return truth (left == right)
  | "!=" => return truth (left != right)
  | "&" => return bitwise (· &&& ·) left right
  | "^" => return bitwise (· ^^^ ·) left right
  | _ => return bitwise (· ||| ·) left right

/-- The operators with two sides, those that bind least first. -/
def levels : List (List String) :=
  [["|"], ["^"], ["&"], ["==", "!="], ["<", "<=", ">", ">="], ["<<", ">>"], ["+", "-"],
   ["*", "/", "%"]]

def assignmentOperators : List (String × String) :=
  [("+=", "+"), ("-=", "-"), ("*=", "*"), ("/=", "/"), ("%=", "%"), ("<<=", "<<"),
   (">>=", ">>"), ("&=", "&"), ("^=", "^"), ("|=", "|")]

/-- Reads a value with the signs in front of it. An expression is not evaluated
unless it is live. -/
def primary (inner : Bool → Evaluator Int) (live : Bool) : Nat → Evaluator Int
  | 0 => complain "expecting primary"
  | fuel + 1 => do
    match ← next? with
    | some (.number number) => return number
    | some (.named name) => if live then value name else return 0
    | some (.operator "(") =>
      let result ← inner live
      if ← takes ")" then return result else complain "expecting ')'"
    | some (.operator "-") => return wrap (-(← primary inner live fuel))
    | some (.operator "+") => primary inner live fuel
    | some (.operator "!") => return truth ((← primary inner live fuel) == 0)
    | some (.operator "~") => return -(← primary inner live fuel) - 1
    | _ => complain "expecting primary"

/-- Goes on with operators of one level as long as there are some. -/
def chain (live : Bool) (operators : List String) (operand : Evaluator Int) :
    Nat → Int → Evaluator Int
  | 0, left => return left
  | fuel + 1, left => do
    match (← get).tokens with
    | .operator operator :: rest =>
      if operators.contains operator then
        modify fun machine => { machine with tokens := rest }
        let right ← operand
        chain live operators operand fuel (← combine live operator left right)
      else return left
    | _ => return left

def binary (live : Bool) (fuel : Nat) (operand : Evaluator Int) :
    List (List String) → Evaluator Int
  | [] => operand
  | operators :: rest => do
    let operand := binary live fuel operand rest
    chain live operators operand fuel (← operand)

def conjunction (operand : Bool → Evaluator Int) (live : Bool) : Nat → Evaluator Int
  | 0 => complain "expecting primary"
  | fuel + 1 => do
    let left ← operand live
    if ← takes "&&" then
      let right ← conjunction operand (live && left != 0) fuel
      return truth (left != 0 && right != 0)
    else return left

def disjunction (operand : Bool → Evaluator Int) (live : Bool) : Nat → Evaluator Int
  | 0 => complain "expecting primary"
  | fuel + 1 => do
    let left ← operand live
    if ← takes "||" then
      let right ← disjunction operand (live && left == 0) fuel
      return truth (left != 0 || right != 0)
    else return left

def conditional (inner : Bool → Evaluator Int) (live : Bool) (fuel : Nat) : Evaluator Int := do
  let operand (live : Bool) : Evaluator Int :=
    binary live fuel (primary inner live fuel) levels
  let condition ← disjunction (fun live => conjunction operand live fuel) live fuel
  if ← takes "?" then
    let positive ← inner (live && condition != 0)
    if ← takes ":" then
      let negative ← inner (live && condition == 0)
      return if condition != 0 then positive else negative
    else complain "expecting ':'"
  else return condition

/-- Evaluates an expression, which may assign to a variable. The fuel bounds the
depth of brackets. -/
def expression : Nat → Bool → Evaluator Int
  | 0, _ => complain "expecting primary"
  | fuel + 1, live => do
    match (← get).tokens with
    | .named name :: .operator operator :: rest =>
      if operator = "=" then
        modify fun machine => { machine with tokens := rest }
        let result ← expression fuel live
        if live then assign name result
        return result
      else
        match assignmentOperators.lookup operator with
        | some operator =>
          modify fun machine => { machine with tokens := rest }
          let right ← expression fuel live
          let left ← if live then value name else pure 0
          let result ← combine live operator left right
          if live then assign name result
          return result
        | none => conditional (expression fuel) live (rest.length + 4)
    | rest => conditional (expression fuel) live (rest.length + 4)

/-- The value of an expression and the variables behind it, or a complaint. -/
def evaluate (values : List (String × String)) (source : String) :
    Except Complaint (String × List (String × String)) :=
  let characters := source.toList
  match tokens (characters.length + 1) characters with
  | found =>
    match (expression (found.length + 2) true).run ⟨found, values⟩ with
    | .error complaint => .error complaint
    | .ok (result, machine) =>
      if machine.tokens.isEmpty then .ok (decimal result, machine.values)
      else .error (.malformed "expecting EOF")

end Arithmetic

end MipsGloss.Shell
