namespace MipsGloss.Shell

/-! The parts of a shell script. A script works on bytes, so each character of a
text in it stands for one byte. -/

/-- What is done with the value of a parameter. Some operations take an empty
value for none. -/
inductive Operation where
  | plain
  | length
  | default (orEmpty : Bool)
  | assign (orEmpty : Bool)
  | require (orEmpty : Bool)
  | alternative (orEmpty : Bool)
  | cutStart (longest : Bool)
  | cutEnd (longest : Bool)
  | invalid
  deriving DecidableEq

/-- A part of a word. What a quoted part expands to is not split. -/
inductive Part where
  | text (characters : List Char) (quoted : Bool)
  | parameter (name : String) (operation : Operation) (operand : List Part) (quoted : Bool)
  | command (source : List Char) (line : Nat) (quoted : Bool)
  | arithmetic (expression : List Part) (quoted : Bool)

abbrev Word := List Part

/-- How a descriptor is redirected: to a file, to another descriptor, or to the
document below the command, which is known by its number. -/
inductive Redirect where
  | read (path : Word)
  | write (path : Word)
  | append (path : Word)
  | both (path : Word)
  | copy (descriptor : Word)
  | document (number : Nat)

structure Redirection where
  descriptor : Nat
  redirect : Redirect

inductive Command where
  | simple (line : Nat) (assignments : List (String × Word)) (words : List Word)
      (redirections : List Redirection)
  | pipeline (commands : List Command)
  | negation (command : Command)
  | both (first second : Command)
  | either (first second : Command)
  | sequence (commands : List Command)
  | background (command : Command)
  | choice (condition positive : Command) (negative : Option Command)
  | loop (whileFailing : Bool) (condition body : Command)
  | each (line : Nat) (name : String) (values : Option (List Word)) (body : Command)
  | select (line : Nat) (word : Word) (arms : List (List Word × Command))
  | subshell (command : Command)
  | redirected (line : Nat) (command : Command) (redirections : List Redirection)
  | define (name : String) (body : Command)

/-- The text of a word that is written without quotes and expansions. -/
def bareText? : Word → Option String
  | [.text characters false] => some (String.ofList characters)
  | _ => none

def isNameStart (character : Char) : Bool := character.isAlpha || character == '_'

def isNameCharacter (character : Char) : Bool := character.isAlphanum || character == '_'

def isName (text : String) : Bool :=
  match text.toList with
  | [] => false
  | first :: rest => isNameStart first && rest.all isNameCharacter

end MipsGloss.Shell
