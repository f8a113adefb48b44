import MipsGloss.Text.Quoted

namespace MipsGloss

/-! Flags of the command line. A flag is written with one dash or two and takes
a value, behind an equals sign or as the next argument; a switch takes one only
behind an equals sign. Flags end at the first argument that is none, or at a
double dash. A flag may have a second, shorter name, of which only one can be
used at a time. A flag that is not given takes the value of its environment
variable. -/

structure Flag where
  name : String
  environmentName : Option String
  isSwitch : Bool
  shortName : Option String
  deriving DecidableEq, Repr

/-- What is wrong with the flags of a command line. -/
inductive FlagError where
  | undefined (name : String)
  | noArgument (name : String)
  | malformed (argument : String)
  | notBoolean (value name : String)
  | notBooleanVariable (value environmentName name : String)
  | bothNames (shortName name : String)
  deriving DecidableEq, Repr

def FlagError.message : FlagError → String
  | .undefined name => "flag provided but not defined: -" ++ name
  | .noArgument name => "flag needs an argument: -" ++ name
  | .malformed argument => "bad flag syntax: " ++ argument
  | .notBoolean value name =>
    "invalid boolean value " ++ Text.quote value ++ " for -" ++ name ++ ": parse error"
  | .notBooleanVariable value environmentName name =>
    "could not parse " ++ Text.quote value ++
      " as bool value from environment variable " ++ Text.quote environmentName ++
      " for flag " ++ name ++ ": strconv.ParseBool: parsing " ++ Text.quote value ++
      ": invalid syntax"
  | .bothNames shortName name =>
    "Cannot use two forms of the same flag: " ++ shortName ++ " " ++ name

namespace Flag

def truths : List String := ["1", "t", "T", "TRUE", "true", "True"]

def falsehoods : List String := ["0", "f", "F", "FALSE", "false", "False"]

def boolean? (value : String) : Option Bool :=
  if truths.contains value then some true
  else if falsehoods.contains value then some false
  else none

def names (flag : Flag) : List String := flag.name :: flag.shortName.toList

/-- What an argument is, where flags may stand. -/
inductive Shape where
  | plain
  | terminator
  | malformed
  | flag (name : String) (value : Option String)
  deriving DecidableEq, Repr

/-- Splits the text of a flag at its equals sign, which cannot come first. -/
def named (characters : List Char) : Shape :=
  match characters with
  | [] => .malformed
  | first :: rest =>
    if first = '-' ∨ first = '=' then .malformed
    else
      let name := String.ofList (first :: rest.takeWhile (· != '='))
      match rest.dropWhile (· != '=') with
      | [] => .flag name none
      | _ :: value => .flag name (some (String.ofList value))

def shape (argument : String) : Shape :=
  match argument.toList with
  | ['-', '-'] => .terminator
  | '-' :: '-' :: rest => named rest
  | ['-'] => .plain
  | '-' :: rest => named rest
  | _ => .plain

/-- The values of the given flags under the names they are given by, the last one
first, and the arguments behind them. -/
def readArguments (flags : List Flag) (given : List (String × String)) :
    List String → Except FlagError (List (String × String) × List String)
  | [] => .ok (given, [])
  | argument :: rest =>
    match shape argument with
    | .plain => .ok (given, argument :: rest)
    | .terminator => .ok (given, rest)
    | .malformed => .error (.malformed argument)
    | .flag name value =>
      match flags.find? (·.names.contains name) with
      | none => .error (.undefined name)
      | some flag =>
        if flag.isSwitch then
          let value := value.getD "true"
          if (boolean? value).isSome then
            readArguments flags ((name, value) :: given) rest
          else .error (.notBoolean value name)
        else
          match value, rest with
          | some value, rest => readArguments flags ((name, value) :: given) rest
          | none, value :: rest => readArguments flags ((name, value) :: given) rest
          | none, [] => .error (.noArgument name)

/-- The value that the environment gives to a flag. An empty value leaves a
switch as it is. -/
def environmentValue? (environment : List (String × String)) (flag : Flag) :
    Option String :=
  match flag.environmentName.bind fun name => environment.lookup name with
  | some value => if flag.isSwitch && value == "" then none else some value
  | none => none

/-- The complaint about the environment value of a switch, if there is one. -/
def environmentFault? (environment : List (String × String)) (flag : Flag) :
    Option FlagError :=
  match flag.environmentValue? environment with
  | some value =>
    if flag.isSwitch && (boolean? value).isNone then
      some (.notBooleanVariable value (flag.environmentName.getD "") flag.name)
    else none
  | none => none

/-- The complaint about a flag that is given by both of its names. -/
def namesFault? (given : List (String × String)) (flag : Flag) : Option FlagError :=
  match flag.shortName with
  | some shortName =>
    if (given.lookup flag.name).isSome && (given.lookup shortName).isSome then
      some (.bothNames shortName flag.name)
    else none
  | none => none

/-- The value that is given to a flag by any of its names, or else inherited from
the environment. -/
def chosenValue? (given environment : List (String × String)) (flag : Flag) :
    Option String :=
  (flag.names.findSome? fun name => given.lookup name).or
    (flag.environmentValue? environment)

theorem length_arguments_le (flags : List Flag) (given : List (String × String))
    (arguments : List String) {found : List (String × String)} {rest : List String}
    (success : readArguments flags given arguments = .ok (found, rest)) :
    rest.length ≤ arguments.length := by
  fun_induction readArguments flags given arguments <;> grind

end Flag

/-- A command line whose flags have been read: their values, and the arguments
behind them. -/
structure Invocation where
  values : List (String × String)
  arguments : List String
  deriving DecidableEq, Repr

namespace Invocation

/-- Reads flags and environment. Values of the environment are looked at
first, and count only for flags that are not given. -/
def read (flags : List Flag) (environment : List (String × String))
    (arguments : List String) : Except FlagError Invocation :=
  match flags.findSome? (·.environmentFault? environment) with
  | some error => .error error
  | none =>
    match Flag.readArguments flags [] arguments with
    | .error error => .error error
    | .ok (given, rest) =>
      match flags.findSome? (·.namesFault? given) with
      | some error => .error error
      | none =>
        let values := flags.filterMap fun flag =>
          (flag.chosenValue? given environment).map fun value => (flag.name, value)
        .ok ⟨values, rest⟩

theorem length_arguments_le (flags : List Flag) (environment : List (String × String))
    (arguments : List String) {invocation : Invocation}
    (success : read flags environment arguments = .ok invocation) :
    invocation.arguments.length ≤ arguments.length := by
  unfold read at success
  split at success
  · contradiction
  · split at success
    · contradiction
    · next given rest taken =>
      split at success
      · contradiction
      · injection success with equal
        subst equal
        exact Flag.length_arguments_le flags [] arguments taken

def value? (invocation : Invocation) (name : String) : Option String :=
  invocation.values.lookup name

def text (invocation : Invocation) (name : String) : String :=
  (invocation.value? name).getD ""

def switch (invocation : Invocation) (name : String) : Bool :=
  ((invocation.value? name).bind Flag.boolean?).getD false

end Invocation

end MipsGloss
