namespace MipsGloss.Web

/-! The target of a request is a path with parameters behind a question mark. It
may be given in full, with a scheme and a host ahead of the path. -/

structure Target where
  path : String
  parameters : String
  deriving DecidableEq, Repr

namespace Target

def isSchemeCharacter (character : Char) : Bool :=
  character.isAlphanum || ['+', '-', '.'].contains character

/-- What stands behind a scheme and its colon, if there is one. -/
def afterScheme? (characters : List Char) : Option (List Char) :=
  if (characters.head?.map Char.isAlpha).getD false then
    match characters.dropWhile isSchemeCharacter with
    | ':' :: rest => some rest
    | _ => none
  else none

/-- The path behind a scheme. A host ends at the next slash. -/
def pathAfterScheme : List Char → List Char
  | '/' :: '/' :: rest => rest.dropWhile (· != '/')
  | '/' :: rest => '/' :: rest
  | _ => []

def ofText (text : String) : Target :=
  let scheme := afterScheme? text.toList
  let characters := scheme.getD text.toList
  let path := characters.takeWhile (· != '?')
  { path := String.ofList (if scheme.isSome then pathAfterScheme path else path)
    parameters := String.ofList ((characters.dropWhile (· != '?')).drop 1) }

end Target

end MipsGloss.Web
