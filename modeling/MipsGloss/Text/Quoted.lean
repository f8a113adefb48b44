import MipsGloss.Text.Numeral
import MipsGloss.Text.Printable

namespace MipsGloss.Text

/-! Quoted text, as it stands in messages. The delimiter and the backslash are
written behind a backslash, seven control characters have a letter of their
own, printable characters stand for themselves, and what is left is written
with its code in two, four or eight hexadecimal digits. -/

def controlLetters : List (Char × Char) :=
  [('\x07', 'a'), ('\x08', 'b'), ('\x0c', 'f'), ('\n', 'n'), ('\r', 'r'),
   ('\t', 't'), ('\x0b', 'v')]

def quotedCode (code : Nat) : List Char :=
  if code < 0x20 ∨ code = 0x7f then '\\' :: 'x' :: paddedHexDigits 2 code
  else if code < 0x10000 then '\\' :: 'u' :: paddedHexDigits 4 code
  else '\\' :: 'U' :: paddedHexDigits 8 code

def quotedCharacter (delimiter character : Char) : List Char :=
  if character = delimiter ∨ character = '\\' then ['\\', character]
  else if isPrintable character then [character]
  else match controlLetters.lookup character with
    | some letter => ['\\', letter]
    | none => quotedCode character.toNat

def quoteCharacters (delimiter : Char) (characters : List Char) : List Char :=
  delimiter :: characters.flatMap (quotedCharacter delimiter) ++ [delimiter]

/-- Text between double quotes. -/
def quote (text : String) : String :=
  String.ofList (quoteCharacters '\x22' text.toList)

/-- One character between single quotes. -/
def quoteOne (character : Char) : String :=
  String.ofList (quoteCharacters '\x27' [character])

end MipsGloss.Text
