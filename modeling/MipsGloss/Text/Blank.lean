namespace MipsGloss.Text

/-! White space comes in two widths. A blank is any of the twenty-five white
space characters of Unicode and is what surrounds an instruction or separates
its operands. A gap is one of the five characters that a listing line uses
between its columns. -/

def blanks : List Char :=
  ['\t', '\n', '\x0b', '\x0c', '\r', ' ', '\u0085', '\u00a0', '\u1680',
   '\u2000', '\u2001', '\u2002', '\u2003', '\u2004', '\u2005', '\u2006',
   '\u2007', '\u2008', '\u2009', '\u200a', '\u2028', '\u2029', '\u202f',
   '\u205f', '\u3000']

def isBlank (character : Char) : Bool := blanks.contains character

def gaps : List Char := ['\t', '\n', '\x0c', '\r', ' ']

def isGap (character : Char) : Bool := gaps.contains character

theorem isBlank_of_isGap {character : Char} (gap : isGap character = true) :
    isBlank character = true := by
  simp only [isGap, gaps, isBlank, blanks, List.contains_cons,
    Bool.or_eq_true] at gap ⊢
  grind

/-! Trimming removes the blanks at both ends and nothing between them. -/

def trimStart (characters : List Char) : List Char :=
  characters.dropWhile isBlank

def trimEnd (characters : List Char) : List Char :=
  (characters.reverse.dropWhile isBlank).reverse

def trimCharacters (characters : List Char) : List Char :=
  trimEnd (trimStart characters)

def trim (text : String) : String :=
  String.ofList (trimCharacters text.toList)

end MipsGloss.Text
