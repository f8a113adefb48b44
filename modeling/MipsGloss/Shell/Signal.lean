namespace MipsGloss.Shell

/-! Signals by number and by name. -/

namespace Signal

def names : List String :=
  ["EXIT", "HUP", "INT", "QUIT", "ILL", "TRAP", "ABRT", "BUS", "FPE", "KILL", "USR1", "SEGV",
   "USR2", "PIPE", "ALRM", "TERM", "STKFLT", "CHLD", "CONT", "STOP", "TSTP", "TTIN", "TTOU",
   "URG", "XCPU", "XFSZ", "VTALRM", "PROF", "WINCH", "IO", "PWR", "SYS"]

def name (number : Nat) : String := names[number]?.getD ""

/-- The number of a signal that is given by its number or by its name. -/
def number? (text : String) : Option Nat :=
  match text.toNat? with
  | some number => if number < names.length then some number else none
  | none =>
    let bare := if ['S', 'I', 'G'].isPrefixOf text.toList then
      String.ofList (text.toList.drop 3) else text
    names.findIdx? (· == bare)

/-- The signals that end nothing unless someone asked for it. -/
def isHarmless (number : Nat) : Bool := [0, 17, 18, 23, 28].contains number

/-- What is said of a program that a signal has ended. -/
def epitaph (number : Nat) : String :=
  [(1, "Hangup"), (3, "Quit"), (4, "Illegal instruction"), (5, "Trace/breakpoint trap"),
   (6, "Aborted"), (7, "Bus error"), (8, "Floating point exception"), (9, "Killed"),
   (10, "User defined signal 1"), (11, "Segmentation fault"), (12, "User defined signal 2"),
   (14, "Alarm clock"), (15, "Terminated")].lookup number |>.getD ""

end Signal

end MipsGloss.Shell
