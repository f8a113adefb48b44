import MipsGloss.Shell.Regex
import MipsGloss.Shell.Utility

namespace MipsGloss.Shell.Utility

/-! Searching lines for a regular expression, or for a plain text. -/

namespace Grep

/-- An expression that matches a text as it stands. -/
def plain (style : Regex.Style) (text : String) : Regex :=
  text.toList.foldr (fun character rest => .sequence (Regex.letter style character) rest) .empty

def either : List Regex → Regex
  | [] => .empty
  | [regex] => regex
  | regex :: rest => .either regex (either rest)

structure Settings where
  inverted : Bool
  wholeLines : Bool
  wholeWords : Bool

/-- Reads the patterns, each on a line of its own. -/
def read (style : Regex.Style) (settings : Settings) (isPlain : Bool) (patterns : List String) :
    Except String Regex := do
  let sources := patterns.flatMap fun pattern => pattern.splitOn "\n"
  let regexes ← sources.mapM fun source =>
    if isPlain then .ok (plain style source) else Regex.read style source
  let regex := either regexes
  if settings.wholeLines then
    return .sequence .start (.sequence regex .finish)
  else if settings.wholeWords then
    let outside := Regex.wordEdge true true
    return .sequence outside (.sequence regex outside)
  else return regex

/-- All matches in a line that are not empty. -/
def matchesIn (regex : Regex) : Nat → Option Char → List Char → List String
  | 0, _, _ => []
  | fuel + 1, previous, characters =>
    match Regex.search regex [] previous characters with
    | none => []
    | some found =>
      if found.text.isEmpty then
        match found.behind with
        | [] => []
        | character :: rest => matchesIn regex fuel (some character) rest
      else
        String.ofList found.text :: matchesIn regex fuel found.text.getLast? found.behind

def selects (regex : Regex) (settings : Settings) (line : String) : Bool :=
  (regex.find? line).isSome != settings.inverted

/-- Which lines are shown around those that are selected, given how many. A gap
between two lines that are shown is marked by nothing. -/
def withContext (before after count : Nat) (selected : List Nat) : List (Option Nat) :=
  let shown := (List.range count).filter fun number =>
    selected.any fun other => other ≤ number + before && number ≤ other + after
  let marks := shown.zip (none :: shown.map some) |>.map fun (entry : Nat × Option Nat) =>
    match entry.2 with
    | some previous => if previous + 1 < entry.1 then [none, some entry.1] else [some entry.1]
    | none => [some entry.1]
  marks.flatten

/-- What is shown of one text, and whether any line of it is selected. -/
def report (arguments : Arguments) (regex : Regex) (settings : Settings) (named : Bool)
    (name : String) (text : String) : Bool × String :=
  let lines : List (String × Nat) := (linesOf text).zipIdx
  let all := lines.filter fun (entry : String × Nat) => selects regex settings entry.1
  let limit := (arguments.value? 'm').bind String.toNat?
  let selected := all.take (limit.getD all.length)
  let labelled (mark : String) (number : Nat) : String :=
    (if named then name ++ mark else "") ++
      (if arguments.has 'n' then Text.decimal (number + 1) ++ mark else "")
  let label := labelled ":"
  let size (letter : Char) : Nat :=
    (((arguments.value? letter).or (arguments.value? 'C')).bind String.toNat?).getD 0
  let matched (line : String) : List String :=
    if settings.inverted then [] else matchesIn regex (line.length + 1) none line.toList
  let shown :=
    if arguments.has 'q' then ""
    else if arguments.has 'l' then (if selected.isEmpty then "" else name ++ "\n")
    else if arguments.has 'L' then (if selected.isEmpty then name ++ "\n" else "")
    else if arguments.has 'c' then
      (if named then name ++ ":" else "") ++ Text.decimal selected.length ++ "\n"
    else if arguments.has 'o' then
      String.join (selected.flatMap fun (entry : String × Nat) =>
        (matched entry.1).map fun text => label entry.2 ++ text ++ "\n")
    else if size 'A' + size 'B' > 0 then
      let numbers := selected.map (·.2)
      String.join ((withContext (size 'B') (size 'A') lines.length numbers).map fun
        | none => "--\n"
        | some number =>
          labelled (if numbers.contains number then ":" else "-") number ++
            ((lines[number]?.map (·.1)).getD "") ++ "\n")
    else
      String.join (selected.map fun (entry : String × Nat) =>
        label entry.2 ++ entry.1 ++ "\n")
  (!selected.isEmpty, shown)

end Grep

def grep : Utility := fun call =>
  let table : OptionTable :=
    ⟨['v', 'c', 'n', 'i', 'y', 'q', 'E', 'F', 'G', 'o', 'x', 'w', 's', 'h', 'H', 'l', 'L', 'a'],
     ['e', 'm', 'A', 'B', 'C', 'd'],
     [("invert-match", 'v'), ("count", 'c'), ("line-number", 'n'), ("ignore-case", 'i'),
      ("quiet", 'q'), ("silent", 'q'), ("extended-regexp", 'E'), ("fixed-strings", 'F'),
      ("only-matching", 'o'), ("line-regexp", 'x'), ("word-regexp", 'w'), ("regexp", 'e')]⟩
  let usage := "Usage: grep [OPTION]... PATTERNS [FILE]...\n" ++ Call.hintFor "grep"
  match table.readFrom none call.arguments with
  | .error fault =>
    ⟨[(2, call.complaint fault.message ++ usage)], 2, call.disk, false⟩
  | .ok arguments =>
    let ways := ["read", "recurse", "skip"]
    match (arguments.value? 'd').filter (!ways.contains ·) with
    | some way =>
      ⟨[(2, call.complaint ("invalid argument " ++ quote way ++ " for '--directories'") ++
        "Valid arguments are:\n" ++ unlines (ways.map fun way => "  - " ++ quote way) ++ usage)],
        1, call.disk, false⟩
    | none =>
    let (patterns, files) :=
      match arguments.values 'e', arguments.operands with
      | [], pattern :: files => ([pattern], files)
      | given, files => (given, files)
    if patterns.isEmpty then ⟨[(2, usage)], 2, call.disk, false⟩
    else
      let style : Regex.Style :=
        ⟨arguments.has 'E', arguments.has 'i' || arguments.has 'y'⟩
      let settings : Grep.Settings :=
        ⟨arguments.has 'v', arguments.has 'x', arguments.has 'w'⟩
      match Grep.read style settings (arguments.has 'F') patterns with
      | .error message => call.refuse 2 message
      | .ok regex =>
        let paths := Call.paths files
        let named := (paths.length > 1 && !arguments.has 'h') || arguments.has 'H'
        let results := paths.map fun path =>
          match call.content path with
          | .error obstacle =>
            let complaint := call.complaint (Call.plainly path obstacle)
            (false, (2, if arguments.has 's' then "" else complaint))
          | .ok text =>
            let name := if path = "-" then "(standard input)" else path
            let (selected, shown) := Grep.report arguments regex settings named name text
            (selected, (1, shown))
        let found := results.any (·.1)
        let failed := results.any (·.2.1 == 2)
        { writes := results.map (·.2)
          status := if failed && !(found && arguments.has 'q') then 2 else if found then 0 else 1
          disk := call.disk
          readsInput := paths.contains "-" }

end MipsGloss.Shell.Utility
