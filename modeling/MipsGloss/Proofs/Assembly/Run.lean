import Mathlib.Data.List.Sort
import MipsGloss.Proofs.Assembly.Operand

namespace MipsGloss.Operand

/-! Operands as runs. A separator is told by its place in the text: a comma or a blank
where all parentheses in front are closed. The operands are the longest runs of other
characters, all of them and in order, so that splitting loses nothing but separators and
makes nothing up. -/

/-! ## Separators by their place -/

/-- The depth of parentheses in front of a position. A closing one at depth zero closes
nothing. -/
def depthAt (characters : List Char) : Nat → Nat
  | 0 => 0
  | position + 1 =>
    if characters[position]? = some '(' then depthAt characters position + 1
    else if characters[position]? = some ')' then depthAt characters position - 1
    else depthAt characters position

/-- A comma or a blank stands at the position, outside all parentheses. -/
def SeparatesAt (characters : List Char) (position : Nat) : Prop :=
  depthAt characters position = 0 ∧
    ∃ character, characters[position]? = some character ∧
      (character = ',' ∨ Text.isBlank character = true)

instance (characters : List Char) : DecidablePred (SeparatesAt characters) := fun position =>
  decidable_of_iff (depthAt characters position = 0 ∧
      characters[position]?.any (fun character => character == ',' || Text.isBlank character))
    (by simp [SeparatesAt, Option.any_eq_true])

theorem depthAt_eq (characters : List Char) (position : Nat) :
    depthAt characters position = depthBehind 0 (characters.take position) := by
  induction position with
  | zero => rfl
  | succ position induction =>
      rw [depthAt, induction, List.take_add_one, depthBehind, depthBehind, List.foldl_append]
      cases characters[position]? with
      | none => simp
      | some character => simp [depthAfter]

theorem separatesAt_iff (front rest : List Char) (character : Char) :
    SeparatesAt (front ++ character :: rest) front.length ↔
      isSeparator (depthBehind 0 front) character = true := by
  simp [SeparatesAt, depthAt_eq, isSeparator]

theorem lt_length_of_separatesAt {characters : List Char} {position : Nat}
    (separates : SeparatesAt characters position) : position < characters.length := by
  rcases separates with ⟨_, character, found, _⟩
  exact (List.getElem?_eq_some_iff.mp found).1

/-- The depth is still zero behind a separator. -/
theorem depthAt_succ_of_separatesAt {characters : List Char} {position : Nat}
    (separates : SeparatesAt characters position) : depthAt characters (position + 1) = 0 := by
  rcases separates with ⟨outside, character, found, comma | blank⟩
  · simp [depthAt, found, comma, outside]
  · have noOpening : character ≠ '(' := by
      rintro rfl
      exact absurd blank (by decide)
    simp [depthAt, found, noOpening, outside]

/-! ## Longest runs -/

/-- The positions from `start` on, in front of `stop`. -/
@[ext] structure Run where
  start : Nat
  stop : Nat
  filled : start < stop

namespace Run

def Ahead (left right : Run) : Prop := left.stop < right.start

instance : Std.Irrefl Ahead where
  irrefl run ahead := absurd run.filled (Nat.lt_asymm ahead)

instance : Std.Antisymm Ahead where
  antisymm left right ahead behind := by
    have leftFilled := left.filled
    have rightFilled := right.filled
    simp only [Ahead] at ahead behind
    omega

def of (characters : List Char) (run : Run) : List Char :=
  (characters.take run.stop).drop run.start

/-- The run holds no separator, and there is one, or nothing at all, at either end. -/
structure IsLongest (characters : List Char) (run : Run) : Prop where
  inside : run.stop ≤ characters.length
  unseparated : ∀ position, run.start ≤ position → position < run.stop →
    ¬ SeparatesAt characters position
  opens : ∀ before, run.start = before + 1 → SeparatesAt characters before
  closes : run.stop < characters.length → SeparatesAt characters run.stop

variable {characters : List Char} {run : Run}

theorem getElem?_of {offset : Nat} (inside : run.start + offset < run.stop) :
    (of characters run)[offset]? = characters[run.start + offset]? := by
  rw [of, List.getElem?_drop, List.getElem?_take_of_lt inside]

theorem IsLongest.start_add_length (longest : run.IsLongest characters) :
    run.start + (of characters run).length = run.stop := by
  have filled := run.filled
  have inside := longest.inside
  rw [of, List.length_drop, List.length_take]
  omega

/-- Parentheses can be counted from the start of a run as well. -/
theorem IsLongest.depthAt_of (longest : run.IsLongest characters) {offset : Nat}
    (inside : run.start + offset ≤ run.stop) :
    depthAt (of characters run) offset = depthAt characters (run.start + offset) := by
  induction offset with
  | zero =>
      cases opening : run.start with
      | zero => rfl
      | succ before =>
          exact (depthAt_succ_of_separatesAt (longest.opens before opening)).symm
  | succ offset induction =>
      have here : run.start + offset < run.stop := by omega
      rw [← Nat.add_assoc, depthAt, depthAt, getElem?_of here, induction (by omega)]

theorem IsLongest.not_separatesAt_of (longest : run.IsLongest characters) (offset : Nat) :
    ¬ SeparatesAt (of characters run) offset := by
  intro separates
  have bound := lt_length_of_separatesAt separates
  have length := longest.start_add_length
  have here : run.start + offset < run.stop := by omega
  rw [SeparatesAt, longest.depthAt_of (by omega), getElem?_of here] at separates
  exact longest.unseparated (run.start + offset) (by omega) here separates

/-- A run that stops ahead of the end closes its parentheses. -/
theorem IsLongest.depthAt_length_of (longest : run.IsLongest characters)
    (ahead : run.stop < characters.length) :
    depthAt (of characters run) (of characters run).length = 0 := by
  have length := longest.start_add_length
  rw [longest.depthAt_of (by omega), length]
  exact (longest.closes ahead).1

end Run

/-! ## Runs from a position on -/

/-- The runs are the longest ones that start at the position or behind it, in order. -/
structure RunsFrom (characters : List Char) (position : Nat) (runs : List Run) : Prop where
  mem_iff : ∀ run, run ∈ runs ↔ run.IsLongest characters ∧ position ≤ run.start
  ordered : runs.Pairwise Run.Ahead

theorem RunsFrom.unique {characters : List Char} {position : Nat} {left right : List Run}
    (leftRuns : RunsFrom characters position left)
    (rightRuns : RunsFrom characters position right) : left = right := by
  apply leftRuns.ordered.eq_of_mem_iff rightRuns.ordered
  intro run
  rw [leftRuns.mem_iff, rightRuns.mem_iff]

theorem runsFrom_nil {characters : List Char} {position : Nat}
    (atEnd : characters.length ≤ position) : RunsFrom characters position [] := by
  refine ⟨fun run => ⟨fun member => (nomatch member), fun ⟨longest, behind⟩ => ?_⟩, .nil⟩
  have filled := run.filled
  have inside := longest.inside
  omega

/-- What scanning from a position on finds: an operand under way, which may be empty, and
the operands behind it. -/
structure Scanned (characters : List Char) (start : Nat) (operand : List Char)
    (others : List (List Char)) : Prop where
  written : ∃ front back, characters = front ++ (operand ++ back) ∧ front.length = start
  unseparated : ∀ position, start ≤ position → position < start + operand.length →
    ¬ SeparatesAt characters position
  closes : start + operand.length < characters.length →
    SeparatesAt characters (start + operand.length)
  others : ∃ runs, RunsFrom characters (start + operand.length + 1) runs ∧
    others = runs.map (Run.of characters)

/-- The run of an operand that starts at a position. -/
def Run.covering (start : Nat) (operand : List Char) (filled : operand ≠ []) : Run where
  start := start
  stop := start + operand.length
  filled := Nat.lt_add_of_pos_right (List.length_pos_of_ne_nil filled)

namespace Scanned

variable {characters operand : List Char} {others : List (List Char)} {start : Nat}

theorem inside (scanned : Scanned characters start operand others) :
    start + operand.length ≤ characters.length := by
  rcases scanned.written with ⟨front, back, rfl, rfl⟩
  simp only [List.length_append]
  omega

theorem of_covering (scanned : Scanned characters start operand others)
    (filled : operand ≠ []) : (Run.covering start operand filled).of characters = operand := by
  rcases scanned.written with ⟨front, back, rfl, rfl⟩
  simp [Run.covering, Run.of, List.take_append]

/-- A longest run that starts where the scan does, or inside what it found, is what it
found. -/
theorem eq_of_isLongest (scanned : Scanned characters start operand others) {run : Run}
    (longest : run.IsLongest characters) (behind : start ≤ run.start)
    (within : run.start ≤ start + operand.length) :
    run.start = start ∧ run.stop = start + operand.length := by
  have bound := scanned.inside
  have filled := run.filled
  have inside := longest.inside
  have starts : run.start = start := by
    by_contra different
    cases opening : run.start with
    | zero => omega
    | succ before =>
        exact scanned.unseparated before (by omega) (by omega) (longest.opens before opening)
  refine ⟨starts, ?_⟩
  by_contra different
  rcases Nat.lt_or_gt_of_ne different with early | late
  · exact scanned.unseparated run.stop (by omega) early (longest.closes (by omega))
  · exact longest.unseparated (start + operand.length) (by omega) late
      (scanned.closes (by omega))

theorem runsFrom_of_nil {runs : List Run} (scanned : Scanned characters start [] others)
    (later : RunsFrom characters (start + 1) runs) : RunsFrom characters start runs := by
  refine ⟨fun run => ?_, later.ordered⟩
  rw [later.mem_iff]
  refine and_congr_right fun longest => ⟨fun behind => by omega, fun behind => ?_⟩
  by_contra ahead
  have same := scanned.eq_of_isLongest longest behind (by omega)
  have filled := run.filled
  simp only [List.length_nil] at same
  omega

theorem runsFrom_cons {runs : List Run} (scanned : Scanned characters start operand others)
    (filled : operand ≠ [])
    (opens : ∀ before, start = before + 1 → SeparatesAt characters before)
    (later : RunsFrom characters (start + operand.length + 1) runs) :
    RunsFrom characters start (Run.covering start operand filled :: runs) := by
  have first : (Run.covering start operand filled).IsLongest characters :=
    ⟨scanned.inside, scanned.unseparated, opens, scanned.closes⟩
  constructor
  · intro run
    rw [List.mem_cons, later.mem_iff]
    constructor
    · rintro (rfl | ⟨longest, behind⟩)
      · exact ⟨first, Nat.le_refl start⟩
      · exact ⟨longest, by omega⟩
    · rintro ⟨longest, behind⟩
      by_cases within : run.start ≤ start + operand.length
      · have same := scanned.eq_of_isLongest longest behind within
        exact .inl (Run.ext same.1 same.2)
      · exact .inr ⟨longest, by omega⟩
  · refine List.pairwise_cons.mpr ⟨fun run member => ?_, later.ordered⟩
    exact ((later.mem_iff run).mp member).2

/-- An operand under way is a run of its own, unless it is empty. -/
theorem exists_runs (scanned : Scanned characters start operand others)
    (opens : ∀ before, start = before + 1 → SeparatesAt characters before) :
    ∃ runs, RunsFrom characters start runs ∧
      prepend operand others = runs.map (Run.of characters) := by
  rcases scanned.others with ⟨runs, later, shown⟩
  by_cases filled : operand = []
  · subst filled
    exact ⟨runs, scanned.runsFrom_of_nil later, shown⟩
  · refine ⟨_, scanned.runsFrom_cons filled opens later, ?_⟩
    rw [prepend_of_ne_nil filled, List.map_cons, scanned.of_covering filled, shown]

/-! What the scan finds at the end, at a separator and at any other character. -/

theorem atEnd (characters : List Char) : Scanned characters characters.length [] [] where
  written := ⟨characters, [], by simp, rfl⟩
  unseparated := by
    intro position behind within
    simp only [List.length_nil] at within
    omega
  closes := by simp
  others := ⟨[], runsFrom_nil (by simp), rfl⟩

theorem atSeparator (separates : SeparatesAt characters start)
    (later : ∃ runs, RunsFrom characters (start + 1) runs ∧
      others = runs.map (Run.of characters)) : Scanned characters start [] others where
  written := by
    have inside := lt_length_of_separatesAt separates
    exact ⟨characters.take start, characters.drop start, by simp,
      List.length_take_of_le (Nat.le_of_lt inside)⟩
  unseparated := by
    intro position behind within
    simp only [List.length_nil] at within
    omega
  closes := fun _ => separates
  others := later

theorem cons {character : Char} (scanned : Scanned characters (start + 1) operand others)
    (here : characters[start]? = some character) (kept : ¬ SeparatesAt characters start) :
    Scanned characters start (character :: operand) others := by
  have stop : start + (character :: operand).length = start + 1 + operand.length := by
    rw [List.length_cons]
    omega
  constructor
  · rcases scanned.written with ⟨front, back, rfl, length⟩
    rcases List.eq_nil_or_concat front with rfl | ⟨front, last, rfl⟩
    · cases length
    · rw [List.concat_eq_append] at here length ⊢
      rw [List.length_append, List.length_singleton, Nat.add_right_cancel_iff] at length
      subst length
      have same : last = character := by simpa using here
      exact ⟨front, back, by simp [same], rfl⟩
  · intro position behind within
    rw [stop] at within
    rcases Nat.eq_or_lt_of_le behind with rfl | later
    · exact kept
    · exact scanned.unseparated position later within
  · rw [stop]
    exact scanned.closes
  · rw [stop]
    exact scanned.others

end Scanned

/-! ## Scanning -/

section

variable {front rest : List Char} {character : Char}

theorem scan_of_separatesAt
    (separates : SeparatesAt (front ++ character :: rest) front.length) :
    depthBehind 0 (front ++ [character]) = 0 ∧
      scan (depthBehind 0 front) (character :: rest) = ([], splitCharacters rest) := by
  constructor
  · have behind := depthAt_succ_of_separatesAt separates
    rwa [depthAt_eq, List.take_length_add_append] at behind
  · exact scan_cons_of_isSeparator ((separatesAt_iff front rest character).mp separates) rest

theorem scan_of_not_separatesAt
    (kept : ¬ SeparatesAt (front ++ character :: rest) front.length) :
    scan (depthBehind 0 front) (character :: rest) =
      (character :: (scan (depthBehind 0 (front ++ [character])) rest).1,
        (scan (depthBehind 0 (front ++ [character])) rest).2) := by
  rw [separatesAt_iff, Bool.not_eq_true] at kept
  rw [scan_cons_of_not_isSeparator kept, depthBehind, depthBehind, List.foldl_append]
  rfl

end

/-- The scan of what follows the front of a text. -/
theorem scanned_scan (front rest : List Char) :
    Scanned (front ++ rest) front.length (scan (depthBehind 0 front) rest).1
      (scan (depthBehind 0 front) rest).2 := by
  -- Characters move from the rest to the front, so that positions stay those of the text.
  induction rest generalizing front with
  | nil =>
      rw [List.append_nil]
      exact .atEnd front
  | cons character rest induction =>
      have further := induction (front ++ [character])
      rw [List.append_assoc, List.singleton_append, List.length_append,
        List.length_singleton] at further
      by_cases separates : SeparatesAt (front ++ character :: rest) front.length
      · rcases scan_of_separatesAt separates with ⟨outside, scanned⟩
        rw [outside] at further
        rw [scanned]
        apply Scanned.atSeparator separates
        apply further.exists_runs
        rintro before ⟨⟩
        exact separates
      · rw [scan_of_not_separatesAt separates]
        exact further.cons (by simp) separates

theorem exists_runs_splitCharacters (characters : List Char) :
    ∃ runs, RunsFrom characters 0 runs ∧
      splitCharacters characters = runs.map (Run.of characters) :=
  (scanned_scan [] characters).exists_runs fun _ opening => (nomatch opening)

/-! ## Characters of runs -/

/-- The text with its separators deleted. -/
def deleteSeparators (characters : List Char) : List Char :=
  (characters.zipIdx.filter fun entry => ¬ SeparatesAt characters entry.2).map Prod.fst

theorem flatten_scan (front rest : List Char) :
    (scan (depthBehind 0 front) rest).1 ++ (scan (depthBehind 0 front) rest).2.flatten =
      ((rest.zipIdx front.length).filter fun entry =>
        ¬ SeparatesAt (front ++ rest) entry.2).map Prod.fst := by
  induction rest generalizing front with
  | nil => rfl
  | cons character rest induction =>
      have further := induction (front ++ [character])
      rw [List.append_assoc, List.singleton_append, List.length_append,
        List.length_singleton] at further
      rw [List.zipIdx_cons]
      by_cases separates : SeparatesAt (front ++ character :: rest) front.length
      · rcases scan_of_separatesAt separates with ⟨outside, scanned⟩
        rw [outside] at further
        rw [scanned, List.filter_cons_of_neg (by simpa using separates), ← further,
          List.nil_append, splitCharacters_eq, flatten_prepend]
      · rw [scan_of_not_separatesAt separates, List.filter_cons_of_pos (by simpa using separates),
          List.map_cons, ← further, List.cons_append]

theorem flatten_splitCharacters (characters : List Char) :
    (splitCharacters characters).flatten = deleteSeparators characters := by
  rw [splitCharacters_eq, flatten_prepend]
  exact flatten_scan [] characters

/-! ## Operands -/

/-- Only the last of the runs can reach the end of the text. -/
theorem RunsFrom.stop_lt {characters : List Char} {position : Nat} {runs : List Run}
    (found : RunsFrom characters position runs) {run : Run} (member : run ∈ runs.dropLast) :
    run.stop < characters.length := by
  rcases List.eq_nil_or_concat runs with rfl | ⟨front, last, rfl⟩
  · cases member
  · rw [List.concat_eq_append] at found member
    rw [List.dropLast_concat] at member
    have ahead : run.stop < last.start :=
      (List.pairwise_append.mp found.ordered).2.2 run member last List.mem_cons_self
    have filled := last.filled
    have inside := ((found.mem_iff last).mp (by simp)).1.inside
    omega

/-- Operands that are the longest runs of a text, each of them once and in order. -/
structure SplitInto (text : String) (runs : List Run) (operands : List String) : Prop where
  longest : ∀ run, run ∈ runs ↔ run.IsLongest text.toList
  ordered : runs.Pairwise Run.Ahead
  shown : operands = runs.map fun run => String.ofList (run.of text.toList)
  filled : ∀ operand ∈ operands, operand ≠ ""
  joined : operands.flatMap String.toList = deleteSeparators text.toList
  /-- Parentheses counted in an operand are those counted in the text. -/
  depth : ∀ run ∈ runs, ∀ offset, run.start + offset ≤ run.stop →
    depthAt (run.of text.toList) offset = depthAt text.toList (run.start + offset)
  unseparated : ∀ operand ∈ operands, ∀ position, ¬ SeparatesAt operand.toList position
  closed : ∀ operand ∈ operands.dropLast, depthAt operand.toList operand.toList.length = 0

/-- The operands of a text are its longest runs without separators. -/
theorem split_runs (text : String) : ∃! runs, SplitInto text runs (split text) := by
  rcases exists_runs_splitCharacters text.toList with ⟨runs, found, shown⟩
  have longest : ∀ run, run ∈ runs ↔ run.IsLongest text.toList := by
    intro run
    rw [found.mem_iff]
    exact and_iff_left (Nat.zero_le run.start)
  have operands : split text = runs.map fun run => String.ofList (run.of text.toList) := by
    rw [split, shown, List.map_map]
    rfl
  refine ⟨runs, ⟨longest, found.ordered, operands, ?_, ?_, ?_, ?_, ?_⟩, ?_⟩
  · exact fun operand member => ne_empty_of_mem_split member
  · simp [split, List.flatMap_map, flatten_splitCharacters]
  · exact fun run member offset inside => ((longest run).mp member).depthAt_of inside
  · intro operand member position
    rw [operands] at member
    rcases List.mem_map.mp member with ⟨run, chosen, rfl⟩
    rw [String.toList_ofList]
    exact ((longest run).mp chosen).not_separatesAt_of position
  · intro operand member
    rw [operands, ← List.map_dropLast] at member
    rcases List.mem_map.mp member with ⟨run, chosen, rfl⟩
    rw [String.toList_ofList]
    have chosenRun := (longest run).mp ((List.dropLast_subset runs) chosen)
    exact chosenRun.depthAt_length_of (found.stop_lt chosen)
  · intro others split
    exact RunsFrom.unique ⟨by simpa using split.longest, split.ordered⟩ found

/-- Parentheses that close too early, and one that is never closed. -/
example : split "4(a, b),, c)) ,d\t(e f" = ["4(a, b)", "c))", "d", "(e f"] := by decide +kernel

end MipsGloss.Operand
