import MipsGloss.Profile
import MipsGloss.Yaml.Kind

namespace MipsGloss.Profile

/-! A document is entered node by node. The nodes are counted, and those that
an alias leads to a second time: a large document that consists of hardly
anything else is refused. -/

structure Tally where
  nodes : Nat
  repeated : Nat

namespace Tally

/-- Whether more nodes are repeated than a document of this size may have. -/
def isExcessive (tally : Tally) : Bool :=
  let (nodes, repeated) := (tally.nodes, tally.repeated)
  100 < repeated && 1000 < nodes &&
    if nodes ≤ 400000 then 99 * nodes < 100 * repeated
    else if 4000000 ≤ nodes then nodes < 10 * repeated
    else nodes * (99 * 3600000 - 89 * (nodes - 400000)) < 360000000 * repeated

end Tally

abbrev Entering := StateT Tally Option

/-- Counts a node. -/
def count (isRepeated : Bool) : Entering Unit := do
  modify fun tally =>
    ⟨tally.nodes + 1, if isRepeated then tally.repeated + 1 else tally.repeated⟩
  if (← StateT.get).isExcessive then failure

/-- What a node says where a text is wanted: nothing if it is null. A collection
is no text. -/
def nodeText (isRepeated : Bool) : Yaml.Node → Entering (Option String)
  | .scalar tag isPlain text => do
    count isRepeated
    match Yaml.scalarText? tag isPlain text with
    | some value => return value
    | none => failure
  | .alias _ (some target) => do
    count isRepeated
    nodeText true target
  | _ => failure

/-- Whether two keys are written alike. All sequences count as alike here, and
so do all mappings. -/
def sameKey : Yaml.Node → Yaml.Node → Bool
  | .scalar _ _ left, .scalar _ _ right => left == right
  | .alias left _, .alias right _ => left == right
  | .sequence _, .sequence _ => true
  | .mapping _, .mapping _ => true
  | _, _ => false

def hasRepeatedKey : List Yaml.Node → Bool
  | [] => false
  | key :: rest => rest.any (sameKey key) || hasRepeatedKey rest

/-- A profile that is being read, and, while other mappings are merged into one,
the keys that are taken. -/
structure Draft where
  profile : Profile
  taken : Option (List String)

/-- Enters one key and its value. Keys that are taken are passed over, and so are
unknown ones and those whose value is null. -/
def enterKey (isRepeated : Bool) (draft : Draft) (done : List Setting)
    (name : String) (value : Yaml.Node) : Entering (Draft × List Setting) := do
  if (draft.taken.getD []).contains name then return (draft, done)
  else
    let draft := { draft with taken := draft.taken.map (name :: ·) }
    match Setting.ofKey? name with
    | none => return (draft, done)
    | some setting =>
      if done.contains setting then failure
      else
        let text ← nodeText isRepeated value
        let profile := (text.map (draft.profile.set setting)).getD draft.profile
        return ({ draft with profile }, setting :: done)

/-- Enters the entries of a mapping, one by one, and leaves out those that merge
other mappings and those whose key is null. -/
def enterKeys (isRepeated : Bool) (draft : Draft) (done : List Setting) :
    List (Yaml.Node × Yaml.Node) → Entering Draft
  | [] => return draft
  | (key, value) :: rest => do
    if Yaml.isMergeKey key then enterKeys isRepeated draft done rest
    else
      match ← nodeText isRepeated key with
      | none => enterKeys isRepeated draft done rest
      | some name =>
        let (draft, done) ← enterKey isRepeated draft done name value
        enterKeys isRepeated draft done rest

/-- The names that the keys of a mapping have. -/
def keyNames (isRepeated : Bool) :
    List (Yaml.Node × Yaml.Node) → Entering (List String)
  | [] => return []
  | (key, _) :: rest => do
    let name ← nodeText isRepeated key
    return name.toList ++ (← keyNames isRepeated rest)

def mergedNode? (entries : List (Yaml.Node × Yaml.Node)) : Option Yaml.Node :=
  (entries.find? fun entry => Yaml.isMergeKey entry.1).map (·.2)

mutual

/-- Enters a mapping: its own keys first, and then those of the mappings that are
merged into it. No key may be given twice. The fuel bounds how deep mappings are
merged into one another. -/
def enterMapping (fuel : Nat) (isRepeated : Bool) (draft : Draft)
    (entries : List (Yaml.Node × Yaml.Node)) : Entering Draft :=
  match fuel with
  | 0 => failure
  | fuel + 1 => do
    if hasRepeatedKey (entries.map (·.1)) then failure
    else
      let entered ← enterKeys isRepeated draft [] entries
      match mergedNode? entries with
      | none => return entered
      | some node =>
        match entered.taken with
        | some _ => merge fuel isRepeated entered node
        | none => do
          let names ← keyNames isRepeated entries
          let merged ← merge fuel isRepeated { entered with taken := some names } node
          return { merged with taken := none }

/-- Merges a mapping, or one after the other those of a sequence. -/
def merge (fuel : Nat) (isRepeated : Bool) (draft : Draft) (node : Yaml.Node) :
    Entering Draft :=
  match fuel with
  | 0 => failure
  | fuel + 1 =>
    match node with
    | .sequence items => mergeAll fuel isRepeated draft items
    | node => mergeOne fuel isRepeated draft node

def mergeAll (fuel : Nat) (isRepeated : Bool) (draft : Draft)
    (items : List Yaml.Node) : Entering Draft :=
  match fuel, items with
  | 0, _ => failure
  | _, [] => return draft
  | fuel + 1, item :: rest => do
    let draft ← mergeOne fuel isRepeated draft item
    mergeAll fuel isRepeated draft rest

def mergeOne (fuel : Nat) (isRepeated : Bool) (draft : Draft) (node : Yaml.Node) :
    Entering Draft :=
  match fuel, node with
  | 0, _ => failure
  | fuel + 1, .mapping entries => do
    count isRepeated
    enterMapping fuel isRepeated draft entries
  | fuel + 1, .alias _ (some (.mapping entries)) => do
    count isRepeated
    count true
    enterMapping fuel true draft entries
  | _, _ => failure

end

/-- The settings of a document, which is a mapping or null. -/
def ofNode (fuel : Nat) (node : Yaml.Node) : Entering Profile := do
  count false
  match node with
  | .mapping entries => do
    count false
    return (← enterMapping fuel false ⟨standard, none⟩ entries).profile
  | node =>
    match ← nodeText false node with
    | none => return standard
    | some _ => failure

/-- Why a profile file cannot be used. -/
inductive Error where
  | unreadable (path reason : String)
  | malformed
  | invalid (path : String) (error : SettingError)
  deriving DecidableEq, Repr

def Error.message : Error → String
  | .unreadable path reason =>
    "failed to open profile: open " ++ path ++ ": " ++ reason
  | .malformed => "failed to parse profile"
  | .invalid path error => "invalid profile " ++ path ++ ": " ++ error.message

/-- Reads the content of the profile file with the given path. -/
def ofText (path content : String) : Except Error Profile :=
  let profile := (Yaml.read content).bind fun node =>
    (ofNode (8 * content.length + 8) node).run' ⟨0, 0⟩
  match profile with
  | none => .error .malformed
  | some profile =>
    match profile.fault? with
    | some error => .error (.invalid path error)
    | none => .ok profile

end MipsGloss.Profile
