import MipsGloss.Profile.Document
import MipsGloss.Proofs.Lookup

namespace MipsGloss

/-! What a profile file says. A mapping binds names to values: those of its own keys, and
behind them those of the mappings that are merged into it. The first value of a name
counts, and a setting keeps its standard where that value is null. -/

namespace Yaml

namespace Node

/-- The text that a node stands for. Null stands for none, and so does a collection. -/
def text? : Node → Option String
  | .scalar tag isPlain text => (scalarText? tag isPlain text).join
  | .alias _ (some target) => target.text?
  | _ => none

/-- The names that a mapping binds by keys of its own. -/
def ownBindings (entries : List (Node × Node)) : List (String × Node) :=
  entries.filterMap fun entry =>
    if isMergeKey entry.1 then none else entry.1.text?.map fun name => (name, entry.2)

mutual

/-- The names that a node binds, in the order in which they count. -/
def bindings : Node → List (String × Node)
  | .mapping entries => ownBindings entries ++ mergedBindings entries
  | .sequence items => itemBindings items
  | .alias _ (some target) => target.bindings
  | _ => []

/-- The names that are bound by what is merged into a mapping. -/
def mergedBindings : List (Node × Node) → List (String × Node)
  | [] => []
  | (key, value) :: rest => if isMergeKey key then value.bindings else mergedBindings rest

def itemBindings : List Node → List (String × Node)
  | [] => []
  | item :: rest => item.bindings ++ itemBindings rest

end

/-- The text that a document gives to a name. -/
def value? (node : Node) (name : String) : Option String :=
  (node.bindings.lookup name).bind text?

theorem mergedBindings_eq (entries : List (Node × Node)) :
    mergedBindings entries = ((Profile.mergedNode? entries).map bindings).getD [] := by
  induction entries with
  | nil => rfl
  | cons entry rest induction =>
      rcases entry with ⟨key, value⟩
      rw [mergedBindings, Profile.mergedNode?, List.find?_cons]
      cases isMergeKey key with
      | true => rfl
      | false => exact induction

end Node

end Yaml

namespace Profile

/-! ## Results

How many nodes have been counted decides whether a document is entered, but not what it
says. -/

variable {α β : Type}

/-- An action that succeeds with a result, however many nodes there have been. -/
def Gives (action : Entering α) (result : α) : Prop :=
  ∃ before after, action before = some (result, after)

theorem Gives.bind {action : Entering α} {next : α → Entering β} {result : β}
    (given : Gives (action >>= next) result) :
    ∃ middle, Gives action middle ∧ Gives (next middle) result := by
  rcases given with ⟨before, after, success⟩
  rcases Option.bind_eq_some_iff.mp success with ⟨⟨middle, between⟩, first, second⟩
  exact ⟨middle, ⟨before, between, first⟩, between, after, second⟩

theorem Gives.eq_of_pure {value result : α} (given : Gives (pure value) result) :
    value = result := by
  rcases given with ⟨_, _, ⟨⟩⟩
  rfl

theorem not_gives_failure {result : α} : ¬ Gives failure result := by
  rintro ⟨_, _, ⟨⟩⟩

theorem Gives.eq_text? {isRepeated : Bool} {node : Yaml.Node} {text : Option String}
    (given : Gives (nodeText isRepeated node) text) : text = node.text? := by
  induction node using Yaml.Node.text?.induct generalizing isRepeated with
  | case1 tag isPlain text =>
      rw [nodeText] at given
      rcases given.bind with ⟨_, _, given⟩
      split at given
      next value found =>
        rw [Yaml.Node.text?, found, ← given.eq_of_pure]
        rfl
      next => exact absurd given not_gives_failure
  | case2 name target induction =>
      rw [nodeText] at given
      rcases given.bind with ⟨_, _, given⟩
      rw [Yaml.Node.text?, induction given]
  | case3 node noScalar noAlias =>
      rw [nodeText] at given
      · exact absurd given not_gives_failure
      · exact noScalar
      · exact noAlias

/-! ## Settings -/

theorem Setting.ofKey?_key (setting : Setting) : ofKey? setting.key = some setting := by
  cases setting <;> decide

theorem Setting.key_eq_iff {setting : Setting} {name : String} :
    setting.key = name ↔ ofKey? name = some setting := by
  constructor
  · rintro rfl
    exact setting.ofKey?_key
  · intro found
    have same := List.find?_some found
    rwa [beq_iff_eq] at same

theorem Setting.key_injective {setting other : Setting} (same : setting.key = other.key) :
    setting = other := by
  rw [key_eq_iff, ofKey?_key] at same
  exact (Option.some.inj same).symm

theorem get_set (profile : Profile) (setting other : Setting) (value : String) :
    (profile.set other value).get setting =
      if setting = other then value else profile.get setting := by
  cases setting <;> cases other <;> rfl

/-- What becomes of a setting when names are bound: nothing if it is blocked, and
otherwise the first value of its name counts. -/
structure Sets (setting : Setting) (bindings : List (String × Yaml.Node)) (blocked : Prop)
    (before after : Profile) : Prop where
  kept : blocked → after.get setting = before.get setting
  bound : ¬ blocked → after.get setting =
    ((bindings.lookup setting.key).bind Yaml.Node.text?).getD (before.get setting)

/-- The names that are taken when names are bound, as far as a setting is concerned. -/
structure Takes (setting : Setting) (bindings : List (String × Yaml.Node))
    (before after : Draft) : Prop where
  isSome : after.taken.isSome = before.taken.isSome
  names : setting.key ∈ after.taken.getD [] ↔ setting.key ∈ before.taken.getD [] ∨
    before.taken.isSome ∧ (bindings.lookup setting.key).isSome

variable {setting : Setting} {bindings others : List (String × Yaml.Node)}

theorem Sets.refl (blocked : Prop) (profile : Profile) : Sets setting [] blocked profile profile :=
  ⟨fun _ => rfl, fun _ => rfl⟩

theorem Sets.append {blocked stillBlocked : Prop} {before middle after : Profile}
    (first : Sets setting bindings blocked before middle)
    (blocks : stillBlocked ↔ blocked ∨ (bindings.lookup setting.key).isSome)
    (second : Sets setting others stillBlocked middle after) :
    Sets setting (bindings ++ others) blocked before after where
  kept free := (second.kept (blocks.mpr (.inl free))).trans (first.kept free)
  bound free := by
    rw [List.lookup_append]
    cases found : bindings.lookup setting.key with
    | none =>
        have unblocked : ¬ stillBlocked := by simp [blocks, free, found]
        rw [second.bound unblocked, first.bound free, found]
        rfl
    | some value =>
        have blocked : stillBlocked := by simp [blocks, found]
        rw [second.kept blocked, first.bound free, found]
        rfl

theorem Takes.refl (draft : Draft) : Takes setting [] draft draft :=
  ⟨rfl, by simp⟩

theorem Takes.append {before middle after : Draft} (first : Takes setting bindings before middle)
    (second : Takes setting others middle after) :
    Takes setting (bindings ++ others) before after where
  isSome := second.isSome.trans first.isSome
  names := by
    rw [second.names, first.names, first.isSome, List.lookup_append, Option.isSome_or,
      Bool.or_eq_true, and_or_left, or_assoc]

theorem lookup_singleton (name key : String) (value : Yaml.Node) :
    [(name, value)].lookup key = if key = name then some value else none := by
  by_cases same : key = name
  · rw [if_pos same, same, List.lookup_cons_self]
  · rw [if_neg same, lookup_cons_of_ne same, List.lookup_nil]

/-! ## Keys -/

/-- What entering a key can do: pass over a name that is taken, take a name that is no
setting, or give its value to a setting that has none yet. -/
theorem Gives.enterKey_cases {isRepeated : Bool} {draft : Draft} {done : List Setting}
    {name : String} {value : Yaml.Node} {result : Draft × List Setting}
    (given : Gives (enterKey isRepeated draft done name value) result) :
    (name ∈ draft.taken.getD [] ∧ result = (draft, done)) ∨
    (name ∉ draft.taken.getD [] ∧ Setting.ofKey? name = none ∧
      result = (⟨draft.profile, draft.taken.map (name :: ·)⟩, done)) ∨
    ∃ found : Setting, name ∉ draft.taken.getD [] ∧ found.key = name ∧ found ∉ done ∧
      result = (⟨(value.text?.map (draft.profile.set found)).getD draft.profile,
        draft.taken.map (name :: ·)⟩, found :: done) := by
  rw [enterKey] at given
  by_cases taken : name ∈ draft.taken.getD []
  · rw [if_pos (List.contains_iff_mem.mpr taken)] at given
    exact .inl ⟨taken, given.eq_of_pure.symm⟩
  rw [if_neg (mt List.contains_iff_mem.mp taken)] at given
  cases known : Setting.ofKey? name with
  | none =>
      simp only [known] at given
      exact .inr (.inl ⟨taken, rfl, given.eq_of_pure.symm⟩)
  | some found =>
      simp only [known] at given
      by_cases repeated : found ∈ done
      · rw [if_pos (List.contains_iff_mem.mpr repeated)] at given
        exact absurd given not_gives_failure
      rw [if_neg (mt List.contains_iff_mem.mp repeated)] at given
      rcases given.bind with ⟨text, read, given⟩
      rw [read.eq_text?] at given
      exact .inr (.inr ⟨found, taken, Setting.key_eq_iff.mpr known, repeated,
        given.eq_of_pure.symm⟩)

/-- A setting that a key cannot give a value to. -/
def Blocked (setting : Setting) (draft : Draft) (done : List Setting) : Prop :=
  setting.key ∈ draft.taken.getD [] ∨ setting ∈ done

/-- A key binds its name and blocks it for the keys to come. -/
structure EntersKey (setting : Setting) (name : String) (value : Yaml.Node) (draft : Draft)
    (done : List Setting) (result : Draft × List Setting) : Prop where
  sets : Sets setting [(name, value)] (Blocked setting draft done) draft.profile result.1.profile
  takes : Takes setting [(name, value)] draft result.1
  blocks : Blocked setting result.1 result.2 ↔
    Blocked setting draft done ∨ ([(name, value)].lookup setting.key).isSome

theorem mem_getD_map_cons {taken : Option (List String)} {name other : String} :
    other ∈ (taken.map (name :: ·)).getD [] ↔
      other ∈ taken.getD [] ∨ taken.isSome ∧ other = name := by
  cases taken with
  | none => simp
  | some names => simp [or_comm]

/-- A key with another name than a setting leaves the setting alone. -/
theorem EntersKey.of_ne {name : String} {value : Yaml.Node} {draft : Draft} {done : List Setting}
    {result : Draft × List Setting} (apart : setting.key ≠ name)
    (profile : result.1.profile.get setting = draft.profile.get setting)
    (isSome : result.1.taken.isSome = draft.taken.isSome)
    (names : setting.key ∈ result.1.taken.getD [] ↔ setting.key ∈ draft.taken.getD [])
    (dones : setting ∈ result.2 ↔ setting ∈ done) :
    EntersKey setting name value draft done result where
  sets := ⟨fun _ => profile, fun _ => by
    rw [profile, lookup_singleton, if_neg apart]
    rfl⟩
  takes := ⟨isSome, by simp [names, lookup_singleton, apart]⟩
  blocks := by simp [Blocked, names, dones, lookup_singleton, apart]

theorem Gives.entersKey {isRepeated : Bool} {draft : Draft} {done : List Setting}
    {name : String} {value : Yaml.Node} {result : Draft × List Setting}
    (given : Gives (enterKey isRepeated draft done name value) result) (setting : Setting) :
    EntersKey setting name value draft done result := by
  rcases given.enterKey_cases with
    ⟨taken, rfl⟩ | ⟨free, unknown, rfl⟩ | ⟨found, free, rfl, unset, rfl⟩
  · by_cases same : setting.key = name
    · have blocked : Blocked setting draft done := .inl (same ▸ taken)
      refine ⟨⟨fun _ => rfl, fun open_ => absurd blocked open_⟩, ⟨rfl, ?_⟩, ?_⟩
      · simp [same ▸ taken]
      · simp [blocked]
    · exact .of_ne same rfl rfl .rfl .rfl
  · have apart : setting.key ≠ name := by
      rintro rfl
      rw [setting.ofKey?_key] at unknown
      cases unknown
    exact .of_ne apart rfl Option.isSome_map (by simp [mem_getD_map_cons, apart]) .rfl
  · by_cases same : setting = found
    · subst same
      have open_ : ¬ Blocked setting draft done := not_or.mpr ⟨free, unset⟩
      refine ⟨⟨fun blocked => absurd blocked open_, fun _ => ?_⟩, ⟨Option.isSome_map, ?_⟩, ?_⟩
      · cases text : value.text? <;> simp [text, get_set]
      · simp [mem_getD_map_cons]
      · simp [Blocked]
    · have apart : setting.key ≠ found.key := mt Setting.key_injective same
      refine .of_ne apart ?_ Option.isSome_map ?_ ?_
      · cases value.text? <;> simp [get_set, same]
      · simp [mem_getD_map_cons, apart]
      · simp [same]

theorem Gives.entersKeys {isRepeated : Bool} {draft after : Draft} {done : List Setting}
    {entries : List (Yaml.Node × Yaml.Node)}
    (given : Gives (enterKeys isRepeated draft done entries) after) (setting : Setting) :
    Sets setting (Yaml.Node.ownBindings entries) (Blocked setting draft done) draft.profile
        after.profile ∧
      Takes setting (Yaml.Node.ownBindings entries) draft after := by
  induction entries generalizing draft done with
  | nil =>
      cases given.eq_of_pure
      exact ⟨.refl _ _, .refl _⟩
  | cons entry rest induction =>
      rcases entry with ⟨key, value⟩
      rw [enterKeys] at given
      rw [Yaml.Node.ownBindings, List.filterMap_cons, ← Yaml.Node.ownBindings]
      cases merges : Yaml.isMergeKey key with
      | true =>
          rw [if_pos merges] at given
          exact induction given
      | false =>
          rw [if_neg (by simp [merges])] at given
          rcases given.bind with ⟨name, read, given⟩
          rw [← read.eq_text?]
          cases name with
          | none => exact induction given
          | some name =>
              rcases given.bind with ⟨result, entered, given⟩
              have first := entered.entersKey setting
              rcases induction given with ⟨sets, takes⟩
              exact ⟨first.sets.append first.blocks sets, first.takes.append takes⟩

/-! ## Merged mappings

While mappings are merged, the names that are taken are exactly those that are blocked. -/

structure Merged (setting : Setting) (bindings : List (String × Yaml.Node))
    (before after : Draft) : Prop where
  sets : Sets setting bindings (setting.key ∈ before.taken.getD []) before.profile after.profile
  takes : Takes setting bindings before after

theorem Merged.refl (draft : Draft) : Merged setting [] draft draft := ⟨.refl _ _, .refl _⟩

theorem Merged.append {before middle after : Draft} (isSome : before.taken.isSome = true)
    (first : Merged setting bindings before middle) (second : Merged setting others middle after) :
    Merged setting (bindings ++ others) before after := by
  refine ⟨first.sets.append ?_ second.sets, first.takes.append second.takes⟩
  rw [first.takes.names, isSome, eq_self, true_and]

/-- What is known of mappings that are merged with so much fuel. -/
structure Merging (setting : Setting) (fuel : Nat) : Prop where
  mapping {isRepeated : Bool} {draft after : Draft} {entries : List (Yaml.Node × Yaml.Node)} :
    draft.taken.isSome = true → Gives (enterMapping fuel isRepeated draft entries) after →
      Merged setting (Yaml.Node.mapping entries).bindings draft after
  node {isRepeated : Bool} {draft after : Draft} {node : Yaml.Node} :
    draft.taken.isSome = true → Gives (merge fuel isRepeated draft node) after →
      Merged setting node.bindings draft after
  items {isRepeated : Bool} {draft after : Draft} {items : List Yaml.Node} :
    draft.taken.isSome = true → Gives (mergeAll fuel isRepeated draft items) after →
      Merged setting (Yaml.Node.itemBindings items) draft after
  one {isRepeated : Bool} {draft after : Draft} {node : Yaml.Node} :
    draft.taken.isSome = true → Gives (mergeOne fuel isRepeated draft node) after →
      Merged setting node.bindings draft after

/-- What entering a mapping can do: enter its own keys and no more, or merge others behind
them, into the names that are taken or into those of all its keys. -/
theorem Gives.enterMapping_cases {fuel : Nat} {isRepeated : Bool} {draft after : Draft}
    {entries : List (Yaml.Node × Yaml.Node)}
    (given : Gives (enterMapping (fuel + 1) isRepeated draft entries) after) :
    ∃ entered, Gives (enterKeys isRepeated draft [] entries) entered ∧
      ((mergedNode? entries = none ∧ after = entered) ∨
      ∃ node, mergedNode? entries = some node ∧
        ((entered.taken.isSome = true ∧ Gives (merge fuel isRepeated entered node) after) ∨
        (entered.taken = none ∧ ∃ names merged, Gives (keyNames isRepeated entries) names ∧
          Gives (merge fuel isRepeated ⟨entered.profile, some names⟩ node) merged ∧
          after = ⟨merged.profile, none⟩))) := by
  rw [enterMapping] at given
  split at given
  · exact absurd given not_gives_failure
  rcases given.bind with ⟨entered, own, given⟩
  refine ⟨entered, own, ?_⟩
  cases merges : mergedNode? entries with
  | none =>
      simp only [merges] at given
      exact .inl ⟨rfl, given.eq_of_pure.symm⟩
  | some node =>
      simp only [merges] at given
      refine .inr ⟨node, rfl, ?_⟩
      cases taken : entered.taken with
      | some names =>
          simp only [taken] at given
          exact .inl ⟨rfl, given⟩
      | none =>
          simp only [taken] at given
          rcases given.bind with ⟨names, named, given⟩
          rcases given.bind with ⟨merged, merging, given⟩
          exact .inr ⟨rfl, names, merged, named, merging, given.eq_of_pure.symm⟩

theorem merging_zero (setting : Setting) : Merging setting 0 where
  mapping _ given := absurd given not_gives_failure
  node _ given := absurd given not_gives_failure
  items _ given := absurd given (by rw [mergeAll]; exact not_gives_failure)
  one _ given := absurd given (by rw [mergeOne]; exact not_gives_failure)

/-- The keys of a mapping itself, while it is merged into another one. -/
theorem Gives.mergesOwn {isRepeated : Bool} {draft entered : Draft}
    {entries : List (Yaml.Node × Yaml.Node)}
    (given : Gives (enterKeys isRepeated draft [] entries) entered) (setting : Setting) :
    Merged setting (Yaml.Node.ownBindings entries) draft entered := by
  rcases given.entersKeys setting with ⟨sets, takes⟩
  rw [Blocked, List.mem_nil_iff, or_false] at sets
  exact ⟨sets, takes⟩

theorem bindings_mapping (entries : List (Yaml.Node × Yaml.Node)) :
    (Yaml.Node.mapping entries).bindings =
      Yaml.Node.ownBindings entries ++ ((mergedNode? entries).map Yaml.Node.bindings).getD [] := by
  rw [Yaml.Node.bindings, Yaml.Node.mergedBindings_eq]

theorem Merging.succ_mapping {fuel : Nat} (merging : Merging setting fuel) {isRepeated : Bool}
    {draft after : Draft} {entries : List (Yaml.Node × Yaml.Node)}
    (isSome : draft.taken.isSome = true)
    (given : Gives (enterMapping (fuel + 1) isRepeated draft entries) after) :
    Merged setting (Yaml.Node.mapping entries).bindings draft after := by
  rcases given.enterMapping_cases with ⟨entered, own, outcome⟩
  have first := own.mergesOwn setting
  have stillSome : entered.taken.isSome = true := first.takes.isSome.trans isSome
  rw [bindings_mapping]
  rcases outcome with ⟨merges, rfl⟩ | ⟨node, merges, ⟨-, given⟩ | ⟨isNone, -⟩⟩
  · rw [merges, Option.map_none, Option.getD_none, List.append_nil]
    exact first
  · rw [merges, Option.map_some, Option.getD_some]
    exact first.append isSome (merging.node stillSome given)
  · rw [isNone] at stillSome
    cases stillSome

theorem Merging.succ {fuel : Nat} (merging : Merging setting fuel) :
    Merging setting (fuel + 1) where
  mapping := merging.succ_mapping
  node {_ _ _ node} isSome given := by
    cases node with
    | sequence items =>
        rw [Yaml.Node.bindings]
        exact merging.items isSome given
    | _ => exact merging.one isSome given
  items {_ _ _ items} isSome given := by
    cases items with
    | nil =>
        cases given.eq_of_pure
        exact .refl _
    | cons item rest =>
        rcases given.bind with ⟨middle, one, others⟩
        have first := merging.one isSome one
        exact first.append isSome (merging.items (first.takes.isSome.trans isSome) others)
  one {_ _ _ node} isSome given := by
    match node with
    | .mapping entries =>
        rcases given.bind with ⟨_, _, given⟩
        exact merging.mapping isSome given
    | .alias _ (some (.mapping entries)) =>
        rcases given.bind with ⟨_, _, given⟩
        rcases given.bind with ⟨_, _, given⟩
        exact merging.mapping isSome given
    | .scalar .. | .sequence _ | .alias _ none | .alias _ (some (.scalar ..))
    | .alias _ (some (.sequence _)) | .alias _ (some (.alias ..)) =>
        exact absurd given not_gives_failure

theorem merging (setting : Setting) (fuel : Nat) : Merging setting fuel := by
  induction fuel with
  | zero => exact merging_zero setting
  | succ fuel induction => exact induction.succ

/-! ## Documents -/

theorem Gives.eq_keyNames {isRepeated : Bool} {entries : List (Yaml.Node × Yaml.Node)}
    {names : List String} (given : Gives (keyNames isRepeated entries) names) :
    names = entries.filterMap fun entry => entry.1.text? := by
  induction entries generalizing names with
  | nil => exact given.eq_of_pure.symm
  | cons entry rest induction =>
      rcases given.bind with ⟨name, read, given⟩
      rcases given.bind with ⟨others, named, given⟩
      rw [← given.eq_of_pure, induction named, read.eq_text?, List.filterMap_cons]
      cases entry.1.text? <;> rfl

theorem text?_of_isMergeKey {key : Yaml.Node} (merges : Yaml.isMergeKey key = true) :
    key.text? = some "<<" := by
  match key with
  | .scalar tag isPlain text =>
      simp only [Yaml.isMergeKey, Bool.and_eq_true, Bool.or_eq_true, beq_iff_eq] at merges
      rcases merges with ⟨rfl, tagged | ⟨-, untagged⟩⟩
      · have unkind : Yaml.kindOfTag? "!!merge" = none := by decide
        rw [Yaml.Node.text?, Yaml.scalarText?, tagged, if_neg (by decide), if_neg (by decide),
          unkind]
        rfl
      · have ordinary : Yaml.Kind.nullWords.contains "<<" = false := by decide
        rw [Yaml.Node.text?, Yaml.scalarText?, if_pos untagged, ordinary, Bool.and_false]
        rfl

theorem Setting.key_ne_merge (setting : Setting) : setting.key ≠ "<<" := by
  cases setting <;> decide

/-- A key that is no merge key binds its name. -/
theorem mem_keyNames_iff (setting : Setting) (entries : List (Yaml.Node × Yaml.Node)) :
    (setting.key ∈ entries.filterMap fun entry => entry.1.text?) ↔
      ((Yaml.Node.ownBindings entries).lookup setting.key).isSome = true := by
  induction entries with
  | nil => simp [Yaml.Node.ownBindings]
  | cons entry rest induction =>
      rcases entry with ⟨key, value⟩
      rw [Yaml.Node.ownBindings, List.filterMap_cons, List.filterMap_cons,
        ← Yaml.Node.ownBindings]
      cases merges : Yaml.isMergeKey key with
      | true => simp [text?_of_isMergeKey merges, setting.key_ne_merge, induction]
      | false =>
          cases text : key.text? with
          | none => simpa using induction
          | some name =>
              by_cases same : setting.key = name
              · simp [same]
              · simp [lookup_cons_of_ne same, same, induction]

theorem Gives.bindings_eq_nil {isRepeated : Bool} {node : Yaml.Node} {text : Option String}
    (given : Gives (nodeText isRepeated node) text) : node.bindings = [] := by
  induction node using Yaml.Node.text?.induct generalizing isRepeated with
  | case1 => rfl
  | case2 name target induction =>
      rcases given.bind with ⟨_, _, given⟩
      exact induction given
  | case3 node noScalar noAlias =>
      rw [nodeText] at given
      · exact absurd given not_gives_failure
      · exact noScalar
      · exact noAlias

/-- The mapping of a whole document. -/
theorem Gives.sets_mapping {fuel : Nat} {isRepeated : Bool} {profile : Profile} {after : Draft}
    {entries : List (Yaml.Node × Yaml.Node)}
    (given : Gives (enterMapping fuel isRepeated ⟨profile, none⟩ entries) after)
    (setting : Setting) :
    Sets setting (Yaml.Node.mapping entries).bindings False profile after.profile := by
  cases fuel with
  | zero => exact absurd given not_gives_failure
  | succ fuel =>
      rcases given.enterMapping_cases with ⟨entered, own, outcome⟩
      have first := own.mergesOwn setting
      have sets : Sets setting (Yaml.Node.ownBindings entries) False profile entered.profile := by
        simpa using first.sets
      rw [bindings_mapping]
      rcases outcome with ⟨merges, rfl⟩ | ⟨node, merges, ⟨isSome, -⟩ |
        ⟨-, names, merged, named, others, rfl⟩⟩
      · rw [merges, Option.map_none, Option.getD_none, List.append_nil]
        exact sets
      · have isNone := first.takes.isSome
        rw [isSome] at isNone
        cases isNone
      · rw [merges, Option.map_some, Option.getD_some]
        have blocks : setting.key ∈ names ↔
            False ∨ ((Yaml.Node.ownBindings entries).lookup setting.key).isSome = true := by
          rw [named.eq_keyNames, mem_keyNames_iff, false_or]
        exact sets.append blocks ((merging setting fuel).node rfl others).sets

/-- A document gives every setting the value that it has for its key, and leaves it at its
standard where that value is missing or null. -/
theorem Gives.get_ofNode {fuel : Nat} {node : Yaml.Node} {profile : Profile}
    (given : Gives (ofNode fuel node) profile) (setting : Setting) :
    profile.get setting = (node.value? setting.key).getD (standard.get setting) := by
  rcases given.bind with ⟨_, _, given⟩
  rw [Yaml.Node.value?]
  split at given
  next entries =>
    rcases given.bind with ⟨_, _, given⟩
    rcases given.bind with ⟨after, entered, given⟩
    rw [← given.eq_of_pure]
    exact (entered.sets_mapping setting).bound not_false
  next =>
    rcases given.bind with ⟨text, read, given⟩
    rw [read.bindings_eq_nil]
    cases text with
    | none =>
        rw [← given.eq_of_pure]
        rfl
    | some text => exact absurd given not_gives_failure

end Profile

end MipsGloss
