import MipsGloss.Proofs.Profile.Document
import MipsGloss.Proofs.Service

namespace MipsGloss

/-! Where the settings of a command come from. A flag counts more than its variable, both
count more than the profile file, and the file counts more than the standard. The file has
to be valid without the flags and with them. -/

namespace Profile

/-! ## Valid profiles -/

/-- The settings that have to be names of something are. -/
structure Valid (profile : Profile) : Prop where
  mode : profile.mode ∈ ["hex", "asm"]
  format : profile.format ∈ ["text", "json"]
  logLevel : Text.lower profile.logLevel ∈
    ["panic", "fatal", "error", "warn", "warning", "info", "debug", "trace"]

theorem isSome_mode_iff {text : String} :
    (Mode.ofName? text).isSome = true ↔ text ∈ ["hex", "asm"] := by
  rw [Mode.ofName?, List.find?_isSome]
  simp [Mode.name, @eq_comm _ _ text]

theorem isSome_rendering_iff {text : String} :
    (Rendering.ofName? text).isSome = true ↔ text ∈ ["text", "json"] := by
  rw [Rendering.ofName?, List.find?_isSome]
  simp [Rendering.name, @eq_comm _ _ text]

theorem fault?_eq_none_iff {profile : Profile} : profile.fault? = none ↔ profile.Valid := by
  have valid : profile.Valid ↔ (Mode.ofName? profile.mode).isSome = true ∧
      (Rendering.ofName? profile.format).isSome = true ∧ isLogLevel profile.logLevel = true := by
    rw [isSome_mode_iff, isSome_rendering_iff, isLogLevel, logLevels, List.contains_iff_mem]
    exact ⟨fun ⟨mode, format, logLevel⟩ => ⟨mode, format, logLevel⟩,
      fun ⟨mode, format, logLevel⟩ => ⟨mode, format, logLevel⟩⟩
  rw [valid, fault?]
  split_ifs with mode format <;> simp_all [Option.isSome_iff_ne_none]

theorem validate_eq_ok_iff {profile checked : Profile} :
    profile.validate = .ok checked ↔ checked = profile ∧ profile.Valid := by
  rw [← fault?_eq_none_iff, validate]
  cases profile.fault? <;> simp [eq_comm]

/-! ## Values over values -/

/-- A profile with other values for some of its settings. -/
def overridden (values : Setting → Option String) (profile : Profile) : Profile where
  mode := (values .mode).getD profile.mode
  format := (values .format).getD profile.format
  registerMark := (values .registerMark).getD profile.registerMark
  listen := (values .listen).getD profile.listen
  logLevel := (values .logLevel).getD profile.logLevel

theorem eq_overridden_iff {values : Setting → Option String} {profile base : Profile} :
    profile = base.overridden values ↔
      ∀ setting, profile.get setting = (values setting).getD (base.get setting) := by
  constructor
  · rintro rfl setting
    cases setting <;> rfl
  · intro equal
    rcases profile with ⟨mode, format, registerMark, listen, logLevel⟩
    rw [overridden, mk.injEq]
    exact ⟨equal .mode, equal .format, equal .registerMark, equal .listen, equal .logLevel⟩

/-- Replacing settings one after the other, each at most once. -/
theorem replace_eq_overridden {rows : List (Setting × String)} (value? : String → Option String)
    (distinct : (rows.map Prod.fst).Nodup) (profile : Profile) :
    profile.replace (rows.filterMap fun row => (value? row.2).map fun value => (row.1, value)) =
      profile.overridden fun setting => (rows.lookup setting).bind value? := by
  rw [eq_overridden_iff]
  intro setting
  induction rows generalizing profile with
  | nil => rfl
  | cons row rest induction =>
      rcases row with ⟨first, name⟩
      rw [List.map_cons, List.nodup_cons] at distinct
      have step : profile.replace (((first, name) :: rest).filterMap fun row =>
          (value? row.2).map fun value => (row.1, value)) =
          (((value? name).map (profile.set first)).getD profile).replace (rest.filterMap fun row =>
            (value? row.2).map fun value => (row.1, value)) := by
        cases value : value? name <;> simp [replace, value]
      rw [step, induction distinct.2]
      by_cases same : setting = first
      · subst same
        rw [lookup_eq_none_of_not_mem distinct.1, List.lookup_cons_self]
        cases value : value? name <;> simp [value, get_set]
      · rw [lookup_cons_of_ne same]
        cases value? name <;> simp [get_set, same]

/-- The flag that can replace a setting. -/
def Setting.flag? : Setting → Option Flag
  | .mode => some Command.modeFlag
  | .format => some Command.formatFlag
  | .listen => some Command.listenFlag
  | .logLevel => some Command.logLevelFlag
  | .registerMark => none

/-! ## Files -/

/-- The profile in the content of a file, be it valid or not. -/
def decode? (content : String) : Option Profile :=
  (Yaml.read content).bind fun node => (ofNode (8 * content.length + 8) node).run' ⟨0, 0⟩

theorem ofText_eq_ok_iff {path content : String} {profile : Profile} :
    ofText path content = .ok profile ↔ decode? content = some profile ∧ profile.Valid := by
  unfold ofText decode?
  -- What the content decodes to does not matter here, and is not to be computed.
  generalize ((Yaml.read content).bind fun node =>
    (ofNode (8 * content.length + 8) node).run' ⟨0, 0⟩) = decoded
  cases decoded with
  | none => simp
  | some found =>
      rw [Option.some.injEq]
      cases fault : found.fault? with
      | none =>
          have valid := fault?_eq_none_iff.mp fault
          simp only [fault, Except.ok.injEq]
          exact ⟨fun same => ⟨same, same ▸ valid⟩, And.left⟩
      | some error =>
          simp only [fault, reduceCtorEq, false_iff]
          rintro ⟨rfl, valid⟩
          rw [fault?_eq_none_iff.mpr valid] at fault
          cases fault

/-- The values of a document replace those of the standard profile. -/
theorem exists_node_of_decode? {content : String} {profile : Profile}
    (decoded : decode? content = some profile) :
    ∃ node, Yaml.read content = some node ∧
      profile = standard.overridden fun setting => node.value? setting.key := by
  rcases Option.bind_eq_some_iff.mp decoded with ⟨node, read, entered⟩
  rcases Option.map_eq_some_iff.mp entered with ⟨⟨found, after⟩, success, rfl⟩
  exact ⟨node, read, eq_overridden_iff.mpr (Gives.get_ofNode ⟨_, _, success⟩)⟩

end Profile

namespace Command

/-- The profile that flags are applied to. Without a file it is the standard one. A file
has to open and to be decoded; the values of its document replace those of the standard,
and have to be valid by themselves. -/
inductive Base (disk : Disk) : String → Profile → Prop
  | standard : Base disk "" Profile.standard
  | file {path content : String} {node : Yaml.Node} {profile : Profile} (named : path ≠ "")
      (opened : disk.read path = .ok content) (read : Yaml.read content = some node)
      (decoded : Profile.decode? content = some profile)
      (values : profile = Profile.standard.overridden fun setting => node.value? setting.key)
      (valid : profile.Valid) : Base disk path profile

theorem loadProfile_eq_ok_iff {disk : Disk} {path : String} {profile : Profile} :
    loadProfile disk path = .ok profile ↔ Base disk path profile := by
  constructor
  · intro loaded
    rw [loadProfile] at loaded
    split at loaded
    next empty =>
      cases loaded
      exact empty ▸ .standard
    next named =>
      split at loaded
      · cases loaded
      · cases loaded
      next content opened =>
        split at loaded
        · cases loaded
        next decoded =>
          cases loaded
          rcases Profile.ofText_eq_ok_iff.mp decoded with ⟨decoded, valid⟩
          rcases Profile.exists_node_of_decode? decoded with ⟨node, read, values⟩
          exact .file named opened read decoded values valid
  · intro base
    cases base with
    | standard => rfl
    | file named opened _ decoded _ valid =>
        rw [loadProfile, if_neg named, opened]
        simp only [Profile.ofText_eq_ok_iff.mpr ⟨decoded, valid⟩]

/-! ## Flags -/

/-- The value that a flag has for a command: the last one that is given, or else that of
its variable. A flag that the command does not declare has none. -/
def flagValue? (command : Command) (given environment : List (String × String)) (flag : Flag) :
    Option String :=
  if flag ∈ command.flags then
    (given.lookup flag.name).or (flag.environmentName.bind fun name => environment.lookup name)
  else none

theorem nodup_names_flags (command : Command) : (command.flags.map Flag.name).Nodup := by
  cases command <;> decide

/-- The flags that say something about the profile. -/
def profileFlags : List Flag := [profileFlag, modeFlag, formatFlag, logLevelFlag, listenFlag]

theorem find?_name_flags (command : Command) :
    ∀ flag ∈ profileFlags, command.flags.find? (fun other => other.name == flag.name) =
      if flag ∈ command.flags then some flag else none := by
  cases command <;> decide

end Command

theorem Flag.chosenValue?_eq {flag : Flag} (plain : flag.isSwitch = false)
    (single : flag.shortName = none) (given environment : List (String × String)) :
    flag.chosenValue? given environment = (given.lookup flag.name).or
      (flag.environmentName.bind fun name => environment.lookup name) := by
  have inherited : flag.environmentValue? environment =
      flag.environmentName.bind fun name => environment.lookup name := by
    rw [environmentValue?, plain]
    cases flag.environmentName.bind fun name => environment.lookup name <;> rfl
  simp [chosenValue?, names, single, inherited]

theorem Invocation.value?_of_read {flags : List Flag} {environment given : List (String × String)}
    {arguments rest : List String} {invocation : Invocation}
    (read : Invocation.read flags environment arguments = .ok invocation)
    (taken : Flag.readArguments flags [] arguments = .ok (given, rest))
    (distinct : (flags.map Flag.name).Nodup) (name : String) :
    invocation.value? name = (flags.find? fun flag => flag.name == name).bind fun flag =>
      flag.chosenValue? given environment := by
  rw [Invocation.read, taken] at read
  split at read
  · cases read
  · dsimp only at read
    split at read
    · cases read
    · cases read
      exact lookup_filterMap Flag.name _ distinct name

namespace Command

variable {disk : Disk} {environment given : List (String × String)} {command : Command}
  {arguments rest : List String} {invocation : Invocation}

theorem value?_eq_flagValue?
    (read : Invocation.read command.flags environment arguments = .ok invocation)
    (taken : Flag.readArguments command.flags [] arguments = .ok (given, rest)) :
    ∀ flag ∈ profileFlags,
      invocation.value? flag.name = command.flagValue? given environment flag := by
  intro flag member
  have plain : ∀ flag ∈ profileFlags, flag.isSwitch = false ∧ flag.shortName = none := by decide
  rw [Invocation.value?_of_read read taken command.nodup_names_flags,
    command.find?_name_flags flag member, flagValue?]
  split_ifs
  · exact Flag.chosenValue?_eq (plain flag member).1 (plain flag member).2 given environment
  · rfl

/-! ## Orders -/

theorem lookup_overrides (setting : Profile.Setting) :
    overrides.lookup setting = setting.flag?.map Flag.name := by
  cases setting <;> rfl

variable {order : List (Profile.Setting × String)}

theorem replace_eq_of_perm (permuted : order.Perm overrides) (profile : Profile)
    (invocation : Invocation) :
    profile.replace (changes order invocation) =
      profile.overridden fun setting =>
        setting.flag?.bind fun flag => invocation.value? flag.name := by
  have distinct : (order.map Prod.fst).Nodup :=
    (permuted.map Prod.fst).nodup_iff.mpr (by decide)
  have values : (fun setting => (order.lookup setting).bind invocation.value?) =
      fun setting => setting.flag?.bind fun flag => invocation.value? flag.name := by
    funext setting
    rw [lookup_eq_of_perm permuted distinct, lookup_overrides, Option.bind_map]
    rfl
  rw [← values]
  exact Profile.replace_eq_overridden invocation.value? distinct profile

/-- The order in which flags are applied does not matter. -/
theorem profileIn_eq_profile (permuted : order.Perm overrides) (disk : Disk)
    (invocation : Invocation) :
    profileIn order disk invocation = Command.profile disk invocation := by
  simp only [Command.profile, profileIn, replace_eq_of_perm permuted,
    replace_eq_of_perm (.refl overrides)]

theorem profileIn_eq_ok_iff (permuted : order.Perm overrides) {profile : Profile} :
    profileIn order disk invocation = .ok profile ↔
      ∃ base, Base disk (invocation.text "profile") base ∧ profile.Valid ∧
        profile = base.overridden fun setting =>
          setting.flag?.bind fun flag => invocation.value? flag.name := by
  simp only [← loadProfile_eq_ok_iff, profileIn, replace_eq_of_perm permuted]
  cases loadProfile disk (invocation.text "profile") with
  | error error => simp
  | ok base =>
      simp only [Except.ok.injEq, exists_eq_left']
      cases validated : (base.overridden fun setting =>
          setting.flag?.bind fun flag => invocation.value? flag.name).validate with
      | error error =>
          simp only [reduceCtorEq, false_iff]
          rintro ⟨valid, rfl⟩
          rw [Profile.validate_eq_ok_iff.mpr ⟨rfl, valid⟩] at validated
          cases validated
      | ok checked =>
          rcases Profile.validate_eq_ok_iff.mp validated with ⟨rfl, valid⟩
          simp only [Except.ok.injEq]
          exact ⟨fun same => ⟨same ▸ valid, same.symm⟩, fun found => found.2.symm⟩

end Command

/-! ## What valid profiles are good for -/

theorem Text.head?_append {front : String} {first : Char}
    (starts : front.toList.head? = some first) (back : String) :
    (front ++ back).toList.head? = some first := by
  rw [String.toList_append, List.head?_append, starts, Option.some_or]

theorem ExplainError.message_ne_invalidMode (error : ExplainError) :
    error.message ≠ "invalid mode: " := by
  have first : error.message.toList.head? = some 'f' := by
    match error with
    | .word (.spelling _) | .word (.encoding _) | .operand _ =>
        exact Text.head?_append (by decide) _
  intro same
  rw [same] at first
  exact absurd first (by decide)

/-- A request without a mode is not refused for the mode that it gets. -/
theorem Service.answer_ne_invalidMode {profile : Profile} (valid : profile.Valid)
    (lexicon : Lexicon) {request : Request} {query : Query}
    (asked : Query.ofRequest? request = some query) (unnamed : query.mode = "") :
    (Service.mk profile.mode lexicon).answer request ≠ .error "invalid mode: " := by
  rcases Option.isSome_iff_exists.mp (Profile.isSome_mode_iff.mpr valid.mode) with ⟨mode, named⟩
  rw [answer, asked]
  dsimp only
  rw [explain, modeName, if_pos unnamed, named]
  dsimp only
  cases Report.explain lexicon mode query.text with
  | ok report =>
      intro same
      cases congrArg Reply.status same
  | error error => simpa [Reply.error] using error.message_ne_invalidMode

namespace Command

variable {environment given : List (String × String)} {command : Command}
  {arguments rest : List String} {invocation : Invocation}
  {order : List (Profile.Setting × String)}

/-- Whatever order the flags are applied in, the profile of a command can be had exactly if
that of its file can and is valid, and is valid still with the flags. Every setting has
the value of its flag, or else that of the file, or else that of the standard. So the
reports of the command can always be rendered, and a service never refuses its own mode. -/
theorem profileIn_precedence
    (read : Invocation.read command.flags environment arguments = .ok invocation)
    (taken : Flag.readArguments command.flags [] arguments = .ok (given, rest))
    (permuted : order.Perm overrides) (disk : Disk) (profile : Profile) :
    profileIn order disk invocation = Command.profile disk invocation ∧
    (profileIn order disk invocation = .ok profile ↔
      ∃ base, Base disk ((command.flagValue? given environment profileFlag).getD "") base ∧
        profile.Valid ∧
        profile = base.overridden fun setting =>
          setting.flag?.bind (command.flagValue? given environment)) ∧
    (profileIn order disk invocation = .ok profile →
      (∃ rendering, Rendering.ofName? profile.format = some rendering) ∧
      ∀ (lexicon : Lexicon) (request : Request) (query : Query),
        Query.ofRequest? request = some query → query.mode = "" →
          (Service.mk profile.mode lexicon).answer request ≠ .error "invalid mode: ") := by
  have values := value?_eq_flagValue? read taken
  have path : invocation.text "profile" =
      (command.flagValue? given environment profileFlag).getD "" := by
    rw [Invocation.text, ← values profileFlag (by decide)]
    rfl
  have replaced : (fun setting : Profile.Setting =>
      setting.flag?.bind fun flag => invocation.value? flag.name) =
      fun setting => setting.flag?.bind (command.flagValue? given environment) := by
    funext setting
    cases setting with
    | registerMark => rfl
    | _ => exact values _ (by decide)
  have outcome : profileIn order disk invocation = .ok profile ↔ _ := profileIn_eq_ok_iff permuted
  refine ⟨profileIn_eq_profile permuted disk invocation, ?_, ?_⟩
  · rw [outcome, path, replaced]
  · intro success
    rcases outcome.mp success with ⟨_, _, valid, _⟩
    constructor
    · exact Option.isSome_iff_exists.mp (Profile.isSome_rendering_iff.mpr valid.format)
    · intro lexicon request query asked unnamed
      exact Service.answer_ne_invalidMode valid lexicon asked unnamed

/-! A profile file whose address is null. The command has no flag for an address, though a
variable for one is set; its format is given, and its log level is inherited. -/

def sampleDisk : Disk :=
  ⟨["", "work"], [(["", "work", "p"],
    "mode: asm\nformat: json\nlisten: ~\nregister_prefix: '%'\n")], []⟩

def sampleVariables : List (String × String) :=
  [("MIPS_EXPLAIN_LOG_LEVEL", "Debug"), ("MIPS_EXPLAIN_LISTEN", "")]

def sampleArguments : List String := ["--profile", "p", "--format=text", "x"]

def sampleInvocation : Invocation :=
  ⟨[("profile", "p"), ("format", "text"), ("log-level", "Debug")], ["x"]⟩

theorem profileIn_precedence_sample :
    Invocation.read explain.flags sampleVariables sampleArguments = .ok sampleInvocation ∧
      Flag.readArguments explain.flags [] sampleArguments =
        .ok ([("format", "text"), ("profile", "p")], ["x"]) ∧
      profileIn overrides.reverse sampleDisk sampleInvocation =
        .ok ⟨"asm", "text", "%", ":1357", "Debug"⟩ ∧
      ∃ base, Base sampleDisk "p" base ∧
        (⟨"asm", "text", "%", ":1357", "Debug"⟩ : Profile) = base.overridden fun setting =>
          setting.flag?.bind
            (explain.flagValue? [("format", "text"), ("profile", "p")] sampleVariables) := by
  have read : Invocation.read explain.flags sampleVariables sampleArguments =
      .ok sampleInvocation := by decide +kernel
  have taken : Flag.readArguments explain.flags [] sampleArguments =
      .ok ([("format", "text"), ("profile", "p")], ["x"]) := by decide +kernel
  have loaded : profileIn overrides.reverse sampleDisk sampleInvocation =
      .ok ⟨"asm", "text", "%", ":1357", "Debug"⟩ := by decide +kernel
  rcases (profileIn_precedence read taken overrides.reverse_perm sampleDisk _).2.1.mp loaded with
    ⟨base, based, _, values⟩
  exact ⟨read, taken, loaded, base, based, values⟩

end Command

end MipsGloss
