import MipsGloss.Command.Run
import MipsGloss.Proofs.Json.Reader
import MipsGloss.Proofs.Text
import MipsGloss.Service

namespace MipsGloss

/-! The service and the command line agree about a text. A request for an explanation gets
the report or the error that the command for it ends with. -/

/-! ## Queries in a body

The members of an object that have the name of a text or of a mode, in any letter case,
are null or strings, and the last string counts. -/

namespace Json.Value

def text? : Value → Option String
  | .string text => some text
  | _ => none

/-- Whether a value can stand for a text, be it a missing one. -/
def isText : Value → Bool
  | .string _ | .null => true
  | _ => false

end Json.Value

namespace Query

/-- The text that a member gives to a name. -/
def given? (name : String) (member : String × Json.Value) : Option String :=
  if sameName member.1 name then member.2.text? else none

/-- The last of the texts that members give to a name. -/
def lastGiven (name : String) (members : List (String × Json.Value)) : String :=
  (members.filterMap (given? name)).getLastD ""

/-- Whether a member is none of those that a query is made of, or has a text. -/
def isSound (member : String × Json.Value) : Bool :=
  !(sameName member.1 "text" || sameName member.1 "mode") || member.2.isText

/-- A query that is written in a body. -/
inductive InBody : Query → String → Prop
  | empty : InBody blank ""
  | null {body : String} (spelled : Json.SpellsSpaced .null body.toList) : InBody blank body
  | object {members : List (String × Json.Value)} {body : String}
      (spelled : Json.SpellsSpaced (.object members) body.toList)
      (shallow : (Json.Value.object members).depth ≤ Json.depthLimit)
      (sound : ∀ member ∈ members, isSound member = true) :
      InBody ⟨lastGiven "text" members, lastGiven "mode" members⟩ body

theorem sameName_mode_of_text {name : String} (isText : sameName name "text" = true) :
    sameName name "mode" = false := by
  apply Bool.eq_false_iff.mpr
  intro isMode
  rw [sameName, beq_iff_eq] at isText isMode
  have apart : "text".toList.map Char.toLower ≠ "mode".toList.map Char.toLower := by decide
  exact apart (isText.symm.trans isMode)

theorem enter?_of_isSound {member : String × Json.Value} (sound : isSound member = true)
    (query : Query) :
    enter? query member =
      some ⟨(given? "text" member).getD query.text, (given? "mode" member).getD query.mode⟩ := by
  rcases member with ⟨name, value⟩
  cases value with
  | null => simp [enter?, given?, Json.Value.text?]
  | string text =>
      cases isText : sameName name "text" with
      | true =>
          have noMode := sameName_mode_of_text isText
          simp [enter?, given?, isText, noMode, Json.Value.text?]
      | false => cases isMode : sameName name "mode" <;>
          simp [enter?, given?, isText, isMode, Json.Value.text?]
  | _ =>
      have other : sameName name "text" = false ∧ sameName name "mode" = false := by
        simpa [isSound, Json.Value.isText] using sound
      simp [enter?, given?, other]

theorem getLastD_filterMap_cons {α : Type} (f : α → Option String) (first : α) (rest : List α)
    (start : String) :
    ((first :: rest).filterMap f).getLastD start =
      (rest.filterMap f).getLastD ((f first).getD start) := by
  cases found : f first with
  | none => rw [List.filterMap_cons_none found, Option.getD_none]
  | some text => rw [List.filterMap_cons_some found, List.getLastD_cons, Option.getD_some]

/-- Entering members one after the other keeps the last text for each name. -/
theorem foldlM_enter? {members : List (String × Json.Value)}
    (sound : ∀ member ∈ members, isSound member = true) (query : Query) :
    members.foldlM enter? query =
      some ⟨(members.filterMap (given? "text")).getLastD query.text,
        (members.filterMap (given? "mode")).getLastD query.mode⟩ := by
  induction members generalizing query with
  | nil => rfl
  | cons member members induction =>
      rw [List.foldlM_cons, enter?_of_isSound (sound member List.mem_cons_self),
        getLastD_filterMap_cons, getLastD_filterMap_cons]
      exact induction (fun member later => sound member (List.mem_cons_of_mem _ later)) _

/-- A body for a query, as it is written. -/
def written (query : Query) : String :=
  (Json.Value.object [("text", .string query.text), ("mode", .string query.mode)]).line

theorem inBody_written (query : Query) : InBody query query.written := by
  have listed : Json.Listed Json.SpellsMember
      [("text", .string query.text), ("mode", .string query.mode)]
      ((Json.quoted "text" ++ ':' :: Json.quoted query.text) ++
        ',' :: (Json.quoted "mode" ++ ':' :: Json.quoted query.mode)) :=
    .more (Json.spellsMember_quoted "text" query.text)
      (.last (Json.spellsMember_quoted "mode" query.mode))
  have empty : Json.Space [] := nofun
  have newline : Json.Space ['\n'] := by simp [Json.Space, Json.isSpace]
  have spelled : Json.SpellsSpaced
      (.object [("text", .string query.text), ("mode", .string query.mode)])
      query.written.toList := by
    have spaced := Json.SpellsSpaced.spaced empty (.object listed) newline
    rw [List.nil_append] at spaced
    simpa [written, Json.Value.line, Json.Value.characters,
      Json.Value.memberCharacters] using spaced
  have sound : ∀ member ∈ [("text", .string query.text), ("mode", .string query.mode)],
      isSound member = true := by simp [isSound, Json.Value.isText]
  have shallow : (Json.Value.object
      [("text", .string query.text), ("mode", .string query.mode)]).depth ≤ Json.depthLimit := by
    simp [Json.Value.depth, Json.Value.membersDepth, Json.depthLimit]
  have held := InBody.object spelled shallow sound
  have names : sameName "text" "text" = true ∧ sameName "mode" "text" = false ∧
      sameName "text" "mode" = false ∧ sameName "mode" "mode" = true := by decide
  simpa [lastGiven, given?, names, Json.Value.text?] using held

end Query

namespace Request

/-- A request for the explanation of what a query names, in JSON. -/
structure Asks (request : Request) (query : Query) : Prop where
  method : request.method = "POST"
  path : request.path = "/explain"
  contentType : "application/json".toList <+: request.contentType.toList
  body : Query.InBody query request.body

/-- The value in a body is what the query is read out of. -/
theorem ofRequest?_of_spells {request : Request} {value : Json.Value}
    (contentType : "application/json".toList <+: request.contentType.toList)
    (spelled : Json.SpellsSpaced value request.body.toList)
    (shallow : value.depth ≤ Json.depthLimit) :
    Query.ofRequest? request = Query.ofJson? value := by
  have json : Query.bodyFormat? request.contentType = some .json := by
    rw [Query.bodyFormat?, Query.bodyFormats, List.find?_cons_of_pos]
    · rfl
    · exact List.isPrefixOf_iff_prefix.mpr contentType
  rcases Json.exists_readAny spelled with ⟨rest, found⟩
  have read := Json.read_of_readAny found shallow
  have filled : request.body ≠ "" := by
    intro empty
    rw [empty] at read
    cases read
  rw [Query.ofRequest?, if_neg filled, json]
  simp only [read, Option.bind_some]

theorem Asks.ofRequest? {request : Request} {query : Query} (asks : request.Asks query) :
    Query.ofRequest? request = some query := by
  rcases asks with ⟨_, _, contentType, body⟩
  generalize written : request.body = body at body
  cases body with
  | empty => rw [Query.ofRequest?, if_pos written]
  | null spelled =>
      rw [ofRequest?_of_spells contentType (written ▸ spelled) (Nat.zero_le _)]
      rfl
  | object spelled shallow sound =>
      rw [ofRequest?_of_spells contentType (written ▸ spelled) shallow]
      exact Query.foldlM_enter? sound Query.blank

def ofQuery (query : Query) : Request :=
  ⟨"POST", "/explain", "application/json", query.written⟩

theorem asks_ofQuery (query : Query) : (ofQuery query).Asks query :=
  ⟨rfl, rfl, List.prefix_rfl, query.inBody_written⟩

end Request

/-! ## Answers of the service -/

theorem Mode.ofName?_name (mode : Mode) : ofName? mode.name = some mode := by
  cases mode <;> rfl

theorem Mode.name_ne_empty (mode : Mode) : mode.name ≠ "" := by
  cases mode <;> decide

theorem Mode.eq_name_of_ofName? {text : String} {mode : Mode} (found : ofName? text = some mode) :
    text = mode.name := by
  have same := List.find?_some found
  rw [beq_iff_eq] at same
  exact same.symm

namespace Service

variable {service : Service} {request : Request}

/-- A request for an explanation gets what its query is answered, on one line. -/
theorem handle_of_asks {query : Query} (asks : request.Asks query) :
    service.handle request = (service.explain query).response false := by
  have route : request.route = "/explain" := by
    rw [Request.route, asks.path]
    decide
  have verb : request.verb = "POST" := by
    rw [Request.verb, asks.method]
    rfl
  have compact : request.parameters.has "pretty" = false := by
    rw [Request.parameters, asks.path]
    decide
  have reply : service.reply request = service.explain query := by
    have method : methodOf? "/explain" = some "POST" := by decide
    have noHealth : "/explain" ≠ "/healthz" := by decide
    have noRegisters : "/explain" ≠ "/registers" := by decide
    unfold Service.reply
    rw [route, method]
    dsimp only
    rw [if_pos verb, if_neg noHealth, if_neg noRegisters, answer, asks.ofRequest?]
  rw [handle, reply, compact]

/-- A query without a mode is answered as one with the default mode. -/
theorem explain_default {mode : Mode} (default : service.defaultMode = mode.name)
    (text : String) : service.explain ⟨text, ""⟩ = service.explain ⟨text, mode.name⟩ := by
  simp only [explain, modeName, if_pos, default, if_neg mode.name_ne_empty, mode.ofName?_name]

theorem explain_mode_of_ok {mode : Mode} {text : String} {report : Report}
    (explained : Report.explain service.lexicon mode text = .ok report) :
    service.explain ⟨text, mode.name⟩ = ⟨200, some report.json⟩ := by
  simp only [explain, modeName, if_neg mode.name_ne_empty, mode.ofName?_name, explained]

theorem explain_mode_of_error {mode : Mode} {text : String} {error : ExplainError}
    (failed : Report.explain service.lexicon mode text = .error error) :
    service.explain ⟨text, mode.name⟩ = .error error.message := by
  simp only [explain, modeName, if_neg mode.name_ne_empty, mode.ofName?_name, failed]

end Service

/-! ## Outcomes of the command -/

theorem Profile.exists_mode_of_validate {profile checked : Profile}
    (valid : profile.validate = .ok checked) : ∃ mode : Mode, checked.mode = mode.name := by
  cases found : Mode.ofName? profile.mode with
  | none => simp [validate, fault?, found] at valid
  | some mode =>
      rw [validate] at valid
      split at valid
      · cases valid
      · cases valid
        exact ⟨mode, Mode.eq_name_of_ofName? found⟩

namespace Command

/-- An invocation for the explanation of one text in a mode, as JSON on standard
output. -/
structure Explains (disk : Disk) (invocation : Invocation) (mode : Mode) (text : String) :
    Prop where
  profiled : ∃ profile, Command.profile disk invocation = .ok profile ∧
    profile.mode = mode.name ∧ profile.format = Rendering.json.name
  arguments : invocation.arguments = [text]
  output : invocation.text "report-output-path" = ""

variable {disk : Disk} {environment : List (String × String)} {invocation : Invocation}
  {mode : Mode} {text : String}

/-- The profile of a command names a mode. -/
theorem exists_mode_of_profile {profile : Profile}
    (loaded : Command.profile disk invocation = .ok profile) :
    ∃ mode : Mode, profile.mode = mode.name := by
  rw [Command.profile, profileIn] at loaded
  split at loaded
  · cases loaded
  next file _ =>
  split at loaded
  · cases loaded
  next checked valid =>
  cases loaded
  exact Profile.exists_mode_of_validate valid

theorem writeReports_json {profile : Profile} (format : profile.format = Rendering.json.name)
    (reports : List Report) :
    writeReports .standard disk profile "" reports =
      .success disk (Report.listJson reports).line := by
  have filled : (Report.listJson reports).line ≠ "" := by
    simp [Json.Value.line]
  have named : Rendering.ofName? Rendering.json.name = some .json := by decide
  simp only [writeReports, format, named, Option.getD_some, Rendering.render, if_neg filled,
    if_pos]
  rfl

theorem perform_explain_of_ok (explains : Explains disk invocation mode text)
    (filled : Text.trim text ≠ "") {report : Report}
    (explained : Report.explain Lexicon.standard mode text = .ok report) :
    perform .standard disk environment .explain invocation =
      .success disk (Report.listJson [report]).line := by
  rcases explains with ⟨⟨profile, loaded, named, format⟩, arguments, output⟩
  simp only [perform, loaded, runExplain, arguments, String.intercalate_singleton,
    if_neg filled, named, mode.ofName?_name, Option.getD_some, explained, output,
    writeReports_json format]

theorem perform_explain_of_error (explains : Explains disk invocation mode text)
    (filled : Text.trim text ≠ "") {error : ExplainError}
    (failed : Report.explain Lexicon.standard mode text = .error error) :
    perform .standard disk environment .explain invocation =
      .failure disk (.explain text error) := by
  rcases explains with ⟨⟨profile, loaded, named, format⟩, arguments, output⟩
  simp only [perform, loaded, runExplain, arguments, String.intercalate_singleton,
    if_neg filled, named, mode.ofName?_name, Option.getD_some, failed]

end Command

/-! ## Agreement -/

theorem Json.Value.line_eq (value : Json.Value) :
    value.line = String.ofList value.characters ++ "\n" := by
  rw [line, String.ofList_append]

/-- The list of one report is the report between brackets. -/
theorem Report.line_listJson (report : Report) :
    (listJson [report]).line = "[" ++ String.ofList report.json.characters ++ "]\n" := by
  have characters : (listJson [report]).characters ++ ['\n'] =
      ['['] ++ report.json.characters ++ [']', '\n'] := by
    simp [listJson, Json.Value.characters, Json.Value.itemCharacters]
  rw [Json.Value.line, characters, String.ofList_append, String.ofList_append]

/-- A response and an outcome that tell the same about a text. -/
inductive Agree (text : String) (response : Response) (outcome : Outcome) : Prop
  | report (written : String) (status : response.status = 200)
      (body : response.body = written ++ "\n") (result : outcome.result = .ok ())
      (output : outcome.output = "[" ++ written ++ "]\n")
  | error (reason : String) (fault : CommandError) (status : response.status = 400)
      (body : response.body = (Json.Value.object [("error", .string reason)]).line)
      (result : outcome.result = .error fault)
      (message : fault.message = "unable to explain " ++ Text.quote text ++ ": " ++ reason)

namespace Service

variable {service : Service}

theorem agree_perform (standard : service.lexicon = Lexicon.standard) {mode : Mode}
    {text : String} {request : Request} {disk : Disk} {environment : List (String × String)}
    {invocation : Invocation}
    (inked : ∃ character ∈ text.toList, Text.isBlank character = false)
    (asks : request.Asks ⟨text, mode.name⟩)
    (explains : Command.Explains disk invocation mode text) :
    Agree text (service.handle request)
      (Command.perform .standard disk environment .explain invocation) := by
  have filled : Text.trim text ≠ "" := by
    rw [Ne, Text.trim_eq_empty_iff]
    rcases inked with ⟨character, member, ink⟩
    intro blank
    rw [blank character member] at ink
    cases ink
  rw [handle_of_asks asks]
  cases explained : Report.explain Lexicon.standard mode text with
  | ok report =>
      rw [explain_mode_of_ok (standard ▸ explained),
        Command.perform_explain_of_ok explains filled explained]
      exact .report _ rfl (Json.Value.line_eq _) rfl report.line_listJson
  | error error =>
      rw [explain_mode_of_error (standard ▸ explained),
        Command.perform_explain_of_error explains filled explained]
      exact .error error.message (.explain text error) rfl rfl rfl rfl

/-- The service and the command agree about every text that is not blank, in both modes,
and a request without a mode is answered as one that names the default mode. -/
theorem handle_agrees (standard : service.lexicon = Lexicon.standard) :
    (∀ (mode : Mode) (text : String) (request : Request) (disk : Disk)
      (environment : List (String × String)) (invocation : Invocation),
      (∃ character ∈ text.toList, Text.isBlank character = false) →
      request.Asks ⟨text, mode.name⟩ → Command.Explains disk invocation mode text →
      Agree text (service.handle request)
        (Command.perform .standard disk environment .explain invocation)) ∧
    (∀ (mode : Mode) (text : String) (request named : Request),
      service.defaultMode = mode.name → request.Asks ⟨text, ""⟩ →
      named.Asks ⟨text, mode.name⟩ → service.handle request = service.handle named) ∧
    ∀ (disk : Disk) (invocation : Invocation) (profile : Profile),
      Command.profile disk invocation = .ok profile → ∃ mode : Mode, profile.mode = mode.name := by
  refine ⟨?_, ?_, ?_⟩
  · intro mode text request disk environment invocation inked asks explains
    exact agree_perform standard inked asks explains
  · intro mode text request named default asks asksMode
    rw [handle_of_asks asks, handle_of_asks asksMode, explain_default default]
  · intro disk invocation profile loaded
    exact Command.exists_mode_of_profile loaded

/-- A line that cannot do without escapes, for a service whose own mode is the other
one, and a word that is asked for without a mode. -/
theorem handle_agrees_escaped :
    Agree "LW \"&\", <"
      (handle ⟨"hex", Lexicon.standard⟩ (.ofQuery ⟨"LW \"&\", <", "asm"⟩))
      (Command.perform .standard ⟨[], [], []⟩ [] .explain
        ⟨[("mode", "asm"), ("format", "json")], ["LW \"&\", <"]⟩) ∧
    handle ⟨"hex", Lexicon.standard⟩ (.ofQuery ⟨"0x0", ""⟩) =
      handle ⟨"hex", Lexicon.standard⟩ (.ofQuery ⟨"0x0", "hex"⟩) := by
  have profiled : Command.profile ⟨[], [], []⟩
      ⟨[("mode", "asm"), ("format", "json")], ["LW \"&\", <"]⟩ =
        .ok ⟨"asm", "json", "$", ":1357", "info"⟩ := by decide +kernel
  have inked : ∃ character ∈ "LW \"&\", <".toList, Text.isBlank character = false :=
    ⟨'L', by decide, by decide⟩
  rcases handle_agrees (rfl : (⟨"hex", Lexicon.standard⟩ : Service).lexicon = _) with
    ⟨agrees, defaults, _⟩
  constructor
  · exact agrees .assembly _ _ _ [] _ inked (Request.asks_ofQuery _)
      ⟨⟨_, profiled, rfl, rfl⟩, rfl, rfl⟩
  · exact defaults .word "0x0" _ _ rfl (Request.asks_ofQuery _) (Request.asks_ofQuery _)

end Service

end MipsGloss
