import MipsGloss.Json.Reader
import MipsGloss.Report.Structured
import MipsGloss.Web.Form
import MipsGloss.Web.Multipart
import MipsGloss.Web.Target
import MipsGloss.Xml.Reader

namespace MipsGloss

/-! The service answers requests over HTTP: for its health, for the register
table, and for the explanation of a text. -/

structure Request where
  method : String
  path : String
  contentType : String
  body : String
  deriving DecidableEq, Repr

structure Response where
  status : Nat
  contentType : String
  body : String
  deriving DecidableEq, Repr

namespace Request

def route (request : Request) : String := (Web.Target.ofText request.path).path

def parameters (request : Request) : Web.Form :=
  Web.Form.ofText (Web.Target.ofText request.path).parameters

/-- The name of the method. A request without one asks for something. -/
def verb (request : Request) : String :=
  if request.method = "" then "GET" else request.method

end Request

/-! The body of an explanation request names a text and a mode. Both may be left
out, and are empty then. -/

structure Query where
  text : String
  mode : String
  deriving DecidableEq, Repr

namespace Query

def blank : Query := ⟨"", ""⟩

/-- Member names are compared without regard to the case of ASCII letters. -/
def sameName (left right : String) : Bool :=
  left.toList.map Char.toLower == right.toList.map Char.toLower

/-- Enters one member of a request object. Null leaves what was there, and a
name other than the two is passed over. -/
def enter? (query : Query) (member : String × Json.Value) : Option Query :=
  let isText := sameName member.1 "text"
  if isText || sameName member.1 "mode" then
    match member.2 with
    | .null => some query
    | .string value =>
      some (if isText then { query with text := value } else { query with mode := value })
    | _ => none
  else some query

def ofJson? : Json.Value → Option Query
  | .null => some blank
  | .object members => members.foldlM enter? blank
  | _ => none

/-- The query in a document. The last element of a name counts, and the case of
its letters does. -/
def ofElements (elements : List (String × String)) : Query :=
  let value := fun name => (elements.reverse.lookup name).getD ""
  ⟨value "Text", value "Mode"⟩

/-! A form and a body of several parts have no members of use, but have to be well
formed, and so do the parameters of the request. -/

def formType : String := "application/x-www-form-urlencoded"

def partsType : String := "multipart/form-data"

def isForm (mediaType : Web.MediaType) (body : String) : Bool :=
  mediaType.name != formType || (Web.Form.ofText body).isWellFormed

def isParts (mediaType : Web.MediaType) (body : String) : Bool :=
  match mediaType.parameter? "boundary" with
  | some boundary => mediaType.name == partsType && Web.Multipart.isBody boundary body
  | none => false

/-- The ways to write a body. -/
inductive BodyFormat where
  | json
  | document
  | form
  | parts
  deriving DecidableEq, Repr

/-- Each format by what the types that stand for it begin with. -/
def bodyFormats : List (String × BodyFormat) :=
  [("application/json", .json), ("application/xml", .document), ("text/xml", .document),
   (formType, .form), (partsType, .parts)]

def bodyFormat? (contentType : String) : Option BodyFormat :=
  (bodyFormats.find? fun (start, _) =>
    start.toList.isPrefixOf contentType.toList).map (·.2)

/-- Reads the body of a request. An empty body asks nothing in particular,
whatever its type is said to be. -/
def ofRequest? (request : Request) : Option Query :=
  if request.body = "" then some blank
  else
    match bodyFormat? request.contentType with
    | none => none
    | some .json => (Json.read request.body).bind fun (value, _) => ofJson? value
    | some .document => (Xml.read request.body).map ofElements
    | some .form =>
      (Web.MediaType.ofText? request.contentType).bind fun mediaType =>
        if isForm mediaType request.body && request.parameters.isWellFormed then some blank
        else none
    | some .parts =>
      (Web.MediaType.ofText? request.contentType).bind fun mediaType =>
        if isParts mediaType request.body && request.parameters.isWellFormed then some blank
        else none

end Query

/-! A reply is a status with or without a value. It becomes a response once it is
known how the value is to be written. -/

structure Reply where
  status : Nat
  value : Option Json.Value
  deriving Repr

namespace Reply

def error (message : String) : Reply :=
  ⟨400, some (.object [("error", .string message)])⟩

/-- A refusal. It has no value where the method allows none. -/
def refusal (method : String) (status : Nat) (message : String) : Reply :=
  if method = "HEAD" then ⟨status, none⟩
  else ⟨status, some (.object [("message", .string message)])⟩

/-- Writes a reply, on one line or on several. -/
def response (reply : Reply) (spread : Bool) : Response :=
  match reply.value with
  | none => { status := reply.status, contentType := "", body := "" }
  | some value =>
    { status := reply.status
      contentType := "application/json; charset=UTF-8"
      body := if spread then value.lines else value.line }

end Reply

structure Service where
  defaultMode : String
  lexicon : Lexicon

namespace Service

/-- The mode that a request asks for. -/
def modeName (service : Service) (query : Query) : String :=
  if query.mode = "" then service.defaultMode else query.mode

def explain (service : Service) (query : Query) : Reply :=
  match Mode.ofName? (service.modeName query) with
  | none => .error ("invalid mode: " ++ query.mode)
  | some mode =>
    match Report.explain service.lexicon mode query.text with
    | .error error => .error error.message
    | .ok report => ⟨200, some report.json⟩

def answer (service : Service) (request : Request) : Reply :=
  match Query.ofRequest? request with
  | none => .error "invalid request body"
  | some query => service.explain query

def health : Reply := ⟨200, some (.object [("status", .string "ok")])⟩

def registers : Reply := ⟨200, some Register.tableJson⟩

/-! Requests are routed by their path, without its parameters, and by their
method. Each path has one method of its own. -/

def methodOf? (route : String) : Option String :=
  [("/healthz", "GET"), ("/registers", "GET"), ("/explain", "POST")].lookup route

def reply (service : Service) (request : Request) : Reply :=
  match methodOf? request.route with
  | none => .refusal request.verb 404 "Not Found"
  | some method =>
    if request.verb = method then
      if request.route = "/healthz" then health
      else if request.route = "/registers" then registers
      else service.answer request
    else if request.verb = "OPTIONS" then ⟨204, none⟩
    else .refusal request.verb 405 "Method Not Allowed"

/-- Answers a request. One that has a parameter for it gets its value in lines. -/
def handle (service : Service) (request : Request) : Response :=
  (service.reply request).response (request.parameters.has "pretty")

end Service

end MipsGloss
