import TokenBroker.Config.Reading
import TokenBroker.Http.Form
import TokenBroker.Json.Parser

/-!
# Requests to the service

What a client asks of the HTTP service, and what it is answered. The body of a request is JSON
unless it is declared to be something else.
-/

namespace TokenBroker

/-- A request to the service. The path is without escapes, the query as it was sent. -/
structure ServiceRequest where
  method : String
  path : String
  query : String := ""
  authorization? : Option String := none
  contentType? : Option String := none
  body : String := ""
  deriving DecidableEq, Inhabited, Repr

/-- The body of a reply. -/
inductive ReplyBody
  | json (value : Json)
  | text (s : String)
  deriving DecidableEq, Inhabited, Repr

/-- A reply of the service. -/
structure ServiceReply where
  status : Nat
  body : ReplyBody
  deriving DecidableEq, Inhabited, Repr

namespace ServiceRequest

/-- A request for an address. -/
def ofUrl (method : String) (url : RequestUrl) : ServiceRequest :=
  { method := method
    path := String.ofList (Utf8.decode (Percent.decode url.path.toList))
    query := url.query?.getD "" }

/-! ### Values in a request -/

/-- The value of a name in the query, the last one of several. -/
def queryValue (request : ServiceRequest) (name : String) : String :=
  (Form.last? name (Form.decode request.query)).getD ""

/-- The type and the subtype in a declared content type. -/
def mediaType (contentType : String) : List Char × List Char :=
  let kind := ((Text.cutFirst? ';' contentType.toList).map (·.1)).getD contentType.toList
  match Text.splitOn '/' (Text.lower (Text.strip kind)) with
  | [type, subtype] => (type, subtype)
  | _ => ("text".toList, "plain".toList)

/-- Whether a declared content type is JSON. -/
def isJsonType (contentType : String) : Bool :=
  let (type, subtype) := mediaType contentType
  type == "application".toList
    && (subtype == "json".toList || (Text.dropStart? "nosj+".toList subtype.reverse).isSome)

/-- Whether the body is to be read as JSON: it is declared to be, or nothing is declared. -/
def hasJson (request : ServiceRequest) : Bool :=
  match request.contentType? with
  | none => true
  | some contentType => contentType.isEmpty || isJsonType contentType

def bodyStep : Step :=
  .name "body"

/-- The members of the object in the body. There is nothing if the body goes beyond a limit. -/
def bodyEntries? (request : ServiceRequest) : Option (Checked ConfigEntries) :=
  let refuse (kind : IssueKind) : Checked ConfigEntries := (Checked.issue kind).below bodyStep
  if request.body.isEmpty then some (refuse .missing)
  else if !request.hasJson then some (refuse .notObject)
  else
    match Json.parse request.body with
    | .error (.malformed position) =>
      some (.invalid [⟨[bodyStep, .position position], .malformedBody⟩])
    | .error (.excess _) => none
    | .ok .null => some (refuse .missing)
    | .ok (.obj members) => some (.valid (ConfigValue.ofMembers members))
    | .ok _ => some (refuse .notObject)

/-- A text in the body, which is empty if it is not there. -/
def bodyText (entries : ConfigEntries) (name : String) : Checked String :=
  (ConfigValue.readEntry entries name "" (ConfigValue.readText 0)).below bodyStep

end ServiceRequest

namespace ServiceReply

def json (status : Nat) (value : Json) : ServiceReply :=
  ⟨status, .json value⟩

def text (status : Nat) (s : String) : ServiceReply :=
  ⟨status, .text s⟩

/-- A reply that only says what is the matter. -/
def detail (status : Nat) (value : Json) : ServiceReply :=
  json status (.obj [("detail", value)])

/-- The reply to a request whose body cannot be read. -/
def unreadable : ServiceReply :=
  detail 400 (.str "There was an error parsing the body")

/-- The reply to a request in which something is wrong. -/
def refusal (issues : List Issue) : ServiceReply :=
  detail 422 (.arr (issues.map Issue.encode))

end ServiceReply

end TokenBroker
