import TokenBroker.Http.Form
import TokenBroker.Http.Url

/-!
# Requests and replies

What is sent to a server and what comes back. A server is a function that says how it replies to the
requests of a conversation, the first one, the second one and so on: with a response, or not at all.
-/

namespace TokenBroker

inductive HttpMethod
  | get
  | post
  deriving DecidableEq, Inhabited, Repr

def HttpMethod.name : HttpMethod → String
  | .get => "GET"
  | .post => "POST"

/-- A request. A request that posts has a form, which may be empty; the headers are those that are
not sent with every request. -/
structure HttpRequest where
  method : HttpMethod
  url : RequestUrl
  form : List (String × String) := []
  headers : List (String × String) := []
  deriving DecidableEq, Inhabited, Repr

namespace HttpRequest

/-- The text of the form. -/
def body (request : HttpRequest) : String :=
  Form.encode request.form

/-- The kind of the body, which only a body that is there has. -/
def contentType? (request : HttpRequest) : Option String :=
  if request.form.isEmpty then none else some "application/x-www-form-urlencoded"

end HttpRequest

/-- A response. What its bytes say is for the client to find out. -/
structure HttpResponse where
  status : Int
  headers : List (String × String) := []
  body : ByteArray := .empty
  deriving Inhabited

/-- Responses are the same if their statuses, headers and bytes are. -/
instance : DecidableEq HttpResponse := fun a b =>
  decidable_of_iff (a.status = b.status ∧ a.headers = b.headers ∧ a.body.data = b.body.data) (by
    obtain ⟨_, _, _⟩ := a
    obtain ⟨_, _, _⟩ := b
    simp [ByteArray.ext_iff])

namespace HttpResponse

/-- The value of a header; the case of its name does not matter, and of two of one name the values
are joined. -/
def header? (response : HttpResponse) (name : String) : Option String :=
  match response.headers.filter fun (key, _) => lowered key == lowered name with
  | [] => none
  | found => some (", ".intercalate (found.map (·.2)))

/-- Whether a response sends the client elsewhere. -/
def isRedirect (response : HttpResponse) : Bool :=
  300 ≤ response.status && response.status ≤ 399

/-- Whether the content is declared to be JSON. -/
def isJson (response : HttpResponse) : Bool :=
  Text.occursIn "json".toList ((response.header? "content-type").getD "").toList

end HttpResponse

/-- How a server replies to a request. -/
inductive HttpReply
  | response (response : HttpResponse)
  | failure (message : String)
  deriving DecidableEq, Inhabited

/-- The replies to the first, the second, ... request. -/
abbrev HttpServer := Nat → HttpReply

/-- The usual words for a status; the statuses that are not assigned have none. -/
def reasonPhrase (status : Int) : String :=
  match status with
  | 100 => "Continue"
  | 101 => "Switching Protocols"
  | 102 => "Processing"
  | 103 => "Early Hints"
  | 200 => "OK"
  | 201 => "Created"
  | 202 => "Accepted"
  | 203 => "Non-Authoritative Information"
  | 204 => "No Content"
  | 205 => "Reset Content"
  | 206 => "Partial Content"
  | 207 => "Multi-Status"
  | 208 => "Already Reported"
  | 226 => "IM Used"
  | 300 => "Multiple Choices"
  | 301 => "Moved Permanently"
  | 302 => "Found"
  | 303 => "See Other"
  | 304 => "Not Modified"
  | 305 => "Use Proxy"
  | 307 => "Temporary Redirect"
  | 308 => "Permanent Redirect"
  | 400 => "Bad Request"
  | 401 => "Unauthorized"
  | 402 => "Payment Required"
  | 403 => "Forbidden"
  | 404 => "Not Found"
  | 405 => "Method Not Allowed"
  | 406 => "Not Acceptable"
  | 407 => "Proxy Authentication Required"
  | 408 => "Request Timeout"
  | 409 => "Conflict"
  | 410 => "Gone"
  | 411 => "Length Required"
  | 412 => "Precondition Failed"
  | 413 => "Request Entity Too Large"
  | 414 => "Request-URI Too Long"
  | 415 => "Unsupported Media Type"
  | 416 => "Requested Range Not Satisfiable"
  | 417 => "Expectation Failed"
  | 418 => "I'm a teapot"
  | 421 => "Misdirected Request"
  | 422 => "Unprocessable Entity"
  | 423 => "Locked"
  | 424 => "Failed Dependency"
  | 425 => "Too Early"
  | 426 => "Upgrade Required"
  | 428 => "Precondition Required"
  | 429 => "Too Many Requests"
  | 431 => "Request Header Fields Too Large"
  | 451 => "Unavailable For Legal Reasons"
  | 500 => "Internal Server Error"
  | 501 => "Not Implemented"
  | 502 => "Bad Gateway"
  | 503 => "Service Unavailable"
  | 504 => "Gateway Timeout"
  | 505 => "HTTP Version Not Supported"
  | 506 => "Variant Also Negotiates"
  | 507 => "Insufficient Storage"
  | 508 => "Loop Detected"
  | 510 => "Not Extended"
  | 511 => "Network Authentication Required"
  | _ => ""

end TokenBroker
