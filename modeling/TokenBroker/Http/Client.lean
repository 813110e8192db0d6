import TokenBroker.Failure
import TokenBroker.Http.Message
import TokenBroker.Json.Parser
import TokenBroker.Text.Utf8

/-!
# The client that requests are sent with

Between the broker and a server stands a client, which has rules of its own: how it reads addresses
and joins them, which responses it refuses, and how it reads what is in a body. `HttpClient` is what
the broker sees of it. Every part of it may fail, in one of two ways: a failed transfer, which
whoever sends requests expects, or any other fault, which breaks whatever is being done. Nothing is
assumed of a client beyond that.

`HttpClient.standard` is the client that the program runs with. It reads bodies as UTF-8 whatever
charset is declared, and it sends a host name in Punycode without asking whether a name may have
these characters.
-/

namespace TokenBroker

/-- Whether a fault is a failure that the broker reports in its own words. -/
def Fault.isReport : Fault → Bool
  | .failure _ => true
  | _ => false

/-- A fault of the client. The reports of the broker are unknown to it. -/
abbrev ForeignFault :=
  { fault : Fault // fault.isReport = false }

/-- How a step of the client fails. -/
inductive ClientError
  | transfer (reason : String)
  | broken (fault : ForeignFault)
  deriving DecidableEq, Repr

/-- What the broker sees of a client. -/
structure HttpClient where
  /-- The site below a base address. -/
  site : String → Except ClientError RequestUrl
  /-- The address that a reference leads to from a site. -/
  locate : RequestUrl → String → Except ClientError RequestUrl
  /-- Refuses a header of a request. -/
  checkHeader : String × String → Except ClientError Unit
  /-- Refuses a response to a request for an address. -/
  accept : RequestUrl → HttpResponse → Except ClientError Unit
  /-- The body as text. -/
  text : HttpResponse → Except ClientError String
  /-- The JSON value of the body, if there is one. -/
  json? : HttpResponse → Except ClientError (Option Json)

namespace HttpClient

/-- The address for a request with some headers. -/
def prepare (client : HttpClient) (site : RequestUrl) (reference : String)
    (headers : List (String × String)) : Except ClientError RequestUrl := do
  let url ← client.locate site reference
  headers.forM client.checkHeader
  return url

/-- The beginning of the body. -/
def excerpt (client : HttpClient) (response : HttpResponse) (length : Nat) :
    Except ClientError String :=
  (client.text response).map fun text => String.ofList (text.toList.take length)

/-! ### The standard client -/

/-- An address that cannot be made is not expected. -/
def badAddress (cause : AddressError) : ClientError :=
  .broken ⟨.badAddress cause.message, rfl⟩

/-- Headers are sent in ASCII. -/
def checkAscii (text : String) : Except ClientError Unit :=
  if text.toList.all fun c => c.toNat < 128 then .ok () else .error (.broken ⟨.unencodable, rfl⟩)

/-- Whether an address begins with a kind, which is what stands before the first colon. -/
def hasKind (address : String) : Bool :=
  match address.toList.span fun c => c != '/' && c != ':' with
  | (_ :: _, ':' :: _) => true
  | _ => false

/-- The statuses that tell a client to go on to the location that comes with them. -/
def leadsOn (status : Int) : Bool :=
  [301, 302, 303, 307, 308].contains status

/-- Refuses a location that cannot be followed from an address. -/
def checkLocation (url : RequestUrl) (location : String) : Except ClientError Unit :=
  match RequestUrl.parse location with
  | .error cause =>
    .error (.transfer ("Invalid URL in location header: " ++ cause.message ++ "."))
  | .ok target =>
    if !target.scheme.isEmpty && target.host.isEmpty then
      ((target.withHost url.host).mapError badAddress).map fun _ => ()
    else .ok ()

/-- Refuses a response that leads on to an address that cannot be followed. That address is made
even if nobody goes there. -/
def checkResponse (url : RequestUrl) (response : HttpResponse) : Except ClientError Unit := do
  if !hasKind url.toString then
    throw (.broken ⟨.value ("unknown url type: " ++ quoted url.toString), rfl⟩)
  match response.header? "location" with
  | none => return ()
  | some location => if leadsOn response.status then checkLocation url location

/-- The JSON value of a body; a byte order mark before it is ignored. -/
def standardJson (body : ByteArray) : Except ClientError (Option Json) :=
  match String.fromUTF8? body with
  | none => .ok none
  | some text =>
    let text :=
      match text.toList with
      | '\uFEFF' :: rest => String.ofList rest
      | _ => text
    match Json.parse text with
    | .ok value => .ok (some value)
    | .error (.excess .depth) => .error (.broken ⟨.tooDeep, rfl⟩)
    | .error (.excess (.digits _)) | .error (.malformed _) => .ok none

/-- The client that the program runs with. -/
def standard : HttpClient where
  site text := (RequestUrl.site text).mapError badAddress
  locate site reference := (site.refer reference).mapError badAddress
  checkHeader header := checkAscii header.2
  accept := checkResponse
  text response := .ok (String.ofList (Utf8.decode response.body.toList))
  json? response := standardJson response.body

end HttpClient

end TokenBroker
