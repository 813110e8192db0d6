import TokenBroker.Exchange.Configured
import TokenBroker.Exchange.Create
import TokenBroker.Http.Message
import TokenBroker.Service.Request

/-!
# The HTTP service

The operations for administrators over HTTP. A client says who it is with the key of a principal;
everybody else is anonymous. Every request is an invocation of its own, which starts with the
identity of its client.

Beside the operations a service may have pages about itself, such as a description of its interface.
What they say is fixed, and they come before the operations.

What a request does is a function of the store and of the state of the surroundings, as for the
exchanges themselves.
-/

namespace TokenBroker

/-- A service: how it exchanges, who its principals are, the name of its store, and its pages with
their paths. -/
structure Service where
  exchange : Exchange
  principals : List Principal
  storeName : String
  pages : List (String × ReplyBody) := []
  deriving DecidableEq, Inhabited, Repr

/-- The service that settings describe, on a store with a name. -/
def Settings.serviceOn (settings : Settings) (storeName : String) : Service :=
  { exchange := settings.exchange
    principals := settings.service.principals
    storeName := storeName }

namespace Service

/-! ### Clients -/

/-- The key that a header presents, without blanks around it. -/
def presentedKey? (authorization? : Option String) : Option String :=
  match authorization? with
  | some value =>
    (Text.dropStart? "Bearer ".toList value.toList).map fun key => String.ofList (Text.strip key)
  | none => none

/-- The identity of a client: that of the first principal with the key that it presents. -/
def client (principals : List Principal) (authorization? : Option String) : Authentication :=
  match presentedKey? authorization? with
  | some key =>
    match principals.find? (·.apiKey == key) with
    | some principal => principal.identity
    | none => .anonymous
  | none => .anonymous

/-! ### Routes -/

/-- What can be asked of the service. -/
inductive Endpoint
  | health
  | choices
  | byCredentials
  | byPassword
  deriving DecidableEq, Inhabited, Repr

namespace Endpoint

def all : List Endpoint :=
  [.health, .choices, .byCredentials, .byPassword]

def path : Endpoint → String
  | .health => "/health"
  | .choices => "/credentials/items"
  | .byCredentials => "/tokens/by-credentials"
  | .byPassword => "/tokens/by-password"

/-- The only method for an endpoint. -/
def method : Endpoint → String
  | .health | .choices => "GET"
  | .byCredentials | .byPassword => "POST"

end Endpoint

/-- The endpoint at a path. -/
def endpointAt? (path : String) : Option Endpoint :=
  Endpoint.all.find? (·.path == path)

/-- Where a request leads. -/
inductive Route
  | page (body : ReplyBody)
  | endpoint (endpoint : Endpoint)
  | otherMethod
  | withoutSlash
  | nowhere
  deriving DecidableEq, Inhabited, Repr

/-- The path that a client may have meant by one with slashes at its end. -/
def withoutSlashes (path : String) : String :=
  String.ofList (Text.dropTrailing '/' path.toList)

/-- The page at a path. -/
def pageAt? (service : Service) (path : String) : Option ReplyBody :=
  (service.pages.find? (·.1 == path)).map (·.2)

/-- Whether there is anything at a path. -/
def serves (service : Service) (path : String) : Bool :=
  (service.pageAt? path).isSome || (endpointAt? path).isSome

def route (service : Service) (method path : String) : Route :=
  match service.pageAt? path, endpointAt? path with
  | some body, _ => if method = "GET" || method = "HEAD" then .page body else .otherMethod
  | none, some endpoint => if endpoint.method = method then .endpoint endpoint else .otherMethod
  | none, none =>
    if path.toList.getLast? = some '/' && service.serves (withoutSlashes path) then .withoutSlash
    else .nowhere

/-! ### Replies -/

/-- The reply to a fault: what the broker reports is shown, and nothing of anything else. -/
def faultReply : Fault → ServiceReply
  | .failure (.permissionDenied permission principal) =>
    .json 403 (Outcome.error (Failure.permissionDenied permission principal).message).encode
  | .failure failure => .json 500 (Outcome.error failure.message).encode
  | _ => .text 500 (reasonPhrase 500)

/-- The reply that an outcome gives. -/
def outcomeReply : Except Fault Outcome → ServiceReply
  | .ok outcome => .json (if outcome.isOk then 200 else 422) outcome.encode
  | .error fault => faultReply fault

def healthReply (service : Service) : ServiceReply :=
  .json 200 (.obj [("status", .str "healthy"), ("service", .str "token-exchange"),
    ("store", .str service.storeName)])

/-- The reply with the logins to choose from. -/
def choicesReply (service : Service) (acl : AccessControl) (request : ServiceRequest)
    (store : Store) : ServiceReply :=
  match service.exchange.choices acl store (some (request.queryValue "server_url"))
      (some (request.queryValue "credentials_id")) with
  | .ok choices => .json 200 (.arr (choices.map Choice.encode))
  | .error fault => faultReply fault

/-! ### Token requests -/

/-- What a request says about a stored login: the server and the id. -/
def credentialsBody? (request : ServiceRequest) : Option (Checked (String × String)) :=
  request.bodyEntries?.map fun body => body.andThen fun entries =>
    Prod.mk <$> ServiceRequest.bodyText entries "server_url"
      <*> ServiceRequest.bodyText entries "credentials_id"

/-- What a request says about a login: the server, the name and the password. -/
def passwordBody? (request : ServiceRequest) : Option (Checked (String × String × String)) :=
  request.bodyEntries?.map fun body => body.andThen fun entries =>
    (fun url username password => (url, username, password))
      <$> ServiceRequest.bodyText entries "server_url"
      <*> ServiceRequest.bodyText entries "username"
      <*> ServiceRequest.bodyText entries "password"

variable {σ : Type}

/-- Replies with the outcome of an exchange whose arguments have been read. -/
def exchangeReply {α : Type} (arguments? : Option (Checked α))
    (run : α → Store → σ → Except Fault Outcome × Store × σ) (store : Store) (world : σ) :
    ServiceReply × Store × σ :=
  match arguments? with
  | none => (.unreadable, store, world)
  | some (.invalid issues) => (.refusal issues, store, world)
  | some (.valid arguments) =>
    let (result, rest) := run arguments store world
    (outcomeReply result, rest)

/-- What an endpoint does for a client. -/
def serveEndpoint (service : Service) (surroundings : Surroundings σ) (acl : AccessControl)
    (request : ServiceRequest) (store : Store) (world : σ) :
    Endpoint → ServiceReply × Store × σ
  | .health => (service.healthReply, store, world)
  | .choices => (service.choicesReply acl request store, store, world)
  | .byCredentials =>
    exchangeReply (credentialsBody? request)
      (fun (url, id) => service.exchange.byCredentials surroundings acl (some url) (some id))
      store world
  | .byPassword =>
    exchangeReply (passwordBody? request)
      (fun (url, username, password) =>
        service.exchange.byPassword surroundings acl (some url) (some username) (some password))
      store world

/-- The reply with its body left out where only the head is asked for. -/
def forMethod (method : String) (reply : ServiceReply) : ServiceReply :=
  if method = "HEAD" then { reply with body := .text "" } else reply

/-- Serves a request. -/
def serve (service : Service) (surroundings : Surroundings σ) (request : ServiceRequest)
    (store : Store) (world : σ) : ServiceReply × Store × σ :=
  let acl := AccessControl.start (client service.principals request.authorization?)
  let notFound := ServiceReply.detail 404 (.str (reasonPhrase 404))
  let notAllowed := ServiceReply.detail 405 (.str (reasonPhrase 405))
  match service.route request.method request.path with
  | .page body => (forMethod request.method ⟨200, body⟩, store, world)
  | .endpoint endpoint => service.serveEndpoint surroundings acl request store world endpoint
  | .otherMethod => (forMethod request.method notAllowed, store, world)
  | .withoutSlash => (.text 307 "", store, world)
  | .nowhere => (forMethod request.method notFound, store, world)

end Service

end TokenBroker
