import TokenBroker.Failure
import TokenBroker.GitLab.Answer
import TokenBroker.GitLab.TokenRequest

/-!
# Making an access token with a login

A server makes access tokens for people who use it with a browser, so the issuer does what a browser
would: it signs in, opens the page with the token form, sends the form, reads the new token from the
answer, and signs out. A conversation is the list of the requests sent so far; the server answers
each by its place in that list.

## Order of requests

Signing in is the page and the form. Only after it has succeeded are the pages for tokens tried, the
newest first, until one is there. The token form is sent at most once. Signing out comes last, and
whatever it is answered, the token or the error that was there before remains (`andFinally`), unless
the client breaks.
-/

namespace TokenBroker

/-- Why no token was made. -/
inductive IssueError
  | client (cause : ClientError)
  | noSignInPage (status : Int)
  | noSignInToken
  | badLogin (status : Int)
  | noTokenPage (status? : Option Int)
  | noPageToken
  | noLocation
  | rejected (reason : String) (status : Int) (excerpt : String)
  | noNewToken (status : Int)
  deriving DecidableEq, Repr

/-- The error as it is reported for a base address. -/
def IssueError.fault (base : String) : IssueError → Fault
  | .client (.transfer reason) =>
    .failure (.tokenCreation ("Request to " ++ base ++ " failed: " ++ reason) none none)
  | .client (.broken fault) => fault
  | .noSignInPage status =>
    .failure (.tokenCreation "Failed to load GitLab sign-in page" (some status) none)
  | .noSignInToken =>
    .failure (.tokenCreation "No CSRF token on sign-in page; is this a GitLab server?" none none)
  | .badLogin status => .failure (.tokenCreation "Invalid username or password" (some status) none)
  | .noTokenPage status? =>
    .failure (.tokenCreation "Personal access tokens page not found" status? none)
  | .noPageToken =>
    .failure (.tokenCreation "No CSRF token on personal access tokens page" none none)
  | .noLocation => .missingKey "location"
  | .rejected reason status excerpt =>
    .failure (.tokenCreation ("Token creation rejected: " ++ reason) (some status) (some excerpt))
  | .noNewToken status =>
    .failure (.tokenCreation "GitLab response did not contain the new token" (some status) none)

/-- A step of a conversation, which ends with an answer or an error and has sent requests. -/
abbrev Conversation (α : Type) := ExceptT IssueError (StateM (List HttpRequest)) α

namespace Issuer

variable (client : HttpClient) (server : HttpServer)

/-! ### Sending -/

/-- What the client comes to without the server. -/
def ofClient {α : Type} (result : Except ClientError α) : Conversation α :=
  ExceptT.mk (pure (result.mapError .client))

/-- What becomes of a reply to a request for an address. -/
def receive (url : RequestUrl) : HttpReply → Except ClientError HttpResponse
  | .failure reason => .error (.transfer reason)
  | .response response => (client.accept url response).map fun _ => response

/-- Sends a request and takes the response. -/
def send (request : HttpRequest) : Conversation HttpResponse := fun sent =>
  ((receive client request.url (server sent.length)).mapError .client, sent ++ [request])

def get (site : RequestUrl) (reference : String) : Conversation HttpResponse := do
  let url ← ofClient (client.locate site reference)
  send client server { method := .get, url := url }

def post (site : RequestUrl) (reference : String) (form headers : List (String × String)) :
    Conversation HttpResponse := do
  let url ← ofClient (client.prepare site reference headers)
  send client server { method := .post, url := url, form := form, headers := headers }

/-- Runs a step and then another one, whatever the first came to. An error of the second one
remains. -/
def andFinally {α : Type} (body : Conversation α) (cleanup : Conversation Unit) :
    Conversation α := fun sent =>
  let (result, sent) := body sent
  match cleanup sent with
  | (.ok (), sent) => (result, sent)
  | (.error error, sent) => (.error error, sent)

/-! ### Signing in and out -/

def signInPath : String :=
  "/users/sign_in"

def signOutPath : String :=
  "/users/sign_out"

/-- A single value of a form field. -/
def fieldText : Json → String
  | .null => ""
  | .bool b => if b then "true" else "false"
  | value => value.display

/-- The fields of a form for a value; a list has one field for each of its items. -/
def fieldsOf (name : String) : Json → List (String × String)
  | .arr items => items.map fun item => (name, fieldText item)
  | value => [(name, fieldText value)]

def signInForm (csrf : String) (username password : Json) : List (String × String) :=
  ("authenticity_token", csrf) :: fieldsOf "user[login]" username
    ++ fieldsOf "user[password]" password ++ [("user[remember_me]", "0")]

/-- Whether the answer to the sign-in form means success: it leads away from the sign-in page. -/
def signedIn (response : HttpResponse) : Bool :=
  response.isRedirect
    && !Text.occursIn signInPath.toList ((response.header? "location").getD "").toList

/-- Signs in. The answer is the token of the sign-in page. -/
def signIn (site : RequestUrl) (username password : Json) : Conversation String := do
  let page ← get client server site signInPath
  if page.status != 200 then throw (.noSignInPage page.status)
  match ← ofClient (client.csrfToken? page) with
  | none => throw .noSignInToken
  | some csrf =>
    let answer ← post client server site signInPath (signInForm csrf username password) []
    if signedIn answer then return csrf
    throw (.badLogin answer.status)

def signOutForm (csrf : String) : List (String × String) :=
  [("authenticity_token", csrf)]

/-- Signs out; that the transfer fails does not matter. -/
def signOut (site : RequestUrl) (csrf : String) : Conversation Unit := fun sent =>
  match post client server site signOutPath (signOutForm csrf) [] sent with
  | (.ok _, sent) => (.ok (), sent)
  | (.error (.client (.transfer _)), sent) => (.ok (), sent)
  | (.error error, sent) => (.error error, sent)

/-! ### The token form -/

/-- Where the page with the token form may be, the newest place first. -/
def tokenPagePaths : List String :=
  ["/-/user_settings/personal_access_tokens", "/-/profile/personal_access_tokens",
    "/profile/personal_access_tokens"]

/-- Opens the first page that is there, after one that was answered with a status. -/
def openTokenPage (site : RequestUrl) (status? : Option Int) :
    List String → Conversation (String × HttpResponse)
  | [] => throw (.noTokenPage status?)
  | path :: rest => do
    let page ← get client server site path
    if page.status = 200 then return (path, page)
    openTokenPage site (some page.status) rest

def tokenForm (csrf : String) (request : TokenRequest) : List (String × String) :=
  [("authenticity_token", csrf), ("personal_access_token[name]", request.tokenName),
    ("personal_access_token[expires_at]", (request.expires?.map Date.toIso).getD "")]
    ++ request.scopes.map fun scope => ("personal_access_token[scopes][]", scope.name)

def tokenFormHeaders (csrf : String) : List (String × String) :=
  [("accept", "application/json, text/html"), ("x-csrf-token", csrf),
    ("x-requested-with", "XMLHttpRequest")]

/-- The answer to the token form, or the page that it leads on to. -/
def followed (site : RequestUrl) (answer : HttpResponse) : Conversation HttpResponse :=
  if answer.isRedirect then
    match answer.header? "location" with
    | none => throw .noLocation
    | some location => get client server site location
  else pure answer

/-- The token in the final answer. -/
def readToken (answer : HttpResponse) : Except IssueError Json :=
  if 400 ≤ answer.status then do
    let reason ← (client.errorMessage answer).mapError .client
    let excerpt ← (client.excerpt answer 500).mapError .client
    throw (.rejected reason answer.status excerpt)
  else do
    match ← (client.newToken? answer).mapError .client with
    | none => throw (.noNewToken answer.status)
    | some token => return token

/-- Makes the token, once signed in. -/
def createToken (site : RequestUrl) (request : TokenRequest) : Conversation Json := do
  let (path, page) ← openTokenPage client server site none tokenPagePaths
  match ← ofClient (client.csrfToken? page) with
  | none => throw .noPageToken
  | some csrf =>
    let answer ← post client server site path (tokenForm csrf request) (tokenFormHeaders csrf)
    ExceptT.mk (pure (readToken client (← followed client server site answer)))

/-! ### The whole conversation -/

/-- The conversation on a site. -/
def converse (site : RequestUrl) (request : TokenRequest) : Conversation Json := do
  let csrf ← signIn client server site request.username request.password
  andFinally (createToken client server site request) (signOut client server site csrf)

/-- The base address of a server: its URL without slashes at the end. -/
def baseOf (serverUrl : String) : String :=
  String.ofList (Text.dropTrailing '/' serverUrl.toList)

/-- Makes a token. The answer comes with the requests that were sent, after those given. -/
def issue (request : TokenRequest) (sent : List HttpRequest) :
    Except Fault Json × List HttpRequest :=
  let base := baseOf request.serverUrl
  match client.site base with
  | .error cause => (.error ((IssueError.client cause).fault base), sent)
  | .ok site =>
    let (result, sent) := converse client server site request sent
    (result.mapError (·.fault base), sent)

end Issuer

end TokenBroker
