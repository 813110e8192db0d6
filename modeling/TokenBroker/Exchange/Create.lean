import TokenBroker.Exchange.Candidates
import TokenBroker.GitLab.TokenRequest

/-!
# Exchanging a login for a stored token

An exchange makes a token with a login, stored or typed in, and stores it as a credential in the
domain of the server. Mistakes of the caller, of the server and of the store are outcomes; only a
missing permission, and what nobody is prepared for, are faults.

What an exchange does to its surroundings is a function on their state: saving the store, making
ids, and asking the server for a token. The store is a value that is passed on.
-/

namespace TokenBroker

/-- What an exchange needs from around it, over a state of the surroundings. -/
structure Surroundings (σ : Type) where
  save : Saver σ
  freshId : σ → String × σ
  issue : TokenRequest → σ → Except Fault Json × σ
  today : Date

namespace Exchange

variable {σ : Type}

/-! ### Storing a token -/

/-- A new credential for a token, described by the server and the user. -/
def newCredential (exchange : Exchange) (id : String) (serverUrl? : Option String)
    (token username : Json) : Credential :=
  { id := .str id
    description := .str ("Auto Generated by " ++ exchange.serverUrlOr serverUrl? ++ " server for "
      ++ username.display ++ " user")
    content := .secretText token }

/-- Stores a credential in the domain of a server, as somebody else. -/
def storeAs (save : Saver σ) (who : Authentication) (serverUrl : String)
    (credential : Credential) (store : Store) (world : σ) : Except Fault Domain × Store × σ :=
  match Store.perform save (Store.getOrCreateDomain serverUrl who) store world with
  | (.error error, store, world) => (.error error.fault, store, world)
  | (.ok domain, store, world) =>
    match Store.perform save (Store.addCredential domain.name credential who) store world with
    | (.error error, store, world) => (.error error.fault, store, world)
    | (.ok true, store, world) => (.ok domain, store, world)
    | (.ok false, store, world) =>
      let message := "credential " ++ credential.id.display ++ " already exists"
      (.error (.failure (.storage message domain.name)), store, world)

/-- Stores a credential in the domain of a server as the system, and gives the role back. -/
def storeCredential (save : Saver σ) (serverUrl : String) (credential : Credential)
    (acl : AccessControl) (store : Store) (world : σ) :
    (Except Fault Domain × Store × σ) × AccessControl :=
  acl.elevated fun acl => (storeAs save acl.current serverUrl credential store world, acl)

/-- The outcome of storing a token: a report of the store is an error outcome. -/
def storedOutcome (id url : String) : Except Fault Domain → Except Fault Outcome
  | .ok _ => .ok (.ok ("Created credentials with id " ++ id) (some id))
  | .error (.failure (.storage message domain)) =>
    let place := if domain.truthy then domain.display else url
    .ok (.error ("Can't add credentials for domain " ++ place ++ " - " ++ message))
  | .error fault => .error fault

/-- Stores a token. -/
def saveToken (exchange : Exchange) (surroundings : Surroundings σ) (acl : AccessControl)
    (url : String) (token username : Json) (store : Store) (world : σ) :
    Except Fault Outcome × Store × σ :=
  let (id, world) := surroundings.freshId world
  let credential := exchange.newCredential id (some url) token username
  let ((result, store, world), _) :=
    storeCredential surroundings.save url credential acl store world
  (storedOutcome id url result, store, world)

/-! ### Making a token -/

/-- The day on which tokens made today expire. -/
def expiry? (exchange : Exchange) (today : Date) : Except Fault (Option Date) :=
  match exchange.lifetime? with
  | none => .ok none
  | some days => ((today.shift days).mapError fun e => .overflow e.message).map some

/-- Makes a token and stores it. A failure to make one is an error outcome, whose message begins as
given. -/
def mintAndSave (exchange : Exchange) (surroundings : Surroundings σ) (acl : AccessControl)
    (request : TokenRequest) (complaint : String) (store : Store) (world : σ) :
    Except Fault Outcome × Store × σ :=
  match exchange.expiry? surroundings.today with
  | .error fault => (.error fault, store, world)
  | .ok expires? =>
    match surroundings.issue { request with expires? := expires? } world with
    | (.ok token, world) =>
      exchange.saveToken surroundings acl request.serverUrl token request.username store world
    | (.error (.failure (.tokenCreation message _ _)), world) =>
      (.ok (.error (complaint ++ " - " ++ message)), store, world)
    | (.error fault, world) => (.error fault, store, world)

/-- The message of a fault that says what is wrong with the configuration. -/
def configurationMessage? : Fault → Option String
  | .failure (.configuration message) => some message
  | _ => none

/-- An outcome for a fault of the configuration; other faults remain. -/
def refusedOutcome (fault : Fault) : Except Fault Outcome :=
  match configurationMessage? fault with
  | some message => .ok (.error message)
  | none => .error fault

/-- Exchanges a stored login. -/
def byCredentials (exchange : Exchange) (surroundings : Surroundings σ) (acl : AccessControl)
    (serverUrl? credentialsId? : Option String) (store : Store) (world : σ) :
    Except Fault Outcome × Store × σ :=
  match acl.check .administer with
  | .error failure => (.error (.failure failure), store, world)
  | .ok () =>
    let id := stripped (credentialsId?.getD "")
    if id.isEmpty then
      (.ok (.error "Please specify credentials to create token"), store, world)
    else
      let url := exchange.serverUrlOr serverUrl?
      match lookupLogin acl store url (.str id) with
      | .error fault => (refusedOutcome fault, store, world)
      | .ok none =>
        (.ok (.error "Can't create GitLab token, credentials are null"), store, world)
      | .ok (some login) =>
        match login.content with
        | .login username password =>
          exchange.mintAndSave surroundings acl
            { username := username, password := password, serverUrl := url
              tokenName := exchange.tokenName }
            "Can't create GL token" store world
        | .secretText _ => (.error (.kind .lacksOperation), store, world)

/-- Exchanges a login that is typed in. -/
def byPassword (exchange : Exchange) (surroundings : Surroundings σ) (acl : AccessControl)
    (serverUrl? username? password? : Option String) (store : Store) (world : σ) :
    Except Fault Outcome × Store × σ :=
  match acl.check .administer with
  | .error failure => (.error (.failure failure), store, world)
  | .ok () =>
    let username := stripped (username?.getD "")
    let password := password?.getD ""
    if username.isEmpty || password.isEmpty then
      (.ok (.error "Please specify username and password to create token"), store, world)
    else
      let url := exchange.serverUrlOr serverUrl?
      match ServerUrl.parse url with
      | .error error => (refusedOutcome error.fault, store, world)
      | .ok _ =>
        let (name, world) := surroundings.freshId world
        exchange.mintAndSave surroundings acl
          { username := .str username, password := .str password, serverUrl := url
            tokenName := name }
          ("Can't create GL token for " ++ username) store world

end Exchange

end TokenBroker
