import TokenBroker.AccessControl
import TokenBroker.Credential
import TokenBroker.Domain

/-!
# The credential store

A store is the list of its domains with their credentials. Reading is a function of the store. A
write is decided on the store alone: it is refused, or it has its answer at once, or it proposes a
`Mutation` of the store. `perform` lets a proposal stand only if the store that comes of it could be
saved. How a store that is changed in place gets there is the matter of `TokenBroker.Store.Live`.

## Who may write

Writing takes the permission to manage domains, except that a principal may always add to its own
personal store.
-/

namespace TokenBroker

/-- A domain with its credentials. -/
structure StoreEntry where
  domain : Domain
  credentials : List Credential := []
  deriving DecidableEq, Inhabited, Repr

/-- The domains with their credentials, in order. -/
structure Store where
  entries : List StoreEntry
  deriving DecidableEq, Inhabited, Repr

/-- Why a write is refused or fails. -/
inductive StoreError
  | denied (permission : Permission) (principal : String)
  | badUrl (cause : UrlError)
  | unreadable (cause : KindError)
  | noFreeName (scheme host : String)
  | unknownDomain (name : Json)
  | globalStays
  | notSaved (reason : String) (domain : Json)
  | saveRefused (message : String)
  deriving DecidableEq, Inhabited, Repr

def StoreError.fault : StoreError → Fault
  | .denied permission principal => .failure (.permissionDenied permission principal)
  | .badUrl cause => cause.fault
  | .unreadable cause => .kind cause
  | .noFreeName scheme host =>
    .failure (.storage ("No domain available for " ++ scheme ++ "://" ++ host) (.str host))
  | .unknownDomain name => .failure (.storage ("Unknown domain: " ++ name.display) name)
  | .globalStays => .value "The global domain cannot be removed"
  | .notSaved reason domain => .failure (.storage ("Failed to save credentials: " ++ reason) domain)
  | .saveRefused message => .failure (.storage message .null)

/-- How saving fails: with a report of the store's own, which is passed on as it is, or
otherwise. -/
inductive SaveFailure
  | reported (message : String)
  | other (message : String)
  deriving DecidableEq, Inhabited, Repr

/-- The error of a write to a domain whose save failed. -/
def SaveFailure.storeError (domain : Json) : SaveFailure → StoreError
  | .reported message => .saveRefused message
  | .other message => .notSaved message domain

/-- The changes of a store: a domain is taken in, unless there is one of its name; a credential is
put at the end of those of a domain; the credentials with an id are taken out of a domain; a domain
is dropped. -/
inductive Mutation
  | setDefault (domain : Domain)
  | append (name : Json) (credential : Credential)
  | remove (name id : Json)
  | pop (name : Json)
  deriving DecidableEq, Inhabited, Repr

/-- What a write asks for: nothing but its answer, or a change of the store, to be saved under the
name of the domain that it changes. -/
inductive Proposal (α : Type)
  | settled (answer : α)
  | change (mutation : Mutation) (domain : Json) (answer : α)

/-- A way to save a store, as a function of the world that it saves to. -/
abbrev Saver (σ : Type) := Store → σ → Except SaveFailure Unit × σ

namespace Store

/-! ### Contents -/

/-- The store with nothing in it. -/
def empty : Store :=
  ⟨[{ domain := .global }]⟩

def domains (store : Store) : List Domain :=
  store.entries.map (·.domain)

/-- The entry of the domain with a name. -/
def entry? (store : Store) (name : Json) : Option StoreEntry :=
  store.entries.find? fun entry => Json.same entry.domain.name name

/-- The domain with a name. -/
def domain? (store : Store) (name : Json) : Option Domain :=
  (store.entry? name).map (·.domain)

/-- The credentials of the domain with a name, none if there is no such domain. -/
def credentialsOf (store : Store) (name : Json) : List Credential :=
  ((store.entry? name).map (·.credentials)).getD []

/-- Applies a function to the credentials of the domain with a name. -/
def updateCredentials (store : Store) (name : Json) (f : List Credential → List Credential) :
    Store :=
  ⟨store.entries.map fun entry =>
    if Json.same entry.domain.name name then { entry with credentials := f entry.credentials }
    else entry⟩

/-- Appends a domain without credentials. -/
def appendDomain (store : Store) (domain : Domain) : Store :=
  ⟨store.entries ++ [{ domain := domain }]⟩

/-- Drops the domain with a name. -/
def eraseDomain (store : Store) (name : Json) : Store :=
  ⟨store.entries.filter fun entry => !Json.same entry.domain.name name⟩

/-- The store after a change. -/
def mutate (store : Store) : Mutation → Store
  | .setDefault domain =>
    if (store.entry? domain.name).isSome then store else store.appendDomain domain
  | .append name credential => store.updateCredentials name (· ++ [credential])
  | .remove name id =>
    store.updateCredentials name (·.filter fun credential => !Json.same credential.id id)
  | .pop name => store.eraseDomain name

/-- Adds the credentials of an entry to the domain of its name, or the whole entry if there is
none. -/
def merge (store : Store) (entry : StoreEntry) : Store :=
  if (store.entry? entry.domain.name).isSome then
    store.updateCredentials entry.domain.name (· ++ entry.credentials)
  else ⟨store.entries ++ [entry]⟩

/-- The store with given contents. The global domain comes first, in its plain form. -/
def ofEntries (entries : List StoreEntry) : Store :=
  entries.foldl merge empty

/-! ### Looking up -/

/-- Whether a lookup for a kind and an authentication lists a credential. -/
def offers (kind? : Option CredentialKind) (who : Authentication) (credential : Credential) :
    Bool :=
  (kind?.all fun kind => credential.kind == kind) && credential.visibleTo who

/-- The credentials that entries offer at a place. -/
def lookupEntries (kind? : Option CredentialKind) (who : Authentication)
    (requirements : List Requirement) : List StoreEntry → Except KindError (List Credential)
  | [] => .ok []
  | entry :: rest => do
    let accepted ← entry.domain.accepts requirements
    let later ← lookupEntries kind? who requirements rest
    return (if accepted then entry.credentials.filter (offers kind? who) else []) ++ later

/-- The credentials of a kind, or of any, that an authentication sees at a place. -/
def lookup (store : Store) (kind? : Option CredentialKind) (who : Authentication)
    (requirements : List Requirement) : Except KindError (List Credential) :=
  lookupEntries kind? who requirements store.entries

/-! ### Writing -/

def checkManage (who : Authentication) : Except StoreError Unit :=
  if who.has .manageDomains then .ok () else .error (.denied .manageDomains who.name)

/-- A principal may always add to its own personal store. -/
def checkAdd (credential : Credential) (who : Authentication) : Except StoreError Unit :=
  if credential.owner == .str who.name then .ok () else checkManage who

/-- The description of the domains that the store makes by itself. -/
def autogeneratedDescription : String :=
  "GitLab domain (autogenerated)"

/-- The domain that is made for a URL under a name. -/
def domainFor (url : ServerUrl) (name : String) : Domain :=
  { name := .str name
    description := .str autogeneratedDescription
    specifications := Specification.ofUrl url }

/-- Takes the first of some names under which there is no domain, so that one is made, or a domain
that accepts the place. -/
def claimName (store : Store) (url : ServerUrl) :
    List String → Except StoreError (Proposal Domain)
  | [] => .error (.noFreeName url.scheme url.host)
  | name :: rest =>
    match store.domain? (.str name) with
    | none =>
      let domain := domainFor url name
      .ok (.change (.setDefault domain) domain.name domain)
    | some domain => do
      let accepted ← (domain.accepts [.scheme url.scheme, .host url.host]).mapError .unreadable
      if accepted then return .settled domain
      claimName store url rest

/-- A domain for a server: named for its host, or for its scheme and host if the first name is taken
by a domain for other places. -/
def getOrCreateDomain (serverUrl : String) (who : Authentication) (store : Store) :
    Except StoreError (Proposal Domain) := do
  checkManage who
  let url ← (ServerUrl.parse serverUrl).mapError .badUrl
  claimName store url [url.host, url.scheme ++ "://" ++ url.host]

/-- Adds a credential to the domain with a name. The answer is whether it was added: a domain that
holds the same credential is left alone. -/
def addCredential (name : Json) (credential : Credential) (who : Authentication)
    (store : Store) : Except StoreError (Proposal Bool) := do
  checkAdd credential who
  match store.entry? name with
  | none => throw (.unknownDomain name)
  | some entry =>
    if entry.credentials.any fun other => other.same credential then return .settled false
    return .change (.append name credential) name true

/-- Removes the credentials with an id from the domain with a name. The answer is whether there
were any. -/
def removeCredential (name : Json) (id : Json) (who : Authentication) (store : Store) :
    Except StoreError (Proposal Bool) := do
  checkManage who
  if (store.credentialsOf name).any fun credential => Json.same credential.id id then
    return .change (.remove name id) name true
  return .settled false

/-- Removes the domain with a name and its credentials. The answer is whether there was one. -/
def removeDomain (name : Json) (who : Authentication) (store : Store) :
    Except StoreError (Proposal Bool) := do
  checkManage who
  if name == .null then throw .globalStays
  if (store.entry? name).isSome then
    return .change (.pop name) name true
  return .settled false

/-! ### Saving -/

/-- Carries out a write: a proposed change stands if the store after it could be saved. -/
def perform {σ α : Type} (save : Saver σ) (write : Store → Except StoreError (Proposal α))
    (store : Store) (world : σ) : Except StoreError α × Store × σ :=
  match write store with
  | .error error => (.error error, store, world)
  | .ok (.settled answer) => (.ok answer, store, world)
  | .ok (.change mutation domain answer) =>
    match save (store.mutate mutation) world with
    | (.ok (), world) => (.ok answer, store.mutate mutation, world)
    | (.error failure, world) => (.error (failure.storeError domain), store, world)

/-- A save to nowhere, which fails in a given way or succeeds. -/
def saveInMemory : Saver (Option SaveFailure) := fun _ failure? =>
  (match failure? with
    | some failure => .error failure
    | none => .ok (), failure?)

end Store

end TokenBroker
