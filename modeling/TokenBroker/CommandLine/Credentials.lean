import TokenBroker.CommandLine.Summary
import TokenBroker.CommandLine.Workplace

/-!
# Commands for credentials

Filling the configured store at the terminal, and looking into it. Secrets are never shown.
-/

namespace TokenBroker.CommandLine

variable {σ : Type}

/-! ### Adding -/

/-- A login that is typed in. -/
structure NewLogin where
  username : String
  password : String
  description : String := ""
  owner? : Option String := none
  deriving DecidableEq, Inhabited, Repr

/-- The login as a credential with an id. -/
def NewLogin.credential (login : NewLogin) (id : String) : Credential :=
  { id := .str id
    owner := .ofText? login.owner?
    description := .str login.description
    content := .login (.str login.username) (.str login.password) }

/-- The domain for a server, or the global one without a server. -/
def domainFor (save : Saver σ) (serverUrl? : Option String) (who : Authentication) (store : Store)
    (world : σ) : Except StoreError Domain × Store × σ :=
  match serverUrl?.filter (!·.isEmpty) with
  | none => (.ok .global, store, world)
  | some url => Store.perform save (Store.getOrCreateDomain url who) store world

/-- Stores a credential in the domain for a server. -/
def storeIn (save : Saver σ) (credential : Credential) (serverUrl? : Option String)
    (who : Authentication) (store : Store) (world : σ) :
    Except StoreError (Domain × Bool) × Store × σ :=
  match domainFor save serverUrl? who store world with
  | (.error error, rest) => (.error error, rest)
  | (.ok domain, store, world) =>
    let (added, rest) :=
      Store.perform save (Store.addCredential domain.name credential who) store world
    (added.map fun added => (domain, added), rest)

/-- What storing a credential makes of a run. -/
def storedReport (id : String) : Except StoreError (Domain × Bool) → Report
  | .error error => .ofFault error.fault
  | .ok (_, false) =>
    { exitCode := 1, output := "Credential " ++ id ++ " already exists\n" }
  | .ok (domain, true) =>
    match domain.summary with
    | .ok summary => .said ("Stored credential " ++ id ++ " in " ++ summary)
    | .error cause => .crashed (.fault (.kind cause))

/-- The id that is given, or a new one. -/
def chosenId (place : Workplace σ) (id? : Option String) (machine : Machine σ) :
    String × Machine σ :=
  match id?.filter (!·.isEmpty) with
  | some id => (id, machine)
  | none => place.newId machine

def addCredential (place : Workplace σ) (settings : Settings) (login : NewLogin)
    (id? serverUrl? : Option String) (machine : Machine σ) : Report × Machine σ :=
  place.withStore settings machine fun opened machine =>
    let (id, machine) := chosenId place id? machine
    let (result, _, machine) := storeIn (Workplace.saver opened.save) (login.credential id)
      serverUrl? place.operator opened.store machine
    (storedReport id result, machine)

/-! ### Listing -/

def credentialLine (credential : Credential) : String :=
  let owner := if credential.owner.truthy then " owner=" ++ credential.owner.display else ""
  "  " ++ credential.id.display ++ "  " ++ credential.displayName.display ++ owner

def summaryLine (domain : Domain) : Except Fault String :=
  domain.summary.mapError .kind

/-- The lines about a domain and its credentials. -/
def entryLines (entry : StoreEntry) : List (Except Fault String) :=
  summaryLine entry.domain ::
    if entry.credentials.isEmpty then [.ok "  (empty)"]
    else entry.credentials.map fun credential => .ok (credentialLine credential)

def listCredentials (place : Workplace σ) (settings : Settings) (machine : Machine σ) :
    Report × Machine σ :=
  place.withStore settings machine fun opened machine =>
    (.lines (opened.store.entries.flatMap entryLines), machine)

def domainLine (domain : Domain) : Except Fault String := do
  let description := if domain.description.truthy then "  " ++ domain.description.display else ""
  return (← summaryLine domain) ++ description

def listDomains (place : Workplace σ) (settings : Settings) (machine : Machine σ) :
    Report × Machine σ :=
  place.withStore settings machine fun opened machine =>
    (.lines (opened.store.domains.map domainLine), machine)

/-! ### Removing -/

/-- Removes the credentials with an id from domain after domain. The answer is whether there were
any. -/
def removeFrom (save : Saver σ) (id : Json) (who : Authentication) :
    List Domain → Store → σ → Except StoreError Bool × Store × σ
  | [], store, world => (.ok false, store, world)
  | domain :: rest, store, world =>
    match Store.perform save (Store.removeCredential domain.name id who) store world with
    | (.error error, after) => (.error error, after)
    | (.ok removed, store, world) =>
      let (later, after) := removeFrom save id who rest store world
      (later.map (removed || ·), after)

/-- What removing something makes of a run: lines for the cases that it was there and that it was
not. -/
def removedReport (found missing : String) : Except StoreError Bool → Report
  | .error error => .ofFault error.fault
  | .ok true => .said found
  | .ok false => .said missing

def removeCredential (place : Workplace σ) (settings : Settings) (id : String)
    (machine : Machine σ) : Report × Machine σ :=
  place.withStore settings machine fun opened machine =>
    let (result, _, machine) := removeFrom (Workplace.saver opened.save) (.str id) place.operator
      opened.store.domains opened.store machine
    (removedReport "Credential deleted successfully" "Credential not found" result, machine)

def removeDomain (place : Workplace σ) (settings : Settings) (name : String)
    (machine : Machine σ) : Report × Machine σ :=
  place.withStore settings machine fun opened machine =>
    match opened.store.domain? (.str name) with
    | none => (.said "Domain not found", machine)
    | some domain =>
      let (result, _, machine) := Store.perform (Workplace.saver opened.save)
        (Store.removeDomain domain.name place.operator) opened.store machine
      let deleted := "Domain " ++ name ++ " deleted successfully"
      (removedReport deleted deleted result, machine)

end TokenBroker.CommandLine
