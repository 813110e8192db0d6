import TokenBroker.Secret.Keyring
import TokenBroker.Secret.Reference

/-!
# Resolving references

A reference is resolved by the first backend with the name of its kind. What a backend answered may
be kept in a cache, by the text of the reference; literal texts and failures never are.

A `Resolution` says besides the result what the cache is afterwards and which backend was asked.
-/

namespace TokenBroker

/-- The variables of the environment. -/
abbrev Environment := List (String × String)

/-- A source of secrets, as it is at the moment. -/
structure SecretBackend where
  name : String
  available : Bool := true
  get : String → Option String → Except Fault (Option String)

namespace SecretBackend

def environmentName : String :=
  "environment"

def keyringName : String :=
  "keyring"

/-- The variables of the environment as secrets. -/
def ofEnvironment (env : Environment) : SecretBackend :=
  { name := environmentName, get := fun name _ => .ok (Keyring.valueOf? name env) }

/-- The keyring as a source of secrets. -/
def ofKeyring (keyring : Keyring) : SecretBackend :=
  { name := keyringName, available := keyring.available, get := keyring.get }

/-- The usual sources. -/
def usual (env : Environment) (keyring : Keyring) : List SecretBackend :=
  [ofEnvironment env, ofKeyring keyring]

end SecretBackend

/-- What a backend is asked for. -/
structure SecretQuery where
  backend : String
  service : String
  key? : Option String := none
  deriving DecidableEq, Inhabited, Repr

/-- The secrets that have been found, by the texts of their references. -/
abbrev SecretCache := List (String × String)

/-- How the resolution of a text ends. -/
structure Resolution where
  result : Except Fault String
  cache : SecretCache
  asked : List SecretQuery := []

namespace SecretResolver

def notConfigured (backend reference : String) : Fault :=
  .failure (.credential .backendNotAvailable ("No " ++ backend ++ " backend configured")
    (some reference) (some ("Ensure a " ++ backend ++ " backend is available in the resolver.")))

def notAvailable (backend reference : String) : Fault :=
  .failure (.credential .backendNotAvailable
    (String.capitalize backend ++ " backend is not available on this system") (some reference)
    (some "Use environment variables instead: $\x7bVAR_NAME\x7d"))

def malformed (reference : String) : Fault :=
  .failure (.credential .format "Invalid keyring reference" (some reference)
    (some "Use the form @keyring:service/key"))

def variableNotSet (name reference : String) : Fault :=
  .failure (.credential .notFound ("Environment variable not set: " ++ name) (some reference)
    (some ("Set the environment variable:\n  export " ++ name ++ "='your-secret-here'")))

def noSecret (service key reference : String) : Fault :=
  .failure (.credential .notFound ("Secret not found in keyring: " ++ service ++ "/" ++ key)
    (some reference)
    (some ("Store the secret with:\n  token-exchange secrets set " ++ service ++ "/" ++ key)))

/-- A secret that the asked backend does not have. -/
def missing (query : SecretQuery) (reference : String) : Fault :=
  match query.key? with
  | none => variableNotSet query.service reference
  | some key => noSecret query.service key reference

/-- The report of a failing backend: its own reports around secrets stand, other faults are
wrapped. -/
def wrapFault (query : SecretQuery) (reference : String) : Fault → Fault
  | .failure (.credential kind message reference? suggestion?) =>
    .failure (.credential kind message reference? suggestion?)
  | .interrupted => .interrupted
  | fault =>
    .failure (.credential .general
      ("Failed to resolve " ++ query.backend ++ " secret: " ++ fault.message) (some reference) none)

/-- Asks the first backend with the name in a query. The answer says too whether it was asked. -/
def ask (backends : List SecretBackend) (query : SecretQuery) (reference : String) :
    Except Fault String × List SecretQuery :=
  match backends.find? (·.name == query.backend) with
  | none => (.error (notConfigured query.backend reference), [])
  | some backend =>
    if !backend.available then (.error (notAvailable query.backend reference), [])
    else
      let answer :=
        match backend.get query.service query.key? with
        | .error fault => .error (wrapFault query reference fault)
        | .ok none => .error (missing query reference)
        | .ok (some secret) => .ok secret
      (answer, [query])

/-- Keeps an answer in the cache. -/
def remember (cache : SecretCache) (useCache : Bool) (reference : String) :
    Except Fault String → SecretCache
  | .ok secret => if useCache then Keyring.withValue reference secret cache else cache
  | .error _ => cache

/-- Resolves a reference that a backend has to answer. -/
def resolveVia (backends : List SecretBackend) (cache : SecretCache) (useCache : Bool)
    (reference : String) (query : SecretQuery) : Resolution :=
  let (result, asked) := ask backends query reference
  { result := result, cache := remember cache useCache reference result, asked := asked }

/-- Resolves a text without looking into the cache. -/
def resolveFresh (backends : List SecretBackend) (cache : SecretCache) (useCache : Bool)
    (text : String) : Resolution :=
  match SecretReference.ofText text with
  | .keyring service key =>
    resolveVia backends cache useCache text ⟨SecretBackend.keyringName, service, some key⟩
  | .environment name =>
    resolveVia backends cache useCache text ⟨SecretBackend.environmentName, name, none⟩
  | .malformed => { result := .error (malformed text), cache := cache }
  | .literal => { result := .ok text, cache := cache }

/-- Resolves a text. With the cache in use an answer that is there is given again. -/
def resolve (backends : List SecretBackend) (cache : SecretCache) (useCache : Bool)
    (text : String) : Resolution :=
  match if useCache then Keyring.valueOf? text cache else none with
  | some secret => { result := .ok secret, cache := cache }
  | none => resolveFresh backends cache useCache text

end SecretResolver

end TokenBroker
