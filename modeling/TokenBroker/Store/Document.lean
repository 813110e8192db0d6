import TokenBroker.Store.Basic

/-!
# Store documents

The JSON document of a store: its version and, for every domain, the name, description,
specifications and credentials. `Store.decode` takes a document that may have been edited: fields
with a usual value may be missing, other fields are ignored, and the values of the fields that it
keeps are kept as they are. It refuses a document at the first thing that it cannot make sense of,
domain by domain, the specifications of a domain before its credentials.

A name that is repeated keeps its first place, description and specifications, and its last
credentials. The global domain is added at the end if it is missing.
-/

namespace TokenBroker

/-- Why a document is not one of a store. -/
inductive DocumentError
  | unsupportedVersion (version : Json)
  | unknownSpecification (type : Json)
  | unknownCredential (type : Json)
  | unknownScope (scope : Json)
  | missing (field : String)
  | misplaced (cause : KindError)
  deriving DecidableEq, Inhabited, Repr

/-- A failure about an encrypted store, with nothing more to say. -/
def Failure.encryption (message : String) (suggestion? : Option String) : Failure :=
  .credential .encryption message none suggestion?

def DocumentError.fault : DocumentError → Fault
  | .unsupportedVersion version =>
    .failure (.encryption ("Unsupported credentials file version: " ++ version.display) none)
  | .unknownSpecification type =>
    .failure (.encryption ("Unknown domain specification type: " ++ type.display) none)
  | .unknownCredential type =>
    .failure (.encryption ("Unknown credential type: " ++ type.display) none)
  | .unknownScope scope => .value (scope.quote ++ " is not a valid CredentialScope")
  | .missing field => .missingKey field
  | .misplaced cause => .kind cause

/-! ### Encoding -/

def Specification.encode : Specification → Json
  | .scheme schemes => .obj [("type", .str "scheme"), ("schemes", .arr schemes)]
  | .host includes excludes =>
    .obj [("type", .str "hostname"), ("includes", includes), ("excludes", excludes)]

def Credential.encode (credential : Credential) : Json :=
  let common : List (String × Json) :=
    [("id", credential.id), ("scope", .str credential.scope.name), ("owner", credential.owner)]
  match credential.content with
  | .login username password =>
    .obj (common ++ [("type", .str "username_password"), ("username", username),
      ("password", password), ("description", credential.description)])
  | .secretText secret =>
    .obj (common ++ [("type", .str "string"), ("description", credential.description),
      ("secret", secret)])

/-- The members of a domain in a document, its credentials apart. -/
def Domain.encodeMembers (domain : Domain) : List (String × Json) :=
  [("name", domain.name), ("description", domain.description),
    ("specifications", .arr (domain.specifications.map Specification.encode))]

def Domain.encode (domain : Domain) : Json :=
  .obj domain.encodeMembers

def StoreEntry.encode (entry : StoreEntry) : Json :=
  .obj (entry.domain.encodeMembers
    ++ [("credentials", .arr (entry.credentials.map Credential.encode))])

/-- The version of the documents that are written, and the only one that is read. -/
def formatVersion : Json := .int 1

def Store.encode (store : Store) : Json :=
  .obj [("version", formatVersion), ("domains", .arr (store.entries.map StoreEntry.encode))]

/-! ### Reading fields -/

namespace Document

/-- The value of a field that may be missing; only objects have fields. -/
def field? (name : String) : Json → Except DocumentError (Option Json)
  | .obj members => .ok (Json.find? name members)
  | _ => .error (.misplaced .lacksOperation)

/-- The value of a field that has to be there. -/
def require (name : String) : Json → Except DocumentError Json
  | .obj members =>
    match Json.find? name members with
    | some value => .ok value
    | none => .error (.missing name)
  | _ => .error (.misplaced .refused)

/-- The parts of a value: the items of an array, the characters of a text, the names of an
object. -/
def parts : Json → Except DocumentError (List Json)
  | .arr items => .ok items
  | .str s => .ok (s.toList.map fun c => .str (String.singleton c))
  | .obj members => .ok (members.map fun (name, _) => .str name)
  | _ => .error (.misplaced .refused)

/-- The parts of a field, none if it is missing. -/
def listField (name : String) (value : Json) : Except DocumentError (List Json) := do
  match ← field? name value with
  | some list => parts list
  | none => return []

end Document

/-! ### Decoding -/

def Specification.decode (value : Json) : Except DocumentError Specification := do
  let type ← Document.require "type" value
  if type == .str "scheme" then
    return .scheme (← Document.parts (← Document.require "schemes" value))
  if type == .str "hostname" then
    return .host ((← Document.field? "includes" value).getD .null)
      ((← Document.field? "excludes" value).getD .null)
  throw (.unknownSpecification type)

/-- The scope with a written name. -/
def CredentialScope.decode (value : Json) : Except DocumentError CredentialScope :=
  match value.text?.bind CredentialScope.ofName? with
  | some scope => .ok scope
  | none => .error (.unknownScope value)

def Credential.decode (value : Json) : Except DocumentError Credential := do
  let scope ← CredentialScope.decode ((← Document.field? "scope" value).getD (.str "global"))
  let type ← Document.require "type" value
  let description := ((← Document.field? "description" value).getD (.str ""))
  let owner := ((← Document.field? "owner" value).getD .null)
  if type == .str "username_password" then
    let id ← Document.require "id" value
    let username ← Document.require "username" value
    let password ← Document.require "password" value
    return {
      id := id, scope := scope, owner := owner, description := description
      content := .login username password }
  if type == .str "string" then
    let id ← Document.require "id" value
    let secret ← Document.require "secret" value
    return {
      id := id, scope := scope, owner := owner, description := description
      content := .secretText secret }
  throw (.unknownCredential type)

/-- A domain without its credentials. -/
def Domain.decode (value : Json) : Except DocumentError Domain := do
  let name := ((← Document.field? "name" value).getD .null)
  let description := ((← Document.field? "description" value).getD .null)
  let specifications ← (← Document.listField "specifications" value).mapM Specification.decode
  return { name := name, description := description, specifications := specifications }

/-- A domain with its credentials. An array or an object cannot be a name; this is found last. -/
def StoreEntry.decode (value : Json) : Except DocumentError StoreEntry := do
  let domain ← Domain.decode value
  let credentials ← (← Document.listField "credentials" value).mapM Credential.decode
  if !domain.name.hashable then throw (.misplaced .refused)
  return { domain := domain, credentials := credentials }

namespace Store

/-- Puts an entry into a store: an earlier one of the name takes over the credentials. -/
def replace (store : Store) (entry : StoreEntry) : Store :=
  if (store.entry? entry.domain.name).isSome then
    store.updateCredentials entry.domain.name fun _ => entry.credentials
  else ⟨store.entries ++ [entry]⟩

/-- The store that has the global domain, at the end if it was missing. -/
def withGlobal (store : Store) : Store :=
  if (store.entry? .null).isSome then store else store.appendDomain .global

/-- The store in a document. -/
def decode (document : Json) : Except DocumentError Store := do
  let version := ((← Document.field? "version" document).getD .null)
  if !version.same formatVersion then throw (.unsupportedVersion version)
  let entries ← (← Document.listField "domains" document).mapM StoreEntry.decode
  return (entries.foldl replace ⟨[]⟩).withGlobal

end Store

end TokenBroker
