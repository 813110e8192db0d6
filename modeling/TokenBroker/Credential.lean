import TokenBroker.Failure

/-!
# Credentials

A credential is a login or a secret text, with an id, a description, a scope and perhaps an owner.
A credential without an owner belongs to the system store, one with an owner to the personal store
of the principal of that name.

Like the other fields of a store document, those of a credential are kept as they are, whatever
JSON values they hold.
-/

namespace TokenBroker

/-- Who a credential is offered to. -/
inductive CredentialScope
  | global
  | system
  deriving DecidableEq, Inhabited, Repr

namespace CredentialScope

def all : List CredentialScope :=
  [.global, .system]

def name : CredentialScope → String
  | .global => "global"
  | .system => "system"

def ofName? (name : String) : Option CredentialScope :=
  all.find? (·.name == name)

theorem ofName?_name (scope : CredentialScope) : ofName? scope.name = some scope := by
  cases scope <;> decide

end CredentialScope

/-- The two kinds of credential. -/
inductive CredentialKind
  | login
  | secretText
  deriving DecidableEq, Inhabited, Repr

/-- What a credential keeps. -/
inductive CredentialContent
  | login (username password : Json)
  | secretText (secret : Json)
  deriving DecidableEq, Inhabited, Repr

/-- A stored credential. -/
structure Credential where
  id : Json
  scope : CredentialScope := .global
  owner : Json := .null
  description : Json := .str ""
  content : CredentialContent
  deriving DecidableEq, Inhabited, Repr

namespace Credential

def kind (credential : Credential) : CredentialKind :=
  match credential.content with
  | .login _ _ => .login
  | .secretText _ => .secretText

/-- Credentials are the same if their kinds and ids are. -/
def same (a b : Credential) : Bool :=
  a.kind == b.kind && Json.same a.id b.id

/-- What a selection shows for a credential; passwords and secrets have no part in it. -/
def displayName (credential : Credential) : Json :=
  match credential.content with
  | .login username _ =>
    let name := username.display ++ "/******"
    if credential.description.truthy then
      .str (name ++ " (" ++ credential.description.display ++ ")")
    else .str name
  | .secretText _ =>
    if credential.description.truthy then credential.description else credential.id

/-- Whether an authentication sees a credential: the system sees those without an owner, a
principal its own. -/
def visibleTo (credential : Credential) : Authentication → Bool
  | .system => credential.owner == .null
  | .principal name _ => credential.owner == .str name

/-- The first credential of a list with an id. -/
def firstWithId? (id : Json) (credentials : List Credential) : Option Credential :=
  credentials.find? fun credential => Json.same credential.id id

end Credential

end TokenBroker
