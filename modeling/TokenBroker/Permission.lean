/-!
# Permissions and authentications

An authentication is a name with permissions. The system itself is an authentication of its own, so
that a principal who merely bears its name is never taken for it. Administering implies every other
permission.
-/

namespace TokenBroker

/-- What the access control layer asks for. -/
inductive Permission
  | administer
  | manageDomains
  | read
  deriving DecidableEq, Inhabited, Repr

namespace Permission

/-- Every permission, in alphabetical order of the written names. -/
def all : List Permission :=
  [.administer, .manageDomains, .read]

/-- The written name. -/
def name : Permission → String
  | .administer => "administer"
  | .manageDomains => "manage_domains"
  | .read => "read"

def ofName? (name : String) : Option Permission :=
  all.find? (·.name == name)

end Permission

/-- Who acts: the system, or a principal with the permissions granted to it. -/
inductive Authentication
  | system
  | principal (name : String) (permissions : List Permission)
  deriving DecidableEq, Inhabited, Repr

namespace Authentication

def name : Authentication → String
  | .system => "SYSTEM"
  | .principal name _ => name

/-- The permissions granted, in the order of `Permission.all`. -/
def granted : Authentication → List Permission
  | .system => Permission.all
  | .principal _ permissions => Permission.all.filter permissions.contains

/-- A principal with every permission. -/
def administrator (name : String) : Authentication :=
  .principal name Permission.all

/-- A principal who may only read. -/
def user (name : String) : Authentication :=
  .principal name [.read]

/-- Callers who did not say who they are. -/
def anonymous : Authentication :=
  .principal "anonymous" []

/-- Whether a permission is granted, by itself or through administering. -/
def has (who : Authentication) (permission : Permission) : Bool :=
  who.granted.contains permission || who.granted.contains .administer

@[simp] theorem has_system (permission : Permission) : system.has permission = true := by
  cases permission <;> rfl

@[simp] theorem has_administrator (name : String) (permission : Permission) :
    (administrator name).has permission = true := by
  cases permission <;> rfl

end Authentication

end TokenBroker
