import TokenBroker.Failure
import TokenBroker.Number.Binary64

/-!
# The keyring

The keyring of the operating system keeps texts by service and key. It may be missing, or refuse
what it is asked. Entries of the broker are kept apart from those of other programs by a common
beginning of their services.
-/

namespace TokenBroker

/-- How the keyring fails: it reports that there is no such entry, refuses for a reason of its own,
or breaks down. -/
inductive KeyringFailure
  | noEntry (message : String)
  | refused (message : String)
  | broken (cause : Fault)
  deriving DecidableEq, Inhabited, Repr

/-- What the keyring refuses. -/
structure KeyringFailures where
  ask? : Option KeyringFailure := none
  get? : Option KeyringFailure := none
  set? : Option KeyringFailure := none
  delete? : Option KeyringFailure := none
  deriving DecidableEq, Inhabited, Repr

/-- A keyring. Its priority is positive if it can be used at all. -/
structure Keyring where
  entries : List (String × List (String × String)) := []
  priority : Binary64 := .ofInt 1
  failures : KeyringFailures := {}
  deriving DecidableEq, Inhabited, Repr

namespace Keyring

/-! ### Entries -/

/-- The value of the first pair with a key. -/
def valueOf? {α : Type} (key : String) : List (String × α) → Option α
  | [] => none
  | (other, value) :: rest => if other = key then some value else valueOf? key rest

/-- Gives a key a value, in its place if it is there and at the end if not. -/
def withValue {α : Type} (key : String) (value : α) : List (String × α) → List (String × α)
  | [] => [(key, value)]
  | (other, old) :: rest =>
    if other = key then (key, value) :: rest else (other, old) :: withValue key value rest

/-- The keys and values of a service. -/
def serviceEntries (keyring : Keyring) (service : String) : List (String × String) :=
  (valueOf? service keyring.entries).getD []

def entry? (keyring : Keyring) (service key : String) : Option String :=
  valueOf? key (keyring.serviceEntries service)

/-- Replaces the keys and values of a service. -/
def withService (keyring : Keyring) (service : String) (entries : List (String × String)) :
    Keyring :=
  { keyring with entries := withValue service entries keyring.entries }

def insert (keyring : Keyring) (service key value : String) : Keyring :=
  keyring.withService service (withValue key value (keyring.serviceEntries service))

def erase (keyring : Keyring) (service key : String) : Keyring :=
  keyring.withService service ((keyring.serviceEntries service).filter (·.1 != key))

/-! ### Use by the broker -/

/-- The service under which the broker keeps a service of its own. -/
def fullService (service : String) : String :=
  "token-exchange/" ++ service

/-- Whether there is a keyring that works. -/
def available (keyring : Keyring) : Bool :=
  keyring.failures.ask?.isNone && keyring.priority.isPositive

def unavailable : Fault :=
  .failure (.credential .backendNotAvailable "Keyring backend is not available" none
    (some "Configure a keyring backend or use $\x7bVAR_NAME\x7d references"))

def checkAvailable (keyring : Keyring) : Except Fault Unit :=
  if keyring.available then .ok () else .error unavailable

/-- The report of a failure in the middle of an operation on an entry. -/
def report (operation service key : String) : KeyringFailure → Fault
  | .noEntry message | .refused message =>
    .failure (.credential .general (operation ++ ": " ++ message)
      (some ("@keyring:" ++ service ++ "/" ++ key)) none)
  | .broken cause => cause

/-- The secret of a service under a key. Without a key it is the one under the empty key. -/
def get (keyring : Keyring) (service : String) (key? : Option String) :
    Except Fault (Option String) := do
  keyring.checkAvailable
  match keyring.failures.get? with
  | some failure => throw (report "Keyring operation failed" service (key?.getD "None") failure)
  | none => return keyring.entry? (fullService service) (key?.getD "")

/-- Keeps a secret, which may not be empty. -/
def set (keyring : Keyring) (service key value : String) : Except Fault Keyring := do
  keyring.checkAvailable
  if value.isEmpty then throw (.value "Secret value cannot be empty")
  match keyring.failures.set? with
  | some failure => throw (report "Failed to store secret" service key failure)
  | none => return keyring.insert (fullService service) key value

/-- Forgets a secret. The answer is whether there was one. -/
def delete (keyring : Keyring) (service key : String) : Except Fault (Bool × Keyring) := do
  keyring.checkAvailable
  match keyring.failures.delete? with
  | some (.noEntry _) => return (false, keyring)
  | some failure => throw (report "Failed to delete secret" service key failure)
  | none =>
    if (keyring.entry? (fullService service) key).isSome then
      return (true, keyring.erase (fullService service) key)
    return (false, keyring)

end Keyring

end TokenBroker
