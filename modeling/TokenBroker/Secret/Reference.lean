import TokenBroker.Failure
import TokenBroker.Text.Split

/-!
# References to secrets

A configuration may name a secret instead of holding it: `@keyring:service/key` for an entry of the
keyring, or the name of an environment variable in braces after a dollar sign. Every other text is
the secret itself.

One line break after a reference is not part of it.
-/

namespace TokenBroker

/-- What a text in a configuration stands for. -/
inductive SecretReference
  | keyring (service key : String)
  | environment (name : String)
  | malformed
  | literal
  deriving DecidableEq, Inhabited, Repr

namespace SecretReference

def keyringStart : List Char :=
  "@keyring:".toList

/-- A text without the line break that it ends with. -/
def withoutBreak (cs : List Char) : List Char :=
  if cs.getLast? = some '\n' then cs.dropLast else cs

/-- The service and the key of a keyring reference, after its beginning. The service ends at the
first slash, and the key is one line; neither is empty. -/
def keyringParts? (cs : List Char) : Option (String × String) :=
  match Text.cutFirst? '/' cs with
  | some (service, key) =>
    let key := withoutBreak key
    if service.isEmpty || key.isEmpty || key.contains '\n' then none
    else some (String.ofList service, String.ofList key)
  | none => none

/-- A character that a variable may begin with. -/
def isNameStart (c : Char) : Bool :=
  ('A' ≤ c && c ≤ 'Z') || c == '_'

def isNamePart (c : Char) : Bool :=
  isNameStart c || ('0' ≤ c && c ≤ '9')

/-- Whether a text is the name of a variable: capital letters, digits and underscores, not beginning
with a digit. -/
def isVariable : List Char → Bool
  | [] => false
  | c :: rest => isNameStart c && rest.all isNamePart

/-- The variable that a text refers to. -/
def variableName? (cs : List Char) : Option String :=
  match withoutBreak cs with
  | '$' :: '\x7b' :: rest =>
    if rest.getLast? = some '\x7d' && isVariable rest.dropLast then
      some (String.ofList rest.dropLast)
    else none
  | _ => none

/-- What a text stands for. -/
def ofText (text : String) : SecretReference :=
  match Text.dropStart? keyringStart text.toList with
  | some rest =>
    match keyringParts? rest with
    | some (service, key) => .keyring service key
    | none => .malformed
  | none =>
    match variableName? text.toList with
    | some name => .environment name
    | none => .literal

end SecretReference

/-- Where a secret is kept in the keyring. -/
structure SecretPlace where
  service : String
  key : String
  deriving DecidableEq, Inhabited, Repr

namespace SecretPlace

/-- Reads `service/key`; the service ends at the first slash. -/
def parse (text : String) : Except Fault SecretPlace :=
  match Text.cutFirst? '/' text.toList with
  | some (service, key) => .ok ⟨String.ofList service, String.ofList key⟩
  | none =>
    .error (.value ("Invalid reference format: " ++ text
      ++ "\nExpected format: service/key (e.g., store/master_password)"))

/-- The reference to the place. -/
def reference (place : SecretPlace) : String :=
  "@keyring:" ++ place.service ++ "/" ++ place.key

end SecretPlace

end TokenBroker
