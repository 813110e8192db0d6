import TokenBroker.Json.Basic

/-!
# Outcomes and choices

What an administrative operation shows: an `Outcome`, which is a message that says whether the
operation succeeded, or a list of `Choice`s for a selection.
-/

namespace TokenBroker

/-- The two kinds of outcome. -/
inductive OutcomeKind
  | ok
  | error
  deriving DecidableEq, Inhabited, Repr

namespace OutcomeKind

def all : List OutcomeKind :=
  [.ok, .error]

/-- The written name. -/
def name : OutcomeKind → String
  | .ok => "ok"
  | .error => "error"

end OutcomeKind

/-- The outcome of an operation; a success may name the credential that it made. -/
inductive Outcome
  | ok (message : String) (credentialId? : Option String)
  | error (message : String)
  deriving DecidableEq, Inhabited, Repr

namespace Outcome

def kind : Outcome → OutcomeKind
  | .ok _ _ => .ok
  | .error _ => .error

def message : Outcome → String
  | .ok message _ => message
  | .error message => message

def credentialId? : Outcome → Option String
  | .ok _ id? => id?
  | .error _ => none

def isOk (outcome : Outcome) : Bool :=
  outcome.kind == .ok

/-- The outcome as a document; the credential is left out where there is none. -/
def encode (outcome : Outcome) : Json :=
  .obj ([("kind", .str outcome.kind.name), ("message", .str outcome.message)]
    ++ (outcome.credentialId?.map fun id => ("credential_id", Json.str id)).toList)

end Outcome

/-- An entry of a selection: what it shows, what it stands for, and whether it is selected. -/
structure Choice where
  label : Json
  value : Json
  selected : Bool := false
  deriving DecidableEq, Inhabited, Repr

/-- The entry as a document. -/
def Choice.encode (choice : Choice) : Json :=
  .obj [("name", choice.label), ("value", choice.value), ("selected", .bool choice.selected)]

end TokenBroker
