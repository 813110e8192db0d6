import TokenBroker.Specification

/-!
# Domains

A domain is a named part of the store with specifications of the places it is meant for. The global
domain has no name. Two domains are the same if their names are.
-/

namespace TokenBroker

/-- A named part of the store. -/
structure Domain where
  name : Json := .null
  description : Json := .null
  specifications : List Specification := []
  deriving DecidableEq, Inhabited, Repr

namespace Domain

/-- The domain without a name, meant for every place. -/
def global : Domain := {}

def isGlobal (domain : Domain) : Bool :=
  domain.name == .null

/-- Whether two domains have the same name. -/
def same (a b : Domain) : Bool :=
  Json.same a.name b.name

/-- Whether no specification in a list answers `negative`; those after the first that does are not
asked. -/
def noneNegative (requirements : List Requirement) :
    List Specification → Except KindError Bool
  | [] => .ok true
  | spec :: rest => do
    match ← spec.test requirements with
    | .negative => return false
    | _ => noneNegative requirements rest

/-- Whether a domain is meant for a place. -/
def accepts (domain : Domain) (requirements : List Requirement) : Except KindError Bool :=
  noneNegative requirements domain.specifications

end Domain

end TokenBroker
