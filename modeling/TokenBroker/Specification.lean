import TokenBroker.Requirement
import TokenBroker.Text.Glob

/-!
# Specifications

A specification says for which requirements a domain is meant. It answers by the first requirement
that it understands, and `unknown` if there is none.

The fields of a specification come from a document that anyone may have edited, so they are JSON
values. A test that has to read a field as text ends with a `KindError` where the field is not.
-/

namespace TokenBroker

/-- What a domain is meant for: one of several schemes, or hosts by comma-separated patterns. -/
inductive Specification
  | scheme (schemes : List Json)
  | host (includes excludes : Json)
  deriving DecidableEq, Inhabited, Repr

/-- The answer of a specification. -/
inductive Verdict
  | unknown
  | positive
  | negative
  deriving DecidableEq, Inhabited, Repr

def Verdict.name : Verdict → String
  | .unknown => "unknown"
  | .positive => "positive"
  | .negative => "negative"

namespace Specification

/-- The lowercase patterns of a comma-separated text, without the blank ones. -/
def splitPatterns (text : String) : List (List Char) :=
  ((Text.splitOn ',' text.toList).map Text.strip).filterMap fun pattern =>
    if pattern.isEmpty then none else some (Text.lower pattern)

/-- The patterns in a field; an absent or empty one has none. -/
def patterns : Json → Except KindError (List (List Char))
  | .str text => .ok (splitPatterns text)
  | field => if field.truthy then .error .lacksOperation else .ok []

/-- The lowercase text of a field. -/
def loweredField : Json → Except KindError String
  | .str text => .ok (lowered text)
  | _ => .error .lacksOperation

/-- Whether one of the patterns matches a lowercase host. -/
def anyMatch (patterns : List (List Char)) (host : List Char) : Bool :=
  patterns.any fun pattern => Glob.isMatch pattern host

/-- Tests a host: exclusion comes first, and no patterns include every host. -/
def testHost (includes excludes : Json) (host : String) : Except KindError Verdict := do
  let host := Text.lower host.toList
  if anyMatch (← patterns excludes) host then return .negative
  let included ← patterns includes
  return if included.isEmpty || anyMatch included host then .positive else .negative

/-- Tests a specification against requirements. -/
def test (spec : Specification) (requirements : List Requirement) : Except KindError Verdict :=
  match spec with
  | .scheme schemes => do
    let accepted ← schemes.mapM loweredField
    match requirements.findSome? Requirement.scheme? with
    | none => return .unknown
    | some wanted => return if accepted.contains (lowered wanted) then .positive else .negative
  | .host includes excludes =>
    match requirements.findSome? Requirement.host? with
    | none => .ok .unknown
    | some wanted => testHost includes excludes wanted

/-- The specifications of exactly the scheme and the host of a URL. -/
def ofUrl (url : ServerUrl) : List Specification :=
  [.scheme [.str url.scheme], .host (.str url.host) .null]

/-- Whether two specifications have the same fields. -/
def same : Specification → Specification → Bool
  | .scheme a, .scheme b => Json.same (.arr a) (.arr b)
  | .host includes excludes, .host includes' excludes' =>
    Json.same includes includes' && Json.same excludes excludes'
  | _, _ => false

end Specification

end TokenBroker
