import TokenBroker.Domain

/-!
# Domains in listings

One line for a domain: its name, and between brackets what it is meant for. The fields of a store
document are shown as they are; a list of schemes has to be a list of texts.
-/

namespace TokenBroker

/-- The text of a field that may only be a text. -/
def requireText : Json → Except KindError String
  | .str text => .ok text
  | _ => .error .refused

namespace Specification

/-- What a specification says, part by part. -/
def summary : Specification → Except KindError (List String)
  | .scheme schemes => do
    return ["scheme=" ++ ",".intercalate (← schemes.mapM requireText)]
  | .host includes excludes =>
    .ok (("host=" ++ if includes.truthy then includes.display else "*")
      :: if excludes.truthy then ["exclude=" ++ excludes.display] else [])

end Specification

/-- A domain in one line. -/
def Domain.summary (domain : Domain) : Except KindError String := do
  if domain.isGlobal then return "(global)"
  let parts ← domain.specifications.mapM Specification.summary
  let name := domain.name.display
  if parts.flatten.isEmpty then return name
  return name ++ " [" ++ " ".intercalate parts.flatten ++ "]"

end TokenBroker
