import TokenBroker.ServerUrl.Basic
import TokenBroker.Failure

/-!
# Requirements

What is known about the place where a credential will be used. `ServerUrl.requirements` lists it
for a server URL: the scheme, the host, the host with its port, which is the usual one of the scheme
if the URL has none, and the path if there is one.
-/

namespace TokenBroker

/-- One fact about the place where a credential will be used. -/
inductive Requirement
  | scheme (scheme : String)
  | host (host : String)
  | hostPort (host : String) (port : Nat)
  | path (path : String)
  deriving DecidableEq, Inhabited, Repr

/-- The scheme that a fact states. -/
def Requirement.scheme? : Requirement → Option String
  | .scheme s => some s
  | _ => none

/-- The host that a fact states, with or without a port. -/
def Requirement.host? : Requirement → Option String
  | .host h => some h
  | .hostPort h _ => some h
  | _ => none

/-- The port that a scheme uses if a URL names none. -/
def usualPort? (scheme : String) : Option Nat :=
  if scheme = "http" then some 80
  else if scheme = "https" then some 443
  else none

/-- A URL that cannot be used is a mistake in the configuration, except that a refused authority is
an unusable value. -/
def UrlError.fault : UrlError → Fault
  | .authority cause => .value cause.message
  | error => .failure (.configuration error.message)

namespace ServerUrl

/-- The port of a URL, or the usual one of its scheme. -/
def effectivePort? (url : ServerUrl) : Option Nat :=
  url.port? <|> usualPort? url.scheme

/-- The requirements of a URL. -/
def requirements (url : ServerUrl) : List Requirement :=
  [.scheme url.scheme, .host url.host]
    ++ (url.effectivePort?.map (Requirement.hostPort url.host)).toList
    ++ (if url.path.isEmpty then [] else [.path url.path])

end ServerUrl

/-- The requirements of a URL given as text. -/
def requirementsOf (text : String) : Except UrlError (List Requirement) :=
  (ServerUrl.parse text).map ServerUrl.requirements

end TokenBroker
