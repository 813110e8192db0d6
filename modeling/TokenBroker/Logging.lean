import TokenBroker.Json.Basic

/-!
# Log levels

What is logged under a configured level. The level is named in any case; a name that is not known
means `info`. An event that is logged is a JSON object of its fields, its name and its level.
-/

namespace TokenBroker

/-- How grave an event is. -/
inductive LogLevel
  | debug
  | info
  | warning
  | error
  | critical
  deriving DecidableEq, Inhabited, Repr

namespace LogLevel

def all : List LogLevel :=
  [.debug, .info, .warning, .error, .critical]

def name : LogLevel → String
  | .debug => "debug"
  | .info => "info"
  | .warning => "warning"
  | .error => "error"
  | .critical => "critical"

def ofName? (name : String) : Option LogLevel :=
  all.find? (·.name == name)

/-- The gravity of a level. -/
def gravity : LogLevel → Nat
  | .debug => 10
  | .info => 20
  | .warning => 30
  | .error => 40
  | .critical => 50

/-- A character of a configured level in upper case; besides the letters of ASCII two others have
an upper case there. -/
def upperChar (c : Char) : Char :=
  if c = '\u0131' then 'I' else if c = '\u017f' then 'S' else c.toUpper

/-- The gravity that events must have under a configured level. -/
def threshold (configured : String) : Nat :=
  match configured.map upperChar with
  | "NOTSET" => 0
  | "DEBUG" => 10
  | "INFO" => 20
  | "WARNING" | "WARN" => 30
  | "ERROR" => 40
  | "CRITICAL" | "FATAL" => 50
  | _ => 20

end LogLevel

/-- Something to be logged. -/
structure LogEvent where
  level : LogLevel
  name : Json
  fields : List (String × Json) := []
  deriving DecidableEq, Inhabited, Repr

namespace LogEvent

/-- The line of an event; its name and level win over fields of those names. -/
def encode (event : LogEvent) : Json :=
  .obj (Json.setMember "level" (.str event.level.name)
    (Json.setMember "event" event.name event.fields))

/-- The events that are logged under a configured level. -/
def logged (configured : String) (events : List LogEvent) : List LogEvent :=
  events.filter fun event => LogLevel.threshold configured ≤ event.level.gravity

end LogEvent

end TokenBroker
