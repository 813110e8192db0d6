import TokenBroker.CommandLine.Workplace
import TokenBroker.Exchange.Configured

/-!
# Commands for tokens

Exchanging a login at the terminal, the list of logins to choose from, and the start of the service.
-/

namespace TokenBroker.CommandLine

variable {σ : Type}

/-- What an exchange makes of a run. -/
def exchangeReport : Except Fault Outcome → Report
  | .ok outcome => if outcome.isOk then .said outcome.message else .failed outcome.message
  | .error .interrupted => .exited 130 "\nInterrupted by user"
  | .error fault => .ofFault fault

/-- Runs an exchange with the configured store. -/
def runExchange (place : Workplace σ) (settings : Settings) (machine : Machine σ)
    (run : Surroundings (Machine σ) → AccessControl → Store → Machine σ →
      Except Fault Outcome × Store × Machine σ) : Report × Machine σ :=
  place.withStore settings machine fun opened machine =>
    let (result, _, machine) :=
      run (place.surroundings opened.save) (.start place.operator) opened.store machine
    (exchangeReport result, machine)

def createToken (place : Workplace σ) (settings : Settings) (serverUrl credentialsId : String)
    (machine : Machine σ) : Report × Machine σ :=
  runExchange place settings machine fun surroundings acl =>
    settings.exchange.byCredentials surroundings acl (some serverUrl) (some credentialsId)

def createTokenByPassword (place : Workplace σ) (settings : Settings)
    (serverUrl username password : String) (machine : Machine σ) : Report × Machine σ :=
  runExchange place settings machine fun surroundings acl =>
    settings.exchange.byPassword surroundings acl (some serverUrl) (some username) (some password)

/-! ### The list of logins -/

/-- The number of columns for the value of a choice. -/
def valueWidth : Nat :=
  38

def padded (text : String) : String :=
  text ++ String.ofList (List.replicate (valueWidth - text.length) ' ')

/-- The value of a choice in its column, a hyphen for none. Lists and objects cannot be shown. -/
def valueColumn (value : Json) : Except Fault String :=
  if !value.truthy then .ok (padded "-")
  else
    match value with
    | .bool _ => .ok (padded "1")
    | .arr _ | .obj _ => .error (.kind .refused)
    | value => .ok (padded value.display)

def choiceLine (choice : Choice) : Except Fault String := do
  let mark := if choice.selected then "*" else " "
  return mark ++ " " ++ (← valueColumn choice.value) ++ " " ++ choice.label.display

def listCandidates (place : Workplace σ) (settings : Settings) (serverUrl credentialsId : String)
    (machine : Machine σ) : Report × Machine σ :=
  place.withStore settings machine fun opened machine =>
    match settings.exchange.choices (.start place.operator) opened.store (some serverUrl)
        (some credentialsId) with
    | .ok choices => (.lines (choices.map choiceLine), machine)
    | .error fault => (.crashed (.fault fault), machine)

/-! ### The service -/

/-- A warning where nobody can authenticate. -/
def principalsWarning (principals : List Principal) : String :=
  if principals.isEmpty then "Warning: no principals configured, every caller is anonymous\n"
  else ""

/-- Where the service is to listen; an empty host and the port zero are none. -/
def listener (settings : ServiceSettings) (host? : Option String) (port? : Option Int) : Listener :=
  { host := (host?.filter (!·.isEmpty)).getD settings.host
    port := (port?.filter (· != 0)).getD settings.port }

def serve (place : Workplace σ) (settings : Settings) (host? : Option String) (port? : Option Int)
    (machine : Machine σ) : Report × Machine σ :=
  let (report, machine) := place.withStore settings machine fun _ machine =>
    ({ listener? := some (listener settings.service host? port?) }, machine)
  let warning := principalsWarning settings.service.principals
  ({ report with errors := warning ++ report.errors }, machine)

end TokenBroker.CommandLine
