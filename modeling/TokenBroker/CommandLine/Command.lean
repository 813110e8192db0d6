import TokenBroker.CommandLine.Arguments

/-!
# Commands

The commands of the program, what each of them takes, and what a command line comes to: an
`Invocation` is a command with everything that it needs.
-/

namespace TokenBroker.CommandLine

/-- The commands that have a word of their own for what they are about. -/
inductive Group
  | credentials
  | secrets
  deriving DecidableEq, Inhabited, Repr

namespace Group

def all : List Group :=
  [.credentials, .secrets]

def word : Group → String
  | .credentials => "credentials"
  | .secrets => "secrets"

def grammar (group : Group) : Grammar :=
  { words := [group.word], takesCommand := true }

end Group

/-- The commands. -/
inductive Command
  | createToken
  | createTokenByPassword
  | listCandidates
  | serve
  | addCredential
  | listCredentials
  | removeCredential
  | listDomains
  | removeDomain
  | setSecret
  | deleteSecret
  deriving DecidableEq, Inhabited, Repr

/-- A command with everything that it needs. -/
inductive Invocation
  | createToken (serverUrl credentialsId : String)
  | createTokenByPassword (serverUrl username password : String)
  | listCandidates (serverUrl credentialsId : String)
  | serve (host? : Option String) (port? : Option Int)
  | addCredential (username password : String) (id? : Option String) (description : String)
      (serverUrl? owner? : Option String)
  | listCredentials
  | removeCredential (id : String)
  | listDomains
  | removeDomain (name : String)
  | setSecret (reference value : String)
  | deleteSecret (reference : String)
  deriving DecidableEq, Inhabited, Repr

/-! ### What commands take -/

def serverUrlOption : Parameter :=
  { name := "--server-url" }

/-- A flag that answers a question beforehand. -/
def confirmationOption (question : String) : Parameter :=
  { name := "--yes", kind := .flag, question? := some (.confirmation question) }

/-- The options of the program itself. -/
def programGrammar : Grammar :=
  { words := []
    options := [{ name := "--config" }, { name := "--log-level" }]
    takesCommand := true }

namespace Command

def all : List Command :=
  [.createToken, .createTokenByPassword, .listCandidates, .serve, .addCredential,
   .listCredentials, .removeCredential, .listDomains, .removeDomain, .setSecret, .deleteSecret]

/-- The group of a command, and its word. -/
def place : Command → Option Group × String
  | .createToken => (none, "create-token")
  | .createTokenByPassword => (none, "create-token-password")
  | .listCandidates => (none, "list-candidates")
  | .serve => (none, "serve")
  | .addCredential => (some .credentials, "add")
  | .listCredentials => (some .credentials, "list")
  | .removeCredential => (some .credentials, "remove")
  | .listDomains => (some .credentials, "domains")
  | .removeDomain => (some .credentials, "remove-domain")
  | .setSecret => (some .secrets, "set")
  | .deleteSecret => (some .secrets, "delete")

def ofPlace? (group? : Option Group) (word : String) : Option Command :=
  all.find? (·.place == (group?, word))

def options : Command → List Parameter
  | .createToken => [serverUrlOption, { name := "--credentials-id", required := true }]
  | .createTokenByPassword =>
    [serverUrlOption, { name := "--username", required := true },
     { name := "--password", question? := some (.hidden "Password") }]
  | .listCandidates => [serverUrlOption, { name := "--credentials-id" }]
  | .serve => [{ name := "--host" }, { name := "--port", kind := .integer }]
  | .addCredential =>
    [{ name := "--username", required := true },
     { name := "--password", question? := some (.hiddenTwice "Password") }, { name := "--id" },
     { name := "--description" }, serverUrlOption, { name := "--owner" }]
  | .listCredentials | .listDomains => []
  | .removeCredential =>
    [confirmationOption "Are you sure you want to delete this credential?"]
  | .removeDomain =>
    [confirmationOption "Are you sure you want to delete this domain and its credentials?"]
  | .setSecret => [{ name := "--value", question? := some (.hiddenTwice "Value") }]
  | .deleteSecret => [confirmationOption "Are you sure you want to delete this secret?"]

/-- The name of the argument of a command, if it has one. -/
def argument? : Command → Option String
  | .removeCredential => some "CREDENTIAL_ID"
  | .removeDomain => some "NAME"
  | .setSecret | .deleteSecret => some "REFERENCE"
  | _ => none

def grammar (command : Command) : Grammar :=
  { words := (command.place.1.map (·.word)).toList ++ [command.place.2]
    options := command.options
    argument? := command.argument? }

end Command

/-! ### Filling in -/

/-- The values of options, with the argument. -/
structure Filled where
  values : List (String × String) := []
  argument : String := ""
  deriving DecidableEq, Inhabited, Repr

/-- The value of an option, the last one of several. -/
def Filled.value? (filled : Filled) (name : String) : Option String :=
  (filled.values.reverse.find? (·.1 == name)).map (·.2)

/-- The invocation of a command with given values. -/
def Command.invocation (filled : Filled) : Command → Invocation :=
  let value? := filled.value?
  let value (name : String) := (value? name).getD ""
  fun
    | .createToken => .createToken (value "--server-url") (value "--credentials-id")
    | .createTokenByPassword =>
      .createTokenByPassword (value "--server-url") (value "--username") (value "--password")
    | .listCandidates => .listCandidates (value "--server-url") (value "--credentials-id")
    | .serve =>
      .serve (value? "--host") ((value? "--port").bind fun s => Text.integer? s.toList)
    | .addCredential =>
      .addCredential (value "--username") (value "--password") (value? "--id")
        (value "--description") (value? "--server-url") (value? "--owner")
    | .listCredentials => .listCredentials
    | .removeCredential => .removeCredential filled.argument
    | .listDomains => .listDomains
    | .removeDomain => .removeDomain filled.argument
    | .setSecret => .setSecret filled.argument (value "--value")
    | .deleteSecret => .deleteSecret filled.argument

/-- What has been asked for so far: the answers, what was printed, and the lines that are left. -/
structure Asking where
  answers : List (String × String) := []
  output : String := ""
  input : List String
  deriving DecidableEq, Inhabited, Repr

namespace Asking

/-- The answer to a question as the value of an option. -/
def note {α : Type} (asking : Asking) (name : String) (value : α → Option String)
    (asked : Prompt.Asked α) : Except Report Asking :=
  let output := asking.output ++ asked.output
  match asked.answer? with
  | none => .error (Report.aborted.after output)
  | some (answer, input) =>
    match value answer with
    | none => .error (Report.aborted.after output)
    | some text =>
      .ok { answers := asking.answers ++ [(name, text)], output := output, input := input }

/-- Asks for an option. -/
def ask (asking : Asking) (name : String) : Question → Except Report Asking
  | .hidden label => asking.note name some (Prompt.hidden label asking.input)
  | .hiddenTwice label => asking.note name some (Prompt.hiddenTwice label asking.input)
  | .confirmation question =>
    asking.note name (fun yes => if yes then some "" else none)
      (Prompt.confirm question asking.input)

/-- Takes an option that is not given: it is asked for, or missing, or not needed. -/
def supply (asking : Asking) (g : Grammar) (option : Parameter) : Except Report Asking :=
  match option.question? with
  | some question => asking.ask option.name question
  | none =>
    if option.required then
      .error ((g.misused ("Missing option " ++ quoted option.name ++ ".")).after asking.output)
    else .ok asking

end Asking

namespace Grammar

/-- Refuses values that are no integers where integers are wanted. -/
def checkIntegers (g : Grammar) (given : Filled) : Except Report Unit :=
  g.options.forM fun option =>
    match option.kind, given.value? option.name with
    | .integer, some text =>
      if (Text.integer? text.toList).isSome then .ok ()
      else .error (g.misused ("Invalid value for " ++ quoted option.name ++ ": " ++ quoted text
        ++ " is not a valid integer."))
    | _, _ => .ok ()

/-- The argument among words, and the words that are too many. -/
def takeArgument (g : Grammar) : List String → Except Report (String × List String)
  | [] =>
    match g.argument? with
    | some name => .error (g.misused ("Missing argument " ++ quoted name ++ "."))
    | none => .ok ("", [])
  | word :: rest => if g.argument?.isSome then .ok (word, rest) else .ok ("", word :: rest)

/-- Refuses words that are too many. -/
def checkRest (g : Grammar) : List String → Except Report Unit
  | [] => .ok ()
  | [word] => .error (g.misused ("Got unexpected extra argument (" ++ word ++ ")"))
  | words => .error (g.misused ("Got unexpected extra arguments (" ++ " ".intercalate words ++ ")"))

/-- The values that words give, completed by what is asked for, with what is printed then. -/
def fill (g : Grammar) (found : Found) (input : List String) : Except Report (Filled × String) := do
  g.checkIntegers { values := found.given }
  let (argument, extra) ← g.takeArgument found.others
  let absent := g.options.filter fun option => !found.given.any (·.1 == option.name)
  let asking ← absent.foldlM (fun asking option => Asking.supply asking g option)
    ({ input := input } : Asking)
  (g.checkRest extra).mapError (·.after asking.output)
  return ({ values := found.given ++ asking.answers, argument := argument }, asking.output)

end Grammar

end TokenBroker.CommandLine
