import TokenBroker.CommandLine.Credentials
import TokenBroker.CommandLine.Help
import TokenBroker.CommandLine.Secrets
import TokenBroker.CommandLine.Tokens
import TokenBroker.Config.File

/-!
# The program

A run of the program: the words of the command line and what is typed in lead to an invocation under
settings, and the invocation to a report. The settings are read before anything is asked for, and
everything is asked for before the command begins.
-/

namespace TokenBroker.CommandLine

variable {σ : Type}

/-! ### From words to an invocation -/

/-- A run that printed help. -/
def helped (g : Grammar) (lines : List String) : Report :=
  { output := helpText g lines }

/-- A run that ends since nothing was said about what to do. -/
def helpedAfterNothing (g : Grammar) (lines : List String) : Report :=
  { exitCode := 2, errors := helpText g lines }

/-- The options before a command, and the word for the command with what follows it. -/
def findCommandWord (g : Grammar) (help : List String) (words : List String) :
    Except Report (Found × String × List String) := do
  if words.isEmpty then throw (helpedAfterNothing g help)
  let found ← find g words
  if Grammar.isHelpAsked found.given then throw (helped g help)
  match found.others with
  | [] => throw (g.misused "Missing command.")
  | word :: rest => return (found, word, rest)

/-- The words for commands in a group, or for those outside the groups and the groups themselves. -/
def commandWords (group? : Option Group) : List String :=
  let commands := (Command.all.filter (·.place.1 == group?)).map (·.place.2)
  if group?.isNone then commands ++ Group.all.map (·.word) else commands

/-- The refusal of an unknown command. If its word is an option it is taken as one first. -/
def noSuchCommand (group? : Option Group) (g : Grammar) (help : List String) (word : String)
    (rest : List String) : Report :=
  match find g (word :: rest) with
  | .error report => report
  | .ok found =>
    if Grammar.isHelpAsked found.given then helped g help
    else
      g.misused ("No such command " ++ quoted word ++ "." ++ suggestion word (commandWords group?))

/-- A command or a group of commands, by its word. -/
def commandOrGroup? (word : String) : Option (Command ⊕ Group) :=
  match Command.ofPlace? none word with
  | some command => some (.inl command)
  | none => (Group.all.find? (·.word == word)).map .inr

/-- The invocation of a command with the words after it. -/
def invocationOf (command : Command) (words input : List String) :
    Except Report (Invocation × String) := do
  let g := command.grammar
  let found ← find g words
  if Grammar.isHelpAsked found.given then throw (helped g command.help)
  let (filled, output) ← g.fill found input
  return (command.invocation filled, output)

/-- The invocation of a command of a group. -/
def groupInvocation (group : Group) (words input : List String) :
    Except Report (Invocation × String) := do
  let (_, word, rest) ← findCommandWord group.grammar group.help words
  match Command.ofPlace? (some group) word with
  | some command => invocationOf command rest input
  | none => throw (noSuchCommand (some group) group.grammar group.help word rest)

/-! ### Settings -/

def configVariable : String :=
  "TOKEN_EXCHANGE_CONFIG"

/-- The configuration file that is named on the command line, or else by a variable. -/
def configPath? (env : Environment) (given : List (String × String)) : Option String :=
  let filled : Filled := { values := given }
  ((filled.value? "--config") <|> Keyring.valueOf? configVariable env).filter (!·.isEmpty)

/-- The configuration file for a run, as far as the words of the command line can be read. -/
def configPathFor? (env : Environment) (words : List String) : Option String :=
  match find programGrammar words with
  | .ok found => configPath? env found.given
  | .error _ => none

/-- The settings from a file, or from the environment alone. -/
def settingsFor (env : Environment) (machine : Machine σ) (path? : Option String) :
    Except Report Settings :=
  match path? with
  | some path =>
    (ConfigFile.load env machine.keyring machine.tree path).mapError fun error =>
      .failed error.message
  | none =>
    (Settings.load env machine.keyring []).mapError fun error =>
      match error with
      | .invalid issues => .failed ("invalid configuration: " ++ Issue.report issues)
      | .unreadableVariable _ => .crashed (.settings error)

/-! ### Runs -/

/-- What words and typed lines come to: settings and an invocation, with what was printed on the
way. -/
def prepare (env : Environment) (machine : Machine σ) (words input : List String) :
    Except Report (Settings × Invocation × String) := do
  let (found, word, rest) ← findCommandWord programGrammar programHelp words
  match commandOrGroup? word with
  | none => throw (noSuchCommand none programGrammar programHelp word rest)
  | some target =>
    let settings ← settingsFor env machine (configPath? env found.given)
    let (invocation, output) ← match target with
      | .inl command => invocationOf command rest input
      | .inr group => groupInvocation group rest input
    return (settings, invocation, output)

/-- Whether a run asks for anything. -/
def asks (env : Environment) (machine : Machine σ) (words : List String) : Bool :=
  match prepare env machine words [] with
  | .error report => report.errors == Report.aborted.errors
  | .ok _ => false

/-- Runs something that changes nothing but the keyring. -/
def onKeyring (machine : Machine σ) (run : Keyring → Report × Keyring) : Report × Machine σ :=
  let (report, keyring) := run machine.keyring
  (report, { machine with keyring := keyring })

/-- What an invocation does. -/
def Invocation.run (place : Workplace σ) (settings : Settings) (machine : Machine σ) :
    Invocation → Report × Machine σ
  | .createToken url id => CommandLine.createToken place settings url id machine
  | .createTokenByPassword url username password =>
    CommandLine.createTokenByPassword place settings url username password machine
  | .listCandidates url id => CommandLine.listCandidates place settings url id machine
  | .serve host? port? => CommandLine.serve place settings host? port? machine
  | .addCredential username password id? description url? owner? =>
    CommandLine.addCredential place settings
      { username := username, password := password, description := description, owner? := owner? }
      id? url? machine
  | .listCredentials => CommandLine.listCredentials place settings machine
  | .removeCredential id => CommandLine.removeCredential place settings id machine
  | .listDomains => CommandLine.listDomains place settings machine
  | .removeDomain name => CommandLine.removeDomain place settings name machine
  | .setSecret reference value => onKeyring machine (CommandLine.setSecret reference value)
  | .deleteSecret reference => onKeyring machine (CommandLine.deleteSecret reference)

/-- A run of the program. -/
def run (place : Workplace σ) (words input : List String) (machine : Machine σ) :
    Report × Machine σ :=
  match prepare place.environment machine words input with
  | .error report => (report, machine)
  | .ok (settings, invocation, output) =>
    let (report, machine) := invocation.run place settings machine
    (report.after output, machine)

end TokenBroker.CommandLine
