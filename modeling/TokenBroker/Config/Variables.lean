import TokenBroker.Config.Settings
import TokenBroker.Json.Parser

/-!
# Settings in environment variables

The variables whose names begin with `TOKEN_EXCHANGE_` say settings too. The rest of a name is a
section, or a section and a name within it with two underscores between them; further pairs of
underscores lead further down. A section by itself is a JSON object, and so are the principals a
JSON list. Names count in any case.
-/

namespace TokenBroker.Variables

/-- The beginning of the names, in lower case. -/
def start : String :=
  "token_exchange_"

/-- The names as they are usually written: of the sections, of what is within them, and of the log
level. -/
def usualNames : List String :=
  let paths := Settings.sections.flatMap fun (area, names) =>
    area :: names.map fun name => area ++ "__" ++ name
  (paths ++ [Settings.logLevelName]).map fun path => (start ++ path).toUpper

/-- The variables with their names in lower case; of several with one name the last one counts. -/
def lowerNames (env : Environment) : Environment :=
  env.foldl (fun kept (name, value) => Keyring.withValue (lowered name) value kept) []

/-- The parts of a name between pairs of underscores. -/
def parts : List Char → List (List Char)
  | [] => [[]]
  | '_' :: '_' :: rest => [] :: parts rest
  | c :: rest =>
    match parts rest with
    | [] => [[c]]
    | part :: others => (c :: part) :: others

/-- Puts a value where names lead to. Nothing happens if something that is no map stands on the
way. -/
def insertAt (value : ConfigValue) : List String → ConfigEntries → ConfigEntries
  | [], entries => entries
  | [name], entries => ConfigValue.insert (.str name) value entries
  | name :: rest, entries =>
    match ConfigValue.find? name entries with
    | some (.map below) =>
      ConfigValue.insert (.str name) (.map (insertAt value rest below)) entries
    | some _ => entries
    | none => ConfigValue.insert (.str name) (.map (insertAt value rest [])) entries

/-- The name of the only list among the settings. -/
def principalsName : String :=
  "principals"

/-- The value of a variable that leads somewhere in a section: a text, but JSON for the principals.
There is none if the JSON cannot be read. -/
def valueAt? (area : String) (names : List String) (text : String) : Option ConfigValue :=
  if area = Settings.serviceName && names = [principalsName] && !text.isEmpty then
    match Json.parse text with
    | .ok value => some (.ofJson value)
    | .error _ => none
  else some (.text text)

/-- What the variables that lead into a section say. There is nothing if one of them cannot be
read. -/
def nested? (area : String) : Environment → ConfigEntries → Option ConfigEntries
  | [], entries => some entries
  | (name, text) :: rest, entries =>
    match Text.dropStart? (start ++ area ++ "__").toList name.toList with
    | none => nested? area rest entries
    | some path =>
      let names := (parts path).map String.ofList
      match valueAt? area names text with
      | some value => nested? area rest (insertAt value names entries)
      | none => none

/-- The entries of a section with its own names as they are known. -/
def withFieldNames (fieldNames : List String) (entries : ConfigEntries) : ConfigEntries :=
  ConfigValue.distinct (entries.map fun (key, value) =>
    match fieldNames.find? fun name => Settings.isCaseOf name key with
    | some name => (.str name, value)
    | none => (key, value))

/-- What the variables say about a section, if they say anything. The error is that one of them
cannot be read. -/
def sectionValue (named : Environment) (area : String) :
    Except Unit (Option ConfigValue) :=
  let nested (below : ConfigEntries) : Except Unit ConfigEntries :=
    match nested? area named [] with
    | some entries => .ok (ConfigValue.overEntries below entries)
    | none => .error ()
  match Keyring.valueOf? (start ++ area) named with
  | none => do
    let entries ← nested []
    return if entries.isEmpty then none else some (.map entries)
  | some text =>
    match Json.parse text with
    | .error _ => .error ()
    | .ok .null => .ok none
    | .ok (.obj members) => do return some (.map (← nested (ConfigValue.ofMembers members)))
    | .ok value => .ok (some (.ofJson value))

/-- The entry of a section. The error is the name of the section. -/
def sectionEntry (named : Environment) (area : String) (fieldNames : List String) :
    Except String ConfigEntries :=
  match sectionValue named area with
  | .error () => .error area
  | .ok none => .ok []
  | .ok (some (.map entries)) => .ok [(.str area, .map (withFieldNames fieldNames entries))]
  | .ok (some value) => .ok [(.str area, value)]

/-- What the environment says. The error is the name of a section about which a variable cannot be
read. -/
def entries (env : Environment) : Except String ConfigEntries := do
  let named := lowerNames env
  let sections ← Settings.sections.mapM fun (name, fieldNames) =>
    sectionEntry named name fieldNames
  let level := match Keyring.valueOf? (start ++ Settings.logLevelName) named with
    | some text => [(Json.str Settings.logLevelName, ConfigValue.text text)]
    | none => []
  return sections.flatten ++ level

end TokenBroker.Variables

namespace TokenBroker

/-- Why there are no settings. -/
inductive SettingsError
  | unreadableVariable (area : String)
  | invalid (issues : List Issue)
  deriving DecidableEq, Inhabited, Repr

namespace SettingsError

def message : SettingsError → String
  | .unreadableVariable area =>
    "error parsing value for field \"" ++ area ++ "\" from source \"EnvSettingsSource\""
  | .invalid issues => Issue.report issues

def issues : SettingsError → List Issue
  | .unreadableVariable _ => []
  | .invalid issues => issues

end SettingsError

namespace Settings

/-- How references to secrets are resolved by the usual sources. -/
def usualSecrets (env : Environment) (keyring : Keyring) : ConfigValue.SecretSource := fun text =>
  (SecretResolver.resolve (SecretBackend.usual env keyring) [] true text).result

/-- The settings that entries say, and where they say nothing the environment. -/
def load (env : Environment) (keyring : Keyring) (given : ConfigEntries) :
    Except SettingsError Settings := do
  let fromEnvironment ← (Variables.entries env).mapError .unreadableVariable
  let entries := ConfigValue.overEntries fromEnvironment (withTopNames given)
  (read (usualSecrets env keyring) entries).toExcept.mapError .invalid

end Settings

end TokenBroker
