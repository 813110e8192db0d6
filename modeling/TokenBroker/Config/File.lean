import TokenBroker.Config.Interpolation
import TokenBroker.Config.Variables
import TokenBroker.FileTree
import TokenBroker.Text.Lines
import TokenBroker.Yaml.Document

/-!
# Configuration files

Settings from a file: its placeholders are replaced by environment variables, what it then describes
has to be a map, and the map gives the settings together with the environment.
-/

namespace TokenBroker

/-- Why a configuration file cannot be used. -/
inductive ConfigFileError
  | notFound (path : String)
  | unreadable (path : String)
  | unsetVariable (message : String)
  | malformed (path : String)
  | notMap
  | otherKeys
  | refused (cause : SettingsError)
  deriving DecidableEq, Inhabited, Repr

namespace ConfigFileError

def message : ConfigFileError → String
  | .notFound path => "Configuration file not found: " ++ path
  | .unreadable path => "Cannot read configuration file: " ++ path
  | .unsetVariable message => "Invalid environment variable reference in config: " ++ message
  | .malformed path => "Invalid YAML syntax in " ++ path ++ ": not a document"
  | .notMap => "Configuration must be a YAML object, not a list or scalar"
  | .otherKeys => "Failed to validate configuration: keywords must be strings"
  | .refused cause => "Failed to validate configuration: " ++ cause.message

end ConfigFileError

namespace ConfigFile

/-- The text of a file. -/
def text (tree : FileTree) (path : String) : Except ConfigFileError String :=
  let file := FilePath.ofString path
  if !tree.exists? file then .error (.notFound path)
  else
    match tree.read file with
    | .error _ => .error (.unreadable path)
    | .ok content =>
      match String.fromUTF8? content with
      | some text => .ok (String.ofList (Text.withLineFeeds text.toList))
      | none => .error (.unreadable path)

def isTextKey : Json → Bool
  | .str _ => true
  | _ => false

/-- The entries that a value gives: none if it is null or empty. -/
def entriesOf (value : ConfigValue) : Except ConfigFileError ConfigEntries :=
  if !value.truthy then .ok []
  else
    match value with
    | .map entries =>
      if entries.all fun entry => isTextKey entry.1 then .ok entries else .error .otherKeys
    | _ => .error .notMap

/-- The entries that a text describes. The path is for messages. -/
def entries (env : Environment) (path text : String) : Except ConfigFileError ConfigEntries := do
  let text ← (Interpolation.interpolate env text).mapError fun fault => .unsetVariable fault.message
  match Yaml.parse? text with
  | none => throw (.malformed path)
  | some value => entriesOf value

/-- The settings in a file. -/
def load (env : Environment) (keyring : Keyring) (tree : FileTree) (path : String) :
    Except ConfigFileError Settings := do
  let found ← entries env path (← text tree path)
  (Settings.load env keyring found).mapError .refused

end ConfigFile

end TokenBroker
