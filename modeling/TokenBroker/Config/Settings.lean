import TokenBroker.Config.Reading
import TokenBroker.Permission

/-!
# Settings

What the broker is configured with, section by section, and how the sections are read from the
entries of a map. Names that no section knows are ignored within sections and refused at the top;
there a name may be written in any case.
-/

namespace TokenBroker

/-! ### Sections -/

/-- The server that a blank URL stands for, how tokens are made, and how servers are talked to. -/
structure GitLabSettings where
  defaultServer : RequestUrl
  tokenName : String
  tokenLifetime? : Option Int
  timeout : Binary64
  verifiesCertificates : Bool
  deriving DecidableEq, Inhabited, Repr

/-- Where credentials are kept. -/
inductive StoreKind
  | encryptedFile
  | memory
  deriving DecidableEq, Inhabited, Repr

structure StoreSettings where
  kind : StoreKind
  path : FilePath
  masterPassword? : Option String
  deriving DecidableEq, Inhabited, Repr

/-- A caller of the HTTP service, who is known by a key. -/
structure Principal where
  name : String
  apiKey : String
  administrator : Bool
  deriving DecidableEq, Inhabited, Repr

structure ServiceSettings where
  host : String
  port : Int
  principals : List Principal
  deriving DecidableEq, Inhabited, Repr

structure Settings where
  gitlab : GitLabSettings
  store : StoreSettings
  service : ServiceSettings
  logLevel : String
  deriving DecidableEq, Inhabited, Repr

/-! ### Names -/

namespace StoreKind

def name : StoreKind → String
  | .encryptedFile => "encrypted_file"
  | .memory => "memory"

def options : List (String × StoreKind) :=
  [.encryptedFile, .memory].map fun kind => (kind.name, kind)

end StoreKind

/-- The text of the server that a blank URL stands for, without slashes at its end. -/
def GitLabSettings.serverUrl (settings : GitLabSettings) : String :=
  String.ofList (Text.dropTrailing '/' settings.defaultServer.toString.toList)

/-- The identity that a principal acts as. -/
def Principal.identity (principal : Principal) : Authentication :=
  if principal.administrator then .administrator principal.name else .user principal.name

/-! ### Reading -/

open ConfigValue

namespace GitLabSettings

def fieldNames : List String :=
  ["default_server_url", "token_name", "token_expires_in_days", "timeout", "verify_ssl"]

def defaultServerOf : RequestUrl :=
  { scheme := "https", host := "gitlab.com", path := "/" }

def read (entries : ConfigEntries) : Checked GitLabSettings :=
  GitLabSettings.mk
    <$> readEntry entries "default_server_url" defaultServerOf readAddress
    <*> readEntry entries "token_name" "mytoken" (readText 1)
    <*> readEntry entries "token_expires_in_days" none (readNullable (readIntegerIn 1 365))
    <*> readEntry entries "timeout" (.ofInt 30) readPositive
    <*> readEntry entries "verify_ssl" true readTruth

end GitLabSettings

namespace StoreSettings

def fieldNames : List String :=
  ["backend", "path", "master_password"]

def read (resolve : SecretSource) (entries : ConfigEntries) : Checked StoreSettings :=
  StoreSettings.mk
    <$> readEntry entries "backend" .encryptedFile (readOption StoreKind.options)
    <*> readEntry entries "path" (.ofString ".token-exchange/credentials.enc") readPath
    <*> readEntry entries "master_password" none (readNullable (readSecret resolve))

end StoreSettings

namespace Principal

def read (resolve : SecretSource) (entries : ConfigEntries) : Checked Principal :=
  Principal.mk
    <$> readRequired entries "name" (readText 1)
    <*> readRequired entries "api_key" (readSecret resolve)
    <*> readEntry entries "administrator" false readTruth

/-- The names that several principals have, in order. -/
def repeatedNames (principals : List Principal) : List String :=
  let names := principals.map (·.name)
  ((names.filter fun name => 1 < names.count name).eraseDups).mergeSort (· ≤ ·)

/-- Principals have names of their own, and none has the name of the system. -/
def checkNames (principals : List Principal) : Checked (List Principal) :=
  let repeated := repeatedNames principals
  let reserved := Authentication.system.name
  if !repeated.isEmpty then
    .issue (.refused ("Duplicate principal names: " ++ ", ".intercalate repeated))
  else if principals.any (·.name == reserved) then
    .issue (.refused ("Principal name " ++ reserved ++ " is reserved"))
  else .valid principals

end Principal

namespace ServiceSettings

def fieldNames : List String :=
  ["host", "port", "principals"]

def readPrincipals (resolve : SecretSource) (value : ConfigValue) : Checked (List Principal) :=
  (readList (readSection (Principal.read resolve)) value).andThen Principal.checkNames

def read (resolve : SecretSource) (entries : ConfigEntries) : Checked ServiceSettings :=
  ServiceSettings.mk
    <$> readEntry entries "host" "127.0.0.1" (readText 0)
    <*> readEntry entries "port" 8080 (readIntegerIn 1 65535)
    <*> readEntry entries "principals" [] (readPrincipals resolve)

end ServiceSettings

namespace Settings

def gitlabName : String := "gitlab"
def storeName : String := "store"
def serviceName : String := "server"
def logLevelName : String := "log_level"

/-- The names at the top, with the names within the sections. -/
def sections : List (String × List String) :=
  [(gitlabName, GitLabSettings.fieldNames), (storeName, StoreSettings.fieldNames),
   (serviceName, ServiceSettings.fieldNames)]

def topNames : List String :=
  sections.map (·.1) ++ [logLevelName]

/-- Whether the key of an entry is a name in any case. -/
def isCaseOf (name : String) : Json → Bool
  | .str key => lowered key == name
  | _ => false

/-- Writes the first entry that has a name in another case under the name itself, unless the name is
there already. -/
def withName (entries : ConfigEntries) (name : String) : ConfigEntries :=
  if (find? name entries).isSome then entries
  else
    match entries.find? fun entry => isCaseOf name entry.1 with
    | some (key, _) =>
      entries.map fun entry => if entry.1 = key then (.str name, entry.2) else entry
    | none => entries

/-- The entries with the names at the top as they are known. -/
def withTopNames (entries : ConfigEntries) : ConfigEntries :=
  topNames.foldl withName entries

/-- Refuses the names at the top that are not known. -/
def checkTopNames (entries : ConfigEntries) : Checked Unit :=
  let unknown := entries.filterMap fun (key, _) =>
    if topNames.contains key.display then none else some key.display
  if unknown.isEmpty then .valid ()
  else .invalid (unknown.map fun name => ⟨[.name name], .unknownName⟩)

/-- A section, which is read from no entries where it is not given. -/
def readSectionOf {α : Type} (entries : ConfigEntries) (name : String)
    (read : ConfigEntries → Checked α) : Checked α :=
  match find? name entries with
  | some value => (readSection read value).below (.name name)
  | none => read []

/-- The settings that entries say. -/
def read (resolve : SecretSource) (entries : ConfigEntries) : Checked Settings :=
  (fun gitlab store service logLevel () => Settings.mk gitlab store service logLevel)
    <$> readSectionOf entries gitlabName GitLabSettings.read
    <*> readSectionOf entries storeName (StoreSettings.read resolve)
    <*> readSectionOf entries serviceName (ServiceSettings.read resolve)
    <*> readEntry entries logLevelName "INFO" (readText 0)
    <*> checkTopNames entries

end Settings

end TokenBroker
