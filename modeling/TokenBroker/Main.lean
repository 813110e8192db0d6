import Std.Time.Zoned
import TokenBroker.CommandLine.Program
import TokenBroker.GitLab.Issuer
import TokenBroker.RandomId

/-!
# The program at a terminal

Gathers what a run of the program finds around it, which is variables, files and typed lines, prints
what it reports, and writes the files that it changed.

A run here has no keyring, no connection to any server, and nothing to listen with. Its stores are
sealed with `Cipher.labelled`, so they hide nothing.
-/

namespace TokenBroker.Terminal

/-! ### What a run finds -/

/-- A server that cannot be reached. -/
def unreachable : HttpServer :=
  fun _ => .failure "Network is unreachable"

/-- A keyring that cannot be used. -/
def noKeyring : Keyring :=
  { priority := .ofInt 0 }

/-- The variables that every run may need. -/
def variableNames : List String :=
  CommandLine.configVariable :: CommandLine.Workplace.operatorVariables ++ Variables.usualNames

/-- The files that a store is kept in. -/
def storeFiles (settings : Settings) : List FilePath :=
  [settings.store.path, EncryptedFile.saltPath settings.store.path]

/-- Where commands run, with random ids that are made beforehand. -/
def workplace (env : Environment) (salt : ByteArray) (today : Date) :
    CommandLine.Workplace (List String) :=
  { environment := env
    ciphers := Cipher.labelled
    freshSalt := salt
    today := today
    freshId := fun ids => (ids.headD "", ids.tail)
    issue := fun request ids =>
      ((Issuer.issue HttpClient.standard unreachable request []).1, ids) }

/-! ### Reading -/

/-- The variables with given names that are set. -/
def readVariables (names : List String) : IO Environment :=
  names.eraseDups.filterMapM fun name => do
    return (← IO.getEnv name).map fun value => (name, value)

/-- The content of a file that can be read. -/
def readFile? (path : FilePath) : IO (Option ByteArray) := do
  try
    return some (← IO.FS.readBinFile path.toString)
  catch _ => return none

/-- The tree with a file that can be read. -/
def withRealFile (tree : FileTree) (path : FilePath) : IO FileTree := do
  match ← readFile? path with
  | some content => return (tree.withFile path content).toOption.getD tree
  | none => return tree

/-- The lines until the input ends. -/
partial def readLines (input : IO.FS.Stream) : IO (List String) := do
  let line ← input.getLine
  if line.isEmpty then return []
  return (Text.lines line.toList).map String.ofList ++ (← readLines input)

/-- The day according to the clock. -/
def today : IO Date := do
  let day ← Std.Time.PlainDate.now
  return (Date.ofParts? day.year.toInt.toNat day.month.toNat day.day.toNat).getD default

def randomIds : Nat → IO (List String)
  | 0 => return []
  | count + 1 => do
    let id := RandomId.ofBytes (← IO.getRandomBytes RandomId.size.toUSize)
    return id :: (← randomIds count)

/-! ### Writing -/

/-- Writes a file that was not there before or has changed. -/
def writeChanged (before : FileTree) (entry : FilePlace × FileNode) : IO Unit := do
  let (place, node) := entry
  match node with
  | .directory => return
  | .file content mode =>
    if before.node? place = some node then return
    let path : FilePath := { anchor := place.anchor, names := place.names }
    IO.FS.createDirAll path.parent.toString
    IO.FS.writeBinFile path.toString content
    if mode = FileTree.privateMode then
      IO.setAccessRights path.toString { user := { read := true, write := true } }

/-- What is left to say of a report after what it printed. -/
def lastWords (report : Report) : List String :=
  (report.crash?.map fun
    | .fault cause => "Error: " ++ cause.message
    | .settings cause => "Error: " ++ cause.message).toList
    ++ (report.listener?.map fun listener =>
      "Error: cannot listen on " ++ listener.host ++ ":" ++ toString listener.port).toList

/-! ### A run -/

def run (words : List String) : IO UInt32 := do
  let usual ← readVariables variableNames
  let path? := CommandLine.configPathFor? usual words
  let files ← (path?.map FilePath.ofString).toList.foldlM withRealFile {}
  let config := path?.bind fun path => (ConfigFile.text files path).toOption
  let mentioned := (config.toList ++ usual.map (·.2)).flatMap Interpolation.mentioned
  let env := usual ++ (← readVariables (mentioned.filter fun name => !usual.any (·.1 == name)))
  let machine : CommandLine.Machine (List String) :=
    { tree := files, keyring := noKeyring, outside := ← randomIds 4 }
  let stores := match CommandLine.settingsFor env machine path? with
    | .ok settings => storeFiles settings
    | .error _ => []
  let machine := { machine with tree := ← stores.foldlM withRealFile files }
  let place := workplace env (← IO.getRandomBytes 16) (← today)
  let typed ← if CommandLine.asks env machine words then readLines (← IO.getStdin) else pure []
  let (report, after) := CommandLine.run place words typed machine
  IO.print report.output
  IO.eprint report.errors
  (lastWords report).forM IO.eprintln
  after.tree.nodes.forM (writeChanged machine.tree)
  return if report.listener?.isSome then 1 else report.exitCode.toUInt32

end TokenBroker.Terminal

def main (words : List String) : IO UInt32 :=
  TokenBroker.Terminal.run words
