import TokenBroker.CommandLine.Report
import TokenBroker.Exchange.Create
import TokenBroker.Store.Opened

/-!
# Where commands run

What a command finds around it. A `Machine` is what it can change: the files, the keyring, and the
world outside, of which nothing is known here but what is done to it. A `Workplace` is what stays as
it is while the command runs.
-/

namespace TokenBroker.CommandLine

/-- What commands change. -/
structure Machine (σ : Type) where
  tree : FileTree
  keyring : Keyring := {}
  outside : σ

/-- What stays the same while a command runs. -/
structure Workplace (σ : Type) where
  environment : Environment
  ciphers : CipherFamily
  freshSalt : ByteArray
  refusals : Refusals := {}
  today : Date
  freshId : σ → String × σ
  issue : TokenRequest → σ → Except Fault Json × σ

namespace Workplace

variable {σ : Type}

/-- The variables that may name the one at the terminal, in the order in which they count. -/
def operatorVariables : List String :=
  ["LOGNAME", "USER", "LNAME", "USERNAME"]

/-- The name of the one at the terminal. -/
def operatorName (env : Environment) : String :=
  let names := operatorVariables.filterMap fun name => Keyring.valueOf? name env
  (names.find? (!·.isEmpty)).getD "root"

/-- The one at the terminal. Who can read the store file administers it. -/
def operator (place : Workplace σ) : Authentication :=
  .administrator (operatorName place.environment)

/-- An id that is new. -/
def newId (place : Workplace σ) (machine : Machine σ) : String × Machine σ :=
  let (id, outside) := place.freshId machine.outside
  (id, { machine with outside := outside })

/-- A way to save to the files of a machine. -/
def saver (save : Saver FileTree) : Saver (Machine σ) := fun store machine =>
  let (result, tree) := save store machine.tree
  (result, { machine with tree := tree })

/-- What an exchange with a store that is saved in some way finds around it. -/
def surroundings (place : Workplace σ) (save : Saver FileTree) : Surroundings (Machine σ) :=
  { save := saver save
    freshId := place.newId
    issue := fun request machine =>
      let (answer, outside) := place.issue request machine.outside
      (answer, { machine with outside := outside })
    today := place.today }

/-- Opens the configured store for a command. -/
def withStore (place : Workplace σ) (settings : Settings) (machine : Machine σ)
    (run : OpenedStore → Machine σ → Report × Machine σ) : Report × Machine σ :=
  let (opened, tree) := OpenedStore.open? settings.store place.ciphers place.refusals
    place.freshSalt machine.tree
  let machine := { machine with tree := tree }
  match opened with
  | .ok opened => run opened machine
  | .error fault => (.ofFault fault, machine)

end Workplace

end TokenBroker.CommandLine
