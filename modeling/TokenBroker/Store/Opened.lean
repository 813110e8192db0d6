import TokenBroker.Config.Settings
import TokenBroker.Store.EncryptedFile

/-!
# The configured store

The store that settings name, open and with the way in which it is saved: to its encrypted file, or
nowhere.
-/

namespace TokenBroker

/-- An open store. The path is that of its file. -/
structure OpenedStore where
  name : String
  path? : Option FilePath := none
  store : Store
  save : Saver FileTree

namespace OpenedStore

/-- A store that is kept nowhere, with nothing in it. -/
def inMemory : OpenedStore :=
  { name := StoreKind.memory.name
    store := Store.empty
    save := fun _ tree => (.ok (), tree) }

/-- A store in an encrypted file that has been opened. -/
def ofFile (refusals : Refusals) (file : EncryptedFile) (store : Store) : OpenedStore :=
  { name := StoreKind.encryptedFile.name
    path? := some file.path
    store := store
    save := file.save refusals }

def noMasterPassword : Fault :=
  .failure (.configuration ("store.master_password is required for the encrypted_file store "
    ++ "(e.g. master_password: \"@keyring:store/master_password\")"))

/-- Opens the store that settings name. -/
def open? (settings : StoreSettings) (ciphers : CipherFamily) (refusals : Refusals)
    (fresh : ByteArray) (tree : FileTree) : Except Fault OpenedStore × FileTree :=
  match settings.kind, settings.masterPassword? with
  | .memory, _ => (.ok inMemory, tree)
  | .encryptedFile, none => (.error noMasterPassword, tree)
  | .encryptedFile, some password =>
    let (opened, tree) :=
      EncryptedFile.openStore ciphers tree refusals settings.path password none fresh
    (match opened with
      | .ok (file, store) => .ok (ofFile refusals file store)
      | .error error => .error error.fault, tree)

end OpenedStore

end TokenBroker
