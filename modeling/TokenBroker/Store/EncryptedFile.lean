import TokenBroker.Cipher
import TokenBroker.FileTree
import TokenBroker.Json.Parser
import TokenBroker.Json.Printer
import TokenBroker.Store.Document

/-!
# Stores in encrypted files

A store is kept in one file as the indented JSON text of its document, sealed under a master
password and a salt. The salt stands in `credentials.salt` beside the file and is made when the
store is opened for the first time. A save writes a temporary file beside the store and then moves
it to the place of the store, so that a save that fails on the way leaves the file as it was.
-/

namespace TokenBroker

/-- An encrypted store file, the key to it, and the room that there is for the brackets of its
document. -/
structure EncryptedFile where
  path : FilePath
  password : String
  salt : ByteArray
  cipher : Cipher
  room : Nat := Json.usualRoom

/-- Why an encrypted store cannot be opened. -/
inductive OpenError
  | noPassword
  | saltUnavailable (cause : FileError)
  | unreadable (cause : FileError)
  | rejected
  | undecodable
  | notJson
  | excess (cause : Json.Excess)
  | badDocument (cause : DocumentError)
  deriving DecidableEq, Inhabited, Repr

def OpenError.fault : OpenError → Fault
  | .noPassword =>
    .failure (.encryption "Master password not provided"
      (some "Set store.master_password in the configuration"))
  | .saltUnavailable cause => .file cause
  | .unreadable cause =>
    .failure (.encryption ("Failed to read credentials file: " ++ cause.message) none)
  | .rejected =>
    .failure (.encryption "Invalid master password or corrupted credentials file"
      (some "Verify your master password"))
  | .undecodable => .undecodable
  | .notJson =>
    .failure (.encryption "Credentials file is corrupted"
      (some "Restore from backup or delete and recreate"))
  | .excess cause => .ofExcess cause
  | .badDocument cause => cause.fault

namespace EncryptedFile

/-! ### The salt -/

def saltPath (path : FilePath) : FilePath :=
  path.parent.child "credentials.salt"

/-- The salt beside a store file, which is made of fresh bytes if it is not there. -/
def loadSalt (tree : FileTree) (refusals : Refusals) (path : FilePath) (fresh : ByteArray) :
    Except FileError ByteArray × FileTree :=
  let saltFile := saltPath path
  if tree.exists? saltFile then (tree.read saltFile, tree)
  else
    match tree.ensureDirectories saltFile.parent with
    | (.error e, tree) => (.error e, tree)
    | (.ok (), tree) =>
      match tree.write refusals saltFile fresh with
      | .error e => (.error e, tree)
      | .ok tree => (.ok fresh, tree.setMode refusals saltFile FileTree.privateMode)

/-! ### Reading -/

/-- The store in an unsealed text. -/
def readStore (text : ByteArray) (room : Nat := Json.usualRoom) : Except OpenError Store :=
  match String.fromUTF8? text with
  | none => .error .undecodable
  | some text =>
    match Json.parse text room with
    | .error (.malformed _) => .error .notJson
    | .error (.excess cause) => .error (.excess cause)
    | .ok document => (Store.decode document).mapError .badDocument

/-- The store in a file; a file that is not there holds the empty store. -/
def load (file : EncryptedFile) (tree : FileTree) : Except OpenError Store :=
  if tree.exists? file.path then
    match tree.read file.path with
    | .error e => .error (.unreadable e)
    | .ok sealed =>
      match file.cipher.decrypt? sealed with
      | none => .error .rejected
      | some text => readStore text file.room
  else .ok Store.empty

/-- Opens a store. A salt that is given and not empty is used as it is; otherwise the one beside the
file is read or made, which stays even if the store then cannot be read. -/
def openStore (ciphers : CipherFamily) (tree : FileTree) (refusals : Refusals) (path : FilePath)
    (password : String) (salt? : Option ByteArray) (fresh : ByteArray)
    (room : Nat := Json.usualRoom) : Except OpenError (EncryptedFile × Store) × FileTree :=
  if password.isEmpty then (.error .noPassword, tree)
  else
    let given := salt?.filter (·.size != 0)
    let (salt, tree) : Except FileError ByteArray × FileTree :=
      match given with
      | some salt => (.ok salt, tree)
      | none => loadSalt tree refusals path fresh
    match salt with
    | .error e => (.error (.saltUnavailable e), tree)
    | .ok salt =>
      let file : EncryptedFile :=
        { path := path, password := password, salt := salt, cipher := ciphers password salt
          room := room }
      ((file.load tree).map fun store => (file, store), tree)

/-! ### Saving -/

/-- The sealed text of a store. -/
def sealStore (file : EncryptedFile) (store : Store) : ByteArray :=
  file.cipher.encrypt store.encode.indented.toUTF8

/-- The file that is written before it takes the place of the store. -/
def temporaryPath (file : EncryptedFile) : FilePath :=
  file.path.withExtension "tmp"

/-- Writes the temporary file and moves it. What was done before a refusal stays done. -/
def writeFile (file : EncryptedFile) (refusals : Refusals) (store : Store) (tree : FileTree) :
    Except FileError Unit × FileTree :=
  match tree.ensureDirectories file.path.parent with
  | (.error e, tree) => (.error e, tree)
  | (.ok (), tree) =>
    match tree.write refusals file.temporaryPath (file.sealStore store) with
    | .error e => (.error e, tree)
    | .ok tree =>
      let tree := tree.setMode refusals file.temporaryPath FileTree.privateMode
      match tree.replace refusals file.temporaryPath file.path with
      | .error e => (.error e, tree)
      | .ok tree => (.ok (), tree)

/-- Saves a store to its file, unless its document goes beyond a limit. A refusal of the file system
is reported in the words of the store. -/
def save (file : EncryptedFile) (refusals : Refusals) : Saver FileTree := fun store tree =>
  match store.encode.excess? file.room with
  | some cause => (.error (.other cause.writingMessage), tree)
  | none =>
    let (result, tree) := file.writeFile refusals store tree
    (result.mapError fun e => .reported ("Failed to save credentials: " ++ e.message), tree)

end EncryptedFile

end TokenBroker
