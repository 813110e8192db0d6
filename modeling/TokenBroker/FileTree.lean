import TokenBroker.FilePath
import TokenBroker.Failure

/-!
# File trees

A file tree is what a file system holds: the files with their contents and modes, and the
directories. Operations on it are functions that give the tree back. What the file system refuses
beyond the rules of files and directories is a value of its own, `Refusals`, and may change from one
operation to the next.
-/

namespace TokenBroker

/-- What stands at a place. -/
inductive FileNode
  | file (content : ByteArray) (mode : Nat)
  | directory
  deriving Inhabited

/-- Files are the same if their bytes and their modes are. -/
instance : DecidableEq FileNode
  | .file c m, .file d n =>
    decidable_of_iff (c.data = d.data ∧ m = n) (by cases c; cases d; simp)
  | .directory, .directory => isTrue rfl
  | .file _ _, .directory => isFalse nofun
  | .directory, .file _ _ => isFalse nofun

/-- Where something stands: the names that lead to it, with two dots resolved. -/
structure FilePlace where
  anchor : PathAnchor
  names : List String
  deriving DecidableEq, Inhabited, Repr

/-- What a file system holds. The beginnings of paths are directories without standing in the
list. -/
structure FileTree where
  nodes : List (FilePlace × FileNode) := []
  deriving DecidableEq, Inhabited

/-- What a file system refuses although the tree would allow it. -/
structure Refusals where
  modeChanges : Bool := false
  writes : List FilePath := []
  replacements : List FilePath := []
  deriving DecidableEq, Inhabited, Repr

namespace FileTree

/-- The mode of a file that is made without saying otherwise, in octal `644`. -/
def usualMode : Nat := 0o644

/-- The mode of a file for its owner alone, in octal `600`. -/
def privateMode : Nat := 0o600

/-! ### Places -/

/-- What stands at a place. -/
def node? (tree : FileTree) (place : FilePlace) : Option FileNode :=
  if place.names.isEmpty then some .directory
  else (tree.nodes.find? fun node => node.1 == place).map (·.2)

/-- Puts something at a place. -/
def put (tree : FileTree) (place : FilePlace) (node : FileNode) : FileTree :=
  if (tree.nodes.any fun other => other.1 == place) then
    ⟨tree.nodes.map fun other => if other.1 == place then (place, node) else other⟩
  else ⟨tree.nodes ++ [(place, node)]⟩

/-- Drops what stands at a place. -/
def drop (tree : FileTree) (place : FilePlace) : FileTree :=
  ⟨tree.nodes.filter fun node => !(node.1 == place)⟩

/-- Follows names from a place; everything that is gone through has to be a directory. -/
def follow (tree : FileTree) (place : FilePlace) : List String → Except FileCause FilePlace
  | [] => .ok place
  | name :: rest =>
    match tree.node? place with
    | none => .error .notFound
    | some (.file _ _) => .error .notDirectory
    | some .directory =>
      if name = ".." then tree.follow { place with names := place.names.dropLast } rest
      else tree.follow { place with names := place.names ++ [name] } rest

/-- The place that a path leads to. -/
def locate (tree : FileTree) (path : FilePath) : Except FileCause FilePlace :=
  tree.follow ⟨path.anchor, []⟩ path.names

/-- What stands where a path leads to. -/
def lookup (tree : FileTree) (path : FilePath) : Except FileCause FileNode := do
  match tree.node? (← tree.locate path) with
  | some node => return node
  | none => throw .notFound

def exists? (tree : FileTree) (path : FilePath) : Bool :=
  (tree.lookup path).toBool

def isDirectory (tree : FileTree) (path : FilePath) : Bool :=
  match tree.lookup path with
  | .ok .directory => true
  | _ => false

/-! ### Files -/

/-- Blames a path for a refusal. -/
def blame {α : Type} (path : FilePath) (x : Except FileCause α) : Except FileError α :=
  x.mapError fun cause => { cause := cause, path := toString path }

/-- The content of a file. -/
def read (tree : FileTree) (path : FilePath) : Except FileError ByteArray :=
  blame path do
    match ← tree.lookup path with
    | .file content _ => return content
    | .directory => throw .isDirectory

/-- Writes a file; one that is there keeps its mode. -/
def write (tree : FileTree) (refusals : Refusals) (path : FilePath) (content : ByteArray) :
    Except FileError FileTree :=
  blame path do
    let place ← tree.locate path
    if refusals.writes.contains path then throw .denied
    match tree.node? place with
    | some .directory => throw .isDirectory
    | some (.file _ mode) => return tree.put place (.file content mode)
    | none => return tree.put place (.file content usualMode)

/-- Gives a file a mode. A refusal of this is never an error for those who ask, so the tree is given
back as it is. -/
def setMode (tree : FileTree) (refusals : Refusals) (path : FilePath) (mode : Nat) : FileTree :=
  if refusals.modeChanges then tree
  else
    match tree.locate path with
    | .error _ => tree
    | .ok place =>
      match tree.node? place with
      | some (.file content _) => tree.put place (.file content mode)
      | _ => tree

/-- Moves a file to another path, in place of what was there. -/
def replace (tree : FileTree) (refusals : Refusals) (source target : FilePath) :
    Except FileError FileTree :=
  let moved : Except FileCause FileTree := do
    let sourcePlace ← tree.locate source
    let targetPlace ← tree.locate target
    if refusals.replacements.contains target then throw .denied
    match tree.node? sourcePlace, tree.node? targetPlace with
    | none, _ => throw .notFound
    | some (.file _ _), some .directory => throw .isDirectory
    | some node, _ =>
      if sourcePlace = targetPlace then return tree
      else return (tree.drop sourcePlace).put targetPlace node
  moved.mapError fun cause =>
    { cause := cause, path := toString source, target? := some (toString target) }

/-! ### Directories -/

/-- Makes the directory at a path, in a directory that is there. -/
def makeDirectory (tree : FileTree) (path : FilePath) : Except FileCause FileTree := do
  let place ← tree.locate path
  match tree.node? place with
  | some _ => throw .exists
  | none => return tree.put place .directory

/-- Makes a directory; one that is there already is left alone. -/
def ensureDirectory (tree : FileTree) (path : FilePath) : Except FileError Unit × FileTree :=
  match tree.makeDirectory path with
  | .ok tree => (.ok (), tree)
  | .error cause => (if tree.isDirectory path then .ok () else blame path (.error cause), tree)

/-- Makes a directory after at most so many of those on the way to it. -/
def ensureDirectoriesWithin : Nat → FileTree → FilePath → Except FileError Unit × FileTree
  | 0, tree, path => tree.ensureDirectory path
  | steps + 1, tree, path =>
    match tree.makeDirectory path with
    | .error .notFound =>
      match ensureDirectoriesWithin steps tree path.parent with
      | (.error e, tree) => (.error e, tree)
      | (.ok (), tree) => tree.ensureDirectory path
    | _ => tree.ensureDirectory path

/-- Makes a directory and, where they are missing, those on the way to it. What was made before a
refusal stays made. -/
def ensureDirectories (tree : FileTree) (path : FilePath) : Except FileError Unit × FileTree :=
  ensureDirectoriesWithin path.names.length tree path

/-- The tree with a directory and those on the way to it, if all of them could be made. -/
def makeDirectories (tree : FileTree) (path : FilePath) : Except FileError FileTree :=
  match tree.ensureDirectories path with
  | (.error e, _) => .error e
  | (.ok (), tree) => .ok tree

/-! ### Listing -/

/-- A text of digits to base eight. -/
def octal (mode : Nat) : String :=
  String.ofList (Nat.toDigits 8 mode)

/-- The listing of a tree below the working directory: a file with its mode, a directory with a
slash after its name. -/
def listing (tree : FileTree) : List (String × String) :=
  let lines := tree.nodes.filterMap fun (place, node) =>
    let name := "/".intercalate place.names
    match place.anchor, node with
    | .working, .file _ mode => some (name, octal mode)
    | .working, .directory => some (name ++ "/", "")
    | _, _ => none
  lines.mergeSort fun a b => a.1 ≤ b.1

/-- The tree with a file at a path and the directories on the way to it. -/
def withFile (tree : FileTree) (path : FilePath) (content : ByteArray) :
    Except FileError FileTree := do
  (← tree.makeDirectories path.parent).write {} path content

end FileTree

end TokenBroker
