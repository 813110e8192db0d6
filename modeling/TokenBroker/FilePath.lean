import TokenBroker.Text.Split

/-!
# File paths

A path is a list of names, from the root or from the working directory. Reading a path drops empty
names and single dots; two dots are kept, since what they lead to depends on the files.
-/

namespace TokenBroker

/-- Where a path begins: the working directory, or the root written with one or two slashes. -/
inductive PathAnchor
  | working
  | root
  | doubleRoot
  deriving DecidableEq, Inhabited, Repr

/-- A path in the file system. -/
structure FilePath where
  anchor : PathAnchor := .working
  names : List String
  deriving DecidableEq, Inhabited, Repr

namespace FilePath

/-- How many slashes a text begins with decides where it begins: three or more count as one. -/
def anchorOf : List Char → PathAnchor
  | '/' :: '/' :: '/' :: _ => .root
  | '/' :: '/' :: _ => .doubleRoot
  | '/' :: _ => .root
  | _ => .working

def ofString (text : String) : FilePath :=
  let names := (Text.splitOn '/' text.toList).map String.ofList
  { anchor := anchorOf text.toList
    names := names.filter fun name => name != "" && name != "." }

/-- The written form; the working directory itself is a dot. -/
protected def toString (path : FilePath) : String :=
  let names := "/".intercalate path.names
  match path.anchor with
  | .working => if path.names.isEmpty then "." else names
  | .root => "/" ++ names
  | .doubleRoot => "//" ++ names

instance : ToString FilePath := ⟨FilePath.toString⟩

/-- The directory that holds a file; the beginning of a path is its own. -/
def parent (path : FilePath) : FilePath :=
  { path with names := path.names.dropLast }

/-- A file inside a directory. -/
def child (path : FilePath) (name : String) : FilePath :=
  { path with names := path.names ++ [name] }

/-- A file name without its last extension. A dot at either end of the name begins none. -/
def stem (name : String) : String :=
  match Text.cutLast? '.' name.toList with
  | some (before, after) =>
    if before.isEmpty || after.isEmpty then name else String.ofList before
  | none => name

/-- The file beside another one that differs from it in the extension. -/
def withExtension (path : FilePath) (extension : String) : FilePath :=
  match path.names.getLast? with
  | none => path
  | some name => path.parent.child (stem name ++ "." ++ extension)

end FilePath

end TokenBroker
