import TokenBroker.Json.Display

/-!
# Values of a configuration

What a configuration can hold: besides what JSON has, dates, secrets that are given as such, and
entries of a map whose keys are not texts.
-/

namespace TokenBroker

/-- A value of a configuration. A secret stands for itself and is never taken for a reference; the
keys of a map are scalars. -/
inductive ConfigValue
  | null
  | bool (b : Bool)
  | int (n : Int)
  | float (x : Binary64)
  | text (s : String)
  | date (written : String)
  | secret (s : String)
  | list (items : List ConfigValue)
  | map (entries : List (Json × ConfigValue))
  deriving Inhabited, Repr

/-- The entries of a map, in order. -/
abbrev ConfigEntries := List (Json × ConfigValue)

namespace ConfigValue

mutual

/-- A JSON value as it stands in a configuration. -/
def ofJson : Json → ConfigValue
  | .null => .null
  | .bool b => .bool b
  | .int n => .int n
  | .float x => .float x
  | .str s => .text s
  | .arr items => .list (ofItems items)
  | .obj members => .map (ofMembers members)

/-- JSON values as they stand in a configuration. -/
def ofItems : List Json → List ConfigValue
  | [] => []
  | item :: rest => ofJson item :: ofItems rest

/-- Members of a JSON object as entries. -/
def ofMembers : List (String × Json) → ConfigEntries
  | [] => []
  | (name, value) :: rest => (.str name, ofJson value) :: ofMembers rest

end

mutual

/-- The nearest JSON value: dates and keys are what is written. -/
def toJson : ConfigValue → Json
  | .null => .null
  | .bool b => .bool b
  | .int n => .int n
  | .float x => .float x
  | .text s => .str s
  | .date written => .str written
  | .secret s => .str s
  | .list items => .arr (toItems items)
  | .map entries => .obj (toMembers entries)

/-- The nearest JSON values. -/
def toItems : List ConfigValue → List Json
  | [] => []
  | item :: rest => toJson item :: toItems rest

/-- The nearest members. -/
def toMembers : ConfigEntries → List (String × Json)
  | [] => []
  | (key, value) :: rest => (key.display, toJson value) :: toMembers rest

end

/-- A value as the text of a message. -/
def display (value : ConfigValue) : String :=
  value.toJson.display

/-- Whether a value counts as present. -/
def truthy : ConfigValue → Bool
  | .date _ | .secret _ => true
  | value => value.toJson.truthy

/-! ### Entries -/

/-- The value of the first entry with a name. -/
def find? (name : String) : ConfigEntries → Option ConfigValue
  | [] => none
  | (key, value) :: rest => if key = .str name then some value else find? name rest

/-- Gives a key a value, in its place if it is there and at the end if not. -/
def insert (key : Json) (value : ConfigValue) : ConfigEntries → ConfigEntries
  | [] => [(key, value)]
  | (other, old) :: rest =>
    if Json.same other key then (other, value) :: rest else (other, old) :: insert key value rest

/-- The entries that remain of a list with repeated keys: each key in its first place with its last
value. -/
def distinct (entries : ConfigEntries) : ConfigEntries :=
  entries.foldl (fun kept (key, value) => insert key value kept) []

mutual

/-- One value over another: maps are joined entry by entry, and anything else is replaced. -/
def joined (base : ConfigValue) : ConfigValue → ConfigValue
  | .map entries =>
    match base with
    | .map below => .map (overEntries below entries)
    | _ => .map entries
  | value => value

/-- Entries over others. -/
def overEntries (below : ConfigEntries) : ConfigEntries → ConfigEntries
  | [] => below
  | (key, value) :: rest =>
    let result := match below.find? fun entry => Json.same entry.1 key with
      | some (_, old) => joined old value
      | none => value
    overEntries (insert key result below) rest

end

end ConfigValue

end TokenBroker
