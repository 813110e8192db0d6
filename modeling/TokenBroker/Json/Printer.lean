import TokenBroker.Json.Basic
import TokenBroker.Text.Quoted

/-!
# JSON text

Two layouts of one value: `compact` on a single line, and `indented` with two spaces per level and
one item or member per line. Both are ASCII: every other character is written as an escape, one
above U+FFFF as the escapes of its two UTF-16 units.
-/

namespace TokenBroker.Json

/-- The escape of one UTF-16 unit. -/
def escapeUnit (n : Nat) : List Char :=
  '\\' :: 'u' :: Text.hexPadded 4 n

/-- One character inside a JSON string. -/
def escapeChar (c : Char) : List Char :=
  if c = '"' then ['\\', '"']
  else if c = '\\' then ['\\', '\\']
  else if c = '\n' then ['\\', 'n']
  else if c = '\r' then ['\\', 'r']
  else if c = '\t' then ['\\', 't']
  else if c = '\x08' then ['\\', 'b']
  else if c = '\x0c' then ['\\', 'f']
  else
    let n := c.toNat
    if 0x20 ≤ n && n < 0x7f then [c]
    else if n < 0x10000 then escapeUnit n
    else
      let offset := n - 0x10000
      escapeUnit (0xd800 + offset / 0x400) ++ escapeUnit (0xdc00 + offset % 0x400)

/-- A string between double quotes. -/
def encodeString (s : String) : List Char :=
  '"' :: s.toList.flatMap escapeChar ++ ['"']

/-- A value that has no parts. -/
def encodeInt (n : Int) : List Char :=
  if n < 0 then '-' :: Nat.toDigits 10 n.natAbs else Nat.toDigits 10 n.natAbs

/-- How the parts of a value are laid out: the text before the first part, between two parts and
after the last one, at each depth, and the text after the name of a member. -/
structure Layout where
  before : Nat → List Char
  between : Nat → List Char
  after : Nat → List Char
  afterName : List Char

/-- Everything on one line, a blank after each comma and colon. -/
def Layout.compact : Layout :=
  ⟨fun _ => [], fun _ => [',', ' '], fun _ => [], [':', ' ']⟩

/-- One part per line, two more spaces for each level. -/
def Layout.indented : Layout :=
  { before := fun depth => '\n' :: List.replicate (2 * (depth + 1)) ' '
    between := fun depth => ',' :: '\n' :: List.replicate (2 * (depth + 1)) ' '
    after := fun depth => '\n' :: List.replicate (2 * depth) ' '
    afterName := [':', ' '] }

mutual

/-- A value at a depth. -/
def encodeAt (layout : Layout) (depth : Nat) : Json → List Char
  | .null => ['n', 'u', 'l', 'l']
  | .bool true => ['t', 'r', 'u', 'e']
  | .bool false => ['f', 'a', 'l', 's', 'e']
  | .int n => encodeInt n
  | .float x => (x.format Binary64.jsonLayout).toList
  | .str s => encodeString s
  | .arr [] => ['[', ']']
  | .arr (item :: rest) =>
    '[' :: layout.before depth ++ encodeAt layout (depth + 1) item
      ++ encodeItems layout depth rest ++ layout.after depth ++ [']']
  | .obj [] => ['\x7b', '\x7d']
  | .obj ((name, value) :: rest) =>
    '\x7b' :: layout.before depth ++ encodeString name ++ layout.afterName
      ++ encodeAt layout (depth + 1) value ++ encodeMembers layout depth rest
      ++ layout.after depth ++ ['\x7d']

/-- The items after the first one. -/
def encodeItems (layout : Layout) (depth : Nat) : List Json → List Char
  | [] => []
  | item :: rest =>
    layout.between depth ++ encodeAt layout (depth + 1) item ++ encodeItems layout depth rest

/-- The members after the first one. -/
def encodeMembers (layout : Layout) (depth : Nat) : List (String × Json) → List Char
  | [] => []
  | (name, value) :: rest =>
    layout.between depth ++ encodeString name ++ layout.afterName
      ++ encodeAt layout (depth + 1) value ++ encodeMembers layout depth rest

end

/-- A value on one line. -/
def compact (value : Json) : String :=
  String.ofList (encodeAt .compact 0 value)

/-- A value with one part per line. -/
def indented (value : Json) : String :=
  String.ofList (encodeAt .indented 0 value)

end TokenBroker.Json
