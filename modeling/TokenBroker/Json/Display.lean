import TokenBroker.Json.Basic
import TokenBroker.Text.Quoted

/-!
# JSON values inside messages

The form in which messages show a value: a text by itself stands as it is, and inside an array or
object, or where a message blames it, between quotes.
-/

namespace TokenBroker.Json

mutual

/-- A value as messages quote it. -/
def quote : Json → String
  | .null => "None"
  | .bool b => if b then "True" else "False"
  | .int n => toString n
  | .float x => x.format Binary64.displayLayout
  | .str s => quoted s
  | .arr items => "[" ++ quoteItems items ++ "]"
  | .obj members => "\x7b" ++ quoteMembers members ++ "\x7d"

/-- Items with commas between them. -/
def quoteItems : List Json → String
  | [] => ""
  | [item] => quote item
  | item :: rest => quote item ++ ", " ++ quoteItems rest

/-- Members with commas between them. -/
def quoteMembers : List (String × Json) → String
  | [] => ""
  | [(name, value)] => quoted name ++ ": " ++ quote value
  | (name, value) :: rest => quoted name ++ ": " ++ quote value ++ ", " ++ quoteMembers rest

end

/-- A value as the text of a message. -/
def display : Json → String
  | .str s => s
  | value => quote value

end TokenBroker.Json
