import TokenBroker.Text.Percent
import TokenBroker.Text.Split
import TokenBroker.Text.Utf8

/-!
# Forms

The text of a form as it is sent: fields in order, joined by `&`, each a name and a value with `=`
between them. In both, a space is written as `+` and all but letters, digits and `-._~` is escaped.
Reading takes queries of addresses too: whatever stands there means something.
-/

namespace TokenBroker.Form

/-! ### Writing -/

/-- A name or a value of a field as it is sent. -/
def encodePart (text : String) : List Char :=
  text.toList.flatMap fun c =>
    if c = ' ' then ['+'] else if Percent.isUnreserved c then [c] else Percent.escape c

def encodeField (field : String × String) : List Char :=
  encodePart field.1 ++ '=' :: encodePart field.2

/-- The text of a form. -/
def encode (fields : List (String × String)) : String :=
  String.ofList (List.intercalate ['&'] (fields.map encodeField))

/-! ### Reading -/

/-- A name or a value of a field from what was sent. -/
def decodePart (cs : List Char) : String :=
  let spaced := cs.map fun c => if c = '+' then ' ' else c
  String.ofList (Utf8.decode (Percent.decode spaced))

/-- A field from what was sent; without `=` its value is empty. -/
def decodeField (cs : List Char) : String × String :=
  let (name, value) := (Text.cutFirst? '=' cs).getD (cs, [])
  (decodePart name, decodePart value)

/-- The fields of a form. -/
def decode (text : String) : List (String × String) :=
  ((Text.splitOn '&' text.toList).filter (!·.isEmpty)).map decodeField

/-- The value of the last field with a name. -/
def last? (name : String) (fields : List (String × String)) : Option String :=
  (fields.reverse.find? (·.1 == name)).map (·.2)

end TokenBroker.Form
