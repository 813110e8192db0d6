import TokenBroker.ServerUrl.Address
import TokenBroker.Text.Blank

/-!
# Integers in text

An integer as people write it: decimal digits with perhaps a sign before them, single underscores
between digits, and blanks around the whole. There is a bound on the number of digits.
-/

namespace TokenBroker.Text

/-- The digits of a text in which a single underscore may stand between two digits. -/
def groupedDigits? : List Char → Option (List Char)
  | [] => none
  | [c] => if Address.isDecimal c then some [c] else none
  | c :: '_' :: rest =>
    if Address.isDecimal c then (groupedDigits? rest).map (c :: ·) else none
  | c :: rest => if Address.isDecimal c then (groupedDigits? rest).map (c :: ·) else none

/-- The natural number that a text of digits writes, unless there are too many. -/
def numeral? (cs : List Char) : Option Int :=
  ((groupedDigits? cs).filter (·.length ≤ Address.maximumDigits)).map fun digits =>
    Address.decimalValue digits

/-- The integer that a text writes. -/
def integer? (cs : List Char) : Option Int :=
  match strip cs with
  | '-' :: digits => (numeral? digits).map fun n => -n
  | '+' :: digits => numeral? digits
  | digits => numeral? digits

end TokenBroker.Text
