import TokenBroker.Json.Basic
import TokenBroker.ServerUrl.Address

/-!
# Limits of JSON texts

Whoever reads or writes a JSON text does so within two limits. An integer has no more decimal digits
than numbers are read from (`Address.maximumDigits`), and only so many brackets can be open at once
as there is *room* for. The room is what the stack leaves, so that it differs from place to place;
`Json.usualRoom` is about what there is near the bottom of a stack of a thousand frames.
-/

namespace TokenBroker.Json

/-- How many brackets can usually be open at once. -/
def usualRoom : Nat :=
  990

/-- What goes beyond a limit: the digits of an integer, or the depth of the brackets. -/
inductive Excess
  | digits (count : Nat)
  | depth
  deriving DecidableEq, Inhabited, Repr

namespace Excess

/-- What is said of an integer with too many digits. -/
def digitsMessage (details : String) : String :=
  "Exceeds the limit (" ++ toString Address.maximumDigits
    ++ " digits) for integer string conversion" ++ details
    ++ "; use sys.set_int_max_str_digits() to increase the limit"

/-- What is said of a value that is not written. -/
def writingMessage : Excess → String
  | .digits _ => digitsMessage ""
  | .depth => "maximum recursion depth exceeded"

end Excess

/-- The decimal digits of the size of an integer. -/
def digitCount (n : Int) : Nat :=
  (Nat.toDigits 10 n.natAbs).length

mutual

/-- The first thing in a value that goes beyond a limit, in the order in which the value is
written. -/
def excess? : Json → Nat → Option Excess
  | .arr _, 0 | .obj _, 0 => some .depth
  | .arr items, room + 1 => itemsExcess? items room
  | .obj members, room + 1 => membersExcess? members room
  | .int n, _ =>
    if Address.maximumDigits < digitCount n then some (.digits (digitCount n)) else none
  | .null, _ | .bool _, _ | .float _, _ | .str _, _ => none

def itemsExcess? : List Json → Nat → Option Excess
  | [], _ => none
  | item :: rest, room => (item.excess? room).or (itemsExcess? rest room)

def membersExcess? : List (String × Json) → Nat → Option Excess
  | [], _ => none
  | (_, value) :: rest, room => (value.excess? room).or (membersExcess? rest room)

end

/-- A value stays within the limits. -/
def Fits (room : Nat) (value : Json) : Prop :=
  value.excess? room = none

instance (room : Nat) (value : Json) : Decidable (value.Fits room) :=
  inferInstanceAs (Decidable (_ = _))

end TokenBroker.Json
