import TokenBroker.Number.Binary64
import TokenBroker.ServerUrl.Address

/-!
# Reading numbers

The text of a binary64 number: decimal digits with perhaps a point among, before or after them, then
perhaps an exponent, or one of the names of infinity and of not a number in any case; a sign may
come first.
-/

namespace TokenBroker.Binary64

def isExponentMark (c : Char) : Bool :=
  c == 'e' || c == 'E'

/-- The number that an exponent with perhaps a sign writes. -/
def readExponentDigits? : List Char → Option Int
  | '-' :: digits => (readNat? digits).map fun n => -(n : Int)
  | '+' :: digits => (readNat? digits).map Int.ofNat
  | digits => (readNat? digits).map Int.ofNat
where
  /-- The number that one decimal digit or more write. -/
  readNat? (digits : List Char) : Option Nat :=
    if digits.isEmpty || !digits.all Address.isDecimal then none
    else some (Address.decimalValue digits)

/-- The magnitude that digits with perhaps a point and an exponent write. -/
def readDigits? (negative : Bool) (cs : List Char) : Option Binary64 := do
  let (whole, rest) := cs.span Address.isDecimal
  let (fraction, rest) :=
    match rest with
    | '.' :: rest => rest.span Address.isDecimal
    | rest => ([], rest)
  if whole.isEmpty && fraction.isEmpty then none
  let exponent ←
    match rest with
    | [] => some 0
    | c :: digits => if isExponentMark c then readExponentDigits? digits else none
  let digits := Address.decimalValue (whole ++ fraction)
  return ofDecimal negative digits (exponent - fraction.length)

/-- The number without its sign. -/
def readMagnitude? (negative : Bool) (cs : List Char) : Option Binary64 :=
  match String.ofList (cs.map Char.toLower) with
  | "inf" | "infinity" => some (infinity negative)
  | "nan" => some nan
  | _ => readDigits? negative cs

/-- The number that a text writes. -/
def read? : List Char → Option Binary64
  | '-' :: cs => readMagnitude? true cs
  | '+' :: cs => readMagnitude? false cs
  | cs => readMagnitude? false cs

end TokenBroker.Binary64
