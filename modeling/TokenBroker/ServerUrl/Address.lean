import TokenBroker.Text.Split

/-!
# Internet addresses

The texts that are IPv4 and IPv6 addresses. An IPv4 address is four decimal numbers up to 255
without leading zeros. An IPv6 address is eight groups of up to four hexadecimal digits; the last
two may be written as an IPv4 address, one run of groups may be left out as `::`, and a scope may
follow after `%`.
-/

namespace TokenBroker.Address

def isDecimal (c : Char) : Bool :=
  '0' ≤ c && c ≤ '9'

def isHexadecimal (c : Char) : Bool :=
  isDecimal c || ('a' ≤ c && c ≤ 'f') || ('A' ≤ c && c ≤ 'F')

/-- The number that a text of decimal digits writes. -/
def decimalValue (digits : List Char) : Nat :=
  digits.foldl (fun n c => n * 10 + (c.toNat - '0'.toNat)) 0

/-- The most decimal digits that a number is read from. -/
def maximumDigits : Nat :=
  4300

/-- One of the four numbers of an IPv4 address. -/
def isOctet (cs : List Char) : Bool :=
  !cs.isEmpty && cs.all isDecimal && cs.length ≤ 3 && (cs == ['0'] || cs.head? != some '0')
    && decimalValue cs ≤ 255

def isIPv4 (cs : List Char) : Bool :=
  let octets := Text.splitOn '.' cs
  octets.length == 4 && octets.all isOctet

/-- One of the groups of an IPv6 address. -/
def isGroup (cs : List Char) : Bool :=
  !cs.isEmpty && cs.length ≤ 4 && cs.all isHexadecimal

/-- The groups of an address whose last one may be an IPv4 address, which counts as two. -/
def expandLast? : List (List Char) → Option (List (List Char))
  | [] => some []
  | [last] =>
    if last.contains '.' then if isIPv4 last then some [['0'], ['0']] else none
    else some [last]
  | group :: rest => (expandLast? rest).map (group :: ·)

/-- Whether groups with a gap between them fill an address: an empty end is allowed only beside the
gap, and the gap stands for at least one group. -/
def fillsWithGap (before after : List (List Char)) : Bool :=
  let before := if before == [[]] then [] else before
  let after := if after == [[]] then [] else after
  before.all isGroup && after.all isGroup && before.length + after.length < 8

/-- Whether groups are an address. The gap is an empty group that is neither the first nor the
last; there may be only one. -/
def areGroups : List (List Char) → Bool
  | [] => false
  | first :: rest =>
    match rest.dropLast.span (!·.isEmpty) with
    | (_, []) => rest.length == 7 && (first :: rest).all isGroup
    | (before, _) =>
      let after := rest.drop (before.length + 1)
      (after.dropLast.all (!·.isEmpty)) && fillsWithGap (first :: before) after

/-- An IPv6 address without a scope. -/
def isUnscopedIPv6 (cs : List Char) : Bool :=
  let groups := Text.splitOn ':' cs
  3 ≤ groups.length &&
    match expandLast? groups with
    | some groups => groups.length ≤ 9 && areGroups groups
    | none => false

def isIPv6 (cs : List Char) : Bool :=
  !cs.contains '/' &&
    match Text.cutFirst? '%' cs with
    | some (address, scope) =>
      !scope.isEmpty && !scope.contains '%' && isUnscopedIPv6 address
    | none => isUnscopedIPv6 cs

end TokenBroker.Address
