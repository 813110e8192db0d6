/-!
# Punycode

The form of a label with non-ASCII characters in a host name: its ASCII characters, a hyphen, and
the places of the others as numbers. The others are taken in the order of their code points; each
number is the distance from the place before, counted through all the places and code points
between, and is written in digits of base 36 whose thresholds follow the distances seen so far.
-/

namespace TokenBroker.Punycode

/-- The character of a digit: the letters, then the decimal digits. -/
def digit (n : Nat) : Char :=
  if n < 26 then Char.ofNat ('a'.toNat + n) else Char.ofNat ('0'.toNat + (n - 26))

/-- The least value of a digit that another one follows, at a place of a number. -/
def threshold (place bias : Nat) : Nat :=
  if place ≤ bias then 1 else if bias + 26 ≤ place then 26 else place - bias

theorem threshold_pos (place bias : Nat) : 1 ≤ threshold place bias := by
  unfold threshold
  split <;> (try split) <;> omega

/-- The digits of a number, the lowest first. -/
def digits (bias place n : Nat) : List Char :=
  let t := threshold place bias
  if h : n < t then [digit n]
  else digit (t + (n - t) % (36 - t)) :: digits bias (place + 36) ((n - t) / (36 - t))
termination_by n
decreasing_by
  have ht : 1 ≤ t := threshold_pos place bias
  exact Nat.lt_of_le_of_lt (Nat.div_le_self _ _) (by omega)

/-- Halves a distance to the range of one digit; the answer counts the steps by 36. -/
def settle (distance count : Nat) : Nat × Nat :=
  if 455 < distance then settle (distance / 35) (count + 36) else (distance, count)
termination_by distance
decreasing_by exact Nat.div_lt_self (by omega) (by omega)

/-- The thresholds' offset after a distance has been written, the first one or a later one, with the
number of characters placed by then. -/
def adapt (distance placed : Nat) (first : Bool) : Nat :=
  let distance := if first then distance / 700 else distance / 2
  let (rest, count) := settle (distance + distance / placed) 0
  count + 36 * rest / (rest + 38)

/-- How far the writing of a label has come. -/
structure Progress where
  distance : Nat
  bias : Nat
  placed : Nat
  first : Bool
  written : List Char
  deriving Inhabited, Repr

/-- Passes a character of the label while the places of one code point are written. -/
def pass (codePoint : Nat) (p : Progress) (c : Char) : Progress :=
  if c.toNat < codePoint then { p with distance := p.distance + 1 }
  else if c.toNat = codePoint then
    { distance := 0
      bias := adapt p.distance (p.placed + 1) p.first
      placed := p.placed + 1
      first := false
      written := p.written ++ digits p.bias 36 p.distance }
  else p

/-- Writes the places of code points, which are given in ascending order; `reached` is the code
point up to which places have been counted. -/
def placeAll (label : List Char) : List Nat → Nat → Progress → Progress
  | [], _, p => p
  | codePoint :: rest, reached, p =>
    let p := { p with distance := p.distance + (codePoint - reached) * (p.placed + 1) }
    let p := label.foldl (pass codePoint) p
    placeAll label rest (codePoint + 1) { p with distance := p.distance + 1 }

/-- Inserts a number into an ascending list, unless it is there. -/
def insertDistinct (n : Nat) : List Nat → List Nat
  | [] => [n]
  | m :: rest =>
    if n < m then n :: m :: rest else if n = m then m :: rest else m :: insertDistinct n rest

/-- A label in Punycode. -/
def encode (label : List Char) : List Char :=
  let plain := label.filter fun c => c.toNat < 128
  let others := label.filterMap fun c => if c.toNat < 128 then none else some c.toNat
  let start : Progress :=
    { distance := 0, bias := 72, placed := plain.length, first := true, written := [] }
  let p := placeAll label (others.foldr insertDistinct []) 128 start
  (if plain.isEmpty then [] else plain ++ ['-']) ++ p.written

end TokenBroker.Punycode
