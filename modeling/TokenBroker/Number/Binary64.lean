/-!
# Binary64 numbers

A binary64 number is its bit pattern; all arithmetic on it is exact arithmetic on naturals. The
finite magnitudes are `mantissa * 2 ^ exponent`, and `ofRatio` rounds a positive ratio to the
nearest of them, a tie going to the even mantissa.
-/

namespace TokenBroker

/-- A binary64 number, by its bit pattern. -/
structure Binary64 where
  bits : UInt64
  deriving DecidableEq, Inhabited, Repr

namespace Binary64

/-! ### Fields of the pattern -/

def isNegative (x : Binary64) : Bool :=
  x.bits.toNat / Nat.pow 2 63 == 1

def biasedExponent (x : Binary64) : Nat :=
  x.bits.toNat / Nat.pow 2 52 % Nat.pow 2 11

def fraction (x : Binary64) : Nat :=
  x.bits.toNat % Nat.pow 2 52

def isNaN (x : Binary64) : Bool :=
  x.biasedExponent == 2047 && x.fraction != 0

def isInfinite (x : Binary64) : Bool :=
  x.biasedExponent == 2047 && x.fraction == 0

def isFinite (x : Binary64) : Bool :=
  x.biasedExponent != 2047

/-- The integer factor of a finite magnitude. -/
def mantissa (x : Binary64) : Nat :=
  if x.biasedExponent == 0 then x.fraction else x.fraction + Nat.pow 2 52

/-- The exponent of two of a finite magnitude. -/
def exponent (x : Binary64) : Int :=
  if x.biasedExponent == 0 then -1074 else (x.biasedExponent : Int) - 1075

/-- Both zeros have the magnitude zero. -/
def isZero (x : Binary64) : Bool :=
  x.isFinite && x.mantissa == 0

/-! ### Construction -/

/-- The pattern with the given sign and magnitude bits. -/
def ofMagnitude (negative : Bool) (magnitude : Nat) : Binary64 :=
  ⟨UInt64.ofNat (magnitude + if negative then Nat.pow 2 63 else 0)⟩

def infinity (negative : Bool) : Binary64 :=
  ofMagnitude negative (2047 * Nat.pow 2 52)

def nan : Binary64 :=
  ofMagnitude false (2047 * Nat.pow 2 52 + Nat.pow 2 51)

def zero (negative : Bool) : Binary64 :=
  ofMagnitude negative 0

/-- The quotient rounded to the nearest natural, a tie going to the even one. -/
def roundDivEven (num den : Nat) : Nat :=
  let q := num / den
  let r := num % den
  if 2 * r < den then q
  else if den < 2 * r then q + 1
  else q + q % 2

/-- `num / den` divided by `2 ^ e`, as a numerator and a denominator. -/
def scaleRatio (num den : Nat) (e : Int) : Nat × Nat :=
  if 0 ≤ e then (num, den * Nat.pow 2 e.toNat) else (num * Nat.pow 2 (-e).toNat, den)

/-- The nearest number to the positive ratio `num / den`. The exponent is the least one under which
the quotient stays below `2 ^ 53`, and never below that of the subnormal numbers. -/
def ofRatio (negative : Bool) (num den : Nat) : Binary64 :=
  let guess : Int := max ((Nat.log2 num : Int) - Nat.log2 den - 53) (-1074)
  let (n, d) := scaleRatio num den guess
  let e := if n / d < Nat.pow 2 53 then guess else guess + 1
  let (n, d) := scaleRatio num den e
  let m := roundDivEven n d
  if e = -1074 && m < Nat.pow 2 52 then ofMagnitude negative m
  else if 971 < e || (e = 971 && Nat.pow 2 53 ≤ m) then infinity negative
  else ofMagnitude negative ((e + 1075).toNat * Nat.pow 2 52 + m - Nat.pow 2 52)

/-- The nearest number to `digits * 10 ^ exponent`. Exponents far outside the range are settled
without computing the power. -/
def ofDecimal (negative : Bool) (digits : Nat) (exponent : Int) : Binary64 :=
  if digits = 0 then zero negative
  else
    let scale : Int := exponent + (Nat.toDigits 10 digits).length
    if 310 < scale then infinity negative
    else if scale < -330 then zero negative
    else if 0 ≤ exponent then ofRatio negative (digits * Nat.pow 10 exponent.toNat) 1
    else ofRatio negative digits (Nat.pow 10 (-exponent).toNat)

def ofInt (n : Int) : Binary64 :=
  ofDecimal (n < 0) n.natAbs 0

/-! ### Integers and order -/

/-- The integer that a number equals, if it is one. -/
def toInt? (x : Binary64) : Option Int :=
  if !x.isFinite then none
  else
    let sign : Int := if x.isNegative then -1 else 1
    if 0 ≤ x.exponent then some (sign * (x.mantissa * Nat.pow 2 x.exponent.toNat : Nat))
    else
      let unit := Nat.pow 2 (-x.exponent).toNat
      if x.mantissa % unit = 0 then some (sign * (x.mantissa / unit : Nat)) else none

/-- Greater than zero; not a number is not. -/
def isPositive (x : Binary64) : Bool :=
  !x.isNegative && !x.isNaN && !x.isZero

end Binary64

end TokenBroker
