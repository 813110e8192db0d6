import TokenBroker.Number.Binary64

/-!
# The shortest decimal of a binary64 number

`shortest` finds the decimal with the fewest digits that reads back as the number, and among those
the nearest to it. For 1, 2, … 17 digits it tests the number's two neighbours on that decimal grid;
all comparisons are exact. `Layout` holds the choices left to a written format.
-/

namespace TokenBroker

/-- A positive decimal, `digits * 10 ^ exponent`. -/
structure Decimal where
  digits : Nat
  exponent : Int
  deriving DecidableEq, Inhabited, Repr

namespace Binary64

/-- The ratio `m * 2 ^ e / 10 ^ p`, as a numerator and a denominator. -/
def gridRatio (m : Nat) (e p : Int) : Nat × Nat :=
  (m * Nat.pow 2 e.toNat * Nat.pow 10 (-p).toNat, Nat.pow 2 (-e).toNat * Nat.pow 10 p.toNat)

/-- The least `k` below the fuel with `den ≤ num * 10 ^ k`. -/
def scaleUp (num den : Nat) : Nat → Nat → Nat
  | 0, k => k
  | fuel + 1, k => if den ≤ num then k else scaleUp (num * 10) den fuel (k + 1)

/-- The exponent of ten of the leading digit of `num / den`. -/
def leadingExponent (num den : Nat) : Int :=
  if den ≤ num then ((Nat.toDigits 10 (num / den)).length : Int) - 1
  else -(scaleUp num den 400 0 : Int)

/-- The bounds of the values that round to a finite positive number, in quarters of
`2 ^ exponent`; the step below a power of two is half as wide. -/
def roundingBounds (x : Binary64) : Nat × Nat :=
  let m := x.mantissa
  let lower := if x.fraction = 0 && 1 < x.biasedExponent then 4 * m - 1 else 4 * m - 2
  (lower, 4 * m + 2)

/-- Whether `d * 10 ^ p` rounds to the number; the bounds themselves do for an even mantissa. -/
def readsBack (x : Binary64) (d : Nat) (p : Int) : Bool :=
  let (lower, upper) := x.roundingBounds
  let (lowNum, den) := gridRatio lower (x.exponent - 2) p
  let (highNum, _) := gridRatio upper (x.exponent - 2) p
  if x.mantissa % 2 = 0 then lowNum ≤ d * den && d * den ≤ highNum
  else lowNum < d * den && d * den < highNum

/-- The better of the two neighbours with exponent `p`, if one reads back; of two equally near ones
the even one. -/
def neighbour? (x : Binary64) (p : Int) : Option Nat :=
  let (num, den) := gridRatio x.mantissa x.exponent p
  let low := num / den
  match readsBack x low p && low != 0, readsBack x (low + 1) p with
  | true, true => some (roundDivEven num den)
  | true, false => some low
  | false, true => some (low + 1)
  | false, false => none

/-- Tries the grids with exponents `p`, `p - 1`, … -/
def searchGrid (x : Binary64) : Nat → Int → Decimal
  | 0, p => ⟨(gridRatio x.mantissa x.exponent p).1 / (gridRatio x.mantissa x.exponent p).2, p⟩
  | fuel + 1, p =>
    match neighbour? x p with
    | some d => ⟨d, p⟩
    | none => searchGrid x fuel (p - 1)

/-- Moves trailing zeros of the digits into the exponent. -/
def trimZeros : Nat → Decimal → Decimal
  | 0, d => d
  | fuel + 1, d =>
    if d.digits % 10 = 0 then trimZeros fuel ⟨d.digits / 10, d.exponent + 1⟩ else d

/-- The decimal with the fewest digits that reads back as the finite nonzero magnitude. A
neighbour can be a power of ten, which is one digit and zeros. -/
def shortest (x : Binary64) : Decimal :=
  let (num, den) := gridRatio x.mantissa x.exponent 0
  trimZeros 17 (searchGrid x 17 (leadingExponent num den))

/-! ### Written forms -/

/-- The choices of a written format: scientific exponents from `positionalFrom` and below
`positionalBelow` are written positionally, others with a mark and at least two exponent digits. -/
structure Layout where
  positionalFrom : Int
  positionalBelow : Int
  infinityText : String
  nanText : String

/-- The layout of numbers inside messages and settings. -/
def displayLayout : Layout := ⟨-4, 16, "inf", "nan"⟩

/-- The layout of numbers inside JSON text. -/
def jsonLayout : Layout := ⟨-4, 16, "Infinity", "NaN"⟩

/-- Digits with the point after the first `whole` of them, zeros filled in on either side. -/
def placePoint (digits : List Char) (whole : Int) : List Char :=
  if whole ≤ 0 then '0' :: '.' :: (List.replicate (-whole).toNat '0' ++ digits)
  else if digits.length ≤ whole.toNat then
    digits ++ List.replicate (whole.toNat - digits.length) '0' ++ ['.', '0']
  else digits.take whole.toNat ++ '.' :: digits.drop whole.toNat

/-- A decimal in scientific notation, with a sign and at least two digits in the exponent. -/
def scientific (digits : List Char) (e : Int) : List Char :=
  let point := match digits with
    | [d] => [d]
    | d :: rest => d :: '.' :: rest
    | [] => ['0']
  let exponent := Nat.toDigits 10 e.natAbs
  let padded := if exponent.length < 2 then '0' :: exponent else exponent
  point ++ 'e' :: (if e < 0 then '-' else '+') :: padded

/-- A positive decimal in the given layout. -/
def Layout.decimal (layout : Layout) (d : Decimal) : List Char :=
  let digits := Nat.toDigits 10 d.digits
  let e := d.exponent + digits.length - 1
  if layout.positionalFrom ≤ e && e < layout.positionalBelow then placePoint digits (e + 1)
  else scientific digits e

/-- The text of a number in the given layout. -/
def format (layout : Layout) (x : Binary64) : String :=
  if x.isNaN then layout.nanText
  else
    let sign := if x.isNegative then "-" else ""
    if x.isInfinite then sign ++ layout.infinityText
    else if x.isZero then sign ++ "0.0"
    else sign ++ String.ofList (layout.decimal x.shortest)

end Binary64

end TokenBroker
