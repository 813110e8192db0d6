import TokenBroker.Config.Value
import TokenBroker.Date
import TokenBroker.Number.Reading
import TokenBroker.Text.Percent

/-!
# Plain scalars

What a scalar without quotes stands for: null, a truth value, an integer in base two, eight, ten,
sixteen or sixty, a binary64 number, a date, or else its own text. Integers and numbers may have
underscores among their digits; a number has a point, and its exponent a sign.
-/

namespace TokenBroker.Yaml

/-! ### Words -/

def nullWords : List String :=
  ["", "~", "null", "Null", "NULL"]

def trueWords : List String :=
  ["yes", "Yes", "YES", "true", "True", "TRUE", "on", "On", "ON"]

def falseWords : List String :=
  ["no", "No", "NO", "false", "False", "FALSE", "off", "Off", "OFF"]

def wordValue? (text : String) : Option ConfigValue :=
  if nullWords.contains text then some .null
  else if trueWords.contains text then some (.bool true)
  else if falseWords.contains text then some (.bool false)
  else none

/-! ### Integers -/

/-- A sign, if there is one, and what follows it. -/
def splitSign : List Char → Bool × List Char
  | '-' :: rest => (true, rest)
  | '+' :: rest => (false, rest)
  | cs => (false, cs)

def signed (negative : Bool) (n : Nat) : Int :=
  if negative then -(n : Int) else n

/-- The value of digits in a base, underscores aside. -/
def valueIn (base : Nat) (cs : List Char) : Nat :=
  cs.foldl (fun n c =>
    match Percent.digitValue? c with
    | some d => n * base + d
    | none => n) 0

/-- One digit or underscore or more, of digits below a base. -/
def areDigits (base : Nat) (cs : List Char) : Bool :=
  !cs.isEmpty && cs.all fun c =>
    c == '_' || match Percent.digitValue? c with
      | some d => decide (d < base)
      | none => false

/-- A decimal number without a leading zero, underscores allowed after the first digit. -/
def isWhole : List Char → Bool
  | [] => false
  | c :: rest => Address.isDecimal c && c != '0' && (rest.isEmpty || areDigits 10 rest)

/-- One of the lower places of a number in base sixty. -/
def isSixtieth : List Char → Bool
  | [a] => Address.isDecimal a
  | [a, b] => Address.isDecimal a && a < '6' && Address.isDecimal b
  | _ => false

/-- The value of the places of a number in base sixty, the highest first. -/
def sixtyValue (places : List (List Char)) : Nat :=
  places.foldl (fun n place => n * 60 + valueIn 10 place) 0

def intValue? (cs : List Char) : Option Int :=
  let (negative, rest) := splitSign cs
  match rest with
  | '0' :: 'b' :: digits =>
    if areDigits 2 digits then some (signed negative (valueIn 2 digits)) else none
  | '0' :: 'x' :: digits =>
    if areDigits 16 digits then some (signed negative (valueIn 16 digits)) else none
  | ['0'] => some 0
  | '0' :: digits =>
    if areDigits 8 digits then some (signed negative (valueIn 8 digits)) else none
  | _ =>
    match Text.splitOn ':' rest with
    | [digits] => if isWhole digits then some (signed negative (valueIn 10 digits)) else none
    | first :: places =>
      if isWhole first && places.all isSixtieth then
        some (signed negative (sixtyValue (first :: places)))
      else none
    | [] => none

/-! ### Numbers with a point -/

def isDigitOrGap (c : Char) : Bool :=
  Address.isDecimal c || c == '_'

/-- Whether a text is an exponent with a sign, or empty. -/
def isExponent : List Char → Bool
  | [] => true
  | mark :: sign :: digits =>
    Binary64.isExponentMark mark && (sign == '+' || sign == '-') && !digits.isEmpty
      && digits.all Address.isDecimal
  | _ => false

/-- Whether a text without its sign is a number with a point; without digits before the point there
may be no sign. -/
def isPointed (hasSign : Bool) (cs : List Char) : Bool :=
  match cs.span isDigitOrGap with
  | ([], '.' :: rest) =>
    let (fraction, exponent) := rest.span isDigitOrGap
    !hasSign && (fraction.head?.any Address.isDecimal) && isExponent exponent
  | (whole, '.' :: rest) =>
    whole.head?.any Address.isDecimal && isExponent (rest.dropWhile isDigitOrGap)
  | _ => false

/-- A number in base sixty with a fraction of its last place. -/
def sixtyFloat? (negative : Bool) (cs : List Char) : Option Binary64 :=
  match Text.cutLast? '.' cs with
  | some (whole, fraction) =>
    match Text.splitOn ':' whole with
    | first :: place :: places =>
      if (first.head?.any Address.isDecimal) && first.all isDigitOrGap
          && (place :: places).all isSixtieth && fraction.all isDigitOrGap then
        let digits := fraction.filter (· != '_')
        let whole := sixtyValue (first :: place :: places)
        let n := whole * Nat.pow 10 digits.length + valueIn 10 digits
        some (.ofDecimal negative n (-digits.length))
      else none
    | _ => none
  | none => none

def floatValue? (cs : List Char) : Option Binary64 :=
  let (negative, rest) := splitSign cs
  let hasSign := rest.length != cs.length
  match String.ofList rest with
  | ".inf" | ".Inf" | ".INF" => some (.infinity negative)
  | ".nan" | ".NaN" | ".NAN" => if hasSign then none else some .nan
  | _ =>
    if isPointed hasSign rest then
      Binary64.readDigits? negative (rest.filter (· != '_'))
    else sixtyFloat? negative rest

/-! ### Dates -/

/-- A date, which is written `YYYY-MM-DD`. -/
def dateValue? (text : String) : Option ConfigValue :=
  (Date.ofIso? text).map fun date => .date date.toIso

/-- What a plain scalar stands for. -/
def plainValue (cs : List Char) : ConfigValue :=
  let text := String.ofList cs
  match wordValue? text, intValue? cs, floatValue? cs, dateValue? text with
  | some value, _, _, _ => value
  | none, some n, _, _ => .int n
  | none, none, some x, _ => .float x
  | none, none, none, some date => date
  | none, none, none, none => .text text

end TokenBroker.Yaml
