import TokenBroker.ServerUrl.Address

/-!
# Dates

Days of the proleptic Gregorian calendar from the year 1 to the year 9999, counted from 1 January of
the year 1, which is day 1. The count is the value of a date, so that adding days is adding numbers;
the year, month and day are read off it.
-/

namespace TokenBroker

/-- A day of the years 1 to 9999, by its count. -/
structure Date where
  count : Nat
  deriving DecidableEq, Inhabited, Repr

namespace Date

def isLeap (year : Nat) : Bool :=
  year % 4 == 0 && (year % 100 != 0 || year % 400 == 0)

/-- How many days come before a year. -/
def daysBefore (year : Nat) : Nat :=
  let past := year - 1
  past * 365 + past / 4 - past / 100 + past / 400

/-- The lengths of the months of a year. -/
def monthLengths (year : Nat) : List Nat :=
  [31, if isLeap year then 29 else 28, 31, 30, 31, 30, 31, 31, 30, 31, 30, 31]

/-- The count of the last day that is covered, 31 December 9999. -/
def lastCount : Nat :=
  daysBefore 10000

/-- The date with a year, month and day, if there is such a day. -/
def ofParts? (year month day : Nat) : Option Date :=
  if 1 ≤ year && year ≤ 9999 && 1 ≤ month && 1 ≤ day then
    match (monthLengths year)[month - 1]? with
    | some length =>
      if day ≤ length then
        some ⟨((monthLengths year).take (month - 1)).foldl (· + ·) (daysBefore year) + day⟩
      else none
    | none => none
  else none

/-- The month and the day of it that a number of days into a year falls on, given the months that
are left. -/
def monthAndDay (days month : Nat) : List Nat → Nat × Nat
  | [] => (month, days)
  | length :: rest =>
    if days ≤ length then (month, days) else monthAndDay (days - length) (month + 1) rest

/-- The year in which a count falls: whole cycles of 400, 100, 4 and 1 years are taken off in turn.
The last century of its cycle and the last year of its cycle are a day longer than the others. -/
def yearOf (count : Nat) : Nat :=
  let past := count - 1
  let inCycle := past % 146097
  let centuries := min 3 (inCycle / 36524)
  let inCentury := inCycle - centuries * 36524
  let inFour := inCentury % 1461
  past / 146097 * 400 + centuries * 100 + inCentury / 1461 * 4 + min 3 (inFour / 365) + 1

/-- The year, month and day of a date. -/
def parts (date : Date) : Nat × Nat × Nat :=
  let year := yearOf date.count
  let (month, day) := monthAndDay (date.count - daysBefore year) 1 (monthLengths year)
  (year, month, day)

/-- A number with zeros in front of it. -/
def padded (width n : Nat) : String :=
  let digits := toString n
  String.ofList (List.replicate (width - digits.length) '0') ++ digits

/-- The date as `YYYY-MM-DD`. -/
def toIso (date : Date) : String :=
  let (year, month, day) := date.parts
  padded 4 year ++ "-" ++ padded 2 month ++ "-" ++ padded 2 day

/-- The number that a text of a given number of decimal digits writes. -/
def digits? (width : Nat) (cs : List Char) : Option Nat :=
  if cs.length = width && cs.all Address.isDecimal then some (Address.decimalValue cs) else none

/-- Reads `YYYY-MM-DD`. -/
def ofIso? (text : String) : Option Date :=
  match Text.splitOn '-' text.toList with
  | [year, month, day] => do
    ofParts? (← digits? 4 year) (← digits? 2 month) (← digits? 2 day)
  | _ => none

/-- Why a date cannot be moved by a number of days: there are more days than are ever counted, or
the day is not one of the years covered. -/
inductive ShiftError
  | tooManyDays (days : Int)
  | outOfRange
  deriving DecidableEq, Inhabited, Repr

namespace ShiftError

/-- The number of days that is accepted at most. -/
def dayLimit : Nat :=
  999999999

/-- Half the number of words of 32 bits. -/
def halfRange : Int :=
  2147483648

def message : ShiftError → String
  | .tooManyDays days =>
    if -halfRange ≤ days && days < halfRange then
      "days=" ++ toString days ++ "; must have magnitude <= " ++ toString dayLimit
    else "Python int too large to convert to C int"
  | .outOfRange => "date value out of range"

end ShiftError

/-- The date a number of days later, or earlier if the number is negative. -/
def shift (date : Date) (days : Int) : Except ShiftError Date :=
  if ShiftError.dayLimit < days.natAbs then .error (.tooManyDays days)
  else
    let count := (date.count : Int) + days
    if 1 ≤ count && count ≤ lastCount then .ok ⟨count.toNat⟩ else .error .outOfRange

end Date

end TokenBroker
