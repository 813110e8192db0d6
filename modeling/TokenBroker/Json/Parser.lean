import TokenBroker.Json.Limits
import TokenBroker.Text.Split

/-!
# Reading JSON text

`Json.parse` reads one value with blanks around it. Besides the standard grammar it takes `NaN`,
`Infinity` and `-Infinity`, which the printer writes too. A name that is repeated in an object keeps
its first place and its last value. An escape for one half of a UTF-16 pair alone, for which there
is no character, becomes U+FFFD.

Reading stops at the first thing that goes beyond a limit, or else at the position where the text is
malformed: the beginning of a string that is never closed, or the place where something else was
expected. Inside the module such a place is the number of characters left.
-/

namespace TokenBroker.Json

/-- Why a text is not read: it is malformed at a place, or it goes beyond a limit before. -/
inductive ReadError
  | malformed (place : Nat)
  | excess (cause : Excess)
  deriving DecidableEq, Inhabited, Repr

/-- Where nothing readable begins. -/
def malformedAt {α : Type} (rest : List Char) : Except ReadError α :=
  .error (.malformed rest.length)

/-! ### Strings -/

/-- A part of a string: a character, or a UTF-16 unit given by an escape. -/
inductive StringPart
  | char (c : Char)
  | unit (n : Nat)
  deriving DecidableEq, Repr

/-- The value of a hexadecimal digit. -/
def hexDigit? (c : Char) : Option Nat :=
  if '0' ≤ c && c ≤ '9' then some (c.toNat - '0'.toNat)
  else if 'a' ≤ c && c ≤ 'f' then some (c.toNat - 'a'.toNat + 10)
  else if 'A' ≤ c && c ≤ 'F' then some (c.toNat - 'A'.toNat + 10)
  else none

/-- The number written by four hexadecimal digits. -/
def hexUnit? (a b c d : Char) : Option Nat := do
  let a ← hexDigit? a
  let b ← hexDigit? b
  let c ← hexDigit? c
  let d ← hexDigit? d
  return ((a * 16 + b) * 16 + c) * 16 + d

/-- The character that a one-letter escape stands for. -/
def shortEscape? : Char → Option Char
  | '"' => some '"'
  | '\\' => some '\\'
  | '/' => some '/'
  | 'b' => some '\x08'
  | 'f' => some '\x0c'
  | 'n' => some '\n'
  | 'r' => some '\r'
  | 't' => some '\t'
  | _ => none

/-- Why the parts of a string cannot be read. -/
inductive StringFault
  | unclosed
  | at (left : Nat)
  deriving DecidableEq, Repr

/-- The parts of a string up to its closing quote, and what follows the quote. -/
def readParts : List Char → Except StringFault (List StringPart × List Char)
  | [] => .error .unclosed
  | '"' :: rest => .ok ([], rest)
  | ['\\'] => .error .unclosed
  | '\\' :: 'u' :: a :: b :: c :: d :: e :: rest =>
    match hexUnit? a b c d with
    | none => .error (.at (rest.length + 6))
    | some n => do
      let (parts, rest) ← readParts (e :: rest)
      return (.unit n :: parts, rest)
  | '\\' :: 'u' :: rest => .error (.at (rest.length + 1))
  | '\\' :: e :: rest =>
    match shortEscape? e with
    | none => .error (.at (rest.length + 2))
    | some c => do
      let (parts, rest) ← readParts rest
      return (.char c :: parts, rest)
  | c :: rest =>
    if c < ' ' then .error (.at (rest.length + 1))
    else do
      let (parts, rest) ← readParts rest
      return (.char c :: parts, rest)

/-- A character for a UTF-16 unit; half of a pair alone becomes the replacement character. -/
def charOfUnit (n : Nat) : Char :=
  if 0xd800 ≤ n && n < 0xe000 then '\ufffd' else Char.ofNat n

/-- The characters of the parts; the two units of a pair make one character. -/
def joinParts : List StringPart → List Char
  | [] => []
  | .char c :: rest => c :: joinParts rest
  | [.unit n] => [charOfUnit n]
  | .unit high :: .unit low :: rest =>
    if 0xd800 ≤ high && high < 0xdc00 && 0xdc00 ≤ low && low < 0xe000 then
      Char.ofNat (0x10000 + (high - 0xd800) * 0x400 + (low - 0xdc00)) :: joinParts rest
    else charOfUnit high :: joinParts (.unit low :: rest)
  | .unit n :: .char c :: rest => charOfUnit n :: c :: joinParts rest

/-- A string whose opening quote has been read. -/
def readString (cs : List Char) : Except ReadError (String × List Char) :=
  match readParts cs with
  | .ok (parts, rest) => .ok (String.ofList (joinParts parts), rest)
  | .error .unclosed => .error (.malformed (cs.length + 1))
  | .error (.at left) => .error (.malformed left)

/-! ### Numbers -/

def isDigit (c : Char) : Bool :=
  '0' ≤ c && c ≤ '9'

/-- The number that decimal digits write. -/
def digitsValue (digits : List Char) : Nat :=
  digits.foldl (fun n c => n * 10 + (c.toNat - '0'.toNat)) 0

/-- The digits of a fraction, if a point with digits follows. -/
def readFraction : List Char → Option (List Char × List Char)
  | '.' :: rest =>
    match rest.span isDigit with
    | ([], _) => none
    | (digits, rest) => some (digits, rest)
  | _ => none

/-- A power of ten, if an exponent with digits follows. -/
def readExponent : List Char → Option (Int × List Char)
  | mark :: rest =>
    if mark = 'e' || mark = 'E' then
      let (negative, rest) := match rest with
        | '+' :: rest => (false, rest)
        | '-' :: rest => (true, rest)
        | rest => (false, rest)
      match rest.span isDigit with
      | ([], _) => none
      | (digits, rest) =>
        let n : Int := digitsValue digits
        some (if negative then -n else n, rest)
    else none
  | [] => none

/-- The whole digits of a number: a zero by itself, or digits that begin with another one. -/
def readWhole : List Char → Option (List Char × List Char)
  | '0' :: rest => some (['0'], rest)
  | cs =>
    match cs.span isDigit with
    | ([], _) => none
    | (digits, rest) => some (digits, rest)

/-- An integer, unless it has too many digits. -/
def readInteger (negative : Bool) (digits : List Char) : Except ReadError Json :=
  if Address.maximumDigits < digits.length then .error (.excess (.digits digits.length))
  else
    let n : Int := digitsValue digits
    .ok (.int (if negative then -n else n))

/-- A number without its sign: an integer unless it has a fraction or an exponent. -/
def readMagnitude (negative : Bool) (cs : List Char) :
    Option (Except ReadError Json × List Char) := do
  let (whole, rest) ← readWhole cs
  let fraction := readFraction rest
  let (digits, rest) := fraction.getD ([], rest)
  let exponent := readExponent rest
  let (power, rest) := exponent.getD (0, rest)
  if fraction.isNone && exponent.isNone then return (readInteger negative whole, rest)
  else
    let significand := digitsValue (whole ++ digits)
    return (.ok (.float (Binary64.ofDecimal negative significand (power - digits.length))), rest)

/-! ### Values -/

def isJsonBlank (c : Char) : Bool :=
  c = ' ' || c = '\t' || c = '\n' || c = '\r'

def skipBlanks (cs : List Char) : List Char :=
  cs.dropWhile isJsonBlank

/-- The words that stand for values. -/
def words : List (List Char × Json) :=
  [("null".toList, .null), ("true".toList, .bool true), ("false".toList, .bool false),
   ("NaN".toList, .float .nan), ("Infinity".toList, .float (.infinity false)),
   ("-Infinity".toList, .float (.infinity true))]

/-- The word at the beginning of a text. -/
def readWord? (cs : List Char) : Option (Json × List Char) :=
  words.findSome? fun (word, value) => (Text.dropStart? word cs).map fun rest => (value, rest)

/-- The number at the beginning of a text. -/
def readNumber? : List Char → Option (Except ReadError Json × List Char)
  | '-' :: rest => readMagnitude true rest
  | cs => readMagnitude false cs

/-- A value without parts: a word or a number. -/
def readScalar (cs : List Char) : Except ReadError (Json × List Char) :=
  match readWord? cs, readNumber? cs with
  | some found, _ => .ok found
  | none, some (number, rest) => number.map fun value => (value, rest)
  | none, none => malformedAt cs

mutual

/-- One value at the beginning of a text, where there is room for more brackets. -/
def readValue : Nat → Nat → List Char → Except ReadError (Json × List Char)
  | 0, _, cs => malformedAt cs
  | fuel + 1, room, cs =>
    match cs, room with
    | '"' :: rest, _ => do
      let (s, rest) ← readString rest
      return (.str s, rest)
    | '[' :: _, 0 | '\x7b' :: _, 0 => .error (.excess .depth)
    | '[' :: rest, room + 1 =>
      match skipBlanks rest with
      | ']' :: rest => .ok (.arr [], rest)
      | rest => do
        let (items, rest) ← readItems fuel room rest
        return (.arr items, rest)
    | '\x7b' :: rest, room + 1 =>
      match skipBlanks rest with
      | '\x7d' :: rest => .ok (.obj [], rest)
      | rest => do
        let (members, rest) ← readMembers fuel room rest
        return (.obj (distinctMembers members), rest)
    | cs, _ => readScalar cs

/-- The items of an array from the beginning of one of them, and its closing bracket. -/
def readItems : Nat → Nat → List Char → Except ReadError (List Json × List Char)
  | 0, _, cs => malformedAt cs
  | fuel + 1, room, cs => do
    let (item, rest) ← readValue fuel room cs
    match skipBlanks rest with
    | ',' :: rest => do
      let (items, rest) ← readItems fuel room (skipBlanks rest)
      return (item :: items, rest)
    | ']' :: rest => .ok ([item], rest)
    | rest => malformedAt rest

/-- The members of an object from the beginning of one of them, and its closing brace. -/
def readMembers : Nat → Nat → List Char → Except ReadError (List (String × Json) × List Char)
  | 0, _, cs => malformedAt cs
  | fuel + 1, room, cs =>
    match cs with
    | '"' :: rest => do
      let (name, rest) ← readString rest
      match skipBlanks rest with
      | ':' :: rest => do
        let (value, rest) ← readValue fuel room (skipBlanks rest)
        match skipBlanks rest with
        | ',' :: rest => do
          let (members, rest) ← readMembers fuel room (skipBlanks rest)
          return ((name, value) :: members, rest)
        | '\x7d' :: rest => .ok ([(name, value)], rest)
        | rest => malformedAt rest
      | rest => malformedAt rest
    | cs => malformedAt cs

end

/-- A whole text as one value. Nesting costs two steps for each character, so the fuel suffices. -/
def parseChars (cs : List Char) (room : Nat) : Except ReadError Json := do
  let (value, rest) ← readValue (2 * cs.length + 2) room (skipBlanks cs)
  match skipBlanks rest with
  | [] => .ok value
  | rest => malformedAt rest

/-- A place by its distance from the beginning of a text of some length. -/
def ReadError.fromStart (length : Nat) : ReadError → ReadError
  | .malformed left => .malformed (length - left)
  | .excess cause => .excess cause

/-- A whole text as one value, or why it is not read. -/
def parse (s : String) (room : Nat := usualRoom) : Except ReadError Json :=
  (parseChars s.toList room).mapError (·.fromStart s.length)

end TokenBroker.Json
