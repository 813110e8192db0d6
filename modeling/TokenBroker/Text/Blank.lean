/-!
# Blank characters

A character is blank if Unicode calls it white space by its bidirectional class or is a space
separator. `strip` and its two halves remove blanks from the ends of a text.
-/

namespace TokenBroker.Text

/-- The blank characters, as closed ranges of code points. -/
def blankRanges : List (Nat × Nat) := [
  (0x9, 0xd), (0x1c, 0x20), (0x85, 0x85), (0xa0, 0xa0), (0x1680, 0x1680), (0x2000, 0x200a),
  (0x2028, 0x2029), (0x202f, 0x202f), (0x205f, 0x205f), (0x3000, 0x3000)]

def isBlank (c : Char) : Bool :=
  let n := c.toNat
  blankRanges.any fun (low, high) => low ≤ n && n ≤ high

/-- A text without the blanks it begins with. -/
def stripLeft (cs : List Char) : List Char :=
  cs.dropWhile isBlank

/-- A text without the blanks it ends with. -/
def stripRight : List Char → List Char
  | [] => []
  | c :: rest =>
    match stripRight rest with
    | [] => if isBlank c then [] else [c]
    | kept => c :: kept

/-- A text without the blanks at either end. -/
def strip (cs : List Char) : List Char :=
  stripRight (stripLeft cs)

/-- Whether a text has no character that is not blank. -/
def isAllBlank (cs : List Char) : Bool :=
  cs.all isBlank

end TokenBroker.Text

namespace TokenBroker

/-- A string without the blanks at either end. -/
def stripped (s : String) : String :=
  String.ofList (Text.strip s.toList)

/-- Whether a string is empty once its blanks are removed. -/
def blank (s : String) : Bool :=
  Text.isAllBlank s.toList

end TokenBroker
