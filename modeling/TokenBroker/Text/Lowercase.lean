import TokenBroker.Text.CaseTable

/-!
# Lowercase text

The full lowercase mapping of Unicode: each character has its own lowercase form, except that a
capital sigma at the end of a word becomes a final sigma. A word ends where the nearest character
that is not case-ignorable is cased on the left and not cased on the right.
-/

namespace TokenBroker.Text

def inRanges (ranges : List (Nat × Nat)) (c : Char) : Bool :=
  let n := c.toNat
  ranges.any fun (low, high) => low ≤ n && n ≤ high

def isCased (c : Char) : Bool :=
  inRanges casedRanges c

def isCaseIgnorable (c : Char) : Bool :=
  inRanges caseIgnorableRanges c

/-- Whether a code point belongs to a run. -/
def CaseRun.covers (run : CaseRun) (n : Nat) : Bool :=
  run.low ≤ n && n ≤ run.high && (n - run.low) % run.step == 0

/-- The lowercase form of one character outside any word. -/
def lowerChar (c : Char) : List Char :=
  let n := c.toNat
  if n < 0x80 then [c.toLower]
  else if n = 0x130 then ['i', '\u0307']
  else
    match caseRuns.find? (·.covers n) with
    | some run => [Char.ofNat (n + run.shift).toNat]
    | none => [c]

/-- Whether the nearest character that is not case-ignorable exists and is cased. -/
def meetsCased (cs : List Char) : Bool :=
  match cs.dropWhile isCaseIgnorable with
  | [] => false
  | c :: _ => isCased c

/-- Lowercases the text after `before`, which is kept in reverse. -/
def lowerAfter (before : List Char) : List Char → List Char
  | [] => []
  | c :: rest =>
    let form :=
      if c = 'Σ' then [if meetsCased before && !meetsCased rest then 'ς' else 'σ']
      else lowerChar c
    form ++ lowerAfter (c :: before) rest

/-- The lowercase form of a text. -/
def lower (cs : List Char) : List Char :=
  lowerAfter [] cs

end TokenBroker.Text

namespace TokenBroker

/-- The lowercase form of a string. -/
def lowered (s : String) : String :=
  String.ofList (Text.lower s.toList)

end TokenBroker
