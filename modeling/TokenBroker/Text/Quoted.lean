import TokenBroker.Text.Printable

/-!
# Quoted text

The form in which messages show a text that they blame: between quotes, with escapes for the quote,
for a backslash and for every character that is not printable. Single quotes are used unless the
text has a single quote and no double quote.
-/

namespace TokenBroker.Text

/-- The hexadecimal digits of a number, zero-filled on the left up to a width. -/
def hexPadded (width n : Nat) : List Char :=
  let digits := Nat.toDigits 16 n
  List.replicate (width - digits.length) '0' ++ digits

/-- The quote that a text is put between. -/
def quoteMark (cs : List Char) : Char :=
  if cs.contains '\'' && !cs.contains '"' then '"' else '\''

/-- One character inside the given quotes. -/
def escapeQuoted (mark c : Char) : List Char :=
  if c = '\\' || c = mark then ['\\', c]
  else if c = '\n' then ['\\', 'n']
  else if c = '\r' then ['\\', 'r']
  else if c = '\t' then ['\\', 't']
  else if isPrintable c then [c]
  else if c.toNat < 0x100 then '\\' :: 'x' :: hexPadded 2 c.toNat
  else if c.toNat < 0x10000 then '\\' :: 'u' :: hexPadded 4 c.toNat
  else '\\' :: 'U' :: hexPadded 8 c.toNat

/-- A text between quotes. -/
def quoted (cs : List Char) : List Char :=
  let mark := quoteMark cs
  mark :: cs.flatMap (escapeQuoted mark) ++ [mark]

end TokenBroker.Text

namespace TokenBroker

/-- A string between quotes, as messages show it. -/
def quoted (s : String) : String :=
  String.ofList (Text.quoted s.toList)

end TokenBroker
