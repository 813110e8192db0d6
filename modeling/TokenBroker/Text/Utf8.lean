/-!
# Bytes that may not be text

UTF-8 read from bytes among which anything may stand. Wherever no character can be read the longest
beginning of one, or else a single byte, becomes a replacement character.
-/

namespace TokenBroker.Utf8

def replacement : Char :=
  '\ufffd'

/-- For a first byte: how many bytes follow it, the bits of the character in it, and between which
bounds the next byte must be. Only the first of the bytes that follow has bounds of its own. -/
def lead? (b : Nat) : Option (Nat × Nat × Nat × Nat) :=
  if b < 0x80 then some (0, b, 0x80, 0xbf)
  else if 0xc2 ≤ b && b ≤ 0xdf then some (1, b % 32, 0x80, 0xbf)
  else if b = 0xe0 then some (2, 0, 0xa0, 0xbf)
  else if b = 0xed then some (2, 13, 0x80, 0x9f)
  else if 0xe1 ≤ b && b ≤ 0xef then some (2, b % 16, 0x80, 0xbf)
  else if b = 0xf0 then some (3, 0, 0x90, 0xbf)
  else if 0xf1 ≤ b && b ≤ 0xf3 then some (3, b % 8, 0x80, 0xbf)
  else if b = 0xf4 then some (3, 4, 0x80, 0x8f)
  else none

/-- A character that has been begun: how many bytes it lacks, the bits so far, and the bounds for
the next byte. -/
structure Begun where
  lacking : Nat
  bits : Nat
  low : Nat
  high : Nat
  deriving Inhabited, Repr

/-- What a byte means where a character begins: a whole character, or the beginning of one. -/
def begin (b : Nat) : List Char × Option Begun :=
  match lead? b with
  | none => ([replacement], none)
  | some (0, bits, _, _) => ([Char.ofNat bits], none)
  | some (lacking, bits, low, high) => ([], some ⟨lacking, bits, low, high⟩)

/-- The characters of bytes, after a character that may have been begun. -/
def decodeFrom : Option Begun → List UInt8 → List Char
  | none, [] => []
  | some _, [] => [replacement]
  | none, b :: rest =>
    let (cs, begun?) := begin b.toNat
    cs ++ decodeFrom begun? rest
  | some begun, b :: rest =>
    let n := b.toNat
    if begun.low ≤ n && n ≤ begun.high then
      let bits := begun.bits * 64 + n % 64
      if begun.lacking = 1 then Char.ofNat bits :: decodeFrom none rest
      else decodeFrom (some ⟨begun.lacking - 1, bits, 0x80, 0xbf⟩) rest
    else
      let (cs, begun?) := begin n
      replacement :: cs ++ decodeFrom begun? rest

/-- The characters of bytes. -/
def decode (bytes : List UInt8) : List Char :=
  decodeFrom none bytes

end TokenBroker.Utf8
