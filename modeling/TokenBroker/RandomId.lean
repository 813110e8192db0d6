import TokenBroker.Cipher

/-!
# Random ids

New credentials have random ids, sixteen bytes in hexadecimal with four hyphens. Six bits of them
are the same in all ids of this kind: they give its version, four, and its variant.
-/

namespace TokenBroker.RandomId

/-- The number of bytes of an id. -/
def size : Nat := 16

/-- The bytes with the version in the seventh of them and the variant in the ninth. -/
def marked (bytes : List UInt8) : List UInt8 :=
  bytes.mapIdx fun i b =>
    if i = 6 then (b &&& 0x0f) ||| 0x40
    else if i = 8 then (b &&& 0x3f) ||| 0x80
    else b

/-- Digits in groups of given sizes, with hyphens between them. -/
def grouped : List Nat → List Char → List Char
  | [], digits => digits
  | size :: sizes, digits => digits.take size ++ '-' :: grouped sizes (digits.drop size)

/-- The id of sixteen bytes. -/
def ofBytes (bytes : ByteArray) : String :=
  String.ofList (grouped [8, 4, 4, 4] ((marked bytes.data.toList).flatMap Cipher.hexByte))

end TokenBroker.RandomId
