/-!
# Ciphers

A cipher seals a text so that only the one who knows its key opens it again. The broker uses one
per master password and salt and asks nothing of it but that it opens what it sealed.

`Cipher.labelled` seals by writing the password and the salt in front of the text. It hides nothing;
it serves where the contents of a store are meant to be read.
-/

namespace TokenBroker

/-- A way to seal texts and to open them again. -/
structure Cipher where
  encrypt : ByteArray → ByteArray
  decrypt? : ByteArray → Option ByteArray

/-- Ciphers by master password and salt. -/
abbrev CipherFamily := String → ByteArray → Cipher

/-- A cipher opens what it sealed. -/
def Cipher.Faithful (cipher : Cipher) : Prop :=
  ∀ text, cipher.decrypt? (cipher.encrypt text) = some text

namespace Cipher

/-- The two hexadecimal digits of a byte. -/
def hexByte (b : UInt8) : List Char :=
  [Nat.digitChar (b.toNat / 16), Nat.digitChar (b.toNat % 16)]

/-- The hexadecimal text of bytes. -/
def hex (bytes : ByteArray) : String :=
  String.ofList (bytes.data.toList.flatMap hexByte)

/-- The line in front of a text that is sealed with a password and a salt. -/
def label (password : String) (salt : ByteArray) : ByteArray :=
  ("password=" ++ password ++ ";salt=" ++ hex salt ++ "\n").toUTF8

/-- The bytes after a given beginning. -/
def dropLabel? : List UInt8 → List UInt8 → Option (List UInt8)
  | [], rest => some rest
  | _ :: _, [] => none
  | b :: label, c :: rest => if b = c then dropLabel? label rest else none

/-- Writes the password and the salt in front of the text. -/
def labelled : CipherFamily := fun password salt =>
  { encrypt := fun text => label password salt ++ text
    decrypt? := fun sealed =>
      (dropLabel? (label password salt).data.toList sealed.data.toList).map fun rest =>
        ⟨rest.toArray⟩ }

end Cipher

end TokenBroker
