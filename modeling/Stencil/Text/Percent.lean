/-!
Percent coding. Letters, digits and `-_.~` stand for themselves; every other character is written byte
by byte in UTF-8. Reading leaves a percent sign alone that no two hexadecimal digits follow, and gives
the text back unchanged if the bytes are not UTF-8.
-/
namespace Stencil.Text.Percent

def isUnreserved (c : Char) : Bool := c.isAlphanum || c == '-' || c == '_' || c == '.' || c == '~'

def upperHex (n : Nat) : Char := (Nat.digitChar (n % 16)).toUpper

def byteForm (byte : UInt8) : List Char := ['%', upperHex (byte.toNat / 16), upperHex byte.toNat]

def charForm (c : Char) : List Char :=
  if isUnreserved c then [c] else (String.utf8EncodeChar c).flatMap byteForm

def encode (text : String) : String := String.ofList (text.toList.flatMap charForm)

def hexValue? (byte : UInt8) : Option UInt8 :=
  if 48 ≤ byte && byte ≤ 57 then some (byte - 48)
  else if 65 ≤ byte && byte ≤ 70 then some (byte - 55)
  else if 97 ≤ byte && byte ≤ 102 then some (byte - 87)
  else none

def decodeBytes : List UInt8 → List UInt8
  | 37 :: high :: low :: rest =>
      match hexValue? high, hexValue? low with
      | some h, some l => (h * 16 + l) :: decodeBytes rest
      | _, _ => 37 :: decodeBytes (high :: low :: rest)
  | byte :: rest => byte :: decodeBytes rest
  | [] => []

def decode (text : String) : String :=
  let bytes := decodeBytes text.toUTF8.toList
  (String.fromUTF8? ⟨bytes.toArray⟩).getD text

end Stencil.Text.Percent
