import SignedPurchase.Bytes

/-
**Bytes as hexadecimal digits.**

Digests and keys are shown in small letters, the content of an attribute that is no text in capital
letters. Reading accepts both.
-/

namespace SignedPurchase

namespace Hex

/-- The digit of a value below sixteen, in the given row of digits. -/
def digit (row : List Char) (value : Nat) : Char :=
  row.getD value '0'

/-- The digits with small letters. -/
def smallDigits : List Char := "0123456789abcdef".toList

/-- The digits with capital letters. -/
def capitalDigits : List Char := "0123456789ABCDEF".toList

/-- Two digits for each byte. -/
def encodeWith (row : List Char) (bytes : Bytes) : String :=
  String.ofList (bytes.flatMap fun byte => [digit row (byte.toNat / 16), digit row (byte.toNat % 16)])

/-- Two digits for each byte, with small letters. -/
def encode (bytes : Bytes) : String :=
  encodeWith smallDigits bytes

/-- Two digits for each byte, with capital letters. -/
def encodeCapital (bytes : Bytes) : String :=
  encodeWith capitalDigits bytes

/-- The value of a digit, in either case. -/
def value? (byte : UInt8) : Option Nat :=
  if 0x30 ≤ byte && byte ≤ 0x39 then some (byte.toNat - 0x30)
  else if 0x41 ≤ byte && byte ≤ 0x46 then some (byte.toNat - 0x41 + 10)
  else if 0x61 ≤ byte && byte ≤ 0x66 then some (byte.toNat - 0x61 + 10)
  else none

/-- The bytes of an even number of digits. -/
def decode? : Bytes → Option Bytes
  | [] => some []
  | [_] => none
  | high :: low :: rest =>
    match value? high, value? low, decode? rest with
    | some first, some second, some bytes => some (UInt8.ofNat (first * 16 + second) :: bytes)
    | _, _, _ => none

end Hex

end SignedPurchase
