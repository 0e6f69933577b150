import ClockManager.Word
/-!
# Bytes as text

Two lower-case hexadecimal digits for each byte.
-/

namespace ClockManager.Text

def hexByte (byte : UInt8) : List Char :=
  [Nat.digitChar (byte.toNat / 16), Nat.digitChar (byte.toNat % 16)]

def hex (bytes : Bytes) : String := String.ofList (bytes.flatMap hexByte)

end ClockManager.Text
