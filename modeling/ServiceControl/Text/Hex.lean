import ServiceControl.Text.Ascii

/-!
# Hexadecimal text

Two small digits for each byte.
-/

namespace ServiceControl.Hex

/-- The small hexadecimal digit of a number below sixteen. -/
def digit (n : Nat) : Char := Char.ofNat (if n < 10 then n + 48 else n + 87)

/-- The two digits of a byte. -/
def ofByte (b : UInt8) : List Char := [digit (b.toNat / 16), digit (b.toNat % 16)]

/-- The digits of a list of bytes. -/
def encode (bytes : List UInt8) : List Char := bytes.flatMap ofByte

end ServiceControl.Hex
