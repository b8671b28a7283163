/-! # Hexadecimal text

Numbers and bytes in base sixteen with lower-case digits.
-/
set_option autoImplicit false
namespace Handheld.Hexadecimal

def digits (width n : Nat) : String :=
  let shown := Nat.toDigits 16 n
  String.ofList (List.replicate (width - shown.length) '0' ++ shown)

def number (n : Nat) : String := "0x" ++ digits 1 n

def byte (b : UInt8) : String := "0x" ++ digits 2 b.toNat

def dump (bytes : List UInt8) : String := String.join (bytes.map fun b => digits 2 b.toNat)

end Handheld.Hexadecimal
