/-!
Hexadecimal numerals of at least a given number of digits.
-/

namespace Smpp.Numeral

def hexadecimal (width value : Nat) : String :=
  let digits := Nat.toDigits 16 value
  String.ofList (List.replicate (width - digits.length) '0' ++ digits)

def upperHexadecimal (width value : Nat) : String := (hexadecimal width value).toUpper

end Smpp.Numeral
