/-! Digits of fixed width, as they appear in addresses and log messages. -/

namespace RadioStack.Numeral

def padded (base width number : Nat) : String :=
  let digits := Nat.toDigits base number
  String.ofList (List.replicate (width - digits.length) '0' ++ digits)

def hex (width number : Nat) : String := padded 16 width number

def binaryOctet (octet : UInt8) : String := "0b" ++ padded 2 8 octet.toNat

end RadioStack.Numeral
