/-!
Whole numbers in decimal digits.
-/

namespace SavedNetworks.Text

def decimal (value : Nat) : List Char := Nat.toDigits 10 value

def decimalInt : Int → List Char
  | .ofNat value => decimal value
  | .negSucc value => '-' :: decimal (value + 1)

/-- The number that a run of digits writes; leading zeros count for nothing. -/
def decimalValue (digits : List Char) : Nat :=
  digits.foldl (fun value digit => value * 10 + (digit.toNat - '0'.toNat)) 0

/-- Decimal digits with zeros in front up to the given width. -/
def padded (width value : Nat) : List Char :=
  let digits := decimal value
  List.replicate (width - digits.length) '0' ++ digits

end SavedNetworks.Text
