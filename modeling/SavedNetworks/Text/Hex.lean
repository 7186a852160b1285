/-!
Hexadecimal digits. Both cases are read and the lower one is written.
-/

namespace SavedNetworks.Text

/-- The value of a hexadecimal digit. -/
def hexValue? (character : Char) : Option Nat :=
  let code := character.toNat
  if 0x30 ≤ code ∧ code ≤ 0x39 then some (code - 0x30)
  else if 0x41 ≤ code ∧ code ≤ 0x46 then some (code - 0x37)
  else if 0x61 ≤ code ∧ code ≤ 0x66 then some (code - 0x57)
  else none

def isHex (character : Char) : Bool := (hexValue? character).isSome

theorem hexValue?_lt {character : Char} {value : Nat} (read : hexValue? character = some value) :
    value < 16 := by
  simp only [hexValue?] at read
  grind

/-- The lower-case digit of a value below sixteen. -/
def hexDigit (value : Nat) : Char := Nat.digitChar (value % 16)

/-- Two lower-case digits. -/
def hexByte (byte : UInt8) : List Char := [hexDigit (byte.toNat / 16), hexDigit byte.toNat]

theorem hexValue?_hexDigit (value : Nat) : hexValue? (hexDigit value) = some (value % 16) := by
  have digits : ∀ digit : Fin 16, hexValue? (Nat.digitChar digit.val) = some digit.val := by decide
  exact digits ⟨value % 16, Nat.mod_lt _ (by decide)⟩

/-- The digits of a number without leading zeros. -/
def hex (value : Nat) : List Char := Nat.toDigits 16 value

end SavedNetworks.Text
