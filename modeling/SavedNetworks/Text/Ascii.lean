/-!
The letters of ASCII in their two cases. Characters outside ASCII have no case here, so they are kept
by `lower` and equal only to themselves under `sameLetters`.
-/

namespace SavedNetworks.Text

def isAscii (text : String) : Bool := text.toList.all fun character => character.toNat < 0x80

/-- Writes the letters A to Z in lower case and keeps every other character. -/
def lower (text : String) : String := String.ofList (text.toList.map Char.toLower)

/-- Equality up to the case of ASCII letters. -/
def sameLetters (left right : List Char) : Bool := left.map Char.toLower == right.map Char.toLower

theorem sameLetters_comm (left right : List Char) : sameLetters left right = sameLetters right left :=
  Bool.beq_comm

end SavedNetworks.Text
