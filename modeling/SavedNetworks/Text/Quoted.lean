import SavedNetworks.Text.Hex
import SavedNetworks.Text.Printable

/-!
Quoted texts as messages and the state report show them: between double quotes, the quote and the
backslash behind a backslash, four control characters by letter, every other hidden character by its
number in hexadecimal, and the rest as it is.
-/

namespace SavedNetworks.Text

/-- One character inside the quotes. -/
def quotedChar (character : Char) : List Char :=
  if character = '"' ∨ character = '\\' then ['\\', character]
  else if character = '\n' then ['\\', 'n']
  else if character = '\r' then ['\\', 'r']
  else if character = '\t' then ['\\', 't']
  else if character.toNat = 0 then ['\\', '0']
  else if isPrintable character then [character]
  else ['\\', 'u', '\x7b'] ++ hex character.toNat ++ ['\x7d']

def quoted (text : String) : String :=
  String.ofList ('"' :: text.toList.flatMap quotedChar ++ ['"'])

end SavedNetworks.Text
