import SavedNetworks.Json.Basic
import SavedNetworks.Text.Decimal
import SavedNetworks.Text.Hex

/-!
The written form of a document: no blanks, members in their order, and an escape only where the format
demands one. A tree that no proper document spells exactly gets a stand-in that reads back as the same
tree: a negative zero for an inexact number, a lone surrogate for a broken string.
-/

namespace SavedNetworks.Json

def escaped (character : Char) : List Char :=
  match character with
  | '"' => ['\\', '"']
  | '\\' => ['\\', '\\']
  | '\n' => ['\\', 'n']
  | '\r' => ['\\', 'r']
  | '\t' => ['\\', 't']
  | '\x08' => ['\\', 'b']
  | '\x0C' => ['\\', 'f']
  | other =>
    if other.toNat < 0x20 then ['\\', 'u', '0', '0'] ++ Text.hexByte (UInt8.ofNat other.toNat)
    else [other]

def printString : Option String → List Char
  | some value => '"' :: value.toList.flatMap escaped ++ ['"']
  | none => ['"', '\\', 'u', 'd', '8', '0', '0', '"']

mutual

def print : Json → List Char
  | null => ['n', 'u', 'l', 'l']
  | bool true => ['t', 'r', 'u', 'e']
  | bool false => ['f', 'a', 'l', 's', 'e']
  | int value => Text.decimalInt value
  | inexact => ['-', '0']
  | string value => printString value
  | list [] => ['[', ']']
  | list (item :: rest) => '[' :: print item ++ printItems rest
  | record [] => ['\x7b', '\x7d']
  | record ((name, value) :: rest) => '\x7b' :: printString name ++ ':' :: print value ++ printMembers rest

/-- The items after the first, up to the closing bracket. -/
def printItems : List Json → List Char
  | [] => [']']
  | item :: rest => ',' :: print item ++ printItems rest

def printMembers : List (Option String × Json) → List Char
  | [] => ['\x7d']
  | (name, value) :: rest => ',' :: printString name ++ ':' :: print value ++ printMembers rest

end

def render (document : Json) : String := String.ofList document.print

end SavedNetworks.Json
