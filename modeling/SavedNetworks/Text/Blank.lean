/-!
White space around a text. The class is Unicode's `White_Space`; `trim` removes its members from both
ends and nothing else.
-/

namespace SavedNetworks.Text

/-- The first and last code point of each run of white space. -/
def blankRanges : List (Nat × Nat) :=
  [(0x09, 0x0D), (0x20, 0x20), (0x85, 0x85), (0xA0, 0xA0), (0x1680, 0x1680), (0x2000, 0x200A),
    (0x2028, 0x2029), (0x202F, 0x202F), (0x205F, 0x205F), (0x3000, 0x3000)]

def isBlank (character : Char) : Bool :=
  blankRanges.any fun (first, last) => first ≤ character.toNat && character.toNat ≤ last

def trimStart (characters : List Char) : List Char := characters.dropWhile isBlank

def trim (characters : List Char) : List Char := (trimStart (trimStart characters).reverse).reverse

/-- Nothing but white space, or nothing at all. -/
def isBlankText (text : String) : Bool := text.toList.all isBlank

end SavedNetworks.Text
