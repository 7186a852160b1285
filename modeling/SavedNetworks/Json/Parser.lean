import SavedNetworks.Json.Basic
import SavedNetworks.Text.Decimal
import SavedNetworks.Text.Hex

/-!
Reading a document. The grammar is that of JSON: four blanks, no leading zeros, no raw control
characters in strings, nothing after the document but blanks. Nesting has no limit. A string with an
unpaired surrogate is read, as a string without a text.
-/

namespace SavedNetworks.Json

def isSpace (character : Char) : Bool :=
  character == ' ' || character == '\t' || character == '\n' || character == '\r'

def skipSpace (input : List Char) : List Char := input.dropWhile isSpace

def digits? (input : List Char) : Option (List Char × List Char) :=
  match input.takeWhile Char.isDigit with
  | [] => none
  | digits => some (digits, input.dropWhile Char.isDigit)

/-- A whole number without sign, not zero-led. -/
def whole? : List Char → Option (Nat × List Char)
  | '0' :: rest => if rest.head?.any Char.isDigit then none else some (0, rest)
  | input => do
    let (digits, rest) ← digits? input
    some (Text.decimalValue digits, rest)

/-- Reads a fraction if one follows; says whether it did. -/
def fraction? : List Char → Option (Bool × List Char)
  | '.' :: rest => do
    let (_, rest) ← digits? rest
    some (true, rest)
  | input => some (false, input)

def exponent? : List Char → Option (Bool × List Char)
  | mark :: rest =>
    if mark = 'e' ∨ mark = 'E' then do
      let unsigned := match rest with
        | sign :: unsigned => if sign = '+' ∨ sign = '-' then unsigned else rest
        | [] => rest
      let (_, rest) ← digits? unsigned
      some (true, rest)
    else some (false, mark :: rest)
  | [] => some (false, [])

def number? (negative : Bool) (input : List Char) : Option (Json × List Char) := do
  let (value, rest) ← whole? input
  let (fractional, rest) ← fraction? rest
  let (scaled, rest) ← exponent? rest
  if fractional || scaled || (negative && value == 0) then some (inexact, rest)
  else some (int (if negative then -value else value), rest)

/-- The code that a letter after a backslash stands for. -/
def escapeCode? : Char → Option Nat
  | '"' => some 0x22
  | '\\' => some 0x5C
  | '/' => some 0x2F
  | 'b' => some 0x08
  | 'f' => some 0x0C
  | 'n' => some 0x0A
  | 'r' => some 0x0D
  | 't' => some 0x09
  | _ => none

/-- The codes of a string up to its closing quote; an escaped surrogate is a code of its own. -/
def codes? : List Char → Option (List Nat × List Char)
  | [] => none
  | '"' :: rest => some ([], rest)
  | '\\' :: 'u' :: a :: b :: c :: d :: rest => do
    let high ← Text.hexValue? a
    let upper ← Text.hexValue? b
    let lower ← Text.hexValue? c
    let low ← Text.hexValue? d
    let (codes, rest) ← codes? rest
    some ((((high * 16 + upper) * 16 + lower) * 16 + low) :: codes, rest)
  | '\\' :: letter :: rest => do
    let code ← escapeCode? letter
    let (codes, rest) ← codes? rest
    some (code :: codes, rest)
  | character :: rest =>
    if character.toNat < 0x20 ∨ character = '\\' then none
    else do
      let (codes, rest) ← codes? rest
      some (character.toNat :: codes, rest)

def isHighSurrogate (code : Nat) : Bool := 0xD800 ≤ code && code ≤ 0xDBFF

def isLowSurrogate (code : Nat) : Bool := 0xDC00 ≤ code && code ≤ 0xDFFF

/-- Joins surrogate pairs; none if a surrogate has no partner. -/
def joinSurrogates : List Nat → Option (List Char)
  | [] => some []
  | high :: low :: rest =>
    if isHighSurrogate high && isLowSurrogate low then do
      let characters ← joinSurrogates rest
      some (Char.ofNat (0x10000 + (high - 0xD800) * 0x400 + (low - 0xDC00)) :: characters)
    else if isHighSurrogate high || isLowSurrogate high then none
    else do
      let characters ← joinSurrogates (low :: rest)
      some (Char.ofNat high :: characters)
  | [code] => if isHighSurrogate code || isLowSurrogate code then none else some [Char.ofNat code]

/-- A string after its opening quote. -/
def string? (input : List Char) : Option (Option String × List Char) := do
  let (codes, rest) ← codes? input
  some ((joinSurrogates codes).map String.ofList, rest)

/-! Documents. The fuel bounds the depth of calls. A call for an item or a member is
followed by one that consumes a character, so twice the length of the input is enough. -/

mutual

def value? : Nat → List Char → Option (Json × List Char)
  | 0, _ => none
  | fuel + 1, input =>
    match skipSpace input with
    | 'n' :: 'u' :: 'l' :: 'l' :: rest => some (null, rest)
    | 't' :: 'r' :: 'u' :: 'e' :: rest => some (bool true, rest)
    | 'f' :: 'a' :: 'l' :: 's' :: 'e' :: rest => some (bool false, rest)
    | '"' :: rest => do
      let (value, rest) ← string? rest
      some (string value, rest)
    | '[' :: rest =>
      match skipSpace rest with
      | ']' :: rest => some (list [], rest)
      | rest => do
        let (items, rest) ← items? fuel rest
        some (list items, rest)
    | '\x7b' :: rest =>
      match skipSpace rest with
      | '\x7d' :: rest => some (record [], rest)
      | rest => do
        let (members, rest) ← members? fuel rest
        some (record members, rest)
    | '-' :: rest => number? true rest
    | rest => number? false rest

/-- One item and those after it, up to the closing bracket. -/
def items? : Nat → List Char → Option (List Json × List Char)
  | 0, _ => none
  | fuel + 1, input => do
    let (item, rest) ← value? fuel input
    match skipSpace rest with
    | ']' :: rest => some ([item], rest)
    | ',' :: rest => do
      let (items, rest) ← items? fuel rest
      some (item :: items, rest)
    | _ => none

/-- One member and those after it, up to the closing brace. -/
def members? : Nat → List Char → Option (List (Option String × Json) × List Char)
  | 0, _ => none
  | fuel + 1, input =>
    match skipSpace input with
    | '"' :: rest => do
      let (name, rest) ← string? rest
      match skipSpace rest with
      | ':' :: rest => do
        let (value, rest) ← value? fuel rest
        match skipSpace rest with
        | '\x7d' :: rest => some ([(name, value)], rest)
        | ',' :: rest => do
          let (members, rest) ← members? fuel rest
          some ((name, value) :: members, rest)
        | _ => none
      | _ => none
    | _ => none

end

def parse? (document : String) : Option Json := do
  let input := document.toList
  let (value, rest) ← value? (2 * input.length + 2) input
  if (skipSpace rest).isEmpty then some value else none

end SavedNetworks.Json
