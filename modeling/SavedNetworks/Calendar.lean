import SavedNetworks.Text.Decimal

/-!
Dates of the proleptic Gregorian calendar, and the text of a moment that is given in milliseconds since
the start of 1970 in universal time.
-/

namespace SavedNetworks

structure Date where
  year : Int
  month : Nat
  day : Nat
deriving DecidableEq

namespace Date

def daysPerEra : Nat := 146097

/-- The date that lies `days` days after 1 January 1970. Years are counted from March, so that the leap
day is the last of its year, in eras of 400 years. -/
def ofDays (days : Int) : Date :=
  let shifted := days + 719468
  let era := shifted.fdiv daysPerEra
  let dayOfEra := (shifted.fmod daysPerEra).toNat
  let yearOfEra := (dayOfEra - dayOfEra / 1460 + dayOfEra / 36524 - dayOfEra / 146096) / 365
  let dayOfYear := dayOfEra - (365 * yearOfEra + yearOfEra / 4 - yearOfEra / 100)
  let shiftedMonth := (5 * dayOfYear + 2) / 153
  let month := if shiftedMonth < 10 then shiftedMonth + 3 else shiftedMonth - 9
  let year := yearOfEra + era * 400
  { year := if month ≤ 2 then year + 1 else year
    month
    day := dayOfYear - (153 * shiftedMonth + 2) / 5 + 1 }

/-- Four digits at least; a sign stands before the years that four digits do not hold. -/
def yearText (year : Int) : List Char :=
  let digits := Text.padded 4 year.natAbs
  if year < 0 then '-' :: digits
  else if year > 9999 then '+' :: digits
  else digits

def characters (date : Date) : List Char :=
  yearText date.year ++ '-' :: Text.padded 2 date.month ++ '-' :: Text.padded 2 date.day

end Date

namespace Moment

def millisPerDay : Nat := 86400000

def first : Int := -8334601228800000

def last : Int := 8210266876799999

/-- The text of a moment, with milliseconds if there are any. The calendar ends at `first` and `last`;
there is no text beyond. -/
def text? (millis : Int) : Option String :=
  if millis < first ∨ last < millis then none
  else
    let date := Date.ofDays (millis.fdiv millisPerDay)
    let inDay := (millis.fmod millisPerDay).toNat
    let fraction := if inDay % 1000 = 0 then [] else '.' :: Text.padded 3 (inDay % 1000)
    let time := Text.padded 2 (inDay / 3600000) ++ ':' :: Text.padded 2 (inDay / 60000 % 60) ++
      ':' :: Text.padded 2 (inDay / 1000 % 60)
    some (String.ofList (date.characters ++ 'T' :: time ++ fraction ++ ['+', '0', '0', ':', '0', '0']))

end Moment

end SavedNetworks
