/-!
Times and durations in milliseconds, in words of 64 bits. A sum or a difference that is no time halts the
program that takes it; what may grow without bound is saturated instead.
-/

namespace SavedNetworks

abbrev Millis := Int64

namespace Millis

def saturate (value : Int) : Millis :=
  if value < Int64.minValue.toInt then Int64.minValue
  else if Int64.maxValue.toInt < value then Int64.maxValue
  else Int64.ofInt value

theorem toInt_saturate (value : Int) :
    (saturate value).toInt = max Int64.minValue.toInt (min value Int64.maxValue.toInt) := by
  unfold saturate
  have order : Int64.minValue.toInt ≤ Int64.maxValue.toInt := by decide
  split
  · omega
  · split
    · omega
    · rw [Int64.toInt_ofInt_of_le] <;> simp only [Int64.toInt_minValue, Int64.toInt_maxValue] at * <;> omega

/-- A number that is a time. -/
def Fits (value : Int) : Prop := Int64.minValue.toInt ≤ value ∧ value ≤ Int64.maxValue.toInt

instance (value : Int) : Decidable (Fits value) := inferInstanceAs (Decidable (_ ∧ _))

def add? (time duration : Millis) : Option Millis :=
  if Fits (time.toInt + duration.toInt) then some (time + duration) else none

def sub? (now since : Millis) : Option Millis :=
  if Fits (now.toInt - since.toInt) then some (now - since) else none

def minute : Millis := 60 * 1000

def hour : Millis := 60 * 60 * 1000

def day : Millis := 24 * 60 * 60 * 1000

end Millis

end SavedNetworks
