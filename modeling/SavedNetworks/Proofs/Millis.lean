import Mathlib.Algebra.Group.Int.Defs
import SavedNetworks.Millis

/-!
Times in the integers. A checked sum or difference is that of the integers (`Millis.sub?_eq_some_iff`), and there is none only
if that is no time.
-/

namespace SavedNetworks.Millis

variable {now since time duration : Millis}

theorem toInt_max (first second : Millis) : (max first second).toInt = max first.toInt second.toInt := by
  change (if first ≤ second then second else first).toInt = _
  simp only [Int64.le_iff_toInt_le]
  split <;> omega

theorem toInt_min (first second : Millis) : (min first second).toInt = min first.toInt second.toInt := by
  change (if first ≤ second then first else second).toInt = _
  simp only [Int64.le_iff_toInt_le]
  split <;> omega

theorem toInt_saturate_of_nonneg {value : Int} (nonneg : 0 ≤ value) :
    (saturate value).toInt = min value Int64.maxValue.toInt := by
  have lower : Int64.minValue.toInt < 0 := by decide
  have upper : 0 ≤ Int64.maxValue.toInt := by decide
  rw [toInt_saturate]
  omega

theorem fits_toInt (time : Millis) : Fits time.toInt :=
  ⟨by rw [Int64.toInt_minValue]; exact time.le_toInt, by rw [Int64.toInt_maxValue]; exact Int.le_of_lt_add_one time.toInt_lt⟩

theorem toInt_add_of_fits (fits : Fits (time.toInt + duration.toInt)) :
    (time + duration).toInt = time.toInt + duration.toInt := by
  have above := fits.1
  have below := fits.2
  rw [Int64.toInt_minValue] at above
  rw [Int64.toInt_maxValue] at below
  rw [Int64.toInt_add]
  exact Int.bmod_eq_of_le (by omega) (by omega)

theorem toInt_sub_of_fits (fits : Fits (now.toInt - since.toInt)) : (now - since).toInt = now.toInt - since.toInt := by
  have above := fits.1
  have below := fits.2
  rw [Int64.toInt_minValue] at above
  rw [Int64.toInt_maxValue] at below
  rw [Int64.toInt_sub]
  exact Int.bmod_eq_of_le (by omega) (by omega)

theorem add?_eq_some_iff {sum : Millis} : add? time duration = some sum ↔ sum.toInt = time.toInt + duration.toInt := by
  unfold add?
  split
  · next fits => rw [Option.some.injEq, ← Int64.toInt_inj, toInt_add_of_fits fits, eq_comm]
  · next exceeds => exact iff_of_false nofun fun same => exceeds (same ▸ fits_toInt sum)

theorem sub?_eq_some_iff {passed : Millis} : sub? now since = some passed ↔ passed.toInt = now.toInt - since.toInt := by
  unfold sub?
  split
  · next fits => rw [Option.some.injEq, ← Int64.toInt_inj, toInt_sub_of_fits fits, eq_comm]
  · next exceeds => exact iff_of_false nofun fun same => exceeds (same ▸ fits_toInt passed)

theorem sub?_eq_none_iff : sub? now since = none ↔ ¬ Fits (now.toInt - since.toInt) := by
  simp [sub?]

/-- The time that has passed, in the integers. -/
def age (since now : Millis) : Int := now.toInt - since.toInt

/-- A reading that is not negative can only be too late for a difference. -/
theorem sub?_eq_none_iff_lt_age (reading : 0 ≤ now.toInt) :
    sub? now since = none ↔ Int64.maxValue.toInt < age since now := by
  have latest := since.toInt_lt
  rw [sub?_eq_none_iff, Fits, Int64.toInt_minValue, age]
  omega

theorem age_le_of_sub? {passed : Millis} (passes : sub? now since = some passed) :
    age since now ≤ Int64.maxValue.toInt := by
  rw [age, ← sub?_eq_some_iff.1 passes]
  exact (fits_toInt passed).2

end SavedNetworks.Millis
