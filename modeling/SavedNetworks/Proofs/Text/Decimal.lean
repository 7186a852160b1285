import SavedNetworks.Text.Decimal

/-!
The decimal digits of a number: they read back as the number, and they start with zero for zero alone.
-/

namespace SavedNetworks.Text

theorem decimalValue_decimal (value : Nat) : decimalValue (decimal value) = value := by
  have read : Nat.ofDigitChars 10 (Nat.toDigits 10 value) 0 = value := Nat.ofDigitChars_ten_toDigits
  rw [Nat.ofDigitChars_eq_foldl] at read
  simpa only [decimalValue, decimal, Nat.mul_comm 10] using read

theorem isDigit_of_mem_decimal {value : Nat} {digit : Char} (member : digit ∈ decimal value) :
    digit.isDigit = true :=
  Nat.isDigit_of_mem_toDigits (by decide) (by decide) member

theorem decimal_ne_nil (value : Nat) : decimal value ≠ [] := Nat.toDigits_ne_nil

theorem decimal_injective {left right : Nat} (same : decimal left = decimal right) : left = right := by
  rw [← decimalValue_decimal left, same, decimalValue_decimal]

theorem decimal_zero : decimal 0 = ['0'] := rfl

/-- Only zero is written with a leading zero. -/
theorem head?_decimal_of_pos {value : Nat} (positive : 0 < value) : (decimal value).head? ≠ some '0' := by
  induction value using Nat.strongRecOn with
  | ind value ih =>
      by_cases small : value < 10
      · rw [decimal, Nat.toDigits_of_lt_base small]
        simp only [List.head?_cons, ne_eq, Option.some.injEq, Nat.digitChar_eq_zero]
        omega
      · have leading := ih (value / 10) (by omega) (by omega)
        obtain ⟨first, rest, digits⟩ := List.exists_cons_of_ne_nil (decimal_ne_nil (value / 10))
        rw [digits] at leading
        rw [decimal, Nat.toDigits_of_base_le (by decide) (by omega)]
        rw [show Nat.toDigits 10 (value / 10) = first :: rest from digits]
        exact leading

end SavedNetworks.Text
