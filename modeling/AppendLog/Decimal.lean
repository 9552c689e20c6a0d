/-!
# Decimal numerals

Natural numbers as ASCII digits. `write` gives the canonical numeral, without leading zeros;
`word?` reads any non-empty string of digits whose value fits in 64 bits, leading zeros included.
-/

namespace AppendLog.Decimal

/-- The numeral of `n`, without leading zeros. -/
def write (n : Nat) : String := n.repr

/-- A non-empty string of ASCII digits. -/
def IsNumeral (cs : List Char) : Prop := cs ≠ [] ∧ ∀ c ∈ cs, c.isDigit = true

instance (cs : List Char) : Decidable (IsNumeral cs) :=
  inferInstanceAs (Decidable (_ ∧ _))

/-- The value of a string of digits, most significant first. -/
def value (cs : List Char) : Nat := Nat.ofDigitChars 10 cs 0

/-- The 64-bit word that a numeral stands for, if it is a numeral and its value fits. -/
def word? (cs : List Char) : Option UInt64 :=
  if IsNumeral cs ∧ value cs < UInt64.size then some (UInt64.ofNat (value cs)) else none

/-! ## Writing and reading -/

theorem toList_write (n : Nat) : (write n).toList = Nat.toDigits 10 n :=
  Nat.toList_repr

theorem isNumeral_write (n : Nat) : IsNumeral (write n).toList := by
  refine ⟨by simp [toList_write, Nat.toDigits_ne_nil], fun c hc => ?_⟩
  rw [toList_write] at hc
  exact Nat.isDigit_of_mem_toDigits (by decide) (by decide) hc

@[simp] theorem value_write (n : Nat) : value (write n).toList = n := by
  rw [toList_write]
  exact Nat.ofDigitChars_ten_toDigits

theorem word?_write (w : UInt64) : word? (write w.toNat).toList = some w := by
  have hw : value (write w.toNat).toList < UInt64.size := by
    rw [value_write]
    exact w.toNat_lt
  rw [word?, if_pos ⟨isNumeral_write _, hw⟩, value_write, UInt64.ofNat_toNat]

end AppendLog.Decimal
