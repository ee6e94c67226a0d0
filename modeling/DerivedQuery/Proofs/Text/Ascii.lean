import DerivedQuery.Text.Alphabetic

/-!
# Letter case in ASCII

The classes and mappings of characters are tables over all of Unicode. On the letters, digits and
the underscore of ASCII, of which property names and keywords consist, they are the familiar ones.

## Main results

* `isUppercase_of_isLower`, `lowercase_toUpper`, `uppercase_of_isLower`
* `lowercase_of_isDigit`, `uppercase_of_isDigit`
-/

namespace DerivedQuery.Text

/-- What holds for each of the 128 characters holds for every ASCII character. -/
theorem ascii_cases {P : Char → Prop} (hAll : ∀ n < 128, P (Char.ofNat n)) {c : Char}
    (hAscii : c.toNat < 128) : P c := by
  have hChar := hAll c.toNat hAscii
  rwa [Char.ofNat_toNat] at hChar

theorem toNat_lt_of_isLower {c : Char} (hLower : c.isLower = true) : c.toNat < 128 := by
  have hBounds : (decide (c.val ≥ 'a'.val) && decide (c.val ≤ 'z'.val)) = true := hLower
  simp only [Bool.and_eq_true, decide_eq_true_eq, UInt32.le_iff_toNat_le] at hBounds
  exact Nat.lt_of_le_of_lt hBounds.2 (by decide)

theorem toNat_lt_of_isDigit {c : Char} (hDigit : c.isDigit = true) : c.toNat < 128 := by
  simp only [Char.isDigit, ge_iff_le, Bool.and_eq_true, decide_eq_true_eq, UInt32.le_iff_toNat_le]
    at hDigit
  exact Nat.lt_of_le_of_lt hDigit.2 (by decide)

/-! ## Lowercase letters -/

section Letters

set_option maxRecDepth 4000

theorem isUppercase_of_isLower {c : Char} (hLower : c.isLower = true) : isUppercase c = false :=
  ascii_cases (P := fun c => c.isLower = true → isUppercase c = false) (by decide)
    (toNat_lt_of_isLower hLower) hLower

theorem uppercase_of_isLower {c : Char} (hLower : c.isLower = true) : uppercase c = [c.toUpper] := by
  rw [uppercase, if_pos (toNat_lt_of_isLower hLower)]

theorem isUppercase_toUpper {c : Char} (hLower : c.isLower = true) :
    isUppercase c.toUpper = true :=
  ascii_cases (P := fun c => c.isLower = true → isUppercase c.toUpper = true) (by decide)
    (toNat_lt_of_isLower hLower) hLower

theorem lowercase_toUpper {c : Char} (hLower : c.isLower = true) : lowercase c.toUpper = [c] :=
  ascii_cases (P := fun c => c.isLower = true → lowercase c.toUpper = [c]) (by decide)
    (toNat_lt_of_isLower hLower) hLower

theorem isAlphanum_toUpper {c : Char} (hLower : c.isLower = true) : c.toUpper.isAlphanum = true :=
  ascii_cases (P := fun c => c.isLower = true → c.toUpper.isAlphanum = true) (by decide)
    (toNat_lt_of_isLower hLower) hLower

theorem isAlphabetic_of_isLower {c : Char} (hLower : c.isLower = true) : isAlphabetic c = true :=
  ascii_cases (P := fun c => c.isLower = true → isAlphabetic c = true) (by decide)
    (toNat_lt_of_isLower hLower) hLower

end Letters

/-! ## Digits -/

section Digits

set_option maxRecDepth 4000

theorem isUppercase_of_isDigit {c : Char} (hDigit : c.isDigit = true) : isUppercase c = false :=
  ascii_cases (P := fun c => c.isDigit = true → isUppercase c = false) (by decide)
    (toNat_lt_of_isDigit hDigit) hDigit

theorem lowercase_of_isDigit {c : Char} (hDigit : c.isDigit = true) : lowercase c = [c] :=
  ascii_cases (P := fun c => c.isDigit = true → lowercase c = [c]) (by decide)
    (toNat_lt_of_isDigit hDigit) hDigit

theorem uppercase_of_isDigit {c : Char} (hDigit : c.isDigit = true) : uppercase c = [c] :=
  ascii_cases (P := fun c => c.isDigit = true → uppercase c = [c]) (by decide)
    (toNat_lt_of_isDigit hDigit) hDigit

theorem isAlphabetic_of_isDigit {c : Char} (hDigit : c.isDigit = true) : isAlphabetic c = false :=
  ascii_cases (P := fun c => c.isDigit = true → isAlphabetic c = false) (by decide)
    (toNat_lt_of_isDigit hDigit) hDigit

theorem isDigit_eq_false_of_isLower {c : Char} (hLower : c.isLower = true) : c.isDigit = false :=
  ascii_cases (P := fun c => c.isLower = true → c.isDigit = false) (by decide)
    (toNat_lt_of_isLower hLower) hLower

theorem isDecimalDigit_of_isDigit {c : Char} (hDigit : c.isDigit = true) :
    isDecimalDigit c = true := by
  rw [isDecimalDigit, if_pos (toNat_lt_of_isDigit hDigit), hDigit]

end Digits

end DerivedQuery.Text
