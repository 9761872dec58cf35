import QueryByExample.Number.Decimal
import QueryByExample.Proofs.Number.Rounding
/-!
# Integer numerals

What a decimal numeral of an integer denotes, however long it is, and the double that is nearest to
it.

## Main definitions

- `Decimal.Denotes`: an integer numeral and its integer.

## Main statements

- `Decimal.Denotes.exists_digits`: its sign and its digits.
- `Numeral.nearest_whole`: the double nearest to it is that of its integer.
-/

namespace QueryByExample

namespace Decimal

/-- An integer numeral is at least one digit after an optional sign. -/
inductive Denotes : List Char → Int → Prop where
  | unsigned {digits : List Char} (ne : digits ≠ []) (all : ∀ c ∈ digits, isDigit c = true) :
      Denotes digits (digitsValue digits)
  | plus {digits : List Char} (ne : digits ≠ []) (all : ∀ c ∈ digits, isDigit c = true) :
      Denotes ('+' :: digits) (digitsValue digits)
  | minus {digits : List Char} (ne : digits ≠ []) (all : ∀ c ∈ digits, isDigit c = true) :
      Denotes ('-' :: digits) (-(digitsValue digits : Int))

variable {cs digits : List Char} {i : Int}

theorem takeSign_of_forall_isDigit (h : ∀ c ∈ digits, isDigit c = true) :
    takeSign digits = (false, digits) := by
  unfold takeSign
  split
  · exact absurd (h '-' List.mem_cons_self) (by decide)
  · exact absurd (h '+' List.mem_cons_self) (by decide)
  · rfl

theorem Denotes.exists_digits (h : Denotes cs i) :
    ∃ negative digits, takeSign cs = (negative, digits) ∧ digits ≠ [] ∧
      (∀ c ∈ digits, isDigit c = true) ∧
      i = if negative then -(digitsValue digits : Int) else digitsValue digits := by
  cases h with
  | unsigned ne all => exact ⟨false, cs, takeSign_of_forall_isDigit all, ne, all, rfl⟩
  | @plus digits ne all => exact ⟨false, digits, rfl, ne, all, rfl⟩
  | @minus digits ne all => exact ⟨true, digits, rfl, ne, all, rfl⟩

end Decimal

/-- Rounding the magnitude under a sign is rounding the integer. -/
theorem Binary64.ofRatio_one {n : Nat} (hn : n ≠ 0) (negative : Bool) :
    ofRatio negative n 1 = ofInt (if negative then -(n : Int) else n) := by
  unfold ofInt
  cases negative with
  | false =>
    have hsign : decide ((n : Int) < 0) = false := decide_eq_false (by omega)
    simp [hsign]
  | true =>
    have hsign : decide (-(n : Int) < 0) = true := decide_eq_true (by omega)
    simp only [if_true, hsign, Int.natAbs_neg, Int.natAbs_natCast]

/-- The double nearest to a numeral other than zero is that of its integer. -/
theorem Numeral.nearest_whole (negative : Bool) {digits : List Char} (h : digitsValue digits ≠ 0) :
    nearest ⟨negative, digits, [], 0⟩ =
      .ofInt (if negative then -(digitsValue digits : Int) else digitsValue digits) := by
  -- the exponent of a numeral without fraction is zero, within all bounds
  have hlarge : ¬ 400 < (0 : Int) := by omega
  have hsmall : ¬ ((digitsValue digits).log2 / 3 + 1 : Nat) + (0 : Int) < -400 := by omega
  show nearestScaled negative (digitsValue (digits ++ [])) 0 = _
  rw [List.append_nil, nearestScaled, if_neg h, if_neg hlarge, if_neg hsmall,
    ← Binary64.ofRatio_one h]
  show Binary64.ofRatio negative (digitsValue digits * 1) 1 = _
  rw [Nat.mul_one]

end QueryByExample
