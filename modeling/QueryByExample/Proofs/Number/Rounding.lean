import QueryByExample.Number.Binary64
/-!
# Rounding to doubles

Rounding gives a number, and a zero only for zero. Comparing an integer with a double goes through
the nearest double: numerical equality of doubles is transitive, and the doubles of two integers are
numerically equal only if they are the same double.

## Main statements

- `Binary64.isNaN_ofRatio`: rounding gives numbers.
- `Binary64.sameNumber_trans`: numerical equality is transitive.
- `Binary64.ofInt_eq_of_sameNumber`: integers with numerically equal doubles have the same double.
-/

namespace QueryByExample.Binary64

theorem sameNumber_iff {x y : Binary64} :
    x.sameNumber y = true ↔
      x.isNaN = false ∧ y.isNaN = false ∧ (x = y ∨ (x.isZero = true ∧ y.isZero = true)) := by
  simp [sameNumber, and_assoc]

theorem sameNumber_trans {x y z : Binary64} (hxy : x.sameNumber y = true)
    (hyz : y.sameNumber z = true) : x.sameNumber z = true := by
  obtain ⟨hx, -, hxy⟩ := sameNumber_iff.1 hxy
  obtain ⟨-, hz, hyz⟩ := sameNumber_iff.1 hyz
  refine sameNumber_iff.2 ⟨hx, hz, ?_⟩
  rcases hxy with rfl | ⟨hx0, hy0⟩
  · exact hyz
  · rcases hyz with rfl | ⟨-, hz0⟩
    · exact Or.inr ⟨hx0, hy0⟩
    · exact Or.inr ⟨hx0, hz0⟩

/-! ### Patterns -/

variable {negative : Bool} {pattern : Nat}

theorem toNat_exponent_ofPattern (h : pattern < 2047 * implicitBit) :
    (ofPattern negative pattern).exponent.toNat = pattern / implicitBit := by
  have hlt : pattern / implicitBit < 2047 := (Nat.div_lt_iff_lt_mul (by decide)).2 h
  exact Nat.mod_eq_of_lt (by omega)

/-- A pattern of a normal magnitude is not that of a zero. -/
theorem isZero_ofPattern (hlow : implicitBit ≤ pattern) (hhigh : pattern < 2047 * implicitBit) :
    (ofPattern negative pattern).isZero = false := by
  have hpos : 1 ≤ pattern / implicitBit :=
    (Nat.le_div_iff_mul_le (by decide)).2 (by simpa using hlow)
  have hexp : (ofPattern negative pattern).exponent ≠ 0 := by
    intro heq
    have hnat := @toNat_exponent_ofPattern negative pattern hhigh
    have hzero : (0 : BitVec 11).toNat = 0 := rfl
    rw [heq, hzero] at hnat
    omega
  simp only [isZero, Bool.and_eq_false_iff, beq_eq_false_iff_ne]
  exact Or.inl hexp

theorem isNaN_ofPattern (h : pattern < 2047 * implicitBit) :
    (ofPattern negative pattern).isNaN = false := by
  have hlt : pattern / implicitBit < 2047 := (Nat.div_lt_iff_lt_mul (by decide)).2 h
  have hexp : (ofPattern negative pattern).exponent ≠ topExponent := by
    intro heq
    have hnat := @toNat_exponent_ofPattern negative pattern h
    have htop : topExponent.toNat = 2047 := by decide
    rw [heq, htop] at hnat
    omega
  simp [isNaN, hexp]

/-- Rounding a quotient gives a number. -/
theorem isNaN_ofRatio (negative : Bool) (num den : Nat) :
    (ofRatio negative num den).isNaN = false := by
  unfold ofRatio
  simp only
  split
  · simp [zero, isNaN, topExponent]
  · split
    · next h => exact isNaN_ofPattern h
    · simp [infinity, isNaN]

/-! ### Integers -/

/-- A positive integer is at least one, so its leading bit is not below the unit. -/
theorem floorLog2_one_ge (n : Nat) : -1 ≤ floorLog2 n 1 := by
  have hlog : Nat.log2 1 = 0 := by decide
  unfold floorLog2
  simp only [hlog]
  split <;> omega

/-- Only zero is rounded to a zero. -/
theorem eq_zero_of_isZero_ofInt {i : Int} (h : (ofInt i).isZero = true) : i = 0 := by
  refine Decidable.byContradiction fun hi => ?_
  have hn : i.natAbs ≠ 0 := by omega
  simp only [ofInt, ofRatio, hn, if_false] at h
  have hunit := floorLog2_one_ge i.natAbs
  generalize floorLog2 i.natAbs 1 = e at h hunit
  split at h
  · next hlt =>
    have hfactor : 1 ≤ (max (e - 52) (-1074) + 1074).toNat := by omega
    have hlow := Nat.mul_le_mul_right implicitBit hfactor
    rw [isZero_ofPattern (by omega) hlt] at h
    cases h
  · simp [isZero, infinity, topExponent] at h

/-- The doubles of integers that are equal as numbers are equal as doubles. -/
theorem ofInt_eq_of_sameNumber {i j : Int} (h : (ofInt i).sameNumber (ofInt j) = true) :
    ofInt i = ofInt j := by
  obtain ⟨-, -, heq | ⟨hi, hj⟩⟩ := sameNumber_iff.1 h
  · exact heq
  · rw [eq_zero_of_isZero_ofInt hi, eq_zero_of_isZero_ofInt hj]

theorem sameNumber_ofInt_iff {i j : Int} :
    (ofInt i).sameNumber (ofInt j) = true ↔ ofInt i = ofInt j := by
  constructor
  · exact ofInt_eq_of_sameNumber
  · intro heq
    rw [heq]
    exact sameNumber_self (isNaN_ofRatio _ _ _)

end QueryByExample.Binary64
