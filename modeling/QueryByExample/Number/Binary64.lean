/-!
# Binary floating point in 64 bits

Numbers of the interchange format with eleven exponent bits and fifty-two fraction bits, and the
rounding of exact quotients to them. Everything is computed on natural numbers, so closed
statements about doubles can be decided by the kernel.

## Main definitions

- `Binary64`: a bit pattern, split into its three fields.
- `Binary64.ofRatio`: the double nearest to a quotient, ties to the even significand.
- `Binary64.significand`, `Binary64.power`: a finite magnitude as `significand * 2 ^ power`.
- `Binary64.sameNumber`: numerical equality, for which the two zeros are equal and a NaN equals
  nothing.
-/

namespace QueryByExample

/-- A double as its sign, its biased exponent and its fraction. -/
structure Binary64 where
  negative : Bool
  exponent : BitVec 11
  fraction : BitVec 52
  deriving DecidableEq

namespace Binary64

/-- Two to the fifty-second power, the weight of the bit that a normal significand has in front of
its fraction. -/
def implicitBit : Nat := 4503599627370496

/-- The exponent field of the infinities and the NaNs. -/
def topExponent : BitVec 11 := BitVec.allOnes 11

/-- The zero of a sign. -/
def zero (negative : Bool) : Binary64 := ⟨negative, 0, 0⟩

/-- The infinity of a sign. -/
def infinity (negative : Bool) : Binary64 := ⟨negative, topExponent, 0⟩

/-- A quiet NaN. -/
def nan : Binary64 := ⟨false, topExponent, BitVec.ofNat 52 (Nat.pow 2 51)⟩

/-- Not a number at all. -/
def isNaN (x : Binary64) : Bool := x.exponent == topExponent && x.fraction != 0

/-- Neither infinite nor a NaN. -/
def isFinite (x : Binary64) : Bool := x.exponent != topExponent

/-- One of the two zeros. -/
def isZero (x : Binary64) : Bool := x.exponent == 0 && x.fraction == 0

/-- The integer factor of a finite magnitude. -/
def significand (x : Binary64) : Nat :=
  if x.exponent = 0 then x.fraction.toNat else implicitBit + x.fraction.toNat

/-- The power of two in a finite magnitude. -/
def power (x : Binary64) : Int :=
  if x.exponent = 0 then -1074 else (x.exponent.toNat : Int) - 1075

/-- Numerical equality: the zeros are equal, and a NaN equals nothing, itself included. -/
def sameNumber (x y : Binary64) : Bool :=
  !x.isNaN && !y.isNaN && (x == y || (x.isZero && y.isZero))

/-- The double whose bits below the sign are those of `pattern`. Magnitudes grow with their
patterns, so the pattern after that of the largest finite double is that of infinity. -/
def ofPattern (negative : Bool) (pattern : Nat) : Binary64 :=
  ⟨negative, BitVec.ofNat 11 (pattern / implicitBit), BitVec.ofNat 52 pattern⟩

/-- The integer nearest to `num / den`, a tie to the even one. -/
def roundQuotient (num den : Nat) : Nat :=
  let quotient := num / den
  let remainder := num % den
  if 2 * remainder < den then quotient
  else if den < 2 * remainder then quotient + 1
  else if quotient % 2 = 0 then quotient
  else quotient + 1

/-- The exponent of the largest power of two that is at most `num / den`, both positive. -/
def floorLog2 (num den : Nat) : Int :=
  let guess : Int := (num.log2 : Int) - (den.log2 : Int)
  if den * Nat.pow 2 guess.toNat ≤ num * Nat.pow 2 (-guess).toNat then guess else guess - 1

/-- The double nearest to `num / den`, a tie to the even significand. What is too large becomes
infinite; what is too small becomes subnormal or zero.

The unit of the last place is `2 ^ unit`. A significand of `m` units has the pattern
`(unit + 1074) * 2 ^ 52 + m`, in which a significand rounded up to `2 ^ 53` carries into the
exponent by itself. -/
def ofRatio (negative : Bool) (num den : Nat) : Binary64 :=
  if num = 0 then zero negative
  else
    let unit : Int := max (floorLog2 num den - 52) (-1074)
    let units := roundQuotient (num * Nat.pow 2 (-unit).toNat) (den * Nat.pow 2 unit.toNat)
    let pattern := (unit + 1074).toNat * implicitBit + units
    if pattern < 2047 * implicitBit then ofPattern negative pattern else infinity negative

/-- The double nearest to an integer. -/
def ofInt (i : Int) : Binary64 := ofRatio (decide (i < 0)) i.natAbs 1

/-- The numerator of a finite magnitude as a quotient. -/
def numerator (x : Binary64) : Nat := x.significand * Nat.pow 2 x.power.toNat

/-- The denominator of a finite magnitude as a quotient. -/
def denominator (x : Binary64) : Nat := Nat.pow 2 (-x.power).toNat

/-- The rounded product of two finite doubles. -/
def times (x y : Binary64) : Binary64 :=
  ofRatio (x.negative != y.negative) (x.numerator * y.numerator) (x.denominator * y.denominator)

/-- The rounded quotient of two finite doubles, the second of which is not zero. -/
def dividedBy (x y : Binary64) : Binary64 :=
  ofRatio (x.negative != y.negative) (x.numerator * y.denominator) (x.denominator * y.numerator)

theorem sameNumber_comm (x y : Binary64) : x.sameNumber y = y.sameNumber x := by
  unfold sameNumber
  rw [BEq.comm (a := x), Bool.and_comm (!x.isNaN), Bool.and_comm x.isZero]

theorem sameNumber_self {x : Binary64} (h : x.isNaN = false) : x.sameNumber x = true := by
  simp [sameNumber, h]

end Binary64

end QueryByExample
