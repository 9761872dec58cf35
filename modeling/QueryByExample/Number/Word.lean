/-!
# Numbers of 64 bits

The ranges of unsigned and signed integers that fit a word of 64 bits.
-/

namespace QueryByExample.Word

/-- Two to the sixty-fourth power, the first number that is too large for an unsigned word. -/
def unsignedLimit : Nat := 18446744073709551616

/-- Two to the sixty-third power, the first number that is too large for a signed word. -/
def signedLimit : Nat := 9223372036854775808

/-- Does an integer fit an unsigned word? -/
def fitsUnsigned (i : Int) : Bool := 0 ≤ i && i < unsignedLimit

/-- Does an integer fit a signed word? -/
def fitsSigned (i : Int) : Bool := -signedLimit ≤ i && i < signedLimit

theorem fitsSigned_iff {i : Int} :
    fitsSigned i = true ↔ -9223372036854775808 ≤ i ∧ i < 9223372036854775808 := by
  simp only [fitsSigned, Bool.and_eq_true, decide_eq_true_eq]
  unfold signedLimit
  omega

end QueryByExample.Word
