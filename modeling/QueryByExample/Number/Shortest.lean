import QueryByExample.Number.Binary64
/-!
# Shortest decimals

The decimal with the fewest digits among those that round to a given double, and its layout as
text.

## Main definitions

- `Decimal.Digits`: an integer of `digits` times a power of ten.
- `Binary64.readsBack`: does a decimal lie among the reals that round to the double?
- `Binary64.shortest`: the fewest digits that read back, the nearest of those, a tie to the even.
- `Decimal.Layout`: where positional notation ends, and how an exponent is written.
-/

namespace QueryByExample

/-- The decimal `digits * 10 ^ exponent`. -/
structure Decimal.Digits where
  digits : Nat
  exponent : Int
  deriving DecidableEq

namespace Binary64

/-- Compare `a * 10 ^ i` with `n * 2 ^ j`. -/
def compareScaled (a : Nat) (i : Int) (n : Nat) (j : Int) : Ordering :=
  compare (a * Nat.pow 10 i.toNat * Nat.pow 2 (-j).toNat)
    (n * Nat.pow 2 j.toNat * Nat.pow 10 (-i).toNat)

/-- The double below is only half a unit away: the fraction is zero and the exponent is not the
least one. -/
def narrowBelow (x : Binary64) : Bool := x.fraction == 0 && 1 < x.exponent.toNat

/-- Is `d` between the midpoints to the two neighbours of the finite positive magnitude of `x`? The
midpoints themselves count when the significand is even. -/
def readsBack (x : Binary64) (d : Decimal.Digits) : Bool :=
  let below := if x.narrowBelow then 4 * x.significand - 1 else 4 * x.significand - 2
  let above := 4 * x.significand + 2
  let even := x.significand % 2 == 0
  let low := compareScaled d.digits d.exponent below (x.power - 2)
  let high := compareScaled d.digits d.exponent above (x.power - 2)
  (low == .gt || (even && low == .eq)) && (high == .lt || (even && high == .eq))

/-- The number of decimal digits of a positive number. -/
def digitCount (n : Nat) : Nat := (Nat.toDigits 10 n).length

/-- The exponent of the leading digit of a positive magnitude. -/
def leadingExponent (x : Binary64) : Int :=
  let num := x.numerator
  let den := x.denominator
  if den ≤ num then digitCount (num / den) - 1
  else
    let places := digitCount (den / num)
    if den ≤ num * Nat.pow 10 (places - 1) then -((places : Int) - 1) else -(places : Int)

/-- Of the two decimals around the magnitude of `x` on the grid of multiples of `10 ^ exponent`,
the one that reads back; of two, the nearer, and of two equally near the even one. -/
def onGrid? (x : Binary64) (exponent : Int) : Option Decimal.Digits :=
  let num := x.numerator * Nat.pow 10 (-exponent).toNat
  let den := x.denominator * Nat.pow 10 exponent.toNat
  let low : Decimal.Digits := ⟨num / den, exponent⟩
  let high : Decimal.Digits := ⟨num / den + 1, exponent⟩
  match x.readsBack low, x.readsBack high with
  | true, true => some (if roundQuotient num den = low.digits then low else high)
  | true, false => some low
  | false, true => some high
  | false, false => none

/-- The first grid with a decimal that reads back, from `exponent` downwards. -/
def firstGrid? (x : Binary64) (exponent : Int) : Nat → Option Decimal.Digits
  | 0 => none
  | tries + 1 =>
    match x.onGrid? exponent with
    | some d => some d
    | none => x.firstGrid? (exponent - 1) tries

/-- The exact decimal value of a finite magnitude. -/
def exactDecimal (x : Binary64) : Decimal.Digits :=
  ⟨x.significand * Nat.pow 2 x.power.toNat * Nat.pow 5 (-x.power).toNat,
    -((-x.power).toNat : Int)⟩

/-- The decimal with the fewest digits that reads back as the finite positive magnitude of `x`.
Seventeen digits identify every double, so the exact value is never needed. -/
def shortest (x : Binary64) : Decimal.Digits :=
  (x.firstGrid? x.leadingExponent 17).getD x.exactDecimal

end Binary64

namespace Decimal

/-- The layout of a decimal as text: the exponents of the leading digit that are written
positionally, and the marks of an exponent. -/
structure Layout where
  leastPositional : Int
  greatestPositional : Int
  exponentMark : String
  positiveSign : String

/-- Some zeros. -/
def zeros (n : Nat) : String := String.ofList (List.replicate n '0')

/-- Digits with a point after the first `n` of them, filled up with zeros so that there is a digit
on both sides of the point. -/
def positional (digits : List Char) (n : Int) : String :=
  if n ≤ 0 then "0." ++ zeros (-n).toNat ++ String.ofList digits
  else if digits.length ≤ n then
    String.ofList digits ++ zeros (n.toNat - digits.length) ++ ".0"
  else String.ofList (digits.take n.toNat) ++ "." ++ String.ofList (digits.drop n.toNat)

/-- The text of an integer. -/
def intText (i : Int) : String :=
  if i < 0 then "-" ++ toString i.natAbs else toString i.natAbs

/-- The text of a positive decimal. -/
def Layout.text (layout : Layout) (d : Digits) : String :=
  let all := Nat.toDigits 10 d.digits
  let digits := (all.reverse.dropWhile (· == '0')).reverse
  let leading := d.exponent + all.length - 1
  if layout.leastPositional ≤ leading ∧ leading ≤ layout.greatestPositional then
    positional digits (leading + 1)
  else
    let mantissa := match digits with
      | first :: second :: rest => String.ofList (first :: '.' :: second :: rest)
      | digits => String.ofList digits
    let sign := if 0 ≤ leading then layout.positiveSign else ""
    mantissa ++ layout.exponentMark ++ sign ++ intText leading

/-- The text of a finite double: its sign, then its fewest digits that read back. -/
def Layout.doubleText (layout : Layout) (x : Binary64) : String :=
  let magnitude := if x.isZero then "0.0" else layout.text x.shortest
  if x.negative then "-" ++ magnitude else magnitude

end Decimal

end QueryByExample
