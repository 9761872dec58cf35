import QueryByExample.Number.Binary64
import QueryByExample.Number.Word
/-!
# Decimal numerals

Numerals as they are written, and two ways to read one as a double.

## Main definitions

- `Numeral`: sign, digits before and after the point, and exponent of a numeral.
- `Numeral.nearest`: the double nearest to the numeral, for any number of digits.
- `Numeral.scaled?`: the reading through one 64-bit significand, which drops the digits that do not
  fit and scales the rounded significand by a rounded power of ten.
- `Decimal.readDouble?`: the textual forms of a double, with `inf`, `infinity` and `nan`.
- `Decimal.readCount?`: the textual form of an unsigned number of 64 bits.
-/

namespace QueryByExample

/-- Is `c` one of the ten ASCII digits? -/
def isDigit (c : Char) : Bool := '0' ≤ c && c ≤ '9'

/-- The value of a digit. -/
def digitValue (c : Char) : Nat := c.toNat - '0'.toNat

/-- The number that a list of digits denotes in base ten. -/
def digitsValue (digits : List Char) : Nat :=
  digits.foldl (fun value c => value * 10 + digitValue c) 0

/-- A decimal numeral: `whole.fraction` times ten to the `exponent`, possibly negated. -/
structure Numeral where
  negative : Bool
  whole : List Char
  fraction : List Char
  exponent : Int

namespace Numeral

/-- The double nearest to `significand * 10 ^ exponent`. A significand below `2 ^ (l + 1)` is below
`10 ^ (l / 3 + 1)`, so outside the bounds tested first the result is infinite or zero without
writing the power of ten out. -/
def nearestScaled (negative : Bool) (significand : Nat) (exponent : Int) : Binary64 :=
  if significand = 0 then .zero negative
  else if 400 < exponent then .infinity negative
  else if (significand.log2 / 3 + 1 : Nat) + exponent < -400 then .zero negative
  else .ofRatio negative (significand * Nat.pow 10 exponent.toNat) (Nat.pow 10 (-exponent).toNat)

/-- The double nearest to a numeral, a tie to the even significand. -/
def nearest (n : Numeral) : Binary64 :=
  nearestScaled n.negative (digitsValue (n.whole ++ n.fraction)) (n.exponent - n.fraction.length)

/-- Take digits into a significand as long as it stays below `2 ^ 64`: the significand, and the
number of digits that were left out. -/
def takeDigits (significand : Nat) : List Char → Nat × Nat
  | [] => (significand, 0)
  | c :: rest =>
    let longer := significand * 10 + digitValue c
    if longer < Word.unsignedLimit then takeDigits longer rest else (significand, rest.length + 1)

/-- The double nearest to `10 ^ n`. -/
def powerOfTen (n : Nat) : Binary64 := .ofRatio false (Nat.pow 10 n) 1

/-- Scale a magnitude by `10 ^ exponent` with one rounding for every factor of at most `10 ^ 308`.
There is no result if it would be infinite. An exponent below -616 leaves nothing of a 64-bit
significand. -/
def scale? (magnitude : Binary64) (exponent : Int) : Option Binary64 :=
  if magnitude.isZero then some magnitude
  else if 308 < exponent then none
  else if 0 ≤ exponent then
    let scaled := magnitude.times (powerOfTen exponent.toNat)
    if scaled.isFinite then some scaled else none
  else if -308 ≤ exponent then some (magnitude.dividedBy (powerOfTen (-exponent).toNat))
  else
    let once := magnitude.dividedBy (powerOfTen 308)
    if -616 ≤ exponent then some (once.dividedBy (powerOfTen (-exponent - 308).toNat))
    else some (.zero false)

/-- Read a numeral through one 64-bit significand. Digits of the whole part that do not fit are
dropped and raise the exponent; digits of the fraction that do not fit are dropped. -/
def scaled? (n : Numeral) : Option Binary64 :=
  let (whole, dropped) := takeDigits 0 n.whole
  let (significand, unread) := takeDigits whole n.fraction
  let exponent : Int := n.exponent + dropped - (n.fraction.length - unread : Nat)
  (scale? (.ofInt significand) exponent).map fun magnitude =>
    { magnitude with negative := n.negative }

end Numeral

namespace Decimal

/-- Split off a leading sign: whether it is a minus, and the rest. -/
def takeSign : List Char → Bool × List Char
  | '-' :: rest => (true, rest)
  | '+' :: rest => (false, rest)
  | cs => (false, cs)

/-- The exponent that the rest of a numeral spells: none at all, or a mark, an optional sign and at
least one digit. -/
def readExponent? : List Char → Option Int
  | [] => some 0
  | mark :: rest =>
    if mark = 'e' ∨ mark = 'E' then
      let (negative, digits) := takeSign rest
      if digits.isEmpty || !digits.all isDigit then none
      else if negative then some (-(digitsValue digits : Int)) else some (digitsValue digits)
    else none

/-- Digits with an optional point, at least one digit in all, and an optional exponent. -/
def readNumeral? (negative : Bool) (cs : List Char) : Option Numeral :=
  let whole := cs.takeWhile isDigit
  let (fraction, rest) := match cs.dropWhile isDigit with
    | '.' :: after => (after.takeWhile isDigit, after.dropWhile isDigit)
    | rest => ([], rest)
  if whole.isEmpty && fraction.isEmpty then none
  else (readExponent? rest).map fun exponent => ⟨negative, whole, fraction, exponent⟩

/-- The double that a text spells: an optional sign, then `inf`, `infinity` or `nan` in any case,
or a numeral. -/
def readDouble? (cs : List Char) : Option Binary64 :=
  let (negative, body) := takeSign cs
  let word := body.map Char.toLower
  if word = "inf".toList ∨ word = "infinity".toList then some (.infinity negative)
  else if word = "nan".toList then some { Binary64.nan with negative }
  else (readNumeral? negative body).map Numeral.nearest

/-- An unsigned number of 64 bits, written in decimal digits after an optional plus. -/
def readCount? (cs : List Char) : Option Nat :=
  let digits := match cs with
    | '+' :: rest => rest
    | cs => cs
  if digits.isEmpty || !digits.all isDigit then none
  else if digitsValue digits < Word.unsignedLimit then some (digitsValue digits)
  else none

end Decimal

end QueryByExample
