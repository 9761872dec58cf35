import QueryByExample.Text.Mark
/-!
# Writing directions

Letters are written from left to right or from right to left. A name that holds some of the second
kind follows a rule on each of its labels, so that no reader takes two names for one.

## Main definitions

- `Hostname.Direction`: what a character means for the direction.
- `Hostname.isInOneDirection`: the rule on a label.
-/

namespace QueryByExample.Hostname

/-- What a character means for the direction of writing. -/
inductive Direction where
  | leftToRight
  | rightToLeft
  | europeanNumber
  | arabicNumber
  | neutral
  | mark
deriving DecidableEq

/-- Letters written from right to left: the bidirectional classes `R` and `AL` of Unicode 17. -/
def rightToLeftLetters : Text.CharacterSet := .ofLines [
  "5BE-5F4 608 60B 60D 61B-64A 66D-6D5 6E5-6E6 6EE-6EF 6FA-7F5 7FA-8C9 FBB2-FBC2 FE73",
  "10800-1091B 10920-10B35 10B40-10D23 10D4A-10D4F 10D6F-10D8F 10E80-10EC7 10F00-10FF6",
  "1E800-1ED3D"]

/-- The bidirectional class `AN` of Unicode 17. -/
def arabicNumbers : Text.CharacterSet := .ofLines [
  "660-669 66B-66C 10D30-10D49 10E60-10E7E"]

/-- The bidirectional class `EN` of Unicode 17 beyond ASCII. -/
def europeanNumbers : Text.CharacterSet := .ofLines [
  "6F0-6F9 102E1-102FB"]

/-- Signs without a direction: the bidirectional classes `BN`, `CS`, `ES`, `ET` and `ON` of
Unicode 17 beyond ASCII. -/
def neutralSigns : Text.CharacterSet := .ofLines [
  "A1-D7 F7 2B9-2BA 2C2-2CF 2D2-2ED 2EF-2FF 375 3F6 58A-58F 606-607 609-60A 60C 60E-60F 66A 6DE",
  "6E9 7F6-7F9 9F2-9F3 9FB AF1 BF3-BFA C78-C7E E3F F3A-F3D 1390-1399 1400 169B-169C 17DB",
  "17F0-180A 1940-1945 19DE-19FF 200C-214D 218A-2335 237B-2394 2396-26AB 26AD-27FF 2900-2BFF",
  "2CE5-2CEA 2CF9-2CFF 2E00-3004 3008-3020 3030 3037 303D-303F 30A0 30FB 31C0-31E5 4DC0-4DFF",
  "A490-A4C6 A60D-A60F A673-A67F A700-A721 A788 A828-A82B A838-A839 A874-A877 AB6A-AB6B",
  "FBC3-FE46 10101 10140-1018C 10190-101A0 1091F 10B39-10B3F 10D6E 10ED0-10ED8 11052-11065",
  "11660-1166C 11FD5-11FF1 16FE2 1CC00-1CEF0 1D1E9-1D245 1D300-1D356 1E2FF 1EEF0-1F12F",
  "1F16D-1F16F 1F1AD 1F260-1FBFA"]

/-- The marks without a width that have the direction of a letter. -/
def leftToRightMarks : Text.CharacterSet := .ofLines ["CBF CC6 11A07-11A08 11C3F"]

/-- What a character means for the direction of writing. The sets are exact for the letters of host
names only. -/
def Direction.ofChar (c : Char) : Direction :=
  if c.toNat < 0x80 then
    if c.isAlpha then .leftToRight else if c.isDigit then .europeanNumber else .neutral
  else if Text.isFlatMark c then if leftToRightMarks.contains c then .leftToRight else .mark
  else if rightToLeftLetters.contains c then .rightToLeft
  else if arabicNumbers.contains c then .arabicNumber
  else if europeanNumbers.contains c then .europeanNumber
  else if neutralSigns.contains c then .neutral
  else .leftToRight

/-- Does a text hold a character that is written from right to left? -/
def holdsRightToLeft (cs : List Char) : Bool :=
  cs.any fun c => Direction.ofChar c = .rightToLeft ∨ Direction.ofChar c = .arabicNumber

/-- The rule on a label. Its first character is a letter that sets the direction; no character has
the other one; it ends in a letter or a number, marks aside; and from right to left, only one kind
of numbers is used. -/
def isInOneDirection (label : List Char) : Bool :=
  let directions := label.map Direction.ofChar
  let last? := (directions.reverse.dropWhile (· = .mark)).head?
  match directions.head? with
  | none => true
  | some .leftToRight =>
    !directions.contains .rightToLeft && !directions.contains .arabicNumber &&
      (last? = some .leftToRight || last? = some .europeanNumber)
  | some .rightToLeft =>
    !directions.contains .leftToRight &&
      (last? = some .rightToLeft || last? = some .europeanNumber || last? = some .arabicNumber) &&
      !(directions.contains .europeanNumber && directions.contains .arabicNumber)
  | some _ => false

end QueryByExample.Hostname
