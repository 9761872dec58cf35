import QueryByExample.Number.Decimal
import QueryByExample.Text.Segment
/-!
# Punycode

A coding of text in letters, digits and hyphens. The characters of ASCII come first, up to the last
hyphen. The others follow in the order of their code points: a number tells for each by how much the
state of the decoder advances, and the state counts places of the text within code points. The
digits of a number start with the lowest, and a digit below a threshold ends it. The thresholds
follow the size of the numbers before.

## Main definitions

- `Punycode.State`: the decoder between two digits.
- `Punycode.decode?`: the text that a coding stands for.
-/

namespace QueryByExample.Hostname.Punycode

/-- The number of digits. -/
def base : Nat := 36

/-- The lowest threshold. -/
def leastThreshold : Nat := 1

/-- The highest threshold. -/
def greatestThreshold : Nat := 26

/-- How slowly the bias grows with what is left of a number. -/
def skew : Nat := 38

/-- The divisor of the first number, which leads from ASCII to the code points of a script. -/
def damp : Nat := 700

/-- The bias before the first number. -/
def firstBias : Nat := 72

/-- The first code point beyond ASCII. -/
def firstCode : Nat := 0x80

/-- Numbers stay below this one. -/
def limit : Nat := 0x100000000

/-- The value of a digit. -/
def digitValue? (c : Char) : Option Nat :=
  if c.isLower then some (c.toNat - 'a'.toNat)
  else if isDigit c then some (c.toNat - '0'.toNat + 26)
  else none

/-- The threshold of the digit at a position, counted in steps of the base. -/
def threshold (position bias : Nat) : Nat :=
  if position ≤ bias then leastThreshold
  else if bias + greatestThreshold ≤ position then greatestThreshold
  else position - bias

/-- The position to which the steady digits of a number reach, and what is left of the number: it is
divided until it is small. -/
def shrink (position number : Nat) : Nat × Nat :=
  if (base - leastThreshold) * greatestThreshold / 2 < number then
    shrink (position + base) (number / (base - leastThreshold))
  else (position, number)
termination_by number
decreasing_by exact Nat.div_lt_self (by omega) (by decide)

/-- The bias after a number, from which a text of the given length has come. -/
def adapt (number length : Nat) (isFirst : Bool) : Nat :=
  let halved := if isFirst then number / damp else number / 2
  let (position, left) := shrink 0 (halved + halved / length)
  position + (base - leastThreshold + 1) * left / (left + skew)

/-- The decoder between two digits. -/
structure State where
  /-- The text so far. -/
  text : List Char
  /-- The code point that is inserted next. -/
  code : Nat
  /-- The place of the text from which the number counts. -/
  start : Nat
  /-- The place plus the digits of the number so far. -/
  index : Nat
  /-- The position of the next digit in its number. -/
  position : Nat
  /-- What a unit of the next digit counts. -/
  weight : Nat
  /-- The bias of the thresholds. -/
  bias : Nat

namespace State

/-- Only the characters of ASCII are read. -/
def ofBasic (text : List Char) : State := ⟨text, firstCode, 0, 0, base, 1, firstBias⟩

/-- The number is complete: insert its character. -/
def insert? (state : State) : Option State :=
  let length := state.text.length + 1
  let code := state.code + state.index / length
  let place := state.index % length
  if code.isValidChar then
    some {
      text := state.text.insertIdx place (Char.ofNat code), code
      start := place + 1, index := place + 1, position := base, weight := 1
      bias := adapt (state.index - state.start) length (state.start = 0) }
  else none

/-- Read a digit. -/
def read? (state : State) (c : Char) : Option State := do
  let digit ← digitValue? c
  let threshold := threshold state.position state.bias
  let state := { state with index := state.index + digit * state.weight }
  guard (state.index < limit)
  if digit < threshold then state.insert?
  else
    let weight := state.weight * (base - threshold)
    guard (weight < limit)
    return { state with position := state.position + base, weight }

end State

/-- The characters of ASCII before the last hyphen, and the digits. A hyphen at the start does not
part them. -/
def cutBasic (cs : List Char) : List Char × List Char :=
  let digits := (cs.reverse.takeWhile (· != '-')).reverse
  if cs.length ≤ digits.length + 1 then ([], cs)
  else (cs.take (cs.length - digits.length - 1), digits)

/-- The text that a coding stands for, if its last number is complete. -/
def decode? (cs : List Char) : Option (List Char) := do
  let (basic, digits) := cutBasic cs
  let state ← digits.foldlM State.read? (.ofBasic basic)
  guard (state.position = base)
  return state.text

end QueryByExample.Hostname.Punycode
