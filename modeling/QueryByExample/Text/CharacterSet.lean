import QueryByExample.Text.Hexadecimal
import QueryByExample.Text.Segment
/-!
# Character sets

A set of characters given by ranges of code points. Tables write it in base sixteen, as in
`B7 DF-F6`: a range is its first and its last code point, and one code point stands alone.

## Main definitions

- `Text.codesOfLines`: the code points of a table.
- `Text.CharacterSet`: the set, with `ofLines` and `contains`.
-/

namespace QueryByExample.Text

/-- The code point that hexadecimal digits write. -/
def codeOfDigits (digits : List Char) : Nat :=
  digits.foldl (fun value c => value * 16 + (hexDigitValue? c).getD 0) 0

/-- The entries of a table: what stands between the blanks of its lines. -/
def entriesOfLines (lines : List String) : List (List Char) :=
  lines.flatMap fun line => segments ' ' line.toList

/-- The code points of a table without ranges. -/
def codesOfLines (lines : List String) : List Nat := (entriesOfLines lines).map codeOfDigits

/-- A set of characters. -/
structure CharacterSet where
  /-- The first and the last code point of each range. -/
  ranges : List (Nat × Nat)

namespace CharacterSet

/-- The range that an entry of a table writes. -/
def rangeOfEntry (entry : List Char) : Nat × Nat :=
  match cutAtFirst '-' entry with
  | (first, none) => (codeOfDigits first, codeOfDigits first)
  | (first, some last) => (codeOfDigits first, codeOfDigits last)

/-- The set that a table writes. -/
def ofLines (lines : List String) : CharacterSet := ⟨(entriesOfLines lines).map rangeOfEntry⟩

/-- Is a character in a set? -/
def contains (set : CharacterSet) (c : Char) : Bool :=
  set.ranges.any fun (first, last) => first ≤ c.toNat && c.toNat ≤ last

end CharacterSet

end QueryByExample.Text
