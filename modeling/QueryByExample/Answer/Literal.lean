import QueryByExample.Directive.Basic
import QueryByExample.Json.Basic
import QueryByExample.Number.Decimal
import QueryByExample.Results.Basic
import QueryByExample.Text.Blank
import QueryByExample.Text.Segment
/-!
# Literals

The values that bindings have after coercion by their datatype.

## Main definitions

- `Literal`: truth values, integers, doubles and texts.
- `Literal.same`: equality across the two kinds of numbers.
- `Literal.ofBinding`: the value of a binding. A lexical form that its datatype does not admit is
  kept as text.
-/

namespace QueryByExample

/-- A decoded value. Coercion gives only integers of 64 bits. -/
inductive Literal where
  | boolean (b : Bool)
  | integer (i : Int)
  | double (x : Binary64)
  | text (s : String)
  deriving DecidableEq

namespace Literal

/-- The kind of a value. -/
def kind : Literal → ValueKind
  | boolean _ => .boolean
  | integer _ | double _ => .number
  | text _ => .string

/-- Equality of values. An integer is compared with a double through the nearest double, and a NaN
equals a NaN. -/
def same : Literal → Literal → Bool
  | boolean a, boolean b => a == b
  | integer i, integer j => i == j
  | double x, double y => x.sameNumber y || (x.isNaN && y.isNaN)
  | integer i, double x | double x, integer i => (Binary64.ofInt i).sameNumber x
  | text s, text t => s == t
  | _, _ => false

/-- The JSON form of a value; null for a double that is not finite. -/
def toJson : Literal → Json
  | boolean b => .bool b
  | integer i => .number (.integer i)
  | double x => if x.isFinite then .number (.double x) else .null
  | text s => .string s

/-! ### Coercion -/

/-- The families of datatypes whose values are coerced. -/
inductive Family where
  | boolean
  | integer
  | decimal
  deriving DecidableEq

/-- The names of the datatypes of integers. -/
def integerNames : List String :=
  ["integer", "nonPositiveInteger", "negativeInteger", "nonNegativeInteger", "positiveInteger",
    "long", "int", "short", "byte", "unsignedLong", "unsignedInt", "unsignedShort", "unsignedByte"]

/-- The names of the datatypes of other numbers. -/
def decimalNames : List String := ["decimal", "float", "double"]

/-- The IRI that the names of datatypes follow. -/
def datatypeBase : String := "http://www.w3.org/2001/XMLSchema#"

/-- The short form of that IRI. -/
def datatypeShortBase : String := "xsd:"

/-- The name of a datatype under its IRI or its short form. -/
def localName? (datatype : String) : Option String :=
  ((Text.dropStart? datatypeBase.toList datatype.toList).or
    (Text.dropStart? datatypeShortBase.toList datatype.toList)).map String.ofList

/-- The family of a datatype. -/
def family? (datatype : String) : Option Family :=
  match localName? datatype with
  | none => none
  | some name =>
    if name = "boolean" then some .boolean
    else if integerNames.contains name then some .integer
    else if decimalNames.contains name then some .decimal
    else none

/-- The word `false`, blank text and a number equal to zero are false. -/
def isFalse (raw : String) : Bool :=
  let trimmed := Text.trimChars raw.toList
  raw == "false" || trimmed.isEmpty ||
    (match Decimal.readDouble? trimmed with
      | some x => x.isZero
      | none => false)

/-- The sign and the leading digits of a text. -/
def leadingInteger (cs : List Char) : Bool × List Char :=
  let (negative, body) := Decimal.takeSign cs
  (negative, body.takeWhile isDigit)

/-- The integer that a text starts with, after blanks; what follows it is dropped. Beyond 64 bits it
becomes the nearest double. -/
def ofInteger (raw : String) : Literal :=
  let (negative, digits) := leadingInteger (Text.trimChars raw.toList)
  let i : Int := if negative then -(digitsValue digits : Int) else digitsValue digits
  if digits.isEmpty then text raw
  else if Word.fitsSigned i then integer i
  else double (Numeral.nearest ⟨negative, digits, [], 0⟩)

/-- The double that a text spells between blanks. -/
def ofDecimal (raw : String) : Literal :=
  match Decimal.readDouble? (Text.trimChars raw.toList) with
  | some x => double x
  | none => text raw

/-- The value of a binding. -/
def ofBinding (binding : Binding) : Literal :=
  match binding.datatype?.bind family? with
  | some .boolean => boolean (!isFalse binding.value)
  | some .integer => ofInteger binding.value
  | some .decimal => ofDecimal binding.value
  | none => text binding.value

end Literal

end QueryByExample
