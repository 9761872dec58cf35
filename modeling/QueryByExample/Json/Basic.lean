import QueryByExample.Fields
import QueryByExample.Number.Binary64
/-!
# JSON values

Values whose objects keep the order of their keys and whose numbers remember whether they were
written as integers. Readers of JSON give objects in which no key is repeated.
-/

namespace QueryByExample

/-- A JSON number: an integer of at most 64 bits, signed or unsigned, or a double. -/
inductive Json.Number where
  | integer (i : Int)
  | double (x : Binary64)
  deriving DecidableEq

/-- A JSON value. -/
inductive Json where
  | null
  | bool (b : Bool)
  | number (n : Json.Number)
  | string (s : String)
  | array (items : List Json)
  | object (entries : List (String × Json))

namespace Json

/-- Equality by kind: an integer differs from every double, and doubles are equal as numbers. -/
def Number.same : Number → Number → Bool
  | .integer i, .integer j => i == j
  | .double x, .double y => x.sameNumber y
  | _, _ => false

mutual

/-- Equality of JSON values. The order of the keys of an object does not matter. -/
def same : Json → Json → Bool
  | .null, .null => true
  | .bool a, .bool b => a == b
  | .number a, .number b => a.same b
  | .string a, .string b => a == b
  | .array as, .array bs => sameItems as bs
  | .object as, .object bs => as.length == bs.length && sameEntries as bs
  | _, _ => false

/-- Equality of arrays, item by item. -/
def sameItems : List Json → List Json → Bool
  | [], [] => true
  | a :: as, b :: bs => a.same b && sameItems as bs
  | _, _ => false

/-- Every one of the first entries is found with the same value among the second. -/
def sameEntries : List (String × Json) → List (String × Json) → Bool
  | [], _ => true
  | (key, a) :: rest, entries =>
    (match Fields.find? key entries with
      | some b => a.same b
      | none => false) && sameEntries rest entries

end

/-- The kind of a value, as it is named in messages. -/
def kindName : Json → String
  | .null => "null"
  | .bool _ => "a boolean"
  | .number _ => "a number"
  | .string _ => "a string"
  | .array _ => "an array"
  | .object _ => "an object"

end Json

end QueryByExample
