import QueryByExample.Text.CombiningClass
import QueryByExample.Text.Composite
/-!
# Normal forms

Of the texts that are equivalent, the composed normal form is the one in which marks stand in the
order of their classes and every pair that has a composite is written as one.

## Main definitions

- `Text.decompose`: every composite resolved, and the marks in order.
- `Text.compose`: pairs written as composites.
- `Text.isComposed`: is a text its own composed normal form?
-/

namespace QueryByExample.Text

/-- How often the pair of a composite can hold a composite again. -/
def compositeDepth : Nat := 4

/-- The characters of a composite, resolved to the given depth. -/
def resolve : Nat → Char → List Char
  | 0, c => [c]
  | depth + 1, c =>
    match pair? c with
    | some (first, second) => resolve depth first ++ resolve depth second
    | none => [c]

/-- Put a character before others. A mark goes behind the marks of lower classes. -/
def insertInOrder (c : Char) : List Char → List Char
  | [] => [c]
  | next :: rest =>
    if 0 < combiningClass next ∧ combiningClass next < combiningClass c then
      next :: insertInOrder c rest
    else c :: next :: rest

/-- Marks in the order of their classes. Marks of one class keep their order, and none passes a
starter. -/
def orderMarks (cs : List Char) : List Char := cs.foldr insertInOrder []

/-- A text without composites, its marks in order. -/
def decompose (cs : List Char) : List Char := orderMarks (cs.flatMap (resolve compositeDepth))

/-- A text of which a start is composed; its parts are in reverse. -/
structure Composing where
  /-- What precedes the last starter. -/
  before : List Char
  /-- The last starter. -/
  starter? : Option Char
  /-- What follows the last starter. -/
  marks : List Char

namespace Composing

/-- Nothing is read yet. -/
def empty : Composing := ⟨[], none, []⟩

/-- All that is read, in reverse. -/
def all (text : Composing) : List Char := text.marks ++ text.starter?.toList ++ text.before

/-- The next character does not combine with the last starter. -/
def append (text : Composing) (c : Char) : Composing :=
  if combiningClass c = 0 then ⟨text.all, some c, []⟩ else { text with marks := c :: text.marks }

/-- Does a mark keep a character from the last starter? It does unless its class is lower. -/
def isBlocked (text : Composing) (c : Char) : Bool :=
  match text.marks with
  | mark :: _ => combiningClass c ≤ combiningClass mark
  | [] => false

/-- Read the next character. -/
def read (text : Composing) (c : Char) : Composing :=
  match text.starter?.bind (composite? · c) with
  | some whole => if text.isBlocked c then text.append c else { text with starter? := some whole }
  | none => text.append c

end Composing

/-- A text with its composites, from one without them whose marks are in order. -/
def compose (cs : List Char) : List Char := (cs.foldl Composing.read .empty).all.reverse

/-- Is a text its own composed normal form? -/
def isComposed (cs : List Char) : Bool := compose (decompose cs) == cs

end QueryByExample.Text
