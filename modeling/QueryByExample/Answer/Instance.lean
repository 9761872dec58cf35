import QueryByExample.Answer.Literal
/-!
# Instances

Decoded objects. An object remembers which of its fields identifies it; that mark is not part of its
JSON form.

## Main definitions

- `Instance`: literals, constants of the prototype, objects and lists.
- `Entity`: an object on its own.
- `Instance.same`: the equality by which values are merged. The order of fields and the marks of
  anchors do not matter.
-/

namespace QueryByExample

/-- A decoded value. -/
inductive Instance where
  | literal (value : Literal)
  /-- A value that the prototype gives. -/
  | constant (value : Json)
  | object (anchor? : Option String) (fields : List (String × Instance))
  | list (items : List Instance)

/-- A decoded object: the field that identifies it, and its fields in order. -/
structure Entity where
  anchor? : Option String
  fields : List (String × Instance)

namespace Instance

/-- A text. -/
def ofText (s : String) : Instance := .literal (.text s)

/-- A value that the prototype gives. -/
def isConstant : Instance → Bool
  | .constant _ => true
  | _ => false

/-- The identity of a value: the field that its anchor names, if it is an object and the field is
there. -/
def anchorValue? : Instance → Option Instance
  | .object (some key) fields => Fields.find? key fields
  | _ => none

mutual

/-- The equality by which values are merged. -/
def same : Instance → Instance → Bool
  | .literal a, .literal b => a.same b
  | .constant a, .constant b => a.same b
  | .object _ as, .object _ bs => as.length == bs.length && sameFields as bs
  | .list as, .list bs => sameItems as bs
  | _, _ => false

/-- Every one of the first fields is found with the same value among the second. -/
def sameFields : List (String × Instance) → List (String × Instance) → Bool
  | [], _ => true
  | (key, a) :: rest, fields =>
    (match Fields.find? key fields with
      | some b => a.same b
      | none => false) && sameFields rest fields

/-- Equality of lists, item by item. -/
def sameItems : List Instance → List Instance → Bool
  | [], [] => true
  | a :: as, b :: bs => a.same b && sameItems as bs
  | _, _ => false

end

mutual

/-- The JSON form of a value. -/
def toJson : Instance → Json
  | .literal value => value.toJson
  | .constant value => value
  | .object _ fields => .object (jsonFields fields)
  | .list items => .array (jsonItems items)

/-- The JSON forms of some fields. -/
def jsonFields : List (String × Instance) → List (String × Json)
  | [] => []
  | (key, value) :: rest => (key, toJson value) :: jsonFields rest

/-- The JSON forms of some items. -/
def jsonItems : List Instance → List Json
  | [] => []
  | item :: rest => toJson item :: jsonItems rest

end

end Instance

namespace Entity

/-- The object as a value. -/
def toInstance (e : Entity) : Instance := .object e.anchor? e.fields

/-- The identity of an object, if the field that identifies it is there. -/
def anchorValue? (e : Entity) : Option Instance := e.toInstance.anchorValue?

/-- Does any field hold more than a constant of the prototype? -/
def hasBoundValues (e : Entity) : Bool := e.fields.any fun field => !field.2.isConstant

/-- The JSON form of an object. -/
def toJson (e : Entity) : Json := .object (Instance.jsonFields e.fields)

end Entity

end QueryByExample
