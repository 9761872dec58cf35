import QueryByExample.Answer.Instance
/-!
# Merging entities

Rows that describe the same entity are merged into one object. A field that takes a second value
becomes a list, and nested objects with the same identity are merged in turn.

## Main definitions

- `Entity.merge`: one object merged into another.
- `mergeEntities`: a list of objects, merged in order by identity. Objects without identity stay
  apart.
-/

namespace QueryByExample

namespace Instance

/-- Are both values objects with the same identity? -/
def sameEntity (a b : Instance) : Bool :=
  match a.anchorValue?, b.anchorValue? with
  | some x, some y => x.same y
  | _, _ => false

/-- Change the fields of an object. -/
def mapObject (f : List (String × Instance) → List (String × Instance)) : Instance → Instance
  | .object anchor? fields => .object anchor? (f fields)
  | value => value

/-- Add a value to a list: the first item with its identity takes up its fields by `merge`; a value
that is not there yet goes to the end. -/
def addItem (merge : List (String × Instance) → List (String × Instance)) (addition : Instance)
    (items : List Instance) : List Instance :=
  match items.findIdx? (·.sameEntity addition) with
  | some index => items.modify index (mapObject merge)
  | none => if items.any (·.same addition) then items else items ++ [addition]

/-- Add a value, which is not to be unpacked any further, to the value that is there. The function
`merge` takes up the fields of the addition if it is an object. -/
def absorb (merge : List (String × Instance) → List (String × Instance))
    (base addition : Instance) : Instance :=
  match base with
  | .list items => .list (addItem merge addition items)
  | base =>
    if base.same addition then base
    else if base.sameEntity addition then base.mapObject merge
    else .list [base, addition]

mutual

/-- Merge some fields into others: a new field is appended, a value for a field that is there is
merged into its value. -/
def mergeFields (base : List (String × Instance)) :
    List (String × Instance) → List (String × Instance)
  | [] => base
  | (key, addition) :: rest =>
    mergeFields
      (Fields.alter key
        (fun
          | none => addition
          | some present => mergeValue present addition)
        base)
      rest

/-- Merge a value into the value that is there. Of a list its first item is merged. -/
def mergeValue (base : Instance) : Instance → Instance
  | .list [] => base
  | .list (.object anchor? fields :: _) =>
    absorb (fun present => mergeFields present fields) base (.object anchor? fields)
  | .list (addition :: _) => absorb id base addition
  | .object anchor? fields =>
    absorb (fun present => mergeFields present fields) base (.object anchor? fields)
  | addition => absorb id base addition

end

end Instance

namespace Entity

/-- The first object with the fields of the second merged into it. -/
def merge (base addition : Entity) : Entity :=
  { base with fields := Instance.mergeFields base.fields addition.fields }

/-- Do both objects have the same identity? -/
def sameEntity (a b : Entity) : Bool := a.toInstance.sameEntity b.toInstance

/-- Add an object to merged ones: it is merged into the first one with its identity, else it goes to
the end. -/
def addTo (addition : Entity) : List Entity → List Entity
  | [] => [addition]
  | entry :: rest =>
    if entry.sameEntity addition then entry.merge addition :: rest
    else entry :: addTo addition rest

end Entity

/-- Objects merged in order by identity. -/
def mergeEntities (entities : List Entity) : List Entity :=
  entities.foldl (fun merged addition => addition.addTo merged) []

end QueryByExample
