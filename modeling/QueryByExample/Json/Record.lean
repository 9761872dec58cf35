import QueryByExample.Json.Draft
/-!
# Records in JSON

A record is written as an object, whose keys are the names of its members, or as an array of its
members in order. Members that are left out are given as `none`. An object may hold other keys; it
may not repeat the name of a member, and every key must have a value. An array may not hold more
items than there are members.

## Main definitions

- `Json.Draft.members?`: the members of a record.
- `Json.Draft.text?`, `Json.Draft.texts?`, `Json.Draft.choice?`: readers for members.
-/

namespace QueryByExample.Json.Draft

/-- The entries of an object, if every key has a value. -/
def entries? : Draft → Option (List (String × Draft))
  | .object entries => entries.mapM fun (key, value) => key.map fun key => (key, value)
  | _ => none

/-- The member `name` among the entries of an object: none at all if it is repeated. -/
def member? (entries : List (String × Draft)) (name : String) : Option (Option Draft) :=
  match entries.filter fun entry => entry.1 == name with
  | [] => some none
  | [(_, value)] => some (some value)
  | _ => none

/-- The members of a record, each of which may be missing. -/
def members? (names : List String) : Draft → Option (List (Option Draft))
  | .array items =>
    if items.length ≤ names.length then
      some (items.map some ++ List.replicate (names.length - items.length) none)
    else none
  | .object entries => do
    let entries ← entries? (.object entries)
    names.mapM (member? entries)
  | _ => none

/-- A member that is left out has its default. -/
def orDefault {α : Type} (default : α) (read : Draft → Option α) : Option Draft → Option α
  | none => some default
  | some draft => read draft

/-- A member that may be null. -/
def nullable? {α : Type} (read : Draft → Option α) : Draft → Option (Option α)
  | .null => some none
  | draft => (read draft).map some

/-- A text. -/
def text? : Draft → Option String
  | .string s => s
  | _ => none

/-- A truth value. -/
def bool? : Draft → Option Bool
  | .bool b => some b
  | _ => none

/-- An array whose items are all read by `read`. -/
def items? {α : Type} (read : Draft → Option α) : Draft → Option (List α)
  | .array items => items.mapM read
  | _ => none

/-- An object whose values are all read by `read`, with repeated keys. -/
def fields? {α : Type} (read : Draft → Option α) (draft : Draft) : Option (List (String × α)) :=
  match entries? draft with
  | some entries => entries.mapM fun (key, value) => (read value).map fun value => (key, value)
  | none => none

/-- A word of a closed choice: as a text, or as the only key of an object, with the value null. -/
def choice? {α : Type} (read : String → Option α) : Draft → Option α
  | .string s => s.bind read
  | .object [(key, .null)] => key.bind read
  | _ => none

end QueryByExample.Json.Draft
