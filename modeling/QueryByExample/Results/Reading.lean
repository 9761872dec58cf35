import QueryByExample.Json.Record
import QueryByExample.Results.Basic
/-!
# Result sets in JSON

The JSON form of result sets. Its parts may be left out, and unknown parts are skipped; a variable
that a row binds twice has its last binding.

## Main definitions

- `Binding.ofDraft?`, `Row.ofDraft?`, `ResultSet.ofDraft?`: readers of the parts and of the whole.
- `ResultSet.ofText?`: the result set of a text.
-/

namespace QueryByExample

open Json (Draft)

/-- A binding. Only its value is mandatory. -/
def Binding.ofDraft? (draft : Draft) : Option Binding := do
  let [kind, value, datatype, language] ←
    draft.members? ["type", "value", "datatype", "xml:lang"] | none
  return {
    kind := ← Draft.orDefault "" Draft.text? kind
    value := ← value.bind Draft.text?
    datatype? := ← Draft.orDefault none (Draft.nullable? Draft.text?) datatype
    language? := ← Draft.orDefault none (Draft.nullable? Draft.text?) language }

/-- A row. -/
def Row.ofDraft? (draft : Draft) : Option Row :=
  (draft.fields? Binding.ofDraft?).map Dictionary.ofList

namespace ResultSet

/-- The variables that a head names. -/
def headOfDraft? (draft : Draft) : Option (List String) := do
  let [columns] ← draft.members? ["vars"] | none
  Draft.orDefault [] (Draft.items? Draft.text?) columns

/-- The rows that a body holds. -/
def bodyOfDraft? (draft : Draft) : Option (List Row) := do
  let [rows] ← draft.members? ["bindings"] | none
  Draft.orDefault [] (Draft.items? Row.ofDraft?) rows

/-- A result set. -/
def ofDraft? (draft : Draft) : Option ResultSet := do
  let [head, body] ← draft.members? ["head", "results"] | none
  return ⟨← Draft.orDefault [] headOfDraft? head, ← Draft.orDefault [] bodyOfDraft? body⟩

/-- The result set of a text. -/
def ofText? (text : String) : Option ResultSet := (Draft.ofText? text).bind ofDraft?

end ResultSet

end QueryByExample
