import QueryByExample.Dictionary
/-!
# Result sets

The answer of an endpoint: rows that bind variables to terms, in the order in which the endpoint
gave them.

## Main definitions

- `Binding`: a term with its datatype or language.
- `Row`: the bindings of one solution, by bare names of variables.
- `ResultSet`: the variables and the rows.
-/

namespace QueryByExample

/-- A term that a variable is bound to. -/
structure Binding where
  /-- The kind of term, as the endpoint names it. -/
  kind : String
  value : String
  datatype? : Option String
  language? : Option String
  deriving DecidableEq

/-- The bindings of one solution, by bare names of variables. -/
abbrev Row := Dictionary Binding

/-- The answer of an endpoint. -/
structure ResultSet where
  columns : List String
  rows : List Row

namespace ResultSet

/-- An answer without rows. -/
def empty : ResultSet := ⟨[], []⟩

end ResultSet

end QueryByExample
