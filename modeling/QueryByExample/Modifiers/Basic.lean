import QueryByExample.Directive.Basic
import QueryByExample.Variable
/-!
# Query modifiers

What the keys of a document that start with `$` say about the query as a whole.

## Main definitions

- `Modifiers`: the modifiers of a document.
- `Modifiers.LimitMode`: whether limit and offset are part of the query or cut the merged answer.
- `Modifiers.Error`: why the value of a modifier is not accepted.
-/

namespace QueryByExample

/-- Where limit and offset apply. -/
inductive Modifiers.LimitMode where
  /-- In the text of the query. -/
  | query
  /-- To the list of merged entries. -/
  | library
  deriving DecidableEq

namespace Modifiers.LimitMode

/-- The name in documents. -/
def name : LimitMode → String
  | query => "query"
  | library => "library"

/-- The mode that a word names. -/
def ofName (word : String) : Except UnknownWord LimitMode :=
  if word = "query" then .ok query
  else if word = "library" then .ok library
  else .error ⟨"`query` or `library`", word⟩

end Modifiers.LimitMode

/-- The modifiers of a document. -/
structure Modifiers where
  /-- Graph patterns that are part of the query as written. -/
  patterns : List String := []
  filters : List String := []
  limit? : Option Nat := none
  offset? : Option Nat := none
  distinct : Bool := true
  orderBy : List String := []
  groupBy : List String := []
  having : List String := []
  /-- Prefixes and their IRIs, in the order of the document. -/
  namespaces : List (String × String) := []
  /-- Marked variables and their values, in the order of the document. -/
  values : List (String × List String) := []
  /-- The graphs that are queried. -/
  graphs : List String := []
  /-- The language of directives that name none. -/
  language? : Option String := none
  tags? : Option TagDisplay := none
  limitMode : Modifiers.LimitMode := .query
  deriving DecidableEq

namespace Modifiers

/-- Do the inline values constrain `name`, a variable or the bare key of a property? -/
def binds (m : Modifiers) (name : String) : Bool :=
  m.values.any fun value => Variable.bare value.1 == Variable.bare name

/-- Why the value of a modifier is not accepted. -/
inductive Error where
  /-- The value has the wrong kind. -/
  | wrongKind (key expected found : String)
  /-- The value has the right kind and no meaning. -/
  | badValue (key reason : String)
  deriving DecidableEq

/-- The text of an error. -/
def Error.message : Error → String
  | .wrongKind key expected found =>
    "modifier `" ++ key ++ "` expects " ++ expected ++ ", got " ++ found
  | .badValue key reason => "modifier `" ++ key ++ "` has an invalid value: " ++ reason

end Modifiers

end QueryByExample
