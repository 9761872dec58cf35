/-!
# Directives

The leaves of a prototype that stand for values of the answer. A directive either binds a variable
that the query declares elsewhere, or follows a property path from the entity that its node
describes; options refine it.

## Main definitions

- `Directive`, `Directive.Options`: a directive and its options.
- `Aggregate`, `TagDisplay`, `ValueKind`: the closed choices among options.
- `Directive.Error`: why a text that starts like a directive is none.
-/

namespace QueryByExample

/-- An aggregate over the values of a variable. -/
inductive Aggregate where
  | sample
  | count
  | sum
  | min
  | max
  | avg
  deriving DecidableEq

namespace Aggregate

/-- The keyword of the query language. -/
def keyword : Aggregate → String
  | sample => "SAMPLE"
  | count => "COUNT"
  | sum => "SUM"
  | min => "MIN"
  | max => "MAX"
  | avg => "AVG"

/-- The name in directives. -/
def name : Aggregate → String
  | sample => "sample"
  | count => "count"
  | sum => "sum"
  | min => "min"
  | max => "max"
  | avg => "avg"

/-- All aggregates. -/
def all : List Aggregate := [sample, count, sum, min, max, avg]

/-- The aggregate of a name. -/
def ofName? (name : String) : Option Aggregate := all.find? (·.name == name)

end Aggregate

/-- A word outside a closed choice. -/
structure UnknownWord where
  expected : String
  found : String
  deriving DecidableEq

/-- The text of the fault. -/
def UnknownWord.message (fault : UnknownWord) : String :=
  "expected " ++ fault.expected ++ ", got `" ++ fault.found ++ "`"

/-- Whether language tags of literals are part of the answer. -/
inductive TagDisplay where
  | shown
  | hidden
  deriving DecidableEq

namespace TagDisplay

/-- The name in directives and documents. -/
def name : TagDisplay → String
  | shown => "show"
  | hidden => "hide"

/-- The choice that a word names. -/
def ofName (word : String) : Except UnknownWord TagDisplay :=
  if word = "show" then .ok shown
  else if word = "hide" then .ok hidden
  else .error ⟨"`show` or `hide`", word⟩

end TagDisplay

/-- The kinds of decoded values. -/
inductive ValueKind where
  | string
  | number
  | boolean
  deriving DecidableEq

namespace ValueKind

/-- The name in directives. -/
def name : ValueKind → String
  | string => "string"
  | number => "number"
  | boolean => "boolean"

/-- The kind that a word names. -/
def ofName (word : String) : Except UnknownWord ValueKind :=
  if word = "string" then .ok string
  else if word = "number" then .ok number
  else if word = "boolean" then .ok boolean
  else .error ⟨"`string`, `number` or `boolean`", word⟩

end ValueKind

/-- The options of a directive. -/
structure Directive.Options where
  /-- The pattern is mandatory. -/
  required : Bool := false
  /-- The variable that the author chose, with its mark. -/
  chosenVariable? : Option String := none
  aggregate? : Option Aggregate := none
  /-- The aggregate counts equal values once. -/
  distinct : Bool := false
  /-- The value is always given as a list. -/
  list : Bool := false
  /-- Only literals of one language; without a code, that of the document. -/
  language? : Option (Option String) := none
  /-- Display of language tags for this property. -/
  tags? : Option TagDisplay := none
  /-- Values of another kind are dropped. -/
  accept? : Option ValueKind := none
  /-- The literal in the best matching language; without a code, that of the document. -/
  bestLanguage? : Option (Option String) := none
  /-- The path starts at the enclosing node. -/
  fromParent : Bool := false
  /-- The path is followed backwards. -/
  reverse : Bool := false
  /-- The property identifies its node. -/
  anchor : Bool := false
  /-- Tokens that are no option, as written. -/
  unknown : List String := []
  deriving DecidableEq

/-- What a directive stands for. -/
inductive Directive.Head where
  /-- A variable declared elsewhere, with its mark. -/
  | variable (name : String)
  /-- A property path from the entity of the node. -/
  | path (path : String)
  deriving DecidableEq

/-- A directive. -/
structure Directive where
  head : Directive.Head
  options : Directive.Options
  deriving DecidableEq

namespace Directive

/-- The property path to follow, if there is one. -/
def path? (d : Directive) : Option String :=
  match d.head with
  | .path path => some path
  | .variable _ => none

/-- The variable that the directive itself fixes: the one chosen by an option, else its head. -/
def declaredVariable? (d : Directive) : Option String :=
  match d.options.chosenVariable?, d.head with
  | some name, _ => some name
  | none, .variable name => some name
  | none, .path _ => none

/-- Why a text that starts like a directive is none. -/
inductive Error where
  | emptyPath (text : String)
  | emptyVariable
  | invalidOption (token : String) (fault : UnknownWord)
  deriving DecidableEq

/-- The text of an error. -/
def Error.message : Error → String
  | .emptyPath text => "directive `" ++ text ++ "` has an empty property path"
  | .emptyVariable => "directive names an empty variable"
  | .invalidOption token fault => "invalid directive option `" ++ token ++ "`: " ++ fault.message

end Directive

end QueryByExample
