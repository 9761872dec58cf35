import QueryByExample.Directive.Grammar
import QueryByExample.Modifiers.Basic
import QueryByExample.Shape
/-!
# Prototypes

The prototype of a document: an object whose nested objects are nodes and whose strings may be
directives. All else is a constant, which the answer repeats.

## Main definitions

- `Prototype.Error`: why a document has no query.
- `Prototype.ofEntries`: the shape of a prototype, with the reading of every directive at its leaf.
- `Prototype.check`: every directive reads, and every best match has a language.
-/

namespace QueryByExample.Prototype

/-- Why a document is no request. -/
inductive Malformation where
  | notAnObject
  | noPrototype
  | noNode (key : String)
  deriving DecidableEq

/-- Why a document has no query. -/
inductive Error where
  | malformed (reason : Malformation)
  | directive (property : String) (source : Directive.Error)
  | modifier (source : Modifiers.Error)
  | missingLanguage (property : String)
  deriving DecidableEq

/-- The text of a malformation. -/
def Malformation.message : Malformation → String
  | .notAnObject => "input must be a JSON object"
  | .noPrototype => "expected a `@graph` or `proto` property holding the prototype"
  | .noNode key => "`" ++ key ++ "` must be an object or an array starting with one"

/-- The text of an error. -/
def Error.message : Error → String
  | .malformed reason => "malformed input: " ++ reason.message
  | .directive property source => "property `" ++ property ++ "`: " ++ source.message
  | .modifier source => source.message
  | .missingLanguage property =>
    "property `" ++ property ++
      "`: bestlang requires a language declared inline or with the root `$lang`"

/-- The messages of what caused an error, the nearest first. -/
def Error.causes : Error → List String
  | .directive _ source => [source.message]
  | .malformed _ | .modifier _ | .missingLanguage _ => []

/-- A leaf that was checked: its directive, and the language of its best match if it asks for
one. -/
structure Leaf where
  directive : Directive
  bestLanguage? : Option String

/-- The fields of a prototype as written. -/
abbrev Draft := List (String × Shape Unit (Except Directive.Error Directive))

/-- The fields of a prototype that was checked. -/
abbrev Checked := List (String × Shape Unit Leaf)

mutual

/-- The shape of a value in a prototype. -/
def ofJson : Json → Shape Unit (Except Directive.Error Directive)
  | .object entries => .node () (ofEntries entries)
  | .string text =>
    match Directive.parse text with
    | .ok none => .constant (.string text)
    | .ok (some directive) => .leaf (.ok directive)
    | .error fault => .leaf (.error fault)
  | value => .constant value

/-- The shapes of some entries. -/
def ofEntries : List (String × Json) → Draft
  | [] => []
  | (key, value) :: rest => (key, ofJson value) :: ofEntries rest

end

/-- The language of a best match: its own, else that of the document. -/
def bestLanguage (language? : Option String) (property : String) :
    Option (Option String) → Except Error (Option String)
  | none => .ok none
  | some code? =>
    match code?.or language? with
    | some code => .ok (some code)
    | none => .error (.missingLanguage property)

/-- Check one leaf. Its unknown options are reported before its language is looked for. -/
def checkLeaf (language? : Option String) (property : String)
    (reading : Except Directive.Error Directive) : Traced Error Leaf := do
  let directive ← .ofExcept (reading.mapError (.directive property))
  Traced.report (directive.options.unknown.map (.unknownOption property))
  let best? ← .ofExcept (bestLanguage language? property directive.options.bestLanguage?)
  return ⟨directive, best?⟩

/-- Check every leaf of a prototype. -/
def check (language? : Option String) (draft : Draft) : Traced Error Checked :=
  Shape.settleFields (checkLeaf language?) draft

end QueryByExample.Prototype
