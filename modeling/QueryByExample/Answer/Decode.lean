import QueryByExample.Answer.Instance
import QueryByExample.Template
/-!
# Decoding rows

A row fills a template. A variable that the row does not bind leaves its field out, and so does a
node none of whose variables is bound.

## Main definitions

- `Vocabulary`: the keys of the parts of a tagged literal.
- `decodeBinding`: the value of one binding.
- `decodeRow`: the object of one row.
-/

namespace QueryByExample

/-- The keys under which the parts of a tagged literal are given. -/
inductive Vocabulary where
  /-- The keywords of linked data. -/
  | jsonLd
  /-- Plain names. -/
  | plain
  deriving DecidableEq

namespace Vocabulary

/-- The key of the language. -/
def languageKey : Vocabulary → String
  | jsonLd => "@language"
  | plain => "language"

/-- The key of the value. -/
def valueKey : Vocabulary → String
  | jsonLd => "@value"
  | plain => "value"

end Vocabulary

/-- What holds for all rows of an answer. -/
structure DecodeOptions where
  tags : TagDisplay
  vocabulary : Vocabulary
  deriving DecidableEq

/-- A text together with its language. -/
def languagePair (vocabulary : Vocabulary) (language value : String) : Instance :=
  .object none
    [(vocabulary.languageKey, .ofText language), (vocabulary.valueKey, .ofText value)]

/-- The value of a binding: none if it has another kind than it must have. -/
def decodeBinding (binding : Binding) (accept? : Option ValueKind) (tags : TagDisplay)
    (vocabulary : Vocabulary) : Option Instance :=
  let value := Literal.ofBinding binding
  if accept?.any (· != value.kind) then none
  else
    match value, binding.language?, tags with
    | .text text, some language, .shown => some (languagePair vocabulary language text)
    | value, _, _ => some (.literal value)

/-- A value, as a list of one item if a list is asked for. -/
def listed (list : Bool) (value : Instance) : Instance :=
  if list then .list [value] else value

/-- The value of a column in a row. -/
def decodeColumn (options : DecodeOptions) (row : Row) (column : Template.Column) :
    Option Instance :=
  (row.find? column.name).bind fun binding =>
    (decodeBinding binding column.accept? (column.tags?.getD options.tags)
      options.vocabulary).map (listed column.list)

/-- The object of a node, from its fields in the order of the template; none if only constants are
left. -/
def nodeInstance (label : Template.Label) (fields : List (String × Instance)) : Option Instance :=
  let entity : Entity := ⟨label.anchor?, Fields.ofList fields⟩
  if entity.hasBoundValues then some (listed label.list entity.toInstance) else none

mutual

/-- The value of a field in a row. -/
def decodeField (options : DecodeOptions) (row : Row) :
    Shape Template.Label Template.Column → Option Instance
  | .constant value => some (.constant value)
  | .leaf column => decodeColumn options row column
  | .node label fields => nodeInstance label (decodeFields options row fields)

/-- The values of some fields in a row, without those that have none. -/
def decodeFields (options : DecodeOptions) (row : Row) :
    List (String × Shape Template.Label Template.Column) → List (String × Instance)
  | [] => []
  | (key, shape) :: rest =>
    match decodeField options row shape with
    | some value => (key, value) :: decodeFields options row rest
    | none => decodeFields options row rest

end

/-- The object of a row. -/
def decodeRow (options : DecodeOptions) (template : Template) (row : Row) : Entity :=
  ⟨template.label.anchor?, Fields.ofList (decodeFields options row template.fields)⟩

end QueryByExample
