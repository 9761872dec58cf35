import QueryByExample.Prototype.Plan
/-!
# Templates

How rows become objects: a shape with a column of the result at every leaf.

## Main definitions

- `Template`, `Template.Label`, `Template.Column`: templates.
- `Template.columns`: the columns that a template reads.
- `Plan.template`: the template of a plan.
-/

namespace QueryByExample

/-- What a node of a template says about the objects it describes. -/
structure Template.Label where
  /-- The field that identifies an object. -/
  anchor? : Option String
  /-- An object is given as a list. -/
  list : Bool
  deriving DecidableEq

/-- How the value of a leaf is read. -/
structure Template.Column where
  /-- The bare name of a variable. -/
  name : String
  /-- The kind that values must have. -/
  accept? : Option ValueKind
  /-- Display of language tags, if it differs from that of the whole answer. -/
  tags? : Option TagDisplay
  /-- A value is given as a list. -/
  list : Bool
  deriving DecidableEq

/-- How rows become objects. -/
structure Template where
  label : Template.Label
  fields : List (String × Shape Template.Label Template.Column)

namespace Template

/-- The columns that a template reads, depth first. -/
def columns (t : Template) : List String :=
  (Shape.leavesOf t.fields).map fun leaf => leaf.2.name

end Template

namespace Plan

/-- What is remembered of a node. -/
def Node.label (node : Node) : Template.Label := ⟨node.anchor?, node.list⟩

/-- How the value of a leaf is read. Best matches are texts. The list mark of an anchor belongs to
its node. -/
def Leaf.column (leaf : Leaf) : Template.Column :=
  let options := leaf.directive.options
  { name := Variable.bare leaf.name
    accept? := options.accept?.or (leaf.bestLanguage?.map fun _ => .string)
    tags? := options.tags?
    list := options.list && !leaf.isAnchor }

/-- The template of a plan. -/
def template (plan : Plan) : Template :=
  ⟨plan.node.label, Shape.mapFields Node.label Leaf.column plan.fields⟩

end Plan

end QueryByExample
