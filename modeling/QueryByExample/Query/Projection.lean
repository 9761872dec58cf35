import QueryByExample.Prototype.Plan
/-!
# Projections

The expressions that a query selects, one for each leaf of the prototype.

## Main definitions

- `Projection`: a variable, an aggregate over it, or its best match for a language.
- `Projection.unrepeated`: the expressions without later ones of the same text.
- `Plan.projection`: the expressions of a plan.
-/

namespace QueryByExample

/-- A selected expression. -/
inductive Projection where
  | variable (name : String)
  | aggregate (function : Aggregate) (distinct : Bool) (name : String)
  | bestMatch (name code : String)
  deriving DecidableEq

namespace Projection

/-- The variable that the expression binds. -/
def name : Projection → String
  | .variable name | .aggregate _ _ name | .bestMatch name _ => name

/-- The text of an expression. -/
def text : Projection → String
  | .variable name => name
  | .aggregate function distinct name =>
    "(" ++ function.keyword ++ "(" ++ (if distinct then "DISTINCT " else "") ++ name ++ ") AS " ++
      name ++ ")"
  | .bestMatch name code =>
    "(sql:BEST_LANGMATCH(" ++ name ++ ", \"" ++ code ++ "\", \"en\") AS " ++ name ++ ")"

/-- The expressions in order of their first appearance, without repetitions of a text. -/
def unrepeated : List Projection → List Projection
  | [] => []
  | p :: rest => p :: (unrepeated rest).filter (fun q => q.text != p.text)

end Projection

namespace Plan

/-- The expression of a leaf. A best match takes precedence over an aggregate. -/
def Leaf.projection (leaf : Leaf) : Projection :=
  match leaf.bestLanguage?, leaf.directive.options.aggregate? with
  | some code, _ => .bestMatch leaf.name code
  | none, some function => .aggregate function leaf.directive.options.distinct leaf.name
  | none, none => .variable leaf.name

/-- Does the leaf project an aggregate? -/
def Leaf.isAggregate (leaf : Leaf) : Bool :=
  leaf.bestLanguage?.isNone && leaf.directive.options.aggregate?.isSome

/-- The expressions of a plan. -/
def projection (plan : Plan) : List Projection :=
  Projection.unrepeated (plan.leaves.map fun leaf => leaf.2.projection)

end Plan

end QueryByExample
