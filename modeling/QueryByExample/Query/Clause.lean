import QueryByExample.Prototype.Plan
/-!
# Clauses

The graph pattern that a plan contributes to the query.

## Main definitions

- `Clause`: triple patterns, language filters, and groups that are mandatory or optional.
- `Clause.text`: their text.
- `Plan.clauses`: the clauses of a plan, depth first.
-/

namespace QueryByExample

/-- A part of a graph pattern. -/
inductive Clause where
  | triple (subject path object : String)
  | languageFilter (name code : String)
  | group (clauses : List Clause)
  | optional (clauses : List Clause)

namespace Clause

/-- What stands between the members of a group. -/
def separator : String := " .\n"

mutual

/-- The text of a clause. -/
def text : Clause → String
  | .triple subject path object => subject ++ " " ++ path ++ " " ++ object
  | .languageFilter name code => "FILTER(lang(" ++ name ++ ") = '" ++ code ++ "')"
  | .group clauses => separator.intercalate (texts clauses)
  | .optional clauses => "OPTIONAL \x7b " ++ separator.intercalate (texts clauses) ++ " \x7d"

/-- The texts of some clauses. -/
def texts : List Clause → List String
  | [] => []
  | clause :: rest => text clause :: texts rest

end

/-- A mandatory or an optional group; nothing if it has no members. -/
def grouped (required : Bool) (clauses : List Clause) : List Clause :=
  if clauses.isEmpty then []
  else if required then [.group clauses]
  else [.optional clauses]

end Clause

namespace Plan

/-- The triple pattern of a leaf with a path, in the direction of the path. -/
def Leaf.triple (leaf : Leaf) (path : String) : Clause :=
  if leaf.directive.options.reverse then .triple leaf.name path leaf.subject
  else .triple leaf.subject path leaf.name

/-- The clauses of a leaf: none for a variable, else its triple pattern and its language filter. -/
def Leaf.clauses (leaf : Leaf) : List Clause :=
  match leaf.directive.path? with
  | none => []
  | some path =>
    Clause.grouped leaf.required
      (leaf.triple path :: (leaf.language?.map (.languageFilter leaf.name)).toList)

mutual

/-- The clauses of a field. -/
def fieldClauses : Shape Node Leaf → List Clause
  | .constant _ => []
  | .leaf content => content.clauses
  | .node label fields => Clause.grouped label.required (fieldsClauses fields)

/-- The clauses of some fields. -/
def fieldsClauses : List (String × Shape Node Leaf) → List Clause
  | [] => []
  | (_, shape) :: rest => fieldClauses shape ++ fieldsClauses rest

end

/-- The clauses of a plan. -/
def clauses (plan : Plan) : List Clause := fieldsClauses plan.fields

end Plan

end QueryByExample
