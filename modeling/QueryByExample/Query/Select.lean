import QueryByExample.Modifiers.Clauses
import QueryByExample.Query.Clause
import QueryByExample.Query.Projection
import QueryByExample.Text.Blank
/-!
# Queries

A query selects expressions where a graph pattern holds. The modifiers of the document stand around
the pattern of its prototype.

## Main definitions

- `SelectQuery`: a query.
- `SelectQuery.lines`, `SelectQuery.text`: its text.
-/

namespace QueryByExample

/-- A query. -/
structure SelectQuery where
  modifiers : Modifiers
  projection : List Projection
  clauses : List Clause

namespace SelectQuery

/-- The line that says what is selected; everything, if there is no expression. -/
def selectLine (q : SelectQuery) : String :=
  "SELECT " ++ (if q.modifiers.distinct then "DISTINCT " else "") ++
    (if q.projection.isEmpty then "*" else " ".intercalate (q.projection.map Projection.text))

/-- The patterns of the document, without blank ones, and then those of the prototype. -/
def patterns (q : SelectQuery) : List String :=
  (q.modifiers.patterns.map Text.trim).filter (fun text => !text.isEmpty) ++
    Clause.texts q.clauses

/-- The entry for the patterns, which are separated by points. -/
def patternLines (q : SelectQuery) : List String :=
  if q.patterns.isEmpty then [] else ["  " ++ " .\n  ".intercalate q.patterns]

/-- What stands in front of the closing brace of the graph pattern, and the brace. -/
def bodyLines (q : SelectQuery) : List String :=
  q.modifiers.namespaceClauses ++ [q.selectLine] ++ q.modifiers.graphClauses ++
    ["WHERE \x7b"] ++
    q.modifiers.valuesClauses.map (fun clause => "  " ++ clause) ++ q.patternLines ++
    q.modifiers.filters.map (fun filter => "  FILTER(" ++ filter ++ ")") ++ ["\x7d"]

/-- The parts of a query that start on a line of their own. -/
def lines (q : SelectQuery) : List String := q.bodyLines ++ q.modifiers.trailingClauses

/-- The text of a query. -/
def text (q : SelectQuery) : String := "\n".intercalate q.lines

end SelectQuery

end QueryByExample
