import QueryByExample.Modifiers.Basic
/-!
# Clauses of modifiers

The parts of a query that modifiers contribute as text.
-/

namespace QueryByExample.Modifiers

/-- Does a text start with another? -/
def startsWith (start text : String) : Bool := start.toList.isPrefixOf text.toList

/-- The declarations of prefixes. -/
def namespaceClauses (m : Modifiers) : List String :=
  m.namespaces.map fun (name, iri) => "PREFIX " ++ name ++ ": <" ++ iri ++ ">"

/-- An inline value: in angle brackets if it starts like an IRI, as it is if it has a colon like a
prefixed name, else quoted. -/
def valueTerm (value : String) : String :=
  if startsWith "http" value then "<" ++ value ++ ">"
  else if value.toList.contains ':' then value
  else "\"" ++ value ++ "\""

/-- The inline values of each variable. -/
def valuesClauses (m : Modifiers) : List String :=
  m.values.map fun (name, values) =>
    "VALUES " ++ name ++ " \x7b" ++ " ".intercalate (values.map valueTerm) ++ "\x7d"

/-- The graphs that are queried. -/
def graphClauses (m : Modifiers) : List String :=
  m.graphs.map fun graph =>
    if startsWith "<" graph then "FROM " ++ graph else "FROM <" ++ graph ++ ">"

/-- Grouping, its conditions and the order of solutions. -/
def solutionClauses (m : Modifiers) : List String :=
  (if m.groupBy.isEmpty then [] else ["GROUP BY " ++ " ".intercalate m.groupBy]) ++
  (if m.having.isEmpty then [] else ["HAVING (" ++ " && ".intercalate m.having ++ ")"]) ++
  (if m.orderBy.isEmpty then [] else ["ORDER BY " ++ " ".intercalate m.orderBy])

/-- Limit and offset, if they are part of the query. -/
def limitClauses (m : Modifiers) : List String :=
  match m.limitMode with
  | .library => []
  | .query =>
    (m.limit?.map fun n => "LIMIT " ++ toString n).toList ++
    (m.offset?.map fun n => "OFFSET " ++ toString n).toList

/-- All that follows the graph pattern. -/
def trailingClauses (m : Modifiers) : List String := m.solutionClauses ++ m.limitClauses

end QueryByExample.Modifiers
