/-!
# Names of variables

A variable of the query language is written with the mark `?`; columns of a result set carry the
bare name.
-/

namespace QueryByExample.Variable

/-- The name with its mark, which is put in front unless it is there. -/
def marked (name : String) : String :=
  match name.toList with
  | '?' :: _ => name
  | _ => "?" ++ name

/-- The name without one leading mark. -/
def bare (name : String) : String :=
  match name.toList with
  | '?' :: rest => String.ofList rest
  | _ => name

end QueryByExample.Variable
