import QueryByExample.Transform
/-!
# Sessions

Several steps with one set of settings and an executor whose response is fixed beforehand. The
executor remembers the queries that it was asked.

## Main definitions

- `Canned`: the executor.
- `Session.Step`, `Session.Reply`: what is asked, and what is answered.
- `Session.run`: the replies to some steps, each with the queries asked so far.
-/

namespace QueryByExample

/-- An executor that gives the same response to every query. -/
structure Canned where
  response : Except ExecutionError ResultSet

/-- Remember a query and give the response. -/
def Canned.execute (executor : Canned) (query : String) (_ : Dictionary String) :
    StateM (List String) (Except ExecutionError ResultSet) := do
  modify (· ++ [query])
  return executor.response

/-- Settings together with an executor. -/
structure Session where
  settings : Settings
  executor : Canned

namespace Session

/-- What is asked. -/
inductive Step where
  | compile (document : Json)
  | transform (document : Json)
  /-- Compile a document and assemble its answer from a given result. -/
  | assemble (document : Json) (results : ResultSet)

/-- What is answered. -/
inductive Reply where
  | query (text : String)
  | output (answer : Json)

/-- The reply to one step. -/
def reply (session : Session) : Step → StateM (List String) (Traced TransformError Reply)
  | .compile document => return do
    let compiled ← session.settings.compile document
    return .query compiled.text
  | .transform document => do
    let answer ← session.settings.transform session.executor.execute document
    return do return .output (← answer)
  | .assemble document results => return do
    let compiled ← session.settings.compile document
    return .output (← session.settings.assemble compiled results)

/-- The replies to some steps, each with the queries that were asked up to then. -/
def run (session : Session) (asked : List String) :
    List Step → List (Traced TransformError Reply × List String)
  | [] => []
  | step :: rest =>
    let (answer, asked) := (session.reply step).run asked
    (answer, asked) :: run session asked rest

end Session

end QueryByExample
