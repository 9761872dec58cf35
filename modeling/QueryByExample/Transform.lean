import QueryByExample.Answer.Decode
import QueryByExample.Answer.Merge
import QueryByExample.Compile
import QueryByExample.Settings
/-!
# From documents to answers

A document is compiled, its query is executed, and the rows of the result are decoded and merged
into the answer.

## Main definitions

- `ExecutionError`, `TransformError`: what can go wrong.
- `CompiledQuery.entries`: the merged entries of a result.
- `CompiledQuery.assemble`: the answer to a document.
- `Settings.transform`: all steps, for any way to execute queries.
-/

namespace QueryByExample

/-- Why a query has no result. -/
inductive ExecutionError where
  | invalidEndpoint (reason : String)
  | http (status : Nat) (body : String)
  | transport (reason : String)
  | invalidResponse (reason : String)
  deriving DecidableEq

/-- The text of an error. -/
def ExecutionError.message : ExecutionError → String
  | .invalidEndpoint reason => "not a valid endpoint: " ++ reason
  | .http status body => "endpoint answered with HTTP " ++ toString status ++ ": " ++ body
  | .transport reason => "transport error: " ++ reason
  | .invalidResponse reason => "invalid response: " ++ reason

/-- Why a document has no answer. -/
inductive TransformError where
  | prototype (source : Prototype.Error)
  | execution (source : ExecutionError)
  deriving DecidableEq

namespace TransformError

/-- The text of an error. -/
def message : TransformError → String
  | prototype source => source.message
  | execution source => "query execution failed: " ++ source.message

/-- The messages of what caused an error, the nearest first. -/
def causes : TransformError → List String
  | prototype source => source.causes
  | execution source => [source.message]

end TransformError

namespace CompiledQuery

/-- The keys of the parts of tagged literals follow the convention of the document. -/
def vocabulary (compiled : CompiledQuery) : Vocabulary :=
  match compiled.form with
  | .graph _ => .jsonLd
  | .plain => .plain

/-- How rows are decoded. -/
def decodeOptions (compiled : CompiledQuery) (settings : Settings) : DecodeOptions :=
  ⟨compiled.tags?.getD settings.tags, compiled.vocabulary⟩

/-- The merged entries of a result. -/
def entries (compiled : CompiledQuery) (settings : Settings) (results : ResultSet) : List Entity :=
  mergeEntities
    (results.rows.map (decodeRow (compiled.decodeOptions settings) compiled.template))

/-- The page of entries that the answer gives. -/
def page (compiled : CompiledQuery) (entries : List Entity) : List Entity :=
  match compiled.pagination? with
  | some pagination => pagination.apply entries
  | none => entries

/-- The answer to a document: its page of entries, beside a context if the document is a graph. -/
def assemble (compiled : CompiledQuery) (settings : Settings) (results : ResultSet) : Json :=
  let entries : Json :=
    .array ((compiled.page (compiled.entries settings results)).map Entity.toJson)
  match compiled.form with
  | .graph context? => .object [("@context", settings.context context?), ("@graph", entries)]
  | .plain => entries

/-- What is reported when an answer is assembled. -/
def assemblyEvents (compiled : CompiledQuery) (settings : Settings) (results : ResultSet) :
    List Event :=
  [.merged results.rows.length (compiled.entries settings results).length]

end CompiledQuery

namespace Settings

/-- Compile a document and report its query. -/
def compile (settings : Settings) (document : Json) : Traced TransformError CompiledQuery := do
  let compiled ← (QueryByExample.compile document).mapError .prototype
  Traced.report [.compiled settings.announceQueries compiled.text]
  return compiled

/-- Assemble an answer and report its size. -/
def assemble (settings : Settings) (compiled : CompiledQuery) (results : ResultSet) :
    Traced TransformError Json := do
  Traced.report (compiled.assemblyEvents settings results)
  return compiled.assemble settings results

/-- Report a result and assemble the answer; an error of the execution ends the run. -/
def finish (settings : Settings) (compiled : CompiledQuery)
    (outcome : Except ExecutionError ResultSet) : Traced TransformError Json := do
  let results ← .ofExcept (outcome.mapError .execution)
  Traced.report [.executed results.rows.length]
  settings.assemble compiled results

/-- Answer a document with the help of `execute`, which is asked once if the document compiles and
not at all otherwise. -/
def transform {m : Type → Type} [Monad m] (settings : Settings)
    (execute : String → Dictionary String → m (Except ExecutionError ResultSet))
    (document : Json) : m (Traced TransformError Json) := do
  let compiling := settings.compile document
  match compiling.outcome with
  | .error fault => return ⟨compiling.events, .error fault⟩
  | .ok compiled =>
    let outcome ← execute compiled.text settings.parameters
    let finishing := settings.finish compiled outcome
    return ⟨compiling.events ++ finishing.events, finishing.outcome⟩

end Settings

end QueryByExample
