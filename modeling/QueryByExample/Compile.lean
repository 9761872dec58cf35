import QueryByExample.Modifiers.Reading
import QueryByExample.Pagination
import QueryByExample.Query.Select
import QueryByExample.Template
/-!
# Compiling documents

A document holds a prototype under `@graph` or `proto`, and modifiers beside it. Its compiled form
is a query and a template for the rows that answer it.

## Main definitions

- `OutputForm`: the convention of a document, which its answer follows.
- `CompiledQuery`: the compiled form.
- `compile`: the compiled form of a document, if it has one.
-/

namespace QueryByExample

/-- The convention of a document and of its answer. -/
inductive OutputForm where
  /-- The entries stand beside a context. -/
  | graph (context? : Option Json)
  /-- The entries alone. -/
  | plain

/-- A compiled document. -/
structure CompiledQuery where
  query : SelectQuery
  template : Template
  form : OutputForm
  /-- Display of language tags, if the document chooses it. -/
  tags? : Option TagDisplay
  /-- The page of merged entries that the answer gives. -/
  pagination? : Option Pagination

namespace CompiledQuery

/-- The text of the query. -/
def text (compiled : CompiledQuery) : String := compiled.query.text

end CompiledQuery

namespace Prototype

/-- The entries of a prototype: those of an object, or of the object that an array starts with. -/
def nodeAt (key : String) : Json → Except Error (List (String × Json))
  | .object entries => .ok entries
  | .array (.object entries :: _) => .ok entries
  | _ => .error (.malformed (.noNode key))

/-- The convention of a document and the entries of its prototype. A graph goes first. -/
def locate (entries : List (String × Json)) :
    Except Error (OutputForm × List (String × Json)) :=
  match Fields.find? "@graph" entries, Fields.find? "proto" entries with
  | some graph, _ =>
    (nodeAt "@graph" graph).map fun node => (.graph (Fields.find? "@context" entries), node)
  | none, some proto => (nodeAt "proto" proto).map fun node => (.plain, node)
  | none, none => .error (.malformed .noPrototype)

end Prototype

namespace Modifiers

/-- The page of entries that is cut from the merged answer. -/
def pagination? (m : Modifiers) : Option Pagination :=
  if m.limitMode = .library ∧ (m.limit?.isSome ∨ m.offset?.isSome) then
    some ⟨m.limit?, m.offset?⟩
  else none

end Modifiers

/-- The compiled form of a plan. -/
def Plan.compiled (plan : Plan) (m : Modifiers) (form : OutputForm) : CompiledQuery where
  query := ⟨m, plan.projection, plan.clauses⟩
  template := plan.template
  form := form
  tags? := m.tags?
  pagination? := m.pagination?

/-- What is reported about a plan: an aggregate without grouping. -/
def Plan.events (plan : Plan) (m : Modifiers) : List Event :=
  if plan.leaves.any (fun leaf => leaf.2.isAggregate) && m.groupBy.isEmpty then
    [.ungroupedAggregate]
  else []

/-- Compile a document. The modifiers are read before the prototype is looked for, and its leaves
are checked depth first. -/
def compile (document : Json) : Traced Prototype.Error CompiledQuery :=
  match document with
  | .object entries => do
    let m ← (Modifiers.ofEntries entries).mapError .modifier
    let (form, node) ← .ofExcept (Prototype.locate (Modifiers.otherEntries entries))
    let fields ← Prototype.check m.language? (Prototype.ofEntries node)
    let plan := Plan.ofFields m fields
    Traced.report (plan.events m)
    return plan.compiled m form
  | _ => .ofExcept (.error (.malformed .notAnObject))

end QueryByExample
