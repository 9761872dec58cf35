import QueryByExample.Directive.Basic
import QueryByExample.Json.Record
import QueryByExample.Dictionary
/-!
# Settings

What holds for every document that is run, unless the document says otherwise.

## Main definitions

- `Settings`: the settings and their defaults.
- `Settings.context`: the context of an answer.
- `Settings.ofDraft?`: settings in JSON, in which each may be left out.
-/

namespace QueryByExample

/-- The endpoint that is asked by default. -/
def defaultEndpoint : String := "http://dbpedia.org/sparql"

/-- The context of a graph when neither the settings nor the document have one. -/
def defaultContext : Json := .string "http://schema.org/"

/-- What holds for every document. -/
structure Settings where
  /-- The context of graphs, whatever the document says. -/
  context? : Option Json := none
  endpoint : String := defaultEndpoint
  /-- Display of language tags, unless the document chooses it. -/
  tags : TagDisplay := .shown
  /-- Compiled queries are reported with more weight. -/
  announceQueries : Bool := false
  /-- Parameters that go with every query. -/
  parameters : Dictionary String := .empty

namespace Settings

/-- The context of an answer: that of the settings, else that of the document, else the default. -/
def context (settings : Settings) (documentContext? : Option Json) : Json :=
  (settings.context?.or documentContext?).getD defaultContext

open Json (Draft)

/-- The setting of language tags. -/
def tagsOfDraft? : Draft → Option TagDisplay :=
  Draft.choice? fun word => (TagDisplay.ofName word).toOption

/-- The parameters of queries. -/
def parametersOfDraft? (draft : Draft) : Option (Dictionary String) :=
  (draft.fields? Draft.text?).map Dictionary.ofList

/-- Settings in JSON. -/
def ofDraft? (draft : Draft) : Option Settings := do
  let [context, endpoint, tags, announceQueries, parameters] ←
    draft.members? ["context", "endpoint", "langTag", "logQueries", "params"] | none
  return {
    context? := ← Draft.orDefault none
      (Draft.nullable? (Draft.value? Json.deepestNesting)) context
    endpoint := ← Draft.orDefault defaultEndpoint Draft.text? endpoint
    tags := ← Draft.orDefault .shown tagsOfDraft? tags
    announceQueries := ← Draft.orDefault false Draft.bool? announceQueries
    parameters := ← Draft.orDefault .empty parametersOfDraft? parameters }

end Settings

end QueryByExample
