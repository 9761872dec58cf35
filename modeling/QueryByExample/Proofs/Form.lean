import QueryByExample.Client
import QueryByExample.Proofs.Dictionary
/-!
# Forms of queries

The form that carries a query to an endpoint starts with the query, whatever the parameters are. The
other fields are those of a dictionary, so each of them stands in its place and once.

## Main statements

- `Client.form_eq_query_cons`: the fields of a form.
-/

namespace QueryByExample.Client

/-- A form starts with its query and holds no name twice. Its other fields stand in ascending order
of their names: they are the parameters of the call, and those of the client that the call does not
set, but for one that is called like the query. -/
theorem form_eq_query_cons (client : Client) (query : String) (parameters : Dictionary String) :
    ∃ fields, client.form query parameters = ("query", query) :: fields ∧
      Fields.Distinct (client.form query parameters) ∧
      fields.Pairwise (fun a b => a.1 < b.1) ∧
      ∀ name value, (name, value) ∈ fields ↔ name ≠ "query" ∧
        ((name, value) ∈ parameters.entries ∨
          name ∉ Fields.names parameters.entries ∧ (name, value) ∈ client.parameters.entries) := by
  let others := (client.parameters.override parameters).erase "query"
  refine ⟨others.entries, rfl, ?_, others.ascending, ?_⟩
  · refine Fields.distinct_cons.2 ⟨?_, others.distinct_entries⟩
    intro hmem
    obtain ⟨entry, hentry, hname⟩ := List.mem_map.1 hmem
    exact (Dictionary.mem_erase_iff.1 hentry).1 hname
  · intro name value
    rw [Dictionary.mem_erase_iff, Dictionary.mem_override_iff]

/-- A call replaces a parameter of the client, but none of them replaces the query. -/
example (endpoint : Endpoint) :
    form ⟨endpoint, .ofList [("timeout", "30000"), ("format", "json"), ("query", "ASK")]⟩ "SELECT *"
      (.ofList [("timeout", "5000"), ("query", "ignored")]) =
    [("query", "SELECT *"), ("format", "json"), ("timeout", "5000")] := rfl

end QueryByExample.Client
