import QueryByExample.Endpoint.Reading
import QueryByExample.Results.Reading
import QueryByExample.Transform
/-!
# Clients

A client sends queries to one endpoint as the fields of a form, and reads results from the replies.
How a request travels is left to whoever uses the client.

## Main definitions

- `Client`, `Client.ofUrl`: clients.
- `Client.form`: the fields of a query.
- `Client.request`: the request of a query.
- `Client.resultsOf`: the result in what became of a request.
- `Client.execute`: request and result, for any way to exchange them.
-/

namespace QueryByExample

/-- A request to an endpoint. -/
structure Request where
  endpoint : Endpoint
  method : String
  accept : String
  contentType : String
  body : String
  deriving DecidableEq

/-- What became of a request. -/
inductive Delivery where
  /-- No connection was made. -/
  | unreached (reason : String)
  /-- The connection was closed without a reply. -/
  | unanswered
  | replied (status : Nat) (body : String)
  deriving DecidableEq

/-- An endpoint and the parameters that go with every query to it. -/
structure Client where
  endpoint : Endpoint
  parameters : Dictionary String := .empty

namespace Client

/-- The client of a URL. -/
def ofUrl (url : String) : Except ExecutionError Client :=
  match Endpoint.parse url with
  | .ok endpoint => .ok { endpoint }
  | .error fault => .error (.invalidEndpoint (url ++ ": " ++ fault.message))

/-- The fields of a query: the query itself, then the parameters in ascending order of their names.
Parameters of the call take precedence over those of the client; none of them replaces the query. -/
def form (client : Client) (query : String) (parameters : Dictionary String) :
    List (String × String) :=
  ("query", query) :: ((client.parameters.override parameters).erase "query").entries

/-- The text of a form. -/
def formText (fields : List (String × String)) : String :=
  "&".intercalate (fields.map fun (name, value) =>
    String.ofList (Text.formEncode name.toList ++ '=' :: Text.formEncode value.toList))

/-- The media type of the results that are asked for. -/
def resultsMediaType : String := "application/sparql-results+json"

/-- The media type of forms. -/
def formMediaType : String := "application/x-www-form-urlencoded"

/-- The request of a query. -/
def request (client : Client) (query : String) (parameters : Dictionary String) : Request where
  endpoint := client.endpoint
  method := "POST"
  accept := resultsMediaType
  contentType := formMediaType
  body := formText (client.form query parameters)

/-- A text without a byte order mark at its start. -/
def withoutMark (text : String) : String :=
  match text.toList with
  | '\uFEFF' :: rest => String.ofList rest
  | _ => text

/-- The result in what became of a request. Only replies of success hold one. -/
def resultsOf (client : Client) : Delivery → Except ExecutionError ResultSet
  | .unreached reason =>
    .error (.transport ("failed to reach " ++ client.endpoint.url ++ ": " ++ reason))
  | .unanswered =>
    .error (.transport
      ("failed to reach " ++ client.endpoint.url ++ ": connection closed without a reply"))
  | .replied status body =>
    let body := withoutMark body
    if 200 ≤ status ∧ status < 300 then
      match ResultSet.ofText? body with
      | some results => .ok results
      | none => .error (.invalidResponse "not a result set in JSON")
    else .error (.http status body)

/-- Send a query and read its result. -/
def execute {m : Type → Type} [Monad m] (client : Client) (exchange : Request → m Delivery)
    (query : String) (parameters : Dictionary String) : m (Except ExecutionError ResultSet) := do
  return client.resultsOf (← exchange (client.request query parameters))

end Client

end QueryByExample
