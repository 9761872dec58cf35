/-!
# Endpoints

The URL of a service that answers queries, in its parts.

## Main definitions

- `Endpoint`: the parts of the URL.
- `Endpoint.url`, `Endpoint.target`: the URL, and what of it a request line names.
- `Endpoint.Fault`: why a text is not the URL of an endpoint.
-/

namespace QueryByExample

/-- The URL of a service. -/
structure Endpoint where
  /-- The connection is encrypted. -/
  secure : Bool
  user : String
  password : String
  host : String
  /-- The number among the ports of the host, unless it is the default one. -/
  portNumber? : Option Nat
  path : String
  query? : Option String
  fragment? : Option String
  deriving DecidableEq

namespace Endpoint

/-- The scheme of the URL. -/
def scheme (e : Endpoint) : String := if e.secure then "https" else "http"

/-- The part of the URL that names the user. -/
def credentials (e : Endpoint) : String :=
  if e.user.isEmpty && e.password.isEmpty then ""
  else e.user ++ (if e.password.isEmpty then "" else ":" ++ e.password) ++ "@"

/-- The path and the query. -/
def target (e : Endpoint) : String :=
  e.path ++ (e.query?.map ("?" ++ ·)).getD ""

/-- The URL. -/
def url (e : Endpoint) : String :=
  e.scheme ++ "://" ++ e.credentials ++ e.host ++
    (e.portNumber?.map fun number => ":" ++ toString number).getD "" ++ e.target ++
    (e.fragment?.map ("#" ++ ·)).getD ""

/-- Why a text is not the URL of an endpoint. -/
inductive Fault where
  | noScheme
  | emptyHost
  | badHost
  | badCharacter
  | badAddress
  | badPort
  | unsupportedScheme (scheme : String)
  deriving DecidableEq

/-- The text of a fault. -/
def Fault.message : Fault → String
  | .noScheme => "relative URL without a base"
  | .emptyHost => "empty host"
  | .badHost => "invalid international domain name"
  | .badCharacter => "invalid domain character"
  | .badAddress => "invalid IPv4 address"
  | .badPort => "invalid port number"
  | .unsupportedScheme scheme => "unsupported scheme `" ++ scheme ++ "`"

end Endpoint

end QueryByExample
