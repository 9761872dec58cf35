import QueryByExample.Client
/-!
# Messages

Requests and replies as the bytes that travel over a connection which is closed after one exchange.

## Main definitions

- `Request.message`: the bytes of a request.
- `Delivery.ofMessage`: the reply in the bytes that were received.
-/

namespace QueryByExample

/-- The one of the host's ports to connect to. -/
def Endpoint.portNumber (e : Endpoint) : Nat := e.portNumber?.getD (if e.secure then 443 else 80)

/-- The end of a line in a message. -/
def lineEnd : String := "\r\n"

/-- The lines of a request in front of its body. -/
def Request.head (r : Request) : List String :=
  let place := (r.endpoint.portNumber?.map fun number => ":" ++ toString number).getD ""
  [r.method ++ " " ++ r.endpoint.target ++ " HTTP/1.1",
    "Host: " ++ r.endpoint.host ++ place,
    "Accept: " ++ r.accept,
    "Content-Type: " ++ r.contentType,
    "Content-Length: " ++ toString r.body.utf8ByteSize,
    "Connection: close",
    "",
    ""]

/-- The bytes of a request. -/
def Request.message (r : Request) : ByteArray :=
  (lineEnd.intercalate r.head ++ r.body).toUTF8

namespace Delivery

/-- The first line of some bytes, without its end, and what follows it. -/
def cutLine : List UInt8 → List UInt8 × List UInt8
  | [] => ([], [])
  | 0x0D :: 0x0A :: rest => ([], rest)
  | byte :: rest =>
    let (line, after) := cutLine rest
    (byte :: line, after)

/-- The lines up to the first empty one, and what follows it. The fuel bounds their number. -/
def cutHead : Nat → List UInt8 → List (List UInt8) × List UInt8
  | 0, bytes => ([], bytes)
  | fuel + 1, bytes =>
    match cutLine bytes with
    | ([], rest) => ([], rest)
    | (line, rest) =>
      let (lines, after) := cutHead fuel rest
      (line :: lines, after)

/-- Bytes as characters, each by its number. -/
def chars (bytes : List UInt8) : List Char := bytes.map fun byte => Char.ofNat byte.toNat

/-- The text of some bytes; bytes that are no text are replaced one by one. -/
def bodyText (bytes : List UInt8) : String :=
  match String.fromUTF8? ⟨bytes.toArray⟩ with
  | some text => text
  | none =>
    String.ofList (bytes.map fun byte => if byte < 0x80 then Char.ofNat byte.toNat else '\uFFFD')

/-- The value of a header field, whose name is given in lower case. -/
def header? (lines : List (List UInt8)) (name : String) : Option (List Char) :=
  lines.findSome? fun line =>
    let (key, value?) := Text.cutAtFirst ':' (chars line)
    if String.ofList (key.map Char.toLower) = name then value?.map Text.trimChars else none

/-- The number that hexadecimal digits at the start of a line denote. -/
def chunkSize (cs : List Char) : Nat :=
  (cs.map Text.hexDigitValue?).takeWhile Option.isSome |>.foldl
    (fun size digit => size * 16 + digit.getD 0) 0

/-- The bytes of a body that comes in chunks. The fuel bounds their number. -/
def unchunk : Nat → List UInt8 → List UInt8
  | 0, _ => []
  | fuel + 1, bytes =>
    let (line, rest) := cutLine bytes
    match chunkSize (chars line) with
    | 0 => []
    | size => rest.take size ++ unchunk fuel (cutLine (rest.drop size)).2

/-- The status of a reply, from its first line. -/
def status? (line : List UInt8) : Option Nat :=
  match Text.segments ' ' (chars line) with
  | _ :: status :: _ => Decimal.readCount? status
  | _ => none

/-- The body of a reply with some header fields. -/
def body (lines : List (List UInt8)) (bytes : List UInt8) : List UInt8 :=
  match header? lines "transfer-encoding", (header? lines "content-length").bind Decimal.readCount?
    with
  | some coding, _ =>
    if coding.map Char.toLower = "chunked".toList then unchunk (bytes.length + 1) bytes else bytes
  | none, some size => bytes.take size
  | none, none => bytes

/-- The reply in the bytes that were received. -/
def ofMessage (bytes : ByteArray) : Delivery :=
  let all := bytes.data.toList
  match cutHead (all.length + 1) all with
  | (first :: lines, rest) =>
    match status? first with
    | some status => .replied status (bodyText (body lines rest))
    | none => .unanswered
  | ([], _) => .unanswered

end Delivery

end QueryByExample
