import QueryByExample.Endpoint.Basic
import QueryByExample.Hostname.Label
import QueryByExample.Number.Decimal
import QueryByExample.Text.Percent
import QueryByExample.Text.Segment
/-!
# Reading endpoints

A URL is brought into its normal form: scheme and host in lower case, default ports left out, no dot
segments, and unsafe characters in percent encoding. Only services over HTTP are endpoints. Hosts
are names in ASCII, which may stand for international ones, or addresses of four numbers.

## Main definitions

- `Endpoint.Authority`: who answers, and the text that follows.
- `Endpoint.parse`: the endpoint of a text.
-/

namespace QueryByExample.Endpoint

/-- A URL without the controls and blanks around it and without tabs and line breaks. -/
def clean (cs : List Char) : List Char :=
  let outer (c : Char) : Bool := c.toNat ≤ 0x20
  let inner := ((cs.dropWhile outer).reverse.dropWhile outer).reverse
  inner.filter fun c => c != '\t' && c != '\n' && c != '\r'

/-- May a character stand in a scheme after its first letter? -/
def isSchemeChar (c : Char) : Bool := c.isAlphanum || c == '+' || c == '-' || c == '.'

/-- The scheme in lower case, and what follows its colon. -/
def readScheme? (cs : List Char) : Option (String × List Char) :=
  match cs, cs.dropWhile isSchemeChar with
  | first :: _, ':' :: rest =>
    if first.isAlpha then
      some (String.ofList ((cs.takeWhile isSchemeChar).map Char.toLower), rest)
    else none
  | _, _ => none

/-- The schemes whose URLs name a host in the domain name system, with their default ports. -/
def hostSchemes : List (String × Nat) :=
  [("http", 80), ("https", 443), ("ws", 80), ("wss", 443), ("ftp", 21)]

/-- Characters that are encoded in a fragment. -/
def unsafeInFragment (c : Char) : Bool :=
  c == ' ' || c == '"' || c == '<' || c == '>' || c == '\x60'

/-- Characters that are encoded in a query. -/
def unsafeInQuery (c : Char) : Bool :=
  c == ' ' || c == '"' || c == '#' || c == '<' || c == '>' || c == '\''

/-- Characters that are encoded in a path. -/
def unsafeInPath (c : Char) : Bool :=
  unsafeInFragment c || c == '#' || c == '?' || c == '\x7b' || c == '\x7d'

/-- Characters that are encoded in the name and the password of a user. -/
def unsafeInUser (c : Char) : Bool :=
  unsafeInPath c || c == '/' || c == ':' || c == ';' || c == '=' || c == '@' || c == '[' ||
    c == '\\' || c == ']' || c == '^' || c == '|'

/-- Characters that no host name may hold. -/
def isForbiddenInHost (c : Char) : Bool :=
  c.toNat ≤ 0x20 || 0x7F ≤ c.toNat || c == '#' || c == '/' || c == ':' || c == '<' || c == '>' ||
    c == '?' || c == '@' || c == '[' || c == '\\' || c == ']' || c == '^' || c == '|' || c == '%'

/-- Who answers. -/
structure Authority where
  user : String
  password : String
  host : String
  portNumber? : Option Nat

/-! ### Addresses -/

/-- A number in base ten, in base eight after a zero, or in base sixteen after `0x`. -/
def addressNumber? (cs : List Char) : Option Nat :=
  let inBase (base : Nat) (digits : List Char) : Option Nat :=
    digits.foldlM (fun value c =>
      match Text.hexDigitValue? c with
      | some digit => if digit < base then some (value * base + digit) else none
      | none => none) 0
  match cs with
  | [] => none
  | '0' :: 'x' :: digits => inBase 16 digits
  | '0' :: digit :: digits => inBase 8 (digit :: digits)
  | digits => inBase 10 digits

/-- The labels of a host; one dot at the end is ignored. -/
def hostLabels (host : List Char) : List (List Char) :=
  let labels := Text.segments '.' host
  if labels.getLast? = some [] ∧ 1 < labels.length then labels.dropLast else labels

/-- Is a host an address? It is one if its last label is a number. -/
def endsInNumber (host : List Char) : Bool :=
  match (hostLabels host).getLast? with
  | some label => (!label.isEmpty && label.all isDigit) || (addressNumber? label).isSome
  | none => false

/-- The number of an address: every part but the last is a byte, and the last fills the rest. -/
def addressValue? (parts : List Nat) : Option Nat :=
  match parts.reverse with
  | [] => none
  | last :: leading =>
    if 4 < parts.length || leading.any (255 < ·) || Nat.pow 256 (5 - parts.length) ≤ last then none
    else
      some (last + (leading.reverse.zipIdx.foldl (fun sum (part, index) =>
        sum + part * Nat.pow 256 (3 - index)) 0))

/-- An address as four bytes in base ten. -/
def addressText (value : Nat) : String :=
  ".".intercalate
    ([value / 16777216, value / 65536 % 256, value / 256 % 256, value % 256].map toString)

/-! ### Authorities -/

/-- The normal form of a host. Its labels stay in ASCII. -/
def readHost (cs : List Char) : Except Fault String :=
  let decoded := (Text.percentDecode cs).map fun byte => (Char.ofNat byte.toNat).toLower
  if decoded.isEmpty then .error .emptyHost
  else if decoded.any isForbiddenInHost || !Hostname.isValid decoded then .error .badHost
  else if endsInNumber decoded then
    match ((hostLabels decoded).mapM addressNumber?).bind addressValue? with
    | some value => .ok (addressText value)
    | none => .error .badAddress
  else .ok (String.ofList decoded)

/-- The number among the ports of a host; none if it is left out or the default. -/
def readPort (default? : Option Nat) (cs : List Char) : Except Fault (Option Nat) :=
  if !cs.all isDigit then .error .badPort
  else if cs.isEmpty then .ok none
  else
    let number := digitsValue cs
    if 65535 < number then .error .badPort
    else .ok (if some number = default? then none else some number)

/-- The name and the password of a user. -/
def readUser (cs : List Char) : String × String :=
  let (user, password?) := Text.cutAtFirst ':' cs
  let encode (part : List Char) := String.ofList (Text.percentEncode unsafeInUser part)
  (encode user, encode (password?.getD []))

/-- What precedes the last at sign, if there is one, and what follows it. -/
def cutUser (cs : List Char) : Option (List Char) × List Char :=
  let place := (cs.reverse.takeWhile (· != '@')).reverse
  if place.length = cs.length then (none, place)
  else (some (cs.take (cs.length - place.length - 1)), place)

/-- The authority of a URL whose scheme has one of the default ports. -/
def readAuthority (defaultPort : Nat) (cs : List Char) : Except Fault Authority := do
  let (userText?, place) := cutUser cs
  let (hostText, portText?) := Text.cutAtFirst ':' place
  let (user, password) := readUser (userText?.getD [])
  let host ← readHost hostText
  let portNumber? ← readPort (some defaultPort) (portText?.getD [])
  return ⟨user, password, host, portNumber?⟩

/-- Characters that no host may hold, whatever the scheme. -/
def isForbiddenInAnyHost (c : Char) : Bool :=
  c == '\x00' || c == ' ' || c == '#' || c == '/' || c == ':' || c == '<' || c == '>' || c == '?' ||
    c == '@' || c == '[' || c == '\\' || c == ']' || c == '^' || c == '|'

/-- Does the part before an at sign name a user or a password? -/
def namesUser : Option (List Char) → Bool
  | none | some [] | some [':'] => false
  | some _ => true

/-- Faults of the authority of a URL whose scheme has none of the default ports. It may be empty,
but neither a user nor a colon may stand without a host; `followed` tells whether more of the URL
comes after it. -/
def checkAuthority (cs : List Char) (followed : Bool) : Except Fault Unit := do
  let (user?, place) := cutUser cs
  let (host, portText?) := Text.cutAtFirst ':' place
  if user? = some [] ∧ place = [] ∧ followed then throw .emptyHost
  if host.any isForbiddenInAnyHost then throw .badCharacter
  if host = [] ∧ portText?.isSome then throw .emptyHost
  let _ ← readPort none ((portText?.getD []).takeWhile (· != '\\'))
  if host = [] ∧ namesUser user? then throw .emptyHost

/-! ### Paths -/

/-- A segment that means its own directory. -/
def isSingleDot (segment : List Char) : Bool :=
  [".", "%2e"].contains (String.ofList (segment.map Char.toLower))

/-- A segment that means the directory above. -/
def isDoubleDot (segment : List Char) : Bool :=
  ["..", ".%2e", "%2e.", "%2e%2e"].contains (String.ofList (segment.map Char.toLower))

/-- A segment that names a drive: a letter, then a colon or a bar. -/
def isDrive : List Char → Bool
  | [letter, mark] => letter.isAlpha && (mark == ':' || mark == '|')
  | _ => false

/-- The directory above one that is given by its segments, the last one first. A drive is never
left. -/
def parent : List (List Char) → List (List Char)
  | [] => []
  | last :: rest => if isDrive last then last :: rest else rest

/-- Resolve the dot segments of a path. A path that ends in one ends in a slash. -/
def resolveDots (above : List (List Char)) : List (List Char) → List (List Char)
  | [] => above.reverse
  | segment :: rest =>
    let directory (above : List (List Char)) := if rest.isEmpty then [] :: above else above
    if isDoubleDot segment then resolveDots (directory (parent above)) rest
    else if isSingleDot segment then resolveDots (directory above) rest
    else resolveDots (segment :: above) rest

/-- The normal form of a path, which starts with a slash or is empty. -/
def readPath (cs : List Char) : String :=
  let slashed := cs.map fun c => if c = '\\' then '/' else c
  let segments := resolveDots [] (Text.segments '/' (slashed.drop 1))
  "/" ++ "/".intercalate
    (segments.map fun segment => String.ofList (Text.percentEncode unsafeInPath segment))

/-- Does an authority or a path end before this character? -/
def endsPath (c : Char) : Bool := c == '?' || c == '#'

/-- Is this a slash of either direction? -/
def isSlash (c : Char) : Bool := c == '/' || c == '\\'

/-- The query and the fragment after a path. -/
def readTail (cs : List Char) : Option String × Option String :=
  let (front, fragment?) := Text.cutAtFirst '#' cs
  let query? := (Text.cutAtFirst '?' front).2
  (query?.map fun q => String.ofList (Text.percentEncode unsafeInQuery q),
    fragment?.map fun f => String.ofList (Text.percentEncode unsafeInFragment f))

/-- Faults of the host of a URL of a file. It may be empty or a drive. -/
def checkFileHost (cs : List Char) : Except Fault Unit := do
  match cs with
  | first :: second :: body =>
    let host := body.takeWhile fun c => !isSlash c && !endsPath c
    if isSlash first && isSlash second && !host.isEmpty && !isDrive host then
      let _ ← readHost host
  | _ => return ()

/-- Faults of a URL whose scheme has none of the default ports. -/
def checkOther (scheme : String) (cs : List Char) : Except Fault Unit :=
  if scheme = "file" then checkFileHost cs
  else match cs with
    | '/' :: '/' :: body =>
      let ends (c : Char) : Bool := c == '/' || endsPath c
      checkAuthority (body.takeWhile (!ends ·)) (body.any ends)
    | _ => .ok ()

/-- The parts of a URL that follow a scheme with one of the default ports. Any number of slashes may
stand before the host. -/
def readParts (secure : Bool) (defaultPort : Nat) (cs : List Char) : Except Fault Endpoint := do
  let body := cs.dropWhile isSlash
  let endsHost (c : Char) : Bool := isSlash c || endsPath c
  let authority ← readAuthority defaultPort (body.takeWhile (!endsHost ·))
  let afterHost := body.dropWhile (!endsHost ·)
  let (query?, fragment?) := readTail (afterHost.dropWhile (!endsPath ·))
  return {
    secure, user := authority.user, password := authority.password, host := authority.host
    portNumber? := authority.portNumber?, path := readPath (afterHost.takeWhile (!endsPath ·))
    query?, fragment? }

/-- The endpoint of a text. A URL with another scheme is refused for its scheme only if it has no
other fault. -/
def parse (text : String) : Except Fault Endpoint := do
  let some (scheme, rest) := readScheme? (clean text.toList) | throw .noScheme
  match hostSchemes.lookup scheme with
  | some defaultPort =>
    let endpoint ← readParts (scheme = "https") defaultPort rest
    if scheme = "http" ∨ scheme = "https" then return endpoint
    else throw (.unsupportedScheme scheme)
  | none =>
    checkOther scheme rest
    throw (.unsupportedScheme scheme)

end QueryByExample.Endpoint
