import QueryByExample.Json.Basic
import QueryByExample.Number.Decimal
import QueryByExample.Text.Hexadecimal
/-!
# JSON texts

A text of correct JSON grammar is read in two steps. The first yields a `Json.Draft`, in which
repeated keys are still there and tokens without a value are marked: a string with half a surrogate
pair, a number too large for a double. The second step, `Draft.value?`, insists on every value. A
reader that skips parts of a text works on the draft.

## Main definitions

- `Json.Draft.ofText?`: the draft of a text.
- `Json.Draft.value?`: the value of a draft within a bound on nesting.
- `Json.ofText?`: both steps.
-/

namespace QueryByExample.Json

/-- A JSON text of correct grammar. A number or string is `none` if its token has no value. -/
inductive Draft where
  | null
  | bool (b : Bool)
  | number (n : Option Number)
  | string (s : Option String)
  | array (items : List Draft)
  | object (entries : List (Option String × Draft))

/-- A piece of a string token: a character, or the code unit of a numeric escape. -/
inductive Piece where
  | char (c : Char)
  | code (unit : Nat)

namespace Piece

/-- The characters that pieces spell. Two code units spell one character if they are the two halves
of a surrogate pair; half a pair spells nothing. -/
def chars? : List Piece → Option (List Char)
  | [] => some []
  | .char c :: rest => (chars? rest).map (c :: ·)
  | .code high :: .code low :: rest =>
    if 0xD800 ≤ high ∧ high < 0xDC00 then
      if 0xDC00 ≤ low ∧ low < 0xE000 then
        (chars? rest).map
          (Char.ofNat (0x10000 + (high - 0xD800) * 0x400 + (low - 0xDC00)) :: ·)
      else none
    else if 0xDC00 ≤ high ∧ high < 0xE000 then none
    else (chars? (.code low :: rest)).map (Char.ofNat high :: ·)
  | .code unit :: rest =>
    if 0xD800 ≤ unit ∧ unit < 0xE000 then none
    else (chars? rest).map (Char.ofNat unit :: ·)

end Piece

namespace Draft

/-- The blanks that JSON allows between tokens. -/
def isSpace (c : Char) : Bool := c == ' ' || c == '\t' || c == '\n' || c == '\r'

/-- A text from its next token on. -/
def skipSpace (cs : List Char) : List Char := cs.dropWhile isSpace

/-- The character of an escape of one letter. -/
def escaped? : Char → Option Char
  | '"' => some '"'
  | '\\' => some '\\'
  | '/' => some '/'
  | 'b' => some '\x08'
  | 'f' => some '\x0c'
  | 'n' => some '\n'
  | 'r' => some '\r'
  | 't' => some '\t'
  | _ => none

/-- The pieces of a string up to its closing quote, and what follows the quote. -/
def pieces? : List Char → Option (List Piece × List Char)
  | [] => none
  | '"' :: rest => some ([], rest)
  | '\\' :: 'u' :: a :: b :: c :: d :: rest =>
    match Text.hexDigitValue? a, Text.hexDigitValue? b, Text.hexDigitValue? c,
      Text.hexDigitValue? d, pieces? rest with
    | some a, some b, some c, some d, some (pieces, rest) =>
      some (.code (((a * 16 + b) * 16 + c) * 16 + d) :: pieces, rest)
    | _, _, _, _, _ => none
  | '\\' :: c :: rest =>
    match escaped? c, pieces? rest with
    | some c, some (pieces, rest) => some (.char c :: pieces, rest)
    | _, _ => none
  | c :: rest =>
    if c.toNat < 0x20 then none
    else (pieces? rest).map fun (pieces, rest) => (.char c :: pieces, rest)

/-- The string after an opening quote, and what follows it. -/
def string? (cs : List Char) : Option (Option String × List Char) :=
  (pieces? cs).map fun (pieces, rest) => ((Piece.chars? pieces).map String.ofList, rest)

/-- The value of a number without fraction and exponent: an integer if it fits 64 bits. Minus zero
is a double. -/
def wholeNumber? (negative : Bool) (digits : List Char) : Option Number :=
  let magnitude := digitsValue digits
  if !negative && Word.fitsUnsigned magnitude then some (.integer magnitude)
  else if negative && Word.fitsSigned (-magnitude) && magnitude != 0 then
    some (.integer (-magnitude))
  else (Numeral.scaled? ⟨negative, digits, [], 0⟩).map .double

/-- The fraction of a number: a point and at least one digit, or nothing. -/
def fraction? : List Char → Option (Option (List Char) × List Char)
  | '.' :: rest =>
    let digits := rest.takeWhile isDigit
    if digits.isEmpty then none else some (some digits, rest.dropWhile isDigit)
  | cs => some (none, cs)

/-- The exponent of a number: a mark, an optional sign and at least one digit, or nothing. -/
def exponent? : List Char → Option (Option Int × List Char)
  | c :: rest =>
    if c = 'e' ∨ c = 'E' then
      let (negative, body) := Decimal.takeSign rest
      let digits := body.takeWhile isDigit
      if digits.isEmpty then none
      else
        let magnitude : Int := digitsValue digits
        some (some (if negative then -magnitude else magnitude), body.dropWhile isDigit)
    else some (none, c :: rest)
  | [] => some (none, [])

/-- A number token. Its whole part has no leading zero. -/
def number? (cs : List Char) : Option (Option Number × List Char) := do
  let (negative, body) := match cs with
    | '-' :: rest => (true, rest)
    | cs => (false, cs)
  let whole ← match body with
    | '0' :: _ => some ['0']
    | body =>
      let digits := body.takeWhile isDigit
      if digits.isEmpty then none else some digits
  let (fraction, rest) ← fraction? (body.drop whole.length)
  let (exponent, rest) ← exponent? rest
  let value := match fraction, exponent with
    | none, none => wholeNumber? negative whole
    | _, _ =>
      (Numeral.scaled? ⟨negative, whole, fraction.getD [], exponent.getD 0⟩).map .double
  return (value, rest)

/-- A literal name that must stand at the start of the text. -/
def word? (word : String) (draft : Draft) (cs : List Char) : Option (Draft × List Char) :=
  if word.toList.isPrefixOf cs then some (draft, cs.drop word.length) else none

mutual

/-- A value and what follows it. The fuel bounds the number of values and separators read. -/
def readValue? : Nat → List Char → Option (Draft × List Char)
  | 0, _ => none
  | fuel + 1, cs =>
    match skipSpace cs with
    | [] => none
    | '"' :: rest => (string? rest).map fun (s, rest) => (.string s, rest)
    | '[' :: rest =>
      match skipSpace rest with
      | ']' :: rest => some (.array [], rest)
      | rest => (readItems? fuel rest).map fun (items, rest) => (.array items, rest)
    | '\x7b' :: rest =>
      match skipSpace rest with
      | '\x7d' :: rest => some (.object [], rest)
      | rest => (readEntries? fuel rest).map fun (entries, rest) => (.object entries, rest)
    | 'n' :: rest => word? "null" .null ('n' :: rest)
    | 't' :: rest => word? "true" (.bool true) ('t' :: rest)
    | 'f' :: rest => word? "false" (.bool false) ('f' :: rest)
    | cs => (number? cs).map fun (n, rest) => (.number n, rest)

/-- The items of an array up to its closing bracket, at least one. -/
def readItems? : Nat → List Char → Option (List Draft × List Char)
  | 0, _ => none
  | fuel + 1, cs => do
    let (item, rest) ← readValue? fuel cs
    match skipSpace rest with
    | ']' :: rest => return ([item], rest)
    | ',' :: rest =>
      let (items, rest) ← readItems? fuel rest
      return (item :: items, rest)
    | _ => none

/-- The entries of an object up to its closing brace, at least one. -/
def readEntries? : Nat → List Char → Option (List (Option String × Draft) × List Char)
  | 0, _ => none
  | fuel + 1, cs => do
    let '"' :: rest := skipSpace cs | none
    let (key, rest) ← string? rest
    let ':' :: rest := skipSpace rest | none
    let (value, rest) ← readValue? fuel rest
    match skipSpace rest with
    | '\x7d' :: rest => return ([(key, value)], rest)
    | ',' :: rest =>
      let (entries, rest) ← readEntries? fuel rest
      return ((key, value) :: entries, rest)
    | _ => none

end

/-- The draft of a whole text. Every value and every separator takes a character, so the fuel is
enough. -/
def ofText? (text : String) : Option Draft :=
  let cs := text.toList
  match readValue? (2 * cs.length + 2) cs with
  | some (draft, rest) => if (skipSpace rest).isEmpty then some draft else none
  | none => none

mutual

/-- The value of a draft of at most `depth` nested arrays and objects. There is none if a token has
no value. A repeated key keeps its first place and takes its last value. -/
def value? (depth : Nat) : Draft → Option Json
  | .null => some .null
  | .bool b => some (.bool b)
  | .number n => n.map .number
  | .string s => s.map .string
  | .array items =>
    match depth with
    | 0 => none
    | depth + 1 => (itemValues? depth items).map .array
  | .object entries =>
    match depth with
    | 0 => none
    | depth + 1 => (entryValues? depth entries).map fun entries => .object (Fields.ofList entries)

/-- The values of some drafts. -/
def itemValues? (depth : Nat) : List Draft → Option (List Json)
  | [] => some []
  | item :: rest => do
    let item ← value? depth item
    let rest ← itemValues? depth rest
    return item :: rest

/-- The values of some entries, in order and with repeated keys. -/
def entryValues? (depth : Nat) : List (Option String × Draft) → Option (List (String × Json))
  | [] => some []
  | (key, value) :: rest => do
    let key ← key
    let value ← value? depth value
    let rest ← entryValues? depth rest
    return (key, value) :: rest

end

mutual

/-- The draft of a value, in which every token has one. -/
def ofJson : Json → Draft
  | .null => .null
  | .bool b => .bool b
  | .number n => .number (some n)
  | .string s => .string (some s)
  | .array items => .array (ofItems items)
  | .object entries => .object (ofEntries entries)

/-- The drafts of some values. -/
def ofItems : List Json → List Draft
  | [] => []
  | item :: rest => ofJson item :: ofItems rest

/-- The drafts of some entries. -/
def ofEntries : List (String × Json) → List (Option String × Draft)
  | [] => []
  | (key, value) :: rest => (some key, ofJson value) :: ofEntries rest

end

end Draft

/-- The deepest nesting of arrays and objects that a document may have. -/
def deepestNesting : Nat := 127

/-- The value of a JSON text. -/
def ofText? (text : String) : Option Json :=
  (Draft.ofText? text).bind (Draft.value? deepestNesting)

end QueryByExample.Json
