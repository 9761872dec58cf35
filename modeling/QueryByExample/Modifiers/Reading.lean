import QueryByExample.Event
import QueryByExample.Json.Printer
import QueryByExample.Modifiers.Basic
import QueryByExample.Number.Decimal
import QueryByExample.Text.Blank
/-!
# Modifiers of a document

Every root key that starts with `$` is taken out of the document. A key that is no modifier is
reported and otherwise ignored; the first modifier whose value is not accepted decides the error.

## Main definitions

- `Modifiers.Setting.read`: the meaning of one root entry.
- `Modifiers.ofEntries`: the modifiers of a document.
- `Modifiers.otherEntries`: what is left of the document.
-/

namespace QueryByExample.Modifiers

/-- What one modifier sets. -/
inductive Setting where
  | patterns (texts : List String)
  | filters (texts : List String)
  | limit (count? : Option Nat)
  | offset (count? : Option Nat)
  | distinct (b : Bool)
  | orderBy (texts : List String)
  | groupBy (texts : List String)
  | having (texts : List String)
  | namespaces (entries : List (String × String))
  | values (entries : List (String × List String))
  | graphs (texts : List String)
  | language (code? : Option String)
  | tags (display? : Option TagDisplay)
  | limitMode (mode : LimitMode)
  deriving DecidableEq

/-- Apply one setting. -/
def apply (m : Modifiers) : Setting → Modifiers
  | .patterns texts => { m with patterns := texts }
  | .filters texts => { m with filters := texts }
  | .limit count? => { m with limit? := count? }
  | .offset count? => { m with offset? := count? }
  | .distinct b => { m with distinct := b }
  | .orderBy texts => { m with orderBy := texts }
  | .groupBy texts => { m with groupBy := texts }
  | .having texts => { m with having := texts }
  | .namespaces entries => { m with namespaces := entries }
  | .values entries => { m with values := entries }
  | .graphs texts => { m with graphs := texts }
  | .language code? => { m with language? := code? }
  | .tags display? => { m with tags? := display? }
  | .limitMode mode => { m with limitMode := mode }

namespace Setting

/-- The fault of a value of the wrong kind. -/
def wrongKind (key expected : String) (value : Json) : Error :=
  .wrongKind key expected value.kindName

/-- The text of a scalar. Numbers and booleans keep their JSON form. -/
def scalar (key : String) : Json → Except Error String
  | .string s => .ok s
  | .number n => .ok n.text
  | .bool b => .ok (if b then "true" else "false")
  | value => .error (wrongKind key "a string or a list of strings" value)

/-- The texts of some scalars. -/
def scalars (key : String) : List Json → Except Error (List String)
  | [] => .ok []
  | item :: rest => do
    let text ← scalar key item
    let texts ← scalars key rest
    return text :: texts

/-- One scalar or a list of scalars; null, false and the empty text stand for none. -/
def texts (key : String) : Json → Except Error (List String)
  | .null | .bool false => .ok []
  | .array items => scalars key items
  | value =>
    match scalar key value with
    | .ok text => .ok (if text.isEmpty then [] else [text])
    | .error fault => .error fault

/-- A count, as a number or as text; null and blank text stand for none. -/
def count (key : String) : Json → Except Error (Option Nat)
  | .null => .ok none
  | .number n =>
    match n with
    | .integer i =>
      if Word.fitsUnsigned i then .ok (some i.toNat)
      else .error (.badValue key ("`" ++ n.text ++ "` is not a non-negative integer"))
    | .double _ => .error (.badValue key ("`" ++ n.text ++ "` is not a non-negative integer"))
  | .string s =>
    let trimmed := Text.trimChars s.toList
    if trimmed.isEmpty then .ok none
    else match Decimal.readCount? trimmed with
      | some n => .ok (some n)
      | none => .error (.badValue key ("`" ++ s ++ "` is not a non-negative integer"))
  | value => .error (wrongKind key "a number" value)

/-- A truth value; null stands for the default. -/
def flag (key : String) (default : Bool) : Json → Except Error Bool
  | .bool b => .ok b
  | .null => .ok default
  | value => .error (wrongKind key "a boolean" value)

/-- A text; null and the empty text stand for none. -/
def text? (key : String) : Json → Except Error (Option String)
  | .null => .ok none
  | .string s => .ok (if s.isEmpty then none else some s)
  | value => .error (wrongKind key "a string" value)

/-- A word of a closed choice; null and the empty text stand for none. -/
def word? {α : Type} (key : String) (ofName : String → Except UnknownWord α) (value : Json) :
    Except Error (Option α) := do
  match ← text? key value with
  | none => return none
  | some word =>
    match ofName word with
    | .ok choice => return some choice
    | .error _ => throw (.badValue key ("unrecognised value `" ++ word ++ "`"))

/-- The entries of an object, each of whose values is read by `read`. -/
def entries {α : Type} (key : String) (read : Json → Except Error α) (value : Json) :
    Except Error (List (String × α)) :=
  match value with
  | .object fields => fields.mapM fun (name, value) => do return (name, ← read value)
  | value => .error (wrongKind key "an object" value)

/-- The meaning of a root entry; none if the key is no modifier. -/
def read (key : String) (value : Json) : Except Error (Option Setting) :=
  match key with
  | "$where" => return some (.patterns (← texts key value))
  | "$filter" => return some (.filters (← texts key value))
  | "$limit" => return some (.limit (← count key value))
  | "$offset" => return some (.offset (← count key value))
  | "$distinct" => return some (.distinct (← flag key true value))
  | "$orderby" => return some (.orderBy (← texts key value))
  | "$groupby" => return some (.groupBy (← texts key value))
  | "$having" => return some (.having (← texts key value))
  | "$prefixes" => return some (.namespaces (← entries key (scalar key) value))
  | "$values" =>
    return some (.values ((← entries key (texts key) value).map fun (name, terms) =>
      (Variable.marked name, terms)))
  | "$from" => return some (.graphs (← texts key value))
  | "$lang" => return some (.language (← text? key value))
  | "$langTag" => return some (.tags (← word? key TagDisplay.ofName value))
  | "$limitMode" => return some (.limitMode ((← word? key LimitMode.ofName value).getD .query))
  | _ => return none

end Setting

/-- Does a key start like those of modifiers? -/
def isKey (key : String) : Bool := key.toList.head? == some '$'

/-- The entries whose keys do not start with `$`, in order. -/
def otherEntries (entries : List (String × Json)) : List (String × Json) :=
  entries.filter fun entry => !isKey entry.1

/-- Apply the modifiers among some root entries in order. -/
def addEntries (m : Modifiers) : List (String × Json) → Traced Error Modifiers
  | [] => .ofExcept (.ok m)
  | (key, value) :: rest =>
    if isKey key then
      match Setting.read key value with
      | .ok (some setting) => addEntries (m.apply setting) rest
      | .ok none => do
        Traced.report [.unknownModifier key]
        addEntries m rest
      | .error fault => .ofExcept (.error fault)
    else addEntries m rest

/-- The modifiers of a document. -/
def ofEntries (entries : List (String × Json)) : Traced Error Modifiers :=
  addEntries {} entries

end QueryByExample.Modifiers
