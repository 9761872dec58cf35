import QueryByExample.Directive.Basic
import QueryByExample.Text.Blank
import QueryByExample.Text.Segment
import QueryByExample.Variable
/-!
# The grammar of directives

A directive starts with `$` and a property path, or with `?` and a variable. Every further `$` opens
a token: an option, perhaps with an argument after its first colon. A text that starts otherwise is
no directive.

## Main definitions

- `Directive.Setting.read`: the meaning of one token.
- `Directive.Options.ofTokens`: the options that a list of tokens sets.
- `Directive.parse`: the directive of a text, if it is one.
-/

namespace QueryByExample.Directive

/-- The meaning of one token. -/
inductive Setting where
  | required
  | distinct
  | list
  | fromParent
  | reverse
  | anchor
  | variable (name : String)
  | aggregate (a : Aggregate)
  | language (code? : Option String)
  | bestLanguage (code? : Option String)
  | tags (display : TagDisplay)
  | accept (kind : ValueKind)
  | unknown (token : String)
  deriving DecidableEq

namespace Setting

/-- A language code; an empty one counts as none. -/
def code? (argument : Option (List Char)) : Option String :=
  match argument with
  | none | some [] => none
  | some code => some (String.ofList code)

/-- The meaning of a token without an argument. -/
def ofName (name : String) : Setting :=
  if name = "required" then required
  else if name = "distinct" then distinct
  else if name = "list" then list
  else if name = "prevRoot" then fromParent
  else if name = "reverse" then reverse
  else if name = "anchor" then anchor
  else match Aggregate.ofName? name with
    | some a => aggregate a
    | none => unknown name

/-- The meaning of a token. Marks in front of a variable are dropped; a name that is no option, or
that is written with an argument where it takes none, makes the token unknown. -/
def read (token : List Char) : Except Error Setting :=
  let (name, argument) := Text.cutAtFirst ':' token
  let name := String.ofList name
  if name = "lang" then .ok (language (code? argument))
  else if name = "bestlang" then .ok (bestLanguage (code? argument))
  else match argument with
    | none => .ok (ofName name)
    | some argument =>
      if name = "var" then
        match argument.dropWhile (· == '?') with
        | [] => .error .emptyVariable
        | bare => .ok (.variable (String.ofList ('?' :: bare)))
      else if name = "langTag" then
        match TagDisplay.ofName (String.ofList argument) with
        | .ok display => .ok (tags display)
        | .error fault => .error (.invalidOption (String.ofList token) fault)
      else if name = "accept" then
        match ValueKind.ofName (String.ofList argument) with
        | .ok kind => .ok (accept kind)
        | .error fault => .error (.invalidOption (String.ofList token) fault)
      else .ok (unknown (String.ofList token))

end Setting

namespace Options

/-- Apply one setting. The first aggregate stands; of the other choices the last one does. -/
def apply (options : Options) : Setting → Options
  | .required => { options with required := true }
  | .distinct => { options with distinct := true }
  | .list => { options with list := true }
  | .fromParent => { options with fromParent := true }
  | .reverse => { options with reverse := true }
  | .anchor => { options with anchor := true }
  | .variable name => { options with chosenVariable? := some name }
  | .aggregate a => { options with aggregate? := options.aggregate?.or (some a) }
  | .language code? => { options with language? := some code? }
  | .bestLanguage code? => { options with bestLanguage? := some code? }
  | .tags display => { options with tags? := some display }
  | .accept kind => { options with accept? := some kind }
  | .unknown token => { options with unknown := options.unknown ++ [token] }

/-- Read the tokens in order and apply their settings; empty tokens mean nothing. The first token
that cannot be read decides the error. -/
def ofTokens (options : Options) : List (List Char) → Except Error Options
  | [] => .ok options
  | [] :: rest => ofTokens options rest
  | token :: rest =>
    match Setting.read token with
    | .ok setting => ofTokens (options.apply setting) rest
    | .error fault => .error fault

end Options

/-- The head and the tokens of what follows the first character of a directive. -/
def parts (cs : List Char) : List Char × List (List Char) :=
  match Text.segments '$' cs with
  | [] => ([], [])
  | head :: tokens => (head, tokens)

/-- The directive of a text: none if the text starts neither with `$` nor with `?`. Faults of the
tokens are found before those of the head. -/
def parse (text : String) : Except Error (Option Directive) :=
  match text.toList with
  | '$' :: rest => do
    let (head, tokens) := parts rest
    let options ← Options.ofTokens {} tokens
    let path := Text.trimChars head
    if path.isEmpty then throw (.emptyPath text)
    return some ⟨.path (String.ofList path), options⟩
  | '?' :: rest => do
    let (head, tokens) := parts rest
    let options ← Options.ofTokens {} tokens
    if head.isEmpty then throw .emptyVariable
    return some ⟨.variable (Variable.marked (String.ofList head)), options⟩
  | _ => return none

end QueryByExample.Directive
