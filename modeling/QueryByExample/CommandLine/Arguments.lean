import QueryByExample.Number.Decimal
import QueryByExample.Text.Segment
/-!
# Arguments of the command line

The commands `run` and `compile` take one document each. Options may stand anywhere; those that
take a value take it after an equals sign or as the next argument. After `--` every argument is a
document. The first fault decides, and a request for help or for the version is granted only if no
fault precedes it.

## Main definitions

- `Command`, `RunOptions`: what is to be done.
- `Usage`: what the arguments ask for.
- `Usage.ofArguments`: the reading of the arguments.
-/

namespace QueryByExample.CommandLine

/-- The options of `run`. -/
structure RunOptions where
  endpoint? : Option String := none
  timeout? : Option Nat := none
  context? : Option String := none
  compact : Bool := false
  hideTags : Bool := false
  logQueries : Bool := false
  deriving DecidableEq

/-- What is to be done with a document. -/
inductive Command where
  | run (document : String) (options : RunOptions)
  | compile (document : String)
  deriving DecidableEq

/-- What the arguments ask for. -/
inductive Usage where
  | command (verbosity : Nat) (command : Command)
  | version
  | help
  | misuse
  deriving DecidableEq

/-- The names of commands. -/
inductive Verb where
  | run
  | compile
  deriving DecidableEq

/-- The options of both commands. -/
inductive Choice where
  | verbose
  | help
  | compact
  | hideTags
  | logQueries
  | endpoint
  | timeout
  | context
  deriving DecidableEq

/-- The option of a long name. -/
def Verb.choice? (verb : Verb) (name : String) : Option Choice :=
  match name, verb with
  | "verbose", _ => some .verbose
  | "help", _ => some .help
  | "compact", .run => some .compact
  | "hide-lang-tags", .run => some .hideTags
  | "log-queries", .run => some .logQueries
  | "endpoint", .run => some .endpoint
  | "timeout", .run => some .timeout
  | "context", .run => some .context
  | _, _ => none

/-- What was read of the arguments of a command. -/
structure Progress where
  verbosity : Nat
  document? : Option String := none
  options : RunOptions := {}

namespace Progress

/-- Take a document. There is exactly one, and its name is not empty. -/
def addDocument (p : Progress) (name : String) : Except Usage Progress :=
  if p.document?.isSome || name.isEmpty then .error .misuse
  else .ok { p with document? := some name }

/-- Set an option that takes no value. Only verbosity may be repeated. -/
def setFlag (p : Progress) : Choice → Except Usage Progress
  | .verbose => .ok { p with verbosity := p.verbosity + 1 }
  | .help => .error .help
  | .compact =>
    if p.options.compact then .error .misuse
    else .ok { p with options := { p.options with compact := true } }
  | .hideTags =>
    if p.options.hideTags then .error .misuse
    else .ok { p with options := { p.options with hideTags := true } }
  | .logQueries =>
    if p.options.logQueries then .error .misuse
    else .ok { p with options := { p.options with logQueries := true } }
  | .endpoint | .timeout | .context => .error .misuse

/-- Set an option that takes a value, once. -/
def setValue (p : Progress) (value : String) : Choice → Except Usage Progress
  | .endpoint =>
    if p.options.endpoint?.isSome then .error .misuse
    else .ok { p with options := { p.options with endpoint? := some value } }
  | .context =>
    if p.options.context?.isSome then .error .misuse
    else .ok { p with options := { p.options with context? := some value } }
  | .timeout =>
    match p.options.timeout?, Decimal.readCount? value.toList with
    | none, some seconds => .ok { p with options := { p.options with timeout? := some seconds } }
    | _, _ => .error .misuse
  | _ => .error .misuse

/-- Set the options that letters after a dash stand for. -/
def setLetters (p : Progress) : List Char → Except Usage Progress
  | [] => .ok p
  | 'v' :: rest => setLetters { p with verbosity := p.verbosity + 1 } rest
  | 'h' :: _ => .error .help
  | _ => .error .misuse

/-- The usage that all arguments of a command amount to. -/
def usage (p : Progress) : Verb → Usage
  | verb =>
    match p.document?, verb with
    | some document, .run => .command p.verbosity (.run document p.options)
    | some document, .compile => .command p.verbosity (.compile document)
    | none, _ => .misuse

end Progress

/-- Does an option take a value? -/
def Choice.takesValue : Choice → Bool
  | .endpoint | .timeout | .context => true
  | _ => false

/-- The forms of an argument. -/
inductive Argument where
  | separator
  | long (name : String) (value? : Option String)
  | letters (cs : List Char)
  | plain (text : String)

/-- The form of an argument. A dash alone is a plain argument. -/
def Argument.ofText (text : String) : Argument :=
  match text.toList with
  | ['-', '-'] => .separator
  | '-' :: '-' :: rest =>
    let (name, value?) := Text.cutAtFirst '=' rest
    .long (String.ofList name) (value?.map String.ofList)
  | '-' :: c :: rest => .letters (c :: rest)
  | _ => .plain text

/-- Documents after the separator. -/
def readDocuments (p : Progress) : List String → Except Usage Progress
  | [] => .ok p
  | name :: rest => (p.addDocument name).bind fun p => readDocuments p rest

/-- The arguments of a command. -/
def readCommand (verb : Verb) (p : Progress) : List String → Except Usage Progress
  | [] => .ok p
  | text :: rest =>
    match Argument.ofText text with
    | .separator => readDocuments p rest
    | .letters cs => (p.setLetters cs).bind fun p => readCommand verb p rest
    | .plain name => (p.addDocument name).bind fun p => readCommand verb p rest
    | .long name value? =>
      match verb.choice? name with
      | none => .error .misuse
      | some choice =>
        match choice.takesValue, value?, rest with
        | false, none, rest => (p.setFlag choice).bind fun p => readCommand verb p rest
        | false, some _, _ => .error .misuse
        | true, some value, rest =>
          (p.setValue value choice).bind fun p => readCommand verb p rest
        | true, none, value :: rest =>
          match Argument.ofText value with
          | .plain value => (p.setValue value choice).bind fun p => readCommand verb p rest
          | _ => .error .misuse
        | true, none, [] => .error .misuse

/-- The usage of a command. -/
def commandUsage (verb : Verb) (verbosity : Nat) (arguments : List String) : Usage :=
  match readCommand verb { verbosity } arguments with
  | .ok p => p.usage verb
  | .error usage => usage

/-- The usage of a request for help on a command. -/
def helpUsage (topics : List String) : Usage :=
  match topics with
  | [] | ["run"] | ["compile"] | ["help"] => .help
  | _ => .misuse

/-- What letters before the command ask for: more verbosity, or an answer at once. -/
def leadingLetters (verbosity : Nat) : List Char → Except Usage Nat
  | [] => .ok verbosity
  | 'v' :: rest => leadingLetters (verbosity + 1) rest
  | 'h' :: _ => .error .help
  | 'V' :: _ => .error .version
  | _ => .error .misuse

/-- What the arguments ask for, after some requests for verbosity. -/
def Usage.after (verbosity : Nat) : List String → Usage
  | [] => .misuse
  | text :: rest =>
    match Argument.ofText text with
    | .plain "run" => commandUsage .run verbosity rest
    | .plain "compile" => commandUsage .compile verbosity rest
    | .plain "help" => helpUsage rest
    | .long "verbose" none => Usage.after (verbosity + 1) rest
    | .long "help" none => .help
    | .long "version" none => .version
    | .letters cs =>
      match leadingLetters verbosity cs with
      | .ok verbosity => Usage.after verbosity rest
      | .error usage => usage
    | _ => .misuse

/-- What the arguments ask for. -/
def Usage.ofArguments (arguments : List String) : Usage := Usage.after 0 arguments

end QueryByExample.CommandLine
