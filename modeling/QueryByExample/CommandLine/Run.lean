import QueryByExample.Client
import QueryByExample.CommandLine.Arguments
import QueryByExample.CommandLine.Document
import QueryByExample.Json.Printer
/-!
# Runs of the command line

The commands, for any way to read documents and to exchange requests.

## Main definitions

- `World`: what a run needs from outside.
- `compileDocument`, `runDocument`: the commands on a document.
- `run`: the report of a run.
-/

namespace QueryByExample.CommandLine

/-- The name of the program. -/
def programName : String := "protoquery"

/-- The version of the program. -/
def versionText : String := programName ++ " 0.3.0\n"

/-- A short description of the arguments. -/
def helpText : String :=
  "Query SPARQL endpoints with JSON prototypes\n\n" ++
  "Usage: " ++ programName ++ " [OPTIONS] <COMMAND>\n\n" ++
  "Commands:\n" ++
  "  run <INPUT>      Compile a document and run it against a SPARQL endpoint\n" ++
  "  compile <INPUT>  Print the SPARQL query generated for a document\n" ++
  "  help             Print this message\n\n" ++
  "Options:\n" ++
  "  -v, --verbose              Increase log verbosity (-v debug, -vv trace)\n" ++
  "  -h, --help                 Print help\n" ++
  "  -V, --version              Print version\n\n" ++
  "Options of run:\n" ++
  "      --endpoint <ENDPOINT>  Endpoint URL [default: " ++ defaultEndpoint ++ "]\n" ++
  "      --timeout <TIMEOUT>    Request timeout in seconds\n" ++
  "      --context <CONTEXT>    JSON-LD context for graph output (a JSON value or a bare IRI)\n" ++
  "      --hide-lang-tags       Strip language tags from literals\n" ++
  "      --log-queries          Log compiled queries at info level\n" ++
  "      --compact              Print JSON on one line\n"

/-- What a run needs from outside. -/
structure World (m : Type → Type) where
  /-- The bytes of a file, or why it cannot be read. -/
  fileBytes : String → m (Except String ByteArray)
  /-- The bytes of standard input. -/
  inputBytes : m (Except String ByteArray)
  /-- Send a request and wait for its reply, perhaps for some seconds only. -/
  exchange : Option Nat → Request → m Delivery

/-- Read the document that a path names. -/
def World.load {m : Type → Type} [Monad m] (world : World m) (path : String) :
    m (Except Failure Json) := do
  let bytes ← if isStandardInput path then world.inputBytes else world.fileBytes path
  return Document.ofBytes path bytes

/-- Print the query of a document. -/
def compileDocument (path : String) (document : Json) : Report :=
  let compiling := compile document
  let report := match compiling.outcome with
    | .ok compiled => Report.success (compiled.text ++ "\n") []
    | .error fault =>
      Report.failure []
        (Failure.within ("failed to compile " ++ path) ⟨fault.message, fault.causes⟩)
  { report with events := compiling.events }

namespace RunOptions

/-- The settings that options amount to. A context that is no JSON value is a text. -/
def settings (options : RunOptions) : Settings where
  context? := options.context?.map fun raw => (Json.ofText? raw).getD (.string raw)
  endpoint := options.endpoint?.getD defaultEndpoint
  tags := if options.hideTags then .hidden else .shown
  announceQueries := options.logQueries

end RunOptions

/-- The number of entries in an answer. -/
def entryCount : Json → Nat
  | .array entries => entries.length
  | .object fields =>
    match Fields.find? "@graph" fields with
    | some (.array entries) => entries.length
    | _ => 0
  | _ => 0

/-- The text of an answer. -/
def answerText (compact : Bool) (answer : Json) : String :=
  (if compact then answer.compact else answer.pretty) ++ "\n"

/-- The report on an answer, or on its failure, after it was announced. -/
def answerReport (path : String) (options : RunOptions) (announcement : String)
    (answer : Traced TransformError Json) : Report :=
  let report := match answer.outcome with
    | .ok output =>
      Report.success (answerText options.compact output)
        [announcement, "ok " ++ toString (entryCount output) ++ " entries"]
    | .error fault =>
      Report.failure [announcement]
        (Failure.within ("failed to run " ++ path) ⟨fault.message, fault.causes⟩)
  { report with events := answer.events }

/-- Run a document against its endpoint and print the answer. -/
def runDocument {m : Type → Type} [Monad m] (world : World m) (path : String)
    (options : RunOptions) (document : Json) : m Report := do
  let settings := options.settings
  match Client.ofUrl settings.endpoint with
  | .error fault => return Report.failure [] { message := fault.message }
  | .ok client =>
    let announcement := "Running " ++ path ++ " against " ++ client.endpoint.url
    let answer ← settings.transform (client.execute (world.exchange options.timeout?)) document
    return answerReport path options announcement answer

/-- Carry out a command. -/
def perform {m : Type → Type} [Monad m] (world : World m) : Command → m Report
  | .compile path => do
    match ← world.load path with
    | .error failure => return Report.failure [] failure
    | .ok document => return compileDocument path document
  | .run path options => do
    match ← world.load path with
    | .error failure => return Report.failure [] failure
    | .ok document => runDocument world path options document

/-- The report of a run with some arguments. -/
def run {m : Type → Type} [Monad m] (world : World m) (arguments : List String) : m Report := do
  match Usage.ofArguments arguments with
  | .command verbosity command => return { ← perform world command with verbosity }
  | .version => return Report.success versionText []
  | .help => return Report.success helpText []
  | .misuse => return { exit := 2, messages := [helpText] }

end QueryByExample.CommandLine
