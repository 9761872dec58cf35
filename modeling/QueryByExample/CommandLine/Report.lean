import QueryByExample.Event
/-!
# Reports of the command line

What a run of the command line leaves behind: an exit status, its output, and messages beside it.

## Main definitions

- `Failure`, `Failure.text`: an error with its causes, and its text.
- `Report`: the result of a run.
-/

namespace QueryByExample.CommandLine

/-- An error and what caused it, the nearest cause first. -/
structure Failure where
  message : String
  causes : List String := []
  deriving DecidableEq

namespace Failure

/-- Put a failure into its context. -/
def within (context : String) (failure : Failure) : Failure :=
  ⟨context, failure.message :: failure.causes⟩

/-- A text with some characters before its first line and others before every further line. -/
def indent (first further text : String) : String :=
  first ++ String.ofList
    (text.toList.flatMap fun c => if c = '\n' then c :: further.toList else [c])

/-- A cause with its number, flush right in five columns. -/
def numbered (cause : String × Nat) : String :=
  let number := toString cause.2
  let padding := String.ofList (List.replicate (5 - number.length) ' ')
  indent (padding ++ number ++ ": ") "       " cause.1

/-- The lines of the causes; a single one has no number. -/
def causeLines : List String → List String
  | [] => []
  | [cause] => ["", "Caused by:", indent "    " "    " cause]
  | causes => "" :: "Caused by:" :: causes.zipIdx.map numbered

/-- The text of a failure. -/
def text (failure : Failure) : String :=
  "\n".intercalate (("Error: " ++ failure.message) :: causeLines failure.causes)

end Failure

/-- The result of a run. -/
structure Report where
  exit : Nat
  output : String := ""
  messages : List String := []
  events : List Event := []
  verbosity : Nat := 0

namespace Report

/-- A run that went well. -/
def success (output : String) (messages : List String) : Report :=
  { exit := 0, output, messages }

/-- A run that failed after some messages. -/
def failure (messages : List String) (failure : Failure) : Report :=
  { exit := 1, messages := messages ++ [failure.text] }

end Report

end QueryByExample.CommandLine
