import QueryByExample.CommandLine.Report
import QueryByExample.Json.Draft
import QueryByExample.Text.Blank
import QueryByExample.Text.Segment
/-!
# Documents of the command line

A document comes from a file or, under the name `-`, from standard input. It is a JSON object.

## Main definitions

- `isStandardInput`: does a path name standard input?
- `Document.parse`: the document of a text.
- `Document.ofBytes`: the document of what was read.
-/

namespace QueryByExample.CommandLine

/-- Does a path name standard input? It does if it is relative and consists of a dash, apart from
empty segments and dots after it. -/
def isStandardInput (path : String) : Bool :=
  match Text.segments '/' path.toList with
  | ['-'] :: rest => rest.all fun segment => segment.isEmpty || segment == ['.']
  | _ => false

namespace Document

/-- The document of a text from `origin`. -/
def parse (origin text : String) : Except Failure Json :=
  if (Text.trimChars text.toList).isEmpty then
    .error { message := origin ++ ": expected a JSON document, got nothing" }
  else match Json.ofText? text with
    | none =>
      .error { message := origin ++ ": invalid JSON", causes := ["the text is not a JSON value"] }
    | some (.object entries) => .ok (.object entries)
    | some _ => .error { message := origin ++ ": the document must be a JSON object" }

/-- What is said of bytes that are no text. -/
def notText : String := "stream did not contain valid UTF-8"

/-- The failure to read a path for some reason. -/
def unreadable (path reason : String) : Failure :=
  if isStandardInput path then { message := "failed to read stdin: " ++ reason }
  else { message := "failed to read " ++ path, causes := [reason] }

/-- The document in what was read from a path: bytes, or the reason why there are none. -/
def ofBytes (path : String) (bytes : Except String ByteArray) : Except Failure Json :=
  match bytes with
  | .error reason => .error (unreadable path reason)
  | .ok bytes =>
    match String.fromUTF8? bytes with
    | none => .error (unreadable path notText)
    | some text => parse (if isStandardInput path then "<stdin>" else path) text

end Document

end QueryByExample.CommandLine
