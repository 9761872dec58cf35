import QueryByExample.Hostname.Direction
import QueryByExample.Hostname.Joiner
import QueryByExample.Hostname.Letters
import QueryByExample.Hostname.Punycode
import QueryByExample.Text.NormalForm
/-!
# Labels of host names

A label that starts with `xn--` stands for a text beyond ASCII in Punycode. Host names are kept in
ASCII, but such a label must stand for a text that a name may hold.

## Main definitions

- `Hostname.labelText?`: the text of a label.
- `Hostname.isValid`: do the labels of a host stand for texts?
-/

namespace QueryByExample.Hostname

/-- What follows the mark of a label in Punycode. -/
def coded? : List Char → Option (List Char)
  | 'x' :: 'n' :: '-' :: '-' :: coded => some coded
  | _ => none

/-- The most characters of a label in Punycode that are decoded. -/
def longestCoded : Nat := 2000

/-- The most characters that a label in Punycode may stand for. -/
def longestText : Nat := 1000

/-- May a label stand for a text? -/
def isLabelText (text : List Char) : Bool :=
  text.length ≤ longestText && text.all isLetter && Text.isComposed text &&
    !(text.head?.any Text.isMark) && (coded? text).isNone && joinersFit [] text

/-- The text of a label in lower case. One in Punycode ends in the number of a character beyond
ASCII, and so not in a hyphen. -/
def labelText? (label : List Char) : Option (List Char) :=
  match coded? label with
  | none => some label
  | some coded =>
    if coded.getLast? = none ∨ coded.getLast? = some '-' ∨ longestCoded < coded.length then none
    else (Punycode.decode? coded).filter isLabelText

/-- Do the labels of a host in lower case stand for texts? If one of them holds characters that are
written from right to left, each is in one direction. -/
def isValid (host : List Char) : Bool :=
  match (Text.segments '.' host).mapM labelText? with
  | none => false
  | some texts => !texts.any holdsRightToLeft || texts.all isInOneDirection

end QueryByExample.Hostname
