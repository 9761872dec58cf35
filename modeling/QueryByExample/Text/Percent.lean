import QueryByExample.Text.Hexadecimal
/-!
# Percent encoding

Bytes of text as `%` and two hexadecimal digits, for the two forms of text that need it: the parts
of URLs and the fields of forms.

## Main definitions

- `Text.percentEncode`: a text in which the characters of a class are encoded.
- `Text.formEncode`: a text as it stands in the fields of a form.
- `Text.percentDecode`: the bytes that an encoded text stands for.
-/

namespace QueryByExample.Text

/-- A byte in percent encoding. -/
def percentByte (byte : UInt8) : List Char :=
  ['%', hexDigit 'A' (byte.toNat / 16), hexDigit 'A' (byte.toNat % 16)]

/-- The bytes of a character in percent encoding. -/
def percentChar (c : Char) : List Char := (String.utf8EncodeChar c).flatMap percentByte

/-- A text in which the characters that are not ASCII and those of a class are encoded. -/
def percentEncode (encoded : Char → Bool) (cs : List Char) : List Char :=
  cs.flatMap fun c => if 0x7E < c.toNat || c.toNat < 0x20 || encoded c then percentChar c else [c]

/-- Does a character stand for itself in a form? -/
def isPlainInForm (c : Char) : Bool :=
  ('0' ≤ c && c ≤ '9') || ('a' ≤ c && c ≤ 'z') || ('A' ≤ c && c ≤ 'Z') || c == '*' || c == '-' ||
    c == '.' || c == '_'

/-- A character in a form: a blank is a plus. -/
def formChar (c : Char) : List Char :=
  if c = ' ' then ['+'] else if isPlainInForm c then [c] else percentChar c

/-- A text as it stands in the fields of a form. -/
def formEncode (cs : List Char) : List Char := cs.flatMap formChar

/-- The bytes that an encoded text stands for. A percent sign without two digits stands for
itself. -/
def percentDecode : List Char → List UInt8
  | [] => []
  | '%' :: a :: b :: rest =>
    match hexDigitValue? a, hexDigitValue? b with
    | some high, some low => UInt8.ofNat (high * 16 + low) :: percentDecode rest
    | _, _ => 0x25 :: percentDecode (a :: b :: rest)
  | c :: rest => String.utf8EncodeChar c ++ percentDecode rest

end QueryByExample.Text
