import Gatehouse.Text.Blank
import Gatehouse.Text.Bytes
import Gatehouse.Text.Pieces

/-!
Header fields of requests.

Names are compared without regard to case, and of several fields of one name the first is read. A
value is a string of bytes without control characters other than the tab; only printable ASCII and
tabs count as text.
-/

namespace Gatehouse.Http

/-- The characters of names, methods and media types. -/
def isTokenChar (b : UInt8) : Bool :=
  let c := Char.ofNat b.toNat
  c.isAlphanum || "!#$%&'*+-.^_|~".toList.contains c || b == 0x60

/-- Whether a byte string is a token: one character at least, and token characters only. -/
def isToken (b : Bytes) : Bool :=
  !b.isEmpty && b.all isTokenChar

/-- Header fields, first one first. Names are small letters. -/
abbrev Headers := List (String × Bytes)

/-- Whether a byte string can be the value of a header field. -/
def isHeaderValue (b : Bytes) : Bool :=
  b.all fun x => (x ≥ 0x20 && x != 0x7f) || x == 0x09

/-- Header fields with the given names and values, if they are well-formed. -/
def Headers.ofList? (fields : List (String × Bytes)) : Option Headers :=
  if fields.all fun f => isToken (Bytes.utf8 f.1) && isHeaderValue f.2 then
    some (fields.map fun f => (Text.lowerAscii f.1, f.2))
  else none

/-- The value of the first field with a name. -/
def Headers.first? (h : Headers) (name : String) : Option Bytes :=
  h.lookup name

/-- The text of a header value, if it is text. -/
def headerText? (b : Bytes) : Option (List Char) :=
  if b.all fun x => (x ≥ 0x20 && x ≤ 0x7e) || x == 0x09 then some (Bytes.toChars b) else none

end Gatehouse.Http
