import Gatehouse.Http.Header

/-!
Media types, as far as they tell whether a body is JSON.

A media type is a type, a slash and a subtype, and parameters behind semicolons. What follows the
last plus sign of a subtype is its suffix, unless the plus sign comes first.
-/

namespace Gatehouse.Http.MediaType

/-- Whether a character may stand in a token. -/
def isTokenCharacter (c : Char) : Bool := isTokenChar (Bytes.byte c)

/-- What follows a parameter in quotes: blanks, and the next parameter behind a semicolon. -/
def afterQuoted : List Char → Option (List Char)
  | [] => some []
  | ' ' :: r => afterQuoted r
  | ';' :: r => some r
  | _ :: _ => none

/-- Whether a character may stand inside of quotes. -/
def isQuotable (c : Char) : Bool := ' ' ≤ c && c != '\x7f'

/-- What follows a value in quotes, from its first character on. The value has one character at
least, and that may even be a quote; no character protects another one. -/
def skipQuoted (first : Bool) : List Char → Option (List Char)
  | [] => none
  | c :: r =>
    if c == '"' && !first then afterQuoted r
    else if isQuotable c then skipQuoted false r
    else none

/-- What follows the value of a parameter. -/
def skipValue (cs : List Char) : Option (List Char) :=
  match cs with
  | '"' :: r => skipQuoted true r
  | _ =>
    match cs.dropWhile isTokenCharacter with
    | [] => some []
    | ';' :: r => if cs.head? == some ';' then none else some r
    | _ => none

/-- What follows a parameter. -/
def skipParameter (cs : List Char) : Option (List Char) :=
  match cs.dropWhile isTokenCharacter with
  | '=' :: r => if cs.head? == some '=' then none else skipValue r
  | _ => none

/-- Whether a text is a list of parameters. Each of them takes one character at least, so the length
of the text is fuel enough. -/
def areParameters : Nat → List Char → Bool
  | 0, cs => cs.isEmpty
  | fuel + 1, cs =>
    match cs.dropWhile (· == ' ') with
    | [] => true
    | c :: r =>
      match skipParameter (c :: r) with
      | some rest => areParameters fuel rest
      | none => false

/-- A subtype without its suffix, and the suffix. -/
def splitSuffix (subtype : List Char) : List Char × Option (List Char) :=
  let rev := subtype.reverse
  match rev.dropWhile (· != '+') with
  | '+' :: front =>
    if front.isEmpty then (subtype, none)
    else (front.reverse, some (rev.takeWhile (· != '+')).reverse)
  | _ => (subtype, none)

/-- Whether a text names the type of JSON bodies: `application` with the subtype or the suffix
`json`, in whatever case. -/
def isJsonText (cs : List Char) : Bool :=
  let kind := cs.takeWhile isTokenCharacter
  match cs.drop kind.length with
  | '/' :: r =>
    let subtype := r.takeWhile isTokenCharacter
    let parameters := match r.drop subtype.length with
      | [] => true
      | ';' :: ps => areParameters ps.length ps
      | _ => false
    let (front, suffix) := splitSuffix (subtype.map Char.toLower)
    parameters && kind.map Char.toLower == "application".toList &&
      (front == "json".toList || suffix == some "json".toList)
  | _ => false

/-- Whether a request says that its body is JSON. -/
def isJson (h : Headers) : Bool :=
  match (h.first? "content-type").bind headerText? with
  | some cs => isJsonText cs
  | none => false

end Gatehouse.Http.MediaType
