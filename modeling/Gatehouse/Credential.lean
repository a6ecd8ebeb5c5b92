import Gatehouse.Http.Address
import Gatehouse.Http.Header
import Gatehouse.Text.Base64

/-!
Who sends a request: bearer tokens, the operator's password, and the key under which a client is
counted.
-/

namespace Gatehouse.Credential

open Gatehouse.Http

/-- What is wrong with the credentials of a request. -/
inductive Error where
  | missing
  | malformed
deriving DecidableEq, Repr

def Error.message : Error → String
  | .missing => "missing authorization header"
  | .malformed => "malformed authorization header"

/-- What follows the scheme and one space in the first authorization field. -/
def schemeValue (scheme : String) (h : Headers) : Except Error (List Char) :=
  match h.first? "authorization" with
  | none => .error .missing
  | some value =>
    match (headerText? value).bind (Text.splitOnce ' ') with
    | none => .error .malformed
    | some (s, rest) => if s = scheme.toList then .ok rest else .error .malformed

/-- The blanks of ASCII. -/
def isAsciiBlank (c : Char) : Bool :=
  c == ' ' || c == '\t' || c == '\n' || c == '\x0c' || c == '\r'

/-- The bearer token of a request: one space stands before it, and no blank in it or after it. -/
def bearer (h : Headers) : Except Error String :=
  match schemeValue "Bearer" h with
  | .error e => .error e
  | .ok token =>
    if token.isEmpty || token.any isAsciiBlank then .error .malformed
    else .ok (String.ofList token)

/-- A name and a password. -/
structure Basic where
  username : String
  password : String
deriving DecidableEq, Repr

/-- The name and the password of a request: base64 of the two with a colon between them. The first
colon counts, so a name has none. -/
def basic (h : Headers) : Except Error Basic :=
  match schemeValue "Basic" h with
  | .error e => .error e
  | .ok encoded =>
    let pair := do
      let bytes ← Text.Base64.standard.decodeChars? (Text.trimChars encoded)
      let text ← Bytes.ofUtf8? bytes
      Text.splitOnce ':' text.toList
    match pair with
    | none => .error .malformed
    | some (u, p) => .ok ⟨String.ofList u, String.ofList p⟩

/-- Whether the operator's name and password are presented, compared byte by byte. -/
def Basic.matches (operator presented : Basic) : Bool :=
  Bytes.utf8 operator.username == Bytes.utf8 presented.username &&
    Bytes.utf8 operator.password == Bytes.utf8 presented.password

/-- The trimmed text of a field up to its first `stop`, unless it is blank or no text. -/
def namedClient (name : String) (stop : Option Char) (h : Headers) : Option String := do
  let text ← (h.first? name).bind headerText?
  let hop := match stop with
    | some c => text.takeWhile (· != c)
    | none => text
  let hop := Text.trimChars hop
  if hop.isEmpty then none else some (String.ofList hop)

/-- The key under which a client is counted: the first hop that it was forwarded for, else the
address that a proxy names, else the address it connects from. -/
def clientKey (h : Headers) (peer : Option Address) : String :=
  match namedClient "x-forwarded-for" (some ',') h with
  | some key => key
  | none =>
    match namedClient "x-real-ip" none h with
    | some key => key
    | none => (peer.map Address.text).getD "unknown"

end Gatehouse.Credential
