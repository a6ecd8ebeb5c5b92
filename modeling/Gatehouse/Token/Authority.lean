import Gatehouse.Digest.Sha256
import Gatehouse.Text.Base64
import Gatehouse.Text.Pieces
import Gatehouse.Token.Claims

/-!
Issuing bearer tokens and checking them.

A token is three segments joined by dots: the header, the claims, and the HMAC of the first two
under the key of the authority, all in canonical unpadded base64url. A token is accepted only if its
third segment is exactly the one that its first two call for.
-/

namespace Gatehouse.Token

/-- Whoever issues tokens and accepts them: a key that is not empty, the name of the service, and how
long tokens hold. -/
structure Authority where
  key : Bytes
  service : String
  ttl : Duration
  key_ne_nil : key ≠ []

namespace Authority

/-- The authority with a secret text for its key. -/
def make (secret : String) (service : String) (ttl : Duration) : Except Error Authority :=
  if h : Bytes.utf8 secret ≠ [] then .ok ⟨Bytes.utf8 secret, service, ttl, h⟩
  else .error .invalidKey

/-- A record as a segment of a token. -/
def segment {α : Type} (shape : Json.Shape α) (a : α) : List Char :=
  Text.Base64.url.encodeChars (shape.encode a)

/-- The record that a segment holds. -/
def readSegment {α : Type} (shape : Json.Shape α) (cs : List Char) : Except Error α :=
  match Text.Base64.url.decodeChars? cs with
  | none => .error .malformed
  | some b =>
    match shape.decode b with
    | .ok a => .ok a
    | .error _ => .error .malformed

variable (auth : Authority)

/-- The code over the first two segments of a token. -/
def code (header claims : List Char) : Bytes :=
  Digest.Sha256.hmac auth.key (Bytes.utf8 (String.ofList (header ++ '.' :: claims)))

/-- The token that states the given claims. -/
def generate (c : Claims) : String :=
  let header := segment Header.shape Header.issued
  let claims := segment Claims.shape c
  String.ofList (header ++ '.' :: claims ++ '.' ::
    Text.Base64.url.encodeChars (auth.code header claims))

/-- Whether the third segment of a token is the code over the first two. -/
def signed (header claims signature : List Char) : Bool :=
  Text.Base64.url.decodeChars? signature == some (auth.code header claims)

/-- The claims of a token, if it is accepted at an instant in seconds from 1970. The signature is
checked before the claims are read. -/
def validate (token : String) (now : Int64) : Except Error Claims :=
  match Text.split '.' token.toList with
  | [header, claims, signature] =>
    match readSegment Header.shape header with
    | .error e => .error e
    | .ok h =>
      if h.alg ≠ Header.algorithm then .error .invalidSignature
      else if !auth.signed header claims signature then .error .invalidSignature
      else match readSegment Claims.shape claims with
        | .error e => .error e
        | .ok c => c.check auth.service now
  | _ => .error .malformed

/-- The sum of an instant and the whole seconds of a span. Neither a span nor a sum grows beyond the
largest number of 64 bits. -/
def expiry (now : Int64) (ttl : Duration) : Int64 :=
  let largest := Int64.maxValue.toInt
  Int64.ofInt (min (now.toInt + min (ttl.secs : Int) largest) largest)

/-- The claims of a token for a user that is issued at an instant. -/
def claimsFor (userId : Int64) (now : Int64) : Claims :=
  ⟨userId, now, now, expiry now auth.ttl, auth.service, auth.service⟩

/-- The token for a user that is issued at an instant. -/
def issueFor (userId : Int64) (now : Int64) : String :=
  auth.generate (auth.claimsFor userId now)

end Authority
end Gatehouse.Token
