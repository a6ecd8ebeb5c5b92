import Gatehouse.Json.Record

/-!
What a bearer token says: its header and its claims, and the reasons to refuse it.
-/

namespace Gatehouse.Token

/-- The claims of a token: whom it is for, when it was issued, from when until when it holds (in
seconds from 1970, the end excluded), who issued it and for whom. -/
structure Claims where
  sub : Int64
  iat : Int64
  nbf : Int64
  exp : Int64
  iss : String
  aud : String
deriving DecidableEq, Inhabited

/-- The header of a token. -/
structure Header where
  alg : String
  typ : String
deriving DecidableEq, Inhabited

/-- The one algorithm that is accepted: HMAC with SHA-256. -/
def Header.algorithm : String := "HS256"

/-- The header of every token that is issued. -/
def Header.issued : Header := ⟨algorithm, "JWT"⟩

/-- Claims as a record: sub, iat, nbf, exp, iss, aud. -/
def Claims.shape : Json.Shape Claims where
  slots := [⟨"sub", .int64, none, none⟩, ⟨"iat", .int64, none, none⟩, ⟨"nbf", .int64, none, none⟩,
    ⟨"exp", .int64, none, none⟩, ⟨"iss", .text, none, none⟩, ⟨"aud", .text, none, none⟩]
  data c := [.int64 c.sub, .int64 c.iat, .int64 c.nbf, .int64 c.exp, .text c.iss, .text c.aud]
  ofData?
    | [.int64 sub, .int64 iat, .int64 nbf, .int64 exp, .text iss, .text aud] =>
      some ⟨sub, iat, nbf, exp, iss, aud⟩
    | _ => none

/-- A header as a record: alg, typ. -/
def Header.shape : Json.Shape Header where
  slots := [⟨"alg", .text, none, none⟩, ⟨"typ", .text, none, none⟩]
  data h := [.text h.alg, .text h.typ]
  ofData?
    | [.text alg, .text typ] => some ⟨alg, typ⟩
    | _ => none

/-- Why a token is refused, or why none can be made. -/
inductive Error where
  | malformed
  | invalidSignature
  | expired
  | notYetValid
  | audienceMismatch
  | issuerMismatch
  | invalidKey
  | encoding (detail : String)
deriving DecidableEq, Repr

def Error.message : Error → String
  | .malformed => "malformed token"
  | .invalidSignature => "invalid signature"
  | .expired => "token expired"
  | .notYetValid => "token not valid yet"
  | .audienceMismatch => "audience mismatch"
  | .issuerMismatch => "issuer mismatch"
  | .invalidKey => "invalid signing key"
  | .encoding detail => "token could not be encoded: " ++ detail

/-- Whether claims hold at an instant for a service that is both issuer and audience. The first
reason against them counts. -/
def Claims.check (c : Claims) (service : String) (now : Int64) : Except Error Claims :=
  if now ≥ c.exp then .error .expired
  else if now < c.nbf then .error .notYetValid
  else if c.iss ≠ service then .error .issuerMismatch
  else if c.aud ≠ service then .error .audienceMismatch
  else .ok c

end Gatehouse.Token
