import Gatehouse.Command.Line
import Gatehouse.Credential
import Gatehouse.Limiter
import Gatehouse.Resolver

/-!
What a service is told on the command line and in the environment.

A secret that is all blanks counts as missing, and a service name or a cache address that is all
blanks as not given.
-/

namespace Gatehouse

/-- The settings of a service. -/
structure Settings where
  port : Nat
  dsn : String
  maxConnections : Nat
  maxIdle : Duration
  queryTimeout : Duration
  tokenSecret : String
  tokenIssuer : String
  tokenTtl : Duration
  invitationTtl : Duration
  operator : Credential.Basic
  cacheUrl : Option String
  cachePoolSize : Nat
  cacheTtl : Duration
  cacheTimeout : Duration
  cachePolicy : Resolver.Policy
  limiter : Limiter.Config
  verbosity : Nat
deriving DecidableEq, Repr

namespace Settings

open Command (Key Matches)

/-- The text that an option was given. -/
def text? (m : Matches) (k : Key) : Option String :=
  match m.find? k with
  | some (.text s) => some s
  | _ => none

/-- The text that an option was given, unless it is all blanks. -/
def solid? (m : Matches) (k : Key) : Option String :=
  (text? m k).filter fun s => !Text.isBlankText s

/-- The number that an option was given, or the one that it has by default. -/
def number (m : Matches) (k : Key) (byDefault : Nat) : Nat :=
  match m.find? k with
  | some (.number n) => n.toNat
  | _ => byDefault

/-- Whether a switch is on. -/
def flag (m : Matches) (k : Key) : Bool := m.find? k == some (.flag true)

/-- The text of an option that must not be blank. -/
def demand (m : Matches) (k : Key) : Except Key String :=
  match solid? m k with
  | some s => .ok s
  | none => .error k

/-- The settings that the values of options amount to, or the option that is blank. -/
def ofMatches (m : Matches) : Except Key Settings := do
  let dsn ← demand m .dsn
  let tokenSecret ← demand m .tokenSecret
  let password ← demand m .operatorPassword
  return {
    port := number m .port 8080
    dsn
    maxConnections := number m .maxConnections 30
    maxIdle := .ofSecs (number m .maxIdle 900)
    queryTimeout := .ofSecs (number m .queryTimeout 10)
    tokenSecret
    tokenIssuer := (solid? m .tokenIssuer).getD "agora-api"
    tokenTtl := .ofSecs (number m .tokenTtl 259200)
    invitationTtl := .ofSecs (number m .invitationTtl 259200)
    operator := ⟨(text? m .operatorName).getD "admin", password⟩
    cacheUrl := solid? m .cacheUrl
    cachePoolSize := number m .cachePoolSize 4
    cacheTtl := .ofSecs (number m .cacheTtl 60)
    cacheTimeout := .ofMillis (number m .cacheTimeout 2000)
    cachePolicy := if flag m .cacheStrict then .strict else .degrade
    limiter :=
      { requests := number m .limitRequests 20
        window := .ofSecs (number m .limitWindow 5)
        enabled := !flag m .limitDisabled }
    verbosity := Command.Scan.verbosity m }

/-- What is said about an option that is blank. -/
def blankMessage (k : Key) : String := "missing required argument: --" ++ k.long

end Settings
end Gatehouse
