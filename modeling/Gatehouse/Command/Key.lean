import Gatehouse.Command.Number
import Gatehouse.Telemetry.Level

/-!
The options of the command line.

Every option has a long name; some have a short one, and all but the two that only inform can be set
by a variable of the environment. The order of the options is the order in which variables are read
and in which missing options are named.
-/

namespace Gatehouse.Command

/-- An option. -/
inductive Key where
  | port
  | dsn
  | maxConnections
  | maxIdle
  | queryTimeout
  | tokenSecret
  | tokenIssuer
  | tokenTtl
  | invitationTtl
  | operatorName
  | operatorPassword
  | cacheUrl
  | cachePoolSize
  | cacheTtl
  | cacheTimeout
  | cacheStrict
  | limitRequests
  | limitWindow
  | limitDisabled
  | verbosity
  | help
  | version
deriving DecidableEq, Repr

/-- What an option takes. A switch and a counter take nothing on the command line, and a value in the
environment. -/
inductive Kind where
  | text
  | number (range : Range)
  | switch
  | counter
  | help
  | version
deriving DecidableEq, Repr

namespace Key

/-- The options in their order. -/
def all : List Key :=
  [.port, .dsn, .maxConnections, .maxIdle, .queryTimeout, .tokenSecret, .tokenIssuer, .tokenTtl,
   .invitationTtl, .operatorName, .operatorPassword, .cacheUrl, .cachePoolSize, .cacheTtl,
   .cacheTimeout, .cacheStrict, .limitRequests, .limitWindow, .limitDisabled, .verbosity, .help,
   .version]

/-- The long name, which two minus signs precede. -/
def long : Key → String
  | .port => "port"
  | .dsn => "dsn"
  | .maxConnections => "db-max-connections"
  | .maxIdle => "db-max-idle-seconds"
  | .queryTimeout => "db-query-timeout-seconds"
  | .tokenSecret => "token-secret"
  | .tokenIssuer => "token-issuer"
  | .tokenTtl => "token-ttl-seconds"
  | .invitationTtl => "invitation-ttl-seconds"
  | .operatorName => "basic-auth-user"
  | .operatorPassword => "basic-auth-pass"
  | .cacheUrl => "redis-url"
  | .cachePoolSize => "redis-pool-size"
  | .cacheTtl => "cache-ttl-seconds"
  | .cacheTimeout => "cache-timeout-millis"
  | .cacheStrict => "cache-strict"
  | .limitRequests => "rate-limit-requests"
  | .limitWindow => "rate-limit-window-seconds"
  | .limitDisabled => "rate-limit-disabled"
  | .verbosity => "verbose"
  | .help => "help"
  | .version => "version"

/-- The short name, which one minus sign precedes. -/
def short? : Key → Option Char
  | .port => some 'p'
  | .dsn => some 'd'
  | .verbosity => some 'v'
  | .help => some 'h'
  | .version => some 'V'
  | _ => none

/-- The longest life of a token or an invitation: one year. -/
def maxTtl : Nat := 31536000

/-- The numbers of 32 bits without zero. -/
def positive32 : Range := .signed 1 4294967295

def kind : Key → Kind
  | .port => .number (.signed 0 65535)
  | .maxConnections | .limitRequests => .number positive32
  | .maxIdle | .cachePoolSize => .number .anyUnsigned
  | .queryTimeout | .cacheTtl | .cacheTimeout | .limitWindow => .number (.unsigned 1 none)
  | .tokenTtl | .invitationTtl => .number (.unsigned 1 (some maxTtl))
  | .dsn | .tokenSecret | .tokenIssuer | .operatorName | .operatorPassword | .cacheUrl => .text
  | .cacheStrict | .limitDisabled => .switch
  | .verbosity => .counter
  | .help => .help
  | .version => .version

/-- Whether the command line or the environment has to set an option. -/
def isRequired : Key → Bool
  | .dsn | .tokenSecret | .operatorPassword => true
  | _ => false

/-- The name of a variable: that of the service, and the long name in capitals. -/
def envNameFor (long : String) : String :=
  "AGORA_" ++ String.ofList (long.toList.map fun c => if c = '-' then '_' else c.toUpper)

/-- The variable of the environment that sets an option. -/
def envName? : Key → Option String
  | .verbosity => some "AGORA_LOG_LEVEL"
  | .help | .version => none
  | k => some (envNameFor k.long)

/-- Whether a value follows an option on the command line. -/
def takesValue (k : Key) : Bool :=
  match k.kind with
  | .text | .number _ => true
  | _ => false

/-- An option, as it is shown. -/
def shown (k : Key) : String :=
  match k.kind with
  | .text | .number _ => "--" ++ k.long ++ " <" ++ k.long ++ ">"
  | .counter => "--" ++ k.long ++ "..."
  | _ => "--" ++ k.long

def ofLong? (name : String) : Option Key := all.find? fun k => k.long = name

def ofShort? (name : Char) : Option Key := all.find? fun k => k.short? = some name

theorem mem_all (k : Key) : k ∈ all := by cases k <;> decide

end Key

/-! ### Values -/

/-- The value of an option. -/
inductive Value where
  | text (s : String)
  | number (n : Int)
  | flag (b : Bool)
  | level (n : Nat)
deriving DecidableEq, Repr

/-- Why a value is refused. -/
inductive ValueFault where
  | number (f : NumberFault)
  | notBoolean
  | level
deriving DecidableEq, Repr

def ValueFault.message : ValueFault → String
  | .number f => f.message
  | .notBoolean => "value was not a boolean"
  | .level => "invalid log level"

/-- The words for yes and no, in small letters. -/
def yes : List String := ["y", "yes", "t", "true", "on", "1"]

def no : List String := ["n", "no", "f", "false", "off", "0"]

/-- The truth value that a word stands for, in whatever case. -/
def readFlag (text : String) : Except ValueFault Bool :=
  let word := Text.lowerAscii text
  if yes.contains word then .ok true
  else if no.contains word then .ok false
  else .error .notBoolean

/-- The verbosity that a text stands for: a number up to four, or the name of a level. -/
def readVerbosity (text : String) : Except ValueFault Nat :=
  match readNumber false 255 text with
  | .ok n => if n ≤ 4 then .ok n.toNat else .error .level
  | .error _ =>
    match Telemetry.verbosityOf? (Text.lowerAscii text) with
    | some n => .ok n
    | none => .error .level

/-- The value that a text gives an option. -/
def Key.read (k : Key) (text : String) : Except ValueFault Value :=
  match k.kind with
  | .text | .help | .version => .ok (.text text)
  | .number range =>
    match range.read text with
    | .ok n => .ok (.number n)
    | .error f => .error (.number f)
  | .switch => (readFlag text).map .flag
  | .counter => (readVerbosity text).map .level

end Gatehouse.Command
