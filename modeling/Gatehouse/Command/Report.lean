import Gatehouse.About
import Gatehouse.Command.Line

/-!
What the program tells its user when it does not start: help, its version, or what is wrong with the
command line.
-/

namespace Gatehouse.Command

/-- What an option is for. -/
def Key.purpose : Key → String
  | .port => "Port to listen on"
  | .dsn => "Database connection string"
  | .maxConnections => "Maximum open connections in the pool"
  | .maxIdle => "Close pooled connections idle longer than this"
  | .queryTimeout => "Upper bound for a single query"
  | .tokenSecret => "HMAC secret used to sign bearer tokens"
  | .tokenIssuer => "Service name used as bearer token issuer and audience"
  | .tokenTtl => "Bearer token lifetime in seconds"
  | .invitationTtl => "Activation invitation lifetime in seconds"
  | .operatorName => "Operator username for basic-auth routes"
  | .operatorPassword => "Operator password for basic-auth routes"
  | .cacheUrl => "Redis URL for the principal cache (cache disabled when unset)"
  | .cachePoolSize => "Number of Redis connections"
  | .cacheTtl => "Lifetime of cached principals in seconds"
  | .cacheTimeout => "Upper bound for a single cache call in milliseconds"
  | .cacheStrict => "Fail requests on cache errors instead of falling back to the database"
  | .limitRequests => "Requests admitted per client and window"
  | .limitWindow => "Rate limit window in seconds"
  | .limitDisabled => "Admit every request"
  | .verbosity => "Verbosity level: ERROR, WARN, INFO, DEBUG, TRACE (default: ERROR)"
  | .help => "Print help"
  | .version => "Print version"

/-- The line of the help page about an option. -/
def Key.helpLine (k : Key) : String :=
  let short := match k.short? with
    | some c => "-" ++ String.singleton c ++ ", "
    | none => "    "
  let env := match k.envName? with
    | some v => " [env: " ++ v ++ "]"
    | none => ""
  "  " ++ short ++ k.shown ++ "  " ++ k.purpose ++ env

/-- The help page. -/
def helpPage : String :=
  "\n".intercalate (["Social backend API", "", "Usage: " ++ About.name ++ " [OPTIONS]", "", "Options:"]
    ++ Key.all.map Key.helpLine)

namespace Fault

/-- The exit code of the program: zero if the user got what was asked for. -/
def exitCode : Fault → UInt8
  | .help | .version => 0
  | _ => 2

/-- The text that the user is shown. -/
def message : Fault → String
  | .help => helpPage
  | .version => About.name ++ " " ++ About.version
  | .unknown word => "error: unexpected argument '" ++ word ++ "' found"
  | .surplus k extra => "error: unexpected value '" ++ extra ++ "' for '" ++ k.shown ++ "' found"
  | .noValue k => "error: a value is required for '" ++ k.shown ++ "' but none was supplied"
  | .repeated k => "error: the argument '" ++ k.shown ++ "' cannot be used multiple times"
  | .value k text f =>
    "error: invalid value '" ++ text ++ "' for '" ++ k.shown ++ "': " ++ f.message
  | .missing ks =>
    "error: the following required arguments were not provided: " ++
      ", ".intercalate (ks.map Key.shown)

end Fault
end Gatehouse.Command
