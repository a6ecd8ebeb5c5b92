import Gatehouse.Text.Blank

/-!
How much is logged: nothing but errors, or everything from a level on.
-/

namespace Gatehouse.Telemetry

/-- The levels that a verbosity can ask for. -/
inductive Level where
  | warn
  | info
  | debug
  | trace
deriving DecidableEq, Repr

def Level.name : Level → String
  | .warn => "WARN"
  | .info => "INFO"
  | .debug => "DEBUG"
  | .trace => "TRACE"

/-- The level for a verbosity. At zero there is none. -/
def Level.ofVerbosity? : Nat → Option Level
  | 0 => none
  | 1 => some .warn
  | 2 => some .info
  | 3 => some .debug
  | _ => some .trace

/-- The verbosity that a word in small letters asks for. -/
def verbosityOf? : String → Option Nat
  | "error" => some 0
  | "warn" => some 1
  | "info" => some 2
  | "debug" => some 3
  | "trace" => some 4
  | _ => none

end Gatehouse.Telemetry
