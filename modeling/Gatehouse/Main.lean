import Gatehouse.Command.Report
import Gatehouse.Service.Setup

/-!
The program: it reads the command line and the environment, and starts the service that they
describe. It has no network of its own, so what it starts finds neither a database nor a cache.
-/

namespace Gatehouse

/-- The variables of the environment that are set. -/
def readVariables : IO (List (String × String)) := do
  let mut found := []
  for k in Command.Key.all do
    if let some name := k.envName? then
      if let some value ← IO.getEnv name then
        found := (name, value) :: found
  return found

/-- Reports why the program ends. -/
def quit (code : UInt32) (message : String) : IO UInt32 := do
  if code = 0 then IO.println message else IO.eprintln message
  return code

end Gatehouse

open Gatehouse in
def main (words : List String) : IO UInt32 := do
  let env ← readVariables
  match Command.parse (fun name => env.lookup name) words with
  | .error f => quit f.exitCode.toUInt32 f.message
  | .ok m =>
    match Settings.ofMatches m with
    | .error k => quit 1 ("Error: " ++ Settings.blankMessage k)
    | .ok s =>
      match Setup.start .nothing "" s with
      | .error e => quit 1 ("Error: " ++ e.message)
      | .ok _ => return 0
