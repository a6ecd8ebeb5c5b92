import Gatehouse.Text.Blank

/-!
The address of the collector that traces are sent to, brought into one form: a scheme, no blanks
around it and no slash at its end.
-/

namespace Gatehouse.Telemetry.Endpoint

/-- Where traces go when nothing else is said. -/
def fallback : String :=
  "http://localhost:4317"

/-- Whether an address names one of the two schemes that are understood. -/
def hasScheme (cs : List Char) : Bool :=
  "http://".toList.isPrefixOf cs || "https://".toList.isPrefixOf cs

/-- The normal form of an address: blanks around it and slashes after it go, nothing at all means the
local collector, and an address without a scheme is taken as plain HTTP. -/
def normalize (address : String) : String :=
  let cs := Text.dropEndWhile (· == '/') (Text.trimChars address.toList)
  if cs.isEmpty then fallback
  else if hasScheme cs then String.ofList cs
  else "http://" ++ String.ofList cs

end Gatehouse.Telemetry.Endpoint
