import Gatehouse.Text.Lossy
import Gatehouse.Text.Pieces
import Gatehouse.Url.Host

/-!
Queries of URLs: names with values, as forms send them.
-/

namespace Gatehouse.Url.Query

/-- The text that a name or a value stands for. A plus sign is a blank. -/
def decode (cs : List Char) : List Char :=
  Text.Lossy.chars (Host.percentDecode (cs.map fun c => if c = '+' then ' ' else c))

/-- A name and its value, which is empty where none is given. -/
def pair (cs : List Char) : List Char × List Char :=
  match Text.splitOnce '=' cs with
  | some (name, value) => (decode name, decode value)
  | none => (decode cs, [])

/-- The names and values of a query in their order. -/
def pairs (query : List Char) : List (List Char × List Char) :=
  ((Text.split '&' query).filter (!·.isEmpty)).map pair

end Gatehouse.Url.Query
