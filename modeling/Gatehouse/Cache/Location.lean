import Gatehouse.Url.Basic
import Gatehouse.Url.Query

/-!
Where a cache server is found: at a URL that names a host, and perhaps the number of a database. The
end of the scheme says how the servers are arranged, and the query names more of them.
-/

namespace Gatehouse.Cache.Location

/-- How the servers behind a location are arranged. -/
inductive Arrangement where
  /-- One server, whose databases are numbered. -/
  | single
  /-- Many servers, which share one database. -/
  | cluster
  /-- Servers under the watch of others, which know them by the name of their service. -/
  | watched
  /-- A server that is reached through a file, which is not supported. -/
  | file
deriving DecidableEq, Repr

/-- The arrangement that a scheme stands for. -/
def Arrangement.ofScheme (scheme : List Char) : Arrangement :=
  if "-cluster".toList.isSuffixOf scheme then .cluster
  else if "-sentinel".toList.isSuffixOf scheme then .watched
  else if "+unix".toList.isSuffixOf scheme then .file
  else .single

/-- Whether a text is a number up to a limit, with a plus sign or without. -/
def isNumber (limit : Nat) (cs : List Char) : Bool :=
  let ds := match cs with
    | '+' :: r => r
    | r => r
  !ds.isEmpty && ds.all Char.isDigit &&
    ds.foldl (fun n c => n * 10 + (c.toNat - '0'.toNat)) 0 ≤ limit

/-- Whether a path is empty or the number of a database. -/
def isDatabase : List (List Char) → Bool
  | [] | [[]] => true
  | [s] => isNumber 255 s
  | _ => false

/-- Whether a text is the name of a further server: a host and a port. -/
def isServer (cs : List Char) : Bool :=
  match Text.split ':' cs with
  | [_, port] => isNumber 65535 port
  | _ => false

/-- The values that a query gives a name. -/
def values (name : String) (u : Url) : List (List Char) :=
  (Url.Query.pairs u.query).filterMap fun p => if p.1 = name.toList then some p.2 else none

/-- Whether the query of a location names servers only. -/
def namesServers (u : Url) : Bool := (values "node" u).all isServer

/-- Whether the query of a location names the service that is watched. -/
def namesService (u : Url) : Bool := !(values "sentinelServiceName" u).isEmpty

/-- Whether the user and the password of a location are text. -/
def hasLogin (u : Url) : Bool :=
  [u.user, u.password].all fun cs => (Bytes.ofUtf8? (Url.Host.percentDecode cs)).isSome

/-- Whether a location is what an arrangement needs. -/
def Arrangement.admits (a : Arrangement) (u : Url) : Bool :=
  match a with
  | .single => isDatabase u.path && hasLogin u
  | .cluster => namesServers u && hasLogin u
  | .watched => namesServers u && namesService u && isDatabase u.path && hasLogin u
  | .file => false

/-- Whether a text is the location of a cache server. -/
def isValid (s : String) : Bool :=
  match Url.parse? s with
  | some u => (Arrangement.ofScheme u.scheme).admits u
  | none => false

end Gatehouse.Cache.Location
