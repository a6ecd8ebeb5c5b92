import Gatehouse.Text.Blank
import Gatehouse.Url.Host
import Gatehouse.Url.Path

/-!
URLs that name a host.

How a URL is read depends on its scheme. Schemes of the network take backslashes for slashes, and any
number of them may stand in front of the host. A file may be on a host, which then has neither a port
nor a user. All other schemes need two slashes. Blanks at both ends and tabs and line ends anywhere
do not count.
-/

namespace Gatehouse

/-- A URL that names a host. User, password and query are as they are written. -/
structure Url where
  scheme : List Char
  user : List Char
  password : List Char
  host : Url.Host
  port : Option Nat
  path : List (List Char)
  query : List Char
deriving DecidableEq, Repr

namespace Url

/-! ### Schemes -/

/-- How the URLs of a scheme are read. -/
inductive Kind where
  | network
  | file
  | other
deriving DecidableEq, Repr

/-- The schemes whose URLs name hosts on the network. -/
def networkSchemes : List String := ["http", "https", "ws", "wss", "ftp"]

def Kind.ofScheme (scheme : List Char) : Kind :=
  if networkSchemes.contains (String.ofList scheme) then .network
  else if scheme == "file".toList then .file
  else .other

/-- Whether a character separates segments of a path. -/
def Kind.isSlash (k : Kind) (c : Char) : Bool := c == '/' || (c == '\\' && k != .other)

/-- Whether a character may stand in a scheme. -/
def isSchemeChar (c : Char) : Bool := c.isAlphanum || c == '+' || c == '-' || c == '.'

/-- A scheme in small letters, and what follows its colon. -/
def splitScheme (cs : List Char) : Option (List Char × List Char) :=
  match cs.takeWhile isSchemeChar, cs.dropWhile isSchemeChar with
  | c :: scheme, ':' :: r =>
    if c.isAlpha then some ((c :: scheme).map Char.toLower, r) else none
  | _, _ => none

/-! ### Path and query -/

/-- Whether a character ends a path. -/
def endsPath (c : Char) : Bool := c == '?' || c == '#'

/-- The pieces of a text between slashes. -/
def segments (k : Kind) (cs : List Char) : List (List Char) :=
  Text.split '/' (cs.map fun c => if k.isSlash c then '/' else c)

/-- The path behind a host. On the network and in files there is always one. -/
def pathOf (k : Kind) (cs : List Char) : List (List Char) :=
  match cs.takeWhile (!endsPath ·) with
  | [] => if k = .other then [] else [[]]
  | c :: r => Path.settle [] (segments k (if k.isSlash c then r else c :: r))

/-- The query behind a path. -/
def queryOf (cs : List Char) : List Char :=
  match cs.dropWhile (!endsPath ·) with
  | '?' :: r => r.takeWhile (· != '#')
  | _ => []

/-! ### Hosts on the network and elsewhere -/

/-- What stands before and behind the last at sign; without one, nothing stands before it. -/
def splitUser (cs : List Char) : List Char × List Char :=
  let behind := (cs.reverse.takeWhile (· != '@')).reverse
  ((cs.take (cs.length - behind.length)).dropLast, behind)

/-- A name and a password with a colon between them. -/
def splitPassword (cs : List Char) : List Char × List Char :=
  (Text.splitOnce ':' cs).getD (cs, [])

/-- The text of a host, which ends at the first colon outside of brackets, and what follows it. -/
def splitHost : Bool → List Char → List Char × List Char
  | _, [] => ([], [])
  | inside, c :: r =>
    if c = ':' ∧ !inside then ([], c :: r)
    else
      let p := splitHost (c == '[' || (inside && c != ']')) r
      (c :: p.1, p.2)

/-- The port in front of a path, which may be left out behind its colon too, and what follows it. -/
def splitPort : List Char → Option (Option Nat × List Char)
  | ':' :: r =>
    let digits := r.takeWhile Char.isDigit
    let n := digits.foldl (fun n c => n * 10 + (c.toNat - '0'.toNat)) 0
    let behind := r.drop digits.length
    if n < 65536 ∧ (behind.isEmpty ∨ behind.head? = some '\\') then
      some (if digits.isEmpty then none else some n, behind)
    else none
  | cs => if cs.isEmpty then some (none, []) else none

/-- The URL of a scheme with what follows its slashes. A port may also end at a backslash. -/
def atHost? (k : Kind) (scheme cs : List Char) : Option Url := do
  let ends := fun c => k.isSlash c || endsPath c
  let (login, place) := splitUser (cs.takeWhile (!ends ·))
  let (user, password) := splitPassword login
  let (text, r) := splitHost false place
  guard !text.isEmpty
  let host ← if k = .other then Host.opaque? text else Host.onNetwork? text
  let (port, r) ← splitPort r
  let behind := r ++ cs.dropWhile (!ends ·)
  return ⟨scheme, user, password, host, port, pathOf k behind, queryOf behind⟩

/-! ### Hosts of files -/

/-- Whether a text is the letter of a drive. -/
def isDrive : List Char → Bool
  | [c, d] => c.isAlpha && (d == ':' || d == '|')
  | _ => false

/-- The URL of a file with what follows its two slashes. A file on a drive or on the local host is on
no host. -/
def ofFile? (scheme cs : List Char) : Option Url := do
  let ends := fun c => Kind.file.isSlash c || endsPath c
  let text := cs.takeWhile (!ends ·)
  let behind := cs.dropWhile (!ends ·)
  guard (!text.isEmpty && !isDrive text)
  let host ← Host.onNetwork? text
  guard (host != .name "localhost".toList)
  guard !(segments .file (behind.takeWhile (!endsPath ·))).any isDrive
  return ⟨scheme, [], [], host, none, Path.dropEmpty (pathOf .file behind), queryOf behind⟩

/-! ### Reading -/

/-- The characters of a text that count. -/
def clean (cs : List Char) : List Char :=
  (Text.dropEndWhile (· ≤ ' ') (cs.dropWhile (· ≤ ' '))).filter fun c =>
    c != '\t' && c != '\n' && c != '\r'

/-- The URL that a text is, if it is one that names a host. -/
def parse? (s : String) : Option Url := do
  let (scheme, r) ← splitScheme (clean s.toList)
  match Kind.ofScheme scheme with
  | .network => atHost? .network scheme (r.dropWhile Kind.network.isSlash)
  | .file =>
    match r with
    | a :: b :: r => if Kind.file.isSlash a && Kind.file.isSlash b then ofFile? scheme r else none
    | _ => none
  | .other =>
    match r with
    | '/' :: '/' :: r => atHost? .other scheme r
    | _ => none

end Url
end Gatehouse
