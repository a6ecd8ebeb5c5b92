import Gatehouse.Text.Bytes

/-!
Targets of requests, and the path that a target names.

A target is a path, which may be followed by a query, a star, the name of a host, or a scheme and a
host in front of a path. Queries and what stands behind a hash sign have no say in anything.
Characters are bytes throughout.
-/

namespace Gatehouse.Http.Target

/-- The longest target. -/
def maxLength : Nat := 65534

/-- The longest name of a scheme. -/
def maxScheme : Nat := 64

/-- Whether a character is no blank and no control character. -/
def isVisible (c : Char) : Bool := ' ' < c && c != '\x7f'

/-- Whether a character may stand in a path: all visible ones but three. -/
def isPathChar (c : Char) : Bool := isVisible c && c != '<' && c != '>' && c != '\x60'

/-- Whether a character may stand in a query. -/
def isQueryChar (c : Char) : Bool := isVisible c && c != '<' && c != '>' && c != '"'

/-- Whether a character may stand in the name of a scheme. -/
def isSchemeChar (c : Char) : Bool :=
  c.isAlphanum || c == '+' || c == '-' || c == '.' || c == '~'

/-- Whether a character may stand in the name of a host and in what precedes it. -/
def isHostChar (c : Char) : Bool := c.isAlphanum || "!$%&'()*+,-.:;=@[]_~".toList.contains c

/-- Whether a character ends the name of a host. -/
def endsHost (c : Char) : Bool := c == '/' || c == '?' || c == '#'

/-- The path at the start of a target, if what follows it is well-formed too. -/
def path? (cs : List Char) : Option (List Char) :=
  let path := cs.takeWhile fun c => c != '?' && c != '#'
  let query := match cs.dropWhile fun c => c != '?' && c != '#' with
    | '?' :: r => r.takeWhile (· != '#')
    | _ => []
  if path.all isPathChar && query.all isQueryChar then some path else none

/-! ### Hosts -/

/-- What is remembered of a host while it is read: the colons since the last bracket or at sign,
whether brackets were opened and closed, whether a percent sign is pending, and whether an at sign
was the last character. -/
structure HostScan where
  colons : Nat
  opened : Bool
  closed : Bool
  percent : Bool
  atEnd : Bool
deriving DecidableEq, Repr

/-- One more character of a host. Colons and percent signs in front of an at sign, or inside of
brackets, do not count. -/
def HostScan.step (h : HostScan) (c : Char) : Option HostScan :=
  let h := { h with atEnd := c == '@' }
  match c with
  | ':' => if h.colons ≥ 8 then none else some { h with colons := h.colons + 1 }
  | '[' => if h.percent || h.opened then none else some { h with opened := true }
  | ']' =>
    if !h.opened || h.closed then none
    else some { h with closed := true, colons := 0, percent := false }
  | '@' => some { h with colons := 0, percent := false }
  | '%' => some { h with percent := true }
  | _ => if isHostChar c then some h else none

/-- Whether a text is the name of a host, which may have a user in front and a port behind it. -/
def isHost (cs : List Char) : Bool :=
  match cs.foldlM HostScan.step ⟨0, false, false, false, false⟩ with
  | none => false
  | some h => h.opened == h.closed && h.colons ≤ 1 && !h.atEnd && !h.percent

/-- What stands behind a scheme and `://`, and how long the scheme is. -/
def splitScheme (cs : List Char) : Option (Nat × List Char) :=
  match cs.dropWhile isSchemeChar with
  | ':' :: '/' :: '/' :: r =>
    if cs.length > 3 then some ((cs.takeWhile isSchemeChar).length, r) else none
  | _ => none

/-- The path behind a host. Without one, a host is asked for its root. -/
def pathBehindHost? (cs : List Char) : Option (List Char) :=
  let host := cs.takeWhile fun c => !endsHost c
  if host.isEmpty || !isHost host then none
  else (path? (cs.drop host.length)).map fun p => if p.isEmpty then ['/'] else p

/-- The path that a target names, if the target is well-formed. A mere host names no path. -/
def pathOf? (target : Bytes) : Option (List Char) :=
  let cs := Bytes.toChars target
  if cs.isEmpty || cs.length > maxLength then none
  else if cs.head? == some '/' then path? cs
  else if cs == ['*'] then some cs
  else match splitScheme cs with
    | some (n, r) => if n > maxScheme then none else pathBehindHost? r
    | none => if isHost cs then some [] else none

end Gatehouse.Http.Target
