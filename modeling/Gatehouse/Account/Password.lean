import Gatehouse.Digest.Argon2
import Gatehouse.Text.Base64
import Gatehouse.Text.Pieces

/-!
Stored passwords.

A password is kept as a record: fields behind dollar signs that name the algorithm, its version and
parameters, the salt and the tag. A record says all that is needed to check a password against it.
-/

namespace Gatehouse.Password

open Digest.Argon2 (Variant Version Cost Input)

/-! ### Records -/

/-- The fields of a record. All but the algorithm may be missing. -/
structure Record where
  algorithm : String
  version : Option Nat
  params : List (String × String)
  salt : Option String
  output : Option Bytes
deriving DecidableEq, Repr

/-- The characters of names: small letters, digits and the minus sign. -/
def isNameChar (c : Char) : Bool :=
  ('a' ≤ c && c ≤ 'z') || c.isDigit || c == '-'

/-- Whether a text can name an algorithm or a parameter. -/
def isName (cs : List Char) : Bool :=
  !cs.isEmpty && cs.length ≤ 32 && cs.all isNameChar

/-- The characters of parameter values and salts. -/
def isValueChar (c : Char) : Bool :=
  c.isAlphanum || c == '/' || c == '+' || c == '.' || c == '-'

/-- Whether a text can be the value of a parameter. -/
def isValue (cs : List Char) : Bool :=
  cs.length ≤ 64 && cs.all isValueChar

/-- The number of 32 bits that digits spell, without zeros in front. -/
def decimal? (cs : List Char) : Option Nat :=
  if cs.isEmpty || !cs.all Char.isDigit || (cs.length > 1 && cs.head? == some '0') then none
  else
    let n := cs.foldl (fun n c => n * 10 + (c.toNat - '0'.toNat)) 0
    if n < 0x100000000 then some n else none

/-- A parameter: a name, an equals sign, a value. -/
def param? (cs : List Char) : Option (String × String) :=
  match Text.split '=' cs with
  | [name, value] =>
    if isName name && isValue value then some (String.ofList name, String.ofList value) else none
  | _ => none

/-- Parameters with commas between them. -/
def params? (cs : List Char) : Option (List (String × String)) :=
  if cs.length > 127 then none else (Text.split ',' cs).mapM param?

/-- A salt in its written form. -/
def salt? (cs : List Char) : Option String :=
  if 4 ≤ cs.length && cs.length ≤ 64 && cs.all isValueChar then some (String.ofList cs) else none

/-- A tag of ten to 64 bytes. -/
def output? (cs : List Char) : Option Bytes := do
  let b ← Text.Base64.bare.decodeChars? cs
  if 10 ≤ b.length && b.length ≤ 64 then some b else none

/-- The version, if the next field states one, and the fields after it. -/
def takeVersion : List (List Char) → Option (Option Nat × List (List Char))
  | ('v' :: '=' :: v) :: fields =>
    if v.contains ',' then some (none, ('v' :: '=' :: v) :: fields)
    else if isValue v then (decimal? v).map fun n => (some n, fields)
    else none
  | fields => some (none, fields)

/-- The parameters, if the next field states some, and the fields after it. -/
def takeParams : List (List Char) → Option (List (String × String) × List (List Char))
  | field :: fields =>
    if field.contains '=' then (params? field).map fun ps => (ps, fields)
    else some ([], field :: fields)
  | [] => some ([], [])

/-- The salt and the tag, if there are any; nothing may follow them. -/
def takeSalt : List (List Char) → Option (Option String × Option Bytes)
  | [] => some (none, none)
  | [s] => (salt? s).map fun s => (some s, none)
  | [s, o] => do return (some (← salt? s), some (← output? o))
  | _ => none

/-- The record that a text holds. -/
def parse? (s : String) : Option Record :=
  match Text.split '$' s.toList with
  | [] :: algorithm :: fields => do
    guard (isName algorithm)
    let (version, fields) ← takeVersion fields
    let (params, fields) ← takeParams fields
    let (salt, output) ← takeSalt fields
    return ⟨String.ofList algorithm, version, params, salt, output⟩
  | _ => none

/-- The text of a parameter. -/
def paramText (p : String × String) : String := p.1 ++ "=" ++ p.2

/-- The text of a record. -/
def Record.text (r : Record) : String :=
  let version := match r.version with | some v => ["v=" ++ toString v] | none => []
  let params := if r.params.isEmpty then [] else [",".intercalate (r.params.map paramText)]
  let salt := r.salt.toList
  let output := (r.output.map Text.Base64.bare.encode).toList
  String.join ((r.algorithm :: version ++ params ++ salt ++ output).map ("$" ++ ·))

/-! ### What a record demands -/

/-- What hashing costs unless a record says otherwise. -/
def defaultCost : Cost := ⟨19456, 2, 1⟩

def algorithmName : Variant → String
  | .d => "argon2d"
  | .i => "argon2i"
  | .id => "argon2id"

def variant? (s : String) : Option Variant :=
  [Variant.d, .i, .id].find? fun v => algorithmName v == s

def version? : Option Nat → Option Version
  | none => some .v19
  | some n => [Version.v16, .v19].find? fun v => v.number == n

/-- The parameters that a hash depends on. -/
structure Params where
  cost : Cost
  associated : Bytes
deriving DecidableEq, Repr

/-- One more parameter of a record. A key's name is checked and has no effect. -/
def Params.set (p : Params) (nv : String × String) : Option Params :=
  let bytes (limit : Nat) := do
    let b ← Text.Base64.bare.decode? nv.2
    if b.length ≤ limit then some b else none
  match nv.1 with
  | "m" => (decimal? nv.2.toList).map fun n => { p with cost := { p.cost with memory := n } }
  | "t" => (decimal? nv.2.toList).map fun n => { p with cost := { p.cost with passes := n } }
  | "p" => (decimal? nv.2.toList).map fun n => { p with cost := { p.cost with lanes := n } }
  | "keyid" => (bytes 8).map fun _ => p
  | "data" => (bytes 32).map fun b => { p with associated := b }
  | _ => none

/-- Whether a hash can be computed at a cost. -/
def isFeasible (c : Cost) : Bool :=
  c.memory ≥ 8 && c.memory ≥ 8 * c.lanes && c.passes ≥ 1 && c.lanes ≥ 1 && c.lanes ≤ 0xffffff

/-- What the parameters of a record amount to. -/
def Record.params? (r : Record) : Option Params := do
  let p ← r.params.foldlM Params.set ⟨defaultCost, []⟩
  if isFeasible p.cost then some p else none

/-- The hash that a record asks for, of a password. -/
def Record.input? (r : Record) (password : String) : Option Input := do
  let p ← r.params?
  let variant ← variant? r.algorithm
  let version ← version? r.version
  let salt ← r.salt.bind Text.Base64.bare.decode?
  let output ← r.output
  guard (8 ≤ salt.length)
  return ⟨variant, version, p.cost, Bytes.utf8 password, salt, p.associated, output.length⟩

/-! ### Hashing and verifying -/

/-- The record of a password under a salt. -/
def record (salt : Bytes) (password : String) : Record :=
  let cost := defaultCost
  let input : Input := ⟨.id, .v19, cost, Bytes.utf8 password, salt, [], 32⟩
  { algorithm := algorithmName .id
    version := some Version.v19.number
    params := [("m", toString cost.memory), ("t", toString cost.passes), ("p", toString cost.lanes)]
    salt := some (Text.Base64.bare.encode salt)
    output := some input.tag }

/-- The text under which a password is stored, given a salt of 16 bytes. -/
def hash (salt : Bytes) (password : String) : String :=
  (record salt password).text

/-- Whether a password is the one of a stored text. A text that is no record has none. -/
def verify (password stored : String) : Bool :=
  match parse? stored with
  | none => false
  | some r =>
    match r.input? password with
    | none => false
    | some input => r.output == some input.tag

/-- The text that stands in for the stored one when there is no account. -/
def decoy (salt : Bytes) : String := hash salt "agora-decoy-credential"

/-- Holds a password against the decoy, which takes as long as holding it against the text of an account. Whatever
comes of that, it is never the right one, so that it does not matter under which salt the decoy was made. -/
def verifyDecoy (password : String) : Bool :=
  let _held := verify password (decoy (List.replicate 16 0))
  false

end Gatehouse.Password
