import Gatehouse.Account.Basic
import Gatehouse.Cache.Error
import Gatehouse.Table
import Gatehouse.Time.Clock

/-!
The cache of users.

An entry stands under the key of its user's id, holds the user's JSON text, and lives until a moment
of the running clock. A look-up that meets an entry past that moment removes it, in a second step
that looks at the entry once more.
-/

namespace Gatehouse.Cache

/-- The calls that a cache answers. -/
inductive Call where
  | get (id : Int64)
  | set (user : User) (ttl : Duration)
deriving DecidableEq

/-- What a call answers when it succeeds. A user that is not there is no failure. -/
abbrev Call.Answer : Call → Type
  | .get _ => Option User
  | .set _ _ => Unit

/-- The name under which calls are counted. -/
def Call.name : Call → String
  | .get _ => "cache.get"
  | .set _ _ => "cache.set"

/-- The key of a user. -/
def key (id : Int64) : String := "user:" ++ toString id.toInt

/-- A user's text and the moment until which it lives. -/
structure Entry where
  text : Bytes
  expiresAt : Nat
deriving DecidableEq

/-- The data of a cache. -/
abbrev Memory := Table String Entry

/-- What a look-up finds. -/
inductive Found where
  | nothing
  | expired
  | live (text : Bytes)
deriving DecidableEq

namespace Memory

variable (m : Memory)

/-- The first step of a look-up. -/
def lookup (now : Nat) (id : Int64) : Found :=
  match m.find? (key id) with
  | none => .nothing
  | some e => if now < e.expiresAt then .live e.text else .expired

/-- The second step of a look-up that met an expired entry: it is removed, if it still is expired. -/
def evict (now : Nat) (id : Int64) : Memory :=
  match m.find? (key id) with
  | none => m
  | some e => if e.expiresAt ≤ now then m.erase (key id) else m

/-- The user that a text stands for. -/
def readUser (text : Bytes) : Except Error (Option User) :=
  match User.shape.decode text with
  | .ok u => .ok (some u)
  | .error _ => .error (.codec "")

/-- The user with an id, if there is a live entry. -/
def get (now : Nat) (id : Int64) : Except Error (Option User) × Memory :=
  match m.lookup now id with
  | .live text => (readUser text, m)
  | .expired => (.ok none, m.evict now id)
  | .nothing => (.ok none, m)

/-- The entries that are live at a moment. -/
def purge (now : Nat) : Memory := m.filter fun _ e => now < e.expiresAt

/-- Puts a user in for a span, after all expired entries are removed. If the end of the span cannot be
told, nothing is put in. -/
def set (now : Nat) (user : User) (ttl : Duration) : Except Error Unit × Memory :=
  let kept := m.purge now
  match Clock.later? now ttl with
  | some t => (.ok (), kept.insert (key user.id) ⟨User.shape.encode user, t⟩)
  | none => (.ok (), kept)

/-- The answer to a call at a moment, and the data after it. -/
def perform (now : Nat) : (c : Call) → Except Error c.Answer × Memory
  | .get id => m.get now id
  | .set user ttl => m.set now user ttl

end Memory
end Gatehouse.Cache
