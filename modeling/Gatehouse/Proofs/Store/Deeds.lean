import Gatehouse.Proofs.Store.Accounts

/-!
Runs of a store in memory.

A store is asked by calls, and an account or a post may also be put into it under an id of its own
choice. A run carries such deeds out one after another, each at an instant that need not come after
the last one, and keeps a record of all that was asked and answered.

* `run_concat`: one more deed, one more record.
* `carryOut_accounts`: no deed removes an account.
-/

namespace Gatehouse.Store

/-- What can be asked of a store in memory. -/
inductive Deed where
  | call (c : Call)
  /-- Puts an account under an id of its own choice. -/
  | insertUser (id : Int64) (username role passwordHash : String) (isActive : Bool)
  /-- Puts a post under an id of its own choice. -/
  | insertPost (id userId : Int64) (title : String)

/-- What a deed is answered with. -/
abbrev Deed.Result : Deed → Type
  | .call c => Except Error c.Answer
  | .insertUser .. => Except Error User
  | .insertPost .. => Post

/-- What was asked, when, and how it was answered. -/
structure Record where
  now : Instant
  deed : Deed
  result : deed.Result

namespace Memory

/-- The result of a deed at an instant, and the data after it. -/
def carryOut (m : Memory) (now : Instant) : (d : Deed) → d.Result × Memory
  | .call c => m.perform now c
  | .insertUser id username role passwordHash isActive =>
    m.insertUser now id username role passwordHash isActive
  | .insertPost id userId title => m.insertPost now id userId title

/-- A record and the data after one more deed. -/
def carryOn (s : List Record × Memory) (x : Instant × Deed) : List Record × Memory :=
  (s.1 ++ [⟨x.1, x.2, (s.2.carryOut x.1 x.2).1⟩], (s.2.carryOut x.1 x.2).2)

/-- Deeds carried out in order: the record of all of them, and the data after the last. -/
def run (m : Memory) (script : List (Instant × Deed)) : List Record × Memory :=
  script.foldl carryOn ([], m)

variable (m : Memory)

/-- One more deed, one more record. -/
theorem run_concat (script : List (Instant × Deed)) (x : Instant × Deed) :
    m.run (script ++ [x]) = carryOn (m.run script) x := by
  simp only [run, List.foldl_append, List.foldl_cons, List.foldl_nil]

/-- **No deed removes an account.** -/
theorem carryOut_accounts (now : Instant) (d : Deed) {id : Int64} {c : Credentials}
    (stood : m.accounts.find? id = some c) :
    ∃ c', (m.carryOut now d).2.accounts.find? id = some c' := by
  cases d with
  | call c => exact m.perform_accounts now c stood
  | insertUser k username role passwordHash isActive =>
    simp only [carryOut, insertUser]
    split
    · exact ⟨_, stood⟩
    · exact Table.exists_find?_insert stood ..
  | insertPost k userId title => exact ⟨_, stood⟩

end Memory

end Gatehouse.Store
