import Mathlib.Data.List.Forall2
import Gatehouse.Proofs.Job.Run

/-!
Failures that differ in their details only.

The details of a failure are the text that comes with it and the limit that was not kept. What matters apart
from that is whether another attempt may help.

* `Store.Error.Resembles`, `Cache.Error.Resembles`: failures that differ in their details only.
* `Job.Resembles`: two jobs make the same calls, whatever is answered, and go on in the same way after answers
  that differ in the details of a failure only. What they come to is related.
* `World.Resembles`: two worlds differ in the details of the mishaps to come only.
* `run_resembles`: such jobs in such worlds come to what is related, and leave such worlds.
-/

namespace Gatehouse

/-! ### Failures -/

/-- Two failures of storage that differ in their details only. -/
inductive Store.Error.Resembles : Store.Error → Store.Error → Prop where
  | notFound : Resembles .notFound .notFound
  | conflict (what : String) : Resembles (.conflict what) (.conflict what)
  | timeout (limit limit' : Duration) : Resembles (.timeout limit) (.timeout limit')
  | database {cause cause' : Database.Error} (transient : cause.isTransient = cause'.isTransient) :
    Resembles (.database cause) (.database cause')

/-- Two failures of the cache that differ in their details only. -/
inductive Cache.Error.Resembles : Cache.Error → Cache.Error → Prop where
  | backend (detail detail' : String) : Resembles (.backend detail) (.backend detail')
  | codec (detail detail' : String) : Resembles (.codec detail) (.codec detail')
  | timeout (limit limit' : Duration) : Resembles (.timeout limit) (.timeout limit')

theorem Store.Error.Resembles.refl (e : Store.Error) : e.Resembles e := by
  cases e with
  | notFound => exact .notFound
  | conflict what => exact .conflict what
  | timeout limit => exact .timeout limit limit
  | database cause => exact .database rfl

theorem Cache.Error.Resembles.refl (e : Cache.Error) : e.Resembles e := by
  cases e with
  | backend detail => exact .backend detail detail
  | codec detail => exact .codec detail detail
  | timeout limit => exact .timeout limit limit

/-- Another attempt may help after both or after neither. -/
theorem Store.Error.Resembles.isTransient {e e' : Store.Error} (resembles : e.Resembles e') :
    e.isTransient = e'.isTransient := by
  cases resembles with
  | notFound => rfl
  | conflict what => rfl
  | timeout limit limit' => rfl
  | database transient => exact transient

/-- Two results that are both successes or both failures, and related as such. -/
inductive Both {ε α : Type} (E : ε → ε → Prop) (R : α → α → Prop) : Except ε α → Except ε α → Prop where
  | ok {a a' : α} (related : R a a') : Both E R (.ok a) (.ok a')
  | error {e e' : ε} (related : E e e') : Both E R (.error e) (.error e')

/-- Two failures of a call that differ in their details only. -/
def Effect.Error.Resembles : (e : Effect) → e.Error → e.Error → Prop
  | .store _ => Store.Error.Resembles
  | .cache _ => Cache.Error.Resembles

/-- Two results of a call: the same answer, or failures that differ in their details only. -/
abbrev Effect.Resembles (e : Effect) : e.Result → e.Result → Prop := Both (Effect.Error.Resembles e) Eq

theorem Effect.Resembles.refl (e : Effect) (r : e.Result) : e.Resembles r r := by
  cases r with
  | ok a => exact .ok rfl
  | error failure =>
    cases e with
    | store c => exact .error (Store.Error.Resembles.refl failure)
    | cache c => exact .error (Cache.Error.Resembles.refl failure)

/-! ### Mishaps -/

/-- Two mishaps that differ in the details of a failure only. -/
inductive Mishap.Resembles : Mishap → Mishap → Prop where
  | store {e e' : Store.Error} (related : e.Resembles e') : Resembles (.store e) (.store e')
  | cache {e e' : Cache.Error} (related : e.Resembles e') : Resembles (.cache e) (.cache e')
  | miss : Resembles .miss .miss
  | hang : Resembles .hang .hang
  | delay (d : Duration) : Resembles (.delay d) (.delay d)

namespace Script

/-- The mishaps of a name that are to come. -/
def pending (s : Script) (name : String) : List (Option Mishap) := (s.find? name).getD []

/-- Two scripts that differ in the details of failures only. -/
def Resembles (s s' : Script) : Prop :=
  ∀ name, List.Forall₂ (Option.Rel Mishap.Resembles) (s.pending name) (s'.pending name)

theorem next_eq (s : Script) (name : String) :
    s.pending name = [] ∧ s.next name = (none, s) ∨
    ∃ m ms, s.pending name = m :: ms ∧ s.next name = (m, s.insert name ms) := by
  unfold pending next
  match s.find? name with
  | none => exact .inl ⟨rfl, rfl⟩
  | some [] => exact .inl ⟨rfl, rfl⟩
  | some (m :: ms) => exact .inr ⟨m, ms, rfl, rfl⟩

theorem pending_insert (s : Script) (name name' : String) (ms : List (Option Mishap)) :
    pending (s.insert name ms) name' = if name = name' then ms else s.pending name' := by
  rw [pending, Table.find?_insert]
  split <;> rfl

variable {s s' : Script}

/-- The next mishaps differ in details only, and so do all that follow. -/
theorem Resembles.next (resembles : s.Resembles s') (name : String) :
    Option.Rel Mishap.Resembles (s.next name).1 (s'.next name).1 ∧
      Resembles (s.next name).2 (s'.next name).2 := by
  have here := resembles name
  rcases s.next_eq name with ⟨none, next⟩ | ⟨m, ms, some, next⟩
  · rw [none, List.forall₂_nil_left_iff] at here
    rcases s'.next_eq name with ⟨-, next'⟩ | ⟨m', ms', some', -⟩
    · rw [next, next']
      exact ⟨.none, resembles⟩
    · rw [here] at some'
      cases some'
  · rw [some, List.forall₂_cons_left_iff] at here
    obtain ⟨m', ms', first, rest, some'⟩ := here
    rcases s'.next_eq name with ⟨none, -⟩ | ⟨m'', ms'', same, next'⟩
    · rw [some'] at none
      cases none
    · obtain ⟨rfl, rfl⟩ := List.cons.inj (some'.symm.trans same)
      rw [next, next']
      refine ⟨first, fun name' => ?_⟩
      rw [pending_insert, pending_insert]
      split
      · exact rest
      · exact resembles name'

end Script

/-- Two replies that differ in the details of a failure only. -/
inductive Reply.Resembles (e : Effect) : Reply e → Reply e → Prop where
  | given {r r' : e.Result} (related : e.Resembles r r') : Resembles e (.given r) (.given r')
  | prompt : Resembles e .prompt .prompt
  | late (d : Duration) : Resembles e (.late d) (.late d)
  | never : Resembles e .never .never

theorem Reply.resembles_under {m m' : Option Mishap} (resembles : Option.Rel Mishap.Resembles m m')
    (e : Effect) : Reply.Resembles e (.under m e) (.under m' e) := by
  cases resembles with
  | none => exact .prompt
  | some related =>
    cases e with
    | store c =>
      cases related with
      | store related => exact .given (.error related)
      | cache related => exact .prompt
      | miss => exact .prompt
      | hang => exact .never
      | delay d => exact .late d
    | cache c =>
      cases related with
      | store related => exact .prompt
      | cache related => exact .given (.error related)
      | miss =>
        cases c with
        | get id => exact .given (.ok rfl)
        | set u ttl => exact .prompt
      | hang => exact .never
      | delay d => exact .late d

/-! ### Worlds -/

namespace World

/-- A world with other mishaps to come. -/
def under (w : World) (s : Script) : World := { w with backend := { w.backend with script := s } }

/-- Two worlds that differ in the details of the mishaps to come only. -/
inductive Resembles (w : World) : World → Prop where
  | under {s : Script} (resembles : w.backend.script.Resembles s) : Resembles w (w.under s)

variable {w w' : World}

theorem Resembles.clock (resembles : w.Resembles w') : w'.clock = w.clock := by
  cases resembles with
  | under _ => rfl

theorem Resembles.today (resembles : w.Resembles w') : w'.today = w.today := by
  cases resembles with
  | under _ => rfl

theorem Resembles.store (resembles : w.Resembles w') : w'.backend.store = w.backend.store := by
  cases resembles with
  | under _ => rfl

theorem Resembles.reach (resembles : w.Resembles w') (tick : Nat) :
    (w.reach tick).Resembles (w'.reach tick) := by
  cases resembles with
  | under script => exact .under (w := w.reach tick) script

theorem Resembles.advance (resembles : w.Resembles w') (d : Duration) :
    (w.advance d).Resembles (w'.advance d) := by
  cases resembles with
  | under script => exact .under (w := w.advance d) script

theorem Resembles.giveUp (resembles : w.Resembles w') (deadline : Option Nat) :
    (w.giveUp deadline).Resembles (w'.giveUp deadline) := by
  cases deadline with
  | none => exact resembles
  | some d => exact resembles.reach d

/-- A call that takes effect does the same in both. -/
theorem Resembles.perform (resembles : w.Resembles w') (e : Effect) :
    (w'.perform e).1 = (w.perform e).1 ∧ (w.perform e).2.Resembles (w'.perform e).2 := by
  cases resembles with
  | @under s script =>
    cases e with
    | store c => exact ⟨rfl, .under (w := (w.perform (.store c)).2) script⟩
    | cache c => exact ⟨rfl, .under (w := (w.perform (.cache c)).2) script⟩

/-- A call that is made is met by mishaps that differ in details only. -/
theorem Resembles.dial (resembles : w.Resembles w') (e : Effect) :
    Reply.Resembles e (w.dial e).1 (w'.dial e).1 ∧ (w.dial e).2.Resembles (w'.dial e).2 := by
  cases resembles with
  | @under s script =>
    obtain ⟨mishap, rest⟩ := script.next e.name
    exact ⟨Reply.resembles_under mishap e, .under (w := (w.dial e).2) rest⟩

end World

/-! ### Jobs -/

namespace Job

variable {α β : Type}

/-- Two jobs that make the same calls and go on in the same way, whatever is answered, after answers that
differ in the details of a failure only. What they come to is related. -/
inductive Resembles (R : α → α → Prop) : Job α → Job α → Prop where
  | done {a a' : α} (related : R a a') : Resembles R (.done a) (.done a')
  | call (e : Effect) (limit : Option Duration) {k k' : e.Result → Job α}
    (goes : ∀ r r', e.Resembles r r' → Resembles R (k r) (k' r')) :
    Resembles R (.call e limit k) (.call e limit k')
  | pause (d : Duration) {next next' : Job α} (goes : Resembles R next next') :
    Resembles R (.pause d next) (.pause d next')
  | wall {k k' : Instant → Job α} (goes : ∀ t, Resembles R (k t) (k' t)) :
    Resembles R (.wall k) (.wall k')

variable {R : α → α → Prop}

/-- **Jobs that go on in the same way** from what is related resemble each other. -/
theorem Resembles.bind {S : β → β → Prop} {j j' : Job α} {f f' : α → Job β} (first : Resembles R j j')
    (next : ∀ a a', R a a' → Resembles S (f a) (f' a')) : Resembles S (j.bind f) (j'.bind f') := by
  induction first with
  | done related => exact next _ _ related
  | call e limit goes ih => exact .call e limit ih
  | pause d goes ih => exact .pause d ih
  | wall goes ih => exact .wall ih

/-- A single call of storage. -/
theorem resembles_store (c : Store.Call) :
    Resembles (Both Store.Error.Resembles Eq) (Job.store c) (Job.store c) :=
  .call (.store c) none fun _ _ related => .done related

/-- **Jobs that resemble each other, in worlds that do**, come to what is related, if they are not both given
up, and leave such worlds behind. -/
theorem run_resembles {j j' : Job α} (resembles : Resembles R j j') (deadline : Option Nat) {w w' : World}
    (worlds : w.Resembles w') :
    Option.Rel R (j.run deadline w).1 (j'.run deadline w').1 ∧
      (j.run deadline w).2.Resembles (j'.run deadline w').2 := by
  induction resembles generalizing w w' with
  | done related => exact ⟨.some related, worlds⟩
  | wall goes ih =>
    simp only [run, worlds.today]
    exact ih _ worlds
  | pause d goes ih =>
    simp only [run, worlds.clock]
    split
    · exact ⟨.none, worlds.giveUp deadline⟩
    · exact ih (worlds.reach _)
  | @call e limit k k' goes ih =>
    obtain ⟨replies, dialled⟩ := worlds.dial e
    have arrives {w w' : World} (worlds : w.Resembles w') :
        Option.Rel R ((k (w.perform e).1).run deadline (w.perform e).2).1
            ((k' (w'.perform e).1).run deadline (w'.perform e).2).1 ∧
          ((k (w.perform e).1).run deadline (w.perform e).2).2.Resembles
            ((k' (w'.perform e).1).run deadline (w'.perform e).2).2 := by
      obtain ⟨same, performed⟩ := worlds.perform e
      exact ih _ _ (same ▸ .refl e _) performed
    have waited (wake : Option Wake) :
        Option.Rel R (awaited deadline e limit k (w.dial e).2 wake).1
            (awaited deadline e limit k' (w'.dial e).2 wake).1 ∧
          (awaited deadline e limit k (w.dial e).2 wake).2.Resembles
            (awaited deadline e limit k' (w'.dial e).2 wake).2 := by
      cases wake with
      | none => exact ⟨.none, dialled.giveUp deadline⟩
      | some wake =>
        simp only [awaited]
        split
        · exact ⟨.none, dialled.giveUp deadline⟩
        · cases wake with
          | arrival tick => exact arrives (dialled.reach tick)
          | limit tick => exact ih _ _ (.refl e _) (dialled.reach tick)
    rw [run_call, run_call, dialled.clock]
    generalize (w.dial e).1 = reply at replies
    generalize (w'.dial e).1 = reply' at replies
    cases replies with
    | given related => exact ih _ _ related dialled
    | prompt => exact arrives dialled
    | late d => exact waited _
    | never => exact waited _

end Job
end Gatehouse
